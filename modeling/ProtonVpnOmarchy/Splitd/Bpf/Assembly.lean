import ProtonVpnOmarchy.Lib.Simulation
import ProtonVpnOmarchy.Splitd.Bpf.Execution
import ProtonVpnOmarchy.Splitd.Bpf.Listing

/-!
# Assembled code runs as its listing

A listing has a meaning of its own: an item acts on the machine and goes on to the next item, and a
jump that is taken goes to its label, wherever that stands. In the code a label takes no slot, a
load of a map takes two, and a jump only knows a distance.

* `carries_layout` — the code makes the steps of the listing, those over a label apart.
* `assembled_runs` — what the builder returns halts and faults as the listing it was told.
-/

namespace ProtonVpnOmarchy.Splitd.Bpf

open Lib Lib.Outcome

/-! ## The meaning of a listing -/

/-- Whether a jump is taken; `none` if there is no such register. -/
def Condition.holds (m : Machine) : Condition → Option Bool
  | always => some true
  | eqImm register value =>
    if (register &&& 15).toNat < 11 then
      some (m.registers (register &&& 15).toNat = value.signExtend 64)
    else none
  | neImm register value =>
    if (register &&& 15).toNat < 11 then
      some (m.registers (register &&& 15).toNat ≠ value.signExtend 64)
    else none

namespace Listing

/-- The item that sets a label. -/
def index (name : Label) (listing : Listing) : Option ℕ :=
  listing.findIdx? fun item => item.name? = some name

end Listing

/-- What an item of a listing does; the program counter of the machine counts items. -/
def Item.exec (env : Environment) (listing : Listing) (m : Machine) : Item → Outcome Machine
  | plain i => Bpf.exec env i m
  | loadMap dst mapFd =>
    if (dst &&& 15).toNat < 11 then
      .next (m.setRegister (dst &&& 15).toNat (mapFd.signExtend 64)).bump
    else .fault
  | jump condition target =>
    match condition.holds m with
    | none => .fault
    | some false => .next m.bump
    | some true =>
      match listing.index target with
      | some n => .next { m with pc := n }
      | none => .fault
  | label _ => .next m.bump

/-- The step of a machine that executes a listing. -/
def Listing.step (env : Environment) (listing : Listing) (m : Machine) : Outcome Machine :=
  match listing[m.pc]? with
  | none => .fault
  | some item => item.exec env listing m

namespace Listing

/-- The slot of the item with index `n`. -/
def slot (listing : Listing) (n : ℕ) : ℕ := size (listing.take n)

/-- The machine that executes the code, where `m` executes the listing. -/
def layout (listing : Listing) (m : Machine) : Machine := { m with pc := listing.slot m.pc }

end Listing

/-! ## Instructions that go on behind themselves -/

/-- Two machines that differ in their program counters do the same. -/
inductive Along (p q : ℕ) : Outcome Machine → Outcome Machine → Prop
  | next (m : Machine) : Along p q (.next { m with pc := p + 1 }) (.next { m with pc := q + 1 })
  | halt (m : Machine) : Along p q (.halt { m with pc := p }) (.halt { m with pc := q })
  | fault : Along p q .fault .fault

namespace Along

variable {p q : ℕ} {m : Machine}

theorem load {a n : ℕ} {f g : List Byte → Outcome Machine} (h : ∀ bs, Along p q (f bs) (g bs)) :
    Along p q (Machine.load { m with pc := p } a n f) (Machine.load { m with pc := q } a n g) := by
  unfold Machine.load
  split_ifs
  · exact h _
  · exact fault

theorem store {a : ℕ} {bs : List Byte} {f g : Machine → Outcome Machine}
    (h : ∀ m : Machine, Along p q (f { m with pc := p }) (g { m with pc := q })) :
    Along p q (Machine.store { m with pc := p } a bs f)
      (Machine.store { m with pc := q } a bs g) := by
  unfold Machine.store
  split_ifs
  · exact h (m.write a bs)
  · exact fault

theorem answer (found : Option UInt32) :
    Along p q (.next (Machine.answer { m with pc := p } found).bump)
      (.next (Machine.answer { m with pc := q } found).bump) := by
  cases found with
  | none => exact next (m.answer none)
  | some value => exact next (m.answer (some value))

theorem find (map : KernelMap) (a : ℕ) :
    Along p q
      (map.find { m with pc := p } a fun found =>
        .next (Machine.answer { m with pc := p } found).bump)
      (map.find { m with pc := q } a fun found =>
        .next (Machine.answer { m with pc := q } found).bump) := by
  cases map with
  | hash entries =>
      simp only [KernelMap.find]
      refine load (m := m) fun key => ?_
      exact answer _
  | lpm dataBytes trie =>
      simp only [KernelMap.find]
      refine load (m := m) fun len => ?_
      refine load (m := m) fun data => ?_
      exact answer _

theorem callHelper (env : Environment) (helper : BitVec 32) :
    Along p q (callHelper env helper { m with pc := p })
      (callHelper env helper { m with pc := q }) := by
  unfold Bpf.callHelper
  split_ifs
  · exact next _
  · exact next _
  · cases env.maps (m.registers 1) with
    | none => exact fault
    | some map => exact find map _
  · exact store fun m => next _
  · exact load fun value => next _
  · exact fault

end Along

theorem BpfInsn.Straight.code_ne {i : BpfInsn} (h : i.Straight) {code : ℕ}
    (hcode : code ∈ [0x05, 0x15, 0x55, 0x18]) : i.code.toNat ≠ code := by
  intro heq
  have hi : i.code = BitVec.ofNat 8 code := by rw [← heq, BitVec.ofNat_toNat, BitVec.setWidth_eq]
  apply h
  rw [hi]
  fin_cases hcode <;> decide

/-- An instruction that is no jump reads the program counter only to move it behind itself. -/
theorem along_exec {i : BpfInsn} (h : i.Straight) (env : Environment) (m : Machine) (p q : ℕ) :
    Along p q (exec env i { m with pc := p }) (exec env i { m with pc := q }) := by
  unfold exec
  dsimp only
  split_ifs
  · unfold dispatch
    dsimp only
    split
    · exact .next _
    · exact .next _
    · split_ifs
      · exact .next _
      · exact .fault
    · exact .next _
    · exact .load fun bs => .next _
    · exact .load fun bs => .next _
    · exact .store fun m => .next _
    · exact .store fun m => .next _
    · exact .store fun m => .next _
    · exact absurd ‹_› (h.code_ne (by decide))
    · exact absurd ‹_› (h.code_ne (by decide))
    · exact absurd ‹_› (h.code_ne (by decide))
    · exact absurd ‹_› (h.code_ne (by decide))
    · exact .callHelper _ _
    · exact .halt _
    · exact .fault
  · exact .fault

/-! ## The code of a listing, slot by slot -/

namespace Listing

variable {listing : Listing} {item : Item} {n : ℕ}

@[simp] theorem slot_zero : listing.slot 0 = 0 := by
  simp [slot]

@[simp] theorem slot_cons_succ (item : Item) (rest : Listing) (n : ℕ) :
    slot (item :: rest) (n + 1) = item.size + slot rest n := by
  simp [slot]

theorem slot_succ (h : listing[n]? = some item) :
    listing.slot (n + 1) = listing.slot n + item.size := by
  rw [slot, List.take_add_one, size_append, h]
  simp [slot]

@[simp] theorem length_resolveFrom (destination : Label → ℕ) (slot : ℕ) :
    (listing.resolveFrom destination slot).length = listing.size := by
  induction listing generalizing slot with
  | nil => rfl
  | cons item rest ih => simp [resolveFrom, ih]

theorem getElem?_resolveFrom (destination : Label → ℕ) (front : ℕ) (h : listing[n]? = some item)
    {j : ℕ} (hj : j < item.size) :
    (listing.resolveFrom destination front)[listing.slot n + j]? =
      (item.slots fun name =>
        BitVec.ofInt 16 (distance (front + listing.slot n) (destination name)))[j]? := by
  induction listing generalizing front n with
  | nil => simp at h
  | cons first rest ih =>
      cases n with
      | zero =>
          obtain rfl : first = item := by simpa using h
          rw [slot_zero, Nat.zero_add, resolveFrom, List.getElem?_append_left (by simpa using hj),
            Nat.add_zero]
      | succ n =>
          rw [slot_cons_succ, Nat.add_assoc, resolveFrom,
            List.getElem?_append_right (by simp), Item.length_slots, Nat.add_sub_cancel_left,
            ih _ (by simpa using h), Nat.add_assoc]

theorem slot_of_length_le (h : listing.length ≤ n) : listing.slot n = listing.size := by
  rw [slot, List.take_of_length_le h]

/-- A label stands at the slot of its item. -/
theorem position_eq_map_index (name : Label) :
    listing.position name = (listing.index name).map listing.slot := by
  induction listing with
  | nil => rfl
  | cons item rest ih =>
      by_cases hname : item.name? = some name
      · simp [position, index, List.findIdx?_cons, hname]
      · have hslot : slot (item :: rest) ∘ (· + 1) = (item.size + ·) ∘ slot rest := by
          funext n
          simp
        rw [position, if_neg hname, ih]
        simp [index, List.findIdx?_cons, hname, hslot, Option.map_map]

end Listing

/-! ## The simulation -/

/-- The registers as the interpreter takes them from their packed byte. -/
theorem exec_packed (env : Environment) (code dst src : BitVec 8) (off : BitVec 16)
    (imm : BitVec 32) (m : Machine) :
    exec env (.new code dst src off imm) m =
      if (dst &&& 15).toNat < 11 ∧ (src &&& 15).toNat < 11 then
        dispatch env code.toNat (dst &&& 15).toNat (src &&& 15).toNat off imm m
      else .fault := by
  have hdst : (dst &&& 0x0f ||| (src &&& 0x0f) <<< 4) &&& 15 = dst &&& 15 := by
    ext i hi
    interval_cases i <;> simp
  have hsrc : (dst &&& 0x0f ||| (src &&& 0x0f) <<< 4) >>> 4 = src &&& 15 := by
    ext i hi
    interval_cases i <;> simp
  simp only [exec, BpfInsn.new, hdst, hsrc]

theorem exec_loadMap (env : Environment) (dst : BitVec 8) (mapFd : BitVec 32) (m : Machine) :
    exec env (.loadMap dst mapFd) m =
      if (dst &&& 15).toNat < 11 then
        .next (m.setRegister (dst &&& 15).toNat (mapFd.signExtend 64)).bump.bump
      else .fault := by
  have hsrc : (BPF_PSEUDO_MAP_FD &&& 15).toNat < 11 := by decide
  simp only [BpfInsn.loadMap, exec_packed, hsrc, and_true]
  rfl

theorem exec_condition (env : Environment) (condition : Condition) (off : BitVec 16) (m : Machine) :
    exec env (condition.insn off) m =
      match condition.holds m with
      | none => .fault
      | some false => .next m.bump
      | some true => m.goto off := by
  have hsrc : ((0 : BitVec 8) &&& 15).toNat < 11 := by decide
  cases condition with
  | always =>
      simp only [Condition.insn, BpfInsn.jump, exec_packed, hsrc, and_self, if_true]
      rfl
  | eqImm register value =>
      simp only [Condition.insn, BpfInsn.jumpEqImm, exec_packed, hsrc, and_true, Condition.holds]
      split_ifs
      · show (if m.registers (register &&& 15).toNat = value.signExtend 64 then m.goto off
          else .next m.bump) = _
        by_cases hvalue : m.registers (register &&& 15).toNat = value.signExtend 64
        · simp only [hvalue, if_true, decide_true]
        · simp only [hvalue, if_false, decide_false]
      · rfl
  | neImm register value =>
      simp only [Condition.insn, BpfInsn.jumpNeImm, exec_packed, hsrc, and_true, Condition.holds]
      split_ifs
      · show (if m.registers (register &&& 15).toNat ≠ value.signExtend 64 then m.goto off
          else .next m.bump) = _
        by_cases hvalue : m.registers (register &&& 15).toNat = value.signExtend 64
        · simp only [hvalue, ne_eq, not_true_eq_false, if_false, decide_false]
        · simp only [hvalue, ne_eq, not_false_eq_true, if_true, decide_true]
      · rfl

/-- Adding the distance to the slot behind the jump leads to the label. -/
theorem goto_distance {slot destination : ℕ} (m : Machine)
    (h : -32768 ≤ Listing.distance slot destination ∧ Listing.distance slot destination < 32768) :
    Machine.goto { m with pc := slot } (BitVec.ofInt 16 (Listing.distance slot destination)) =
      .next { m with pc := destination } := by
  have hoff : (BitVec.ofInt 16 (Listing.distance slot destination)).toInt =
      Listing.distance slot destination := by
    rw [BitVec.toInt_ofInt]
    exact Int.bmod_eq_of_le h.1 h.2
  have htarget : (slot : ℤ) + Listing.distance slot destination + 1 = destination := by
    unfold Listing.distance
    omega
  simp [Machine.goto, hoff, htarget]

namespace Listing

variable {listing : Listing}

theorem mem_jumps {item : Item} {target : Label} {n : ℕ} (front : ℕ)
    (hitem : listing[n]? = some item) (htarget : item.target? = some target) :
    (front + listing.slot n, target) ∈ listing.jumps front := by
  induction listing generalizing front n with
  | nil => simp at hitem
  | cons first rest ih =>
      cases n with
      | zero =>
          obtain rfl : first = item := by simpa using hitem
          simp [jumps, htarget]
      | succ n =>
          rw [slot_cons_succ, ← Nat.add_assoc]
          exact List.mem_append_right _ (ih _ (by simpa using hitem))

/-- A step of the listing is a step of its code, or one over a label. -/
theorem carries_layout (h : listing.Assembles) (env : Environment) :
    Carries (listing.step env) (Bpf.step env listing.resolve) listing.layout
      (fun m => listing.length - m.pc) := by
  intro m
  unfold Listing.step
  cases hitem : listing[m.pc]? with
  | none =>
      have hslot : listing.slot m.pc = listing.size :=
        slot_of_length_le (List.getElem?_eq_none_iff.mp hitem)
      have hcode : listing.resolve[(listing.layout m).pc]? = none := by
        simp [layout, hslot, resolve]
      simp [Bpf.step, hcode]
  | some item =>
      have hnext := slot_succ hitem
      have hcode : 0 < item.size → listing.resolve[(listing.layout m).pc]? =
          (item.slots fun name => BitVec.ofInt 16
            (distance (listing.slot m.pc) ((listing.position name).getD 0)))[0]? := by
        intro hsize
        have hslot :=
          getElem?_resolveFrom (fun name => (listing.position name).getD 0) 0 hitem hsize
        rwa [Nat.add_zero, Nat.zero_add] at hslot
      cases item with
      | plain i =>
          have hstep : Bpf.step env listing.resolve (listing.layout m) =
              exec env i { m with pc := listing.slot m.pc } :=
            step_of_getElem? (hcode Nat.one_pos)
          have hexec : Item.exec env listing m (.plain i) = exec env i { m with pc := m.pc } := rfl
          dsimp only
          rw [hstep, hexec]
          have halong := along_exec i.2 env m m.pc (listing.slot m.pc)
          generalize exec env i.1 { m with pc := m.pc } = here at halong ⊢
          generalize exec env i.1 { m with pc := listing.slot m.pc } = there at halong ⊢
          rcases halong with next | halt | _
          · left
            simp [layout, hnext, Item.size]
          · rfl
          · rfl
      | loadMap dst mapFd =>
          have hstep : Bpf.step env listing.resolve (listing.layout m) =
              exec env (.loadMap dst mapFd) { m with pc := listing.slot m.pc } :=
            step_of_getElem? (hcode Nat.two_pos)
          rw [hstep, exec_loadMap]
          unfold Item.exec
          dsimp only
          split_ifs
          · left
            simp [layout, Machine.bump, Machine.setRegister, hnext, Item.size]
          · rfl
      | jump condition target =>
          obtain ⟨destination, hposition, hfits⟩ := h.reaches _ (mem_jumps 0 hitem rfl)
          rw [Nat.zero_add] at hfits
          change listing.position target = some destination at hposition
          obtain ⟨n, hindex, hslot⟩ := Option.map_eq_some_iff.mp
            ((position_eq_map_index target).symm.trans hposition)
          have hstep : Bpf.step env listing.resolve (listing.layout m) =
              exec env (condition.insn (BitVec.ofInt 16
                (distance (listing.slot m.pc) ((listing.position target).getD 0))))
                (listing.layout m) :=
            step_of_getElem? (hcode Nat.one_pos)
          have hholds : condition.holds (listing.layout m) = condition.holds m := by
            cases condition <;> rfl
          rw [hstep, hposition, Option.getD_some, exec_condition, hholds]
          unfold Item.exec
          dsimp only
          rcases condition.holds m with _ | _ | _
          · rfl
          · left
            simp [layout, Machine.bump, hnext, Item.size]
          · rw [hindex]
            left
            dsimp only [layout]
            rw [goto_distance m hfits, hslot]
      | label name =>
          right
          have hlt : m.pc < listing.length := (List.getElem?_eq_some_iff.mp hitem).1
          refine ⟨?_, ?_⟩
          · simp [layout, Machine.bump, hnext, Item.size]
          · simp only [Machine.bump]
            omega

end Listing

/-- **What the builder returns** halts where its listing halts, and faults if the listing does. -/
theorem assembled_runs {listing : Listing} {code : List BpfInsn}
    (h : listing.assemble = some code) (env : Environment) (m r : Machine) :
    (Halts (step env code) (listing.layout m) r ↔
      ∃ r', Halts (listing.step env) m r' ∧ listing.layout r' = r) ∧
    (Faults (step env code) (listing.layout m) ↔ Faults (listing.step env) m) := by
  obtain ⟨hassembles, rfl⟩ := assemble_eq_some_iff.mp h
  have hcarries := Listing.carries_layout hassembles env
  exact ⟨hcarries.halts_iff m r, hcarries.faults_iff m⟩

/-- A task without maps, whose lookups fault -/
def withoutMaps : Environment where
  tgid := 0
  pid := 0
  uid := 0
  gid := 0
  maps _ := none

def boot : Machine where
  registers _ := 0
  memory _ := 0
  mark := 0
  pc := 0

theorem assembled_runs_destination : ∃ code,
    (destinationListing 16 17 18 20 true).assemble = some code ∧
      ((Halts (step withoutMaps code) ((destinationListing 16 17 18 20 true).layout boot) boot ↔
        ∃ r', Halts ((destinationListing 16 17 18 20 true).step withoutMaps) boot r' ∧
          (destinationListing 16 17 18 20 true).layout r' = boot) ∧
      (Faults (step withoutMaps code) ((destinationListing 16 17 18 20 true).layout boot) ↔
        Faults ((destinationListing 16 17 18 20 true).step withoutMaps) boot)) := by
  have hcode : (destinationListing 16 17 18 20 true).assemble = some (assembled 16 17 18 20 true) :=
    (destinationMarkProgram_eq_assemble 16 17 18 20 true).symm.trans
      (destinationMarkProgram_eq_assembled 16 17 18 20 true)
  exact ⟨_, hcode, assembled_runs hcode withoutMaps boot boot⟩

end ProtonVpnOmarchy.Splitd.Bpf
