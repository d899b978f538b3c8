import ProtonVpnOmarchy.Lib.LongestPrefix
import ProtonVpnOmarchy.Lib.Stepping
import ProtonVpnOmarchy.Splitd.Bpf.Program

/-!
# The interpreter the marking programs are executed with

`bpf/execution_tests.rs` runs the emitted programs on an interpreter of its own; `step` is that
interpreter, with the test's fixed answers replaced by arbitrary ones: the task's ids are those of
an `Environment`, a lookup reads its key from memory and asks the kernel map behind the file
descriptor in `r1`. A panic of the interpreter (running off the program, memory or registers out
of bounds, an unknown map, helper or opcode) is a `fault`.

Then, for every later proof: `exec_new` decodes an instruction, the `answer_*` lemmas say what a
lookup leaves behind, and `iterate_block` says that a block of instructions runs the same wherever
it stands in a program.
-/

namespace ProtonVpnOmarchy.Splitd.Bpf

open Std (ExtTreeMap)
open Lib Lib.Outcome

/-! ## The interpreter -/

/-- A kernel map behind a file descriptor: a hash map with 4-byte keys, or a longest-prefix trie
whose keys carry `dataBytes` bytes after the prefix length. -/
inductive KernelMap where
  | hash (entries : ExtTreeMap UInt32 UInt32)
  | lpm (dataBytes : ℕ) (trie : LpmTrie UInt32)

/-- The task that opens the connection, and the maps its program can reach. -/
structure Environment where
  tgid : UInt32
  pid : UInt32
  uid : UInt32
  gid : UInt32
  maps : BitVec 64 → Option KernelMap

/-- Registers, memory and the mark of the socket. -/
structure Machine where
  registers : ℕ → BitVec 64
  memory : Memory
  mark : BitVec 32
  pc : ℕ

namespace Machine

def bump (m : Machine) : Machine := { m with pc := m.pc + 1 }

def setRegister (m : Machine) (r : ℕ) (v : BitVec 64) : Machine :=
  { m with registers := Function.update m.registers r v }

def write (m : Machine) (a : ℕ) (bs : List Byte) : Machine :=
  { m with memory := m.memory.write a bs }

def setMark (m : Machine) (mark : BitVec 32) : Machine := { m with mark := mark }

/-- A taken jump: `pc += off`, then the `pc += 1` of every instruction. -/
def goto (m : Machine) (off : BitVec 16) : Outcome Machine :=
  let target := (m.pc : ℤ) + off.toInt + 1
  if 0 ≤ target then .next { m with pc := target.toNat } else .fault

/-- `memory[a..a + n]`; the interpreter's memory has 4096 bytes. -/
def load (m : Machine) (a n : ℕ) (k : List Byte → Outcome Machine) : Outcome Machine :=
  if a + n ≤ 4096 then k (m.memory.slice a n) else .fault

/-- `memory[a..a + bs.len()].copy_from_slice(bs)` -/
def store (m : Machine) (a : ℕ) (bs : List Byte) (k : Machine → Outcome Machine) :
    Outcome Machine :=
  if a + bs.length ≤ 4096 then k (m.write a bs) else .fault

/-- The result of a map lookup: a null pointer, or a pointer to the value, which the interpreter
keeps at address 2048. -/
def answer (m : Machine) : Option UInt32 → Machine
  | none => m.setRegister 0 0
  | some value => (m.write 2048 (leBytes 4 value.toNat)).setRegister 0 2048

end Machine

/-- The entry a map holds for the key at address `p`. -/
def KernelMap.find (map : KernelMap) (m : Machine) (p : ℕ)
    (k : Option UInt32 → Outcome Machine) : Outcome Machine :=
  match map with
  | .hash entries => m.load p 4 fun key => k entries[UInt32.ofNat (ofLeBytes key)]?
  | .lpm dataBytes trie => m.load p 4 fun len => m.load (p + 4) dataBytes fun data =>
      k (trie.lookup ((bits data).take (ofLeBytes len)))

/-- The helper calls; an unknown helper or an unknown map is a panic of the interpreter. -/
def callHelper (env : Environment) (helper : BitVec 32) (m : Machine) : Outcome Machine :=
  if helper = BPF_FUNC_GET_CURRENT_PID_TGID then
    .next (m.setRegister 0 (env.tgid.toBitVec ++ env.pid.toBitVec)).bump
  else if helper = BPF_FUNC_GET_CURRENT_UID_GID then
    .next (m.setRegister 0 (env.gid.toBitVec ++ env.uid.toBitVec)).bump
  else if helper = BPF_FUNC_MAP_LOOKUP_ELEM then
    match env.maps (m.registers 1) with
    | none => .fault
    | some map => map.find m (m.registers 2).toNat fun found => .next (m.answer found).bump
  else if helper = BPF_FUNC_GETSOCKOPT then
    m.store (m.registers 4).toNat (leBytes 4 m.mark.toNat) fun m => .next (m.setRegister 0 0).bump
  else if helper = BPF_FUNC_SETSOCKOPT then
    m.load (m.registers 4).toNat 4 fun value =>
      .next ((m.setMark (BitVec.ofNat 32 (ofLeBytes value))).setRegister 0 0).bump
  else .fault

/-- The effect of an instruction with opcode `code` and registers `dst` and `src`.
Source: `bpf/execution_tests.rs` `execute_destination` -/
def dispatch (env : Environment) (code dst src : ℕ) (off : BitVec 16) (imm : BitVec 32)
    (m : Machine) : Outcome Machine :=
  let address := (m.registers dst + off.signExtend 64).toNat
  let sourceAddress := (m.registers src + off.signExtend 64).toNat
  match code with
  | 0xbf => .next (m.setRegister dst (m.registers src)).bump
  | 0xb7 => .next (m.setRegister dst (imm.signExtend 64)).bump
  | 0x77 =>
    if imm.toNat < 64 then .next (m.setRegister dst (m.registers dst >>> imm.toNat)).bump
    else .fault
  | 0x07 => .next (m.setRegister dst (m.registers dst + imm.signExtend 64)).bump
  | 0x61 => m.load sourceAddress 4 fun bs =>
      .next (m.setRegister dst (BitVec.ofNat 64 (ofLeBytes bs))).bump
  | 0x79 => m.load sourceAddress 8 fun bs =>
      .next (m.setRegister dst (BitVec.ofNat 64 (ofLeBytes bs))).bump
  | 0x62 => m.store address (leBytes 4 imm.toNat) fun m => .next m.bump
  | 0x63 => m.store address (leBytes 4 ((m.registers src).setWidth 32).toNat) fun m => .next m.bump
  | 0x7b => m.store address (leBytes 8 (m.registers src).toNat) fun m => .next m.bump
  | 0x18 => .next (m.setRegister dst (imm.signExtend 64)).bump.bump
  | 0x15 => if m.registers dst = imm.signExtend 64 then m.goto off else .next m.bump
  | 0x55 => if m.registers dst ≠ imm.signExtend 64 then m.goto off else .next m.bump
  | 0x05 => m.goto off
  | 0x85 => callHelper env imm m
  | 0x95 => .halt m
  | _ => .fault

/-- Decode and execute one instruction; there are eleven registers. -/
def exec (env : Environment) (i : BpfInsn) (m : Machine) : Outcome Machine :=
  let dst := (i.registers &&& 15).toNat
  let src := (i.registers >>> 4).toNat
  if dst < 11 ∧ src < 11 then dispatch env i.code.toNat dst src i.off i.imm m else .fault

/-- Fetch and execute; running off the program is a fault. -/
def step (env : Environment) (code : List BpfInsn) (m : Machine) : Outcome Machine :=
  match code[m.pc]? with
  | none => .fault
  | some i => exec env i m

/-! ## What each instruction does -/

namespace Machine

variable (m : Machine) (r : ℕ) (v : BitVec 64) (a : ℕ) (bs : List Byte) (mark : BitVec 32)

@[simp] theorem bump_registers : m.bump.registers = m.registers := rfl
@[simp] theorem bump_memory : m.bump.memory = m.memory := rfl
@[simp] theorem bump_mark : m.bump.mark = m.mark := rfl
@[simp] theorem bump_pc : m.bump.pc = m.pc + 1 := rfl

@[simp] theorem setRegister_registers (r' : ℕ) :
    (m.setRegister r v).registers r' = if r' = r then v else m.registers r' := by
  simp [setRegister, Function.update_apply]

@[simp] theorem setRegister_memory : (m.setRegister r v).memory = m.memory := rfl
@[simp] theorem setRegister_mark : (m.setRegister r v).mark = m.mark := rfl
@[simp] theorem setRegister_pc : (m.setRegister r v).pc = m.pc := rfl

@[simp] theorem write_registers : (m.write a bs).registers = m.registers := rfl
@[simp] theorem write_memory : (m.write a bs).memory = m.memory.write a bs := rfl
@[simp] theorem write_mark : (m.write a bs).mark = m.mark := rfl
@[simp] theorem write_pc : (m.write a bs).pc = m.pc := rfl

@[simp] theorem setMark_registers : (m.setMark mark).registers = m.registers := rfl
@[simp] theorem setMark_memory : (m.setMark mark).memory = m.memory := rfl
@[simp] theorem setMark_mark : (m.setMark mark).mark = mark := rfl
@[simp] theorem setMark_pc : (m.setMark mark).pc = m.pc := rfl

theorem answer_registers_zero (found : Option UInt32) :
    (m.answer found).registers 0 = if found.isSome then 2048 else 0 := by
  cases found <;> simp [answer]

theorem answer_registers_of_ne (found : Option UInt32) {r : ℕ} (hr : r ≠ 0) :
    (m.answer found).registers r = m.registers r := by
  cases found <;> simp [answer, hr]

@[simp] theorem answer_mark (found : Option UInt32) : (m.answer found).mark = m.mark := by
  cases found <;> rfl

@[simp] theorem answer_pc (found : Option UInt32) : (m.answer found).pc = m.pc := by
  cases found <;> rfl

/-- A lookup leaves the stack and the context alone. -/
theorem answer_slice (found : Option UInt32) {a n : ℕ} (h : a + n ≤ 2048) :
    (m.answer found).memory.slice a n = m.memory.slice a n := by
  cases found with
  | none => rfl
  | some value => simp [answer, Memory.slice_write_of_disjoint _ (Or.inl h)]

end Machine

/-- The two register numbers are recovered from their packed byte. -/
theorem exec_new (env : Environment) (code : BitVec 8) {dst src : BitVec 8} (off : BitVec 16)
    (imm : BitVec 32) (m : Machine) (hd : dst.toNat < 11) (hs : src.toNat < 11) :
    exec env (.new code dst src off imm) m =
      dispatch env code.toNat dst.toNat src.toNat off imm m := by
  have table : ∀ d s : Fin 11,
      (((BitVec.ofNat 8 d &&& 0x0f) ||| ((BitVec.ofNat 8 s &&& 0x0f) <<< 4)) &&& 15).toNat = d ∧
        (((BitVec.ofNat 8 d &&& 0x0f) ||| ((BitVec.ofNat 8 s &&& 0x0f) <<< 4)) >>> 4).toNat = s := by
    decide
  obtain ⟨h₁, h₂⟩ := table ⟨dst.toNat, hd⟩ ⟨src.toNat, hs⟩
  simp only [BitVec.ofNat_toNat, BitVec.setWidth_eq] at h₁ h₂
  simp only [exec, BpfInsn.new, h₁, h₂, hd, hs, and_self, if_true]

theorem step_of_getElem? {env : Environment} {code : List BpfInsn} {m : Machine} {i : BpfInsn}
    (h : code[m.pc]? = some i) : step env code m = exec env i m := by
  simp [step, h]

/-! ## Blocks run the same wherever they stand -/

namespace Machine

/-- The same machine at a program counter `k` slots later. -/
def shift (k : ℕ) (m : Machine) : Machine := { m with pc := k + m.pc }

variable (k : ℕ) (m : Machine)

theorem bump_shift : (m.shift k).bump = m.bump.shift k := by
  simp [shift, bump, Nat.add_assoc]

theorem answer_shift (found : Option UInt32) : (m.shift k).answer found = (m.answer found).shift k := by
  cases found <;> rfl

theorem goto_shift {off : BitVec 16} {m' : Machine} (h : m.goto off = .next m') :
    (m.shift k).goto off = .next (m'.shift k) := by
  simp only [goto] at h ⊢
  split at h
  · rename_i hle
    obtain rfl := Outcome.next.inj h
    have hle' : 0 ≤ ((m.shift k).pc : ℤ) + off.toInt + 1 := by simp only [shift]; push_cast; omega
    rw [if_pos hle']
    simp only [shift, Outcome.next.injEq, mk.injEq, true_and]
    push_cast
    omega
  · cases h

variable {k m}

theorem load_shift {a n : ℕ} {f g : List Byte → Outcome Machine} {m' : Machine}
    (hfg : ∀ bs, f bs = .next m' → g bs = .next (m'.shift k)) (h : m.load a n f = .next m') :
    (m.shift k).load a n g = .next (m'.shift k) := by
  unfold load at h ⊢
  split_ifs at h ⊢
  exact hfg _ h

theorem store_shift {a : ℕ} {bs : List Byte} {f g : Machine → Outcome Machine} {m' : Machine}
    (hfg : ∀ m, f m = .next m' → g (m.shift k) = .next (m'.shift k))
    (h : m.store a bs f = .next m') : (m.shift k).store a bs g = .next (m'.shift k) := by
  unfold store at h ⊢
  split_ifs at h ⊢
  exact hfg _ h

theorem next_bump_shift {m' : Machine} (h : Outcome.next m.bump = .next m') :
    Outcome.next (m.shift k).bump = .next (m'.shift k) := by
  obtain rfl := Outcome.next.inj h
  rw [bump_shift]

end Machine

open Machine

theorem find_shift {map : KernelMap} {k p : ℕ} {m m' : Machine}
    (h : map.find m p (fun found => .next (m.answer found).bump) = .next m') :
    map.find (m.shift k) p (fun found => .next ((m.shift k).answer found).bump) =
      .next (m'.shift k) := by
  simp only [answer_shift]
  cases map with
  | hash entries =>
      simp only [KernelMap.find] at h ⊢
      exact load_shift (fun key => next_bump_shift) h
  | lpm dataBytes trie =>
      simp only [KernelMap.find] at h ⊢
      refine load_shift (fun len hlen => ?_) h
      exact load_shift (fun data => next_bump_shift) hlen

theorem callHelper_shift {env : Environment} {helper : BitVec 32} {m m' : Machine} (k : ℕ)
    (h : callHelper env helper m = .next m') :
    callHelper env helper (m.shift k) = .next (m'.shift k) := by
  unfold callHelper at h ⊢
  split_ifs at h ⊢
  · exact next_bump_shift h
  · exact next_bump_shift h
  · change (match env.maps (m.registers 1) with
      | none => Outcome.fault
      | some map => _) = _
    cases hmap : env.maps (m.registers 1) with
    | none => simp [hmap] at h
    | some map =>
        simp only [hmap] at h ⊢
        exact find_shift h
  · exact store_shift (fun _ => next_bump_shift) h
  · exact load_shift (fun _ => next_bump_shift) h

/-- Execution reads the program counter only to move it. -/
theorem dispatch_shift {env : Environment} {code dst src : ℕ} {off : BitVec 16} {imm : BitVec 32}
    {m m' : Machine} (k : ℕ) (h : dispatch env code dst src off imm m = .next m') :
    dispatch env code dst src off imm (m.shift k) = .next (m'.shift k) := by
  unfold dispatch at h ⊢
  simp only at h ⊢
  split at h
  · exact next_bump_shift h
  · exact next_bump_shift h
  · split_ifs at h ⊢
    exact next_bump_shift h
  · exact next_bump_shift h
  · exact load_shift (fun _ => next_bump_shift) h
  · exact load_shift (fun _ => next_bump_shift) h
  · exact store_shift (fun _ => next_bump_shift) h
  · exact store_shift (fun _ => next_bump_shift) h
  · exact store_shift (fun _ => next_bump_shift) h
  · exact next_bump_shift (m := Machine.bump _) h
  · change (if m.registers dst = _ then _ else _) = _
    split_ifs at h ⊢
    · exact goto_shift k m h
    · exact next_bump_shift h
  · change (if m.registers dst ≠ _ then _ else _) = _
    split_ifs at h ⊢
    · exact goto_shift k m h
    · exact next_bump_shift h
  · exact goto_shift k m h
  · exact callHelper_shift k h
  · cases h
  · cases h


/-- A block runs the same wherever it stands in a program. -/
theorem iterate_block {env : Environment} (front block back : List BpfInsn) {n : ℕ}
    {m m' : Machine} (h : iterate (step env block) n m = some m') :
    iterate (step env (front ++ (block ++ back))) n (m.shift front.length) =
      some (m'.shift front.length) := by
  apply iterate_map (Machine.shift front.length) _ h
  intro s s' hs
  unfold step at hs
  cases hi : block[s.pc]? with
  | none => simp [hi] at hs
  | some i =>
      have hlt : s.pc < block.length := (List.getElem?_eq_some_iff.mp hi).1
      have hfetch : (front ++ (block ++ back))[(s.shift front.length).pc]? = some i := by
        rw [shift, List.getElem?_append_right (Nat.le_add_right _ _), Nat.add_sub_cancel_left,
          List.getElem?_append_left hlt, hi]
      simp only [hi] at hs
      rw [step_of_getElem? hfetch]
      unfold exec at hs ⊢
      simp only at hs ⊢
      split_ifs at hs ⊢
      exact dispatch_shift _ hs

end ProtonVpnOmarchy.Splitd.Bpf
