import ProtonVpnOmarchy.Splitd.Bpf.Program

/-!
# Listings of the builder

A listing is what a program tells `ProgramBuilder`: instructions, jumps to labels and labels. The
builder emits the instructions in this order and `finish` writes into each jump its distance to the
label.

* `resolve` — the code of a listing, with every distance computed from the sizes of its items.
* `assemble_eq_some_iff` — the builder returns this code or panics.
* `assemble_isSome_iff` — it panics on the listings with a label twice, a jump to a label that is
  missing, or a jump that is too far for an `i16`.
* `socketMarkProgram_eq_assemble`, `destinationMarkProgram_eq_assemble` — the programs that the
  source loads are built from listings.
-/

namespace ProtonVpnOmarchy.Splitd.Bpf

/-! ## Listings -/

/-- The instruction is no jump, and takes one slot. -/
def BpfInsn.Straight (i : BpfInsn) : Prop := i.code ∉ [(0x05 : BitVec 8), 0x15, 0x55, 0x18]

instance (i : BpfInsn) : Decidable i.Straight := inferInstanceAs (Decidable (_ ∉ _))

/-- When a jump is taken. -/
inductive Condition where
  | always
  | eqImm (register : BitVec 8) (value : BitVec 32)
  | neImm (register : BitVec 8) (value : BitVec 32)
  deriving DecidableEq

/-- What is told to the builder. -/
inductive Item where
  | plain (i : {i : BpfInsn // i.Straight})
  | loadMap (dst : BitVec 8) (mapFd : BitVec 32)
  | jump (condition : Condition) (target : Label)
  | label (name : Label)
  deriving DecidableEq

def Condition.insn : Condition → BitVec 16 → BpfInsn
  | always => .jump
  | eqImm register value => .jumpEqImm register value
  | neImm register value => .jumpNeImm register value

namespace Item

/-- The call of the builder. -/
def emit : Item → Build Unit
  | plain i => ProgramBuilder.emit i
  | loadMap dst mapFd => ProgramBuilder.loadMap dst mapFd
  | jump .always target => ProgramBuilder.jump target
  | jump (.eqImm register value) target => ProgramBuilder.jumpEqImm register value target
  | jump (.neImm register value) target => ProgramBuilder.jumpNeImm register value target
  | label name => ProgramBuilder.label name

/-- The slots of an item whose jump has the distance `off`. -/
def slots (off : Label → BitVec 16) : Item → List BpfInsn
  | plain i => [i]
  | loadMap dst mapFd => [.loadMap dst mapFd, .loadMapTail]
  | jump condition target => [condition.insn (off target)]
  | label _ => []

def size : Item → ℕ
  | plain _ | jump _ _ => 1
  | loadMap _ _ => 2
  | label _ => 0

def target? : Item → Option Label
  | jump _ target => some target
  | _ => none

def name? : Item → Option Label
  | label name => some name
  | _ => none

@[simp] theorem length_slots (off : Label → BitVec 16) (item : Item) :
    (item.slots off).length = item.size := by
  cases item <;> rfl

end Item

abbrev Listing := List Item

namespace Listing

/-- The calls of the builder, in order. -/
def emit (listing : Listing) : Build Unit := listing.forM Item.emit

/-- Source: `bpf.rs` `ProgramBuilder`, from its default to `finish` -/
def assemble (listing : Listing) : Option (List BpfInsn) := ProgramBuilder.build listing.emit

/-- The number of slots. -/
def size (listing : Listing) : ℕ := (listing.map Item.size).sum

/-- The labels that are set. -/
def names (listing : Listing) : List Label := listing.filterMap Item.name?

/-- The slot at which a label stands. -/
def position (name : Label) : Listing → Option ℕ
  | [] => none
  | item :: rest =>
    if item.name? = some name then some 0 else (position name rest).map (item.size + ·)

/-- The jumps with their slots, if the listing stands at `slot`. -/
def jumps (slot : ℕ) : Listing → List (ℕ × Label)
  | [] => []
  | item :: rest => (item.target?.map (slot, ·)).toList ++ jumps (slot + item.size) rest

/-- The distance of a jump. -/
def distance (slot destination : ℕ) : ℤ := (destination : ℤ) - slot - 1

/-- The code of the listing at `slot`, if the labels stand at `destination`. -/
def resolveFrom (destination : Label → ℕ) (slot : ℕ) : Listing → List BpfInsn
  | [] => []
  | item :: rest =>
    item.slots (fun name => BitVec.ofInt 16 (distance slot (destination name))) ++
      resolveFrom destination (slot + item.size) rest

/-- The code of a listing. -/
def resolve (listing : Listing) : List BpfInsn :=
  listing.resolveFrom (fun name => (listing.position name).getD 0) 0

/-- The label of the jump is set, and so near that an `i16` holds the distance. -/
def Reaches (labels : Label → Option ℕ) (jump : ℕ × Label) : Prop :=
  ∃ destination, labels jump.2 = some destination ∧
    -32768 ≤ distance jump.1 destination ∧ distance jump.1 destination < 32768

/-- No label is set twice, and each jump reaches its label. -/
structure Assembles (listing : Listing) : Prop where
  distinct : listing.names.Nodup
  reaches : ∀ jump ∈ listing.jumps 0, Reaches (fun name => listing.position name) jump

section simpSet

variable (item : Item) (rest : Listing)

@[simp] theorem size_nil : size [] = 0 := rfl

@[simp] theorem size_cons : size (item :: rest) = item.size + size rest := by
  simp [size]

theorem size_append (front back : Listing) : size (front ++ back) = size front + size back := by
  simp [size]

theorem names_cons : names (item :: rest) = item.name?.toList ++ names rest := by
  unfold names
  rw [List.filterMap_cons]
  cases item.name? <;> rfl

@[simp] theorem position_eq_none {name : Label} {listing : Listing} :
    listing.position name = none ↔ name ∉ listing.names := by
  induction listing with
  | nil => simp [position, names]
  | cons item rest ih =>
      rw [position, names_cons]
      split_ifs with hname
      · simp [hname]
      · simp only [Option.map_eq_none_iff, ih, List.mem_append, Option.mem_toList, not_or,
          hname, not_false_eq_true, true_and]

end simpSet

end Listing

/-! ## What the builder does with a listing -/

namespace ProgramBuilder

/-- The builder after a listing. -/
def emitted (b : ProgramBuilder) (listing : Listing) : ProgramBuilder where
  instructions := b.instructions ++ listing.flatMap (Item.slots fun _ => 0)
  labels := fun name => ((listing.position name).map (b.instructions.length + ·)).or (b.labels name)
  fixups := b.fixups ++ listing.jumps b.instructions.length

theorem emitted_nil (b : ProgramBuilder) : b.emitted [] = b := by
  simp [emitted, Listing.position, Listing.jumps]

theorem emitted_cons (b : ProgramBuilder) {item : Item} {rest : Listing}
    (h : ∀ name, item.name? = some name → name ∉ rest.names) :
    (b.emitted [item]).emitted rest = b.emitted (item :: rest) := by
  unfold emitted
  congr 1
  · simp
  · funext name
    by_cases hname : item.name? = some name
    · have hrest : Listing.position name rest = none := Listing.position_eq_none.mpr (h name hname)
      simp [Listing.position, hname, hrest]
    · cases hrest : Listing.position name rest with
      | none => simp [Listing.position, hname, hrest]
      | some slot => simp [Listing.position, hname, hrest, Nat.add_assoc]
  · simp [Listing.jumps]

/-- The builder panics at a label that is set already. -/
theorem run_emit_item (item : Item) (b : ProgramBuilder) :
    item.emit.run b =
      if ∀ name, item.name? = some name → b.labels name = none then some ((), b.emitted [item])
      else none := by
  cases item with
  | plain i =>
      simp [Item.emit, run_emit, Item.name?, emitted, Item.slots, Listing.position, Listing.jumps,
        Item.target?]
  | loadMap dst mapFd =>
      simp [Item.emit, loadMap, run_emit, Item.name?, emitted, Item.slots, Listing.position,
        Listing.jumps, Item.target?]
  | jump condition target =>
      cases condition
      all_goals simp [Item.emit, jump, jumpEqImm, jumpNeImm, emitFixup, run_emit, Item.name?,
        emitted, Item.slots, Listing.position, Listing.jumps, Item.target?, Condition.insn]
  | label name =>
      have hrun := run_label_bind name pure b
      rw [bind_pure] at hrun
      have hlabels : (fun l => if l = name then some b.instructions.length else b.labels l) =
          fun l => ((Listing.position l [.label name]).map (b.instructions.length + ·)).or
            (b.labels l) := by
        funext l
        by_cases hl : l = name
        · simp [hl, Listing.position, Item.name?]
        · simp [hl, Ne.symm hl, Listing.position, Item.name?]
      cases hb : b.labels name with
      | none => simp [Item.emit, hrun, hb, Item.name?, emitted, hlabels, Item.slots, Listing.jumps,
          Item.target?]
      | some slot => simp [Item.emit, hrun, hb, Item.name?]

/-- What the builder is after a listing, if it does not panic. -/
theorem run_emit_eq_some_iff {listing : Listing} {b : ProgramBuilder}
    {result : Unit × ProgramBuilder} : listing.emit.run b = some result ↔
      (listing.names.Nodup ∧ ∀ name ∈ listing.names, b.labels name = none) ∧
        result = ((), b.emitted listing) := by
  induction listing generalizing b with
  | nil => simp [Listing.emit, Listing.names, emitted_nil, eq_comm]
  | cons item rest ih =>
      have hrun : (Listing.emit (item :: rest)).run b =
          (item.emit.run b).bind fun result => (Listing.emit rest).run result.2 := rfl
      rw [hrun, run_emit_item, Listing.names_cons, Option.bind_eq_some_iff]
      cases hitem : item.name? with
      | none =>
          have hsame : (b.emitted [item]).labels = b.labels := by
            simp [emitted, Listing.position, hitem]
          have hcons : (b.emitted [item]).emitted rest = b.emitted (item :: rest) :=
            b.emitted_cons (by simp [hitem])
          simp [ih, hsame, hcons]
      | some name =>
          have hset : ∀ l, (b.emitted [item]).labels l = none ↔ name ≠ l ∧ b.labels l = none := by
            intro l
            by_cases hl : name = l
            · simp [emitted, Listing.position, hitem, hl]
            · simp [emitted, Listing.position, hitem, hl]
          have hfree : (∀ l ∈ Listing.names rest, (b.emitted [item]).labels l = none) ↔
              name ∉ Listing.names rest ∧ ∀ l ∈ Listing.names rest, b.labels l = none := by
            simp only [hset]
            exact ⟨fun h => ⟨fun hmem => (h name hmem).1 rfl, fun l hl => (h l hl).2⟩,
              fun h l hl => ⟨fun heq => h.1 (heq ▸ hl), h.2 l hl⟩⟩
          by_cases hmem : name ∈ Listing.names rest
          · simp [ih, hfree, hmem]
          · have hcons : (b.emitted [item]).emitted rest = b.emitted (item :: rest) :=
              b.emitted_cons (by simp [hitem, hmem])
            by_cases hname : b.labels name = none
            · simp [ih, hfree, hmem, hcons, hname]
            · simp [hname]

/-- What `finish` does with one fixup. -/
def patch (labels : Label → Option ℕ) (code : List BpfInsn) (fixup : ℕ × Label) :
    Option (List BpfInsn) := do
  let destination ← labels fixup.2
  let off ← i16OfInt (Listing.distance fixup.1 destination)
  let instruction ← code[fixup.1]?
  pure (code.set fixup.1 { instruction with off := off })

theorem finish_eq (b : ProgramBuilder) :
    b.finish = b.fixups.foldlM (patch b.labels) b.instructions := rfl

theorem patch_eq_some_iff {labels : Label → Option ℕ} {front back code : List BpfInsn}
    {condition : Condition} {target : Label} :
    patch labels (front ++ condition.insn 0 :: back) (front.length, target) = some code ↔
      ∃ destination, (labels target = some destination ∧
        -32768 ≤ Listing.distance front.length destination ∧
          Listing.distance front.length destination < 32768) ∧
        code = front ++ condition.insn
          (BitVec.ofInt 16 (Listing.distance front.length destination)) :: back := by
  have hpatch : ∀ off, { condition.insn 0 with off := off } = condition.insn off := by
    intro off
    cases condition <;> rfl
  simp only [patch, Option.bind_eq_bind, Option.bind_eq_some_iff, i16OfInt,
    Option.ite_none_right_eq_some, Option.some.injEq, List.getElem?_append_right le_rfl,
    Nat.sub_self, List.getElem?_cons_zero, Option.pure_def, List.set_append_right _ _ le_rfl,
    List.set_cons_zero]
  constructor
  · rintro ⟨destination, hdestination, off, ⟨hfits, rfl⟩, i, rfl, rfl⟩
    exact ⟨destination, ⟨hdestination, hfits⟩, by rw [hpatch]⟩
  · rintro ⟨destination, ⟨hdestination, hfits⟩, rfl⟩
    exact ⟨destination, hdestination, _, ⟨hfits, rfl⟩, _, rfl, by rw [hpatch]⟩

/-- `finish` writes the distances into the listing that stands behind `front`. -/
theorem foldlM_patch_eq_some_iff {labels : Label → Option ℕ} {listing : Listing}
    (front : List BpfInsn) {code : List BpfInsn} :
    (listing.jumps front.length).foldlM (patch labels)
        (front ++ listing.flatMap (Item.slots fun _ => 0)) = some code ↔
      (∀ jump ∈ listing.jumps front.length, Listing.Reaches labels jump) ∧
      code = front ++ listing.resolveFrom (fun name => (labels name).getD 0) front.length := by
  induction listing generalizing front with
  | nil => simp [Listing.jumps, Listing.resolveFrom, eq_comm]
  | cons item rest ih =>
      cases htarget : item.target? with
      | none =>
          have hslots : ∀ off, item.slots off = item.slots fun _ => 0 := by
            intro off
            cases item with
            | jump condition target => cases htarget
            | _ => rfl
          have := ih (front ++ item.slots fun _ => 0)
          simp only [List.length_append, Item.length_slots] at this
          simp only [Listing.jumps, htarget, Option.map_none, Option.toList_none, List.nil_append,
            List.flatMap_cons, ← List.append_assoc, this, Listing.resolveFrom]
          rw [hslots fun name => BitVec.ofInt 16 _]
      | some target =>
          cases item with
          | jump condition name =>
              obtain rfl : name = target := Option.some.inj htarget
              have hjumps : Listing.jumps front.length (.jump condition name :: rest) =
                  (front.length, name) :: Listing.jumps (front.length + 1) rest := rfl
              have hcode : front ++ (Item.jump condition name :: rest).flatMap
                    (Item.slots fun _ => 0) =
                  front ++ condition.insn 0 :: rest.flatMap (Item.slots fun _ => 0) := rfl
              rw [hjumps, hcode, List.foldlM_cons, Option.bind_eq_bind, Option.bind_eq_some_iff,
                List.forall_mem_cons]
              simp only [patch_eq_some_iff]
              have hrest : ∀ {destination}, labels name = some destination →
                  ((Listing.jumps (front.length + 1) rest).foldlM (patch labels) (front ++
                    condition.insn (BitVec.ofInt 16 (Listing.distance front.length destination)) ::
                      rest.flatMap (Item.slots fun _ => 0)) = some code ↔
                    (∀ jump ∈ Listing.jumps (front.length + 1) rest,
                      Listing.Reaches labels jump) ∧
                    code = front ++ condition.insn
                      (BitVec.ofInt 16 (Listing.distance front.length destination)) ::
                        Listing.resolveFrom (fun name => (labels name).getD 0) (front.length + 1)
                          rest) := by
                intro destination hlabel
                have := ih (front ++ [condition.insn
                  (BitVec.ofInt 16 (Listing.distance front.length destination))])
                simpa only [List.length_append, List.length_singleton, List.append_assoc,
                  List.singleton_append] using this
              constructor
              · rintro ⟨_, ⟨destination, ⟨hlabel, hfits⟩, rfl⟩, hcode⟩
                obtain ⟨hreaches, rfl⟩ := (hrest hlabel).mp hcode
                refine ⟨⟨⟨destination, hlabel, hfits⟩, hreaches⟩, ?_⟩
                simp [Listing.resolveFrom, Item.slots, Item.size, hlabel]
              · rintro ⟨⟨⟨destination, hlabel, hfits⟩, hreaches⟩, rfl⟩
                refine ⟨_, ⟨destination, ⟨hlabel, hfits⟩, rfl⟩, (hrest hlabel).mpr ⟨hreaches, ?_⟩⟩
                simp [Listing.resolveFrom, Item.slots, Item.size, hlabel]
          | _ => cases htarget

end ProgramBuilder

/-- The builder returns the code of the listing, and panics on every listing that has a label twice
or a jump that does not reach its label. -/
theorem assemble_eq_some_iff {listing : Listing} {code : List BpfInsn} :
    listing.assemble = some code ↔ listing.Assembles ∧ code = listing.resolve := by
  have hbuild : listing.assemble = (listing.emit.run {}).bind fun result => result.2.finish := rfl
  have hlabels : (({} : ProgramBuilder).emitted listing).labels =
      fun name => listing.position name := by
    funext name
    simp [ProgramBuilder.emitted]
  rw [hbuild, Option.bind_eq_some_iff]
  constructor
  · rintro ⟨_, hrun, hfinish⟩
    obtain ⟨⟨hdistinct, -⟩, rfl⟩ := ProgramBuilder.run_emit_eq_some_iff.mp hrun
    rw [ProgramBuilder.finish_eq] at hfinish
    obtain ⟨hreaches, rfl⟩ := (ProgramBuilder.foldlM_patch_eq_some_iff []).mp hfinish
    rw [hlabels] at hreaches
    exact ⟨⟨hdistinct, hreaches⟩, by simp [Listing.resolve, hlabels]⟩
  · rintro ⟨⟨hdistinct, hreaches⟩, rfl⟩
    refine ⟨_, ProgramBuilder.run_emit_eq_some_iff.mpr ⟨⟨hdistinct, by simp⟩, rfl⟩, ?_⟩
    rw [ProgramBuilder.finish_eq]
    refine (ProgramBuilder.foldlM_patch_eq_some_iff []).mpr ⟨?_, ?_⟩
    · rw [hlabels]
      exact hreaches
    · simp [Listing.resolve, hlabels]

/-- **The builder panics** on the listings with a label that is set twice, or with a jump whose
label is missing or too far. -/
theorem assemble_isSome_iff {listing : Listing} :
    listing.assemble.isSome ↔ listing.Assembles := by
  rw [Option.isSome_iff_exists]
  constructor
  · rintro ⟨code, hcode⟩
    exact (assemble_eq_some_iff.mp hcode).1
  · intro h
    exact ⟨listing.resolve, assemble_eq_some_iff.mpr ⟨h, rfl⟩⟩

/-! ## The listings of the two programs -/

section programs

open BpfInsn Item

def insn (i : BpfInsn) (h : i.Straight := by exact of_decide_eq_true rfl) : Item := .plain ⟨i, h⟩

/-- `load_map`, `stack_pointer` and the call of a lookup -/
def lookupItems (mapFd offset : BitVec 32) : Listing :=
  [loadMap 1 mapFd, insn (movReg 2 10), insn (addImm 2 offset),
    insn (call BPF_FUNC_MAP_LOOKUP_ELEM)]

/-- The key of the longest-prefix maps. -/
def keyItems (ipv6 : Bool) : Listing :=
  if ipv6 then
    [insn (storeImm32 10 (-24) 160), insn (load32 0 10 (-32)), insn (storeReg32 10 (-20) 0),
      insn (load64 0 6 8), insn (storeReg64 10 (-16) 0), insn (load64 0 6 16),
      insn (storeReg64 10 (-8) 0)]
  else
    [insn (storeImm32 10 (-16) 64), insn (load32 0 10 (-32)), insn (storeReg32 10 (-12) 0),
      insn (load32 0 6 4), insn (storeReg32 10 (-8) 0)]

/-- `socket_option_args` -/
def optionItems : Listing :=
  [insn (movReg 1 6), insn (movImm 2 SOL_SOCKET), insn (movImm 3 SO_MARK), insn (movReg 4 10),
    insn (addImm 4 (-28)), insn (movImm 5 4)]

/-- `set_socket_mark` -/
def setItems (mark : BitVec 32) : Listing :=
  [insn (storeImm32 10 (-28) mark)] ++ optionItems ++ [insn (call BPF_FUNC_SETSOCKOPT)]

/-- Source: `bpf.rs` `socket_mark_program` -/
def socketListing (pidMapFd : BitVec 32) : Listing :=
  [insn (movReg 6 1), insn (call BPF_FUNC_GET_CURRENT_PID_TGID), insn (rshImm 0 32),
    insn (storeReg32 10 (-4) 0)] ++
  lookupItems pidMapFd (-4) ++
  [jump (.eqImm 0 0) .allow, insn (storeImm32 6 16 FWMARK_VALUE), label .allow,
    insn (movImm 0 1), insn exit]

/-- Source: `bpf.rs` `destination_mark_program` -/
def destinationListing (pidMapFd modeMapFd rangeMapFd bypassMapFd : BitVec 32) (ipv6 : Bool) :
    Listing :=
  [insn (movReg 6 1), insn (call BPF_FUNC_GET_CURRENT_PID_TGID), insn (rshImm 0 32),
    insn (storeReg32 10 (-36) 0)] ++
  lookupItems pidMapFd (-36) ++
  [insn (movImm 8 0), jump (.eqImm 0 0) .applicationBaseline, insn (movImm 8 FWMARK_VALUE),
    label .applicationBaseline, insn (call BPF_FUNC_GET_CURRENT_UID_GID),
    insn (storeReg32 10 (-32) 0)] ++
  keyItems ipv6 ++
  lookupItems bypassMapFd (keyOffset ipv6) ++
  [jump (.eqImm 0 0) .splitPolicy, jump .always .excludeDestination, label .splitPolicy] ++
  lookupItems modeMapFd (-32) ++
  [jump (.eqImm 0 0) .markSocket, insn (load32 7 0 0)] ++
  lookupItems rangeMapFd (keyOffset ipv6) ++
  [jump (.eqImm 0 0) .markSocket, jump (.eqImm 7 0) .excludeDestination, insn (movImm 8 0),
    jump .always .markSocket, label .excludeDestination, insn (movImm 8 FWMARK_VALUE),
    label .markSocket, jump (.eqImm 8 FWMARK_VALUE) .setMark] ++
  optionItems ++
  [insn (call BPF_FUNC_GETSOCKOPT), insn (load32 0 10 (-28)),
    jump (.neImm 0 FWMARK_VALUE) .allow] ++
  setItems 0 ++
  [jump .always .allow, label .setMark] ++
  setItems FWMARK_VALUE ++
  [label .allow, insn (movImm 0 1), insn exit]

theorem Listing.emit_nil : Listing.emit [] = pure () := rfl

theorem Listing.emit_cons (item : Item) (rest : Listing) :
    Listing.emit (item :: rest) = (do item.emit; Listing.emit rest) := rfl

theorem socketMarkProgram_eq_assemble (pidMapFd : BitVec 32) :
    socketMarkProgram pidMapFd = (socketListing pidMapFd).assemble := rfl

open ProgramBuilder (build) in
theorem destinationMarkProgram_eq_assemble
    (pidMapFd modeMapFd rangeMapFd bypassMapFd : BitVec 32) (ipv6 : Bool) :
    destinationMarkProgram pidMapFd modeMapFd rangeMapFd bypassMapFd ipv6 =
      (destinationListing pidMapFd modeMapFd rangeMapFd bypassMapFd ipv6).assemble := by
  cases ipv6 <;> unfold destinationMarkProgram Listing.assemble
  all_goals
    refine congrArg build ?_
    simp -implicitDefEqProofs only [destinationListing, lookupItems, keyItems, keyOffset,
      optionItems, setItems, insn, List.cons_append, List.nil_append, Listing.emit_cons, Listing.emit_nil, Item.emit,
      ProgramBuilder.movReg, ProgramBuilder.movImm, ProgramBuilder.rshImm, ProgramBuilder.load32,
      ProgramBuilder.load64, ProgramBuilder.storeImm32, ProgramBuilder.storeReg32,
      ProgramBuilder.storeReg64, ProgramBuilder.stackPointer, ProgramBuilder.loadMap,
      ProgramBuilder.call, ProgramBuilder.socketOptionArgs, ProgramBuilder.getSocketMark,
      ProgramBuilder.setSocketMark, ProgramBuilder.exit, bind_assoc, if_true, if_false,
      Bool.false_eq_true]
    rfl

end programs

end ProtonVpnOmarchy.Splitd.Bpf
