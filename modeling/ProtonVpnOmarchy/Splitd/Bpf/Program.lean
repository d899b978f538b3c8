import ProtonVpnOmarchy.Lib.Bytes

/-!
# The marking programs and their builder

`bpf.rs` emits its eBPF programs through a small assembler with symbolic labels: a jump records a
fixup, `label` records a position, and `finish` patches every recorded jump with the distance to
its label. The source's panics (a label defined twice, a missing label, a jump that does not fit
in an `i16`) are the `none` of the builder monad.

* `destinationMarkProgram` — the connect/sendmsg program, one definition for both families as in
  the source.
* `assembled` — the same program as consecutive blocks with resolved offsets. The two are
  connected by `destinationMarkProgram_eq_assembled`: the builder never panics and its patched
  jumps are these offsets. Execution is then studied block by block in `Execution`.
-/

namespace ProtonVpnOmarchy.Splitd.Bpf

/-! ## Constants -/

def BPF_FUNC_MAP_LOOKUP_ELEM : BitVec 32 := 1
def BPF_FUNC_GET_CURRENT_PID_TGID : BitVec 32 := 14
def BPF_FUNC_GET_CURRENT_UID_GID : BitVec 32 := 15
def BPF_FUNC_SETSOCKOPT : BitVec 32 := 49
def BPF_FUNC_GETSOCKOPT : BitVec 32 := 57
def BPF_PSEUDO_MAP_FD : BitVec 8 := 1

def SOL_SOCKET : BitVec 32 := 1
def SO_MARK : BitVec 32 := 36

/-- The firewall mark of excluded sockets. -/
def FWMARK_VALUE : BitVec 32 := 245447468

/-! ## Instructions -/

/-- One eBPF instruction slot: `off` is an `i16` and `imm` an `i32`, both in two's complement.
Source: `bpf.rs` `BpfInsn` -/
structure BpfInsn where
  code : BitVec 8
  registers : BitVec 8
  off : BitVec 16
  imm : BitVec 32
  deriving DecidableEq, Repr

namespace BpfInsn

/-- Source: `bpf.rs` `BpfInsn::new` -/
def new (code dst src : BitVec 8) (off : BitVec 16) (imm : BitVec 32) : BpfInsn where
  code := code
  registers := (dst &&& 0x0f) ||| ((src &&& 0x0f) <<< 4)
  off := off
  imm := imm

def movReg (dst src : BitVec 8) : BpfInsn := new 0xbf dst src 0 0
def movImm (dst : BitVec 8) (value : BitVec 32) : BpfInsn := new 0xb7 dst 0 0 value
def rshImm (dst : BitVec 8) (count : BitVec 32) : BpfInsn := new 0x77 dst 0 0 count
def addImm (dst : BitVec 8) (value : BitVec 32) : BpfInsn := new 0x07 dst 0 0 value
def load32 (dst src : BitVec 8) (offset : BitVec 16) : BpfInsn := new 0x61 dst src offset 0
def load64 (dst src : BitVec 8) (offset : BitVec 16) : BpfInsn := new 0x79 dst src offset 0
def storeImm32 (dst : BitVec 8) (offset : BitVec 16) (value : BitVec 32) : BpfInsn :=
  new 0x62 dst 0 offset value
def storeReg32 (dst : BitVec 8) (offset : BitVec 16) (src : BitVec 8) : BpfInsn :=
  new 0x63 dst src offset 0
def storeReg64 (dst : BitVec 8) (offset : BitVec 16) (src : BitVec 8) : BpfInsn :=
  new 0x7b dst src offset 0
def loadMap (dst : BitVec 8) (mapFd : BitVec 32) : BpfInsn := new 0x18 dst BPF_PSEUDO_MAP_FD 0 mapFd
def loadMapTail : BpfInsn := new 0x00 0 0 0 0
def call (helper : BitVec 32) : BpfInsn := new 0x85 0 0 0 helper
def jumpEqImm (register : BitVec 8) (value : BitVec 32) (off : BitVec 16) : BpfInsn :=
  new 0x15 register 0 off value
def jumpNeImm (register : BitVec 8) (value : BitVec 32) (off : BitVec 16) : BpfInsn :=
  new 0x55 register 0 off value
def jump (off : BitVec 16) : BpfInsn := new 0x05 0 0 off 0
def exit : BpfInsn := new 0x95 0 0 0 0

end BpfInsn

/-! ## The builder -/

/-- The labels the two programs use. -/
inductive Label where
  | applicationBaseline
  | splitPolicy
  | excludeDestination
  | markSocket
  | setMark
  | allow
  deriving DecidableEq, Repr

/-- Source: `bpf.rs` `ProgramBuilder` -/
structure ProgramBuilder where
  instructions : List BpfInsn := []
  labels : Label → Option ℕ := fun _ => none
  fixups : List (ℕ × Label) := []

/-- A builder action; `none` is a panic of the source. -/
abbrev Build (α : Type) := StateT ProgramBuilder Option α

namespace ProgramBuilder

def emit (instruction : BpfInsn) : Build Unit :=
  modify fun b => { b with instructions := b.instructions ++ [instruction] }

def movReg (dst src : BitVec 8) : Build Unit := emit (.movReg dst src)
def movImm (dst : BitVec 8) (value : BitVec 32) : Build Unit := emit (.movImm dst value)
def rshImm (dst : BitVec 8) (count : BitVec 32) : Build Unit := emit (.rshImm dst count)
def load32 (dst src : BitVec 8) (offset : BitVec 16) : Build Unit := emit (.load32 dst src offset)
def load64 (dst src : BitVec 8) (offset : BitVec 16) : Build Unit := emit (.load64 dst src offset)
def storeImm32 (dst : BitVec 8) (offset : BitVec 16) (value : BitVec 32) : Build Unit :=
  emit (.storeImm32 dst offset value)
def storeReg32 (dst : BitVec 8) (offset : BitVec 16) (src : BitVec 8) : Build Unit :=
  emit (.storeReg32 dst offset src)
def storeReg64 (dst : BitVec 8) (offset : BitVec 16) (src : BitVec 8) : Build Unit :=
  emit (.storeReg64 dst offset src)

def stackPointer (dst : BitVec 8) (offset : BitVec 32) : Build Unit := do
  movReg dst 10
  emit (.addImm dst offset)

def loadMap (dst : BitVec 8) (mapFd : BitVec 32) : Build Unit := do
  emit (.loadMap dst mapFd)
  emit .loadMapTail

def call (helper : BitVec 32) : Build Unit := emit (.call helper)

def socketOptionArgs (context : BitVec 8) (stackOffset : BitVec 32) : Build Unit := do
  movReg 1 context
  movImm 2 SOL_SOCKET
  movImm 3 SO_MARK
  stackPointer 4 stackOffset
  movImm 5 4

def getSocketMark (context : BitVec 8) (stackOffset : BitVec 32) : Build Unit := do
  socketOptionArgs context stackOffset
  call BPF_FUNC_GETSOCKOPT

def setSocketMark (context : BitVec 8) (stackOffset : BitVec 32) (mark : BitVec 32) :
    Build Unit := do
  storeImm32 10 (stackOffset.setWidth 16) mark
  socketOptionArgs context stackOffset
  call BPF_FUNC_SETSOCKOPT

/-- The common part of the three jumps: the jump is emitted with offset 0 and recorded. -/
def emitFixup (instruction : BpfInsn) (label : Label) : Build Unit := do
  modify fun b => { b with fixups := b.fixups ++ [(b.instructions.length, label)] }
  emit instruction

def jumpEqImm (register : BitVec 8) (value : BitVec 32) (label : Label) : Build Unit :=
  emitFixup (.jumpEqImm register value 0) label

def jumpNeImm (register : BitVec 8) (value : BitVec 32) (label : Label) : Build Unit :=
  emitFixup (.jumpNeImm register value 0) label

def jump (label : Label) : Build Unit := emitFixup (.jump 0) label

/-- Defining a label twice is the source's failed assertion. -/
def label (name : Label) : Build Unit := do
  let b ← get
  if (b.labels name).isSome then failure
  set { b with labels := fun l => if l = name then some b.instructions.length else b.labels l }

def exit : Build Unit := emit .exit

/-- `i16::try_from`. -/
def i16OfInt (value : ℤ) : Option (BitVec 16) :=
  if -32768 ≤ value ∧ value < 32768 then some (BitVec.ofInt 16 value) else none

/-- Source: `bpf.rs` `ProgramBuilder::finish` -/
def finish (b : ProgramBuilder) : Option (List BpfInsn) :=
  b.fixups.foldlM (fun code (position, name) => do
    let destination ← b.labels name
    let off ← i16OfInt ((destination : ℤ) - position - 1)
    let instruction ← code[position]?
    pure (code.set position { instruction with off := off })) b.instructions

/-- Run a builder action from the default builder and resolve its jumps. -/
def build (action : Build Unit) : Option (List BpfInsn) := do
  let (_, b) ← action.run {}
  b.finish

end ProgramBuilder

/-! ## The programs -/

open ProgramBuilder in
/-- Source: `bpf.rs` `socket_mark_program` -/
def socketMarkProgram (pidMapFd : BitVec 32) : Option (List BpfInsn) := build do
  movReg 6 1
  call BPF_FUNC_GET_CURRENT_PID_TGID
  rshImm 0 32
  storeReg32 10 (-4) 0
  loadMap 1 pidMapFd
  stackPointer 2 (-4)
  call BPF_FUNC_MAP_LOOKUP_ELEM
  jumpEqImm 0 0 .allow
  storeImm32 6 16 FWMARK_VALUE
  label .allow
  movImm 0 1
  exit

open ProgramBuilder in
/-- Source: `bpf.rs` `destination_mark_program` -/
def destinationMarkProgram (pidMapFd modeMapFd rangeMapFd bypassMapFd : BitVec 32) (ipv6 : Bool) :
    Option (List BpfInsn) := build do
  movReg 6 1
  -- the application baseline is recomputed for every destination
  call BPF_FUNC_GET_CURRENT_PID_TGID
  rshImm 0 32
  storeReg32 10 (-36) 0
  loadMap 1 pidMapFd
  stackPointer 2 (-36)
  call BPF_FUNC_MAP_LOOKUP_ELEM
  movImm 8 0
  jumpEqImm 0 0 .applicationBaseline
  movImm 8 FWMARK_VALUE
  label .applicationBaseline
  call BPF_FUNC_GET_CURRENT_UID_GID
  -- -24..0 holds the IPv6 key, -28 the socket option buffer
  storeReg32 10 (-32) 0
  if ipv6 then
    storeImm32 10 (-24) 160
    load32 0 10 (-32)
    storeReg32 10 (-20) 0
    load64 0 6 8
    storeReg64 10 (-16) 0
    load64 0 6 16
    storeReg64 10 (-8) 0
  else
    storeImm32 10 (-16) 64
    load32 0 10 (-32)
    storeReg32 10 (-12) 0
    load32 0 6 4
    storeReg32 10 (-8) 0
  loadMap 1 bypassMapFd
  stackPointer 2 (if ipv6 then -24 else -16)
  call BPF_FUNC_MAP_LOOKUP_ELEM
  jumpEqImm 0 0 .splitPolicy
  jump .excludeDestination
  label .splitPolicy
  loadMap 1 modeMapFd
  stackPointer 2 (-32)
  call BPF_FUNC_MAP_LOOKUP_ELEM
  jumpEqImm 0 0 .markSocket
  load32 7 0 0
  loadMap 1 rangeMapFd
  stackPointer 2 (if ipv6 then -24 else -16)
  call BPF_FUNC_MAP_LOOKUP_ELEM
  jumpEqImm 0 0 .markSocket
  jumpEqImm 7 0 .excludeDestination
  movImm 8 0
  jump .markSocket
  label .excludeDestination
  movImm 8 FWMARK_VALUE
  label .markSocket
  jumpEqImm 8 FWMARK_VALUE .setMark
  getSocketMark 6 (-28)
  load32 0 10 (-28)
  jumpNeImm 0 FWMARK_VALUE .allow
  setSocketMark 6 (-28) 0
  jump .allow
  label .setMark
  setSocketMark 6 (-28) FWMARK_VALUE
  label .allow
  movImm 0 1
  exit

/-! ## The assembled form -/

section blocks

open BpfInsn

/-- Look up the key at stack offset `offset` in a map; `r0` points to the value or is null. -/
def lookupBlock (mapFd offset : BitVec 32) : List BpfInsn :=
  [loadMap 1 mapFd, loadMapTail, movReg 2 10, addImm 2 offset, call BPF_FUNC_MAP_LOOKUP_ELEM]

/-- The slot at `-36` := the task's thread group. -/
def tgidBlock : List BpfInsn :=
  [movReg 6 1, call BPF_FUNC_GET_CURRENT_PID_TGID, rshImm 0 32, storeReg32 10 (-36) 0]

/-- `r8` := the firewall mark if the preceding lookup hit, else 0. -/
def baselineBlock : List BpfInsn := [movImm 8 0, jumpEqImm 0 0 1, movImm 8 FWMARK_VALUE]

/-- The uid slot at `-32` and the longest-prefix key of the task's uid and the destination. -/
def keyBlock (ipv6 : Bool) : List BpfInsn :=
  [call BPF_FUNC_GET_CURRENT_UID_GID, storeReg32 10 (-32) 0] ++
    if ipv6 then
      [storeImm32 10 (-24) 160, load32 0 10 (-32), storeReg32 10 (-20) 0, load64 0 6 8,
        storeReg64 10 (-16) 0, load64 0 6 16, storeReg64 10 (-8) 0]
    else
      [storeImm32 10 (-16) 64, load32 0 10 (-32), storeReg32 10 (-12) 0, load32 0 6 4,
        storeReg32 10 (-8) 0]

/-- The stack offset of the longest-prefix key. -/
def keyOffset (ipv6 : Bool) : BitVec 32 := if ipv6 then -24 else -16

/-- A bypass hit jumps over the policy blocks to the exclude block. -/
def bypassBlock : List BpfInsn := [jumpEqImm 0 0 1, jump 16]

/-- Without a mode entry the policy is skipped; else `r7` := the mode. -/
def modeBlock : List BpfInsn := [jumpEqImm 0 0 11, load32 7 0 0]

/-- A range hit leads to the exclude block in mode 0 and clears `r8` in every other mode. -/
def rangeBlock : List BpfInsn := [jumpEqImm 0 0 4, jumpEqImm 7 0 2, movImm 8 0, jump 1]

def excludeBlock : List BpfInsn := [movImm 8 FWMARK_VALUE]

/-- The arguments of the socket option calls: the option is kept in the slot at `-28`. -/
def optionBlock : List BpfInsn :=
  [movReg 1 6, movImm 2 SOL_SOCKET, movImm 3 SO_MARK, movReg 4 10, addImm 4 (-28), movImm 5 4]

/-- `r0` := the socket's mark, unless the decision is to mark it. -/
def currentBlock : List BpfInsn :=
  jumpEqImm 8 FWMARK_VALUE 18 :: (optionBlock ++ [call BPF_FUNC_GETSOCKOPT, load32 0 10 (-28)])

/-- Set the socket's mark. -/
def setBlock (mark : BitVec 32) : List BpfInsn :=
  storeImm32 10 (-28) mark :: (optionBlock ++ [call BPF_FUNC_SETSOCKOPT])

/-- Marks the socket, or clears a mark equal to the firewall mark. -/
def markBlock : List BpfInsn :=
  currentBlock ++ ([jumpNeImm 0 FWMARK_VALUE 17] ++ (setBlock 0 ++ ([jump 8] ++
    (setBlock FWMARK_VALUE ++ [movImm 0 1, exit]))))

/-- The part that decides: the bypass, mode and range lookups and what follows from them. -/
def decisionBlock (modeMapFd rangeMapFd bypassMapFd : BitVec 32) (ipv6 : Bool) : List BpfInsn :=
  lookupBlock bypassMapFd (keyOffset ipv6) ++ (bypassBlock ++
    (lookupBlock modeMapFd (-32) ++ (modeBlock ++
      (lookupBlock rangeMapFd (keyOffset ipv6) ++ (rangeBlock ++ excludeBlock)))))

/-- The destination program with its jumps resolved. -/
def assembled (pidMapFd modeMapFd rangeMapFd bypassMapFd : BitVec 32) (ipv6 : Bool) :
    List BpfInsn :=
  tgidBlock ++ (lookupBlock pidMapFd (-36) ++ (baselineBlock ++ (keyBlock ipv6 ++
    (decisionBlock modeMapFd rangeMapFd bypassMapFd ipv6 ++ markBlock))))

end blocks

/-! ## The builder assembles the blocks -/

namespace ProgramBuilder

variable {α : Type}

theorem run_emit (i : BpfInsn) (b : ProgramBuilder) :
    (emit i).run b = some ((), { b with instructions := b.instructions ++ [i] }) := rfl

theorem run_emit_bind (i : BpfInsn) (k : Unit → Build α) (b : ProgramBuilder) :
    (emit i >>= k).run b = (k ()).run { b with instructions := b.instructions ++ [i] } := rfl

theorem run_emitFixup_bind (i : BpfInsn) (name : Label) (k : Unit → Build α) (b : ProgramBuilder) :
    (emitFixup i name >>= k).run b =
      (k ()).run { b with
        instructions := b.instructions ++ [i]
        fixups := b.fixups ++ [(b.instructions.length, name)] } := rfl

theorem run_label_bind (name : Label) (k : Unit → Build α) (b : ProgramBuilder) :
    (label name >>= k).run b =
      if (b.labels name).isSome then none
      else (k ()).run { b with
        labels := fun l => if l = name then some b.instructions.length else b.labels l } := by
  simp only [label]
  split <;> rename_i h <;> simp [h]

end ProgramBuilder

namespace BpfInsn

variable (register : BitVec 8) (value : BitVec 32) (off : BitVec 16)

theorem patch_jumpEqImm : { jumpEqImm register value 0 with off := off } =
    jumpEqImm register value off := rfl

theorem patch_jumpNeImm : { jumpNeImm register value 0 with off := off } =
    jumpNeImm register value off := rfl

theorem patch_jump : { jump 0 with off := off } = jump off := rfl

end BpfInsn

open ProgramBuilder in
/-- The builder never panics, and what it builds is the assembled program. -/
theorem destinationMarkProgram_eq_assembled
    (pidMapFd modeMapFd rangeMapFd bypassMapFd : BitVec 32) (ipv6 : Bool) :
    destinationMarkProgram pidMapFd modeMapFd rangeMapFd bypassMapFd ipv6 =
      some (assembled pidMapFd modeMapFd rangeMapFd bypassMapFd ipv6) := by
  cases ipv6 <;> unfold destinationMarkProgram build
  -- rewriting must leave proofs behind: left to the kernel, the builder's state is re-evaluated
  -- at every instruction
  all_goals
    simp -implicitDefEqProofs only [Bool.false_eq_true, if_false, if_true, movReg, movImm, rshImm,
      load32, load64, storeImm32, storeReg32, storeReg64, stackPointer, loadMap, call,
      socketOptionArgs, getSocketMark, setSocketMark, jumpEqImm, jumpNeImm, jump, exit, bind_assoc]
    simp -implicitDefEqProofs only [run_emit_bind, run_emitFixup_bind, run_label_bind, run_emit,
      List.nil_append, List.cons_append, List.length_cons, List.length_nil, reduceCtorEq,
      Option.isSome_none, if_false, Bool.false_eq_true, Nat.reduceAdd, Option.bind_eq_bind,
      Option.bind_some]
    simp -implicitDefEqProofs only [finish, List.foldlM_cons, List.foldlM_nil, if_true, if_false,
      reduceCtorEq, Option.bind_eq_bind, Option.bind_some, i16OfInt, Nat.cast_ofNat, Int.reduceSub,
      Int.reduceLE, Int.reduceLT, Int.reduceNeg, and_self, List.getElem?_cons_zero,
      List.getElem?_cons_succ, List.set_cons_zero, List.set_cons_succ, Option.pure_def,
      BpfInsn.patch_jumpEqImm, BpfInsn.patch_jumpNeImm, BpfInsn.patch_jump]
    rfl

end ProtonVpnOmarchy.Splitd.Bpf
