import ProtonVpnOmarchy.Splitd.Bpf.Execution
import ProtonVpnOmarchy.Splitd.Net

/-!
# What the destination program decides

The destination program is a chain of blocks. Each block has a contract: what it needs in the
registers and on the stack, and what it leaves there. The contracts are composed with
`iterate_at`, which places a block inside a longer program.

* `lookup_at` — a map lookup, used for all four maps.
* `tgidBlock_spec`, `baselineBlock_spec`, `keyBlock_spec` — the application baseline in `r8`, the
  keys on the stack (`Keyed`).
* `decisionBlock_spec` — the bypass, mode and range lookups compute `DestinationMaps.marks`.
* `markBlock_spec` — the socket's mark becomes `markAfter`.
* `destinationMarkProgram_marks` — the whole program, for both families.
-/

namespace ProtonVpnOmarchy.Splitd.Bpf

open Std (ExtTreeMap)
open Lib Lib.Outcome BpfInsn

/-! ## Words -/

theorem setWidth_append_ushiftRight (a b : BitVec 32) :
    ((a ++ b : BitVec 64) >>> 32).setWidth 32 = a := by
  apply BitVec.eq_of_getLsbD_eq
  intro i hi
  rw [BitVec.getLsbD_setWidth, BitVec.getLsbD_ushiftRight, BitVec.getLsbD_append]
  simp [hi]

theorem setWidth_append (a b : BitVec 32) : ((a ++ b : BitVec 64)).setWidth 32 = b := by
  apply BitVec.eq_of_getLsbD_eq
  intro i hi
  rw [BitVec.getLsbD_setWidth, BitVec.getLsbD_append]
  simp [hi]

theorem leBytes_four_mod {bs : List Byte} (h : bs.length = 4) :
    leBytes 4 (ofLeBytes bs % 4294967296) = bs := by
  simpa using leBytes_ofNat_ofLeBytes h

theorem leBytes_eight_mod {bs : List Byte} (h : bs.length = 8) :
    leBytes 8 (ofLeBytes bs % 18446744073709551616) = bs := by
  simpa using leBytes_ofNat_ofLeBytes h

theorem ofNat_ofLeBytes_leBytes (w : UInt32) : UInt32.ofNat (ofLeBytes (leBytes 4 w.toNat)) = w := by
  have := ofLeBytes_leBytes_four w.toBitVec
  simp only [UInt32.toNat_toBitVec] at this
  rw [this, UInt32.ofNat_toNat]

/-! ## Block contracts -/

attribute [simp] movReg movImm rshImm addImm load32 load64 storeImm32 storeReg32 storeReg64 loadMap
  BpfInsn.call jumpEqImm jumpNeImm BpfInsn.jump BpfInsn.exit exec_new callHelper BPF_PSEUDO_MAP_FD
  BPF_FUNC_MAP_LOOKUP_ELEM BPF_FUNC_GET_CURRENT_PID_TGID BPF_FUNC_GET_CURRENT_UID_GID
  BPF_FUNC_GETSOCKOPT BPF_FUNC_SETSOCKOPT SOL_SOCKET SO_MARK

attribute [simp] setWidth_append_ushiftRight setWidth_append leBytes_four_mod leBytes_eight_mod
  ofNat_ofLeBytes_leBytes Memory.slice_write_same Memory.slice_write_of_disjoint
  Machine.answer_registers_of_ne Machine.answer_registers_zero Machine.answer_slice

variable {env : Environment} {m : Machine} {mark : BitVec 32}

/-- A block run from its first slot, seen from inside a longer program. -/
theorem iterate_at {front block back : List BpfInsn} {n : ℕ} {m' : Machine}
    (hpc : m.pc = front.length) (h : iterate (step env block) n { m with pc := 0 } = some m') :
    iterate (step env (front ++ (block ++ back))) n m = some (m'.shift front.length) := by
  have := iterate_block front block back h
  rwa [show Machine.shift front.length { m with pc := 0 } = m by simp [Machine.shift, ← hpc]] at this

theorem iterate_front {block back : List BpfInsn} {n : ℕ} {m' : Machine}
    (h : iterate (step env block) n m = some m') :
    iterate (step env (block ++ back)) n m = some m' := by
  have := iterate_block [] block back h
  simpa [Machine.shift] using this

/-- What a lookup that found `found` leaves behind. -/
structure LookedUp (found : Option UInt32) (m m' : Machine) : Prop where
  pc_eq : m'.pc = m.pc + 5
  result : m'.registers 0 = if found.isSome then 2048 else 0
  value : ∀ v, found = some v → m'.memory.slice 2048 4 = leBytes 4 v.toNat
  register : ∀ r, 3 ≤ r → m'.registers r = m.registers r
  memory : ∀ a n, a + n ≤ 2048 → m'.memory.slice a n = m.memory.slice a n
  mark_eq : m'.mark = m.mark

theorem lookupBlock_spec {mapFd offset : BitVec 32} {map : KernelMap} {found : Option UInt32}
    {p : ℕ} (hpc : m.pc = 0) (hmap : env.maps (mapFd.signExtend 64) = some map)
    (hp : (m.registers 10 + offset.signExtend 64).toNat = p)
    (hfind : ∀ k, map.find m p k = k found) :
    ∃ m', iterate (step env (lookupBlock mapFd offset)) 4 m = some m' ∧ LookedUp found m m' := by
  -- a lookup reads memory only, so setting its argument registers does not disturb it
  have hfind' : ∀ m', m'.memory = m.memory → ∀ k, map.find m' p k = k found := by
    intro m' hmem k
    rw [← hfind k]
    cases map <;> simp [KernelMap.find, Machine.load, hmem]
  simp only [BitVec.toNat_add, Nat.reducePow] at hp
  simp [iterate, step, lookupBlock, dispatch, hpc, hmap, hp]
  rw [hfind' _ (by simp)]
  simp only [Option.some.injEq, exists_eq_left']
  constructor
  · simp [hpc]
  · simp
  · rintro v rfl
    simp [Machine.answer]
  · intro r hr
    have h₀ : r ≠ 0 := by omega
    have h₁ : r ≠ 1 := by omega
    have h₂ : r ≠ 2 := by omega
    simp [h₀, h₁, h₂]
  · intro a n h
    simp [h]
  · simp

/-- A lookup inside a longer program. -/
theorem lookup_at (code front back : List BpfInsn) {mapFd offset : BitVec 32}
    {map : KernelMap} {found : Option UInt32} {p : ℕ}
    (hcode : code = front ++ (lookupBlock mapFd offset ++ back)) (hpc : m.pc = front.length)
    (hmap : env.maps (mapFd.signExtend 64) = some map)
    (hp : (m.registers 10 + offset.signExtend 64).toNat = p)
    (hfind : ∀ k, map.find m p k = k found) :
    ∃ m', iterate (step env code) 4 m = some m' ∧ LookedUp found m m' := by
  have hfind₀ : ∀ k, map.find { m with pc := 0 } p k = k found := by
    intro k
    rw [← hfind k]
    cases map <;> rfl
  obtain ⟨m', hm', h⟩ := lookupBlock_spec (m := { m with pc := 0 }) rfl hmap hp hfind₀
  refine ⟨m'.shift front.length, hcode ▸ iterate_at hpc hm', ?_⟩
  obtain ⟨hpc', hresult, hvalue, hregister, hmemory, hmark⟩ := h
  refine ⟨?_, hresult, hvalue, hregister, hmemory, hmark⟩
  simp [Machine.shift, hpc', hpc]

/-! ## The application baseline -/

/-- What every block keeps: the context pointer, the frame pointer and the socket's mark. -/
structure Frame (mark : BitVec 32) (m : Machine) : Prop where
  context : m.registers 6 = 1024
  stack : m.registers 10 = 512
  mark_eq : m.mark = mark

theorem LookedUp.frame {found : Option UInt32} {m' : Machine} (h : LookedUp found m m')
    (hframe : Frame mark m) : Frame mark m' where
  context := by rw [h.register 6 (by norm_num), hframe.context]
  stack := by rw [h.register 10 (by norm_num), hframe.stack]
  mark_eq := by rw [h.mark_eq, hframe.mark_eq]

/-- The value `r8` has for a decision. -/
def markRegister (marked : Bool) : BitVec 64 := if marked then FWMARK_VALUE.signExtend 64 else 0

theorem tgidBlock_spec (env : Environment) (h1 : m.registers 1 = 1024) (h10 : m.registers 10 = 512)
    (hpc : m.pc = 0) :
    ∃ m', iterate (step env tgidBlock) 4 m = some m' ∧ m'.pc = 4 ∧ Frame m.mark m' ∧
      m'.memory.slice 476 4 = leBytes 4 env.tgid.toNat ∧
      ∀ a n, 480 ≤ a → m'.memory.slice a n = m.memory.slice a n := by
  simp [iterate, step, tgidBlock, dispatch, Machine.store, hpc, h10, h1]
  refine ⟨by constructor <;> simp [h10], fun a n ha => ?_⟩
  exact Memory.slice_write_of_disjoint _ (Or.inr ha)

theorem baselineBlock_spec (env : Environment) {found : Option UInt32} (hpc : m.pc = 0)
    (hframe : Frame mark m) (h0 : m.registers 0 = if found.isSome then 2048 else 0) :
    ∃ n ≤ 3, ∃ m', iterate (step env baselineBlock) n m = some m' ∧ m'.pc = 3 ∧ Frame mark m' ∧
      m'.memory = m.memory ∧ m'.registers 8 = markRegister found.isSome := by
  obtain ⟨hcontext, hstack, hmark⟩ := hframe
  cases found with
  | none =>
      refine ⟨2, by norm_num, ?_⟩
      simp [iterate, step, baselineBlock, dispatch, Machine.goto, hpc, h0, markRegister]
      constructor <;> simp [hcontext, hstack, hmark]
  | some v =>
      refine ⟨3, le_rfl, ?_⟩
      simp [iterate, step, baselineBlock, dispatch, hpc, h0, markRegister]
      constructor <;> simp [hcontext, hstack, hmark]

/-! ## The longest-prefix key -/

/-- Where the longest-prefix key of each family stands on the stack. -/
def keyAddress (ipv6 : Bool) : ℕ := if ipv6 then 488 else 496

/-- The bytes of a longest-prefix key behind its length: a uid and an address. -/
def keyBytes (ipv6 : Bool) : ℕ := if ipv6 then 20 else 8

/-- The bits a longest-prefix lookup of `uid` and `destination` asks for. -/
def lpmKey (uid : UInt32) (destination : IpAddr) : List Bool :=
  bits (leBytes 4 uid.toNat ++ destination.octets)

/-- Where the context holds the destination of each family: `user_ip4` or `user_ip6`. -/
def destinationAddress (destination : IpAddr) : ℕ := if destination.isIpv6 then 1032 else 1028

/-- What the key block leaves on the stack: the uid and the key of the uid and the destination. -/
structure Keyed (uid : UInt32) (destination : IpAddr) (m : Machine) : Prop where
  uid_eq : m.memory.slice 480 4 = leBytes 4 uid.toNat
  len_eq : m.memory.slice (keyAddress destination.isIpv6) 4 =
    leBytes 4 (8 * keyBytes destination.isIpv6)
  data_eq : m.memory.slice (keyAddress destination.isIpv6 + 4) (keyBytes destination.isIpv6) =
    leBytes 4 uid.toNat ++ destination.octets

theorem keyBlock_spec (env : Environment) {destination : IpAddr} (hpc : m.pc = 0)
    (hframe : Frame mark m)
    (hdest : m.memory.slice (destinationAddress destination) destination.octets.length =
      destination.octets) :
    ∃ m', iterate (step env (keyBlock destination.isIpv6)) (keyBlock destination.isIpv6).length m =
        some m' ∧ m'.pc = (keyBlock destination.isIpv6).length ∧ Frame mark m' ∧
      Keyed env.uid destination m' ∧ m'.registers 8 = m.registers 8 := by
  obtain ⟨hcontext, hstack, hmark⟩ := hframe
  cases destination with
  | v4 address =>
      have hdest : m.memory.slice 1028 4 = beBytes 4 address := by
        simpa [destinationAddress, IpAddr.isIpv6, IpAddr.octets] using hdest
      simp [iterate, step, keyBlock, dispatch, Machine.store, Machine.load, IpAddr.isIpv6, hpc,
        hcontext, hstack, hdest]
      refine ⟨by constructor <;> simp [hcontext, hstack, hmark], ?_⟩
      constructor
      · simp
      · simp [keyAddress, keyBytes, IpAddr.isIpv6]
      · simp only [keyAddress, keyBytes, IpAddr.isIpv6, IpAddr.octets, Bool.false_eq_true, if_false]
        rw [show 8 = 4 + 4 from rfl, Memory.slice_add]
        simp
  | v6 address =>
      have hdest : m.memory.slice 1032 8 ++ m.memory.slice 1040 8 = beBytes 16 address := by
        rw [← Memory.slice_add]
        simpa [destinationAddress, IpAddr.isIpv6, IpAddr.octets] using hdest
      simp [iterate, step, keyBlock, dispatch, Machine.store, Machine.load, IpAddr.isIpv6, hpc,
        hcontext, hstack]
      refine ⟨by constructor <;> simp [hcontext, hstack, hmark], ?_⟩
      constructor
      · simp
      · simp [keyAddress, keyBytes, IpAddr.isIpv6]
      · simp only [keyAddress, keyBytes, IpAddr.isIpv6, IpAddr.octets, if_true]
        rw [show 20 = 4 + (8 + 8) from rfl, Memory.slice_add, Memory.slice_add]
        simp [hdest]

theorem LookedUp.keyed {uid : UInt32} {destination : IpAddr} {found : Option UInt32}
    {m' : Machine} (h : LookedUp found m m') (hkeyed : Keyed uid destination m) :
    Keyed uid destination m' := by
  obtain ⟨huid, hlen, hdata⟩ := hkeyed
  constructor
  · rwa [h.memory _ _ (by norm_num)]
  · rwa [h.memory]
    cases destination <;> simp [keyAddress, IpAddr.isIpv6]
  · rwa [h.memory]
    cases destination <;> simp [keyAddress, keyBytes, IpAddr.isIpv6]

theorem find_word {a : ℕ} {word : UInt32} (entries : ExtTreeMap UInt32 UInt32)
    (hword : m.memory.slice a 4 = leBytes 4 word.toNat) (ha : a + 4 ≤ 4096)
    (k : Option UInt32 → Outcome Machine) :
    (KernelMap.hash entries).find m a k = k entries[word]? := by
  simp [KernelMap.find, Machine.load, hword, ha]

theorem find_key {destination : IpAddr} (trie : LpmTrie UInt32)
    (hkeyed : Keyed env.uid destination m) (k : Option UInt32 → Outcome Machine) :
    (KernelMap.lpm (keyBytes destination.isIpv6) trie).find m (keyAddress destination.isIpv6) k =
      k (trie.lookup (lpmKey env.uid destination)) := by
  have htake : (bits (leBytes 4 env.uid.toNat ++ destination.octets)).take
      (8 * keyBytes destination.isIpv6) = lpmKey env.uid destination := by
    apply List.take_of_length_le
    cases destination <;> simp [keyBytes, IpAddr.isIpv6, IpAddr.octets]
  have hlen : ofLeBytes (leBytes 4 (8 * keyBytes destination.isIpv6)) =
      8 * keyBytes destination.isIpv6 := by
    apply ofLeBytes_leBytes_of_lt
    cases destination <;> simp [keyBytes, IpAddr.isIpv6]
  have hfits : keyAddress destination.isIpv6 + 4 + keyBytes destination.isIpv6 ≤ 4096 := by
    cases destination <;> simp [keyAddress, keyBytes, IpAddr.isIpv6]
  simp [KernelMap.find, Machine.load, hkeyed.len_eq, hkeyed.data_eq, hlen, htake, hfits,
    show keyAddress destination.isIpv6 + 4 ≤ 4096 by omega]

theorem key_pointer (hframe : Frame mark m) (ipv6 : Bool) :
    (m.registers 10 + (keyOffset ipv6).signExtend 64).toNat = keyAddress ipv6 := by
  rw [hframe.stack]
  cases ipv6 <;> simp [keyOffset, keyAddress]

theorem tgid_pointer (hframe : Frame mark m) :
    (m.registers 10 + (-36 : BitVec 32).signExtend 64).toNat = 476 := by
  rw [hframe.stack]
  rfl

theorem uid_pointer (hframe : Frame mark m) :
    (m.registers 10 + (-32 : BitVec 32).signExtend 64).toNat = 480 := by
  rw [hframe.stack]
  rfl

/-! ## The decision -/

/-- The four maps a destination program consults. -/
structure DestinationMaps where
  pid : ExtTreeMap UInt32 UInt32
  mode : ExtTreeMap UInt32 UInt32
  range : LpmTrie UInt32
  bypass : LpmTrie UInt32

/-- The split policy: a range hit of a user with a mode entry marks in mode 0 (exclude) and does
not in any other mode (include); else the application baseline decides. -/
def splitPolicy (mode : Option UInt32) (rangeHit baseline : Bool) : Bool :=
  match mode with
  | some mode => if rangeHit then mode == 0 else baseline
  | none => baseline

/-- The decision the program is meant to take: a bypass hit marks; else the split policy decides,
over the pid map's baseline. -/
def DestinationMaps.marks (maps : DestinationMaps) (uid tgid : UInt32) (destination : IpAddr) :
    Bool :=
  let key := lpmKey uid destination
  (maps.bypass.lookup key).isSome ||
    splitPolicy maps.mode[uid]? (maps.range.lookup key).isSome (maps.pid.contains tgid)

section decision

variable {modeMapFd rangeMapFd bypassMapFd : BitVec 32} {ipv6 marked : Bool}

/-- Enters the decision at `pc` and leaves it behind its last slot with `r8` set for `marked`. -/
def Decides (env : Environment) (code : List BpfInsn) (mark : BitVec 32) (marked : Bool) (N : ℕ)
    (m : Machine) : Prop :=
  ∃ n ≤ N, ∃ m', iterate (step env code) n m = some m' ∧ m'.pc = 24 ∧ Frame mark m' ∧
    m'.registers 8 = markRegister marked

theorem Decides.of_iterate {code : List BpfInsn} {N n : ℕ} {m' : Machine}
    (h : iterate (step env code) n m = some m') (h' : Decides env code mark marked N m') :
    Decides env code mark marked (n + N) m := by
  obtain ⟨k, hk, m'', hm'', hrest⟩ := h'
  exact ⟨n + k, by omega, m'', iterate_add h hm'', hrest⟩

theorem decides_exclude (hpc : m.pc = 23) (hframe : Frame mark m) :
    Decides env (decisionBlock modeMapFd rangeMapFd bypassMapFd ipv6) mark true 1 m := by
  obtain ⟨hcontext, hstack, hmark⟩ := hframe
  refine ⟨1, le_rfl, ?_⟩
  simp [iterate, step, decisionBlock, lookupBlock, bypassBlock, modeBlock, rangeBlock, excludeBlock,
    dispatch, hpc, markRegister]
  constructor <;> simp [hcontext, hstack, hmark]

/-- Behind the range lookup. -/
theorem decides_rangeBlock {found : Option UInt32} {mode : UInt32} (hpc : m.pc = 19)
    (hframe : Frame mark m) (h0 : m.registers 0 = if found.isSome then 2048 else 0)
    (h7 : m.registers 7 = BitVec.ofNat 64 mode.toNat) (h8 : m.registers 8 = markRegister marked) :
    Decides env (decisionBlock modeMapFd rangeMapFd bypassMapFd ipv6) mark
      (if found.isSome then mode == 0 else marked) 4 m := by
  have hframe' := hframe
  obtain ⟨hcontext, hstack, hmark⟩ := hframe
  cases found with
  | none =>
      refine ⟨1, by norm_num, ?_⟩
      simp [iterate, step, decisionBlock, lookupBlock, bypassBlock, modeBlock, rangeBlock,
        excludeBlock, dispatch, Machine.goto, hpc, h0, h8]
      constructor <;> simp [hcontext, hstack, hmark]
  | some v =>
      by_cases hmode : mode = 0
      · subst hmode
        have hjumps : iterate (step env (decisionBlock modeMapFd rangeMapFd bypassMapFd ipv6)) 2 m =
            some { m with pc := 23 } := by
          simp [iterate, step, decisionBlock, lookupBlock, bypassBlock, modeBlock, rangeBlock,
            excludeBlock, dispatch, Machine.goto, hpc, h0, h7, Machine.bump]
        obtain ⟨n, hn, hrest⟩ := Decides.of_iterate hjumps
          (decides_exclude rfl ⟨hcontext, hstack, hmark⟩)
        exact ⟨n, by omega, hrest⟩
      · refine ⟨4, le_rfl, ?_⟩
        have hmode' : BitVec.ofNat 64 mode.toNat ≠ 0#64 := by
          intro h
          apply hmode
          have := congrArg BitVec.toNat h
          have hlt := mode.toNat_lt
          simp only [BitVec.toNat_ofNat] at this
          apply UInt32.toNat_inj.mp
          simp only [UInt32.toNat_zero]
          omega
        simp [iterate, step, decisionBlock, lookupBlock, bypassBlock, modeBlock, rangeBlock,
          excludeBlock, dispatch, Machine.goto, hpc, h0, h7, hmode, hmode', markRegister]
        constructor <;> simp [hcontext, hstack, hmark]

/-- Behind the mode lookup. -/
theorem decides_modeBlock {destination : IpAddr} {found : Option UInt32} {range : LpmTrie UInt32}
    (hrange : env.maps (rangeMapFd.signExtend 64) = some (.lpm (keyBytes destination.isIpv6) range))
    (hpc : m.pc = 12) (hframe : Frame mark m) (hkeyed : Keyed env.uid destination m)
    (h0 : m.registers 0 = if found.isSome then 2048 else 0)
    (hvalue : ∀ v, found = some v → m.memory.slice 2048 4 = leBytes 4 v.toNat)
    (h8 : m.registers 8 = markRegister marked) :
    Decides env (decisionBlock modeMapFd rangeMapFd bypassMapFd destination.isIpv6) mark
      (splitPolicy found (range.lookup (lpmKey env.uid destination)).isSome marked) 10 m := by
  have hframe' := hframe
  obtain ⟨hcontext, hstack, hmark⟩ := hframe
  cases found with
  | none =>
      refine ⟨1, by norm_num, ?_⟩
      simp [iterate, step, decisionBlock, lookupBlock, bypassBlock, modeBlock, rangeBlock,
        excludeBlock, dispatch, Machine.goto, hpc, h0, h8, splitPolicy]
      constructor <;> simp [hcontext, hstack, hmark]
  | some mode =>
      -- the mode is read into `r7` before the next lookup overwrites the value's place
      let m₁ := (m.bump.setRegister 7 (BitVec.ofNat 64 mode.toNat)).bump
      have hload : iterate (step env
          (decisionBlock modeMapFd rangeMapFd bypassMapFd destination.isIpv6)) 2 m = some m₁ := by
        have hword := ofLeBytes_leBytes_four mode.toBitVec
        simp only [UInt32.toNat_toBitVec] at hword
        simp [iterate, step, decisionBlock, lookupBlock, bypassBlock, modeBlock, rangeBlock,
          excludeBlock, dispatch, Machine.load, hpc, h0, hvalue mode rfl, hword, m₁]
      have hframe₁ : Frame mark m₁ := by constructor <;> simp [m₁, hcontext, hstack, hmark]
      have hkeyed₁ : Keyed env.uid destination m₁ := ⟨hkeyed.1, hkeyed.2, hkeyed.3⟩
      obtain ⟨m₂, hm₂, h₂⟩ := lookup_at
        (decisionBlock modeMapFd rangeMapFd bypassMapFd destination.isIpv6)
        (lookupBlock bypassMapFd (keyOffset destination.isIpv6) ++ (bypassBlock ++
          (lookupBlock modeMapFd (-32) ++ modeBlock))) (rangeBlock ++ excludeBlock)
        (by simp [decisionBlock]) (by simp [m₁, hpc, lookupBlock, bypassBlock, modeBlock]) hrange
        (key_pointer hframe₁ destination.isIpv6) (find_key range hkeyed₁)
      have h7 : m₂.registers 7 = BitVec.ofNat 64 mode.toNat := by
        rw [h₂.register 7 (by norm_num)]
        simp [m₁]
      have h8' : m₂.registers 8 = markRegister marked := by
        rw [h₂.register 8 (by norm_num)]
        simpa [m₁] using h8
      have hpc₂ : m₂.pc = 19 := by simp [h₂.pc_eq, m₁, hpc]
      exact Decides.of_iterate hload (Decides.of_iterate hm₂
        (decides_rangeBlock hpc₂ (h₂.frame hframe₁) h₂.result h7 h8'))

theorem decisionBlock_spec {destination : IpAddr} {maps : DestinationMaps}
    (hmode : env.maps (modeMapFd.signExtend 64) = some (.hash maps.mode))
    (hrange : env.maps (rangeMapFd.signExtend 64) =
      some (.lpm (keyBytes destination.isIpv6) maps.range))
    (hbypass : env.maps (bypassMapFd.signExtend 64) =
      some (.lpm (keyBytes destination.isIpv6) maps.bypass))
    (hpc : m.pc = 0) (hframe : Frame mark m) (hkeyed : Keyed env.uid destination m)
    (h8 : m.registers 8 = markRegister (maps.pid.contains env.tgid)) :
    Decides env (decisionBlock modeMapFd rangeMapFd bypassMapFd destination.isIpv6) mark
      (maps.marks env.uid env.tgid destination) 20 m := by
  obtain ⟨m₁, hm₁, h₁⟩ := lookup_at
    (decisionBlock modeMapFd rangeMapFd bypassMapFd destination.isIpv6) [] _ rfl hpc hbypass
    (key_pointer hframe destination.isIpv6) (find_key maps.bypass hkeyed)
  have hframe₁ := h₁.frame hframe
  have hkeyed₁ := h₁.keyed hkeyed
  have h0 := h₁.result
  have hpc₁ : m₁.pc = 5 := by simp [h₁.pc_eq, hpc]
  have h8₁ : m₁.registers 8 = markRegister (maps.pid.contains env.tgid) := by
    rw [h₁.register 8 (by norm_num), h8]
  by_cases hhit : (maps.bypass.lookup (lpmKey env.uid destination)).isSome
  · have hjumps : iterate (step env
        (decisionBlock modeMapFd rangeMapFd bypassMapFd destination.isIpv6)) 2 m₁ =
        some { m₁ with pc := 23 } := by
      simp [iterate, step, decisionBlock, lookupBlock, bypassBlock, dispatch, Machine.goto, hpc₁, h0,
        hhit, Machine.bump]
    obtain ⟨n, hn, hrest⟩ := Decides.of_iterate hm₁ (Decides.of_iterate hjumps
      (decides_exclude rfl ⟨hframe₁.1, hframe₁.2, hframe₁.3⟩))
    refine ⟨n, by omega, ?_⟩
    simpa [DestinationMaps.marks, hhit] using hrest
  · have hjump : iterate (step env
        (decisionBlock modeMapFd rangeMapFd bypassMapFd destination.isIpv6)) 1 m₁ =
        some { m₁ with pc := 7 } := by
      simp [iterate, step, decisionBlock, lookupBlock, bypassBlock, dispatch, Machine.goto, hpc₁, h0,
        hhit]
    have hframe₂ : Frame mark { m₁ with pc := 7 } := ⟨hframe₁.1, hframe₁.2, hframe₁.3⟩
    have hkeyed₂ : Keyed env.uid destination { m₁ with pc := 7 } := ⟨hkeyed₁.1, hkeyed₁.2, hkeyed₁.3⟩
    obtain ⟨m₃, hm₃, h₃⟩ := lookup_at
      (decisionBlock modeMapFd rangeMapFd bypassMapFd destination.isIpv6)
      (lookupBlock bypassMapFd (keyOffset destination.isIpv6) ++ bypassBlock) _
      (by simp only [decisionBlock, List.append_assoc]; rfl) (by simp [lookupBlock, bypassBlock])
      hmode (uid_pointer hframe₂) (find_word maps.mode hkeyed₂.uid_eq (by norm_num))
    have hpc₃ : m₃.pc = 12 := h₃.pc_eq
    have h8₃ : m₃.registers 8 = markRegister (maps.pid.contains env.tgid) := by
      rw [h₃.register 8 (by norm_num)]
      exact h8₁
    obtain ⟨n, hn, hrest⟩ := Decides.of_iterate hm₁ (Decides.of_iterate hjump
      (Decides.of_iterate hm₃ (decides_modeBlock hrange hpc₃ (h₃.frame hframe₂) (h₃.keyed hkeyed₂)
        h₃.result h₃.value h8₃)))
    refine ⟨n, by omega, ?_⟩
    simpa [DestinationMaps.marks, hhit] using hrest

end decision

/-! ## Setting the mark -/

/-- The mark a socket has after a decision: the firewall mark if it is marked; else a firewall
mark left by an earlier decision is cleared and every other mark is kept. -/
def markAfter (marked : Bool) (mark : BitVec 32) : BitVec 32 :=
  if marked then FWMARK_VALUE else if mark = FWMARK_VALUE then 0 else mark

/-- A socket carries the firewall mark exactly if the last decision was to mark it. -/
theorem markAfter_eq_fwmark_iff (marked : Bool) (mark : BitVec 32) :
    markAfter marked mark = FWMARK_VALUE ↔ marked = true := by
  have hne : (0 : BitVec 32) ≠ FWMARK_VALUE := by decide
  cases marked with
  | true => simp [markAfter]
  | false =>
      by_cases hold : mark = FWMARK_VALUE
      · simpa [markAfter, hold] using hne
      · simp [markAfter, hold]

/-- The firewall mark is non-negative as an `i32`, so sign extension keeps its value. -/
theorem toNat_signExtend_fwmark : (FWMARK_VALUE.signExtend 64).toNat = FWMARK_VALUE.toNat := by
  have hmsb : FWMARK_VALUE.msb = false := by decide
  have hlt := FWMARK_VALUE.isLt
  rw [BitVec.signExtend_eq_setWidth_of_msb_false hmsb, BitVec.toNat_setWidth]
  omega

theorem zero_ne_fwmark : 0#64 ≠ FWMARK_VALUE.signExtend 64 := by
  intro h
  have := congrArg BitVec.toNat h
  rw [toNat_signExtend_fwmark] at this
  simp [FWMARK_VALUE] at this

theorem setWidth_eq_fwmark_iff (mark : BitVec 32) :
    mark.setWidth 64 = FWMARK_VALUE.signExtend 64 ↔ mark = FWMARK_VALUE := by
  have hlt := mark.isLt
  rw [← BitVec.toNat_inj, toNat_signExtend_fwmark, BitVec.toNat_setWidth, ← BitVec.toNat_inj,
    Nat.mod_eq_of_lt (by omega)]

theorem setBlock_spec (env : Environment) (new : BitVec 32) (hpc : m.pc = 0)
    (hframe : Frame mark m) :
    ∃ m', iterate (step env (setBlock new)) 8 m = some m' ∧ m'.pc = 8 ∧ Frame new m' := by
  obtain ⟨hcontext, hstack, hmark⟩ := hframe
  simp [iterate, step, setBlock, optionBlock, dispatch, Machine.store, Machine.load, hpc, hstack]
  constructor <;> simp [hcontext, hstack]

/-- Setting the mark inside a longer program. -/
theorem set_at (env : Environment) (code front back : List BpfInsn) (new : BitVec 32)
    (hcode : code = front ++ (setBlock new ++ back)) (hpc : m.pc = front.length)
    (hframe : Frame mark m) :
    ∃ m', iterate (step env code) 8 m = some m' ∧ m'.pc = front.length + 8 ∧ Frame new m' := by
  obtain ⟨m', hm', hpc', hframe'⟩ := setBlock_spec env (m := { m with pc := 0 }) new rfl
    ⟨hframe.1, hframe.2, hframe.3⟩
  refine ⟨m'.shift front.length, hcode ▸ iterate_at hpc hm', ?_, hframe'.1, hframe'.2, hframe'.3⟩
  simp [Machine.shift, hpc']

theorem currentBlock_spec (env : Environment) (hpc : m.pc = 0) (hframe : Frame mark m)
    (h8 : m.registers 8 = markRegister false) :
    ∃ m', iterate (step env currentBlock) 9 m = some m' ∧ m'.pc = 9 ∧ Frame mark m' ∧
      m'.registers 0 = mark.setWidth 64 := by
  obtain ⟨hcontext, hstack, hmark⟩ := hframe
  have hne := zero_ne_fwmark
  have hword := ofLeBytes_leBytes_four mark
  simp [iterate, step, currentBlock, optionBlock, dispatch, Machine.store, Machine.load, hpc, h8,
    hstack, markRegister, hne, hmark, hword]
  constructor <;> simp [hcontext, hstack, hmark]

/-- The program's last slots: the connect is allowed. -/
theorem allow_at (hpc : m.pc = 27) :
    iterate (step env markBlock) 1 m = some (m.setRegister 0 1).bump := by
  simp [iterate, step, markBlock, currentBlock, optionBlock, setBlock, dispatch, hpc]

theorem markBlock_spec (env : Environment) {marked : Bool} (hpc : m.pc = 0) (hframe : Frame mark m)
    (h8 : m.registers 8 = markRegister marked) :
    ∃ n ≤ 20, ∃ m', iterate (step env markBlock) n m = some m' ∧ m'.pc = 28 ∧
      m'.registers 0 = 1 ∧ m'.mark = markAfter marked mark := by
  cases marked with
  | true =>
      have hjump : iterate (step env markBlock) 1 m = some { m with pc := 19 } := by
        simp [iterate, step, markBlock, currentBlock, dispatch, Machine.goto, hpc, h8, markRegister]
      obtain ⟨m₁, hm₁, hpc₁, hframe₁⟩ := set_at env (m := { m with pc := 19 }) markBlock
        (currentBlock ++ ([jumpNeImm 0 FWMARK_VALUE 17] ++ (setBlock 0 ++ [BpfInsn.jump 8])))
        [movImm 0 1, BpfInsn.exit] FWMARK_VALUE (by simp [markBlock]) rfl
        ⟨hframe.1, hframe.2, hframe.3⟩
      refine ⟨1 + (8 + 1), by norm_num, _, iterate_add hjump (iterate_add hm₁ (allow_at hpc₁)), ?_⟩
      simp [hpc₁, hframe₁.mark_eq, markAfter, currentBlock, optionBlock, setBlock]
  | false =>
      obtain ⟨m₁, hm₁, hpc₁, hframe₁, h0⟩ := currentBlock_spec env hpc hframe h8
      have hcurrent : iterate (step env markBlock) 9 m = some m₁ := iterate_front hm₁
      by_cases hold : mark = FWMARK_VALUE
      · have hnext : iterate (step env markBlock) 1 m₁ = some m₁.bump := by
          simp [iterate, step, markBlock, currentBlock, optionBlock, dispatch, hpc₁, h0, hold,
            setWidth_eq_fwmark_iff]
        obtain ⟨m₂, hm₂, hpc₂, hframe₂⟩ := set_at env (m := m₁.bump) markBlock
          (currentBlock ++ [jumpNeImm 0 FWMARK_VALUE 17]) _ 0
          (by simp only [markBlock, List.append_assoc]; rfl)
          (by simp [hpc₁, currentBlock, optionBlock])
          ⟨hframe₁.1, hframe₁.2, hframe₁.3⟩
        have hjump : iterate (step env markBlock) 1 m₂ = some { m₂ with pc := 27 } := by
          have hpc₂' : m₂.pc = 18 := hpc₂
          simp [iterate, step, markBlock, currentBlock, optionBlock, setBlock, dispatch,
            Machine.goto, hpc₂']
        refine ⟨9 + (1 + (8 + (1 + 1))), by norm_num, _, iterate_add hcurrent (iterate_add hnext
          (iterate_add hm₂ (iterate_add hjump (allow_at rfl)))), ?_⟩
        simp [hframe₂.mark_eq, markAfter, hold]
      · have hjump : iterate (step env markBlock) 1 m₁ = some { m₁ with pc := 27 } := by
          simp [iterate, step, markBlock, currentBlock, optionBlock, dispatch, Machine.goto, hpc₁, h0,
            hold, setWidth_eq_fwmark_iff]
        refine ⟨9 + (1 + 1), by norm_num, _, iterate_add hcurrent (iterate_add hjump
          (allow_at rfl)), ?_⟩
        simp [hframe₁.mark_eq, markAfter, hold]

/-! ## The whole program -/

/-- The descriptors of the four maps, pairwise distinct as those of live kernel objects are. -/
structure MapFds where
  pid : BitVec 32
  mode : BitVec 32
  range : BitVec 32
  bypass : BitVec 32
  nodup : [pid, mode, range, bypass].Nodup

/-- The environment of a task whose program reaches `maps` through `fds`. -/
def environment (fds : MapFds) (maps : DestinationMaps) (ipv6 : Bool) (tgid pid uid gid : UInt32) :
    Environment where
  tgid := tgid
  pid := pid
  uid := uid
  gid := gid
  maps fd :=
    if fd = fds.pid.signExtend 64 then some (.hash maps.pid)
    else if fd = fds.mode.signExtend 64 then some (.hash maps.mode)
    else if fd = fds.range.signExtend 64 then some (.lpm (keyBytes ipv6) maps.range)
    else if fd = fds.bypass.signExtend 64 then some (.lpm (keyBytes ipv6) maps.bypass)
    else none

/-- The machine a connect starts from: the context at address 1024 holds the destination, the
stack ends at address 512, and the socket has mark `mark`. -/
def start (destination : IpAddr) (mark : BitVec 32) : Machine where
  registers := Function.update (Function.update (fun _ => 0) 1 1024) 10 512
  memory := Memory.write (fun _ => 0) (destinationAddress destination) destination.octets
  mark := mark
  pc := 0

theorem signExtend_injective : Function.Injective fun fd : BitVec 32 => fd.signExtend 64 := by
  intro a b h
  have h' := congrArg BitVec.toInt h
  simp only [BitVec.toInt_signExtend_of_le (show 32 ≤ 64 by norm_num)] at h'
  exact BitVec.toInt_inj.mp h'


section program

variable (fds : MapFds) (maps : DestinationMaps) (ipv6 : Bool) (tgid pid uid gid : UInt32)

theorem environment_pid : (environment fds maps ipv6 tgid pid uid gid).maps
    (fds.pid.signExtend 64) = some (.hash maps.pid) := by
  simp [environment]

theorem environment_mode : (environment fds maps ipv6 tgid pid uid gid).maps
    (fds.mode.signExtend 64) = some (.hash maps.mode) := by
  have := fds.nodup
  simp_all [environment, signExtend_injective.eq_iff, eq_comm]

theorem environment_range : (environment fds maps ipv6 tgid pid uid gid).maps
    (fds.range.signExtend 64) = some (.lpm (keyBytes ipv6) maps.range) := by
  have := fds.nodup
  simp_all [environment, signExtend_injective.eq_iff, eq_comm]

theorem environment_bypass : (environment fds maps ipv6 tgid pid uid gid).maps
    (fds.bypass.signExtend 64) = some (.lpm (keyBytes ipv6) maps.bypass) := by
  have := fds.nodup
  simp_all [environment, signExtend_injective.eq_iff, eq_comm]

/-- A block in the middle of the assembled program, entered at its first slot. -/
theorem block_at {block : List BpfInsn} {k n : ℕ} {m' : Machine} (code front back : List BpfInsn)
    (hcode : code = front ++ (block ++ back)) (hfront : front.length = k) (hpc : m.pc = k)
    (h : iterate (step env block) n { m with pc := 0 } = some m') :
    iterate (step env code) n m = some (m'.shift k) := by
  subst hcode hfront
  exact iterate_at hpc h

/-- Before the decision: the baseline is in `r8` and the keys are on the stack. -/
theorem prologue_spec (destination : IpAddr) (mark : BitVec 32) (env : Environment)
    (hpid : env.maps (fds.pid.signExtend 64) = some (.hash maps.pid)) :
    ∃ n ≤ 20, ∃ m', iterate (step env
        (assembled fds.pid fds.mode fds.range fds.bypass destination.isIpv6)) n
        (start destination mark) = some m' ∧
      m'.pc = 12 + (keyBlock destination.isIpv6).length ∧ Frame mark m' ∧
      Keyed env.uid destination m' ∧ m'.registers 8 = markRegister (maps.pid.contains env.tgid) := by
  obtain ⟨m₁, hm₁, hpc₁, hframe₁, htgid, hcontext₁⟩ := tgidBlock_spec env
    (m := start destination mark) (by simp [start]) (by simp [start]) rfl
  obtain ⟨m₂, hm₂, h₂⟩ := lookup_at
    (assembled fds.pid fds.mode fds.range fds.bypass destination.isIpv6) tgidBlock _ rfl hpc₁ hpid
    (tgid_pointer hframe₁) (find_word maps.pid htgid (by norm_num))
  have hframe₂ := h₂.frame hframe₁
  obtain ⟨n₃, hn₃, m₃, hm₃, hpc₃, hframe₃, hmem₃, h8₃⟩ := baselineBlock_spec env
    (m := { m₂ with pc := 0 }) rfl ⟨hframe₂.1, hframe₂.2, hframe₂.3⟩ h₂.result
  have hdest : m₃.memory.slice (destinationAddress destination) destination.octets.length =
      destination.octets := by
    have hfits : destinationAddress destination + destination.octets.length ≤ 2048 ∧
        480 ≤ destinationAddress destination := by
      cases destination <;> simp [destinationAddress, IpAddr.isIpv6, IpAddr.octets]
    rw [hmem₃, h₂.memory _ _ hfits.1, hcontext₁ _ _ hfits.2]
    exact Memory.slice_write_same _ _ rfl
  obtain ⟨m₄, hm₄, hpc₄, hframe₄, hkeyed₄, h8₄⟩ := keyBlock_spec env
    (m := { m₃ with pc := 0 }) rfl ⟨hframe₃.1, hframe₃.2, hframe₃.3⟩ hdest
  have hlen : (keyBlock destination.isIpv6).length ≤ 9 := by
    cases destination <;> simp [keyBlock, IpAddr.isIpv6]
  have hbaseline := block_at (k := 9)
    (assembled fds.pid fds.mode fds.range fds.bypass destination.isIpv6)
    (tgidBlock ++ lookupBlock fds.pid (-36)) _ rfl rfl (by rw [h₂.pc_eq, hpc₁]) hm₃
  have hkey := block_at (m := m₃.shift 9) (k := 12)
    (assembled fds.pid fds.mode fds.range fds.bypass destination.isIpv6)
    (tgidBlock ++ (lookupBlock fds.pid (-36) ++ baselineBlock)) _ rfl rfl
    (by simp [Machine.shift, hpc₃]) hm₄
  refine ⟨4 + (4 + (n₃ + (keyBlock destination.isIpv6).length)), by omega, _,
    iterate_add (iterate_front hm₁) (iterate_add hm₂ (iterate_add hbaseline hkey)), ?_,
    ⟨hframe₄.1, hframe₄.2, hframe₄.3⟩, ⟨hkeyed₄.1, hkeyed₄.2, hkeyed₄.3⟩, ?_⟩
  · simp [Machine.shift, hpc₄]
  · change m₄.registers 8 = _
    rw [h8₄]
    change m₃.registers 8 = _
    rw [h8₃, ExtTreeMap.isSome_getElem?_eq_contains]

end program

/-- The assembled program reaches its exit inside the interpreter's budget. -/
theorem assembled_run (fds : MapFds) (maps : DestinationMaps) (tgid pid uid gid : UInt32)
    (destination : IpAddr) (mark : BitVec 32) :
    ∃ m, run (step (environment fds maps destination.isIpv6 tgid pid uid gid)
          (assembled fds.pid fds.mode fds.range fds.bypass destination.isIpv6)) 199
          (start destination mark) = some m ∧
        m.registers 0 = 1 ∧ m.mark = markAfter (maps.marks uid tgid destination) mark := by
  set env := environment fds maps destination.isIpv6 tgid pid uid gid with henv
  set code := assembled fds.pid fds.mode fds.range fds.bypass destination.isIpv6 with hcode
  obtain ⟨n₁, hn₁, m₁, hm₁, hpc₁, hframe₁, hkeyed₁, h8₁⟩ := prologue_spec fds maps destination mark
    env (environment_pid ..)
  obtain ⟨n₂, hn₂, m₂, hm₂, hpc₂, hframe₂, h8₂⟩ := decisionBlock_spec (m := { m₁ with pc := 0 })
    (environment_mode ..) (environment_range ..) (environment_bypass ..) rfl
    ⟨hframe₁.1, hframe₁.2, hframe₁.3⟩ ⟨hkeyed₁.1, hkeyed₁.2, hkeyed₁.3⟩ h8₁
  obtain ⟨n₃, hn₃, m₃, hm₃, hpc₃, hresult, hmark⟩ := markBlock_spec env
    (m := { m₂ with pc := 0 }) rfl ⟨hframe₂.1, hframe₂.2, hframe₂.3⟩ h8₂
  have hdecision := block_at (k := 12 + (keyBlock destination.isIpv6).length) code
    (tgidBlock ++ (lookupBlock fds.pid (-36) ++ (baselineBlock ++ keyBlock destination.isIpv6))) _
    (by simp only [hcode, assembled, List.append_assoc]; rfl)
    (by simp [tgidBlock, lookupBlock, baselineBlock]; omega) hpc₁ hm₂
  let front := tgidBlock ++ (lookupBlock fds.pid (-36) ++ (baselineBlock ++
    (keyBlock destination.isIpv6 ++
      decisionBlock fds.mode fds.range fds.bypass destination.isIpv6)))
  have hfront : front.length = 12 + (keyBlock destination.isIpv6).length + 24 := by
    simp [front, tgidBlock, lookupBlock, baselineBlock, decisionBlock, bypassBlock, modeBlock,
      rangeBlock, excludeBlock]
    omega
  have hset := block_at (m := m₂.shift (12 + (keyBlock destination.isIpv6).length)) code front []
    (by simp only [hcode, front, assembled, List.append_assoc, List.append_nil]) hfront
    (by simp [Machine.shift, hpc₂]) hm₃
  have hsteps := iterate_add hm₁ (iterate_add hdecision hset)
  set m := m₃.shift (12 + (keyBlock destination.isIpv6).length + 24)
  have hhalt : step env code m = .halt m := by
    have hfetch : code[m.pc]? = some BpfInsn.exit := by
      have hpc : m.pc = front.length + 28 := by simp [m, Machine.shift, hpc₃, hfront]
      rw [hpc, show code = front ++ markBlock by simp [hcode, front, assembled],
        List.getElem?_append_right (Nat.le_add_right _ _), Nat.add_sub_cancel_left]
      rfl
    rw [step_of_getElem? hfetch]
    simp [dispatch]
  obtain ⟨fuel, hfuel⟩ : ∃ fuel, 199 = n₁ + (n₂ + n₃) + (fuel + 1) :=
    ⟨198 - (n₁ + (n₂ + n₃)), by omega⟩
  refine ⟨m, ?_, hresult, hmark⟩
  rw [hfuel, run_of_iterate hsteps]
  exact run_of_halt hhalt fuel

/-- **The destination program takes the documented decision.** For every content of its four maps,
every task, every destination of either family and every mark the socket already has: the builder
yields a program, the program reaches its exit inside the interpreter's budget with `r0 = 1`, and
the socket's mark is then the one of the decision. In particular the socket carries the firewall
mark exactly if this connect is to be marked, whatever an earlier connect left. -/
theorem destinationMarkProgram_marks (fds : MapFds) (maps : DestinationMaps)
    (tgid pid uid gid : UInt32) (destination : IpAddr) (mark : BitVec 32) :
    ∃ code, destinationMarkProgram fds.pid fds.mode fds.range fds.bypass destination.isIpv6 =
        some code ∧
      ∃ m, run (step (environment fds maps destination.isIpv6 tgid pid uid gid) code) 199
          (start destination mark) = some m ∧
        m.registers 0 = 1 ∧ m.mark = markAfter (maps.marks uid tgid destination) mark ∧
        (m.mark = FWMARK_VALUE ↔ maps.marks uid tgid destination = true) := by
  obtain ⟨m, hrun, hresult, hmark⟩ := assembled_run fds maps tgid pid uid gid destination mark
  refine ⟨_, destinationMarkProgram_eq_assembled _ _ _ _ _, m, hrun, hresult, hmark, ?_⟩
  rw [hmark]
  exact markAfter_eq_fwmark_iff _ _

end ProtonVpnOmarchy.Splitd.Bpf
