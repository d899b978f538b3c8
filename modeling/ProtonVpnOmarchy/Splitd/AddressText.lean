import ProtonVpnOmarchy.Splitd.Net

/-!
# The text of addresses

`std::net` prints an address and reads it back: `IpAddr.fromStr_display`. An IPv6 address is printed
with its longest run of zero groups left out, and a mapped IPv4 address in dotted form.
-/

namespace ProtonVpnOmarchy.Splitd

open Lib

/-! ## Printing -/

/-- `Ipv4Addr::fmt` -/
def Ipv4Addr.display (address : Ipv4Addr) : List Char :=
  ['.'].intercalate ((beBytes 4 address).map fun octet => Nat.toDigits 10 octet.toNat)

/-- The eight groups of an IPv6 address. -/
def Ipv6Addr.segments (address : Ipv6Addr) : List ℕ :=
  (List.range 8).map fun i => address.toNat / 65536 ^ (7 - i) % 65536

/-- A run of zero groups. -/
structure Span where
  start : ℕ
  len : ℕ

/-- The longest and the current run after the group at `index`. -/
def Span.extend (longest current : Span) (index segment : ℕ) : Span × Span :=
  if segment = 0 then
    let current : Span := ⟨if current.len = 0 then index else current.start, current.len + 1⟩
    (if longest.len < current.len then current else longest, current)
  else (longest, ⟨0, 0⟩)

/-- The first of the longest runs of zero groups. -/
def longestZeroes (segments : List ℕ) : Span :=
  (segments.zipIdx.foldl (fun (longest, current) (segment, index) =>
    longest.extend current index segment) (⟨0, 0⟩, ⟨0, 0⟩)).1

def displayGroups (groups : List ℕ) : List Char :=
  [':'].intercalate (groups.map (Nat.toDigits 16))

/-- `Ipv6Addr::fmt` -/
def Ipv6Addr.display (address : Ipv6Addr) : List Char :=
  if address.segments.take 6 = [0, 0, 0, 0, 0, 0xffff] then
    "::ffff:".toList ++ Ipv4Addr.display (BitVec.ofNat 32 (address.toNat % 2 ^ 32))
  else
    let zeroes := longestZeroes address.segments
    if 1 < zeroes.len then
      displayGroups (address.segments.take zeroes.start) ++ [':', ':'] ++
        displayGroups (address.segments.drop (zeroes.start + zeroes.len))
    else displayGroups address.segments

/-- `IpAddr::fmt` -/
def IpAddr.display : IpAddr → String
  | .v4 address => String.ofList address.display
  | .v6 address => String.ofList address.display

example : IpAddr.display (.v4 0xc0000207) = "192.0.2.7" := by decide +kernel

example : IpAddr.display (.v6 0xfe800000000000000000000000000001) = "fe80::1" := by decide +kernel

/-! ### The run that is left out -/

/-- The span is a run of zeroes of the list. -/
def Span.ZeroesOf (span : Span) (segments : List ℕ) : Prop :=
  span.start + span.len ≤ segments.length ∧
    ∀ i, span.start ≤ i → i < span.start + span.len → segments[i]? = some 0

theorem Span.ZeroesOf.append {span : Span} {segments : List ℕ} (h : span.ZeroesOf segments)
    (rest : List ℕ) : span.ZeroesOf (segments ++ rest) := by
  obtain ⟨hle, hzero⟩ := h
  refine ⟨by rw [List.length_append]; omega, ?_⟩
  intro i hstart hend
  rw [List.getElem?_append_left (by omega)]
  exact hzero i hstart hend

/-- The current run with one more zero, or a new run of one zero. -/
theorem Span.ZeroesOf.next {current : Span} {segments : List ℕ} (h : current.ZeroesOf segments)
    (hend : current.len ≠ 0 → current.start + current.len = segments.length) :
    Span.ZeroesOf ⟨if current.len = 0 then segments.length else current.start, current.len + 1⟩
        (segments ++ [0]) ∧
      (if current.len = 0 then segments.length else current.start) + (current.len + 1) =
        (segments ++ [0]).length := by
  have hlength : (if current.len = 0 then segments.length else current.start) +
      (current.len + 1) = (segments ++ [0]).length := by
    rw [List.length_append, List.length_singleton]
    split_ifs with hlen
    · omega
    · have := hend hlen
      omega
  refine ⟨⟨hlength.le, ?_⟩, hlength⟩
  intro i hstart hlt
  dsimp only at hstart hlt
  rw [hlength, List.length_append, List.length_singleton] at hlt
  by_cases hi : i = segments.length
  · rw [hi]
    simp
  · rw [List.getElem?_append_left (by omega)]
    split_ifs at hstart with hlen
    · omega
    · refine h.2 i hstart ?_
      have := hend hlen
      omega

theorem Span.extend_zeroesOf {longest current : Span} {segments : List ℕ} (segment : ℕ)
    (hlongest : longest.ZeroesOf segments) (hcurrent : current.ZeroesOf segments)
    (hend : current.len ≠ 0 → current.start + current.len = segments.length) :
    (longest.extend current segments.length segment).1.ZeroesOf (segments ++ [segment]) ∧
      (longest.extend current segments.length segment).2.ZeroesOf (segments ++ [segment]) ∧
      ((longest.extend current segments.length segment).2.len ≠ 0 →
        (longest.extend current segments.length segment).2.start +
          (longest.extend current segments.length segment).2.len =
            (segments ++ [segment]).length) := by
  unfold Span.extend
  by_cases hzero : segment = 0
  · subst hzero
    obtain ⟨hnext, hlength⟩ := hcurrent.next hend
    rw [if_pos rfl]
    refine ⟨?_, hnext, fun _ => hlength⟩
    by_cases hlonger : longest.len < current.len + 1
    · simp only [hlonger, if_true]
      exact hnext
    · simp only [hlonger, if_false]
      exact hlongest.append _
  · rw [if_neg hzero]
    refine ⟨hlongest.append _, ⟨by simp, ?_⟩, fun h => absurd rfl h⟩
    intro i _ hlt
    simp at hlt

theorem zeroesOf_foldl {longest current : Span} {segments : List ℕ} (rest : List ℕ)
    (hlongest : longest.ZeroesOf segments) (hcurrent : current.ZeroesOf segments)
    (hend : current.len ≠ 0 → current.start + current.len = segments.length) :
    ((rest.zipIdx segments.length).foldl (fun (longest, current) (segment, index) =>
      longest.extend current index segment) (longest, current)).1.ZeroesOf (segments ++ rest) := by
  induction rest generalizing longest current segments with
  | nil => simpa using hlongest
  | cons segment rest ih =>
      obtain ⟨h₁, h₂, h₃⟩ := Span.extend_zeroesOf segment hlongest hcurrent hend
      have hrest := ih h₁ h₂ h₃
      rw [List.append_assoc, List.singleton_append, List.length_append, List.length_singleton]
        at hrest
      rw [List.zipIdx_cons, List.foldl_cons]
      exact hrest

/-- What is printed and what is left out make up the groups. -/
theorem longestZeroes_spec (segments : List ℕ) :
    segments = segments.take (longestZeroes segments).start ++
      List.replicate (longestZeroes segments).len 0 ++
        segments.drop ((longestZeroes segments).start + (longestZeroes segments).len) ∧
      (longestZeroes segments).start + (longestZeroes segments).len ≤ segments.length := by
  have hnil : Span.ZeroesOf ⟨0, 0⟩ [] := ⟨le_rfl, fun i _ hlt => absurd hlt (by simp)⟩
  obtain ⟨hle, hzero⟩ : (longestZeroes segments).ZeroesOf segments := by
    simpa [longestZeroes] using zeroesOf_foldl segments hnil hnil (fun h => absurd rfl h)
  refine ⟨?_, hle⟩
  have hrun : (segments.drop (longestZeroes segments).start).take (longestZeroes segments).len =
      List.replicate (longestZeroes segments).len 0 := by
    refine List.ext_getElem? fun i => ?_
    rw [List.getElem?_take, List.getElem?_replicate, List.getElem?_drop]
    split_ifs with hi
    · exact hzero _ (by omega) (by omega)
    · rfl
  rw [← hrun, List.append_assoc, ← List.drop_drop, List.take_append_drop, List.take_append_drop]

/-! ## Reading numbers -/

namespace Parser

section numbers

variable {radix n : ℕ} {rest : List Char}

theorem toDigit_digitChar (hradix : radix ≤ 16) (hn : n < radix) :
    toDigit radix n.digitChar = some n := by
  have hn16 : n < 16 := hn.trans_le hradix
  interval_cases n <;> simp [toDigit, Nat.digitChar, hn]

theorem digits_toDigits (hradix : radix ≤ 16) (h1 : 1 < radix) (n : ℕ) :
    (∀ c ∈ Nat.toDigits radix n, (toDigit radix c).isSome = true) ∧
      (Nat.toDigits radix n).foldl (fun m c => m * radix + (toDigit radix c).getD 0) 0 = n ∧
      ((Nat.toDigits radix n).head? = some '0' → n = 0) := by
  induction n using Nat.strongRecOn with
  | ind n ih =>
      by_cases hn : n < radix
      · rw [Nat.toDigits_of_lt_base hn]
        simp [toDigit_digitChar hradix hn]
      · have hle : radix ≤ n := Nat.le_of_not_lt hn
        have hmod : n % radix < radix := Nat.mod_lt _ (by omega)
        obtain ⟨hdigits, hfold, hhead⟩ := ih (n / radix) (Nat.div_lt_self (by omega) h1)
        rw [Nat.toDigits_of_base_le h1 hle]
        refine ⟨?_, ?_, ?_⟩
        · intro c hc
          rcases List.mem_append.mp hc with hc | hc
          · exact hdigits c hc
          · rw [List.mem_singleton.mp hc, toDigit_digitChar hradix hmod]
            rfl
        · rw [List.foldl_append, hfold]
          simp only [List.foldl_cons, List.foldl_nil, toDigit_digitChar hradix hmod,
            Option.getD_some]
          rw [Nat.mul_comm]
          exact Nat.div_add_mod n radix
        · intro hzero
          rw [List.head?_append_of_ne_nil _ Nat.toDigits_ne_nil] at hzero
          have hdiv := hhead hzero
          have := Nat.div_pos hle (by omega)
          omega

/-- A printed number is read up to the first character that is no digit. -/
theorem readNumber_toDigits {maxDigits bound : ℕ} {allowZeroPrefix : Bool} (hradix : radix ≤ 16)
    (h1 : 1 < radix) (hmax : 0 < maxDigits) (hn : n < bound) (hbound : n < radix ^ maxDigits)
    (hrest : ∀ c, rest.head? = some c → toDigit radix c = none) :
    readNumber radix maxDigits bound allowZeroPrefix (Nat.toDigits radix n ++ rest) =
      some (n, rest) := by
  obtain ⟨hdigits, hfold, hhead⟩ := digits_toDigits hradix h1 n
  have htake : (Nat.toDigits radix n ++ rest).takeWhile (fun c => (toDigit radix c).isSome) =
      Nat.toDigits radix n := by
    rw [List.takeWhile_append_of_pos hdigits]
    rcases rest with _ | ⟨c, rest⟩
    · simp
    · simp [hrest c rfl]
  have hlength := (Nat.length_toDigits_le_iff h1 hmax).mpr hbound
  have hpos : 0 < (Nat.toDigits radix n).length := Nat.length_toDigits_pos
  unfold readNumber
  simp only [htake, hfold, List.drop_left]
  rw [if_neg (by omega), if_neg ?_, if_neg (by omega)]
  rintro ⟨-, hzero, hlong⟩
  rw [hhead hzero, Nat.toDigits_zero] at hlong
  simp at hlong

/-- A number begins with a digit. -/
theorem readNumber_none {maxDigits bound : ℕ} {allowZeroPrefix : Bool}
    (hrest : ∀ c, rest.head? = some c → toDigit radix c = none) :
    readNumber radix maxDigits bound allowZeroPrefix rest = none := by
  have htake : rest.takeWhile (fun c => (toDigit radix c).isSome) = [] := by
    rcases rest with _ | ⟨c, rest⟩
    · rfl
    · simp [hrest c rfl]
  unfold readNumber
  simp [htake]

theorem readGivenChar_cons (c : Char) (rest : List Char) :
    readGivenChar c (c :: rest) = some ((), rest) := by
  simp [readGivenChar]

theorem readGivenChar_none {c : Char} (h : rest.head? ≠ some c) : readGivenChar c rest = none := by
  rcases rest with _ | ⟨c', rest⟩
  · rfl
  · have hc : c' ≠ c := fun heq => h (by rw [heq]; rfl)
    simp [readGivenChar, hc]

/-! ## Reading IPv4 addresses -/

theorem ipv4_display_eq (address : Ipv4Addr) :
    address.display = Nat.toDigits 10 (address.toNat / 2 ^ 24 % 256) ++ '.' ::
      (Nat.toDigits 10 (address.toNat / 2 ^ 16 % 256) ++ '.' ::
        (Nat.toDigits 10 (address.toNat / 2 ^ 8 % 256) ++ '.' ::
          Nat.toDigits 10 (address.toNat % 256))) := by
  have hbytes : (beBytes 4 address).map BitVec.toNat = [address.toNat / 2 ^ 24 % 256,
      address.toNat / 2 ^ 16 % 256, address.toNat / 2 ^ 8 % 256, address.toNat % 256] := by
    simp [beBytes, List.ofFn_succ, BitVec.extractLsb'_toNat, Nat.shiftRight_eq_div_pow]
  have hmap : (beBytes 4 address).map (fun octet => Nat.toDigits 10 octet.toNat) =
      ((beBytes 4 address).map BitVec.toNat).map (Nat.toDigits 10) := by
    rw [List.map_map]
    rfl
  unfold Ipv4Addr.display
  rw [hmap, hbytes]
  simp [List.intercalate]

theorem toDigit_dot : ∀ c, ('.' :: rest).head? = some c → toDigit 10 c = none := by
  intro c hc
  obtain rfl : '.' = c := by simpa using hc
  decide

/-- A printed IPv4 address is read up to the first character that is no digit. -/
theorem readIpv4Addr_display (address : Ipv4Addr)
    (hrest : ∀ c, rest.head? = some c → toDigit 10 c = none) :
    readIpv4Addr (address.display ++ rest) = some (address, rest) := by
  have hoctet : ∀ (n : ℕ) {rest : List Char}, (∀ c, rest.head? = some c → toDigit 10 c = none) →
      readNumber 10 3 256 false (Nat.toDigits 10 (n % 256) ++ rest) = some (n % 256, rest) :=
    fun n _ h => readNumber_toDigits (by decide) (by decide) (by decide)
      (Nat.mod_lt _ (by decide)) ((Nat.mod_lt _ (by decide)).trans (by decide)) h
  have hlt : address.toNat < 2 ^ 32 := address.isLt
  unfold readIpv4Addr
  rw [ipv4_display_eq]
  simp only [List.append_assoc, List.cons_append, bind, StateT.bind, hoctet _ toDigit_dot,
    readGivenChar_cons, hoctet _ hrest, Option.bind_some]
  simp only [pure, StateT.pure, Option.some.injEq, Prod.mk.injEq, and_true]
  apply BitVec.eq_of_toNat_eq
  rw [BitVec.toNat_ofNat]
  omega

theorem readIpv4Addr_all (address : Ipv4Addr) :
    readIpv4Addr address.display = some (address, []) := by
  have hread : readIpv4Addr (address.display ++ []) = some (address, []) :=
    readIpv4Addr_display address (by simp)
  rwa [List.append_nil] at hread

/-- Without a dot there is no IPv4 address. -/
theorem readIpv4Addr_none {text : List Char} (h : '.' ∉ text) : readIpv4Addr text = none := by
  unfold readIpv4Addr
  simp only [bind, StateT.bind]
  cases hread : readNumber 10 3 256 false text with
  | none => rfl
  | some result =>
      obtain ⟨n, text'⟩ := result
      have hsuffix : text' <:+ text := by
        unfold readNumber at hread
        dsimp only at hread
        split_ifs at hread
        obtain ⟨-, rfl⟩ := Prod.mk.inj (Option.some.inj hread)
        exact List.drop_suffix _ _
      have hdot : text'.head? ≠ some '.' :=
        fun hhead => h (hsuffix.mem (List.mem_of_head? hhead))
      simp [readGivenChar_none hdot]

/-! ## Reading groups -/

theorem displayGroups_cons {g : ℕ} {groups : List ℕ} (h : groups ≠ []) :
    displayGroups (g :: groups) = Nat.toDigits 16 g ++ ':' :: displayGroups groups := by
  unfold displayGroups
  rw [List.map_cons, List.intercalate_cons_of_ne_nil (by simpa using h)]
  simp

theorem not_dot_mem_displayGroups (groups : List ℕ) : '.' ∉ displayGroups groups := by
  intro hdot
  rcases mem_intercalate_singleton hdot with h | ⟨digits, hdigits, h⟩
  · cases h
  · obtain ⟨g, -, rfl⟩ := List.mem_map.mp hdigits
    have hdigit : (toDigit 16 '.').isSome = true :=
      (digits_toDigits (by decide) (by decide) g).1 '.' h
    simp [toDigit] at hdigit

/-- What can stand behind the groups: nothing, or the colons of a run of zeroes. -/
def GroupsEnd (rest : List Char) : Prop := rest = [] ∨ ∃ tail, rest = ':' :: ':' :: tail

theorem toDigit_colon : ∀ c, (':' :: rest).head? = some c → toDigit 16 c = none := by
  intro c hc
  obtain rfl : ':' = c := by simpa using hc
  decide

theorem GroupsEnd.toDigit_none (h : GroupsEnd rest) :
    ∀ c, rest.head? = some c → toDigit 16 c = none := by
  rcases h with rfl | ⟨tail, rfl⟩
  · simp
  · exact toDigit_colon

section readers

variable {α β : Type}

theorem orElse_apply (p q : Parser α) (text : List Char) :
    (p <|> q) text = (p text).or (q text) := by
  change Option.orElse (p text) (fun _ => q text) = _
  cases p text with
  | none => rfl
  | some result => rfl

theorem bind_apply (p : Parser α) (f : α → Parser β) (text : List Char) :
    (p >>= f) text = (p text).bind fun (a, text) => f a text := rfl

theorem pure_apply (a : α) (text : List Char) : (pure a : Parser α) text = some (a, text) := rfl

theorem failure_apply (text : List Char) : (failure : Parser α) text = none := rfl

end readers

/-- The separator before a group that is not the first. -/
def readSeparator (first : Bool) : Parser Unit := if first then pure () else readGivenChar ':'

theorem readSeparator_suffix {first : Bool} {text text' : List Char}
    (h : readSeparator first text = some ((), text')) : text' <:+ text := by
  unfold readSeparator at h
  split_ifs at h
  · obtain ⟨-, rfl⟩ := Prod.mk.inj (Option.some.inj h)
    exact List.suffix_refl _
  · unfold readGivenChar at h
    rcases text with _ | ⟨c, text⟩
    · cases h
    · dsimp only at h
      split_ifs at h
      obtain ⟨-, rfl⟩ := Prod.mk.inj (Option.some.inj h)
      exact List.suffix_cons _ _

/-- One place, if no IPv4 address stands there. -/
theorem readGroups_succ {slots : ℕ} {first : Bool} {text : List Char} (hdot : '.' ∉ text) :
    readGroups (slots + 1) first text =
      ((readSeparator first text).bind fun (_, text) =>
        (readNumber 16 4 65536 true text).bind fun (g, text) =>
          (readGroups slots false text).bind fun (result, text) =>
            some ((g :: result.1, result.2), text)).or (some (([], false), text)) := by
  have hembedded : ∀ separated, separated = readSeparator first text →
      (separated.bind fun (_, text) => (readIpv4Addr text).bind fun (address, text) =>
        some (([address.toNat / 65536, address.toNat % 65536], true), text)) = none := by
    rintro (_ | ⟨_, text'⟩) hseparated
    · rfl
    · have hnone : readIpv4Addr text' = none :=
        readIpv4Addr_none fun hmem => hdot ((readSeparator_suffix hseparated.symm).mem hmem)
      simp [hnone]
  have hseparator : (if first = true then pure () else readGivenChar ':') = readSeparator first :=
    rfl
  rw [readGroups]
  simp only [hseparator, orElse_apply, bind_apply, pure_apply]
  by_cases hslots : slots = 0
  · simp only [hslots, if_true, bind_apply, failure_apply, Option.bind_none, Option.none_or]
  · simp only [hslots, if_false, bind_apply, pure_apply]
    rw [hembedded _ rfl, Option.none_or]

theorem readGroups_end (slots : ℕ) (hdot : '.' ∉ rest) (h : GroupsEnd rest) (first : Bool) :
    readGroups slots first rest = some (([], false), rest) := by
  cases slots with
  | zero => rfl
  | succ slots =>
      have hnone : ∀ text, readSeparator first rest = some ((), text) →
          readNumber 16 4 65536 true text = none := by
        intro text htext
        refine readNumber_none ?_
        rcases h with rfl | ⟨tail, rfl⟩
        · rw [List.suffix_nil.mp (readSeparator_suffix htext)]
          simp
        · unfold readSeparator at htext
          split_ifs at htext
          · obtain ⟨-, rfl⟩ := Prod.mk.inj (Option.some.inj htext)
            exact toDigit_colon
          · rw [readGivenChar_cons] at htext
            obtain ⟨-, rfl⟩ := Prod.mk.inj (Option.some.inj htext)
            exact toDigit_colon
      rw [readGroups_succ hdot]
      rcases hseparator : readSeparator first rest with _ | ⟨_, text⟩
      · rfl
      · simp [hnone text hseparator]

/-- Printed groups are read as far as there are places. -/
theorem readGroups_displayGroups {groups : List ℕ} {slots : ℕ} (hslots : groups.length ≤ slots)
    (hlt : ∀ g ∈ groups, g < 65536) (hne : groups ≠ []) (hdot : '.' ∉ rest) (h : GroupsEnd rest) :
    readGroups slots true (displayGroups groups ++ rest) = some ((groups, false), rest) ∧
      readGroups slots false (':' :: (displayGroups groups ++ rest)) =
        some ((groups, false), rest) := by
  induction groups generalizing slots with
  | nil => exact absurd rfl hne
  | cons g groups ih =>
      obtain ⟨slots, rfl⟩ : ∃ n, slots = n + 1 := ⟨slots - 1, by simp at hslots; omega⟩
      have hdot' : '.' ∉ displayGroups (g :: groups) ++ rest := by
        rw [List.mem_append, not_or]
        exact ⟨not_dot_mem_displayGroups _, hdot⟩
      have hg := hlt g List.mem_cons_self
      -- What the number is followed by, and what is read there.
      obtain ⟨behind, htext, hbehind, hread⟩ : ∃ behind,
          displayGroups (g :: groups) ++ rest = Nat.toDigits 16 g ++ behind ∧
            (∀ c, behind.head? = some c → toDigit 16 c = none) ∧
            readGroups slots false behind = some ((groups, false), rest) := by
        by_cases hgroups : groups = []
        · refine ⟨rest, by simp [displayGroups, hgroups], h.toDigit_none, ?_⟩
          rw [hgroups]
          exact readGroups_end slots hdot h false
        · refine ⟨_, by rw [displayGroups_cons hgroups, List.append_assoc, List.cons_append],
            toDigit_colon, ?_⟩
          exact (ih (by simpa using hslots) (fun g hg => hlt g (List.mem_cons_of_mem _ hg))
            hgroups).2
      have hnumber : readNumber 16 4 65536 true (displayGroups (g :: groups) ++ rest) =
          some (g, behind) := by
        rw [htext]
        exact readNumber_toDigits (by decide) (by decide) (by decide) hg (by simpa using hg) hbehind
      constructor
      · rw [readGroups_succ hdot']
        simp [readSeparator, pure_apply, hnumber, hread]
      · rw [readGroups_succ (by simpa using hdot')]
        simp [readSeparator, readGivenChar_cons, hnumber, hread]

/-! ## Reading IPv6 addresses -/

theorem segments_length (address : Ipv6Addr) : address.segments.length = 8 := by
  simp [Ipv6Addr.segments]

theorem segments_lt (address : Ipv6Addr) : ∀ g ∈ address.segments, g < 65536 := by
  intro g hg
  obtain ⟨i, -, rfl⟩ := List.mem_map.mp hg
  exact Nat.mod_lt _ (by decide)

/-- The groups spell the address. -/
theorem word_segments (address : Ipv6Addr) :
    (BitVec.ofNat _ (address.segments.foldl (· * 65536 + ·) 0) : Ipv6Addr) = address := by
  have hlt : address.toNat < 2 ^ 128 := address.isLt
  apply BitVec.eq_of_toNat_eq
  rw [BitVec.toNat_ofNat]
  simp only [Ipv6Addr.segments, List.range_succ, List.range_zero, List.map_cons, List.map_nil,
    List.nil_append, List.cons_append, List.foldl_cons, List.foldl_nil]
  norm_num
  omega

theorem readIpv6Addr_groups (address : Ipv6Addr) :
    readIpv6Addr (displayGroups address.segments) = some (address, []) := by
  have hread := (readGroups_displayGroups (segments_length address).le (segments_lt address)
    (fun hnil => by simpa [hnil] using segments_length address) (List.not_mem_nil)
    (.inl rfl)).1
  rw [List.append_nil] at hread
  unfold readIpv6Addr
  simp only [bind_apply, hread, Option.bind_some, segments_length, if_true]
  simp only [pure_apply, word_segments]

theorem readGroups_first {groups : List ℕ} {slots : ℕ} (hslots : groups.length ≤ slots)
    (hlt : ∀ g ∈ groups, g < 65536) (hdot : '.' ∉ rest) (h : GroupsEnd rest) :
    readGroups slots true (displayGroups groups ++ rest) = some ((groups, false), rest) := by
  by_cases hgroups : groups = []
  · rw [hgroups]
    exact readGroups_end slots hdot h true
  · exact (readGroups_displayGroups hslots hlt hgroups hdot h).1

/-- Groups around two colons stand for groups with zeroes between them. -/
theorem readIpv6Addr_compressed {head tail : List ℕ} (hhead : ∀ g ∈ head, g < 65536)
    (htail : ∀ g ∈ tail, g < 65536) (hlength : head.length + 1 + tail.length ≤ 8) :
    readIpv6Addr (displayGroups head ++ [':', ':'] ++ displayGroups tail) =
      some (BitVec.ofNat _ ((head ++ List.replicate (8 - head.length - tail.length) 0 ++
        tail).foldl (· * 65536 + ·) 0), []) := by
  have hdot : '.' ∉ [':', ':'] ++ displayGroups tail := by
    simp [not_dot_mem_displayGroups]
  have hreadHead : readGroups 8 true (displayGroups head ++ ([':', ':'] ++ displayGroups tail)) =
      some ((head, false), [':', ':'] ++ displayGroups tail) :=
    readGroups_first (by omega) hhead hdot (.inr ⟨_, rfl⟩)
  have hreadTail : readGroups (8 - (head.length + 1)) true (displayGroups tail ++ []) =
      some ((tail, false), []) :=
    readGroups_first (by omega) htail List.not_mem_nil (.inl rfl)
  rw [List.append_nil] at hreadTail
  unfold readIpv6Addr
  rw [List.append_assoc]
  simp only [bind_apply, hreadHead, Option.bind_some]
  rw [if_neg (by omega)]
  simp only [bind_apply, pure_apply, Option.bind_some, List.cons_append, List.nil_append,
    readGivenChar_cons, hreadTail, Bool.false_eq_true, if_false]

theorem readIpv4Addr_of_head {text : List Char}
    (h : ∀ c, text.head? = some c → toDigit 10 c = none) : readIpv4Addr text = none := by
  unfold readIpv4Addr
  rw [bind_apply, readNumber_none h]
  rfl

/-- The first of the groups behind two colons can be followed by a dotted address. -/
theorem readGroups_mapped (address : Ipv4Addr) :
    readGroups 7 true ("ffff:".toList ++ address.display) =
      some (([0xffff, address.toNat / 65536, address.toNat % 65536], true), []) := by
  have hv4 : readIpv4Addr ("ffff:".toList ++ address.display) = none := by
    refine readIpv4Addr_of_head fun c hc => ?_
    obtain rfl : 'f' = c := by simpa using hc
    decide
  have hnumber : readNumber 16 4 65536 true ("ffff:".toList ++ address.display) =
      some (0xffff, ':' :: address.display) :=
    readNumber_toDigits (n := 0xffff) (by decide) (by decide) (by decide) (by decide) (by decide)
      toDigit_colon
  have hdotted := readIpv4Addr_all address
  have hrest : readGroups 6 false (':' :: address.display) =
      some (([address.toNat / 65536, address.toNat % 65536], true), []) := by
    rw [readGroups]
    simp only [Bool.false_eq_true, if_false, Nat.reduceEqDiff, orElse_apply, bind_apply, pure_apply,
      readGivenChar_cons, Option.bind_some, hdotted, Option.some_or]
  rw [readGroups]
  simp only [if_true, Nat.reduceEqDiff, if_false, orElse_apply, bind_apply, pure_apply,
    Option.bind_some, hv4, hnumber, hrest, Option.bind_none, Option.none_or, Option.some_or]

/-- A mapped address is read as the groups it stands for. -/
theorem readIpv6Addr_mapped (address : Ipv4Addr) :
    readIpv6Addr ("::ffff:".toList ++ address.display) =
      some (BitVec.ofNat _ ([0, 0, 0, 0, 0, 0xffff, address.toNat / 65536,
        address.toNat % 65536].foldl (· * 65536 + ·) 0), []) := by
  have htext : "::ffff:".toList ++ address.display =
      ':' :: ':' :: ("ffff:".toList ++ address.display) := rfl
  have hhead : readGroups 8 true (':' :: ':' :: ("ffff:".toList ++ address.display)) =
      some (([], false), ':' :: ':' :: ("ffff:".toList ++ address.display)) := by
    have hv4 : readIpv4Addr (':' :: ':' :: ("ffff:".toList ++ address.display)) = none := by
      refine readIpv4Addr_of_head fun c hc => ?_
      obtain rfl : ':' = c := by simpa using hc
      decide
    rw [readGroups]
    simp only [if_true, Nat.reduceEqDiff, if_false, orElse_apply, bind_apply, pure_apply,
      Option.bind_some, hv4, readNumber_none toDigit_colon, Option.bind_none, Option.none_or]
  rw [htext]
  unfold readIpv6Addr
  simp only [bind_apply, hhead, Option.bind_some]
  rw [if_neg (by decide)]
  simp only [bind_apply, pure_apply, Option.bind_some, readGivenChar_cons, Bool.false_eq_true,
    if_false, List.length_nil, Nat.zero_add, Nat.reduceSub, readGroups_mapped]
  rfl

theorem segments_mapped {address : Ipv6Addr}
    (h : address.segments.take 6 = [0, 0, 0, 0, 0, 0xffff]) :
    address.segments = [0, 0, 0, 0, 0, 0xffff,
      (BitVec.ofNat 32 (address.toNat % 2 ^ 32)).toNat / 65536,
      (BitVec.ofNat 32 (address.toNat % 2 ^ 32)).toNat % 65536] := by
  have hlow : address.segments.drop 6 =
      [address.toNat / 65536 % 65536, address.toNat % 65536] := by
    simp [Ipv6Addr.segments, List.range_succ]
  rw [← List.take_append_drop 6 address.segments, h, hlow, BitVec.toNat_ofNat]
  simp only [List.cons_append, List.nil_append, List.cons.injEq, and_true, true_and]
  omega

theorem readIpv6Addr_display (address : Ipv6Addr) :
    readIpv6Addr address.display = some (address, []) := by
  unfold Ipv6Addr.display
  by_cases hmapped : address.segments.take 6 = [0, 0, 0, 0, 0, 0xffff]
  · rw [if_pos hmapped, readIpv6Addr_mapped, ← segments_mapped hmapped, word_segments]
  · rw [if_neg hmapped]
    dsimp only
    by_cases hzeroes : 1 < (longestZeroes address.segments).len
    · rw [if_pos hzeroes]
      obtain ⟨hsplit, hle⟩ := longestZeroes_spec address.segments
      have hlength := segments_length address
      have hlt := segments_lt address
      have htake : (address.segments.take (longestZeroes address.segments).start).length =
          (longestZeroes address.segments).start := by
        rw [List.length_take]
        omega
      have hdrop : (address.segments.drop ((longestZeroes address.segments).start +
          (longestZeroes address.segments).len)).length = 8 -
            ((longestZeroes address.segments).start + (longestZeroes address.segments).len) := by
        rw [List.length_drop, hlength]
      rw [readIpv6Addr_compressed (fun g hg => hlt g (List.mem_of_mem_take hg))
        (fun g hg => hlt g (List.mem_of_mem_drop hg)) (by omega)]
      have hrun : 8 - (address.segments.take (longestZeroes address.segments).start).length -
          (address.segments.drop ((longestZeroes address.segments).start +
            (longestZeroes address.segments).len)).length =
              (longestZeroes address.segments).len := by
        omega
      rw [hrun, ← hsplit, word_segments]
    · rw [if_neg hzeroes]
      exact readIpv6Addr_groups address

/-- A printed IPv6 address does not begin like an IPv4 address. -/
theorem readIpv4Addr_ipv6_display (address : Ipv6Addr) : readIpv4Addr address.display = none := by
  unfold Ipv6Addr.display
  by_cases hmapped : address.segments.take 6 = [0, 0, 0, 0, 0, 0xffff]
  · rw [if_pos hmapped]
    refine readIpv4Addr_of_head fun c hc => ?_
    obtain rfl : ':' = c := by simpa using hc
    decide
  · rw [if_neg hmapped]
    dsimp only
    by_cases hzeroes : 1 < (longestZeroes address.segments).len
    · rw [if_pos hzeroes]
      refine readIpv4Addr_none ?_
      simp [not_dot_mem_displayGroups]
    · rw [if_neg hzeroes]
      exact readIpv4Addr_none (not_dot_mem_displayGroups _)

end numbers

end Parser

/-- **What is printed is read back.** -/
theorem IpAddr.fromStr_display (address : IpAddr) :
    IpAddr.fromStr address.display = some address := by
  unfold IpAddr.fromStr
  cases address with
  | v4 address =>
      have hread : Parser.readIpAddr.run address.display = some (.v4 address, []) := by
        change Parser.readIpAddr address.display = _
        unfold Parser.readIpAddr
        rw [Parser.orElse_apply, map_eq_pure_bind, Parser.bind_apply,
          Parser.readIpv4Addr_all]
        rfl
      simp only [display, String.toList_ofList, hread]
  | v6 address =>
      have hread : Parser.readIpAddr.run address.display = some (.v6 address, []) := by
        change Parser.readIpAddr address.display = _
        unfold Parser.readIpAddr
        rw [Parser.orElse_apply, map_eq_pure_bind, Parser.bind_apply,
          Parser.readIpv4Addr_ipv6_display, Option.bind_none, Option.none_or, map_eq_pure_bind,
          Parser.bind_apply, Parser.readIpv6Addr_display]
        rfl
      simp only [display, String.toList_ofList, hread]

/-- An address has a text. -/
theorem IpAddr.display_ne_empty (address : IpAddr) : address.display ≠ "" := by
  intro hempty
  have hread := IpAddr.fromStr_display address
  rw [hempty] at hread
  have hnone : IpAddr.fromStr "" = none := by decide +kernel
  rw [hnone] at hread
  cases hread

/-! ## Texts without blanks -/

theorem isWhitespace_of_toDigit {radix : ℕ} {c : Char}
    (h : (Parser.toDigit radix c).isSome = true) : isWhitespace c = false := by
  have hrange : 48 ≤ c.toNat ∧ c.toNat ≤ 122 := by
    by_contra hrange
    have hoff : ¬ ('0' ≤ c ∧ c ≤ '9') ∧ ¬ ('a' ≤ c ∧ c ≤ 'z') ∧ ¬ ('A' ≤ c ∧ c ≤ 'Z') := by
      simp only [Char.le_def, UInt32.le_iff_toNat_le]
      change ¬ (48 ≤ c.toNat ∧ c.toNat ≤ 57) ∧ ¬ (97 ≤ c.toNat ∧ c.toNat ≤ 122) ∧
        ¬ (65 ≤ c.toNat ∧ c.toNat ≤ 90)
      omega
    unfold Parser.toDigit at h
    simp [hoff.1, hoff.2.1, hoff.2.2] at h
  simp only [isWhitespace, Bool.or_eq_false_iff, Bool.and_eq_false_iff, beq_eq_false_iff_ne,
    decide_eq_false_iff_not]
  omega

theorem isWhitespace_ipv4_display (address : Ipv4Addr) :
    ∀ c ∈ address.display, isWhitespace c = false := by
  intro c hc
  rcases mem_intercalate_singleton hc with rfl | ⟨digits, hdigits, hc⟩
  · decide
  · obtain ⟨octet, -, rfl⟩ := List.mem_map.mp hdigits
    exact isWhitespace_of_toDigit ((Parser.digits_toDigits (by decide) (by decide) _).1 c hc)

theorem isWhitespace_displayGroups (groups : List ℕ) :
    ∀ c ∈ displayGroups groups, isWhitespace c = false := by
  intro c hc
  rcases mem_intercalate_singleton hc with rfl | ⟨digits, hdigits, hc⟩
  · decide
  · obtain ⟨group, -, rfl⟩ := List.mem_map.mp hdigits
    exact isWhitespace_of_toDigit ((Parser.digits_toDigits (by decide) (by decide) _).1 c hc)

theorem isWhitespace_ipv6_display (address : Ipv6Addr) :
    ∀ c ∈ address.display, isWhitespace c = false := by
  intro c hc
  unfold Ipv6Addr.display at hc
  dsimp only at hc
  split_ifs at hc
  · rcases List.mem_append.mp hc with hc | hc
    · have hall : ("::ffff:".toList.all fun c => !isWhitespace c) = true := by decide +kernel
      simpa using List.all_eq_true.mp hall c hc
    · exact isWhitespace_ipv4_display _ c hc
  · rcases List.mem_append.mp hc with hc | hc
    · rcases List.mem_append.mp hc with hc | hc
      · exact isWhitespace_displayGroups _ c hc
      · obtain rfl : c = ':' := by simpa using hc
        decide
    · exact isWhitespace_displayGroups _ c hc
  · exact isWhitespace_displayGroups _ c hc

/-- The text of an address has no blanks. -/
theorem IpAddr.trim_display (address : IpAddr) : trim address.display = address.display := by
  cases address with
  | v4 address =>
      exact trim_of_forall fun c hc =>
        isWhitespace_ipv4_display address c hc
  | v6 address =>
      exact trim_of_forall fun c hc =>
        isWhitespace_ipv6_display address c hc

end ProtonVpnOmarchy.Splitd
