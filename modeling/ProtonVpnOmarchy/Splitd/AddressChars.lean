import ProtonVpnOmarchy.Splitd.AddressText

/-!
# The characters of an address

Which characters the standard library's parser reads, for any text that it accepts.

* `isAddressChar_of_fromStr` — an address is spelt with digits, dots and colons.
* `colon_mem_iff` — the colon tells the families apart.
-/

namespace ProtonVpnOmarchy.Splitd

/-- A digit, a dot or a colon. -/
def isAddressChar (c : Char) : Bool := (Parser.toDigit 16 c).isSome || c = '.' || c = ':'

namespace Parser

/-- A digit of any base is a decimal digit or a letter. -/
theorem toNat_of_toDigit {radix : ℕ} {c : Char} (h : (toDigit radix c).isSome) :
    (48 ≤ c.toNat ∧ c.toNat ≤ 57) ∨ (97 ≤ c.toNat ∧ c.toNat ≤ 122) ∨
      (65 ≤ c.toNat ∧ c.toNat ≤ 90) := by
  by_contra hrange
  have hoff : ¬ ('0' ≤ c ∧ c ≤ '9') ∧ ¬ ('a' ≤ c ∧ c ≤ 'z') ∧ ¬ ('A' ≤ c ∧ c ≤ 'Z') := by
    simp only [Char.le_def, UInt32.le_iff_toNat_le]
    change ¬ (48 ≤ c.toNat ∧ c.toNat ≤ 57) ∧ ¬ (97 ≤ c.toNat ∧ c.toNat ≤ 122) ∧
      ¬ (65 ≤ c.toNat ∧ c.toNat ≤ 90)
    omega
  unfold toDigit at h
  simp [hoff.1, hoff.2.1, hoff.2.2] at h

variable {α β : Type} {good : Char → Prop}

/-- What a parser reads has characters of one kind only. -/
def Reads (good : Char → Prop) (p : Parser α) : Prop :=
  ∀ (text rest : List Char) (a : α), p text = some (a, rest) →
    ∃ front, text = front ++ rest ∧ ∀ c ∈ front, good c

theorem Reads.mono {good' : Char → Prop} {p : Parser α} (h : Reads good p)
    (himp : ∀ c, good c → good' c) : Reads good' p := by
  intro text rest a heq
  obtain ⟨front, htext, hfront⟩ := h _ _ _ heq
  exact ⟨front, htext, fun c hc => himp c (hfront c hc)⟩

theorem reads_pure (a : α) : Reads good (pure a : Parser α) := by
  intro text rest a' heq
  rw [pure_apply] at heq
  obtain ⟨-, rfl⟩ := Prod.mk.inj (Option.some.inj heq)
  exact ⟨[], rfl, fun c hc => absurd hc List.not_mem_nil⟩

theorem reads_failure : Reads good (failure : Parser α) := by
  intro text rest a heq
  cases heq

theorem Reads.bind {p : Parser α} {f : α → Parser β} (hp : Reads good p)
    (hf : ∀ a, Reads good (f a)) : Reads good (p >>= f) := by
  intro text rest b heq
  rw [bind_apply] at heq
  obtain ⟨⟨a, middle⟩, ha, hb⟩ := Option.bind_eq_some_iff.mp heq
  obtain ⟨front, rfl, hfront⟩ := hp _ _ _ ha
  obtain ⟨front', rfl, hfront'⟩ := hf a _ _ _ hb
  refine ⟨front ++ front', (List.append_assoc _ _ _).symm, fun c hc => ?_⟩
  rcases List.mem_append.mp hc with hc | hc
  · exact hfront c hc
  · exact hfront' c hc

theorem Reads.orElse {p q : Parser α} (hp : Reads good p) (hq : Reads good q) :
    Reads good (p <|> q) := by
  intro text rest a heq
  rw [orElse_apply, Option.or_eq_some_iff] at heq
  rcases heq with heq | ⟨-, heq⟩
  · exact hp _ _ _ heq
  · exact hq _ _ _ heq

theorem reads_readGivenChar {c : Char} (h : good c) : Reads good (readGivenChar c) := by
  intro text rest a heq
  unfold readGivenChar at heq
  rcases text with _ | ⟨c', text⟩
  · cases heq
  · dsimp only at heq
    split_ifs at heq with hc
    obtain ⟨-, rfl⟩ := Prod.mk.inj (Option.some.inj heq)
    refine ⟨[c'], rfl, fun d hd => ?_⟩
    rw [List.mem_singleton.mp hd, hc]
    exact h

/-- A number is spelt with at least one digit. -/
theorem readNumber_eq_some {radix maxDigits bound n : ℕ} {allowZeroPrefix : Bool}
    {text rest : List Char}
    (h : readNumber radix maxDigits bound allowZeroPrefix text = some (n, rest)) :
    ∃ digits, text = digits ++ rest ∧ digits ≠ [] ∧ ∀ c ∈ digits, (toDigit radix c).isSome := by
  unfold readNumber at h
  dsimp only at h
  split_ifs at h with hlength
  obtain ⟨-, rfl⟩ := Prod.mk.inj (Option.some.inj h)
  refine ⟨text.takeWhile fun c => (toDigit radix c).isSome, ?_, ?_, fun c hc => ?_⟩
  · exact (List.prefix_iff_eq_append.mp (List.takeWhile_prefix _)).symm
  · exact fun hnil => hlength (.inl (by rw [hnil]; rfl))
  · have hdigit := List.mem_takeWhile_imp (p := fun c => (toDigit radix c).isSome) hc
    exact hdigit

theorem reads_readNumber {radix maxDigits bound : ℕ} {allowZeroPrefix : Bool}
    (h : ∀ c, (toDigit radix c).isSome → good c) :
    Reads good (readNumber radix maxDigits bound allowZeroPrefix) := by
  intro text rest n heq
  obtain ⟨digits, rfl, -, hdigits⟩ := readNumber_eq_some heq
  exact ⟨digits, rfl, fun c hc => h c (hdigits c hc)⟩

/-- A digit or a dot. -/
def IsIpv4Char (c : Char) : Prop := (toDigit 10 c).isSome ∨ c = '.'

theorem reads_readIpv4Addr : Reads IsIpv4Char readIpv4Addr := by
  have hnumber : Reads IsIpv4Char (readNumber 10 3 256 false) := reads_readNumber fun _ => .inl
  have hdot : Reads IsIpv4Char (readGivenChar '.') := reads_readGivenChar (.inr rfl)
  unfold readIpv4Addr
  refine hnumber.bind fun a => hdot.bind fun _ => ?_
  refine hnumber.bind fun b => hdot.bind fun _ => ?_
  refine hnumber.bind fun c => hdot.bind fun _ => ?_
  exact hnumber.bind fun d => reads_pure _

theorem toDigit_mono {radix radix' : ℕ} (hle : radix ≤ radix') {c : Char}
    (h : (toDigit radix c).isSome) : (toDigit radix' c).isSome := by
  unfold toDigit at h ⊢
  dsimp only at h ⊢
  split_ifs at h ⊢
  all_goals first | rfl | omega

theorem isAddressChar_of_isIpv4Char {c : Char} (h : IsIpv4Char c) : isAddressChar c := by
  rcases h with h | h
  · simp [isAddressChar, toDigit_mono (show 10 ≤ 16 by decide) h]
  · simp [isAddressChar, h]

theorem reads_readGroups (slots : ℕ) (first : Bool) :
    Reads (isAddressChar ·) (readGroups slots first) := by
  have hnumber : Reads (isAddressChar ·) (readNumber 16 4 65536 true) :=
    reads_readNumber fun c hc => by simp [isAddressChar, hc]
  have hipv4 : Reads (isAddressChar ·) readIpv4Addr :=
    reads_readIpv4Addr.mono fun _ => isAddressChar_of_isIpv4Char
  induction slots generalizing first with
  | zero => exact reads_pure _
  | succ slots ih =>
      have hseparator : Reads (isAddressChar ·)
          (if first = true then pure () else readGivenChar ':') := by
        split_ifs
        · exact reads_pure ()
        · exact reads_readGivenChar (by decide)
      rw [readGroups]
      dsimp only
      generalize (if first = true then pure () else readGivenChar ':' : Parser Unit) = separator
        at hseparator ⊢
      refine Reads.orElse ?_ (Reads.orElse ?_ (reads_pure _))
      · have hembedded := hseparator.bind fun _ => hipv4.bind fun address =>
          reads_pure ([address.toNat / 65536, address.toNat % 65536], true)
        split_ifs
        · exact reads_failure.bind fun _ => hembedded
        · exact hembedded
      · exact hseparator.bind fun _ => hnumber.bind fun g => (ih false).bind fun _ => reads_pure _

theorem reads_readIpv6Addr : Reads (isAddressChar ·) readIpv6Addr := by
  have hcolon : Reads (isAddressChar ·) (readGivenChar ':') := reads_readGivenChar (by decide)
  unfold readIpv6Addr
  refine (reads_readGroups 8 true).bind fun (head, headIpv4) => ?_
  dsimp only
  split_ifs
  · exact reads_pure _
  · intro text rest a heq
    cases heq
  · exact hcolon.bind fun _ => hcolon.bind fun _ =>
      (reads_readGroups _ true).bind fun _ => reads_pure _

/-! ## The colon -/

/-- Without a colon there are no further groups. -/
theorem readGroups_of_not_colon {text : List Char} (h : ':' ∉ text) (slots : ℕ) :
    readGroups slots false text = some (([], false), text) := by
  have hcolon : readGivenChar ':' text = none :=
    readGivenChar_none fun hhead => h (List.mem_of_head? hhead)
  cases slots with
  | zero => rfl
  | succ slots =>
      rw [readGroups]
      simp only [Bool.false_eq_true, if_false, orElse_apply, bind_apply, pure_apply, hcolon]
      by_cases hslots : slots = 0
      · simp [hslots, bind_apply, failure_apply]
      · simp [hslots, bind_apply, hcolon]

/-- Without a colon there are at most two groups. -/
theorem length_le_of_not_colon {text rest : List Char} {slots : ℕ} {result : List ℕ × Bool}
    (h : ':' ∉ text) (hread : readGroups slots true text = some (result, rest)) :
    result.1.length ≤ 2 := by
  cases slots with
  | zero =>
      rw [readGroups, pure_apply] at hread
      obtain ⟨rfl, -⟩ := Prod.mk.inj (Option.some.inj hread)
      simp
  | succ slots =>
      rw [readGroups] at hread
      simp only [if_true, orElse_apply, bind_apply, pure_apply, Option.bind_some,
        Option.or_eq_some_iff] at hread
      rcases hread with hread | ⟨-, hread | ⟨-, hread⟩⟩
      · by_cases hslots : slots = 0
        · simp [hslots, bind_apply, failure_apply] at hread
        · simp only [hslots, if_false, bind_apply, pure_apply, Option.bind_some] at hread
          obtain ⟨⟨address, middle⟩, -, hsome⟩ := Option.bind_eq_some_iff.mp hread
          obtain ⟨rfl, -⟩ := Prod.mk.inj (Option.some.inj hsome)
          simp
      · obtain ⟨⟨g, middle⟩, hnumber, hgroups⟩ := Option.bind_eq_some_iff.mp hread
        obtain ⟨digits, rfl, -, -⟩ := readNumber_eq_some hnumber
        dsimp only at hgroups
        rw [readGroups_of_not_colon (fun hmem => h (List.mem_append_right _ hmem))] at hgroups
        obtain ⟨rfl, -⟩ := Prod.mk.inj (Option.some.inj hgroups)
        simp
      · obtain ⟨rfl, -⟩ := Prod.mk.inj (Option.some.inj hread)
        simp

theorem readIpv6Addr_of_not_colon {text : List Char} (h : ':' ∉ text) :
    readIpv6Addr text = none := by
  unfold readIpv6Addr
  rw [bind_apply, Option.bind_eq_none_iff]
  rintro ⟨⟨head, headIpv4⟩, rest⟩ hread
  have hlength : head.length ≤ 2 := length_le_of_not_colon h hread
  obtain ⟨front, rfl, -⟩ := reads_readGroups 8 true _ _ _ hread
  have hcolon : readGivenChar ':' rest = none :=
    readGivenChar_none fun hhead => h (List.mem_append_right _ (List.mem_of_head? hhead))
  dsimp only
  rw [if_neg (by omega)]
  split_ifs
  · rfl
  · simp only [bind_apply, hcolon, Option.bind_none]

end Parser

/-! ## Texts of addresses -/

/-- Which parser an accepted text has passed. -/
theorem IpAddr.fromStr_eq_some {text : String} {address : IpAddr}
    (h : IpAddr.fromStr text = some address) :
    (∃ a, address = .v4 a ∧ Parser.readIpv4Addr text.toList = some (a, [])) ∨
      ∃ a, address = .v6 a ∧ Parser.readIpv6Addr text.toList = some (a, []) := by
  have hread : Parser.readIpAddr text.toList = some (address, []) := by
    unfold IpAddr.fromStr at h
    split at h
    · rename_i hrun
      rw [← Option.some.inj h]
      exact hrun
    · cases h
  unfold Parser.readIpAddr at hread
  rw [Parser.orElse_apply, Option.or_eq_some_iff, map_eq_pure_bind, map_eq_pure_bind] at hread
  rcases hread with hread | ⟨-, hread⟩
  · obtain ⟨⟨a, rest⟩, ha, hsome⟩ := Option.bind_eq_some_iff.mp hread
    obtain ⟨rfl, rfl⟩ := Prod.mk.inj (Option.some.inj hsome)
    exact .inl ⟨a, rfl, ha⟩
  · obtain ⟨⟨a, rest⟩, ha, hsome⟩ := Option.bind_eq_some_iff.mp hread
    obtain ⟨rfl, rfl⟩ := Prod.mk.inj (Option.some.inj hsome)
    exact .inr ⟨a, rfl, ha⟩

/-- An address is spelt with digits, dots and colons. -/
theorem IpAddr.isAddressChar_of_fromStr {text : String} {address : IpAddr}
    (h : IpAddr.fromStr text = some address) : ∀ c ∈ text.toList, isAddressChar c := by
  rcases fromStr_eq_some h with ⟨a, -, hread⟩ | ⟨a, -, hread⟩
  · obtain ⟨front, htext, hfront⟩ := Parser.reads_readIpv4Addr _ _ _ hread
    rw [htext, List.append_nil]
    exact fun c hc => Parser.isAddressChar_of_isIpv4Char (hfront c hc)
  · obtain ⟨front, htext, hfront⟩ := Parser.reads_readIpv6Addr _ _ _ hread
    rw [htext, List.append_nil]
    exact hfront

/-- An address has a text. -/
theorem IpAddr.ne_nil_of_fromStr {text : String} {address : IpAddr}
    (h : IpAddr.fromStr text = some address) : text.toList ≠ [] := by
  intro hnil
  have hempty : text = "" := String.toList_eq_nil_iff.mp hnil
  have hnone : IpAddr.fromStr "" = none := by decide +kernel
  rw [hempty, hnone] at h
  cases h

/-- The colon tells the families apart. -/
theorem IpAddr.colon_mem_iff {text : String} {address : IpAddr}
    (h : IpAddr.fromStr text = some address) :
    ':' ∈ text.toList ↔ ∃ a, address = .v6 a := by
  rcases fromStr_eq_some h with ⟨a, rfl, hread⟩ | ⟨a, rfl, hread⟩
  · obtain ⟨front, htext, hfront⟩ := Parser.reads_readIpv4Addr _ _ _ hread
    rw [htext, List.append_nil]
    constructor
    · intro hmem
      rcases hfront ':' hmem with hdigit | hdot
      · exact absurd hdigit (by decide)
      · exact absurd hdot (by decide)
    · rintro ⟨a', heq⟩
      cases heq
  · refine iff_of_true ?_ ⟨a, rfl⟩
    by_contra hcolon
    rw [Parser.readIpv6Addr_of_not_colon hcolon] at hread
    cases hread

end ProtonVpnOmarchy.Splitd
