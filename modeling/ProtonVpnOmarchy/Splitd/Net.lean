import ProtonVpnOmarchy.Lib.Bytes

/-!
# Addresses and networks

The part of `std::net` and of the `ipnet` crate the split-tunnel daemon works with: addresses as
words, their octets, networks as an address with a prefix length, truncation to the network
address, and containment. Networks are stated for words of any number of bytes and used at 4 and
16.

The texts: `IpAddr.fromStr` is the standard library's parser. The text form of a network belongs to
the `ipnet` crate, whose source is not part of the repository: it is a parameter, `IpNetText`, and
what the daemon relies on is `IpNetText.Lawful`.
-/

namespace ProtonVpnOmarchy.Splitd

open Lib

/-- `std::net::Ipv4Addr` -/
abbrev Ipv4Addr := BitVec (4 * 8)

/-- `std::net::Ipv6Addr` -/
abbrev Ipv6Addr := BitVec (16 * 8)

/-- `std::net::IpAddr` -/
inductive IpAddr where
  | v4 (address : Ipv4Addr)
  | v6 (address : Ipv6Addr)
  deriving DecidableEq

namespace IpAddr

def isIpv6 : IpAddr → Bool
  | .v4 _ => false
  | .v6 _ => true

/-- The octets in network order. -/
def octets : IpAddr → List Byte
  | .v4 address => beBytes 4 address
  | .v6 address => beBytes 16 address

end IpAddr

/-- An IPv4-mapped IPv6 address, `::ffff:a.b.c.d`. -/
def Ipv4Addr.toIpv6Mapped (address : Ipv4Addr) : Ipv6Addr :=
  (0xffff#96 ++ (show BitVec 32 from address) : BitVec 128)

/-- A network: an address of `n` bytes and a prefix length that fits it. -/
structure Network (n : ℕ) where
  address : BitVec (n * 8)
  prefixLen : ℕ
  prefixLen_le : prefixLen ≤ n * 8
  deriving DecidableEq

namespace Network

variable {n : ℕ}

/-- The network address: all bits after the prefix are cleared. -/
def network (net : Network n) : BitVec (n * 8) :=
  (net.address >>> (n * 8 - net.prefixLen)) <<< (n * 8 - net.prefixLen)

/-- The same network with its address truncated. -/
def trunc (net : Network n) : Network n := { net with address := net.network }

/-- The address has the prefix of the network. -/
def Contains (net : Network n) (address : BitVec (n * 8)) : Prop :=
  ∀ i < net.prefixLen, address.getMsbD i = net.address.getMsbD i

instance (net : Network n) (address : BitVec (n * 8)) : Decidable (net.Contains address) :=
  inferInstanceAs (Decidable (∀ i < net.prefixLen, _))

theorem getMsbD_network (net : Network n) (i : ℕ) :
    net.network.getMsbD i = (decide (i < net.prefixLen) && net.address.getMsbD i) := by
  have hle := net.prefixLen_le
  unfold network
  rw [BitVec.getMsbD_shiftLeft, BitVec.getMsbD_ushiftRight]
  by_cases hi : i < net.prefixLen
  · have h₁ : i + (n * 8 - net.prefixLen) < n * 8 := by omega
    have h₂ : ¬ i + (n * 8 - net.prefixLen) < n * 8 - net.prefixLen := by omega
    simp [hi, h₁]
  · have h₁ : ¬ i + (n * 8 - net.prefixLen) < n * 8 := by omega
    simp [hi, h₁]

theorem network_trunc (net : Network n) : net.trunc.network = net.network := by
  apply BitVec.eq_of_getMsbD_eq
  intro i hi
  rw [getMsbD_network]
  change (decide (i < net.prefixLen) && net.network.getMsbD i) = _
  simp [getMsbD_network]

theorem trunc_trunc (net : Network n) : net.trunc.trunc = net.trunc := by
  unfold trunc
  simp only [mk.injEq, and_true]
  exact network_trunc net

theorem contains_trunc (net : Network n) (address : BitVec (n * 8)) :
    net.trunc.Contains address ↔ net.Contains address := by
  have h : ∀ i < net.prefixLen, net.network.getMsbD i = net.address.getMsbD i := by
    intro i hi
    simp [getMsbD_network, hi]
  constructor
  · intro hc i hi
    rw [← h i hi]
    exact hc i hi
  · intro hc i hi
    change _ = net.network.getMsbD i
    rw [h i hi]
    exact hc i hi

end Network

/-- `ipnet::IpNet` -/
inductive IpNet where
  | v4 (network : Network 4)
  | v6 (network : Network 16)
  deriving DecidableEq

namespace IpNet

def trunc : IpNet → IpNet
  | .v4 network => .v4 network.trunc
  | .v6 network => .v6 network.trunc

/-- The network of one address: `IpNet::new` with the full prefix length. -/
def host : IpAddr → IpNet
  | .v4 address => .v4 ⟨address, 32, le_rfl⟩
  | .v6 address => .v6 ⟨address, 128, le_rfl⟩

/-- An address is in a network of its own family that contains it. -/
def Contains : IpNet → IpAddr → Prop
  | .v4 network, .v4 address => network.Contains address
  | .v6 network, .v6 address => network.Contains address
  | _, _ => False

theorem trunc_trunc (network : IpNet) : network.trunc.trunc = network.trunc := by
  cases network <;> simp [trunc, Network.trunc_trunc]

instance : (network : IpNet) → (address : IpAddr) → Decidable (network.Contains address)
  | .v4 network, .v4 address => inferInstanceAs (Decidable (network.Contains address))
  | .v6 network, .v6 address => inferInstanceAs (Decidable (network.Contains address))
  | .v4 _, .v6 _ => inferInstanceAs (Decidable False)
  | .v6 _, .v4 _ => inferInstanceAs (Decidable False)

end IpNet

/-! ## The text of addresses -/

/-- `std::net`'s parser: a reader of the remaining text. A reader that fails has read nothing. -/
abbrev Parser (α : Type) := StateT (List Char) Option α

namespace Parser

/-- `char::to_digit` -/
def toDigit (radix : ℕ) (c : Char) : Option ℕ :=
  let value :=
    if '0' ≤ c ∧ c ≤ '9' then c.toNat - '0'.toNat
    else if 'a' ≤ c ∧ c ≤ 'z' then c.toNat - 'a'.toNat + 10
    else if 'A' ≤ c ∧ c ≤ 'Z' then c.toNat - 'A'.toNat + 10
    else radix
  if value < radix then some value else none

def readGivenChar (c : Char) : Parser Unit := fun text =>
  match text with
  | c' :: rest => if c' = c then some ((), rest) else none
  | [] => none

/-- All digits up to the first other character; too many of them, a superfluous leading zero or a
value that does not fit fail. -/
def readNumber (radix maxDigits bound : ℕ) (allowZeroPrefix : Bool) : Parser ℕ := fun text =>
  let digits := text.takeWhile fun c => (toDigit radix c).isSome
  let value := digits.foldl (fun n c => n * radix + (toDigit radix c).getD 0) 0
  if digits.length = 0 ∨ maxDigits < digits.length then none
  else if !allowZeroPrefix ∧ digits.head? = some '0' ∧ 1 < digits.length then none
  else if bound ≤ value then none
  else some (value, text.drop digits.length)

def readIpv4Addr : Parser Ipv4Addr := do
  let a ← readNumber 10 3 256 false
  readGivenChar '.'
  let b ← readNumber 10 3 256 false
  readGivenChar '.'
  let c ← readNumber 10 3 256 false
  readGivenChar '.'
  let d ← readNumber 10 3 256 false
  pure (BitVec.ofNat _ (((a * 256 + b) * 256 + c) * 256 + d))

/-- Colon-separated groups for at most `slots` places, an IPv4 address may stand for the last two;
the flag tells whether one did. -/
def readGroups : (slots : ℕ) → (first : Bool) → Parser (List ℕ × Bool)
  | 0, _ => pure ([], false)
  | slots + 1, first =>
    let separator : Parser Unit := if first then pure () else readGivenChar ':'
    let embedded : Parser (List ℕ × Bool) := do
      if slots = 0 then failure
      separator
      let address ← readIpv4Addr
      pure ([address.toNat / 65536, address.toNat % 65536], true)
    let group : Parser (List ℕ × Bool) := do
      separator
      let g ← readNumber 16 4 65536 true
      let (gs, v4) ← readGroups slots false
      pure (g :: gs, v4)
    embedded <|> group <|> pure ([], false)

def readIpv6Addr : Parser Ipv6Addr := do
  let word (groups : List ℕ) : Ipv6Addr := BitVec.ofNat _ (groups.foldl (· * 65536 + ·) 0)
  let (head, headIpv4) ← readGroups 8 true
  if head.length = 8 then
    return word head
  if headIpv4 then failure
  readGivenChar ':'
  readGivenChar ':'
  let (tail, _) ← readGroups (8 - (head.length + 1)) true
  return word (head ++ List.replicate (8 - head.length - tail.length) 0 ++ tail)

def readIpAddr : Parser IpAddr := (.v4 <$> readIpv4Addr) <|> (.v6 <$> readIpv6Addr)

end Parser

/-- `IpAddr::from_str`: the whole text must be read. -/
def IpAddr.fromStr (text : String) : Option IpAddr :=
  match Parser.readIpAddr.run text.toList with
  | some (address, []) => some address
  | _ => none

example : IpAddr.fromStr "192.0.2.7" = some (.v4 0xc0000207) := by decide

/-! ## The text of networks -/

/-- `char::is_whitespace`: the Unicode property `White_Space`. -/
def isWhitespace (c : Char) : Bool :=
  let n := c.toNat
  (9 ≤ n && n ≤ 13) || n == 32 || n == 0x85 || n == 0xa0 || n == 0x1680 ||
    (0x2000 ≤ n && n ≤ 0x200a) || n == 0x2028 || n == 0x2029 || n == 0x202f || n == 0x205f ||
    n == 0x3000

/-- `str::to_ascii_lowercase` -/
def toAsciiLowercase (text : String) : String := text.map Char.toLower

/-- `str::trim` -/
def trim (text : String) : String :=
  String.ofList (((text.toList.dropWhile isWhitespace).reverse.dropWhile isWhitespace).reverse)

/-- `str::parse::<u32>` -/
def parseU32 (text : String) : Option UInt32 :=
  let digits := (text.toList.dropPrefix? ['+']).getD text.toList
  if digits ≠ [] ∧ digits.all Char.isDigit ∧ Nat.ofDigitChars 10 digits 0 < 2 ^ 32 then
    some (.ofNat (Nat.ofDigitChars 10 digits 0))
  else none

/-- `IpNet::from_str` and `IpNet::to_string`. -/
structure IpNetText where
  fromStr : String → Option IpNet
  toString : IpNet → String

/-- What the daemon relies on: the text of a network has no surrounding whitespace and reads back
as the network. -/
structure IpNetText.Lawful (text : IpNetText) : Prop where
  fromStr_toString : ∀ network, text.fromStr (text.toString network) = some network
  trim_toString : ∀ network, trim (text.toString network) = text.toString network

/-! ## A lawful text form

The dotted decimal form of IPv4 networks, and the same with colons and without abbreviation for
IPv6: the laws can be met. -/

/-- The last `k` digits of `n` in base `b`, most significant first. -/
def fieldsOf (b : ℕ) : ℕ → ℕ → List ℕ
  | 0, _ => []
  | k + 1, n => fieldsOf b k (n / b) ++ [n % b]

theorem length_fieldsOf (b k n : ℕ) : (fieldsOf b k n).length = k := by
  induction k generalizing n with
  | zero => rfl
  | succ k ih => simp [fieldsOf, ih]

theorem foldl_fieldsOf (b k n : ℕ) : (fieldsOf b k n).foldl (· * b + ·) 0 = n % b ^ k := by
  induction k generalizing n with
  | zero => simp [fieldsOf, Nat.mod_one]
  | succ k ih =>
      rw [fieldsOf, List.foldl_append, ih, List.foldl_cons, List.foldl_nil, pow_succ', Nat.mod_mul]
      ring

/-- Decimal fields joined by `separator`, a slash and the prefix length. -/
def fieldText (separator : Char) (fields : List ℕ) (prefixLen : ℕ) : List Char :=
  ['/'].intercalate
    [[separator].intercalate (fields.map (Nat.toDigits 10)), Nat.toDigits 10 prefixLen]

/-- The fields and the prefix length of a text. -/
def readFields (separator : Char) (text : List Char) : Option (List ℕ × ℕ) :=
  match text.splitOn '/' with
  | [body, prefixLen] =>
    some ((body.splitOn separator).map (Nat.ofDigitChars 10 · 0), Nat.ofDigitChars 10 prefixLen 0)
  | _ => none

theorem not_mem_toDigits {c : Char} (hc : c.isDigit = false) (n : ℕ) : c ∉ Nat.toDigits 10 n := by
  intro h
  have := Nat.isDigit_of_mem_toDigits (by norm_num) (by norm_num) h
  simp [hc] at this

theorem mem_intercalate_singleton {c separator : Char} {ls : List (List Char)}
    (h : c ∈ [separator].intercalate ls) : c = separator ∨ ∃ l ∈ ls, c ∈ l := by
  induction ls with
  | nil => simp at h
  | cons l ls ih =>
      rcases ls with _ | ⟨l', ls⟩
      · exact .inr ⟨l, by simp, by simpa using h⟩
      · rw [List.intercalate_cons_cons] at h
        rcases List.mem_append.mp h with h | h
        · rcases List.mem_append.mp h with h | h
          · exact .inr ⟨l, by simp, h⟩
          · exact .inl (by simpa using h)
        · rcases ih h with h | ⟨k, hk, hck⟩
          · exact .inl h
          · exact .inr ⟨k, List.mem_cons_of_mem _ hk, hck⟩

theorem not_mem_intercalate {c separator : Char} (hc : c.isDigit = false) (hne : c ≠ separator)
    (fields : List ℕ) : c ∉ [separator].intercalate (fields.map (Nat.toDigits 10)) := by
  intro h
  rcases mem_intercalate_singleton h with h | ⟨l, hl, hcl⟩
  · exact hne h
  · obtain ⟨n, -, rfl⟩ := List.mem_map.mp hl
    exact not_mem_toDigits hc n hcl

theorem splitOn_fieldText {separator : Char} (hslash : '/' ≠ separator) (fields : List ℕ)
    (prefixLen : ℕ) : (fieldText separator fields prefixLen).splitOn '/' =
      [[separator].intercalate (fields.map (Nat.toDigits 10)), Nat.toDigits 10 prefixLen] := by
  apply List.splitOn_intercalate
  · intro l hl
    rcases List.mem_pair.mp hl with rfl | rfl
    · exact not_mem_intercalate (by decide) hslash fields
    · exact not_mem_toDigits (by decide) prefixLen
  · simp

theorem readFields_fieldText (separator : Char) (hsep : separator.isDigit = false)
    (hslash : '/' ≠ separator) {fields : List ℕ} (hfields : fields ≠ []) (prefixLen : ℕ) :
    readFields separator (fieldText separator fields prefixLen) = some (fields, prefixLen) := by
  have hsplit : ([separator].intercalate (fields.map (Nat.toDigits 10))).splitOn separator =
      fields.map (Nat.toDigits 10) := by
    apply List.splitOn_intercalate
    · intro l hl
      obtain ⟨n, -, rfl⟩ := List.mem_map.mp hl
      exact not_mem_toDigits hsep n
    · simpa using hfields
  simp [readFields, splitOn_fieldText hslash, hsplit, Function.comp_def]

/-- Read with another separator, all fields are one. -/
theorem readFields_fieldText_of_ne (separator other : Char) (hother : other.isDigit = false)
    (hne : other ≠ separator) (hslash : '/' ≠ separator) (fields : List ℕ) (prefixLen : ℕ) :
    ∃ n, readFields other (fieldText separator fields prefixLen) = some ([n], prefixLen) := by
  have hsplit := List.splitOn_eq_singleton (not_mem_intercalate hother hne fields)
  refine ⟨Nat.ofDigitChars 10 ([separator].intercalate (fields.map (Nat.toDigits 10))) 0, ?_⟩
  simp [readFields, splitOn_fieldText hslash, hsplit]

/-- Text without whitespace is not trimmed. -/
theorem trim_of_forall {text : List Char} (h : ∀ c ∈ text, isWhitespace c = false) :
    trim (String.ofList text) = String.ofList text := by
  have hdrop : ∀ l : List Char, (∀ c ∈ l, isWhitespace c = false) → l.dropWhile isWhitespace = l := by
    intro l hl
    cases l with
    | nil => rfl
    | cons c l => simp [hl c (by simp)]
  unfold trim
  rw [String.toList_ofList, hdrop text h, hdrop _ (by simpa using h), List.reverse_reverse]

theorem not_isWhitespace_fieldText {separator : Char} (hsep : isWhitespace separator = false)
    (fields : List ℕ) (prefixLen : ℕ) :
    ∀ c ∈ fieldText separator fields prefixLen, isWhitespace c = false := by
  have hdigit : ∀ c : Char, c.isDigit = true → isWhitespace c = false := by
    intro c hc
    have hc : 48 ≤ c.toNat ∧ c.toNat ≤ 57 := by
      simpa [Char.isDigit, UInt32.le_iff_toNat_le] using hc
    simp only [isWhitespace, Bool.or_eq_false_iff, Bool.and_eq_false_iff, beq_eq_false_iff_ne,
      decide_eq_false_iff_not]
    omega
  intro c hc
  rcases mem_intercalate_singleton hc with rfl | ⟨l, hl, hcl⟩
  · decide
  · rcases List.mem_pair.mp hl with rfl | rfl
    · rcases mem_intercalate_singleton hcl with rfl | ⟨l, hl, hcl⟩
      · exact hsep
      · obtain ⟨n, -, rfl⟩ := List.mem_map.mp hl
        exact hdigit c (Nat.isDigit_of_mem_toDigits (by norm_num) (by norm_num) hcl)
    · exact hdigit c (Nat.isDigit_of_mem_toDigits (by norm_num) (by norm_num) hcl)

/-- A network from its fields. -/
def Network.ofFields (n b : ℕ) (fields : List ℕ) (prefixLen : ℕ) : Option (Network n) :=
  if h : prefixLen ≤ n * 8 then
    some ⟨BitVec.ofNat _ (fields.foldl (· * b + ·) 0), prefixLen, h⟩
  else none

theorem Network.ofFields_fieldsOf {n : ℕ} (b k : ℕ) (hb : b ^ k = 2 ^ (n * 8)) (net : Network n) :
    ofFields n b (fieldsOf b k net.address.toNat) net.prefixLen = some net := by
  unfold ofFields
  rw [dif_pos net.prefixLen_le]
  simp only [foldl_fieldsOf, hb, Nat.mod_eq_of_lt net.address.isLt, BitVec.ofNat_toNat,
    BitVec.setWidth_eq]

/-- The decimal text form. -/
def decimalText : IpNetText where
  toString
    | .v4 net => .ofList (fieldText '.' (fieldsOf 256 4 net.address.toNat) net.prefixLen)
    | .v6 net => .ofList (fieldText ':' (fieldsOf 65536 8 net.address.toNat) net.prefixLen)
  fromStr text := do
    let (fields, prefixLen) ← readFields '.' text.toList
    if fields.length = 4 then
      return .v4 (← Network.ofFields 4 256 fields prefixLen)
    let (fields, prefixLen) ← readFields ':' text.toList
    return .v6 (← Network.ofFields 16 65536 fields prefixLen)

example : decimalText.fromStr "192.0.2.0/24" = some (.v4 ⟨0xc0000200, 24, by decide⟩) := by decide

theorem decimalText_lawful : decimalText.Lawful where
  fromStr_toString network := by
    cases network with
    | v4 net =>
        have hread := readFields_fieldText '.' (by decide) (by decide)
          (List.ne_nil_of_length_eq_add_one (length_fieldsOf 256 4 net.address.toNat)) net.prefixLen
        simp [decimalText, hread, length_fieldsOf, Network.ofFields_fieldsOf]
    | v6 net =>
        have hread := readFields_fieldText ':' (by decide) (by decide)
          (List.ne_nil_of_length_eq_add_one (length_fieldsOf 65536 8 net.address.toNat))
          net.prefixLen
        obtain ⟨x, hother⟩ := readFields_fieldText_of_ne ':' '.' (by decide) (by decide) (by decide)
          (fieldsOf 65536 8 net.address.toNat) net.prefixLen
        simp [decimalText, hread, hother, Network.ofFields_fieldsOf]
  trim_toString network := by
    cases network with
    | v4 network => exact trim_of_forall (not_isWhitespace_fieldText (by decide) _ _)
    | v6 network => exact trim_of_forall (not_isWhitespace_fieldText (by decide) _ _)

end ProtonVpnOmarchy.Splitd
