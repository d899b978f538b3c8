import ProtonVpnOmarchy.Agent.Network.Profiles
import ProtonVpnOmarchy.Splitd.AddressChars

/-!
# Profiles read back

Which profiles are recovered from their own D-Bus settings.

* `strip` — what is left of a text in the settings of ProTun once the backslashes are gone.
* `firstPeer_dbusSettings` — the peer of a ProTun profile, if the name has no quote.
* `remoteAddress_remote` — the address of an OpenVPN profile ends at the first colon.
* `Recoverable` — when the protocol, the address and the profile id come back.
-/

namespace ProtonVpnOmarchy.Agent.Network

open Lib Splitd Store Backend Catalog

/-! ## Texts without backslashes -/

/-- Characters that are written as they are and survive. -/
def isPlainChar (c : Char) : Bool := c ≠ '"' && c ≠ '\\' && 0x20 ≤ c.toNat

theorem escapeChar_of_isPlainChar {c : Char} (h : isPlainChar c) : escapeChar c = [c] := by
  simp only [isPlainChar, Bool.and_eq_true, decide_eq_true_eq] at h
  obtain ⟨⟨hquote, hescape⟩, hcontrol⟩ := h
  have hne : ∀ c' : Char, c'.toNat < 0x20 → c ≠ c' := fun c' hlt heq => by
    rw [heq] at hcontrol
    omega
  have hlookup : shortEscapes.lookup c = none := by
    simp [shortEscapes, List.lookup_cons, beq_false_of_ne hquote, beq_false_of_ne hescape,
      beq_false_of_ne (hne '\x08' (by decide)), beq_false_of_ne (hne '\t' (by decide)), beq_false_of_ne (hne '\n' (by decide)),
      beq_false_of_ne (hne '\x0c' (by decide)), beq_false_of_ne (hne '\r' (by decide))]
  unfold escapeChar
  rw [hlookup]
  dsimp only
  rw [if_neg (by omega)]

/-- The backslashes of a text are left out. -/
def dropBackslashes (text : List Char) : List Char := text.filter (· ≠ '\\')

theorem dropBackslashes_of_not_mem {text : List Char} (h : '\\' ∉ text) :
    dropBackslashes text = text := by
  unfold dropBackslashes
  rw [List.filter_eq_self]
  intro c hc
  have hne : c ≠ '\\' := fun heq => h (heq ▸ hc)
  simpa using hne

theorem dropBackslashes_append (text text' : List Char) :
    dropBackslashes (text ++ text') = dropBackslashes text ++ dropBackslashes text' :=
  List.filter_append _ _

/-- What is left of a text of ProTun settings. -/
def strip (text : String) : String := .ofList (dropBackslashes (text.toList.flatMap escapeChar))

theorem isPlainChar_shortEscapes : ∀ entry ∈ shortEscapes, entry.1 ≠ '"' →
    ∀ c ∈ dropBackslashes ['\\', entry.2], isPlainChar c := by
  simp [shortEscapes, dropBackslashes, isPlainChar]

theorem isPlainChar_digitChar {n : ℕ} (h : n < 16) : isPlainChar n.digitChar := by
  interval_cases n <;> decide

/-- What is left of the text of a character is plain, a quote apart. -/
theorem isPlainChar_of_mem_escapeChar {c c' : Char} (hquote : c ≠ '"')
    (h : c' ∈ dropBackslashes (escapeChar c)) : isPlainChar c' := by
  by_cases hplain : isPlainChar c
  · rw [escapeChar_of_isPlainChar hplain] at h
    have hmem : c' ∈ [c] := List.mem_of_mem_filter h
    rw [List.mem_singleton.mp hmem]
    exact hplain
  · unfold escapeChar at h
    cases hlookup : shortEscapes.lookup c with
    | some letter =>
        rw [hlookup] at h
        obtain ⟨front, back, hsplit, -⟩ := List.lookup_eq_some_iff.mp hlookup
        have hmem : (c, letter) ∈ shortEscapes := by simp [hsplit]
        exact isPlainChar_shortEscapes _ hmem hquote c' h
    | none =>
        have hescape : c ≠ '\\' := by
          rintro rfl
          exact absurd hlookup (by decide)
        have hcontrol : c.toNat < 0x20 := by
          simp only [isPlainChar, Bool.and_eq_true, decide_eq_true_eq, not_and, not_le] at hplain
          exact hplain ⟨hquote, hescape⟩
        rw [hlookup] at h
        dsimp only at h
        rw [if_pos hcontrol] at h
        obtain ⟨hmem, hne⟩ := List.mem_filter.mp h
        simp only [List.mem_cons, List.not_mem_nil, or_false] at hmem
        rcases hmem with rfl | rfl | rfl | rfl | rfl | rfl
        · exact absurd hne (by decide)
        · decide
        · decide
        · decide
        · exact isPlainChar_digitChar (by omega)
        · exact isPlainChar_digitChar (Nat.mod_lt _ (by decide))

theorem isPlainChar_strip {text : String} (hquote : '"' ∉ text.toList) :
    ∀ c ∈ (strip text).toList, isPlainChar c := by
  intro c hc
  unfold strip dropBackslashes at hc
  rw [String.toList_ofList, List.filter_flatMap] at hc
  obtain ⟨c', hc', hmem⟩ := List.mem_flatMap.mp hc
  exact isPlainChar_of_mem_escapeChar (fun heq => hquote (heq ▸ hc')) hmem

/-- A plain text is written as it is. -/
theorem writeString_of_isPlainChar {text : String} (h : ∀ c ∈ text.toList, isPlainChar c) :
    writeString text = '"' :: (text.toList ++ ['"']) := by
  have hflatMap : ∀ chars : List Char, (∀ c ∈ chars, isPlainChar c) →
      chars.flatMap escapeChar = chars := by
    intro chars hchars
    induction chars with
    | nil => rfl
    | cons c chars ih =>
        rw [List.flatMap_cons, escapeChar_of_isPlainChar (hchars c List.mem_cons_self),
          ih fun c hc => hchars c (List.mem_cons_of_mem _ hc)]
        rfl
  unfold writeString
  rw [hflatMap _ h]

/-- What is left of a string without a quote is the string of what is left. -/
theorem dropBackslashes_writeString {text : String} (hquote : '"' ∉ text.toList) :
    dropBackslashes (writeString text) = writeString (strip text) := by
  rw [writeString_of_isPlainChar (isPlainChar_strip hquote)]
  unfold writeString strip
  rw [String.toList_ofList]
  simp [dropBackslashes]

theorem backslash_not_mem_writeString {text : String} (h : ∀ c ∈ text.toList, isPlainChar c) :
    '\\' ∉ writeString text := by
  rw [writeString_of_isPlainChar h]
  simp only [List.mem_cons, List.mem_append, List.not_mem_nil, or_false, not_or]
  exact ⟨by decide, fun hmem => absurd (h _ hmem) (by decide), by decide⟩

/-- The backslashes before the commas are left out as well. -/
theorem dropBackslashes_escapeCommas (text : List Char) :
    dropBackslashes (escapeCommas text) = dropBackslashes text := by
  induction text with
  | nil => rfl
  | cons c text ih =>
      unfold escapeCommas at ih ⊢
      rw [List.flatMap_cons, dropBackslashes_append, ih]
      by_cases hc : c = ','
      · rw [hc]
        rfl
      · rw [if_neg hc, ← dropBackslashes_append]
        rfl

/-! ## The settings of ProTun -/

section settings

variable (outside : Outside) (name entryIp publicKey : String) (ports : ProtocolPorts)

/-- The one peer. -/
def peerValue : Value := .object [
  ("endpoint", .string entryIp),
  ("id", .string name),
  ("priority", .u64 0),
  ("public-key", .string publicKey),
  ("tcp-ports", portsValue ports.tcp),
  ("tls-ports", portsValue ports.tls),
  ("udp-ports", portsValue ports.udp)]

theorem insert_cons_of_lt {key key' : String} (h : key < key') (value value' : Value) (rest : Map) :
    Map.insert ((key', value') :: rest) key value = (key, value) :: (key', value') :: rest := by
  rw [Map.insert, if_neg (ne_of_lt h), if_pos h]

theorem insert_cons_of_gt {key key' : String} (h : key' < key) (value value' : Value) (rest : Map) :
    Map.insert ((key', value') :: rest) key value = (key', value') :: Map.insert rest key value := by
  rw [Map.insert, if_neg (ne_of_gt h), if_neg (not_lt_of_gt h)]

theorem insert_nil (key : String) (value : Value) : Map.insert [] key value = [(key, value)] := rfl

theorem settingsValue_eq : settingsValue name entryIp publicKey ports = .object [
    ("pcap-file", .null),
    ("peers", .array [peerValue name entryIp publicKey ports]),
    ("version", .u64 1)] := by
  simp (disch := decide +kernel) only [settingsValue, peerValue, Value.obj, Map.insertAll,
    List.foldl_cons, List.foldl_nil, insert_nil, insert_cons_of_lt, insert_cons_of_gt]

theorem plain_portsValue (ports : List UInt16) : (portsValue ports).Plain := by
  refine .array fun value hvalue => ?_
  obtain ⟨port, -, rfl⟩ := List.mem_map.mp hvalue
  exact .posInt _

theorem plain_settingsValue : (settingsValue name entryIp publicKey ports).Plain := by
  have hpeer : (peerValue name entryIp publicKey ports).Plain := by
    refine .object ?_ ?_
    · simp (disch := decide +kernel) only [Map.insertAll, List.foldl_cons, List.foldl_nil,
        insert_nil, insert_cons_of_gt]
    simp only [List.forall_mem_cons, List.not_mem_nil, false_imp_iff, implies_true, and_true]
    exact ⟨.string _, .string _, .posInt _, .string _, plain_portsValue _, plain_portsValue _,
      plain_portsValue _⟩
  rw [settingsValue_eq]
  refine .object ?_ ?_
  · simp (disch := decide +kernel) only [Map.insertAll, List.foldl_cons, List.foldl_nil,
      insert_nil, insert_cons_of_gt]
  simp only [List.forall_mem_cons, List.not_mem_nil, false_imp_iff, implies_true, and_true]
  refine ⟨.null, .array ?_, .posInt _⟩
  simpa using hpeer

/-- What stands before the name. -/
def settingsFront : List Char :=
  '{' :: (writeString "pcap-file" ++ ':' :: 'n' :: 'u' :: 'l' :: 'l' :: ',' ::
    (writeString "peers" ++ ':' :: '[' :: '{' :: (writeString "endpoint" ++ ':' ::
      (writeString entryIp ++ ',' :: (writeString "id" ++ [':'])))))

/-- The ports under a key. -/
def portsField (key : String) (ports : List UInt16) : List Char :=
  ',' :: (writeString key ++ ':' :: writeValue outside.floats (portsValue ports))

/-- What stands behind the name. -/
def settingsBack : List Char :=
  ',' :: (writeString "priority" ++ ':' :: '0' :: ',' :: (writeString "public-key" ++ ':' ::
    (writeString publicKey ++ (portsField outside "tcp-ports" ports.tcp ++
      (portsField outside "tls-ports" ports.tls ++ (portsField outside "udp-ports" ports.udp ++
        '}' :: ']' :: ',' :: (writeString "version" ++ [':', '1', '}'])))))))

theorem writeValue_settingsValue :
    writeValue outside.floats (settingsValue name entryIp publicKey ports) =
      settingsFront entryIp ++ (writeString name ++ settingsBack outside publicKey ports) := by
  have hzero : writeValue outside.floats (.u64 0) = ['0'] := by
    rw [Value.u64, writeValue]
    rfl
  have hone : writeValue outside.floats (.u64 1) = ['1'] := by
    rw [Value.u64, writeValue]
    rfl
  rw [settingsValue_eq]
  simp [writeValue, writeFields, writeItems, peerValue, settingsFront, settingsBack, portsField,
    hzero, hone]

theorem backslash_not_mem_portsField {key : String} (hkey : ∀ c ∈ key.toList, isPlainChar c)
    (ports : List UInt16) : '\\' ∉ portsField outside key ports := by
  have hitems : '\\' ∉ writeItems outside.floats
      (ports.map fun port => .u64 port.toUInt64) := by
    induction ports with
    | nil => exact List.not_mem_nil
    | cons port ports ih =>
        have hport : '\\' ∉ Nat.toDigits 10 port.toNat := not_mem_toDigits (by decide) _
        rw [List.map_cons, writeItems]
        split_ifs
        · simpa [Value.u64, writeValue, Number.write] using hport
        · simpa [Value.u64, writeValue, Number.write, hport] using ih
  simp [portsField, portsValue, writeValue, hitems, backslash_not_mem_writeString hkey]

theorem dropBackslashes_settings {entryIp publicKey : String}
    (hentryIp : ∀ c ∈ entryIp.toList, isPlainChar c)
    (hpublicKey : ∀ c ∈ publicKey.toList, isPlainChar c) (hquote : '"' ∉ name.toList) :
    dropBackslashes (writeValue outside.floats (settingsValue name entryIp publicKey ports)) =
      writeValue outside.floats (settingsValue (strip name) entryIp publicKey ports) := by
  have hplain : ∀ key ∈ ["pcap-file", "peers", "endpoint", "id", "priority", "public-key",
      "tcp-ports", "tls-ports", "udp-ports", "version"], ∀ c ∈ key.toList, isPlainChar c := by
    simp [isPlainChar]
  have hkey := fun key hmem => backslash_not_mem_writeString (hplain key hmem)
  have hports := fun key hmem => backslash_not_mem_portsField outside (hplain key hmem)
  have hfront : '\\' ∉ settingsFront entryIp := by
    simp [settingsFront, hkey, backslash_not_mem_writeString hentryIp]
  have hback : '\\' ∉ settingsBack outside publicKey ports := by
    simp [settingsBack, hkey, hports, backslash_not_mem_writeString hpublicKey]
  rw [writeValue_settingsValue, writeValue_settingsValue, dropBackslashes_append,
    dropBackslashes_append, dropBackslashes_of_not_mem hfront, dropBackslashes_of_not_mem hback,
    dropBackslashes_writeString hquote]

end settings

/-! ## Signed servers -/

/-- A text of Base64 has no other characters. -/
theorem isPlainChar_of_standardDecode {text : String} {data : List (BitVec 8)}
    (h : standardDecode text = some data) : ∀ c ∈ text.toList, isPlainChar c := by
  have hall : STANDARD.chars.all isPlainChar = true := by decide
  have halphabet := List.all_eq_true.mp hall
  unfold standardDecode at h
  dsimp only at h
  split_ifs at h with hpadded
  unfold Alphabet.decode at h
  obtain ⟨words, -, hwords⟩ := Option.bind_eq_some_iff.mp h
  dsimp only at hwords
  split_ifs at hwords with hencode
  rw [hpadded, ← hencode]
  intro c hc
  rcases List.mem_append.mp hc with hc | hc
  · unfold Alphabet.encode at hc
    obtain ⟨word, -, rfl⟩ := List.mem_map.mp hc
    exact halphabet _ (STANDARD.char_mem word)
  · rw [List.eq_of_mem_replicate hc]
    decide

theorem isPlainChar_of_isAddressChar {c : Char} (h : isAddressChar c) : isPlainChar c := by
  simp only [isAddressChar, Bool.or_eq_true, decide_eq_true_eq] at h
  rcases h with (h | rfl) | rfl
  · have hrange := Parser.toNat_of_toDigit h
    have hquote : c ≠ '"' := by
      rintro rfl
      revert hrange
      decide
    have hescape : c ≠ '\\' := by
      rintro rfl
      revert hrange
      decide
    simp only [isPlainChar, Bool.and_eq_true, decide_eq_true_eq]
    exact ⟨⟨hquote, hescape⟩, by omega⟩
  · decide
  · decide

/-- What a server that is accepted looks like. -/
theorem validate_eq_ok {outside : Outside} {server : PhysicalServer}
    (h : validate outside server = .ok ()) :
    (∃ address, IpAddr.fromStr server.entryIp = some address) ∧
      ∃ key, standardDecode server.x25519PublicKey = some key := by
  obtain ⟨⟨⟩, hreject, -⟩ := Except.bind_eq_ok.mp h
  have hchecks := reject_eq_ok hreject
  push Not at hchecks
  obtain ⟨haddress, -, -, hkey⟩ := hchecks
  refine ⟨Option.ne_none_iff_exists'.mp haddress, ?_⟩
  obtain ⟨key, hkey, -⟩ := Option.map_eq_some_iff.mp hkey
  exact ⟨key, hkey⟩

/-! ## What a profile is made of -/

theorem Except.exists_of_isOk {ε α : Type} {x : Except ε α} (h : x.isOk) : ∃ a, x = .ok a := by
  cases x with
  | ok a => exact ⟨a, rfl⟩
  | error e => cases h

/-- The protocols of OpenVPN. -/
def IsOpenVpn (protocol : String) : Prop :=
  normalizeProtocol protocol = "openvpn-udp" ∨ normalizeProtocol protocol = "openvpn-tcp"

instance (protocol : String) : Decidable (IsOpenVpn protocol) :=
  inferInstanceAs (Decidable (_ ∨ _))

section construction

variable {outside : Outside} {target : ConnectionTarget} {protocol : String}
  {session : SessionData} {clientConfig : ClientConfig} {ipv6 : Bool} {profileId : Option String}

theorem OpenVpnProfile.new_eq_ok {profile : OpenVpnProfile}
    (h : OpenVpnProfile.new outside target protocol session clientConfig ipv6 profileId =
      .ok profile) :
    validate outside target.physical = .ok () ∧ profile.protocol = normalizeProtocol protocol ∧
      profile.profileId = profileId ∧ ∃ ports, ports ≠ [] ∧
        profile.remote = String.intercalate ", " (ports.map (remoteText target.physical.entryIp)) := by
  unfold OpenVpnProfile.new at h
  obtain ⟨⟨⟩, hvalid, h⟩ := Except.bind_eq_ok.mp h
  dsimp only at h
  obtain ⟨ports, -, h⟩ := Except.bind_eq_ok.mp h
  obtain ⟨⟨⟩, hports, h⟩ := Except.bind_eq_ok.mp h
  obtain ⟨⟨⟩, -, h⟩ := Except.bind_eq_ok.mp h
  obtain ⟨⟨⟩, -, h⟩ := Except.bind_eq_ok.mp h
  obtain ⟨privateKey, -, h⟩ := Except.bind_eq_ok.mp h
  obtain ⟨credentialDir, -, h⟩ := Except.bind_eq_ok.mp h
  obtain ⟨⟨⟩, -, h⟩ := Except.bind_eq_ok.mp h
  obtain ⟨⟨⟩, -, h⟩ := Except.bind_eq_ok.mp h
  obtain ⟨⟨⟩, -, h⟩ := Except.bind_eq_ok.mp h
  obtain ⟨⟨⟩, -, h⟩ := Except.bind_eq_ok.mp h
  rw [← Except.ok.inj h]
  exact ⟨hvalid, rfl, rfl, ports, reject_eq_ok hports, rfl⟩

theorem ProtunProfile.new_eq_ok {profile : ProtunProfile}
    (h : ProtunProfile.new outside target protocol session clientConfig ipv6 profileId =
      .ok profile) :
    validate outside target.physical = .ok () ∧ profile.protocol = normalizeProtocol protocol ∧
      profile.profileId = profileId ∧
      ∃ ports, protunPorts protocol clientConfig.defaultPorts.wireGuard = .ok ports ∧
        ¬ (ports.udp = [] ∧ ports.tcp = [] ∧ ports.tls = []) ∧
        profile.settingsJson = .ofList (escapeCommas (writeValue outside.floats
          (settingsValue target.logical.name target.physical.entryIp
            target.physical.x25519PublicKey ports))) := by
  unfold ProtunProfile.new at h
  obtain ⟨⟨⟩, hvalid, h⟩ := Except.bind_eq_ok.mp h
  obtain ⟨ports, hports, h⟩ := Except.bind_eq_ok.mp h
  obtain ⟨⟨⟩, hsome, h⟩ := Except.bind_eq_ok.mp h
  dsimp only at h
  obtain ⟨privateKey, -, h⟩ := Except.bind_eq_ok.mp h
  rw [← Except.ok.inj h]
  exact ⟨hvalid, rfl, rfl, ports, hports, reject_eq_ok hsome, rfl⟩

/-- Which constructor a profile comes from. -/
theorem VpnProfile.new_eq_ok {profile : VpnProfile}
    (h : VpnProfile.new outside target protocol session clientConfig ipv6 profileId =
      .ok profile) :
    (IsOpenVpn protocol ∧ ∃ openVpn, profile = .openVpn openVpn ∧
      OpenVpnProfile.new outside target protocol session clientConfig ipv6 profileId =
        .ok openVpn) ∨
    (¬ IsOpenVpn protocol ∧ ∃ protun, profile = .protun protun ∧
      ProtunProfile.new outside target protocol session clientConfig ipv6 profileId =
        .ok protun) := by
  unfold VpnProfile.new at h
  unfold IsOpenVpn
  split at h
  · rename_i heq
    obtain ⟨openVpn, hnew, rfl⟩ := Except.map_eq_ok.mp h
    exact .inl ⟨.inl heq, openVpn, rfl, hnew⟩
  · rename_i heq
    obtain ⟨openVpn, hnew, rfl⟩ := Except.map_eq_ok.mp h
    exact .inl ⟨.inr heq, openVpn, rfl, hnew⟩
  · rename_i hudp htcp
    obtain ⟨protun, hnew, rfl⟩ := Except.map_eq_ok.mp h
    exact .inr ⟨fun hor => hor.elim hudp htcp, protun, rfl, hnew⟩

/-- The ports of a ProTun profile. -/
theorem protunPorts_eq_ok {ports used : ProtocolPorts} (h : protunPorts protocol ports = .ok used) :
    (normalizeProtocol protocol = "protun-smart" ∧ used = ports) ∨
      (normalizeProtocol protocol = "protun-udp" ∧ used = { udp := ports.udp }) ∨
      (normalizeProtocol protocol = "protun-tcp" ∧ used = { tcp := ports.tcp }) ∨
      (normalizeProtocol protocol = "protun-tls" ∧ used = { tls := ports.tls }) := by
  unfold protunPorts at h
  split at h
  all_goals first
    | (cases h; done)
    | (obtain rfl := Except.ok.inj h
       simp [normalizeProtocol])

end construction

/-! ## Lookups -/

theorem lookup_profileIdEntry {profileId : Option String} {rest : List (String × String)}
    (h : rest.lookup PROTON_OMARCHY_PROFILE_ID_KEY = none) :
    (profileIdEntry profileId ++ rest).lookup PROTON_OMARCHY_PROFILE_ID_KEY = profileId := by
  rw [List.lookup_append, h, Option.or_none]
  cases profileId with
  | none => rfl
  | some id => simp [profileIdEntry]

theorem lookup_profileIdEntry_of_ne {key : String} (h : key ≠ PROTON_OMARCHY_PROFILE_ID_KEY)
    (profileId : Option String) (rest : List (String × String)) :
    (profileIdEntry profileId ++ rest).lookup key = rest.lookup key := by
  rw [List.lookup_append]
  cases profileId with
  | none => rfl
  | some id => simp [profileIdEntry, List.lookup_cons, beq_false_of_ne h]

theorem ProtunProfile.vpnDataString_settings (profile : ProtunProfile) :
    vpnDataString profile.dbusSettings "settings" = some profile.settingsJson := by
  change (profileIdEntry profile.profileId ++ _).lookup "settings" = _
  rw [lookup_profileIdEntry_of_ne (by decide)]
  rfl

theorem ProtunProfile.vpnDataString_profileId (profile : ProtunProfile) :
    vpnDataString profile.dbusSettings PROTON_OMARCHY_PROFILE_ID_KEY = profile.profileId :=
  lookup_profileIdEntry rfl

theorem OpenVpnProfile.vpnDataString_eq (profile : OpenVpnProfile) (key : String) :
    vpnDataString profile.dbusSettings key = (profileIdEntry profile.profileId ++ (
      (if profile.enableIpv6 then [("push-peer-info", "yes"), ("tun-ipv6", "yes")] else []) ++
      ((if profile.protocol = "openvpn-tcp" then [("proto-tcp", "yes")] else []) ++ [
        ("ca", profile.ca),
        ("cert", profile.certificate),
        ("key", profile.privateKey),
        ("tls-crypt", profile.tlsCrypt),
        ("connection-type", "tls"),
        ("remote", profile.remote),
        ("remote-random", "yes"),
        ("cipher", "AES-256-GCM"),
        ("dev", PROTUN_INTERFACE),
        ("dev-type", "tun"),
        ("mssfix", "0"),
        ("tunnel-mtu", "1500"),
        ("reneg-seconds", "0"),
        ("remote-cert-tls", "server"),
        ("verify-x509-name", "name:" ++ profile.domain),
        ("cert-pass-flags", "0")]))).lookup key := by
  rw [← List.append_assoc, ← List.append_assoc]
  rfl

theorem OpenVpnProfile.vpnDataString_remote (profile : OpenVpnProfile) :
    vpnDataString profile.dbusSettings "remote" = some profile.remote := by
  rw [vpnDataString_eq, lookup_profileIdEntry_of_ne (by decide)]
  split_ifs
  all_goals simp [List.lookup_cons]

theorem OpenVpnProfile.vpnDataString_protoTcp (profile : OpenVpnProfile) :
    vpnDataString profile.dbusSettings "proto-tcp" =
      if profile.protocol = "openvpn-tcp" then some "yes" else none := by
  rw [vpnDataString_eq, lookup_profileIdEntry_of_ne (by decide)]
  split_ifs
  all_goals simp [List.lookup_cons]

theorem OpenVpnProfile.vpnDataString_profileId (profile : OpenVpnProfile) :
    vpnDataString profile.dbusSettings PROTON_OMARCHY_PROFILE_ID_KEY = profile.profileId := by
  rw [vpnDataString_eq]
  refine lookup_profileIdEntry ?_
  unfold PROTON_OMARCHY_PROFILE_ID_KEY
  split_ifs
  all_goals simp [List.lookup_cons]

/-! ## The remote of OpenVPN -/

theorem takeWhile_append_cons {c : Char} {p : Char → Bool} (hc : p c = false)
    (text rest : List Char) : (text ++ c :: rest).takeWhile p = text.takeWhile p := by
  induction text with
  | nil => simp [hc]
  | cons d text ih =>
      rw [List.cons_append, List.takeWhile_cons, List.takeWhile_cons, ih]

/-- The address of a remote ends at the first colon. -/
theorem remoteAddress_remote {entryIp : String} {address : IpAddr}
    (h : IpAddr.fromStr entryIp = some address) {ports : List UInt16} (hports : ports ≠ []) :
    remoteAddress (String.intercalate ", " (ports.map (remoteText entryIp))).toList =
      some (entryIp.toList.takeWhile (· ≠ ':')) := by
  have hchars := IpAddr.isAddressChar_of_fromStr h
  obtain ⟨port, ports, rfl⟩ := List.exists_cons_of_ne_nil hports
  have hfirst : (remoteText entryIp port).toList =
      entryIp.toList ++ ':' :: Nat.toDigits 10 port.toNat := by
    simp [remoteText]
  have hseparator : ∀ c ∈ (remoteText entryIp port).toList,
      decide (c = ',' ∨ c = ' ' ∨ c = '\t') = false := by
    intro c hc
    rw [hfirst, List.mem_append, List.mem_cons] at hc
    have haddress : isAddressChar c := by
      rcases hc with hc | rfl | hc
      · exact hchars c hc
      · decide
      · have hdigit := (Parser.digits_toDigits (show 10 ≤ 16 by decide) (by decide) _).1 c hc
        exact Parser.isAddressChar_of_isIpv4Char (.inl hdigit)
    refine decide_eq_false ?_
    rintro (rfl | rfl | rfl)
    · exact absurd haddress (by decide)
    · exact absurd haddress (by decide)
    · exact absurd haddress (by decide)
  have hsplit : ∃ pieces,
      (String.intercalate ", " ((port :: ports).map (remoteText entryIp))).toList.splitOnP
        (fun c => c = ',' ∨ c = ' ' ∨ c = '\t') = (remoteText entryIp port).toList :: pieces := by
    rcases ports with _ | ⟨port', ports⟩
    · refine ⟨[], ?_⟩
      rw [List.map_cons, List.map_nil, String.intercalate_singleton]
      exact List.splitOnP_eq_singleton hseparator
    · rw [List.map_cons, List.map_cons, String.intercalate_cons_cons]
      simp only [String.toList_append, List.append_assoc]
      exact ⟨_, List.splitOnP_append_cons_of_forall_mem hseparator ',' (by decide) _⟩
  obtain ⟨pieces, hsplit⟩ := hsplit
  have hne : (remoteText entryIp port).toList ≠ [] := by
    rw [hfirst]
    simp
  have hbracket : ∀ bracketed, (remoteText entryIp port).toList ≠ '[' :: bracketed := by
    intro bracketed heq
    obtain ⟨c, rest, htext⟩ := List.exists_cons_of_ne_nil (IpAddr.ne_nil_of_fromStr h)
    rw [hfirst, htext, List.cons_append] at heq
    have haddress := hchars c (by rw [htext]; exact List.mem_cons_self)
    rw [(List.cons.inj heq).1] at haddress
    exact absurd haddress (by decide)
  unfold remoteAddress
  rw [hsplit, List.find?_cons_of_pos (by simpa using hne)]
  dsimp only [Option.bind_eq_bind, Option.bind_some]
  split
  · rename_i heq
    exact absurd heq (hbracket _)
  · rw [hfirst, takeWhile_append_cons (by decide)]

theorem takeWhile_eq_self_iff {entryIp : String} :
    String.ofList (entryIp.toList.takeWhile (· ≠ ':')) = entryIp ↔ ':' ∉ entryIp.toList := by
  rw [← String.toList_inj, String.toList_ofList, List.takeWhile_eq_self_iff]
  constructor
  · intro h hmem
    exact absurd (h ':' hmem) (by decide)
  · intro h c hc
    have hne : c ≠ ':' := fun heq => h (heq ▸ hc)
    simpa using hne

/-! ## What is read back -/

/-- How many of the lists have a port. -/
def ProtocolPorts.used (ports : ProtocolPorts) : ℕ :=
  [ports.udp, ports.tcp, ports.tls].countP (· ≠ [])

/-- What a profile has to meet to be recognized: the address of an OpenVPN profile is an IPv4
address; the name of the server of a ProTun profile has no quote, and the ports of the smart
protocol are not those of a single one. -/
def Recoverable (target : ConnectionTarget) (protocol : String) (clientConfig : ClientConfig) :
    Prop :=
  if IsOpenVpn protocol then
    ∃ address, IpAddr.fromStr target.physical.entryIp = some (.v4 address)
  else
    '"' ∉ target.logical.name.toList ∧
      (normalizeProtocol protocol = "protun-smart" → clientConfig.defaultPorts.wireGuard.used ≠ 1)

/-- The protocol, the address of the server and the id of the profile are read back. -/
structure ReadBack (outside : Outside) (target : ConnectionTarget) (profileId : Option String)
    (profile : VpnProfile) : Prop where
  protocol : profileProtocol outside profile.dbusSettings = some profile.protocol
  endpoint : profileEndpoint outside profile.dbusSettings = some target.physical.entryIp
  storeId : profileStoreId profile.dbusSettings = profileId

section reading

variable {outside : Outside} {target : ConnectionTarget} {protocol : String}
  {session : SessionData} {clientConfig : ClientConfig} {ipv6 : Bool} {profileId : Option String}

/-- An accepted id passes the check of the reader. -/
theorem filter_connectionProfileId {params : Value}
    (h : connectionProfileId params = .ok profileId) :
    (profileId.filter fun value =>
      value ≠ "" && value.utf8ByteSize ≤ 128 && !value.toList.any isControl) = profileId := by
  unfold connectionProfileId at h
  split at h
  · rw [← Except.ok.inj h]
    rfl
  · rw [← Except.ok.inj h]
    rfl
  · obtain ⟨id, -, h⟩ := Except.bind_eq_ok.mp h
    obtain ⟨⟨⟩, hreject, h⟩ := Except.bind_eq_ok.mp h
    have hvalid := reject_eq_ok hreject
    push Not at hvalid
    rw [← Except.ok.inj h, Option.filter_some, if_pos]
    simp only [Bool.and_eq_true, decide_eq_true_eq, Bool.not_eq_true']
    exact ⟨⟨hvalid.1, hvalid.2.1⟩, by simpa using hvalid.2.2⟩

theorem OpenVpnProfile.serviceType_eq (profile : OpenVpnProfile) :
    serviceType profile.dbusSettings = some OPENVPN_SERVICE := rfl

theorem ProtunProfile.serviceType_ne (profile : ProtunProfile) :
    serviceType profile.dbusSettings ≠ some OPENVPN_SERVICE := by
  change some PROTUN_SERVICE ≠ _
  decide

theorem OpenVpnProfile.profileProtocol_eq {profile : OpenVpnProfile}
    (hopen : IsOpenVpn protocol) (h : profile.protocol = normalizeProtocol protocol) :
    profileProtocol outside profile.dbusSettings = some profile.protocol := by
  unfold profileProtocol
  rw [if_pos profile.serviceType_eq, profile.vpnDataString_protoTcp]
  unfold IsOpenVpn at hopen
  rw [← h] at hopen
  rcases hopen with hudp | htcp
  · rw [hudp]
    rfl
  · rw [htcp]
    rfl

theorem OpenVpnProfile.profileEndpoint_eq {profile : OpenVpnProfile} {address : IpAddr}
    {entryIp : String} (h : IpAddr.fromStr entryIp = some address) {ports : List UInt16}
    (hports : ports ≠ [])
    (hremote : profile.remote = String.intercalate ", " (ports.map (remoteText entryIp))) :
    profileEndpoint outside profile.dbusSettings =
      some (.ofList (entryIp.toList.takeWhile (· ≠ ':'))) := by
  unfold profileEndpoint
  rw [if_pos profile.serviceType_eq, profile.vpnDataString_remote, hremote]
  dsimp only [Option.bind_eq_bind, Option.bind_some]
  rw [remoteAddress_remote h hports]
  rfl

/-- The peer of a ProTun profile. -/
theorem firstPeer_dbusSettings {profile : ProtunProfile} {ports : ProtocolPorts}
    (hvalid : validate outside target.physical = .ok ())
    (hquote : '"' ∉ target.logical.name.toList)
    (hsettings : profile.settingsJson = .ofList (escapeCommas (writeValue outside.floats
      (settingsValue target.logical.name target.physical.entryIp
        target.physical.x25519PublicKey ports)))) :
    firstPeer outside profile.dbusSettings = some (peerValue (strip target.logical.name)
      target.physical.entryIp target.physical.x25519PublicKey ports) := by
  obtain ⟨⟨address, haddress⟩, key, hkey⟩ := validate_eq_ok hvalid
  have hentryIp := fun c hc =>
    isPlainChar_of_isAddressChar (IpAddr.isAddressChar_of_fromStr haddress c hc)
  have hraw : profile.settingsJson.toList.filter (· ≠ '\\') =
      writeValue outside.floats (settingsValue (strip target.logical.name)
        target.physical.entryIp target.physical.x25519PublicKey ports) := by
    rw [hsettings, String.toList_ofList]
    change dropBackslashes (escapeCommas _) = _
    rw [dropBackslashes_escapeCommas, dropBackslashes_settings outside _ ports hentryIp
      (isPlainChar_of_standardDecode hkey) hquote]
  unfold firstPeer
  rw [profile.vpnDataString_settings]
  dsimp only [Option.bind_eq_bind, Option.bind_some]
  rw [hraw, readJson_writeValue _ (plain_settingsValue _ _ _ ports), settingsValue_eq]
  rfl

theorem nonemptyPorts_portsValue (ports : List UInt16) :
    nonemptyPorts (some (portsValue ports)) = !ports.isEmpty := by
  cases ports with
  | nil => rfl
  | cons port ports => rfl

/-- The protocol that ports tell. -/
def ProtocolPorts.observed (ports : ProtocolPorts) : String :=
  match !ports.udp.isEmpty, !ports.tcp.isEmpty, !ports.tls.isEmpty with
  | false, false, true => "protun-tls"
  | false, true, false => "protun-tcp"
  | true, false, false => "protun-udp"
  | _, _, _ => "protun-smart"

theorem ProtocolPorts.observed_eq_smart_iff {ports : ProtocolPorts}
    (h : ¬ (ports.udp = [] ∧ ports.tcp = [] ∧ ports.tls = [])) :
    ports.observed = "protun-smart" ↔ ports.used ≠ 1 := by
  obtain ⟨udp, tcp, tls⟩ := ports
  cases udp with
  | nil =>
      cases tcp with
      | nil =>
          cases tls with
          | nil => exact absurd ⟨rfl, rfl, rfl⟩ h
          | cons port tls => exact iff_of_false (by simp [observed]) (by simp [used])
      | cons port tcp =>
          cases tls with
          | nil => exact iff_of_false (by simp [observed]) (by simp [used])
          | cons port' tls => exact iff_of_true (by simp [observed]) (by simp [used])
  | cons port udp =>
      cases tcp with
      | nil =>
          cases tls with
          | nil => exact iff_of_false (by simp [observed]) (by simp [used])
          | cons port' tls => exact iff_of_true (by simp [observed]) (by simp [used])
      | cons port' tcp =>
          cases tls with
          | nil => exact iff_of_true (by simp [observed]) (by simp [used])
          | cons port'' tls => exact iff_of_true (by simp [observed]) (by simp [used])

theorem ProtunProfile.profileProtocol_eq {profile : ProtunProfile} {ports : ProtocolPorts}
    {name entryIp publicKey : String}
    (hpeer : firstPeer outside profile.dbusSettings =
      some (peerValue name entryIp publicKey ports)) :
    profileProtocol outside profile.dbusSettings = some ports.observed := by
  have hget : (peerValue name entryIp publicKey ports).get "udp-ports" = portsValue ports.udp ∧
      (peerValue name entryIp publicKey ports).get "tcp-ports" = portsValue ports.tcp ∧
      (peerValue name entryIp publicKey ports).get "tls-ports" = portsValue ports.tls :=
    ⟨rfl, rfl, rfl⟩
  unfold profileProtocol
  rw [if_neg profile.serviceType_ne, hpeer]
  dsimp only [Option.bind_eq_bind, Option.bind_some]
  rw [hget.1, hget.2.1, hget.2.2, nonemptyPorts_portsValue, nonemptyPorts_portsValue,
    nonemptyPorts_portsValue]
  rfl

theorem ProtunProfile.profileEndpoint_eq {profile : ProtunProfile} {ports : ProtocolPorts}
    {name entryIp publicKey : String}
    (hpeer : firstPeer outside profile.dbusSettings =
      some (peerValue name entryIp publicKey ports)) :
    profileEndpoint outside profile.dbusSettings = some entryIp := by
  unfold profileEndpoint
  rw [if_neg profile.serviceType_ne, hpeer]
  rfl

/-- OpenVPN: the address comes back if it is an IPv4 address. -/
theorem OpenVpnProfile.readBack_iff {params : Value}
    (hid : connectionProfileId params = .ok profileId) (hopen : IsOpenVpn protocol)
    {profile : OpenVpnProfile}
    (h : OpenVpnProfile.new outside target protocol session clientConfig ipv6 profileId =
      .ok profile) :
    ReadBack outside target profileId (.openVpn profile) ↔
      ∃ address, IpAddr.fromStr target.physical.entryIp = some (.v4 address) := by
  obtain ⟨hvalid, hprotocol, hprofileId, ports, hports, hremote⟩ := OpenVpnProfile.new_eq_ok h
  obtain ⟨⟨address, haddress⟩, -⟩ := validate_eq_ok hvalid
  have hendpoint : profileEndpoint outside profile.dbusSettings =
      some (.ofList (target.physical.entryIp.toList.takeWhile (· ≠ ':'))) :=
    OpenVpnProfile.profileEndpoint_eq haddress hports hremote
  have hcolon := IpAddr.colon_mem_iff haddress
  constructor
  · intro hread
    have hsame := hread.endpoint
    change profileEndpoint outside profile.dbusSettings = _ at hsame
    rw [hendpoint] at hsame
    have hnot := takeWhile_eq_self_iff.mp (Option.some.inj hsame)
    cases address with
    | v4 a => exact ⟨a, haddress⟩
    | v6 a => exact absurd (hcolon.mpr ⟨a, rfl⟩) hnot
  · rintro ⟨a, ha⟩
    have hnot : ':' ∉ target.physical.entryIp.toList := by
      intro hmem
      obtain ⟨b, hb⟩ := hcolon.mp hmem
      rw [haddress, hb] at ha
      cases ha
    refine ⟨OpenVpnProfile.profileProtocol_eq hopen hprotocol, ?_, ?_⟩
    · change profileEndpoint outside profile.dbusSettings = _
      rw [hendpoint, takeWhile_eq_self_iff.mpr hnot]
    · change Option.filter _ (vpnDataString profile.dbusSettings _) = _
      rw [profile.vpnDataString_profileId, hprofileId]
      exact filter_connectionProfileId hid

/-- ProTun: with a name without a quote, the protocol comes back unless the ports of the smart
protocol are those of a single one. -/
theorem ProtunProfile.readBack_iff {params : Value}
    (hid : connectionProfileId params = .ok profileId)
    (hquote : '"' ∉ target.logical.name.toList) {profile : ProtunProfile}
    (h : ProtunProfile.new outside target protocol session clientConfig ipv6 profileId =
      .ok profile) :
    ReadBack outside target profileId (.protun profile) ↔
      (normalizeProtocol protocol = "protun-smart" →
        clientConfig.defaultPorts.wireGuard.used ≠ 1) := by
  obtain ⟨hvalid, hprotocol, hprofileId, ports, hports, hsome, hsettings⟩ :=
    ProtunProfile.new_eq_ok h
  have hpeer := firstPeer_dbusSettings hvalid hquote hsettings
  have hread : ReadBack outside target profileId (.protun profile) ↔
      profileProtocol outside profile.dbusSettings = some profile.protocol := by
    refine ⟨fun hread => hread.protocol, fun heq => ⟨heq, profileEndpoint_eq hpeer, ?_⟩⟩
    change Option.filter _ (vpnDataString profile.dbusSettings _) = _
    rw [profile.vpnDataString_profileId, hprofileId]
    exact filter_connectionProfileId hid
  rw [hread, profileProtocol_eq hpeer, hprotocol, Option.some.injEq]
  rcases protunPorts_eq_ok hports with ⟨hname, rfl⟩ | ⟨hname, rfl⟩ | ⟨hname, rfl⟩ | ⟨hname, rfl⟩
  · rw [hname, ProtocolPorts.observed_eq_smart_iff hsome]
    exact ⟨fun hne _ => hne, fun himp => himp rfl⟩
  · rw [hname]
    obtain ⟨port, udp, hudp⟩ := List.exists_cons_of_ne_nil fun hnil => hsome ⟨hnil, rfl, rfl⟩
    refine iff_of_true ?_ fun heq => absurd heq (by decide)
    simp only at hudp
    simp [ProtocolPorts.observed, hudp]
  · rw [hname]
    obtain ⟨port, tcp, htcp⟩ := List.exists_cons_of_ne_nil fun hnil => hsome ⟨rfl, hnil, rfl⟩
    refine iff_of_true ?_ fun heq => absurd heq (by decide)
    simp only at htcp
    simp [ProtocolPorts.observed, htcp]
  · rw [hname]
    obtain ⟨port, tls, htls⟩ := List.exists_cons_of_ne_nil fun hnil => hsome ⟨rfl, rfl, hnil⟩
    refine iff_of_true ?_ fun heq => absurd heq (by decide)
    simp only at htls
    simp [ProtocolPorts.observed, htls]

/-- **Profiles are read back.** A profile that meets the condition is recognized; one that does not
is not, if it is of OpenVPN or the name has no quote. -/
theorem readBack_of_new {params : Value} (hid : connectionProfileId params = .ok profileId)
    {profile : VpnProfile}
    (h : VpnProfile.new outside target protocol session clientConfig ipv6 profileId =
      .ok profile) :
    (Recoverable target protocol clientConfig → ReadBack outside target profileId profile) ∧
      (IsOpenVpn protocol ∨ '"' ∉ target.logical.name.toList →
        ReadBack outside target profileId profile → Recoverable target protocol clientConfig) := by
  unfold Recoverable
  rcases VpnProfile.new_eq_ok h with ⟨hopen, openVpn, rfl, hnew⟩ | ⟨hopen, protun, rfl, hnew⟩
  · rw [if_pos hopen, OpenVpnProfile.readBack_iff hid hopen hnew]
    exact ⟨id, fun _ => id⟩
  · rw [if_neg hopen]
    constructor
    · rintro ⟨hquote, hports⟩
      exact (ProtunProfile.readBack_iff hid hquote hnew).mpr hports
    · intro hor hread
      have hquote := hor.resolve_left hopen
      exact ⟨hquote, (ProtunProfile.readBack_iff hid hquote hnew).mp hread⟩

end reading

/-! ## Two servers -/

/-- Signatures, keys and files that are all fine. -/
def fineOutside : Outside where
  floats := { write := fun _ => [], read := fun _ => none }
  verifyStrict _ _ := true
  wireguardPrivateKey key := .ok key
  encryptedOpenvpnPrivateKey key _ := .ok key
  passphrase := "00"
  uuid := "u"
  openvpnCredentialDir uuid := .ok uuid
  writePrivateFile _ _ := .ok ()
  OPENVPN_CA := ""
  OPENVPN_TLS_CRYPT := ""

/-- A server at an address. -/
def serverAt (entryIp : String) : ConnectionTarget where
  logical := { id := "l", name := "CH#1", domain := "node" }
  physical := {
    id := "p"
    entryIp := entryIp
    x25519PublicKey := "AAAAAAAAAAAAAAAAAAAAAAAAAAAAAAAAAAAAAAAAAAA="
    signature := some ("AAAAAAAAAAAAAAAAAAAAAAAAAAAAAAAAAAAAAAAAAAA" ++
      "AAAAAAAAAAAAAAAAAAAAAAAAAAAAAAAAAAAAAAAAAAA==") }

def onePortEach : ClientConfig where
  defaultPorts := {
    wireGuard := { udp := [443], tcp := [443], tls := [443] }
    openVpn := { udp := [1194], tcp := [443] } }

def certified : SessionData where
  ed25519Privatekey := "k"
  certificate := "-----BEGIN CERTIFICATE-----"

/-- A profile for a server. -/
def profileAt (entryIp protocol : String) : NativeResult VpnProfile :=
  VpnProfile.new fineOutside (serverAt entryIp) protocol certified onePortEach true none

/-- A profile for an IPv4 address, and what is read back. -/
theorem readBack_of_new_ipv4 : ∃ profile,
    profileAt "192.0.2.1" "openvpn-tcp" = .ok profile ∧
      ReadBack fineOutside (serverAt "192.0.2.1") none profile := by
  have hok : (profileAt "192.0.2.1" "openvpn-tcp").isOk := by decide +kernel
  obtain ⟨profile, hprofile⟩ := Except.exists_of_isOk hok
  have hid : connectionProfileId .null = .ok none := rfl
  refine ⟨profile, hprofile, (readBack_of_new hid hprofile).1 ?_⟩
  unfold Recoverable
  rw [if_pos (by decide)]
  exact ⟨0xc0000201, by decide +kernel⟩

/-- A profile for an IPv6 address is built, and its address is not read back. -/
theorem not_always_readBack : ¬ ∀ (outside : Outside) (target : ConnectionTarget)
    (protocol : String) (session : SessionData) (clientConfig : ClientConfig) (ipv6 : Bool)
    (params : Value) (profileId : Option String) (profile : VpnProfile),
    connectionProfileId params = .ok profileId →
    VpnProfile.new outside target protocol session clientConfig ipv6 profileId = .ok profile →
    ReadBack outside target profileId profile := by
  intro h
  have hok : (profileAt "2001:db8::1" "openvpn-udp").isOk := by decide +kernel
  obtain ⟨profile, hprofile⟩ := Except.exists_of_isOk hok
  have hread := h _ _ _ _ _ _ .null none profile rfl hprofile
  have hopen : IsOpenVpn "openvpn-udp" := by decide
  rcases VpnProfile.new_eq_ok hprofile with ⟨-, openVpn, rfl, hnew⟩ | ⟨hnot, -⟩
  · have hid : connectionProfileId .null = .ok none := rfl
    obtain ⟨address, haddress⟩ := (OpenVpnProfile.readBack_iff hid hopen hnew).mp hread
    have hcolon := (IpAddr.colon_mem_iff haddress).mp (by decide)
    obtain ⟨address', heq⟩ := hcolon
    cases heq
  · exact hnot hopen

end ProtonVpnOmarchy.Agent.Network
