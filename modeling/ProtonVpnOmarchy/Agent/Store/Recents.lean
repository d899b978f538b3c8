import ProtonVpnOmarchy.Agent.Store.Profiles

/-!
# Recent connections

A recent connection is stored as `normalize_recent` leaves it, with an id, a mark whether it is
pinned, and times. `trim_recents` keeps the pinned ones and the six latest others; `resolved_recent`
turns a stored one into the parameters of a connection.

* `normalizeRecent_spec` — the fields of a stored recent connection that others read again.
* `resolvedRecent_of_stored` — a stored one can be connected to, if its profile can.
-/

namespace ProtonVpnOmarchy.Agent.Store

open Lib Splitd

/-! ## Normalisation -/

/-- Source: `store.rs` `insert_recent_string` -/
def insertRecentString := insertString

/-- Source: `store.rs` `recent_target_valid` -/
def recentTargetValid (kind : String) (value : Map) : Bool :=
  match kind with
  | "profile" => nonempty value "profileId"
  | "gateway" => nonempty value "gatewayName"
  | "gatewayServer" => nonempty value "gatewayName" && nonempty value "serverName"
  | "secureCore" =>
    nonempty value "serverName" ||
      nonempty value "countryCode" && nonempty value "entryCountryCode"
  | "server" | "tor" => nonempty value "serverName"
  | "country" => nonempty value "countryCode"
  | "state" => nonempty value "countryCode" && nonempty value "state"
  | "city" => nonempty value "countryCode" && nonempty value "city"
  | _ => false

/-- The text fields of a recent connection, with their bounds; the codes are upper case. -/
def recentStrings : List (String × ℕ × Bool) :=
  [("profileId", 128, false), ("header", 128, false), ("description", 256, false),
    ("gatewayName", 128, false), ("countryCode", 2, true), ("countryName", 128, false),
    ("entryCountryCode", 2, true), ("entryCountryName", 128, false), ("state", 128, false),
    ("city", 128, false), ("serverName", 128, false)]

/-- The feature of a recent location. -/
def recentFeature (raw : Map) (kind : String) : StoreResult (List (String × Value)) :=
  if kind ∈ ["country", "state", "city"] then do
    let feature ← stringOr raw "feature" "standard" 32
    reject (toAsciiLowercase feature ∉ ["standard", "all", "secure_core", "p2p", "tor"])
      (.new "invalid_recent_target" "Recent location feature is unsupported")
    return [("feature", .string (toAsciiLowercase feature))]
  else .ok []

/-- The load of a recent connection. -/
def recentLoad (raw : Map) : StoreResult (List (String × Value)) :=
  match raw.get "load" with
  | none => .ok []
  | some load => do
    let load ← okOrElse load.asU64 (invalidParams "load must be an unsigned number")
    return [("load", .u64 (min load 100))]

/-- Source: `store.rs` `normalize_recent` -/
def normalizeRecent (raw : Map) : StoreResult Map := do
  let kind ← requiredString raw "kind" 32
  let recent ← recentStrings.foldlM (fun target (key, maxChars, uppercase) =>
    insertRecentString raw target key maxChars uppercase) (Map.insert [] "kind" (.string kind))
  let feature ← recentFeature raw kind
  let load ← recentLoad raw
  let recent := recent.insertAll (feature ++ load)
  reject (¬ recentTargetValid kind recent)
    (.new "invalid_recent_target" "Recent connection target is incomplete or unsupported")
  return recent

/-- Source: `store.rs` `recent_key` -/
def recentKey (value : Map) : String :=
  let field (name : String) : String := textOr value name ""
  match field "kind" with
  | "profile" => "profile:" ++ field "profileId"
  | "gateway" | "gatewayServer" =>
    field "kind" ++ ":" ++ field "gatewayName" ++ ":" ++ field "serverName"
  | kind =>
    kind ++ ":" ++ textOr value "feature" "all" ++ ":" ++ field "entryCountryCode" ++ ":" ++
      field "countryCode" ++ ":" ++ field "state" ++ ":" ++ field "city" ++ ":" ++
      field "serverName"

/-! ## Order -/

/-- A number field, or zero. -/
def numberOf (value : Value) (key : String) : UInt64 := ((value.get key).bind Value.asU64).getD 0

def isPinned (value : Value) : Bool := ((value.get "pinned").bind Value.asBool).getD false

def MAX_UNPINNED_RECENTS : ℕ := 6

/-- The order of pinned entries. -/
def PinnedBefore (a b : Value) : Prop := numberOf a "pinTimeMs" ≤ numberOf b "pinTimeMs"

/-- The order of other entries. -/
def ConnectedAfter (a b : Value) : Prop :=
  numberOf b "lastConnectionTimeMs" ≤ numberOf a "lastConnectionTimeMs"

instance : DecidableRel PinnedBefore := fun _ _ => inferInstanceAs (Decidable (_ ≤ _))

instance : DecidableRel ConnectedAfter := fun _ _ => inferInstanceAs (Decidable (_ ≤ _))

/-- The entries that are not pinned. -/
def unpinned (recents : List Value) : List Value := recents.filter fun value => ¬ isPinned value

/-- The sorts are stable, as `sort_by_key` is. Source: `store.rs` `trim_recents` -/
def trimRecents (recents : List Value) : List Value :=
  (recents.filter isPinned).insertionSort PinnedBefore ++
    ((unpinned recents).insertionSort ConnectedAfter).take MAX_UNPINNED_RECENTS

/-- The last one among the latest. Source: `store.rs` `most_recent_connection` -/
def mostRecentConnection (recents : List Value) : Option Value :=
  recents.foldl (fun best value =>
    match best with
    | none => some value
    | some best =>
      if numberOf best "lastConnectionTimeMs" ≤ numberOf value "lastConnectionTimeMs" then
        some value
      else some best) none

/-! ## Connecting to a recent connection -/

/-- The features that a kind of recent connection asks for; `none` for a kind that is not
supported. -/
def recentKindFeatures (object : Map) (kind : String) : Option (List (String × Value)) :=
  match kind with
  | "country" | "state" | "city" =>
    match textOr object "feature" "all" with
    | "p2p" => some [("p2p", .bool true)]
    | "tor" => some [("tor", .bool true)]
    | "secure_core" => some [("secure_core", .bool true)]
    | _ => some []
  | "secureCore" => some [("secure_core", .bool true)]
  | "tor" => some [("tor", .bool true)]
  | "server" | "gateway" | "gatewayServer" => some []
  | _ => none

/-- The first record with an id. -/
def findById (values : List Value) (id : String) : Option Value :=
  values.find? fun value => idOf value = some id

/-- Source: `store.rs` `resolved_recent` -/
def resolvedRecent (profiles : List Value) (recent : Value) (selectionType : String) :
    StoreResult Value := do
  let object ← okOrElse recent.asObject
    (.new "invalid_recent_target" "Recent connection target is invalid")
  let kind ← requiredString object "kind" 32
  if kind = "profile" then do
    let profileId ← requiredString object "profileId" 128
    let profile ← okOrElse (findById profiles profileId)
      (.new "profile_not_found" "Recent profile was not found")
    resolvedProfile profile selectionType
  else do
    let features ← okOrElse (recentKindFeatures object kind)
      (.new "invalid_recent_target" "Recent connection target is unsupported")
    return .obj [("selection", .obj [("type", .string selectionType)]),
      ("connect_params", .obj [("target",
        .object ((locationTarget object).insertAll features))]),
      ("recent", recent)]

/-! ## Stored recent connections -/

/-- A text field is left out, or stored as it was read. -/
theorem insertString_eq_ok {source target result : Map} {key : String} {maxChars : ℕ}
    {uppercase : Bool} (h : insertString source target key maxChars uppercase = .ok result) :
    result = target ∨ ∃ text, result = target.insert key (.string text) ∧
      (uppercase = false → Stored maxChars text) := by
  unfold insertString at h
  obtain ⟨value, hvalue, h⟩ := Except.bind_eq_ok.mp h
  split_ifs at h with hempty hupper
  · exact .inl (Except.ok.inj h).symm
  · obtain ⟨-, -, h⟩ := Except.bind_eq_ok.mp h
    refine .inr ⟨toAsciiUppercase value, (Except.ok.inj h).symm, ?_⟩
    intro hlower
    rw [hupper] at hlower
    cases hlower
  · refine .inr ⟨value, (Except.ok.inj h).symm, fun _ => ?_⟩
    rcases stringValue_eq_ok_iff.mp hvalue with ⟨-, rfl⟩ | ⟨raw, -, rfl, hbounded⟩
    · exact absurd rfl hempty
    · exact ⟨hempty, hbounded, trim_trim raw⟩

/-- The fields of a recent connection that name something. -/
structure Named (kind : String) (recent : Map) : Prop where
  kind : recent.get "kind" = some (.string kind)
  profileId : ∀ value, recent.get "profileId" = some value →
    ∃ id, value = .string id ∧ Stored 128 id

theorem Named.insert {kind : String} {recent : Map} (h : Named kind recent) {key : String}
    (value : Value) (hkind : key ≠ "kind") (hprofile : key ≠ "profileId") :
    Named kind (recent.insert key value) := by
  constructor
  · rw [Map.get_insert_of_ne hkind.symm, h.kind]
  · rw [Map.get_insert_of_ne hprofile.symm]
    exact h.profileId

theorem Named.insertAll {kind : String} {recent : Map} (h : Named kind recent)
    {entries : List (String × Value)}
    (hkeys : ∀ entry ∈ entries, entry.1 ≠ "kind" ∧ entry.1 ≠ "profileId") :
    Named kind (recent.insertAll entries) := by
  unfold Map.insertAll
  induction entries generalizing recent with
  | nil => exact h
  | cons entry entries ih =>
      obtain ⟨hkind, hprofile⟩ := hkeys entry List.mem_cons_self
      exact ih (h.insert entry.2 hkind hprofile)
        fun other hother => hkeys other (List.mem_cons_of_mem _ hother)

theorem named_recentStrings {raw recent : Map} {kind : String}
    (h : recentStrings.foldlM (fun target (key, maxChars, uppercase) =>
      insertRecentString raw target key maxChars uppercase)
        (Map.insert [] "kind" (.string kind)) = .ok recent) : Named kind recent := by
  have hkeys : ∀ entry ∈ recentStrings, entry.1 ≠ "kind" := by decide
  have hprofile : ∀ entry ∈ recentStrings, entry.1 = "profileId" →
      entry = ("profileId", 128, false) := by decide
  have hstart : Named kind (Map.insert [] "kind" (.string kind)) := by
    refine ⟨rfl, ?_⟩
    intro value hvalue
    rw [Map.get_insert_of_ne (by decide)] at hvalue
    cases hvalue
  refine Except.foldlM_inv (Named kind) ?_ hstart h
  rintro ⟨key, maxChars, uppercase⟩ hentry target target' htarget hstep
  rcases insertString_eq_ok hstep with rfl | ⟨text, rfl, hstored⟩
  · exact htarget
  · have hkind : key ≠ "kind" := hkeys _ hentry
    by_cases hkey : key = "profileId"
    · obtain ⟨-, rfl, rfl⟩ : key = "profileId" ∧ maxChars = 128 ∧ uppercase = false := by
        simpa using hprofile _ hentry hkey
      refine ⟨by rw [Map.get_insert_of_ne hkind.symm, htarget.kind], ?_⟩
      intro value hvalue
      rw [hkey, Map.get_insert_self] at hvalue
      obtain rfl := Option.some.inj hvalue
      exact ⟨text, rfl, hstored rfl⟩
    · exact htarget.insert _ hkind hkey

theorem recentFeature_keys {raw : Map} {kind : String} {entries : List (String × Value)}
    (h : recentFeature raw kind = .ok entries) : ∀ entry ∈ entries, entry.1 = "feature" := by
  unfold recentFeature at h
  split_ifs at h
  · obtain ⟨feature, -, h⟩ := Except.bind_eq_ok.mp h
    obtain ⟨-, -, h⟩ := Except.bind_eq_ok.mp h
    obtain rfl := Except.ok.inj h
    simp
  · obtain rfl := Except.ok.inj h
    simp

theorem recentLoad_keys {raw : Map} {entries : List (String × Value)}
    (h : recentLoad raw = .ok entries) : ∀ entry ∈ entries, entry.1 = "load" := by
  unfold recentLoad at h
  split at h
  · obtain rfl := Except.ok.inj h
    simp
  · obtain ⟨load, -, h⟩ := Except.bind_eq_ok.mp h
    obtain rfl := Except.ok.inj h
    simp

/-- **A normalised recent connection keeps the kind it was given, and is complete for it.** -/
theorem normalizeRecent_spec {raw recent : Map} (h : normalizeRecent raw = .ok recent) :
    ∃ kind, requiredString raw "kind" 32 = .ok kind ∧ Named kind recent ∧
      recentTargetValid kind recent = true := by
  unfold normalizeRecent at h
  obtain ⟨kind, hkind, h⟩ := Except.bind_eq_ok.mp h
  obtain ⟨fields, hfields, h⟩ := Except.bind_eq_ok.mp h
  obtain ⟨feature, hfeature, h⟩ := Except.bind_eq_ok.mp h
  obtain ⟨load, hload, h⟩ := Except.bind_eq_ok.mp h
  obtain ⟨⟨⟩, hvalid, h⟩ := Except.bind_eq_ok.mp h
  obtain rfl := Except.ok.inj h
  have hvalid := reject_eq_ok hvalid
  rw [not_not] at hvalid
  refine ⟨kind, hkind, (named_recentStrings hfields).insertAll ?_, hvalid⟩
  intro entry hentry
  rcases List.mem_append.mp hentry with hentry | hentry
  · rw [recentFeature_keys hfeature entry hentry]
    decide
  · rw [recentLoad_keys hload entry hentry]
    decide

/-- What others read from a stored recent connection; a profile it names is there. -/
structure StoredRecent (profiles : List Value) (recent : Map) : Prop where
  kind : ∃ kind, recent.get "kind" = some (.string kind) ∧ Stored 32 kind ∧
    (kind = "profile" ∨ ∃ features, recentKindFeatures recent kind = some features)
  profile : recent.get "kind" = some (.string "profile") →
    ∃ id, recent.get "profileId" = some (.string id) ∧ Stored 128 id ∧
      ∃ profile ∈ profiles, idOf profile = some id

/-- **A stored recent connection can be connected to, if the profiles can.** -/
theorem resolvedRecent_of_stored {profiles : List Value} {recent : Map}
    (h : StoredRecent profiles recent) (selectionType : String)
    (hprofiles : ∀ id, Stored 128 id → (∃ profile ∈ profiles, idOf profile = some id) →
      ∃ profile value, findById profiles id = some profile ∧
        resolvedProfile profile selectionType = .ok value) :
    ∃ value, resolvedRecent profiles (.object recent) selectionType = .ok value := by
  obtain ⟨kind, hget, hkind, hfeatures⟩ := h.kind
  unfold resolvedRecent
  by_cases hprofile : kind = "profile"
  · subst hprofile
    obtain ⟨id, hid, hstored, hmem⟩ := h.profile hget
    obtain ⟨profile, value, hfind, hresolved⟩ := hprofiles id hstored hmem
    refine ⟨value, Except.bind_eq_ok.mpr ⟨recent, rfl, ?_⟩⟩
    refine Except.bind_eq_ok.mpr ⟨"profile", hkind.requiredString hget, ?_⟩
    rw [if_pos rfl]
    refine Except.bind_eq_ok.mpr ⟨id, hstored.requiredString hid, ?_⟩
    exact Except.bind_eq_ok.mpr ⟨profile, by rw [hfind]; rfl, hresolved⟩
  · obtain ⟨features, hfeatures⟩ := hfeatures.resolve_left hprofile
    refine Except.exists_bind_eq_ok.mpr ⟨recent, rfl, ?_⟩
    refine Except.exists_bind_eq_ok.mpr ⟨kind, hkind.requiredString hget, ?_⟩
    rw [if_neg hprofile]
    exact Except.exists_bind_eq_ok.mpr ⟨features, by rw [hfeatures]; rfl, _, rfl⟩

/-- The kinds that connections support; the features depend on the rest. -/
def recentKindSupported (kind : String) : Bool :=
  kind ∈ ["country", "state", "city", "secureCore", "tor", "server", "gateway", "gatewayServer"]

theorem recentKindFeatures_isSome_iff (recent : Map) (kind : String) :
    (∃ features, recentKindFeatures recent kind = some features) ↔
      recentKindSupported kind = true := by
  have hlocation : ∀ text : String, ∃ features : List (String × Value),
      (match text with
        | "p2p" => some [("p2p", Value.bool true)]
        | "tor" => some [("tor", .bool true)]
        | "secure_core" => some [("secure_core", .bool true)]
        | _ => some []) = some features := by
    intro text
    split
    all_goals exact ⟨_, rfl⟩
  unfold recentKindFeatures
  split
  all_goals first
    | exact iff_of_true (hlocation _) (by decide)
    | exact iff_of_true ⟨_, rfl⟩ (by decide)
    | skip
  refine iff_of_false nofun ?_
  simp_all [recentKindSupported]

/-- A kind that is valid for a recent connection is supported by connections. -/
theorem recentKindSupported_of_valid {kind : String} {recent : Map}
    (h : recentTargetValid kind recent = true) :
    kind = "profile" ∨ recentKindSupported kind = true := by
  unfold recentTargetValid at h
  split at h
  all_goals first
    | exact .inl rfl
    | exact .inr (by decide)
    | cases h

/-- The stored fields that are read again decide. -/
theorem StoredRecent.of_get {profiles : List Value} {recent recent' : Map}
    (h : StoredRecent profiles recent) (hkind : recent'.get "kind" = recent.get "kind")
    (hprofile : recent'.get "profileId" = recent.get "profileId") :
    StoredRecent profiles recent' := by
  constructor
  · rw [hkind]
    obtain ⟨kind, hget, hstored, hsupported⟩ := h.kind
    rw [recentKindFeatures_isSome_iff, ← recentKindFeatures_isSome_iff recent'] at hsupported
    exact ⟨kind, hget, hstored, hsupported⟩
  · rw [hkind, hprofile]
    exact h.profile

end ProtonVpnOmarchy.Agent.Store
