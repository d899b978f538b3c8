import ProtonVpnOmarchy.Agent.Backend.ConnectParams
import ProtonVpnOmarchy.Agent.Store.Copies
import ProtonVpnOmarchy.Agent.Store.Rejections
import ProtonVpnOmarchy.Agent.Store.Resolvable

/-!
# Ids of profiles

`profiles.save` keeps a given id as it is, the other requests trim it, and the backend counts its
bytes.

* `Addresses` — requests with an id are about the profile that is stored under it.
* `addresses_iff` — so it is with the id of a saved profile, exactly if it has no blanks at its
  ends, at most 128 bytes and no control characters.
* `blank_id_not_addressed` — an id with a blank at its front is saved.
-/

namespace ProtonVpnOmarchy.Agent.Backend

open Lib Lib.Fallible Splitd Store
open Std (ExtTreeMap)

/-! ## What is asked -/

/-- The selection of a profile. -/
def selectProfile (id : String) : Value :=
  .obj [("type", .string "profile"), ("profileId", .string id)]

/-- Requests with the id are about the profile that is stored under it. -/
structure Addresses (data : StoreFile) (id : String) : Prop where
  update : ∀ clock raw, Acceptable raw → raw.get "id" = some (.string id) → ∃ profile data',
    (saveProfile clock (.obj [("profile", .object raw)])).exec data =
        (.ok (.obj [("profile", .object profile)]), data') ∧
      findById (accountRef data').profiles id = some (.object profile) ∧
      (accountRef data').profiles.map idOf = (accountRef data).profiles.map idOf ∧
      ∀ other ∈ (accountRef data).profiles, idOf other ≠ some id →
        other ∈ (accountRef data').profiles
  delete : ∃ data', (deleteProfile (.obj [("id", .string id)])).exec data =
      (.ok (.obj [("deleted", .bool true)]), data') ∧
    (accountRef data').profiles = (accountRef data).profiles.filter fun profile =>
      idOf profile ≠ some id
  duplicate : (accountRef data).profiles.length < MAX_PROFILES → ∀ clock, ∃ copy data',
    (duplicateProfile clock (.obj [("id", .string id)])).exec data =
      (.ok (.obj [("profile", copy), ("source_id", .string id)]), data')
  default : ∃ data', (setDefaultConnection (.obj [("selection", selectProfile id)])).exec data =
    (.ok (.obj [("default_connection", selectProfile id)]), data')
  resolve : ∃ profile value, findById (accountRef data).profiles id = some profile ∧
    resolveConnection (accountRef data) (.obj [("selection", selectProfile id)]) = .ok value ∧
    resolvedProfile profile "profile" = .ok value ∧
    ((value.get "connect_params").bind fun params => params.get "profile_id") = some (.string id)
  record : ∀ clock, ∃ recent data', (recordRecent clock (.obj [("recent",
      .obj [("kind", .string "profile"), ("profileId", .string id)])])).exec data =
        (.ok (.obj [("recent", recent)]), data') ∧
    recent.get "profileId" = some (.string id)
  backend : connectionProfileId (.obj [("profile_id", .string id)]) = .ok (some id)
  reducer : reducedProfileId (.obj [("profile_id", .string id)]) = some id

/-- An id that every check leaves as it is. -/
def IsPlainId (id : String) : Prop :=
  trim id = id ∧ id.utf8ByteSize ≤ 128 ∧ id.toList.any isControl = false

instance (id : String) : Decidable (IsPlainId id) := inferInstanceAs (Decidable (_ ∧ _))

/-! ## Saved profiles -/

theorem findById_putById_self {values : List Value} {id : String} {value : Value}
    (h : idOf value = some id) : findById (putById values id value) id = some value := by
  unfold findById putById
  rcases hfind : values.findIdx? (fun other => decide (idOf other = some id)) with _ | index
  · have hnone : values.find? (fun other => decide (idOf other = some id)) = none := by
      rw [List.find?_eq_none]
      intro other hother
      have hfalse := List.findIdx?_eq_none_iff.mp hfind other hother
      simpa using hfalse
    rw [List.find?_append, hnone, Option.none_or, List.find?_singleton]
    simp [h]
  · obtain ⟨hlt, hindex, hbefore⟩ := List.findIdx?_eq_some_iff_getElem.mp hfind
    dsimp only
    rw [List.find?_eq_some_iff_getElem]
    refine ⟨by simp [h], index, by rwa [List.length_set], by rw [List.getElem_set_self], ?_⟩
    intro before hlt'
    rw [List.getElem_set_of_ne (Nat.ne_of_gt hlt')]
    simpa using hbefore before hlt'

/-- What is known of a profile that a request has saved. -/
structure Saved (data : StoreFile) (profile : Value) (id : String) : Prop where
  normal : ∃ normal : NormalProfile, profile = .object normal.toMap ∧ normal.id = id
  ne_empty : id ≠ ""
  bounded : Bounded 128 id
  found : findById (accountRef data).profiles id = some profile
  hasAccount : HasAccount data

/-- The record of the account after a change of it. -/
theorem accountRef_of_onAccount {change : AccountStore → StoreResult (Value × AccountStore)}
    {data data' : StoreFile} {value : Value}
    (h : (onAccount change).exec data = (.ok value, data')) :
    ∃ account, change (entry data (accountKey data)) = .ok (value, account) ∧
      accountRef data' = account ∧ HasAccount data' := by
  rw [exec_onAccount] at h
  rcases hchange : change (entry data (accountKey data)) with error | ⟨value', account⟩
  · rw [hchange] at h
    cases h
  · rw [hchange] at h
    obtain ⟨hvalue, rfl⟩ := Prod.mk.inj h
    obtain rfl := Except.ok.inj hvalue
    exact ⟨account, rfl, accountRef_insert data account, ExtTreeMap.mem_insert_self⟩

theorem saved_saveProfile {clock : ℕ → UInt64} {params value : Value} {data data' : StoreFile}
    (h : (saveProfile clock params).exec data = (.ok value, data')) :
    ∃ profile id, value.get "profile" = some profile ∧ Saved data' profile id := by
  unfold saveProfile at h
  rcases exec_liftResult_bind h with ⟨_, -, herror, -⟩ | ⟨object, -, h⟩
  · cases herror
  rcases exec_liftResult_bind h with ⟨_, -, herror, -⟩ | ⟨raw, -, h⟩
  · cases herror
  obtain ⟨account, hsave, haccount, hhas⟩ := accountRef_of_onAccount h
  obtain ⟨existing, id, fields, hfields, hempty, hbounded, rfl, rfl⟩ := saveProfileIn_eq_ok hsave
  obtain ⟨normal, rfl, hid, -⟩ := exists_normalProfile hfields
  refine ⟨.object normal.toMap, id, Value.get_obj _ _, ⟨normal, rfl, hid⟩, hempty, hbounded, ?_,
    hhas⟩
  rw [haccount]
  exact findById_putById_self (idOf_of_stored (normalizeProfile_spec hfields))

theorem saved_duplicateProfile {clock : ℕ → UInt64} {params value : Value} {data data' : StoreFile}
    (h : (duplicateProfile clock params).exec data = (.ok value, data')) :
    ∃ profile id, value.get "profile" = some profile ∧ Saved data' profile id := by
  unfold duplicateProfile at h
  rcases exec_liftResult_bind h with ⟨_, -, herror, -⟩ | ⟨object, -, h⟩
  · cases herror
  rcases exec_liftResult_bind h with ⟨_, -, herror, -⟩ | ⟨sourceId, -, h⟩
  · cases herror
  obtain ⟨account, hcopy, haccount, hhas⟩ := accountRef_of_onAccount h
  unfold duplicateProfileIn at hcopy
  obtain ⟨⟨⟩, hlimit, hcopy⟩ := Except.bind_eq_ok.mp hcopy
  obtain ⟨source, -, hcopy⟩ := Except.bind_eq_ok.mp hcopy
  obtain ⟨name, -, hcopy⟩ := Except.bind_eq_ok.mp hcopy
  obtain ⟨fields, hfields, hcopy⟩ := Except.bind_eq_ok.mp hcopy
  obtain ⟨rfl, rfl⟩ := Prod.mk.inj (Except.ok.inj hcopy)
  obtain ⟨normal, rfl, hid, -⟩ := exists_normalProfile hfields
  refine ⟨.object normal.toMap, _, Value.get_obj _ _, ⟨normal, rfl, hid⟩, uniqueId_ne_empty _ _,
    bounded_profileId _ (Nat.not_le.mp (reject_eq_ok hlimit)), ?_, hhas⟩
  rw [haccount]
  have hnew : uniqueId "profile" (clock 0) (entry data (accountKey data)).profiles ∉
      (entry data (accountKey data)).profiles.filterMap idOf := by
    intro hmem
    obtain ⟨profile, hprofile, hprofileId⟩ := List.mem_filterMap.mp hmem
    exact (uniqueId_spec "profile" (clock 0) _).2 profile hprofile hprofileId
  dsimp only
  rw [← putById_of_not_mem hnew]
  exact findById_putById_self (idOf_of_stored (normalizeProfile_spec hfields))

/-- The answer of a request that saves a profile has the profile, which is then stored. -/
theorem saved_requestInner {disk : Disk} {clock : ℕ → UInt64} {method : String}
    {params value : Value} {state : StoreState}
    (hmethod : method = "profiles.save" ∨ method = "profiles.duplicate")
    (h : (requestInner disk clock method params state).1 = .ok value) :
    ∃ profile id, value.get "profile" = some profile ∧
      Saved (requestInner disk clock method params state).2.data profile id := by
  rcases hmethod with rfl | rfl
  · obtain ⟨data, hexec, hdata, -⟩ := requestInner_eq_ok rfl rfl h
    rw [hdata]
    obtain ⟨profile, id, hvalue, hsaved⟩ := saved_saveProfile hexec
    exact ⟨profile, id, hvalue, hsaved.normal, hsaved.ne_empty, hsaved.bounded,
      hsaved.found, hsaved.hasAccount⟩
  · obtain ⟨data, hexec, hdata, -⟩ := requestInner_eq_ok rfl rfl h
    rw [hdata]
    obtain ⟨profile, id, hvalue, hsaved⟩ := saved_duplicateProfile hexec
    exact ⟨profile, id, hvalue, hsaved.normal, hsaved.ne_empty, hsaved.bounded,
      hsaved.found, hsaved.hasAccount⟩

/-! ## Plain ids -/

/-- The id of a saved profile that is not trimmed further. -/
theorem Saved.stored {data : StoreFile} {profile : Value} {id : String} (h : Saved data profile id)
    (htrim : trim id = id) : Stored 128 id := ⟨h.ne_empty, h.bounded, htrim⟩

theorem accountRef_of_hasAccount {data : StoreFile} (h : HasAccount data) :
    accountRef data = entry data (accountKey data) := by
  have hinsert := accountRef_insert data (entry data (accountKey data))
  rw [insert_entry_self h] at hinsert
  exact hinsert

/-- A change of the record of the account that succeeds. -/
theorem exec_onAccount_of_ok (change : AccountStore → StoreResult (Value × AccountStore))
    {data : StoreFile} {value : Value} {account : AccountStore} (hhas : HasAccount data)
    (h : change (accountRef data) = .ok (value, account)) :
    ∃ data', (onAccount change).exec data = (.ok value, data') ∧ accountRef data' = account := by
  rw [accountRef_of_hasAccount hhas] at h
  refine ⟨_, ?_, accountRef_insert data account⟩
  rw [exec_onAccount, h]

theorem objectParams_obj (entries : List (String × Value)) :
    objectParams (.obj entries) = .ok (Map.insertAll [] entries) := rfl

/-- A request with one field that is an id. -/
theorem requiredString_id {key id : String} (h : Stored 128 id) :
    requiredString (Map.insertAll [] [(key, .string id)]) key 128 = .ok id :=
  h.requiredString (Value.get_obj [(key, .string id)] key |>.trans (by
    rw [List.reverse_singleton, Map.get_cons, if_pos rfl]))

/-- The fields of the selection of a profile. -/
def selectedFields (id : String) : Map :=
  Map.insertAll [] [("type", .string "profile"), ("profileId", .string id)]

theorem get_selectedFields_type (id : String) :
    (selectedFields id).get "type" = some (.string "profile") := by
  unfold selectedFields
  rw [Map.get_insertAll]
  rfl

theorem get_selectedFields_id (id : String) :
    (selectedFields id).get "profileId" = some (.string id) := by
  unfold selectedFields
  rw [Map.get_insertAll]
  rfl

theorem Saved.isStored {data : StoreFile} {profile : Value} {id : String}
    (h : Saved data profile id) : ∃ fields, profile = .object fields ∧ StoredProfile fields id := by
  obtain ⟨normal, rfl, rfl⟩ := h.normal
  have hvalid := profileKindFeatures_isSome normal.target.kind_valid
  obtain ⟨features, hfeatures⟩ := hvalid
  exact ⟨normal.toMap, rfl, normal.get_entry rfl, ⟨_, normal.get_entry rfl,
    normal.target.name_stored⟩, ⟨_, features, normal.get_entry rfl, normal.target.kind_stored,
    hfeatures⟩⟩

/-- A recent connection to the profile. -/
theorem normalizeRecent_profile {id : String} (hstored : Stored 128 id) : ∃ recent,
    normalizeRecent (Map.insertAll [] [("kind", .string "profile"), ("profileId", .string id)]) =
      .ok recent ∧ recent.get "kind" = some (.string "profile") ∧
      recent.get "profileId" = some (.string id) := by
  have hkind : Stored 32 "profile" := ⟨by decide, ⟨by decide, by decide⟩, by decide +kernel⟩
  have hraw : ∀ key, (Map.insertAll [] [("kind", .string "profile"),
      ("profileId", .string id)]).get key = if key = "profileId" then some (.string id)
        else if key = "kind" then some (.string "profile") else none := by
    intro key
    rw [Map.get_insertAll, Map.get_nil, Option.or_none]
    simp only [List.reverse_cons, List.reverse_nil, List.nil_append, List.cons_append,
      Map.get_cons, Map.get_nil]
  have hlocated : ∀ entry ∈ recentStrings, ∀ value, (Map.insertAll []
      [("kind", .string "profile"), ("profileId", .string id)]).get entry.1 = some value →
        ∃ text, value = .string text ∧ IsLocation entry.2.1 entry.2.2 text := by
    have hprofiles : ∀ entry ∈ recentStrings, entry.1 = "profileId" →
        entry = ("profileId", 128, false) := by decide
    have hkinds : ∀ entry ∈ recentStrings, entry.1 ≠ "kind" := by decide
    intro entry hentry value hvalue
    rw [hraw] at hvalue
    split_ifs at hvalue with hprofile hkindKey
    · rw [hprofiles entry hentry hprofile]
      exact ⟨id, (Option.some.inj hvalue).symm, hstored, nofun⟩
    · exact absurd hkindKey (hkinds entry hentry)
  obtain ⟨recent, hfold, hgets⟩ := foldlM_insertProfileString recentStrings hlocated
    (Map.insert [] "kind" (.string "profile"))
  have hrecentKind : recent.get "kind" = some (.string "profile") := by
    rw [hgets, if_neg (by decide)]
    rfl
  have hrecentId : recent.get "profileId" = some (.string id) := by
    rw [hgets, if_pos (by decide), hraw, if_pos rfl]
    rfl
  refine ⟨recent, ?_, hrecentKind, hrecentId⟩
  unfold normalizeRecent
  refine Except.bind_eq_ok.mpr ⟨"profile", hkind.requiredString (by rw [hraw]; rfl), ?_⟩
  refine Except.bind_eq_ok.mpr ⟨recent, hfold, ?_⟩
  refine Except.bind_eq_ok.mpr ⟨[], rfl, ?_⟩
  refine Except.bind_eq_ok.mpr ⟨[], by unfold recentLoad; rw [hraw]; rfl, ?_⟩
  refine Except.bind_eq_ok.mpr ⟨(), reject_of_not (not_not.mpr ?_) _, rfl⟩
  show nonempty recent "profileId" = true
  unfold nonempty
  rw [hrecentId]
  simp [hstored.trimmed, hstored.ne_empty]

section plain

variable {data : StoreFile} {profile : Value} {id : String} (hsaved : Saved data profile id)
  (hstored : Stored 128 id)

include hsaved hstored

theorem Saved.update (clock : ℕ → UInt64) {raw : Map} (hraw : Acceptable raw)
    (hid : raw.get "id" = some (.string id)) : ∃ profile data',
    (saveProfile clock (.obj [("profile", .object raw)])).exec data =
        (.ok (.obj [("profile", .object profile)]), data') ∧
      findById (accountRef data').profiles id = some (.object profile) ∧
      (accountRef data').profiles.map idOf = (accountRef data).profiles.map idOf ∧
      ∀ other ∈ (accountRef data).profiles, idOf other ≠ some id →
        other ∈ (accountRef data').profiles := by
  obtain ⟨profile', hprofile⟩ := hraw.normalizeProfile
    ((findById (accountRef data).profiles id).bind Value.asObject) id (clock 1)
  have hread : stringValue (raw.get "id") 128 false = .ok id :=
    stringValue_eq_ok_iff.mpr (.inr ⟨id, hid, rfl, hstored.bounded⟩)
  have hsave : saveProfileIn clock raw (accountRef data) =
      .ok (.obj [("profile", .object profile')], { accountRef data with
        profiles := putById (accountRef data).profiles id (.object profile') }) := by
    unfold saveProfileIn
    refine Except.bind_eq_ok.mpr ⟨id, hread, ?_⟩
    refine Except.bind_eq_ok.mpr ⟨(), reject_of_not (fun h => hsaved.ne_empty h.1) _, ?_⟩
    rw [if_neg hsaved.ne_empty]
    exact Except.bind_eq_ok.mpr ⟨profile', hprofile, rfl⟩
  obtain ⟨data', hexec, haccount⟩ := exec_onAccount_of_ok _ hsaved.hasAccount hsave
  have hidOf := idOf_of_stored (normalizeProfile_spec hprofile)
  refine ⟨profile', data', ?_, ?_, ?_, ?_⟩
  · rw [saveProfile, exec_liftResult_bind_of_ok (objectParams_obj _)]
    exact hexec
  · rw [haccount]
    exact findById_putById_self hidOf
  · rw [haccount]
    obtain ⟨hmem, hprofileId⟩ := findById_eq_some hsaved.found
    exact map_putById idOf hsaved.found (hidOf.trans hprofileId.symm)
  · rw [haccount]
    exact fun other hother hne => mem_putById_of_ne hother hne

theorem Saved.delete : ∃ data', (deleteProfile (.obj [("id", .string id)])).exec data =
      (.ok (.obj [("deleted", .bool true)]), data') ∧
    (accountRef data').profiles = (accountRef data).profiles.filter fun profile =>
      idOf profile ≠ some id := by
  obtain ⟨hmem, hid⟩ := findById_eq_some hsaved.found
  have hshorter : ((accountRef data).profiles.filter fun profile => idOf profile ≠ some id).length ≠
      (accountRef data).profiles.length := by
    intro hlength
    have hall := List.length_filter_eq_length_iff.mp hlength profile hmem
    simp [hid] at hall
  rw [deleteProfile, exec_liftResult_bind_of_ok (objectParams_obj _),
    exec_liftResult_bind_of_ok (requiredString_id hstored), exec_onAccount]
  dsimp only
  rw [← accountRef_of_hasAccount hsaved.hasAccount, decide_eq_true hshorter]
  refine ⟨_, rfl, ?_⟩
  rw [accountRef_insert]
  rfl

theorem Saved.duplicate (hlimit : (accountRef data).profiles.length < MAX_PROFILES)
    (clock : ℕ → UInt64) : ∃ copy data',
    (duplicateProfile clock (.obj [("id", .string id)])).exec data =
      (.ok (.obj [("profile", copy), ("source_id", .string id)]), data') := by
  obtain ⟨normal, rfl, -⟩ := hsaved.normal
  obtain ⟨raw, copy, -, -, -, hdone⟩ := exists_duplicateProfileIn hsaved.found hlimit
    (show (Map.insertAll [] [("id", .string id)]).get "name" = none from rfl) clock
  obtain ⟨data', hexec, -⟩ := exec_onAccount_of_ok _ hsaved.hasAccount hdone
  refine ⟨.object copy, data', ?_⟩
  rw [duplicateProfile, exec_liftResult_bind_of_ok (objectParams_obj _),
    exec_liftResult_bind_of_ok (requiredString_id hstored)]
  exact hexec

theorem Saved.default : ∃ data',
    (setDefaultConnection (.obj [("selection", selectProfile id)])).exec data =
      (.ok (.obj [("default_connection", selectProfile id)]), data') := by
  obtain ⟨hmem, hid⟩ := findById_eq_some hsaved.found
  have htype : Stored 32 "profile" := ⟨by decide, ⟨by decide, by decide⟩, by decide +kernel⟩
  have hnormal : normalizeDefault (selectedFields id) (accountRef data) =
      .ok (selectProfile id) := by
    unfold normalizeDefault
    refine Except.bind_eq_ok.mpr ⟨"profile", htype.stringOr (get_selectedFields_type id), ?_⟩
    refine Except.bind_eq_ok.mpr ⟨id, hstored.requiredString (get_selectedFields_id id), ?_⟩
    refine Except.bind_eq_ok.mpr ⟨(), reject_of_not (not_not.mpr ?_) _, rfl⟩
    exact any_idOf_iff.mpr (exists_idOf_iff.mp ⟨profile, hmem, hid⟩)
  have hset : (do
      let defaultConnection ← normalizeDefault (selectedFields id) (accountRef data)
      return (Value.obj [("default_connection", defaultConnection)],
        { accountRef data with defaultConnection := defaultConnection })) =
      (.ok (.obj [("default_connection", selectProfile id)],
        { accountRef data with defaultConnection := selectProfile id }) :
        StoreResult (Value × AccountStore)) := Except.bind_eq_ok.mpr ⟨_, hnormal, rfl⟩
  rw [setDefaultConnection, exec_liftResult_bind_of_ok (objectParams_obj _)]
  obtain ⟨data', hexec, -⟩ := exec_onAccount_of_ok (fun account => do
    let defaultConnection ← normalizeDefault (selectedFields id) account
    return (.obj [("default_connection", defaultConnection)],
      { account with defaultConnection := defaultConnection })) hsaved.hasAccount hset
  exact ⟨data', hexec⟩

theorem Saved.resolve : ∃ value,
    resolveConnection (accountRef data) (.obj [("selection", selectProfile id)]) = .ok value ∧
    resolvedProfile profile "profile" = .ok value ∧
    ((value.get "connect_params").bind fun params => params.get "profile_id") =
      some (.string id) := by
  obtain ⟨fields, rfl, hfields⟩ := hsaved.isStored
  obtain ⟨features, kind, name, hresolved⟩ := resolvedProfile_of_stored hfields hstored "profile"
  refine ⟨_, ?_, hresolved, profileId_profileConnection _ _ _ _ _ _⟩
  unfold resolveConnection
  refine Except.bind_eq_ok.mpr ⟨selectedFields id, rfl, ?_⟩
  have htype : textOr (selectedFields id) "type" "fastest" = "profile" := by
    unfold textOr
    rw [get_selectedFields_type]
    rfl
  simp only [htype]
  refine Except.bind_eq_ok.mpr ⟨id, hstored.requiredString (get_selectedFields_id id), ?_⟩
  exact Except.bind_eq_ok.mpr ⟨_, by rw [hsaved.found]; rfl, hresolved⟩

theorem Saved.record (clock : ℕ → UInt64) : ∃ recent data', (recordRecent clock (.obj [("recent",
      .obj [("kind", .string "profile"), ("profileId", .string id)])])).exec data =
        (.ok (.obj [("recent", recent)]), data') ∧
    recent.get "profileId" = some (.string id) := by
  obtain ⟨recent, hnormal, hkind, hprofileId⟩ := normalizeRecent_profile hstored
  have hprofile : Stored 32 "profile" := ⟨by decide, ⟨by decide, by decide⟩, by decide +kernel⟩
  obtain ⟨hmem, hid⟩ := findById_eq_some hsaved.found
  have hcheck : checkRecentProfile recent "profile" (accountRef data).profiles = .ok () := by
    unfold checkRecentProfile
    rw [if_pos rfl]
    refine Except.bind_eq_ok.mpr ⟨id, hstored.requiredString hprofileId, ?_⟩
    exact reject_of_not (not_not.mpr
      (any_idOf_iff.mpr (exists_idOf_iff.mp ⟨profile, hmem, hid⟩))) _
  have hrecorded : ∃ output account, recordRecentIn clock recent "profile" (accountRef data) =
      .ok (.obj [("recent", output)], account) ∧
        output.get "profileId" = some (.string id) := by
    refine ⟨_, _, Except.bind_eq_ok.mpr ⟨(), hcheck, rfl⟩, ?_⟩
    rw [Value.get_object, get_recordFields _ _ _ _ (by decide), hprofileId]
  obtain ⟨output, account, hrecorded, houtput⟩ := hrecorded
  obtain ⟨data', hexec, -⟩ := exec_onAccount_of_ok _ hsaved.hasAccount hrecorded
  refine ⟨output, data', ?_, houtput⟩
  rw [recordRecent, exec_liftResult_bind_of_ok (objectParams_obj _)]
  show (liftResult (normalizeRecent (Map.insertAll []
    [("kind", .string "profile"), ("profileId", .string id)])) >>= fun recent => do
      let kind ← liftResult (requiredString recent "kind" 32)
      onAccount (recordRecentIn clock recent kind)).exec data = _
  rw [exec_liftResult_bind_of_ok hnormal,
    exec_liftResult_bind_of_ok (hprofile.requiredString hkind)]
  exact hexec

end plain

/-- The check of the backend. -/
theorem connectionProfileId_eq_ok_iff {id : String} :
    connectionProfileId (.obj [("profile_id", .string id)]) = .ok (some id) ↔
      id ≠ "" ∧ id.utf8ByteSize ≤ 128 ∧ id.toList.any isControl = false := by
  show (do
    reject (id = "" ∨ 128 < id.utf8ByteSize ∨ id.toList.any isControl)
      (invalidParams "profile_id must contain 1 to 128 non-control bytes")
    return some id) = .ok (some id) ↔ _
  by_cases h : id = "" ∨ 128 < id.utf8ByteSize ∨ id.toList.any isControl = true
  · rw [reject, if_pos h]
    refine iff_of_false (by intro hok; cases hok) ?_
    rintro ⟨hempty, hsize, hchars⟩
    rcases h with h | h | h
    · exact hempty h
    · exact absurd hsize (Nat.not_le.mpr h)
    · rw [hchars] at h
      cases h
  · rw [reject_of_not h]
    refine iff_of_true rfl ?_
    simpa [not_or] using h

/-- The filter of the reducer is the check of the backend. -/
theorem reducedProfileId_of_ok {id : String} (hempty : id ≠ "") (h : IsPlainId id) :
    reducedProfileId (.obj [("profile_id", .string id)]) = some id := by
  show (some id).filter _ = some id
  rw [Option.filter_some, if_pos]
  simp [hempty, h.2.1, h.2.2]

/-! ## The ids that are addressed -/

/-- The default connection is set to the id as it is read. -/
theorem trim_of_setDefaultConnection {data data' : StoreFile} {id : String}
    (h : (setDefaultConnection (.obj [("selection", selectProfile id)])).exec data =
      (.ok (.obj [("default_connection", selectProfile id)]), data')) : trim id = id := by
  rw [setDefaultConnection, exec_liftResult_bind_of_ok (objectParams_obj _)] at h
  obtain ⟨account, hset, -⟩ := accountRef_of_onAccount
    (show (onAccount fun account => do
      let defaultConnection ← normalizeDefault (selectedFields id) account
      return (.obj [("default_connection", defaultConnection)],
        { account with defaultConnection := defaultConnection })).exec data = _ from h)
  obtain ⟨value, hvalue, hset⟩ := Except.bind_eq_ok.mp hset
  obtain ⟨hanswer, -⟩ := Prod.mk.inj (Except.ok.inj hset)
  have hsame : value = selectProfile id := by
    have hget := congrArg (fun value => value.get "default_connection") hanswer
    simpa [Value.get_obj, Map.get_cons] using hget
  subst hsame
  unfold normalizeDefault at hvalue
  obtain ⟨kind, hkind, hvalue⟩ := Except.bind_eq_ok.mp hvalue
  have htype : Stored 32 "profile" := ⟨by decide, ⟨by decide, by decide⟩, by decide +kernel⟩
  rw [htype.stringOr (get_selectedFields_type id)] at hkind
  obtain rfl := Except.ok.inj hkind
  obtain ⟨read, hread, hvalue⟩ := Except.bind_eq_ok.mp hvalue
  obtain ⟨-, -, hvalue⟩ := Except.bind_eq_ok.mp hvalue
  have hid : read = id := by
    have hget := congrArg (fun value => value.get "profileId") (Except.ok.inj hvalue)
    simpa [selectProfile, Value.get_obj, Map.get_cons] using hget
  rw [hid] at hread
  exact requiredString_trimmed hread

theorem Saved.addressed_iff {data : StoreFile} {profile : Value} {id : String}
    (h : Saved data profile id) : Addresses data id ↔ IsPlainId id := by
  constructor
  · intro haddresses
    obtain ⟨data', hdefault⟩ := haddresses.default
    exact ⟨trim_of_setDefaultConnection hdefault,
      (connectionProfileId_eq_ok_iff.mp haddresses.backend).2⟩
  · intro hplain
    have hstored := h.stored hplain.1
    obtain ⟨value, hvalue⟩ := h.resolve hstored
    exact
      { update := fun clock raw hraw hid => h.update hstored clock hraw hid
        delete := h.delete hstored
        duplicate := fun hlimit clock => h.duplicate hstored hlimit clock
        default := h.default hstored
        resolve := ⟨profile, value, h.found, hvalue⟩
        record := h.record hstored
        backend := connectionProfileId_eq_ok_iff.mpr ⟨h.ne_empty, hplain.2⟩
        reducer := reducedProfileId_of_ok h.ne_empty hplain }

/-- **The id of a saved profile addresses it, exactly if it has no blanks at its ends, at most 128
bytes and no control characters.** -/
theorem addresses_iff {disk : Disk} {clock : ℕ → UInt64} {method : String} {params value : Value}
    {state : StoreState} {id : String}
    (hmethod : method = "profiles.save" ∨ method = "profiles.duplicate")
    (h : (requestInner disk clock method params state).1 = .ok value)
    (hid : (value.get "profile").bind idOf = some id) :
    Addresses (requestInner disk clock method params state).2.data id ↔ IsPlainId id := by
  obtain ⟨profile, id', hprofile, hsaved⟩ := saved_requestInner hmethod h
  obtain ⟨-, hid'⟩ := findById_eq_some hsaved.found
  rw [hprofile, Option.bind_some, hid'] at hid
  obtain rfl := Option.some.inj hid
  exact hsaved.addressed_iff

/-- A profile with a given id is saved in a new store. -/
def saveWithId (id : String) : StoreResult Value × StoreState :=
  requestInner quietDisk (fun _ => 1) "profiles.save" (.object [("profile",
    .object [("id", .string id), ("name", .string "Home")])]) ⟨{}, {}⟩

theorem addresses_home : IsPlainId "home" ∧ Addresses (saveWithId "home").2.data "home" := by
  have hfacts : ∃ value, (saveWithId "home").1 = .ok value ∧
      (value.get "profile").bind idOf = some "home" := by
    have hisOk : ((saveWithId "home").1.toOption.bind fun value => (value.get "profile").bind idOf) =
        some "home" := by decide +kernel
    rcases hsave : (saveWithId "home").1 with error | value
    · rw [hsave] at hisOk
      cases hisOk
    · rw [hsave] at hisOk
      exact ⟨value, rfl, hisOk⟩
  obtain ⟨value, hvalue, hid⟩ := hfacts
  have hplain : IsPlainId "home" := by decide +kernel
  exact ⟨hplain, (addresses_iff (.inl rfl) hvalue hid).mpr hplain⟩

/-- **A profile is saved under an id with a blank at its front, and cannot be the default one.** -/
theorem blank_id_not_addressed :
    ¬ ∀ disk clock method params value state id,
      method = "profiles.save" ∨ method = "profiles.duplicate" →
      (requestInner disk clock method params state).1 = .ok value →
      (value.get "profile").bind idOf = some id →
      Addresses (requestInner disk clock method params state).2.data id := by
  intro h
  have hsave : ((saveWithId " a").1.toOption.bind fun value => (value.get "profile").bind idOf) =
      some " a" := by decide +kernel
  rcases hvalue : (saveWithId " a").1 with error | value
  · rw [hvalue] at hsave
    cases hsave
  · rw [hvalue] at hsave
    have haddresses := h _ _ _ _ value _ " a" (.inl rfl) hvalue hsave
    obtain ⟨data', hdefault⟩ := haddresses.default
    exact absurd (trim_of_setDefaultConnection hdefault) (by decide +kernel)

end ProtonVpnOmarchy.Agent.Backend
