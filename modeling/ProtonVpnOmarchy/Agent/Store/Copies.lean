import ProtonVpnOmarchy.Agent.Store.NormalProfiles
import ProtonVpnOmarchy.Lib.FirstMatch

/-!
# Profiles that are normalised again

`normalize_profile` reads what it has written, and `duplicate_profile` has it read a stored profile
under a new name.

* `normalizeProfile_again` — a normalised profile stays as it is when it is normalised again.
* `copyName_spec` — the name of a copy is free; `stored_copyName` — and it is a name.
* `profiles_normal_and_copied` — both, for the requests of clients.
-/

namespace ProtonVpnOmarchy.Agent.Store

open Lib Lib.Fallible Splitd

/-! ## Normalising again -/

/-- A normal profile as `normalize_profile` makes it: nothing is written twice. -/
structure NormalProfile.Canonical (profile : NormalProfile) : Prop where
  servers : profile.settings.customDnsServers.Nodup
  sorted : profile.target.locations.Sorted
  keys : ∀ key, key ∉ profileStrings.map Prod.fst → profile.target.locations.get key = none

/-- The location fields are all there is in the locations. -/
theorem locations_profileTarget {raw : Map} {target : ProfileTarget}
    (h : profileTarget raw = .ok target) : target.locations.Sorted ∧
      ∀ key, key ∉ profileStrings.map Prod.fst → target.locations.get key = none := by
  unfold profileTarget at h
  obtain ⟨name, -, h⟩ := Except.bind_eq_ok.mp h
  obtain ⟨targetKind, -, h⟩ := Except.bind_eq_ok.mp h
  obtain ⟨strategy, -, h⟩ := Except.bind_eq_ok.mp h
  obtain ⟨⟨⟩, -, h⟩ := Except.bind_eq_ok.mp h
  obtain ⟨locations, hlocations, h⟩ := Except.bind_eq_ok.mp h
  obtain ⟨⟨⟩, -, h⟩ := Except.bind_eq_ok.mp h
  obtain rfl := Except.ok.inj h
  refine Except.foldlM_inv (fun locations : Map => locations.Sorted ∧
    ∀ key, key ∉ profileStrings.map Prod.fst → locations.get key = none) ?_
    ⟨Map.sorted_nil, fun _ _ => rfl⟩ hlocations
  rintro ⟨key, maxChars, uppercase⟩ hentry locations locations' ⟨hsorted, hkeys⟩ hstep
  rcases insertString_isLocation hstep with rfl | ⟨text, rfl, -⟩
  · exact ⟨hsorted, hkeys⟩
  · refine ⟨hsorted.insert _ _, fun other hother => ?_⟩
    have hne : other ≠ key := fun heq => hother (heq ▸ List.mem_map_of_mem hentry)
    rw [Map.get_insert_of_ne hne]
    exact hkeys other hother

theorem exists_canonical {raw fields : Map} {existing : Option Map} {id : String} {now : UInt64}
    (h : normalizeProfile raw existing id now = .ok fields) :
    ∃ profile : NormalProfile, profile.toMap = fields ∧ profile.id = id ∧ profile.Canonical := by
  obtain ⟨profile, hfields, hid, htarget, -, hnodup⟩ := exists_normalProfile h
  obtain ⟨hsorted, hkeys⟩ := locations_profileTarget htarget
  exact ⟨profile, hfields, hid, hnodup, hsorted, hkeys⟩

/-- The last fields of a profile. -/
def lastFields (id name kind strategy : String) (createdAtMs updatedAtMs : UInt64) :
    List (String × Value) :=
  [("id", .string id), ("name", .string name), ("targetKind", .string kind),
    ("selectionStrategy", .string strategy), ("createdAtMs", .u64 createdAtMs),
    ("updatedAtMs", .u64 updatedAtMs)]

theorem get_lastFields (base : Map) (entries : List (String × Value))
    (id name kind strategy : String) (createdAtMs updatedAtMs : UInt64) (key : String) :
    (base.insertAll (entries ++
        lastFields id name kind strategy createdAtMs updatedAtMs)).get key =
      if key = "updatedAtMs" then some (.u64 updatedAtMs)
      else if key = "createdAtMs" then some (.u64 createdAtMs)
      else if key = "name" then some (.string name)
      else if key = "id" then some (.string id)
      else (base.insertAll (entries ++ lastFields "" "" kind strategy 0 0)).get key := by
  have hread : ∀ last key, (base.insertAll (entries ++ last)).get key =
      (Map.get last.reverse key).or (base.insertAll entries |>.get key) := by
    intro last key
    rw [Map.get_insertAll, List.reverse_append, Map.get_insertAll, ← Option.or_assoc]
    exact congrArg (Option.or · _) List.lookup_append
  rw [hread, hread]
  simp only [lastFields, List.reverse_cons, List.reverse_nil, List.nil_append, List.cons_append,
    Map.get_cons, Map.get_nil]
  by_cases hstrategy : key = "selectionStrategy"
  · subst hstrategy
    rfl
  by_cases hkind : key = "targetKind"
  · subst hkind
    rfl
  · simp only [hstrategy, hkind, if_false]
    split_ifs
    all_goals rfl

/-- What is read from a stored profile that is normalised again, under any name: the fields that
are not new are those of the stored profile. -/
theorem Gives.normalizeProfile {profile : NormalProfile} {raw : Map} (h : Gives profile raw)
    (hcanonical : profile.Canonical) {name : String}
    (hname : requiredString raw "name" 60 = .ok name) (existing : Option Map) (id : String)
    (now : UInt64) : ∃ fields, normalizeProfile raw existing id now = .ok fields ∧ fields.Sorted ∧
      ∀ key, fields.get key =
        if key = "updatedAtMs" then some (.u64 now)
        else if key = "createdAtMs" then some (.u64 (createdAt raw existing now))
        else if key = "name" then some (.string name)
        else if key = "id" then some (.string id)
        else profile.toMap.get key := by
  obtain ⟨locations, htarget, hlocations⟩ := h.profileTarget hname
  obtain ⟨hsorted, -⟩ := locations_profileTarget htarget
  have hsame : ∀ key, locations.get key = profile.target.locations.get key := by
    intro key
    rw [hlocations]
    split_ifs with hkey
    · rfl
    · exact (hcanonical.keys key hkey).symm
  obtain rfl : locations = profile.target.locations := hsorted.ext hcanonical.sorted hsame
  have hdistinct : profile.settings.distinct.entries = profile.settings.entries := by
    unfold NormalSettings.distinct
    simp only [firstOccurrences_of_nodup hcanonical.servers]
  have hsettings := h.profileSettings
  rw [hdistinct] at hsettings
  refine ⟨profile.target.locations.insertAll (profile.settings.entries ++ profile.opening.entries ++
    lastFields id name profile.target.targetKind profile.target.selectionStrategy
      (createdAt raw existing now) now), ?_, hsorted.insertAll _, fun key => ?_⟩
  · unfold Store.normalizeProfile
    refine Except.bind_eq_ok.mpr ⟨_, htarget, ?_⟩
    refine Except.bind_eq_ok.mpr ⟨_, hsettings, ?_⟩
    exact Except.bind_eq_ok.mpr ⟨_, h.connectAndGo, rfl⟩
  · rw [get_lastFields]
    have hstored := get_lastFields profile.target.locations
      (profile.settings.entries ++ profile.opening.entries) profile.id profile.target.name
      profile.target.targetKind profile.target.selectionStrategy profile.createdAtMs
      profile.updatedAtMs key
    change profile.toMap.get key = _ at hstored
    rw [hstored]
    split_ifs
    all_goals rfl

/-- A stored profile gives its own fields. -/
theorem gives_toMap (profile : NormalProfile) : Gives profile profile.toMap :=
  ⟨isOk_iff.mpr ⟨_, profile.target.name_stored.requiredString (profile.get_entry rfl)⟩,
    fun _ _ => rfl⟩

/-- **A normalised profile stays as it is when it is normalised again**, but for the time of the
update and for a time of creation that is zero, which counts as none. -/
theorem normalizeProfile_again {raw fields : Map} {existing : Option Map} {id : String}
    {now : UInt64} (h : normalizeProfile raw existing id now = .ok fields)
    {existing' : Option Map} (hexisting : existing' = none ∨ existing' = some fields)
    (now' : UInt64) : ∃ created, fields.get "createdAtMs" = some (.u64 created) ∧
      normalizeProfile fields existing' id now' =
        .ok ((if created = 0 then fields.insert "createdAtMs" (.u64 now') else fields).insert
          "updatedAtMs" (.u64 now')) := by
  obtain ⟨profile, rfl, rfl, hcanonical⟩ := exists_canonical h
  have hname : requiredString profile.toMap "name" 60 = .ok profile.target.name :=
    profile.target.name_stored.requiredString (profile.get_entry rfl)
  obtain ⟨again, hagain, hsorted, hget⟩ :=
    (gives_toMap profile).normalizeProfile hcanonical hname existing' profile.id now'
  have hcreatedAt : profile.toMap.get "createdAtMs" = some (.u64 profile.createdAtMs) :=
    profile.get_entry rfl
  have hcreated : createdAt profile.toMap existing' now' =
      if profile.createdAtMs = 0 then now' else profile.createdAtMs := by
    have hread : ((existing'.bind fun value => value.get "createdAtMs").bind Value.asU64).or
        ((profile.toMap.get "createdAtMs").bind Value.asU64) = some profile.createdAtMs := by
      rw [hcreatedAt]
      rcases hexisting with rfl | rfl
      · rfl
      · rw [Option.bind_some, hcreatedAt]
        rfl
    unfold createdAt
    rw [hread, Option.filter_some]
    by_cases hzero : profile.createdAtMs = 0
    · rw [if_pos hzero, hzero]
      rfl
    · rw [if_neg hzero, if_pos (decide_eq_true (UInt64.pos_iff_ne_zero.mpr hzero))]
      rfl
  refine ⟨profile.createdAtMs, hcreatedAt, ?_⟩
  rw [hagain]
  refine congrArg Except.ok (hsorted.ext ?_ fun key => ?_)
  · have hstored : profile.toMap.Sorted := hcanonical.sorted.insertAll _
    split_ifs
    · exact (hstored.insert _ _).insert _ _
    · exact hstored.insert _ _
  · rw [hget, hcreated, Map.get_insert]
    by_cases hupdated : key = "updatedAtMs"
    · rw [if_pos hupdated, if_pos hupdated]
    rw [if_neg hupdated, if_neg hupdated]
    have hstored : (if key = "name" then some (.string profile.target.name)
        else if key = "id" then some (.string profile.id) else profile.toMap.get key) =
          profile.toMap.get key := by
      split_ifs with hkey hkey
      · rw [hkey]
        exact (profile.get_entry rfl).symm
      · rw [hkey]
        exact (profile.get_entry rfl).symm
      · rfl
    rw [hstored]
    by_cases hzero : profile.createdAtMs = 0
    · rw [if_pos hzero, if_pos hzero, Map.get_insert]
    · rw [if_neg hzero, if_neg hzero]
      split_ifs with hkey
      · rw [hkey, hcreatedAt]
      · rfl

/-! ## Names of copies -/

/-- The end of the name of a copy. -/
def copySuffix (sequence : ℕ) : String :=
  if sequence = 1 then " copy" else " copy " ++ toString sequence

/-- The last word of the end of the name of a copy. -/
def copyWord (sequence : ℕ) : List Char :=
  ((copySuffix sequence).toList.map Char.toLower).rtakeWhile (· ≠ ' ')

/-- A text ends in the last word of its end. -/
theorem rtakeWhile_append {p : Char → Bool} (front : List Char) {back : List Char}
    (h : ∃ c ∈ back, p c = false) : (front ++ back).rtakeWhile p = back.rtakeWhile p := by
  obtain ⟨c, hc, hstop⟩ := h
  unfold List.rtakeWhile
  rw [List.reverse_append, List.takeWhile_append, if_neg]
  intro hlength
  have hall := (List.takeWhile_prefix p).eq_of_length hlength
  rw [List.takeWhile_eq_self_iff] at hall
  have htrue := hall c (List.mem_reverse.mpr hc)
  rw [hstop] at htrue
  cases htrue

theorem copySuffix_spec : ∀ n ∈ List.range (MAX_PROFILES + 1),
    (copySuffix (n + 1)).length < 60 ∧ ' ' ∈ (copySuffix (n + 1)).toList.map Char.toLower ∧
      ((copySuffix (n + 1)).toList.getLast?.any fun c => !isWhitespace c) = true ∧
      (copySuffix (n + 1)).toList.any isForbiddenChar = false := by decide +kernel

theorem nodup_copyWord :
    ((List.range (MAX_PROFILES + 1)).map fun n => copyWord (n + 1)).Nodup := by decide +kernel

theorem toList_copyCandidate (source : String) (sequence : ℕ) :
    (copyCandidate source sequence).toList =
      source.toList.take (60 - (copySuffix sequence).length) ++ (copySuffix sequence).toList := by
  unfold copyCandidate
  rw [String.toList_append, String.toList_ofList]
  rfl

/-- The names that are tried differ, also in lower case. -/
theorem nodup_copyCandidates (source : String) : ((List.range (MAX_PROFILES + 1)).map fun n =>
    toAsciiLowercase (copyCandidate source (n + 1))).Nodup := by
  refine List.Nodup.of_map (fun name => name.toList.rtakeWhile (· ≠ ' ')) ?_
  rw [List.map_map]
  convert nodup_copyWord using 1
  refine List.map_congr_left fun n hn => ?_
  have hlower : (toAsciiLowercase (copyCandidate source (n + 1))).toList =
      (copyCandidate source (n + 1)).toList.map Char.toLower := String.toList_map ..
  show (toAsciiLowercase (copyCandidate source (n + 1))).toList.rtakeWhile (· ≠ ' ') = _
  rw [hlower, toList_copyCandidate, List.map_append]
  exact rtakeWhile_append _ ⟨' ', (copySuffix_spec n hn).2.1, by decide⟩

/-- **The name of a copy is one of those that are tried, and no profile has it.** -/
theorem copyName_spec (source : String) {profiles : List Value}
    (h : profiles.length < MAX_PROFILES) :
    (∃ n ∈ List.range (MAX_PROFILES + 1),
        copyName source profiles = copyCandidate source (n + 1)) ∧
      ∀ profile ∈ profiles, ∀ name, (profile.get "name").bind Value.asStr = some name →
        toAsciiLowercase name ≠ toAsciiLowercase (copyName source profiles) := by
  have hfree : ∃ n ∈ List.range (MAX_PROFILES + 1),
      toAsciiLowercase (copyCandidate source (n + 1)) ∉ profiles.filterMap fun profile =>
        ((profile.get "name").bind Value.asStr).map toAsciiLowercase := by
    refine exists_unused (nodup_copyCandidates source) ?_
    rw [List.length_range]
    exact (List.length_filterMap_le _ _).trans_lt (h.trans (Nat.lt_succ_self _))
  obtain ⟨free, hfree, hunused⟩ := hfree
  unfold copyName
  generalize hfind : ((List.range (MAX_PROFILES + 1)).map fun n => copyCandidate source (n + 1)).find?
    (fun candidate => ¬ profiles.any fun profile =>
      ((profile.get "name").bind Value.asStr).any fun name =>
        toAsciiLowercase name = toAsciiLowercase candidate) = found
  cases found with
  | none =>
      have htaken := List.find?_eq_none.mp hfind _ (List.mem_map_of_mem hfree)
      simp only [decide_not, Bool.not_eq_true, Bool.not_eq_false', decide_eq_true_eq,
        List.any_eq_true, Option.any_eq_true] at htaken
      obtain ⟨profile, hprofile, name, hname, hsame⟩ := htaken
      exact absurd (List.mem_filterMap.mpr ⟨profile, hprofile, by
        rw [hname, Option.map_some, hsame]⟩) hunused
  | some candidate =>
      obtain ⟨n, hn, rfl⟩ := List.mem_map.mp (List.mem_of_find?_eq_some hfind)
      have hnew := List.find?_some hfind
      refine ⟨⟨n, hn, rfl⟩, fun profile hprofile name hname hsame => ?_⟩
      simp only [List.any_eq_true, Option.any_eq_true, not_exists, not_and] at hnew
      exact of_decide_eq_true hnew profile hprofile name hname (decide_eq_true hsame)

/-- A trimmed text does not begin with a blank. -/
theorem head_of_trimmed {text : String} (h : trim text = text) {c : Char} {rest : List Char}
    (htext : text.toList = c :: rest) : isWhitespace c = false := by
  by_contra hblank
  rw [Bool.not_eq_false] at hblank
  have hlist := congrArg (fun text => text.toList.length) h
  unfold trim at hlist
  rw [String.toList_ofList, htext, List.dropWhile_cons_of_pos hblank] at hlist
  have hback := (List.rdropWhile_prefix isWhitespace (rest.dropWhile isWhitespace)).length_le
  have hfront := (List.dropWhile_suffix isWhitespace (l := rest)).length_le
  change (List.rdropWhile isWhitespace (rest.dropWhile isWhitespace)).length = rest.length + 1
    at hlist
  omega

/-- A text with no blank at its ends is trimmed. -/
theorem trim_eq_self {text : String} {c last : Char} (hhead : text.toList.head? = some c)
    (hc : isWhitespace c = false) (hlast : text.toList.getLast? = some last)
    (hblank : isWhitespace last = false) : trim text = text := by
  have hfront : text.toList.dropWhile isWhitespace = text.toList := by
    obtain ⟨rest, hrest⟩ := List.head?_eq_some_iff.mp hhead
    rw [hrest, List.dropWhile_cons_of_neg (by rw [hc]; exact Bool.false_ne_true)]
  have hback : text.toList.rdropWhile isWhitespace = text.toList := by
    obtain ⟨front, hfront⟩ := List.getLast?_eq_some_iff.mp hlast
    rw [hfront, List.rdropWhile_concat_neg isWhitespace front last
      (by rw [hblank]; exact Bool.false_ne_true)]
  unfold trim
  rw [hfront]
  exact (congrArg String.ofList hback).trans String.ofList_toList

/-- **The name of a copy is a name**, and it is not trimmed further. -/
theorem stored_copyName {source : String} (h : Stored 60 source) {profiles : List Value}
    (hlimit : profiles.length < MAX_PROFILES) : Stored 60 (copyName source profiles) := by
  obtain ⟨⟨n, hn, hname⟩, -⟩ := copyName_spec source hlimit
  rw [hname]
  have htoList := toList_copyCandidate source (n + 1)
  obtain ⟨hlength, -, hlast, hforbidden⟩ := copySuffix_spec n hn
  rcases hchars : source.toList with _ | ⟨c, rest⟩
  · exact absurd (String.toList_injective hchars) h.ne_empty
  have hhead : (copyCandidate source (n + 1)).toList.head? = some c := by
    obtain ⟨kept, hkept⟩ : ∃ kept, 60 - (copySuffix (n + 1)).length = kept + 1 :=
      ⟨_, (Nat.succ_pred_eq_of_pos (Nat.sub_pos_of_lt hlength)).symm⟩
    rw [htoList, hchars, hkept]
    rfl
  refine ⟨fun hempty => ?_, ⟨?_, ?_⟩, ?_⟩
  · rw [hempty] at hhead
    cases hhead
  · rw [← String.length_toList, htoList, List.length_append, List.length_take,
      String.length_toList, String.length_toList]
    omega
  · rw [htoList, List.any_append, hforbidden, Bool.or_false, List.any_eq_false]
    exact fun c hc => List.any_eq_false.mp h.bounded.chars c (List.mem_of_mem_take hc)
  · obtain ⟨last, hlast, hblank⟩ := (Option.any_eq_true _ _).mp hlast
    have hend : (copyCandidate source (n + 1)).toList.getLast? = some last := by
      rw [htoList, List.getLast?_append, hlast]
      rfl
    exact trim_eq_self hhead (head_of_trimmed h.trimmed hchars) hend (by simpa using hblank)

/-! ## Copies -/

/-- A request for a copy without a name has a normal profile normalised under a new name. -/
theorem exists_duplicateProfileIn {profile : NormalProfile} {account : AccountStore} {object : Map}
    {id : String} (hfound : findById account.profiles id = some (.object profile.toMap))
    (hlimit : account.profiles.length < MAX_PROFILES) (hname : object.get "name" = none)
    (clock : ℕ → UInt64) : ∃ raw copy, Gives profile raw ∧
      raw.get "name" = some (.string (copyName profile.target.name account.profiles)) ∧
      normalizeProfile raw none (uniqueId "profile" (clock 0) account.profiles) (clock 1) =
        .ok copy ∧
      duplicateProfileIn clock object id account =
        .ok (.obj [("profile", .object copy), ("source_id", .string id)],
          { account with profiles := account.profiles ++ [.object copy] }) := by
  have hget : ∀ key, key ∉ ["id", "createdAtMs", "updatedAtMs"] →
      (((profile.toMap.remove "id").remove "createdAtMs").remove "updatedAtMs").get key =
        profile.toMap.get key := by
    intro key hkey
    simp only [List.mem_cons, List.not_mem_nil, not_or, or_false] at hkey
    rw [Map.get_remove, if_neg hkey.2.2, Map.get_remove, if_neg hkey.2.1, Map.get_remove,
      if_neg hkey.1]
  have hsource : requiredString
      (((profile.toMap.remove "id").remove "createdAtMs").remove "updatedAtMs") "name" 60 =
        .ok profile.target.name := by
    refine profile.target.name_stored.requiredString ?_
    rw [hget "name" (by decide), profile.get_entry rfl]
  have hgives : Gives profile ((((profile.toMap.remove "id").remove "createdAtMs").remove
      "updatedAtMs").insert "name"
        (.string (copyName profile.target.name account.profiles))) := by
    refine ⟨isOk_iff.mpr ⟨_, (stored_copyName profile.target.name_stored hlimit).requiredString
      (Map.get_insert_self _ _ _)⟩, ?_⟩
    intro key hkey
    simp only [List.mem_cons, List.not_mem_nil, not_or, or_false] at hkey
    rw [Map.get_insert_of_ne hkey.2.1, hget]
    simp only [List.mem_cons, List.not_mem_nil, not_or, or_false]
    exact ⟨hkey.1, hkey.2.2⟩
  obtain ⟨copy, hcopy⟩ := hgives.acceptable.normalizeProfile none
    (uniqueId "profile" (clock 0) account.profiles) (clock 1)
  refine ⟨_, copy, hgives, Map.get_insert_self _ _ _, hcopy, ?_⟩
  unfold duplicateProfileIn
  refine Except.bind_eq_ok.mpr ⟨(), reject_of_not (Nat.not_le.mpr hlimit) _, ?_⟩
  refine Except.bind_eq_ok.mpr ⟨profile.toMap, by rw [hfound]; rfl, ?_⟩
  refine Except.bind_eq_ok.mpr ⟨copyName profile.target.name account.profiles, ?_, ?_⟩
  · unfold duplicateName
    rw [hname]
    exact Except.bind_eq_ok.mpr ⟨"", rfl, Except.bind_eq_ok.mpr ⟨_, hsource, rfl⟩⟩
  · exact Except.bind_eq_ok.mpr ⟨copy, hcopy, rfl⟩

/-- A copy of a profile: only its id, its name and its times are new, and no profile has the name,
whatever the case of the letters. -/
structure IsCopy (source : Map) (profiles : List Value) (copy : Map) : Prop where
  same : ∀ key, key ∉ ["id", "name", "createdAtMs", "updatedAtMs"] →
    copy.get key = source.get key
  name : ∃ name, copy.get "name" = some (.string name) ∧ name.length ≤ 60 ∧
    ∀ profile ∈ profiles, ∀ other, (profile.get "name").bind Value.asStr = some other →
      toAsciiLowercase other ≠ toAsciiLowercase name

/-- The profiles that requests change. -/
def profilesOf (data : StoreFile) : List Value := (entry data (accountKey data)).profiles

theorem uniqueId_ne_empty (now : UInt64) (values : List Value) :
    uniqueId "profile" now values ≠ "" := by
  obtain ⟨⟨sequence, -, hid⟩, -⟩ := uniqueId_spec "profile" now values
  rw [hid]
  intro h
  have hlength := congrArg String.length h
  have hkind : "profile".length = 7 := rfl
  simp only [candidateId, String.length_append, String.length_empty] at hlength
  omega

theorem bounded_profileId (now : UInt64) {profiles : List Value}
    (h : profiles.length < MAX_PROFILES) : Bounded 128 (uniqueId "profile" now profiles) :=
  bounded_uniqueId ⟨by decide, by decide⟩ now (h.trans (by decide))

/-- A profile is saved as it is normalised. -/
theorem saveProfileIn_eq_ok {clock : ℕ → UInt64} {raw : Map} {account account' : AccountStore}
    {value : Value} (h : saveProfileIn clock raw account = .ok (value, account')) :
    ∃ existing id fields, normalizeProfile raw existing id (clock 1) = .ok fields ∧ id ≠ "" ∧
      Bounded 128 id ∧ value = .obj [("profile", .object fields)] ∧
      account' = { account with profiles := putById account.profiles id (.object fields) } := by
  unfold saveProfileIn at h
  obtain ⟨existingId, hexisting, h⟩ := Except.bind_eq_ok.mp h
  obtain ⟨⟨⟩, hlimit, h⟩ := Except.bind_eq_ok.mp h
  obtain ⟨fields, hfields, h⟩ := Except.bind_eq_ok.mp h
  obtain ⟨rfl, rfl⟩ := Prod.mk.inj (Except.ok.inj h)
  refine ⟨_, _, fields, hfields, ?_, ?_, rfl, rfl⟩
  · split_ifs with hempty
    · exact uniqueId_ne_empty _ _
    · exact hempty
  · split_ifs with hempty
    · exact bounded_profileId _ (Nat.not_le.mp fun hle => reject_eq_ok hlimit ⟨hempty, hle⟩)
    · rcases stringValue_eq_ok_iff.mp hexisting with ⟨-, rfl⟩ | ⟨_, -, -, hbounded⟩
      · exact absurd rfl hempty
      · exact hbounded

/-- A profile in the answer of a request has been normalised. -/
theorem normalized_of_saveProfile {clock : ℕ → UInt64} {params value : Value}
    {data data' : StoreFile} {fields : Map}
    (h : (saveProfile clock params).exec data = (.ok value, data'))
    (hprofile : value.get "profile" = some (.object fields)) :
    ∃ raw existing id, normalizeProfile raw existing id (clock 1) = .ok fields ∧ id ≠ "" ∧
      Bounded 128 id := by
  unfold saveProfile at h
  rcases exec_liftResult_bind h with ⟨_, -, herror, -⟩ | ⟨object, -, h⟩
  · cases herror
  rcases exec_liftResult_bind h with ⟨_, -, herror, -⟩ | ⟨raw, -, h⟩
  · cases herror
  rw [exec_onAccount] at h
  rcases hsave : saveProfileIn clock raw (entry data (accountKey data)) with
    error | ⟨value', account⟩
  · rw [hsave] at h
    cases h
  rw [hsave] at h
  obtain rfl := Except.ok.inj (Prod.mk.inj h).1
  obtain ⟨existing, id, saved, hsaved, hempty, hbounded, rfl, -⟩ := saveProfileIn_eq_ok hsave
  rw [Value.get_obj] at hprofile
  obtain rfl := Value.object.inj (Option.some.inj hprofile)
  exact ⟨raw, existing, id, hsaved, hempty, hbounded⟩

/-- A request for a copy of a normalised profile. -/
theorem exec_duplicateProfile {raw fields object : Map} {existing : Option Map} {id : String}
    {now : UInt64} (h : normalizeProfile raw existing id now = .ok fields) (hid : Stored 128 id)
    {data : StoreFile} (hfound : findById (profilesOf data) id = some (.object fields))
    (hlimit : (profilesOf data).length < MAX_PROFILES)
    (hobject : object.get "id" = some (.string id)) (hname : object.get "name" = none)
    (clock : ℕ → UInt64) : ∃ copy data',
      (duplicateProfile clock (.object object)).exec data =
        (.ok (.obj [("profile", .object copy), ("source_id", .string id)]), data') ∧
      profilesOf data' = profilesOf data ++ [.object copy] ∧
      IsCopy fields (profilesOf data) copy := by
  obtain ⟨profile, rfl, rfl, hcanonical⟩ := exists_canonical h
  obtain ⟨raw, copy, hgives, hrawName, hcopy, hduplicate⟩ :=
    exists_duplicateProfileIn hfound hlimit hname clock
  have hstored := stored_copyName profile.target.name_stored hlimit
  obtain ⟨fields, hfields, -, hget⟩ := hgives.normalizeProfile hcanonical
    (hstored.requiredString hrawName) none
    (uniqueId "profile" (clock 0) (profilesOf data)) (clock 1)
  obtain rfl := Except.ok.inj (hcopy.symm.trans hfields)
  have hexec : ∃ data', (duplicateProfile clock (.object object)).exec data =
      (.ok (.obj [("profile", .object copy), ("source_id", .string profile.id)]), data') ∧
      profilesOf data' = profilesOf data ++ [.object copy] := by
    have hparams : objectParams (.object object) = .ok object := rfl
    rw [duplicateProfile, exec_liftResult_bind_of_ok hparams,
      exec_liftResult_bind_of_ok (hid.requiredString hobject), exec_onAccount, hduplicate]
    refine ⟨_, rfl, ?_⟩
    simp [profilesOf, entry, accountKey]
  obtain ⟨data', hexec, hprofiles⟩ := hexec
  refine ⟨copy, data', hexec, hprofiles, ?_, ?_⟩
  · intro key hkey
    simp only [List.mem_cons, List.not_mem_nil, not_or, or_false] at hkey
    rw [hget, if_neg hkey.2.2.2, if_neg hkey.2.2.1, if_neg hkey.2.1, if_neg hkey.1]
  · refine ⟨_, hget "name", hstored.bounded.length_le, ?_⟩
    exact (copyName_spec profile.target.name hlimit).2

/-! ## The fixpoint and the copies -/

/-- **A normalised profile is accepted again and stays as it is**, but for the time of the update and
for a time of creation that is zero, which counts as none. **A copy of a saved profile** whose id has
no blanks at its ends is added, if there is room for it, under a name that no profile has. -/
theorem profiles_normal_and_copied :
    (∀ raw existing id now fields, normalizeProfile raw existing id now = .ok fields →
      ∀ existing', existing' = none ∨ existing' = some fields → ∀ now', ∃ created,
        fields.get "createdAtMs" = some (.u64 created) ∧
        normalizeProfile fields existing' id now' =
          .ok ((if created = 0 then fields.insert "createdAtMs" (.u64 now') else fields).insert
            "updatedAtMs" (.u64 now'))) ∧
    ∀ savedAt params value before after (fields : Map) id,
      (saveProfile savedAt params).exec before = (.ok value, after) →
      value.get "profile" = some (.object fields) → fields.get "id" = some (.string id) →
      trim id = id →
      ∀ data, findById (profilesOf data) id = some (.object fields) →
        (profilesOf data).length < MAX_PROFILES →
      ∀ clock (object : Map), object.get "id" = some (.string id) → object.get "name" = none →
        ∃ copy data', (duplicateProfile clock (.object object)).exec data =
            (.ok (.obj [("profile", .object copy), ("source_id", .string id)]), data') ∧
          profilesOf data' = profilesOf data ++ [.object copy] ∧
          IsCopy fields (profilesOf data) copy := by
  refine ⟨fun raw existing id now fields h existing' hexisting now' =>
    normalizeProfile_again h hexisting now', ?_⟩
  intro savedAt params value before after fields id hsave hprofile hid htrim data hfound hlimit
    clock object hobject hname
  obtain ⟨raw, existing, saved, hnormalized, hempty, hbounded⟩ :=
    normalized_of_saveProfile hsave hprofile
  obtain rfl : saved = id := by
    rw [(normalizeProfile_spec hnormalized).id] at hid
    exact Value.string.inj (Option.some.inj hid)
  exact exec_duplicateProfile hnormalized ⟨hempty, hbounded, htrim⟩ hfound hlimit hobject hname
    clock

/-- A profile with a given id is saved in a new store. -/
def saveNamed (id : String) : StoreResult Value × StoreFile :=
  (saveProfile (fun _ => 1)
    (.obj [("profile", .obj [("id", .string id), ("name", .string "Home")])])).exec {}

theorem profiles_normal_and_copied_home : ∃ value fields copy data',
    (saveNamed "home").1 = .ok value ∧ value.get "profile" = some (.object fields) ∧
      (duplicateProfile (fun _ => 2) (.object [("id", .string "home")])).exec (saveNamed "home").2 =
        (.ok (.obj [("profile", .object copy), ("source_id", .string "home")]), data') ∧
      IsCopy fields (profilesOf (saveNamed "home").2) copy := by
  have hfacts : ((saveNamed "home").1.toOption.bind fun value => (value.get "profile").bind
        fun profile => profile.asObject.bind fun fields => fields.get "id") =
          some (.string "home") ∧
      findById (profilesOf (saveNamed "home").2) "home" =
        ((saveNamed "home").1.toOption.bind fun value => value.get "profile") ∧
      (profilesOf (saveNamed "home").2).length < MAX_PROFILES ∧
      trim "home" = "home" := by decide +kernel
  obtain ⟨hid, hfound, hlimit, htrim⟩ := hfacts
  rcases hsave : (saveNamed "home").1 with error | value
  · rw [hsave] at hid
    cases hid
  rw [hsave] at hid hfound
  change (value.get "profile").bind _ = _ at hid
  obtain ⟨profile, hprofile, hid⟩ := Option.bind_eq_some_iff.mp hid
  obtain ⟨fields, hfields, hid⟩ := Option.bind_eq_some_iff.mp hid
  obtain rfl : profile = .object fields := by
    cases profile
    case object => exact congrArg Value.object (Option.some.inj hfields)
    all_goals cases hfields
  obtain ⟨copy, data', hexec, -, hcopy⟩ := profiles_normal_and_copied.2 (fun _ => 1) _ value {}
    (saveNamed "home").2 fields "home" (Prod.ext hsave rfl) hprofile hid htrim
    (saveNamed "home").2 (hfound.trans hprofile) hlimit (fun _ => 2) [("id", .string "home")] rfl rfl
  exact ⟨value, fields, copy, data', rfl, hprofile, hexec, hcopy⟩

/-- **A profile that is made while the clock reads zero is given another time of creation, and one
that is saved under an id with a blank at its front is not found.** -/
theorem profile_retimed_and_not_found :
    (∃ fields again, normalizeProfile [("name", .string "Home")] none "a" 0 = .ok fields ∧
      normalizeProfile fields none "a" 5 = .ok again ∧
      fields.get "createdAtMs" = some (.u64 0) ∧ again.get "createdAtMs" = some (.u64 5)) ∧
    ∃ value, (saveNamed " a").1 = .ok value ∧ (value.get "profile").bind idOf = some " a" ∧
      (profilesOf (saveNamed " a").2).map idOf = [some " a"] ∧
      ((duplicateProfile (fun _ => 2) (.obj [("id", .string " a")])).exec (saveNamed " a").2).1 =
        .error (.new "profile_not_found" "Profile was not found") := by
  constructor
  · have hrun : ((normalizeProfile [("name", .string "Home")] none "a" 0).toOption.bind fun fields =>
        (normalizeProfile fields none "a" 5).toOption.map fun again =>
          (fields.get "createdAtMs", again.get "createdAtMs")) =
        some (some (.u64 0), some (.u64 5)) := by decide +kernel
    rcases hfields : normalizeProfile [("name", .string "Home")] none "a" 0 with error | fields
    · rw [hfields] at hrun
      cases hrun
    rw [hfields] at hrun
    rcases hagain : normalizeProfile fields none "a" 5 with error | again
    · simp [Except.toOption, hagain] at hrun
    · simp only [Except.toOption, hagain, Option.bind_some, Option.map_some, Option.some.injEq,
        Prod.mk.injEq] at hrun
      exact ⟨fields, again, rfl, hagain, hrun⟩
  · have hrun : ((saveNamed " a").1.toOption.bind fun value => (value.get "profile").bind idOf) =
          some " a" ∧ (profilesOf (saveNamed " a").2).map idOf = [some " a"] ∧
        ((duplicateProfile (fun _ => 2) (.obj [("id", .string " a")])).exec
          (saveNamed " a").2).1 =
            .error (.new "profile_not_found" "Profile was not found") := by decide +kernel
    rcases hsave : (saveNamed " a").1 with error | value
    · rw [hsave] at hrun
      cases hrun.1
    · rw [hsave] at hrun
      exact ⟨value, rfl, hrun⟩

end ProtonVpnOmarchy.Agent.Store
