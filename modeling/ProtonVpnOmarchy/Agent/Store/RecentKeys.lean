import ProtonVpnOmarchy.Agent.Store.NormalProfiles

/-!
# Keys of recent connections and excluded locations

`store.rs` tells recent connections apart by `recent_key` and excluded locations by a key of the
same kind: fields joined by colons. A field may hold a colon itself, and some fields of a target
stand in no key.

* `RecentTarget` — what a recent connection resolves to.
* `recentKey_eq_iff` — keys are equal if the codes are, and the pieces of the texts between colons.
* `keys_injective_iff` — the targets, and the locations, that no other one is mistaken for.
-/

namespace ProtonVpnOmarchy.Agent.Store

open Lib Splitd

/-! ## Targets -/

/-- What a recent connection resolves to. -/
structure RecentTarget where
  kind : String
  profileId : String := ""
  feature : String := ""
  entryCountryCode : String := ""
  countryCode : String := ""
  state : String := ""
  city : String := ""
  serverName : String := ""
  gatewayName : String := ""
  deriving DecidableEq

def recentTarget (recent : Map) : RecentTarget :=
  if textOr recent "kind" "" = "profile" then
    { kind := textOr recent "kind" "", profileId := textOr recent "profileId" "" }
  else {
    kind := textOr recent "kind" ""
    feature := textOr recent "feature" "all"
    entryCountryCode := textOr recent "entryCountryCode" ""
    countryCode := textOr recent "countryCode" ""
    state := textOr recent "state" ""
    city := textOr recent "city" ""
    serverName := textOr recent "serverName" ""
    gatewayName := textOr recent "gatewayName" "" }

theorem copyNonemptyString_eq (source target : Map) (sourceName targetName : String) :
    copyNonemptyString source target sourceName targetName =
      if textOr source sourceName "" = "" then target
      else target.insert targetName (.string (textOr source sourceName "")) := by
  unfold copyNonemptyString textOr
  cases (source.get sourceName).bind Value.asStr with
  | none => rfl
  | some text =>
      by_cases h : text = ""
      · simp only [Option.getD_some, if_pos h]
        rw [Option.filter_some, if_neg (by simpa using h)]
      · simp only [Option.getD_some, if_neg h]
        rw [Option.filter_some, if_pos (by simpa using h)]

/-- The target decides the parameters of the connection. -/
theorem recentTarget_congr {recent recent' : Map} (hkind : textOr recent "kind" "" ≠ "profile")
    (h : recentTarget recent = recentTarget recent') :
    locationTarget recent = locationTarget recent' ∧
      recentKindFeatures recent (textOr recent "kind" "") =
        recentKindFeatures recent' (textOr recent' "kind" "") := by
  have hkind' : textOr recent' "kind" "" ≠ "profile" := by
    have heq := congrArg RecentTarget.kind h
    unfold recentTarget at heq
    rw [if_neg hkind] at heq
    split_ifs at heq with hprofile
    · exact absurd (heq.trans hprofile) hkind
    · exact hprofile
  unfold recentTarget at h
  rw [if_neg hkind, if_neg hkind', RecentTarget.mk.injEq] at h
  obtain ⟨hkinds, -, hfeature, hentry, hcountry, hstate, hcity, hserver, hgateway⟩ := h
  unfold locationTarget recentKindFeatures
  simp only [List.foldl_cons, List.foldl_nil, copyNonemptyString_eq, hkinds, hfeature, hentry,
    hcountry, hstate, hcity, hserver, hgateway, and_self]

namespace RecentTarget

def isGateway (kind : String) : Bool := kind = "gateway" || kind = "gatewayServer"

/-- The fields of the key that hold no colon. -/
def keyCodes (target : RecentTarget) : List String :=
  if target.kind = "profile" ∨ isGateway target.kind then [target.kind]
  else [target.kind, target.feature, target.entryCountryCode, target.countryCode]

/-- The texts of the key. -/
def keyTexts (target : RecentTarget) : List String :=
  if target.kind = "profile" then [target.profileId]
  else if isGateway target.kind then [target.gatewayName, target.serverName]
  else [target.state, target.city, target.serverName]

/-- The fields that the key leaves out. -/
def leftOut (target : RecentTarget) : List String :=
  if target.kind = "profile" then []
  else if isGateway target.kind then
    [target.entryCountryCode, target.countryCode, target.state, target.city]
  else [target.gatewayName]

end RecentTarget

/-- The pieces of texts between their colons. -/
def colonPieces (texts : List String) : List (List Char) :=
  texts.flatMap fun text => text.toList.splitOn ':'

/-- A text without a colon is one piece. -/
theorem colonPieces_of_not_mem {texts : List String} (h : ∀ text ∈ texts, ':' ∉ text.toList) :
    colonPieces texts = texts.map String.toList := by
  unfold colonPieces
  rw [List.flatMap_congr fun text htext => List.splitOn_eq_singleton (h text htext)]
  exact (List.map_eq_flatMap ..).symm

open RecentTarget in
theorem recentKey_eq (recent : Map) : (recentKey recent).toList =
    [':'].intercalate (((recentTarget recent).keyCodes ++ (recentTarget recent).keyTexts).map
      String.toList) := by
  have hcolon : (":" : String).toList = [':'] := rfl
  unfold recentKey
  dsimp only
  split
  case h_1 hkind =>
    simp [recentTarget, keyCodes, keyTexts, hkind, List.intercalate_cons_cons]
  case h_2 hkind =>
    simp [recentTarget, keyCodes, keyTexts, hkind, isGateway, List.intercalate_cons_cons]
  case h_3 hkind =>
    simp [recentTarget, keyCodes, keyTexts, hkind, isGateway, List.intercalate_cons_cons]
  case h_4 hprofile hgateway hserver =>
    have hprofile : ¬ textOr recent "kind" "" = "profile" := hprofile
    have hgateway : isGateway (textOr recent "kind" "") = false := by
      unfold isGateway
      rw [decide_eq_false hgateway, decide_eq_false hserver]
      rfl
    unfold recentTarget keyCodes keyTexts
    rw [if_neg hprofile, if_neg (by rw [hgateway]; simpa using hprofile), if_neg hprofile,
      if_neg (by rw [hgateway]; exact Bool.false_ne_true)]
    simp [List.intercalate_cons_cons]

/-! ## Normalised recent connections -/

theorem insertAll_append (map : Map) (entries entries' : List (String × Value)) :
    map.insertAll (entries ++ entries') = (map.insertAll entries).insertAll entries' :=
  List.foldl_append

theorem get_insertAll_of_ne {map : Map} {entries : List (String × Value)} {key : String}
    (h : ∀ entry ∈ entries, entry.1 ≠ key) : (map.insertAll entries).get key = map.get key := by
  unfold Map.insertAll
  induction entries generalizing map with
  | nil => rfl
  | cons entry entries ih =>
      rw [List.foldl_cons, ih fun other hother => h other (List.mem_cons_of_mem _ hother),
        Map.get_insert_of_ne (h entry List.mem_cons_self).symm]

/-- The codes of a map hold no colon, and it has no feature. -/
structure Coded (recent : Map) : Prop where
  code : ∀ key ∈ ["entryCountryCode", "countryCode"], ':' ∉ (textOr recent key "").toList
  feature : recent.get "feature" = none

theorem IsLocation.no_colon {maxChars : ℕ} {text : String} (h : IsLocation maxChars true text) :
    ':' ∉ text.toList := by
  intro hmem
  have halpha := List.all_eq_true.mp (h.2 rfl).2.1 ':' hmem
  exact absurd halpha (by decide)

theorem coded_recentStrings {raw recent : Map} {kind : String}
    (h : recentStrings.foldlM (fun target (key, maxChars, uppercase) =>
      insertRecentString raw target key maxChars uppercase)
        (Map.insert [] "kind" (.string kind)) = .ok recent) : Coded recent := by
  have hupper : ∀ entry ∈ recentStrings, entry.1 ∈ ["entryCountryCode", "countryCode"] →
      entry.2.2 = true := by decide
  have hfeature : ∀ entry ∈ recentStrings, "feature" ≠ entry.1 := by decide
  have hstart : Coded (Map.insert [] "kind" (.string kind)) := by
    refine ⟨fun key hkey => ?_, rfl⟩
    have hne : key ≠ "kind" := by
      rintro rfl
      exact absurd hkey (by decide)
    rw [textOr, Map.get_insert_of_ne hne]
    exact List.not_mem_nil
  refine Except.foldlM_inv Coded ?_ hstart h
  rintro ⟨key, maxChars, uppercase⟩ hentry target target' htarget hstep
  rcases insertString_isLocation hstep with rfl | ⟨text, rfl, htext⟩
  · exact htarget
  · refine ⟨fun other hother => ?_, ?_⟩
    · rw [textOr, Map.get_insert]
      split_ifs with heq
      · have huppercase : uppercase = true := hupper _ hentry (heq ▸ hother)
        rw [huppercase] at htext
        exact htext.no_colon
      · exact htarget.code other hother
    · rw [Map.get_insert_of_ne (hfeature _ hentry)]
      exact htarget.feature

theorem recentFeature_spec {raw : Map} {kind : String} {entries : List (String × Value)}
    (h : recentFeature raw kind = .ok entries) : entries = [] ∨
      kind ∈ ["country", "state", "city"] ∧ ∃ feature : String, ':' ∉ feature.toList ∧
        entries = [("feature", .string feature)] := by
  unfold recentFeature at h
  split_ifs at h with hkind
  · obtain ⟨feature, -, h⟩ := Except.bind_eq_ok.mp h
    obtain ⟨⟨⟩, hreject, h⟩ := Except.bind_eq_ok.mp h
    have hmem := not_not.mp (reject_eq_ok hreject)
    have hcolon : ∀ text ∈ ["standard", "all", "secure_core", "p2p", "tor"],
        ':' ∉ text.toList := by decide
    exact .inr ⟨hkind, toAsciiLowercase feature, hcolon _ hmem, (Except.ok.inj h).symm⟩
  · exact .inl (Except.ok.inj h).symm

/-- What a key of a normalised recent connection is made of. -/
structure Keyed (recent : Map) : Prop where
  kind : ':' ∉ (textOr recent "kind" "").toList
  feature : ':' ∉ (textOr recent "feature" "all").toList
  code : ∀ key ∈ ["entryCountryCode", "countryCode"], ':' ∉ (textOr recent key "").toList
  gateway : RecentTarget.isGateway (textOr recent "kind" "") = true →
    textOr recent "feature" "all" = "all"

theorem no_colon_of_valid {kind : String} {recent : Map}
    (h : recentTargetValid kind recent = true) : ':' ∉ kind.toList := by
  unfold recentTargetValid at h
  split at h
  all_goals first
    | decide
    | cases h

theorem textOr_of_get {recent recent' : Map} {key : String} (fallback : String)
    (h : recent'.get key = recent.get key) :
    textOr recent' key fallback = textOr recent key fallback := by
  unfold textOr
  rw [h]

theorem keyed_of_normalizeRecent {raw recent : Map} (h : normalizeRecent raw = .ok recent) :
    Keyed recent := by
  obtain ⟨kind, hread, hnamed, hvalid⟩ := normalizeRecent_spec h
  have hkind : textOr recent "kind" "" = kind := by
    unfold textOr
    rw [hnamed.kind]
    rfl
  unfold normalizeRecent at h
  obtain ⟨kind', hread', h⟩ := Except.bind_eq_ok.mp h
  obtain rfl : kind = kind' := Except.ok.inj (hread.symm.trans hread')
  obtain ⟨fields, hfields, h⟩ := Except.bind_eq_ok.mp h
  obtain ⟨feature, hfeature, h⟩ := Except.bind_eq_ok.mp h
  obtain ⟨load, hload, h⟩ := Except.bind_eq_ok.mp h
  obtain ⟨-, -, h⟩ := Except.bind_eq_ok.mp h
  have hcoded := coded_recentStrings hfields
  have hloads := recentLoad_keys hload
  have hfeatures := recentFeature_keys hfeature
  obtain rfl := Except.ok.inj h
  have hget : (fields.insertAll (feature ++ load)).get "feature" =
      (fields.insertAll feature).get "feature" := by
    rw [insertAll_append, get_insertAll_of_ne]
    intro entry hentry
    rw [hloads entry hentry]
    decide
  refine ⟨hkind ▸ no_colon_of_valid hvalid, ?_, fun key hkey => ?_, fun hgateway => ?_⟩
  · rw [textOr_of_get _ hget]
    rcases recentFeature_spec hfeature with rfl | ⟨-, text, htext, rfl⟩
    · rw [Map.insertAll, List.foldl_nil, textOr, hcoded.feature]
      decide
    · rw [Map.insertAll, List.foldl_cons, List.foldl_nil, textOr, Map.get_insert_self]
      exact htext
  · have hcode : (fields.insertAll (feature ++ load)).get key = fields.get key := by
      refine get_insertAll_of_ne fun entry hentry => ?_
      have hentry' : entry.1 ∈ ["feature", "load"] := by
        rcases List.mem_append.mp hentry with hentry | hentry
        · rw [hfeatures entry hentry]
          decide
        · rw [hloads entry hentry]
          decide
      rintro rfl
      revert hentry' hkey
      generalize entry.1 = name
      intro hkey hname
      simp only [List.mem_cons, List.not_mem_nil, or_false] at hkey hname
      rcases hkey with rfl | rfl
      all_goals exact absurd hname (by decide)
    rw [textOr_of_get _ hcode]
    exact hcoded.code key hkey
  · rw [textOr_of_get _ hget]
    rw [hkind] at hgateway
    rcases recentFeature_spec hfeature with rfl | ⟨hlocation, -⟩
    · rw [Map.insertAll, List.foldl_nil, textOr, hcoded.feature]
      rfl
    · have hnot : ∀ name ∈ ["country", "state", "city"], RecentTarget.isGateway name = false := by
        decide
      rw [hnot kind hlocation] at hgateway
      cases hgateway

/-! ## Equal keys -/

/-- Codes without colons are told apart from the pieces behind them. -/
theorem intercalate_codes_eq_iff {codes codes' texts texts' : List String}
    (hcodes : ∀ code ∈ codes, ':' ∉ code.toList) (hcodes' : ∀ code ∈ codes', ':' ∉ code.toList)
    (hlength : codes.head? = codes'.head? → codes.length = codes'.length)
    (hne : codes ≠ []) (hne' : codes' ≠ []) :
    [':'].intercalate ((codes ++ texts).map String.toList) =
        [':'].intercalate ((codes' ++ texts').map String.toList) ↔
      codes = codes' ∧ colonPieces texts = colonPieces texts' := by
  have hpieces : ∀ codes texts : List String, (∀ code ∈ codes, ':' ∉ code.toList) →
      ((codes ++ texts).map String.toList).flatMap (·.splitOn ':') =
        codes.map String.toList ++ colonPieces texts := by
    intro codes texts h
    rw [← colonPieces_of_not_mem h, colonPieces, colonPieces, ← List.flatMap_append,
      List.flatMap_map]
  rw [intercalate_eq_iff ':' (by simp [hne]) (by simp [hne']), hpieces codes texts hcodes,
    hpieces codes' texts' hcodes']
  constructor
  · intro h
    have hhead : codes.head? = codes'.head? := by
      obtain ⟨code, rest, rfl⟩ := List.exists_cons_of_ne_nil hne
      obtain ⟨code', rest', rfl⟩ := List.exists_cons_of_ne_nil hne'
      rw [List.map_cons, List.map_cons, List.cons_append, List.cons_append] at h
      rw [List.head?_cons, List.head?_cons, String.toList_injective (List.cons.inj h).1]
    obtain ⟨hmap, hrest⟩ := List.append_inj h (by simpa using hlength hhead)
    exact ⟨List.map_injective_iff.mpr (fun _ _ => String.toList_injective) hmap, hrest⟩
  · rintro ⟨rfl, h⟩
    rw [h]

section recents

variable {recent recent' : Map}

namespace RecentTarget

theorem head?_keyCodes (target : RecentTarget) : target.keyCodes.head? = some target.kind := by
  unfold keyCodes
  split_ifs
  · rfl
  · rfl

theorem length_keyCodes_congr {target target' : RecentTarget}
    (h : target.keyCodes.head? = target'.keyCodes.head?) :
    target.keyCodes.length = target'.keyCodes.length := by
  rw [head?_keyCodes, head?_keyCodes] at h
  unfold keyCodes
  rw [Option.some.inj h]
  split_ifs
  · rfl
  · rfl

theorem keyCodes_ne_nil (target : RecentTarget) : target.keyCodes ≠ [] := by
  intro h
  have hhead := head?_keyCodes target
  rw [h] at hhead
  cases hhead

end RecentTarget

theorem kind_recentTarget (recent : Map) : (recentTarget recent).kind = textOr recent "kind" "" := by
  unfold recentTarget
  split_ifs
  · rfl
  · rfl

theorem Keyed.keyCodes (h : Keyed recent) :
    ∀ code ∈ (recentTarget recent).keyCodes, ':' ∉ code.toList := by
  unfold RecentTarget.keyCodes
  rw [kind_recentTarget]
  split_ifs with hshort
  · intro code hcode
    rw [List.mem_singleton.mp hcode]
    exact h.kind
  · rw [not_or] at hshort
    unfold recentTarget
    rw [if_neg hshort.1]
    intro code hcode
    simp only [List.mem_cons, List.not_mem_nil, or_false] at hcode
    rcases hcode with rfl | rfl | rfl | rfl
    · exact h.kind
    · exact h.feature
    · exact h.code _ (by decide)
    · exact h.code _ (by decide)

/-- Keys are equal if the codes are, and the pieces of the texts. -/
theorem recentKey_eq_iff (h : Keyed recent) (h' : Keyed recent') :
    recentKey recent = recentKey recent' ↔
      (recentTarget recent).keyCodes = (recentTarget recent').keyCodes ∧
        colonPieces (recentTarget recent).keyTexts =
          colonPieces (recentTarget recent').keyTexts := by
  rw [← String.toList_inj, recentKey_eq, recentKey_eq]
  exact intercalate_codes_eq_iff h.keyCodes h'.keyCodes RecentTarget.length_keyCodes_congr
    (RecentTarget.keyCodes_ne_nil _) (RecentTarget.keyCodes_ne_nil _)

/-- A target is the fields of its key and those the key leaves out. -/
theorem recentTarget_eq_iff (h : Keyed recent) (h' : Keyed recent') :
    recentTarget recent = recentTarget recent' ↔
      (recentTarget recent).keyCodes = (recentTarget recent').keyCodes ∧
        (recentTarget recent).keyTexts = (recentTarget recent').keyTexts ∧
        (recentTarget recent).leftOut = (recentTarget recent').leftOut := by
  refine ⟨fun heq => by rw [heq]; exact ⟨rfl, rfl, rfl⟩, fun ⟨hcodes, htexts, hout⟩ => ?_⟩
  have hkind : textOr recent "kind" "" = textOr recent' "kind" "" := by
    have hhead := congrArg List.head? hcodes
    rw [RecentTarget.head?_keyCodes, RecentTarget.head?_keyCodes, kind_recentTarget,
      kind_recentTarget] at hhead
    exact Option.some.inj hhead
  unfold RecentTarget.keyCodes at hcodes
  unfold RecentTarget.keyTexts at htexts
  unfold RecentTarget.leftOut at hout
  simp only [kind_recentTarget, ← hkind] at hcodes htexts hout
  have hgateway := h.gateway
  have hgateway' := h'.gateway
  rw [← hkind] at hgateway'
  unfold recentTarget at *
  rw [← hkind] at *
  by_cases hprofile : textOr recent "kind" "" = "profile"
  · simp only [if_pos hprofile, List.cons.injEq, and_true] at htexts ⊢
    rw [htexts]
  simp only [if_neg hprofile] at *
  by_cases hgw : RecentTarget.isGateway (textOr recent "kind" "") = true
  · simp only [if_pos hgw, List.cons.injEq, and_true] at htexts hout
    rw [hgateway hgw, hgateway' hgw, htexts.1, htexts.2, hout.1, hout.2.1, hout.2.2.1, hout.2.2.2]
  · simp only [hprofile, hgw, Bool.false_eq_true, or_self, if_false, List.cons.injEq, and_true,
      true_and] at hcodes htexts hout
    rw [hcodes.1, hcodes.2.1, hcodes.2.2, htexts.1, htexts.2.1, htexts.2.2, hout]

end recents

/-- Targets with one kind and the same codes, whose texts have the same pieces between the colons,
have the same texts, and agree in the fields that the key leaves out. -/
def TargetsApart (target target' : RecentTarget) : Prop :=
  target.keyCodes = target'.keyCodes → colonPieces target.keyTexts = colonPieces target'.keyTexts →
    target.keyTexts = target'.keyTexts ∧ target.leftOut = target'.leftOut

/-- Texts without colons are told apart. -/
theorem targetsApart_of_not_mem {target target' : RecentTarget}
    (h : ∀ text ∈ target.keyTexts ++ target'.keyTexts, ':' ∉ text.toList)
    (hout : target.keyCodes = target'.keyCodes → target.keyTexts = target'.keyTexts →
      target.leftOut = target'.leftOut) : TargetsApart target target' := by
  intro hcodes hpieces
  rw [List.forall_mem_append] at h
  rw [colonPieces_of_not_mem h.1, colonPieces_of_not_mem h.2] at hpieces
  have htexts := List.map_injective_iff.mpr (fun _ _ => String.toList_injective) hpieces
  exact ⟨htexts, hout hcodes htexts⟩

/-! ## Excluded locations -/

namespace ExcludedLocation

/-- The texts of the key. -/
def keyTexts (location : ExcludedLocation) : List String :=
  [toAsciiLowercase location.state, toAsciiLowercase location.city]

/-- The locations are one, up to upper case in the state and the city. -/
def Same (location location' : ExcludedLocation) : Prop :=
  location.kind = location'.kind ∧ location.countryCode = location'.countryCode ∧
    toAsciiLowercase location.state = toAsciiLowercase location'.state ∧
    toAsciiLowercase location.city = toAsciiLowercase location'.city

/-- Locations of one kind in one country, whose state and city have the same pieces between the
colons, have the same state and city. -/
def Apart (location location' : ExcludedLocation) : Prop :=
  location.kind = location'.kind → location.countryCode = location'.countryCode →
    colonPieces location.keyTexts = colonPieces location'.keyTexts →
      location.keyTexts = location'.keyTexts

theorem key_eq (location : ExcludedLocation) : location.key.toList =
    [':'].intercalate (([location.kind, location.countryCode] ++ location.keyTexts).map
      String.toList) := by
  have hcolon : (":" : String).toList = [':'] := rfl
  unfold key keyTexts
  simp [List.intercalate_cons_cons]

theorem codes_of_excludedLocation {item : Value} {location : ExcludedLocation}
    (h : excludedLocation item = .ok location) :
    ∀ code ∈ [location.kind, location.countryCode], ':' ∉ code.toList := by
  unfold excludedLocation at h
  obtain ⟨object, -, h⟩ := Except.bind_eq_ok.mp h
  obtain ⟨kind, -, h⟩ := Except.bind_eq_ok.mp h
  obtain ⟨⟨⟩, hkind, h⟩ := Except.bind_eq_ok.mp h
  obtain ⟨countryCode, hread, h⟩ := Except.bind_eq_ok.mp h
  obtain ⟨⟨⟩, hcountry, h⟩ := Except.bind_eq_ok.mp h
  obtain ⟨state, -, h⟩ := Except.bind_eq_ok.mp h
  obtain ⟨city, -, h⟩ := Except.bind_eq_ok.mp h
  obtain ⟨⟨⟩, -, h⟩ := Except.bind_eq_ok.mp h
  obtain rfl := Except.ok.inj h
  have hkind := not_not.mp (reject_eq_ok hkind)
  have hcountry := reject_eq_ok hcountry
  rw [not_or, not_not, not_not] at hcountry
  have hcode := (isLocation_code (requiredString_eq_ok_iff.mp hread).2.1 hcountry.1
    hcountry.2).no_colon
  have hkinds : ∀ text ∈ ["country", "state", "city"], ':' ∉ text.toList := by decide
  intro code hmem
  simp only [List.mem_cons, List.not_mem_nil, or_false] at hmem
  rcases hmem with rfl | rfl
  · exact hkinds _ hkind
  · exact hcode

theorem key_eq_iff {item item' : Value} {location location' : ExcludedLocation}
    (h : excludedLocation item = .ok location) (h' : excludedLocation item' = .ok location') :
    location.key = location'.key ↔ location.kind = location'.kind ∧
      location.countryCode = location'.countryCode ∧
      colonPieces location.keyTexts = colonPieces location'.keyTexts := by
  rw [← String.toList_inj, key_eq, key_eq, intercalate_codes_eq_iff (codes_of_excludedLocation h)
    (codes_of_excludedLocation h') (fun _ => rfl) (List.cons_ne_nil _ _) (List.cons_ne_nil _ _),
    List.cons.injEq, List.cons.injEq, and_assoc, and_assoc]
  simp

end ExcludedLocation

/-- **The keys tell two targets, and two locations, apart** exactly if their texts are not divided
in two ways into the same pieces between colons, and the targets agree in the fields that the key
leaves out. -/
theorem keys_injective_iff {raw raw' recent recent' : Map}
    (h : normalizeRecent raw = .ok recent) (h' : normalizeRecent raw' = .ok recent')
    {item item' : Value} {location location' : ExcludedLocation}
    (hitem : excludedLocation item = .ok location)
    (hitem' : excludedLocation item' = .ok location') :
    ((recentKey recent = recentKey recent' → recentTarget recent = recentTarget recent') ↔
      TargetsApart (recentTarget recent) (recentTarget recent')) ∧
    ((location.key = location'.key → location.Same location') ↔ location.Apart location') := by
  have hkeyed := keyed_of_normalizeRecent h
  have hkeyed' := keyed_of_normalizeRecent h'
  constructor
  · rw [recentKey_eq_iff hkeyed hkeyed', recentTarget_eq_iff hkeyed hkeyed']
    constructor
    · intro heq hcodes hpieces
      exact (heq ⟨hcodes, hpieces⟩).2
    · rintro hapart ⟨hcodes, hpieces⟩
      exact ⟨hcodes, hapart hcodes hpieces⟩
  · rw [ExcludedLocation.key_eq_iff hitem hitem']
    constructor
    · intro heq hkind hcountry hpieces
      obtain ⟨-, -, hstate, hcity⟩ := heq ⟨hkind, hcountry, hpieces⟩
      rw [ExcludedLocation.keyTexts, hstate, hcity]
      rfl
    · rintro hapart ⟨hkind, hcountry, hpieces⟩
      have htexts := hapart hkind hcountry hpieces
      unfold ExcludedLocation.keyTexts at htexts
      rw [List.cons.injEq, List.cons.injEq] at htexts
      exact ⟨hkind, hcountry, htexts.1, htexts.2.1⟩

/-! ## Two cities -/

/-- A city as a client records it. -/
def rawCity (state city : String) : Map :=
  [("city", .string city), ("countryCode", .string "us"), ("kind", .string "city"),
    ("state", .string state)]

/-- The same city as it is stored. -/
def storedCity (state city : String) : Map :=
  [("city", .string city), ("countryCode", .string "US"), ("feature", .string "standard"),
    ("kind", .string "city"), ("state", .string state)]

/-- A city as a client excludes it. -/
def excludedCity (state city : String) : Value :=
  .obj [("kind", .string "city"), ("country_code", .string "us"), ("state", .string state),
    ("city", .string city)]

theorem normalizeRecent_rawCity : ∀ names ∈ [("Washington", "Seattle"), ("Kansas", "Seattle"),
    ("A:B", "C"), ("A", "B:C")], normalizeRecent (rawCity names.1 names.2) =
      .ok (storedCity names.1 names.2) := by
  decide +kernel

theorem excludedLocation_excludedCity : ∀ names ∈ [("Washington", "Seattle"), ("Kansas", "Seattle"),
    ("A:B", "C"), ("A", "B:C")], excludedLocation (excludedCity names.1 names.2) =
      .ok ⟨"city", "US", names.1, names.2⟩ := by
  decide +kernel

/-- Two cities of one name in different states. -/
theorem keys_injective_iff_seattle :
    recentKey (storedCity "Washington" "Seattle") ≠ recentKey (storedCity "Kansas" "Seattle") ∧
      TargetsApart (recentTarget (storedCity "Washington" "Seattle"))
        (recentTarget (storedCity "Kansas" "Seattle")) ∧
      ExcludedLocation.Apart ⟨"city", "US", "Washington", "Seattle"⟩
        ⟨"city", "US", "Kansas", "Seattle"⟩ := by
  have hkey : recentKey (storedCity "Washington" "Seattle") ≠
      recentKey (storedCity "Kansas" "Seattle") := by decide +kernel
  have hlocation : ExcludedLocation.key ⟨"city", "US", "Washington", "Seattle"⟩ ≠
      ExcludedLocation.key ⟨"city", "US", "Kansas", "Seattle"⟩ := by decide +kernel
  obtain ⟨htarget, hexcluded⟩ := keys_injective_iff
    (normalizeRecent_rawCity ("Washington", "Seattle") (by decide))
    (normalizeRecent_rawCity ("Kansas", "Seattle") (by decide))
    (excludedLocation_excludedCity ("Washington", "Seattle") (by decide))
    (excludedLocation_excludedCity ("Kansas", "Seattle") (by decide))
  exact ⟨hkey, htarget.mp fun heq => absurd heq hkey, hexcluded.mp fun heq => absurd heq hlocation⟩

/-- The city `C` in `A:B` replaces the city `B:C` in `A`, and is not excluded beside it. -/
theorem keys_not_injective :
    (∃ recent recent', normalizeRecent (rawCity "A:B" "C") = .ok recent ∧
      normalizeRecent (rawCity "A" "B:C") = .ok recent' ∧ recentKey recent = recentKey recent' ∧
      recentTarget recent ≠ recentTarget recent') ∧
    ∃ location location', excludedLocation (excludedCity "A:B" "C") = .ok location ∧
      excludedLocation (excludedCity "A" "B:C") = .ok location' ∧ location.key = location'.key ∧
      ¬ location.Same location' := by
  refine ⟨⟨storedCity "A:B" "C", storedCity "A" "B:C",
    normalizeRecent_rawCity ("A:B", "C") (by decide),
    normalizeRecent_rawCity ("A", "B:C") (by decide), by decide +kernel, by decide +kernel⟩,
    ⟨"city", "US", "A:B", "C"⟩, ⟨"city", "US", "A", "B:C"⟩,
    excludedLocation_excludedCity ("A:B", "C") (by decide),
    excludedLocation_excludedCity ("A", "B:C") (by decide), by decide +kernel, ?_⟩
  rintro ⟨-, -, hstate, -⟩
  exact absurd hstate (by decide +kernel)

end ProtonVpnOmarchy.Agent.Store
