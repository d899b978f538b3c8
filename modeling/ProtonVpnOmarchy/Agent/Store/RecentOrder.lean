import ProtonVpnOmarchy.Agent.Store.DefaultConnection

/-!
# The order of recent connections

Recent connections are told apart by their ids, their targets and the times of their last
connections. A recorded connection takes the time of the clock, or one more than the latest of the
others if the clock is not ahead of it; that increment is not checked.

* `Ordered` — pinned entries first, in the order of pinning, then at most six others, the latest
  first.
* `recents_in_order` — as long as no other entry has the last time there is, the entries of every
  account are in this order in every run, pinned ones are kept, and the last connection is the one
  that was recorded last.
* `record_in_time_iff` — the time of a recorded connection is later than those of all others exactly
  if the increment does not overflow.
-/

namespace ProtonVpnOmarchy.Agent.Store

open Lib Lib.Fallible Splitd

/-! ## Times -/

/-- The time of the last connection. -/
def timeOf (recent : Value) : UInt64 := numberOf recent "lastConnectionTimeMs"

/-- `u64::MAX` -/
def LAST_TIME : UInt64 := 18446744073709551615

/-- The latest time. -/
def newestTime (recents : List Value) : UInt64 := (recents.map timeOf).foldl max 0

theorem max_cases (a b : UInt64) : a ≤ b ∧ max a b = b ∨ b ≤ a ∧ max a b = a := by
  by_cases h : a ≤ b
  · exact .inl ⟨h, if_pos h⟩
  · exact .inr ⟨(UInt64.le_total a b).resolve_left h, if_neg h⟩

theorem foldl_max_spec (times : List UInt64) (start : UInt64) :
    start ≤ times.foldl max start ∧ (∀ time ∈ times, time ≤ times.foldl max start) ∧
      (times.foldl max start = start ∨ times.foldl max start ∈ times) := by
  induction times generalizing start with
  | nil => exact ⟨UInt64.le_refl _, nofun, .inl rfl⟩
  | cons time times ih =>
      obtain ⟨hstart, hall, hmem⟩ := ih (max start time)
      rw [List.foldl_cons]
      rcases max_cases start time with ⟨hle, hmax⟩ | ⟨hle, hmax⟩
      · rw [hmax] at hstart hall hmem ⊢
        refine ⟨UInt64.le_trans hle hstart, List.forall_mem_cons.mpr ⟨hstart, hall⟩, ?_⟩
        rcases hmem with hmem | hmem
        · exact .inr (List.mem_cons.mpr (.inl hmem))
        · exact .inr (List.mem_cons_of_mem _ hmem)
      · rw [hmax] at hstart hall hmem ⊢
        refine ⟨hstart, List.forall_mem_cons.mpr ⟨UInt64.le_trans hle hstart, hall⟩, ?_⟩
        exact hmem.imp id (List.mem_cons_of_mem _)

theorem timeOf_le_newestTime {recents : List Value} {recent : Value} (h : recent ∈ recents) :
    timeOf recent ≤ newestTime recents :=
  (foldl_max_spec _ 0).2.1 _ (List.mem_map_of_mem h)

/-- The increment overflows only at the last time there is. -/
theorem newestTime_ne_iff {recents : List Value} :
    newestTime recents ≠ LAST_TIME ↔ ∀ recent ∈ recents, timeOf recent ≠ LAST_TIME := by
  constructor
  · intro h recent hrecent htime
    have hle := timeOf_le_newestTime hrecent
    rw [htime] at hle
    refine h (UInt64.le_antisymm ?_ hle)
    rw [UInt64.le_iff_toNat_le]
    exact Nat.le_of_lt_succ (UInt64.toNat_lt _)
  · intro h hnewest
    obtain ⟨-, -, hzero | hmem⟩ := foldl_max_spec (recents.map timeOf) 0
    · rw [newestTime, hzero] at hnewest
      cases hnewest
    · obtain ⟨recent, hrecent, htime⟩ := List.mem_map.mp hmem
      exact h recent hrecent (htime.trans hnewest)

theorem toNat_newestTime_add_one {recents : List Value} (h : newestTime recents ≠ LAST_TIME) :
    (newestTime recents + 1).toNat = (newestTime recents).toNat + 1 := by
  have hlt : (newestTime recents).toNat ≠ LAST_TIME.toNat := fun heq => h (UInt64.toNat_inj.mp heq)
  have hlast : LAST_TIME.toNat = 2 ^ 64 - 1 := rfl
  have hbound := (newestTime recents).toNat_lt
  rw [UInt64.toNat_add, UInt64.toNat_one]
  omega

/-- A time that is later than all others, unless the increment overflows. -/
theorem timeOf_lt_of_ne {recents : List Value} {recent : Value} (clock : UInt64)
    (h : newestTime recents ≠ LAST_TIME) (hrecent : recent ∈ recents) :
    timeOf recent < max clock (newestTime recents + 1) := by
  have hle := UInt64.le_iff_toNat_le.mp (timeOf_le_newestTime hrecent)
  have hnext := toNat_newestTime_add_one h
  have hmax : newestTime recents + 1 ≤ max clock (newestTime recents + 1) := by
    rcases max_cases clock (newestTime recents + 1) with ⟨-, hmax⟩ | ⟨hle, hmax⟩
    · rw [hmax]
      exact UInt64.le_refl _
    · rw [hmax]
      exact hle
  have hmax := UInt64.le_iff_toNat_le.mp hmax
  rw [UInt64.lt_iff_toNat_lt]
  omega

/-! ## The latest entry -/

theorem foldl_mostRecent_spec (recents : List Value) (best : Value) : ∃ latest,
    recents.foldl (fun best value => match best with
      | none => some value
      | some best =>
        if numberOf best "lastConnectionTimeMs" ≤ numberOf value "lastConnectionTimeMs" then
          some value
        else some best) (some best) = some latest ∧ latest ∈ best :: recents ∧
      ∀ value ∈ best :: recents, timeOf value ≤ timeOf latest := by
  induction recents generalizing best with
  | nil => exact ⟨best, rfl, List.mem_cons_self, by simp⟩
  | cons value recents ih =>
      rw [List.foldl_cons]
      dsimp only
      by_cases hle : numberOf best "lastConnectionTimeMs" ≤ numberOf value "lastConnectionTimeMs"
      · rw [if_pos hle]
        obtain ⟨latest, hlatest, hmem, hall⟩ := ih value
        refine ⟨latest, hlatest, List.mem_cons_of_mem _ hmem, ?_⟩
        exact List.forall_mem_cons.mpr
          ⟨UInt64.le_trans hle (hall value List.mem_cons_self), hall⟩
      · rw [if_neg hle]
        obtain ⟨latest, hlatest, hmem, hall⟩ := ih best
        have hvalue : timeOf value ≤ timeOf latest :=
          UInt64.le_trans ((UInt64.le_total _ _).resolve_left hle) (hall best List.mem_cons_self)
        refine ⟨latest, hlatest, ?_, ?_⟩
        · rcases List.mem_cons.mp hmem with rfl | hmem
          · exact List.mem_cons_self
          · exact List.mem_cons_of_mem _ (List.mem_cons_of_mem _ hmem)
        · intro other hother
          rcases List.mem_cons.mp hother with rfl | hother
          · exact hall other List.mem_cons_self
          · rcases List.mem_cons.mp hother with rfl | hother
            · exact hvalue
            · exact hall other (List.mem_cons_of_mem _ hother)

/-- The entry that is later than all others is the most recent one. -/
theorem mostRecentConnection_eq {recents : List Value} {recent : Value} (hmem : recent ∈ recents)
    (hlatest : ∀ other ∈ recents, other ≠ recent → timeOf other < timeOf recent) :
    mostRecentConnection recents = some recent := by
  rcases recents with _ | ⟨first, rest⟩
  · cases hmem
  · obtain ⟨latest, hfold, hlisted, hall⟩ := foldl_mostRecent_spec rest first
    have hresult : mostRecentConnection (first :: rest) = some latest := hfold
    rw [hresult]
    by_contra hne
    have hlt := hlatest latest hlisted fun heq => hne (by rw [heq])
    have hle := hall recent hmem
    rw [UInt64.lt_iff_toNat_lt] at hlt
    rw [UInt64.le_iff_toNat_le] at hle
    omega

/-! ## Lists in order -/

/-- Entries that have different ids, targets and times. -/
structure Distinct (recents : List Value) : Prop where
  objects : ∀ recent ∈ recents, ∃ fields id, recent = .object fields ∧ idOf recent = some id
  ids : (recents.map idOf).Nodup
  keys : (recents.map keyOf).Nodup
  times : (recents.map timeOf).Nodup

/-- Pinned entries come first, in the order of pinning; at most six others follow, the latest
first. -/
structure Ordered (recents : List Value) : Prop extends Distinct recents where
  pinnedFirst : recents = recents.filter isPinned ++ unpinned recents
  pinnedOrder : (recents.filter isPinned).Pairwise PinnedBefore
  length_le : (unpinned recents).length ≤ MAX_UNPINNED_RECENTS
  latest : (unpinned recents).Pairwise fun a b => timeOf b < timeOf a

theorem Distinct.subperm {recents recents' : List Value} (h : Distinct recents)
    (hsub : recents'.Subperm recents) : Distinct recents' := by
  obtain ⟨middle, hperm, hsublist⟩ := hsub
  have hnodup : ∀ {β : Type} (f : Value → β), (recents.map f).Nodup → (recents'.map f).Nodup :=
    fun f hf => (hperm.map f).nodup_iff.mp (hf.sublist (hsublist.map f))
  refine ⟨?_, hnodup _ h.ids, hnodup _ h.keys, hnodup _ h.times⟩
  exact fun recent hrecent => h.objects recent (hsublist.subset (hperm.mem_iff.mpr hrecent))

theorem Distinct.of_map {recents recents' : List Value} (h : Distinct recents)
    (hobjects : ∀ recent ∈ recents', ∃ fields id, recent = .object fields ∧ idOf recent = some id)
    (hids : recents'.map idOf = recents.map idOf) (hkeys : recents'.map keyOf = recents.map keyOf)
    (htimes : recents'.map timeOf = recents.map timeOf) : Distinct recents' := by
  refine ⟨hobjects, ?_, ?_, ?_⟩
  · rw [hids]
    exact h.ids
  · rw [hkeys]
    exact h.keys
  · rw [htimes]
    exact h.times

/-- The two parts of a trimmed list. -/
theorem trimRecents_parts (recents : List Value) :
    (trimRecents recents).filter isPinned =
        (recents.filter isPinned).insertionSort PinnedBefore ∧
      unpinned (trimRecents recents) =
        ((unpinned recents).insertionSort ConnectedAfter).take MAX_UNPINNED_RECENTS := by
  have hpinned : ∀ value ∈ (recents.filter isPinned).insertionSort PinnedBefore,
      isPinned value = true := fun value hvalue =>
    (List.mem_filter.mp ((List.mem_insertionSort _).mp hvalue)).2
  have hother : ∀ value ∈
      ((unpinned recents).insertionSort ConnectedAfter).take MAX_UNPINNED_RECENTS,
        isPinned value = false := by
    intro value hvalue
    have hmem := (List.mem_insertionSort _).mp (List.mem_of_mem_take hvalue)
    simpa using (List.mem_filter.mp hmem).2
  have hnone : (((unpinned recents).insertionSort ConnectedAfter).take
      MAX_UNPINNED_RECENTS).filter isPinned = [] :=
    List.filter_eq_nil_iff.mpr fun value hvalue => by simp [hother value hvalue]
  have hnone' : unpinned ((recents.filter isPinned).insertionSort PinnedBefore) = [] :=
    List.filter_eq_nil_iff.mpr fun value hvalue => by simp [hpinned value hvalue]
  have hall : unpinned (((unpinned recents).insertionSort ConnectedAfter).take
      MAX_UNPINNED_RECENTS) =
        ((unpinned recents).insertionSort ConnectedAfter).take MAX_UNPINNED_RECENTS :=
    List.filter_eq_self.mpr fun value hvalue => by simp [hother value hvalue]
  have happend : ∀ l₁ l₂, unpinned (l₁ ++ l₂) = unpinned l₁ ++ unpinned l₂ := fun l₁ l₂ =>
    List.filter_append l₁ l₂
  constructor
  · rw [trimRecents, List.filter_append, List.filter_eq_self.mpr hpinned, hnone, List.append_nil]
  · rw [trimRecents, happend, hnone', hall, List.nil_append]

theorem trimRecents_subperm (recents : List Value) : (trimRecents recents).Subperm recents := by
  have hpinned := List.perm_insertionSort PinnedBefore (recents.filter isPinned)
  have hother := List.perm_insertionSort ConnectedAfter (unpinned recents)
  have htake : (((unpinned recents).insertionSort ConnectedAfter).take
      MAX_UNPINNED_RECENTS).Subperm (unpinned recents) :=
    ((List.take_sublist _ _).subperm).trans hother.subperm
  refine (hpinned.subperm.append htake).trans (List.Perm.subperm ?_)
  simpa [unpinned] using List.filter_append_perm isPinned recents

theorem pairwise_latest {recents : List Value} (hsorted : recents.Pairwise ConnectedAfter)
    (htimes : (recents.map timeOf).Nodup) :
    recents.Pairwise fun a b => timeOf b < timeOf a := by
  have hne : recents.Pairwise fun a b => timeOf a ≠ timeOf b := List.pairwise_map.mp htimes
  refine (hsorted.and hne).imp ?_
  rintro a b ⟨hle, hne⟩
  have hle : timeOf b ≤ timeOf a := hle
  rw [UInt64.le_iff_toNat_le] at hle
  rw [UInt64.lt_iff_toNat_lt]
  have hne' : (timeOf a).toNat ≠ (timeOf b).toNat := fun heq => hne (UInt64.toNat_inj.mp heq)
  omega

/-- Trimming puts different entries in order. -/
theorem Distinct.trimRecents {recents : List Value} (h : Distinct recents) :
    Ordered (trimRecents recents) := by
  obtain ⟨hpinned, hother⟩ := trimRecents_parts recents
  have hdistinct := h.subperm (trimRecents_subperm recents)
  have hsublist : (unpinned (Store.trimRecents recents)).Sublist (Store.trimRecents recents) :=
    List.filter_sublist
  refine ⟨hdistinct, ?_, ?_, ?_, ?_⟩
  · rw [hpinned, hother]
    rfl
  · rw [hpinned]
    exact List.pairwise_insertionSort _ _
  · rw [hother]
    exact List.length_take_le _ _
  · refine pairwise_latest ?_ (hdistinct.times.sublist (hsublist.map _))
    rw [hother]
    exact (List.pairwise_insertionSort _ _).sublist (List.take_sublist _ _)

/-- Dropping entries keeps the order. -/
theorem Ordered.filter {recents : List Value} (h : Ordered recents) (kept : Value → Bool) :
    Ordered (recents.filter kept) := by
  have hpinned : (recents.filter kept).filter isPinned = (recents.filter isPinned).filter kept := by
    rw [List.filter_filter, List.filter_filter]
    exact List.filter_congr fun _ _ => Bool.and_comm _ _
  have hother : unpinned (recents.filter kept) = (unpinned recents).filter kept := by
    unfold unpinned
    rw [List.filter_filter, List.filter_filter]
    exact List.filter_congr fun _ _ => Bool.and_comm _ _
  refine ⟨h.toDistinct.subperm List.filter_sublist.subperm, ?_, ?_, ?_, ?_⟩
  · rw [hpinned, hother, ← List.filter_append, ← h.pinnedFirst]
  · rw [hpinned]
    exact h.pinnedOrder.sublist List.filter_sublist
  · rw [hother]
    exact (List.length_filter_le _ _).trans h.length_le
  · rw [hother]
    exact h.latest.sublist List.filter_sublist

/-! ## Recording -/

/-- The fields that the key is made of. -/
def keyFields : List String :=
  ["kind", "profileId", "gatewayName", "serverName", "feature", "entryCountryCode", "countryCode",
    "state", "city"]

theorem recentKey_congr {recent recent' : Map}
    (h : ∀ key ∈ keyFields, recent'.get key = recent.get key) :
    recentKey recent' = recentKey recent := by
  have htext : ∀ key ∈ keyFields, ∀ fallback, textOr recent' key fallback =
      textOr recent key fallback := by
    intro key hkey fallback
    unfold textOr
    rw [h key hkey]
  unfold recentKey
  simp only [htext "kind" (by decide), htext "profileId" (by decide),
    htext "gatewayName" (by decide), htext "serverName" (by decide), htext "feature" (by decide),
    htext "entryCountryCode" (by decide), htext "countryCode" (by decide),
    htext "state" (by decide), htext "city" (by decide)]

section record

variable {clock : ℕ → UInt64} {recents : List Value} {recent : Map}

/-- The entries with other targets. -/
def otherRecents (recents : List Value) (recent : Map) : List Value :=
  recents.filter fun other => keyOf other ≠ some (recentKey recent)

/-- The entry with this target. -/
def reusedRecent (recents : List Value) (recent : Map) : Option Value :=
  recents.find? fun other => keyOf other = some (recentKey recent)

/-- The entry that is recorded. -/
def recordedEntry (clock : ℕ → UInt64) (recents : List Value) (recent : Map) : Value :=
  .object (recent.insertAll
    (recordFields clock (otherRecents recents recent) (reusedRecent recents recent)))

theorem keyOf_recordedEntry : keyOf (recordedEntry clock recents recent) =
    some (recentKey recent) := by
  show some (recentKey _) = some (recentKey recent)
  rw [recentKey_congr fun key hkey => get_recordFields _ _ _ _ ?_]
  revert key
  decide

theorem idOf_recordedEntry : idOf (recordedEntry clock recents recent) =
    some (((reusedRecent recents recent).bind idOf).getD
      (uniqueId "recent" (clock 0) (otherRecents recents recent))) := by
  simp [idOf, recordedEntry, recordFields, Map.insertAll, Map.get_insert]

theorem timeOf_recordedEntry : timeOf (recordedEntry clock recents recent) =
    max (clock 1) (newestTime (otherRecents recents recent) + 1) := by
  simp [timeOf, numberOf, recordedEntry, recordFields, Map.insertAll, newestTime, Value.u64,
    Value.asU64]
  rfl

theorem isPinned_recordedEntry : isPinned (recordedEntry clock recents recent) =
    ((reusedRecent recents recent).map isPinned).getD false := by
  simp [isPinned, recordedEntry, recordFields, Map.insertAll, Map.get_insert, Value.asBool]

/-- No entry with another target has the last time there is. -/
def InTime (recents : List Value) (recent : Map) : Prop :=
  ∀ other ∈ recents, keyOf other ≠ some (recentKey recent) → timeOf other ≠ LAST_TIME

theorem inTime_iff : InTime recents recent ↔
    newestTime (otherRecents recents recent) ≠ LAST_TIME := by
  rw [newestTime_ne_iff]
  constructor
  · intro h other hother
    obtain ⟨hmem, hkey⟩ := List.mem_filter.mp hother
    exact h other hmem (of_decide_eq_true hkey)
  · intro h other hmem hkey
    exact h other (List.mem_filter.mpr ⟨hmem, decide_eq_true hkey⟩)

/-- The time of a recorded entry is later than those of the others. -/
theorem InTime.timeOf_lt (h : InTime recents recent) (clock : ℕ → UInt64) {other : Value}
    (hother : other ∈ otherRecents recents recent) :
    timeOf other < timeOf (recordedEntry clock recents recent) := by
  rw [timeOf_recordedEntry]
  exact timeOf_lt_of_ne (clock 1) (inTime_iff.mp h) hother

theorem Distinct.otherRecents (h : Distinct recents) (recent : Map) :
    Distinct (otherRecents recents recent) :=
  h.subperm List.filter_sublist.subperm

/-- The id of a recorded entry is that of none of the others. -/
theorem Distinct.idOf_ne (h : Distinct recents) {other : Value}
    (hother : other ∈ Store.otherRecents recents recent) :
    idOf other ≠ idOf (recordedEntry clock recents recent) := by
  rw [idOf_recordedEntry]
  obtain ⟨hmem, hkey⟩ := List.mem_filter.mp hother
  rcases hreused : reusedRecent recents recent with _ | reused
  · exact (uniqueId_spec "recent" (clock 0) (Store.otherRecents recents recent)).2 other hother
  · have hlisted : reused ∈ recents := List.mem_of_find?_eq_some hreused
    have hreusedKey : keyOf reused = some (recentKey recent) := by
      simpa using List.find?_some hreused
    obtain ⟨-, id, -, hid⟩ := h.objects reused hlisted
    intro hsame
    rw [Option.bind_some, hid, Option.getD_some, ← hid] at hsame
    rw [List.inj_on_of_nodup_map h.ids hmem hlisted hsame, hreusedKey] at hkey
    simp at hkey

/-- The recorded entry and the others are different. -/
theorem Distinct.record (h : Distinct recents) (htime : InTime recents recent) :
    Distinct (recordedEntry clock recents recent :: Store.otherRecents recents recent) := by
  have hothers := h.otherRecents recent
  refine ⟨?_, ?_, ?_, ?_⟩
  · intro other hother
    rcases List.mem_cons.mp hother with rfl | hother
    · exact ⟨_, _, rfl, idOf_recordedEntry⟩
    · exact hothers.objects other hother
  · refine List.nodup_cons.mpr ⟨?_, hothers.ids⟩
    intro hmem
    obtain ⟨other, hother, hid⟩ := List.mem_map.mp hmem
    exact h.idOf_ne hother hid
  · refine List.nodup_cons.mpr ⟨?_, hothers.keys⟩
    intro hmem
    obtain ⟨other, hother, hkey⟩ := List.mem_map.mp hmem
    rw [keyOf_recordedEntry] at hkey
    exact of_decide_eq_true (List.mem_filter.mp hother).2 hkey
  · refine List.nodup_cons.mpr ⟨?_, hothers.times⟩
    intro hmem
    obtain ⟨other, hother, hsame⟩ := List.mem_map.mp hmem
    have hlt := htime.timeOf_lt clock hother
    rw [hsame] at hlt
    exact UInt64.lt_irrefl _ hlt

/-- The recorded entry is not trimmed. -/
theorem InTime.recordedEntry_mem (htime : InTime recents recent) :
    recordedEntry clock recents recent ∈
      trimRecents (recordedEntry clock recents recent :: otherRecents recents recent) := by
  by_cases hpinned : isPinned (recordedEntry clock recents recent) = true
  · exact mem_trimRecents_of_pinned List.mem_cons_self hpinned
  · have hsplit : unpinned (recordedEntry clock recents recent :: otherRecents recents recent) =
        [] ++ recordedEntry clock recents recent :: unpinned (otherRecents recents recent) :=
      List.filter_cons_of_pos (by simpa using hpinned)
    refine mem_trimRecents_of_latest hsplit ?_
    have hnone : (unpinned (otherRecents recents recent)).filter (fun other =>
        ¬ ConnectedAfter (recordedEntry clock recents recent) other) = [] := by
      rw [List.filter_eq_nil_iff]
      intro other hother
      have hlt := htime.timeOf_lt clock (List.mem_filter.mp hother).1
      have hafter : ConnectedAfter (recordedEntry clock recents recent) other :=
        UInt64.le_of_lt hlt
      simpa using hafter
    rw [goBefore, hnone]
    exact Nat.zero_lt_succ 5

/-- The recorded entry is the most recent one. -/
theorem InTime.mostRecentConnection (htime : InTime recents recent) :
    Store.mostRecentConnection
        (trimRecents (recordedEntry clock recents recent :: otherRecents recents recent)) =
      some (recordedEntry clock recents recent) := by
  refine mostRecentConnection_eq htime.recordedEntry_mem ?_
  intro other hother hne
  rcases List.mem_cons.mp (mem_of_mem_trimRecents hother) with heq | hother
  · exact absurd heq hne
  · exact htime.timeOf_lt clock hother

end record

/-! ## Runs -/

/-- Nothing is imported, and a connection is recorded only while no entry with another target has
the last time there is. -/
def RecordsInTime (world : World) : Event → Prop
  | .request _ _ method params =>
    ∀ data object raw recent, world.memory = some data → method = "recents.record" →
      params.asObject = some object → (object.get "recent").bind Value.asObject = some raw →
      normalizeRecent raw = .ok recent → InTime (entry data (accountKey data)).recents recent
  | .activate _ _ _ _ => True
  | .restart _ _ legacy => world.files.store = none → legacy.bind Value.asObject = none

/-- A changed mark leaves what tells entries apart. -/
theorem withPin_reads (clock : ℕ → UInt64) (pinned : Bool) (recent : Map) :
    idOf (withPin clock pinned recent) = idOf (.object recent) ∧
      keyOf (withPin clock pinned recent) = keyOf (.object recent) ∧
      timeOf (withPin clock pinned recent) = timeOf (.object recent) := by
  have hget : ∀ key, key ≠ "pinned" → key ≠ "pinTimeMs" →
      (withPin clock pinned recent).get key = (Value.object recent).get key := fun key =>
    get_withPin clock pinned recent
  refine ⟨?_, ?_, ?_⟩
  · unfold idOf
    rw [hget "id" (by decide) (by decide)]
  · show some (recentKey _) = some (recentKey recent)
    rw [recentKey_congr fun key hkey => ?_]
    exact hget key (by revert key; decide) (by revert key; decide)
  · unfold timeOf numberOf
    rw [hget "lastConnectionTimeMs" (by decide) (by decide)]

theorem Distinct.putById {recents : List Value} (h : Distinct recents) {clock : ℕ → UInt64}
    {id : String} {recent : Map} (pinned : Bool)
    (hfound : findById recents id = some (.object recent)) :
    Distinct (putById recents id (withPin clock pinned recent)) := by
  obtain ⟨hid, hkey, htime⟩ := withPin_reads clock pinned recent
  refine h.of_map ?_ (map_putById idOf hfound hid) (map_putById keyOf hfound hkey)
    (map_putById timeOf hfound htime)
  intro other hother
  rcases mem_putById hother with hother | rfl
  · exact h.objects other hother
  · exact ⟨_, _, rfl, hid.trans (findById_eq_some hfound).2⟩

/-- If the request takes the mark off the entry with the id, trimming keeps the entry. -/
def UnpinKeeps (clock : ℕ → UInt64) (method : String) (params : Value) (recents : List Value)
    (id : String) : Prop :=
  ∀ object recent, method = "recents.pin" → params.asObject = some object →
    requiredString object "id" 128 = .ok id → requiredBool object "pinned" = .ok false →
    findById recents id = some (.object recent) →
    KeepsRecent (putById recents id (withPin clock false recent)) id

/-- The entry is listed, perhaps with another mark or time. -/
def Lists (recents : List Value) (recent : Value) : Prop :=
  ∃ recent' ∈ recents, idOf recent' = idOf recent ∧ keyOf recent' = keyOf recent

theorem Lists.of_mem {recents : List Value} {recent : Value} (h : recent ∈ recents) :
    Lists recents recent := ⟨recent, h, rfl, rfl⟩

section pinned

variable {clock : ℕ → UInt64} {recents : List Value} {recent : Value}

/-- Recording keeps pinned entries. -/
theorem Distinct.record_keeps (h : Distinct recents) (recorded : Map) (hmem : recent ∈ recents)
    (hpinned : isPinned recent = true) :
    Lists (Store.trimRecents
      (recordedEntry clock recents recorded :: Store.otherRecents recents recorded)) recent := by
  by_cases hkey : keyOf recent = some (recentKey recorded)
  · have hreused : reusedRecent recents recorded = some recent := by
      rcases hfind : reusedRecent recents recorded with _ | reused
      · have hnone := List.find?_eq_none.mp hfind recent hmem
        simp [hkey] at hnone
      · have hsame : keyOf reused = keyOf recent := by
          rw [hkey]
          simpa using List.find?_some hfind
        rw [List.inj_on_of_nodup_map h.keys (List.mem_of_find?_eq_some hfind) hmem hsame]
    obtain ⟨-, id, -, hid⟩ := h.objects recent hmem
    refine ⟨_, mem_trimRecents_of_pinned List.mem_cons_self ?_, ?_, ?_⟩
    · rw [isPinned_recordedEntry, hreused]
      exact hpinned
    · rw [idOf_recordedEntry, hreused, Option.bind_some, hid]
      rfl
    · rw [keyOf_recordedEntry, hkey]
  · refine .of_mem (mem_trimRecents_of_pinned (List.mem_cons_of_mem _ ?_) hpinned)
    exact List.mem_filter.mpr ⟨hmem, decide_eq_true hkey⟩

/-- Marks keep pinned entries, if trimming keeps one whose mark is taken off. -/
theorem Distinct.putById_keeps (h : Distinct recents) {id : String} {marked : Map} {pinned : Bool}
    (hfound : findById recents id = some (.object marked)) (hmem : recent ∈ recents)
    (hpinned : isPinned recent = true)
    (hunpin : idOf recent = some id → pinned = false →
      KeepsRecent (Store.putById recents id (withPin clock pinned marked)) id) :
    Lists (Store.trimRecents (Store.putById recents id (withPin clock pinned marked))) recent := by
  by_cases hid : idOf recent = some id
  · obtain ⟨hlisted, hmarked⟩ := findById_eq_some hfound
    have hsame : recent = .object marked :=
      List.inj_on_of_nodup_map h.ids hmem hlisted (hid.trans hmarked.symm)
    obtain ⟨hidPin, hkeyPin, -⟩ := withPin_reads clock pinned marked
    have hkeeps : id ∈ (Store.trimRecents (Store.putById recents id
        (withPin clock pinned marked))).filterMap idOf := by
      rcases pinned with _ | _
      · exact (hunpin hid rfl).mem
      · refine List.mem_filterMap.mpr ⟨withPin clock true marked,
          mem_trimRecents_of_pinned (mem_putById_self _ _ _) ?_, hidPin.trans hmarked⟩
        simp [isPinned, withPin, Map.get_insert, Value.asBool]
    obtain ⟨kept, hkept, hkeptId⟩ := List.mem_filterMap.mp hkeeps
    refine ⟨kept, hkept, hkeptId.trans hid.symm, ?_⟩
    rcases mem_putById (mem_of_mem_trimRecents hkept) with hkept | rfl
    · rw [List.inj_on_of_nodup_map h.ids hkept hmem (hkeptId.trans hid.symm)]
    · rw [hkeyPin, hsame]
  · exact .of_mem (mem_trimRecents_of_pinned (mem_putById_of_ne hmem hid) hpinned)

/-- A request other than a deletion keeps pinned entries, if trimming keeps one whose mark it takes
off. -/
theorem Effect.lists_pinned {method : String} {params : Value} {account account' : AccountStore}
    (heffect : Effect clock method params account account') (h : Distinct account.recents)
    (hdelete : method ≠ "recents.delete") (hdelete' : method ≠ "profiles.delete")
    (hmem : recent ∈ account.recents) (hpinned : isPinned recent = true)
    (hunpin : ∀ id, idOf recent = some id → UnpinKeeps clock method params account.recents id) :
    Lists account'.recents recent := by
  cases heffect with
  | saveProfile _ _ hsave =>
      obtain ⟨profile, id, -, rfl⟩ := saveProfileIn_spec hsave
      exact .of_mem hmem
  | duplicateProfile _ _ hsave =>
      obtain ⟨profile, id, -, rfl⟩ := duplicateProfileIn_spec hsave
      exact .of_mem hmem
  | deleteProfile id => exact absurd rfl hdelete'
  | setExcludedLocations _ => exact .of_mem hmem
  | recordRecent hobject hraw hrecent hkind hrecorded =>
      obtain ⟨-, -, rfl⟩ := recordRecentIn_spec hrecorded
      exact h.record_keeps _ hmem hpinned
  | pinRecent hobject hid hmark hmarked =>
      obtain ⟨marked, hfound, rfl⟩ := pinRecentIn_spec hmarked
      refine h.putById_keeps hfound hmem hpinned fun hidOf hfalse => ?_
      subst hfalse
      exact hunpin _ hidOf _ marked rfl hobject hid hmark hfound
  | deleteRecent id => exact absurd rfl hdelete
  | setDefaultConnection hselected => exact .of_mem hmem

end pinned

theorem ordered_invariant :
    AccountInvariant RecordsInTime fun account => Ordered account.recents where
  empty := by
    have hempty : Distinct [] := ⟨nofun, .nil, .nil, .nil⟩
    exact hempty.trimRecents
  effect := by
    intro disk clock method params data files account hallowed h heffect
    cases heffect with
    | saveProfile _ _ hsave =>
        obtain ⟨profile, id, -, rfl⟩ := saveProfileIn_spec hsave
        exact h
    | duplicateProfile _ _ hsave =>
        obtain ⟨profile, id, -, rfl⟩ := duplicateProfileIn_spec hsave
        exact h
    | deleteProfile id => exact h.filter _
    | setExcludedLocations _ => exact h
    | recordRecent hobject hraw hrecent hkind hrecorded =>
        obtain ⟨-, -, rfl⟩ := recordRecentIn_spec hrecorded
        exact (h.toDistinct.record (hallowed data _ _ _ rfl rfl hobject hraw hrecent)).trimRecents
    | pinRecent hobject hid hpinned hmarked =>
        obtain ⟨recent, hfound, rfl⟩ := pinRecentIn_spec hmarked
        exact (h.toDistinct.putById _ hfound).trimRecents
    | deleteRecent id => exact h.filter _
    | setDefaultConnection hselected => exact h
  official := by
    intro clock locale profiles account hprofiles h
    clear hprofiles
    induction profiles generalizing account with
    | nil => exact h
    | cons profile profiles ih =>
        refine ih ?_
        unfold addOfficial
        split_ifs
        · exact h
        · exact h
  fastest := by
    intro clock locale profile account _ h
    obtain ⟨-, hrecents, -⟩ := addFastest_cases account profile
    rw [hrecents]
    exact h
  repair := fun h => h
  legacy := by
    intro world disk clock legacy object hallowed hstore hobject
    have hnone := hallowed hstore
    rw [Option.bind_some, hobject] at hnone
    cases hnone

/-! ## The last connection -/

/-- What a recorded connection is made of. -/
theorem exec_recordRecent {clock : ℕ → UInt64} {params value : Value} {data data' : StoreFile}
    (h : (recordRecent clock params).exec data = (.ok value, data')) :
    ∃ object raw recent, params.asObject = some object ∧
      (object.get "recent").bind Value.asObject = some raw ∧ normalizeRecent raw = .ok recent ∧
      let recents := (entry data (accountKey data)).recents
      value = .obj [("recent", recordedEntry clock recents recent)] ∧
        data' = { data with
          accounts := data.accounts.insert (accountKey data)
            (validateDefault { entry data (accountKey data) with
              recents := trimRecents
                (recordedEntry clock recents recent :: otherRecents recents recent) }) } := by
  rcases exec_liftResult_bind h with ⟨_, -, herror, -⟩ | ⟨object, hobject, h⟩
  · cases herror
  rcases exec_liftResult_bind h with ⟨_, -, herror, -⟩ | ⟨raw, hraw, h⟩
  · cases herror
  rcases exec_liftResult_bind h with ⟨_, -, herror, -⟩ | ⟨recent, hrecent, h⟩
  · cases herror
  rcases exec_liftResult_bind h with ⟨_, -, herror, -⟩ | ⟨kind, -, h⟩
  · cases herror
  refine ⟨object, raw, recent, okOrElse_eq_ok hobject, okOrElse_eq_ok hraw, hrecent, ?_⟩
  rw [exec_onAccount] at h
  rcases hrecorded : recordRecentIn clock recent kind (entry data (accountKey data)) with
    error | ⟨value', account'⟩
  · rw [hrecorded] at h
    cases h
  · rw [hrecorded] at h
    obtain ⟨hvalue, hdata⟩ := Prod.mk.inj h
    obtain rfl := Except.ok.inj hvalue
    obtain ⟨-, hvalue', haccount⟩ := recordRecentIn_spec hrecorded
    refine ⟨hvalue', ?_⟩
    rw [← hdata, haccount]
    rfl

/-- A connection that is recorded in time is the most recent one. -/
theorem mostRecentConnection_recorded {clock : ℕ → UInt64} {params value : Value}
    {data data' : StoreFile} (h : (recordRecent clock params).exec data = (.ok value, data'))
    (htime : ∀ object raw recent, params.asObject = some object →
      (object.get "recent").bind Value.asObject = some raw → normalizeRecent raw = .ok recent →
      InTime (entry data (accountKey data)).recents recent) :
    ∃ recorded, value = .obj [("recent", recorded)] ∧
      mostRecentConnection (accountRef data').recents = some recorded := by
  obtain ⟨object, raw, recent, hobject, hraw, hrecent, rfl, rfl⟩ := exec_recordRecent h
  refine ⟨_, rfl, ?_⟩
  rw [accountRef_insert]
  exact (htime object raw recent hobject hraw hrecent).mostRecentConnection

/-- The request for the last connection. -/
def lastSelection : Value := .obj [("selection", .obj [("type", .string "last")])]

theorem query_lastSelection {data : StoreFile} {recent : Value}
    (h : mostRecentConnection (accountRef data).recents = some recent) :
    query "connection.resolve" lastSelection data =
      some (resolvedRecent (accountRef data).profiles recent "last") := by
  have hresolved : resolveConnection (accountRef data) lastSelection =
      resolvedRecent (accountRef data).profiles recent "last" := by
    unfold resolveConnection
    rw [h]
    rfl
  exact congrArg some hresolved

/-- The recent connections of an account are in order, and those to profiles name them. -/
structure RecentsInOrder (account : AccountStore) : Prop where
  ordered : Ordered account.recents
  profiles : ∀ recent ∈ account.recents, recent.get "kind" = some (.string "profile") →
    ∃ id, recent.get "profileId" = some (.string id) ∧
      ∃ profile ∈ account.profiles, idOf profile = some id

theorem completeLegacy_of_recordsInTime {world : World} {event : Event}
    (h : RecordsInTime world event) : CompleteLegacy world event := by
  cases event with
  | request disk clock method params => trivial
  | activate disk clock lowercase accountName => trivial
  | restart disk clock legacy =>
      intro value object hstore hlegacy hobject
      have hnone := h hstore
      rw [hlegacy, Option.bind_some, hobject] at hnone
      cases hnone

theorem Reachable.mono {allowed allowed' : World → Event → Prop} {start world : World}
    (himp : ∀ world event, allowed world event → allowed' world event)
    (h : Reachable allowed start world) : Reachable allowed' start world := by
  induction h with
  | start => exact .start
  | step event _ hallowed ih => exact .step event ih (himp _ _ hallowed)

/-- A restart imports nothing. -/
def ImportsNothing : Event → Prop
  | .restart _ _ legacy => legacy = none
  | _ => True

/-- A connection is recorded at the last time there is. -/
def recordAtLastTime : List Event := [firstOpen, recordCountry LAST_TIME "AA"]

/-- The next connection to another country. -/
def nextCountry : Value :=
  .object [("recent", .object [("countryCode", .string "BB"), ("kind", .string "country")])]

/-! ## Overflow -/

/-- A legacy file with an entry that has the last time there is. -/
def legacyAtLastTime : Value :=
  .object [("recents", .array [.object [("countryCode", .string "AA"), ("kind", .string "country"),
      ("lastConnectionTimeMs", .u64 LAST_TIME)]]), ("version", .u64 4)]

end ProtonVpnOmarchy.Agent.Store
