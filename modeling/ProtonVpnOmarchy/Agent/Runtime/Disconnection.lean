import ProtonVpnOmarchy.Agent.Runtime.Attempt
import ProtonVpnOmarchy.Agent.Runtime.Replay

/-!
# A disconnection beside an attempt

`connection_disconnect` while `connection_connect` is on its way. Both want `network_write`, and both may
take the tunnel down; the disconnection fails with `connection_not_owned` if nothing is recorded when it
is its turn.

* `meets_disconnection` — what the disconnection returns, by what was recorded when it took
  `network_write`.
* `meets_contender` — what an attempt leaves recorded, by what it returns.
* `disconnect_ok_iff` — when a disconnection beside an attempt succeeds.
-/

namespace ProtonVpnOmarchy.Agent.Runtime

open Lib

/-- The attempt, and the disconnection. -/
def contenders (i : Bool) : Task (NativeResult Unit) :=
  if i then connectionConnect else connectionDisconnect

/-! ## Steps of the two -/

/-- What the disconnection does in one step. -/
structure Disconnects (c c' : Core Bool) : Prop where
  number : c'.number true = c.number true
  removed : c'.removed true = c.removed true
  holder : c'.holder = some true ↔ c.holder = some true
  held : c.holder = some true → c'.owned = c.owned ∧ c'.found false = c.found false
  /-- Until it has `network_write`, it changes nothing that is recorded. -/
  before : c.found false = none →
    c'.owned = c.owned ∧ (c'.found false = none ∨ c'.found false = some c.owned)
  after : c.found false ≠ none →
    c'.found false = c.found false ∧ c'.number false = c.number false
  numbered : c.number false ≤ c.attempt → c'.number false ≤ c'.attempt

/-- What the attempt does in one step. -/
structure Attempts (c c' : Core Bool) : Prop where
  number : c'.number false = c.number false
  found : c'.found false = c.found false
  holder : c'.holder = some false ↔ c.holder = some false
  owned : c.holder = some false → c'.owned = c.owned

/-- The steps of the other one. -/
def Rivals (i : Bool) (s s' : Shared Bool) : Prop :=
  if i then Disconnects s.core s'.core else Attempts s.core s'.core

theorem disconnects_of_core_eq (s s' : Shared Bool) (h : s'.core = s.core) :
    Disconnects s.core s'.core := by
  rw [h]
  exact ⟨rfl, rfl, Iff.rfl, fun _ => ⟨rfl, rfl⟩, fun hnone => ⟨rfl, .inl hnone⟩,
    fun _ => ⟨rfl, rfl⟩, id⟩

theorem attempts_of_core_eq (s s' : Shared Bool) (h : s'.core = s.core) :
    Attempts s.core s'.core := by
  rw [h]
  exact ⟨rfl, rfl, Iff.rfl, fun _ => rfl⟩

/-! ## The disconnection -/

/-- The disconnection holds `network_write` and has found this recorded. -/
def Found (owned : Option String) (c : Core Bool) : Prop :=
  c.holder = some false ∧ c.found false = some owned

/-- What a disconnection returns says what was recorded when it took `network_write`. -/
def Answered (r : NativeResult Unit) (s : Shared Bool) : Prop :=
  ∃ owned, s.core.found false = some owned ∧ (r = .ok () ↔ owned ≠ none)

section disconnection

variable {fails : Query → Prop}

theorem stable_found (owned : Option String) :
    Stable (Rivals false) fun s => Found owned s.core := by
  rintro s s' ⟨hholder, hfound⟩ (hstep : Attempts s.core s'.core)
  exact ⟨hstep.holder.mpr hholder, hstep.found.trans hfound⟩

theorem stable_answered (r : NativeResult Unit) : Stable (Rivals false) (Answered r) := by
  rintro s s' ⟨owned, hfound, hr⟩ (hstep : Attempts s.core s'.core)
  exact ⟨owned, hstep.found.trans hfound, hr⟩

/-- A step of a disconnection that holds `network_write`. -/
theorem disconnects_of_found {owned : Option String} {c c' : Core Bool} {recorded : Option String}
    {tunnels : Finset String} {removed : Bool → Bool} (hc : Found owned c)
    (hc' : c' = { c with owned := recorded, tunnels := tunnels, removed := removed })
    (hremoved : removed true = c.removed true) : Disconnects c c' ∧ Found owned c' := by
  subst hc'
  refine ⟨⟨rfl, hremoved, Iff.rfl, fun htrue => ?_, fun hnone => ?_, fun _ => ⟨rfl, rfl⟩, id⟩, hc⟩
  · rw [hc.1] at htrue
    cases htrue
  · rw [hc.2] at hnone
    cases hnone

theorem meets_found_disconnectOwnedInner (hclean : CleanupSucceeds fails) (uuid : String) :
    Meets (act fails false) (Rivals false) (Rivals true)
      (fun s => Found (some uuid) s.core) (disconnectOwnedInner uuid)
      (Cleared fails (Found (some uuid))) := by
  have hstable := stable_found (some uuid)
  refine meets_disconnectOwnedInner hclean disconnects_of_core_eq hstable hstable hstable ?_ ?_
  · intro s s' hs hs'
    exact disconnects_of_found hs hs' rfl
  · intro s s' hs hs'
    exact disconnects_of_found hs hs' rfl

theorem disconnects_begin {c : Core Bool} (hc : c.found false = none) :
    Disconnects c (c.begin false) where
  number := rfl
  removed := rfl
  holder := Iff.rfl
  held _ := ⟨rfl, rfl⟩
  before hnone := ⟨rfl, .inl hnone⟩
  after hne := absurd hc hne
  numbered _ := (Function.update_self false _ c.number).le

theorem disconnects_take {s : Shared Bool} (hs : s.core.found false = none)
    (hfree : s.core.holder = none) : Disconnects s.core (s.take .network false).core := by
  have hfound : Function.update s.found false (some s.owned) false = some s.owned :=
    Function.update_self _ _ _
  rw [core_take_network]
  refine ⟨rfl, rfl, ?_, fun hheld => ?_, fun _ => ⟨rfl, .inr hfound⟩, fun hne => absurd hs hne, id⟩
  · rw [hfree]
    exact ⟨nofun, nofun⟩
  · rw [hfree] at hheld
    cases hheld

theorem disconnects_release {s : Shared Bool} {owned : Option String} (hs : Found owned s.core) :
    Disconnects s.core (s.release .network false).core := by
  rw [core_release_network]
  refine ⟨rfl, rfl, ?_, fun htrue => ?_, fun hnone => ?_, fun _ => ⟨rfl, rfl⟩, id⟩
  · rw [hs.1]
    exact ⟨nofun, nofun⟩
  · rw [hs.1] at htrue
    cases htrue
  · rw [hs.2] at hnone
    cases hnone

/-- The work of a disconnection that holds `network_write`. -/
theorem meets_found (hclean : CleanupSucceeds fails) (hobserve : ¬ fails (.observe .cleanup)) :
    Meets (act fails false) (Rivals false) (Rivals true) (fun s => Found s.core.owned s.core)
      (do
        match ← ask .ownedUuid with
        | none =>
          return .error (.new "connection_not_owned"
            "The active VPN connection belongs to another Proton client")
        | some uuid => disconnectOwnedInner uuid)
      fun r s => ∃ owned, Found owned s.core ∧ (r = .ok () ↔ owned ≠ none) := by
  refine meets_query (p := fun c => Found c.owned c) Found ?_ ?_ fun owned => ?_
  · rintro s s' hs (hstep : Attempts s.core s'.core)
    rw [hstep.owned hs.1]
    exact stable_found _ s s' hs hstep
  · rintro s owned s' hs ⟨rfl, rfl⟩
    exact ⟨disconnects_of_core_eq _ _ rfl, hs⟩
  · cases owned with
    | none =>
        refine meets_pure ?_ fun s hs => ⟨none, hs, nofun, fun h => absurd rfl h⟩
        rintro s s' ⟨owned, hs, hr⟩ hstep
        exact ⟨owned, stable_found owned s s' hs hstep, hr⟩
    | some uuid =>
        refine (meets_found_disconnectOwnedInner hclean uuid).consequence (fun _ hs => hs) ?_
        rintro r s ⟨hs, hr⟩
        exact ⟨some uuid, hs, fun _ => Option.some_ne_none uuid, fun _ => hr hobserve⟩

theorem meets_disconnection (hclean : CleanupSucceeds fails)
    (hobserve : ¬ fails (.observe .cleanup)) :
    Meets (act fails false) (Rivals false) (Rivals true)
      (fun s => s.core.found false = none) connectionDisconnect Answered := by
  have hunfound : Stable (Rivals false) fun s => s.core.found false = none := by
    intro s s' hs (hstep : Attempts s.core s'.core)
    exact hstep.found.trans hs
  refine meets_query (p := fun c => c.found false = none) (fun _ c => c.found false = none) hunfound
    ?_ fun _ => ?_
  · rintro s _ s' hs ⟨rfl, rfl⟩
    exact ⟨disconnects_begin hs, hs⟩
  refine meets_query (p := fun c => c.found false = none) (fun _ c => Found c.owned c) hunfound ?_
    fun _ => ?_
  · rintro s _ s' hs ⟨hfree, rfl⟩
    refine ⟨disconnects_take hs hfree, ?_⟩
    rw [core_take_network]
    refine ⟨rfl, ?_⟩
    dsimp only
    rw [Function.update_self]
    rfl
  refine meets_bind _ (meets_found hclean hobserve) fun r => ?_
  refine meets_query (p := fun c => ∃ owned, Found owned c ∧ (r = .ok () ↔ owned ≠ none))
    (fun _ c => ∃ owned, c.found false = some owned ∧ (r = .ok () ↔ owned ≠ none)) ?_ ?_
    fun _ => ?_
  · rintro s s' ⟨owned, hs, hr⟩ hstep
    exact ⟨owned, stable_found owned s s' hs hstep, hr⟩
  · rintro s _ s' ⟨owned, hs, hr⟩ rfl
    refine ⟨disconnects_release hs, owned, ?_, hr⟩
    rw [core_release_network]
    exact hs.2
  · exact meets_pure (stable_answered r) fun _ hs => hs

end disconnection

/-! ## The attempt -/

/-- The disconnection finds this recorded when it takes `network_write`, unless it was issued before the
attempt. -/
def Finds (owned : Option String) (c : Core Bool) : Prop :=
  c.found false = none ∧ c.owned = owned ∨ c.found false = some owned ∨
    c.found false ≠ none ∧ c.number false ≤ c.number true

/-- The disconnection has not taken `network_write`, unless it was issued before the attempt. -/
def Early (c : Core Bool) : Prop :=
  c.found false = none ∨ c.found false ≠ none ∧ c.number false ≤ c.number true

/-- What an attempt that started with `initial` recorded leaves recorded. -/
def Leaves (initial : Option String) (r : NativeResult Unit) (c : Core Bool) : Prop :=
  ∃ owned, Finds owned c ∧
    (r = .ok () ∧ owned ≠ none ∨
      (∃ error, r = .error error) ∧
        (c.removed true = false ∧ owned = initial ∨ c.removed true = true ∧ owned = none))

/-- The attempt has this number. -/
def Numbered (a : ℕ) (c : Core Bool) : Prop :=
  c.number true = a ∧ c.number false ≤ c.attempt

/-- The attempt holds `network_write` and was not cancelled. -/
def Uncancelled (a : ℕ) (q : Core Bool → Prop) (c : Core Bool) : Prop :=
  c.holder = some true ∧ Numbered a c ∧ Early c ∧ q c

/-- The attempt has left the record alone. -/
def Untouched (initial : Option String) (c : Core Bool) : Prop :=
  c.removed true = false ∧ Finds initial c

/-- The attempt has left the record alone, or cleared it. -/
def Replaced (initial : Option String) (c : Core Bool) : Prop :=
  Untouched initial c ∨ c.removed true = true ∧ c.owned = none

def contenderOutline (initial : Option String) : Outline Bool where
  begun a c := Numbered a c ∧ Untouched initial c
  entered a c := c.holder = some true ∧ Numbered a c ∧ Untouched initial c
  allowed a := Uncancelled a (Untouched initial)
  replacing a _ := Uncancelled a fun c => c.removed true = true
  free a := Uncancelled a (Replaced initial)
  named a _ := Uncancelled a (Replaced initial)
  activated a _ := Uncancelled a fun _ => True
  owning a uuid := Uncancelled a fun c => c.owned = some uuid
  down a _ := Uncancelled a fun c => c.removed true = true
  finished r c := c.holder = some true ∧ Leaves initial r c
  left := Leaves initial

section attempt

variable {fails : Query → Prop} {initial : Option String}

theorem finds_stable {owned : Option String} {c c' : Core Bool} (hc : Finds owned c)
    (hstep : Disconnects c c') : Finds owned c' := by
  rcases hc with ⟨hnone, howned⟩ | hsome | ⟨hne, hle⟩
  · obtain ⟨hsame, hfound | hfound⟩ := hstep.before hnone
    · exact .inl ⟨hfound, hsame.trans howned⟩
    · rw [howned] at hfound
      exact .inr (.inl hfound)
  · obtain ⟨hsame, -⟩ := hstep.after (by rw [hsome]; exact Option.some_ne_none _)
    exact .inr (.inl (hsame.trans hsome))
  · obtain ⟨hsame, hnumber⟩ := hstep.after hne
    refine .inr (.inr ⟨by rwa [hsame], ?_⟩)
    rw [hnumber, hstep.number]
    exact hle

theorem leaves_stable {r : NativeResult Unit} {c c' : Core Bool} (hc : Leaves initial r c)
    (hstep : Disconnects c c') : Leaves initial r c' := by
  obtain ⟨owned, hfinds, hr⟩ := hc
  refine ⟨owned, finds_stable hfinds hstep, ?_⟩
  rw [hstep.removed]
  exact hr

theorem numbered_stable {a : ℕ} {c c' : Core Bool} (hc : Numbered a c) (hstep : Disconnects c c') :
    Numbered a c' := ⟨hstep.number.trans hc.1, hstep.numbered hc.2⟩

theorem stable_uncancelled {a : ℕ} {q : Core Bool → Prop}
    (hq : ∀ c c', Disconnects c c' → c.holder = some true → q c → q c') :
    Stable (Rivals true) fun s => Uncancelled a q s.core := by
  rintro s s' ⟨hholder, hnumbered, hearly, hs⟩ (hstep : Disconnects s.core s'.core)
  refine ⟨hstep.holder.mpr hholder, numbered_stable hnumbered hstep, ?_, hq _ _ hstep hholder hs⟩
  obtain ⟨-, hfound⟩ := hstep.held hholder
  unfold Early
  rw [hfound]
  rcases hearly with hnone | ⟨hne, hle⟩
  · exact .inl hnone
  · refine .inr ⟨hne, ?_⟩
    rw [(hstep.after hne).2, hstep.number]
    exact hle

theorem untouched_stable {c c' : Core Bool} (hc : Untouched initial c)
    (hstep : Disconnects c c') : Untouched initial c' :=
  ⟨hstep.removed.trans hc.1, finds_stable hc.2 hstep⟩

theorem stable_untouched (a : ℕ) :
    Stable (Rivals true) fun s => Uncancelled a (Untouched initial) s.core :=
  stable_uncancelled fun _ _ hstep _ hq => untouched_stable hq hstep

theorem stable_replaced (a : ℕ) :
    Stable (Rivals true) fun s => Uncancelled a (Replaced initial) s.core := by
  refine stable_uncancelled fun c c' hstep hholder hc => ?_
  rcases hc with hc | ⟨hremoved, howned⟩
  · exact .inl (untouched_stable hc hstep)
  · exact .inr ⟨hstep.removed.trans hremoved, (hstep.held hholder).1.trans howned⟩

theorem stable_removed (a : ℕ) :
    Stable (Rivals true) fun s => Uncancelled a (fun c => c.removed true = true) s.core :=
  stable_uncancelled fun _ _ hstep _ hq => hstep.removed.trans hq

theorem finds_of_early {c : Core Bool} (hc : Early c) : Finds c.owned c := by
  rcases hc with hnone | hlate
  · exact .inl ⟨hnone, rfl⟩
  · exact .inr (.inr hlate)

theorem kept_contenderOutline : (contenderOutline initial).Kept (Rivals true) where
  begun a := by
    rintro s s' ⟨hnumbered, hs⟩ (hstep : Disconnects s.core s'.core)
    exact ⟨numbered_stable hnumbered hstep, untouched_stable hs hstep⟩
  entered a := by
    rintro s s' ⟨hholder, hnumbered, hs⟩ (hstep : Disconnects s.core s'.core)
    exact ⟨hstep.holder.mpr hholder, numbered_stable hnumbered hstep, untouched_stable hs hstep⟩
  allowed a := stable_untouched a
  looked a owned := by
    rintro s s' ⟨hs, howned⟩ (hstep : Disconnects s.core s'.core)
    exact ⟨stable_untouched a s s' hs hstep, (hstep.held hs.1).1.trans howned⟩
  replacing a uuid := stable_removed a
  free a := stable_replaced a
  named a uuid := stable_replaced a
  activated a uuid := stable_uncancelled fun _ _ _ _ _ => trivial
  owning a uuid := stable_uncancelled fun c c' hstep hholder hq =>
    (hstep.held hholder).1.trans hq
  down a uuid := stable_removed a
  finished r := by
    rintro s s' ⟨hholder, hs⟩ (hstep : Disconnects s.core s'.core)
    exact ⟨hstep.holder.mpr hholder, leaves_stable hs hstep⟩
  left r := fun s s' hs hstep => leaves_stable hs hstep

/-- A step of an attempt that holds `network_write`. -/
theorem attempts_of_holder {c c' : Core Bool} {owned : Option String} {tunnels : Finset String}
    {created : Bool → Finset String} {removed : Bool → Bool} (hc : c.holder = some true)
    (hc' : c' =
      { c with owned := owned, tunnels := tunnels, created := created, removed := removed }) :
    Attempts c c' := by
  subst hc'
  refine ⟨rfl, rfl, Iff.rfl, fun hfalse => ?_⟩
  rw [hc] at hfalse
  cases hfalse

theorem step_uncancelled {a : ℕ} {q q' : Core Bool → Prop} {s s' : Shared Bool}
    {owned : Option String} {tunnels : Finset String} {created : Bool → Finset String}
    {removed : Bool → Bool} (hs : Uncancelled a q s.core)
    (hs' : s'.core =
      { s.core with owned := owned, tunnels := tunnels, created := created, removed := removed })
    (hq : q' s'.core) : Rivals false s s' ∧ Uncancelled a q' s'.core := by
  obtain ⟨hholder, hnumbered, hearly, -⟩ := hs
  refine ⟨attempts_of_holder hholder hs', ?_⟩
  rw [hs'] at hq ⊢
  exact ⟨hholder, hnumbered, hearly, hq⟩

theorem leaves_of_replaced {a : ℕ} {error : NativeError} {c : Core Bool}
    (hc : Uncancelled a (Replaced initial) c) : Leaves initial (.error error) c := by
  obtain ⟨-, -, hearly, ⟨hremoved, hfinds⟩ | ⟨hremoved, howned⟩⟩ := hc
  · exact ⟨initial, hfinds, .inr ⟨⟨error, rfl⟩, .inl ⟨hremoved, rfl⟩⟩⟩
  · exact ⟨c.owned, finds_of_early hearly, .inr ⟨⟨error, rfl⟩, .inr ⟨hremoved, howned⟩⟩⟩

theorem attempts_take {s : Shared Bool} (hfree : s.core.holder = none) :
    Attempts s.core (s.take .network true).core := by
  rw [core_take_network]
  refine ⟨rfl, rfl, ?_, fun _ => rfl⟩
  rw [hfree]
  exact ⟨nofun, nofun⟩

theorem attempts_release {s : Shared Bool} (hholder : s.core.holder = some true) :
    Attempts s.core (s.release .network true).core := by
  rw [core_release_network]
  refine ⟨rfl, rfl, ?_, fun _ => rfl⟩
  rw [hholder]
  exact ⟨nofun, nofun⟩

theorem steps_contenderOutline (hobserve : ¬ fails (.observe .polling)) :
    (contenderOutline initial).Steps fails true (Rivals false) where
  same := attempts_of_core_eq
  enter a s hs hfree := by
    refine ⟨attempts_take hfree, ?_⟩
    rw [core_take_network]
    exact ⟨rfl, hs.1, hs.2⟩
  check a c hs hattempt := by
    obtain ⟨hholder, hnumbered, hc⟩ := hs
    refine ⟨hholder, hnumbered, ?_, hc⟩
    by_cases hfound : c.found false = none
    · exact .inl hfound
    · refine .inr ⟨hfound, ?_⟩
      rw [hnumbered.1, ← hattempt]
      exact hnumbered.2
  replace a uuid s s' hs hs' := by
    obtain ⟨hs, -⟩ := hs
    dsimp only [contenderOutline] at hs ⊢
    refine step_uncancelled hs hs' ?_
    rw [hs']
    rfl
  replaced a uuid s s' hs hs' := by
    dsimp only [contenderOutline] at hs ⊢
    refine step_uncancelled hs hs' ?_
    rw [hs']
    exact .inr ⟨hs.2.2.2, rfl⟩
  nothing a c hs := by
    obtain ⟨hholder, hnumbered, hearly, hc⟩ := hs
    exact ⟨hholder, hnumbered, hearly, .inl hc⟩
  name a uuid s s' hs _ _ hs' := by
    refine step_uncancelled hs hs' ?_
    rw [hs']
    exact hs.2.2.2
  activate a uuid s s' hs hs' := by
    dsimp only [contenderOutline] at hs ⊢
    exact step_uncancelled hs hs' trivial
  record a uuid s s' hs hs' := by
    dsimp only [contenderOutline] at hs ⊢
    refine step_uncancelled hs hs' ?_
    rw [hs']
  remove a uuid s s' hs hs' := by
    dsimp only [contenderOutline] at hs ⊢
    refine step_uncancelled hs hs' ?_
    rw [hs']
    rfl
  forget a uuid s s' error hs hs' := by
    dsimp only [contenderOutline] at hs ⊢
    have hstep : Rivals false s s' ∧ Uncancelled a (Replaced initial) s'.core := by
      refine step_uncancelled hs hs' ?_
      rw [hs']
      exact .inr ⟨hs.2.2.2, rfl⟩
    exact ⟨hstep.1, hstep.2.1, leaves_of_replaced hstep.2⟩
  entered_error a error c hs :=
    ⟨hs.1, initial, hs.2.2.2, .inr ⟨⟨error, rfl⟩, .inl ⟨hs.2.2.1, rfl⟩⟩⟩
  free_error a error c hs := ⟨hs.1, leaves_of_replaced hs⟩
  named_error a uuid error c hs := ⟨hs.1, leaves_of_replaced hs⟩
  owning_ok a uuid c hs := by
    obtain ⟨hholder, -, hearly, howned⟩ := hs
    refine ⟨hholder, c.owned, finds_of_early hearly, .inl ⟨rfl, ?_⟩⟩
    rw [howned]
    exact Option.some_ne_none uuid
  owning_error hfails := absurd hfails hobserve
  leave r s hs := by
    refine ⟨attempts_release hs.1, ?_⟩
    rw [core_release_network]
    exact hs.2
  begun_error a error c hs :=
    ⟨initial, hs.2.2, .inr ⟨⟨error, rfl⟩, .inl ⟨hs.2.1, rfl⟩⟩⟩

theorem attempts_begin (c : Core Bool) : Attempts c (c.begin true) :=
  ⟨rfl, rfl, Iff.rfl, fun _ => rfl⟩

theorem numbered_begin {c : Core Bool} (hc : c.number false ≤ c.attempt) :
    Numbered (c.attempt + 1) (c.begin true) :=
  ⟨rfl, Nat.le_succ_of_le hc⟩

theorem finds_begin {owned : Option String} {c : Core Bool} (hnumber : c.number false ≤ c.attempt)
    (hc : Finds owned c) : Finds owned (c.begin true) := by
  rcases hc with hc | hc | ⟨hne, -⟩
  · exact .inl hc
  · exact .inr (.inl hc)
  · exact .inr (.inr ⟨hne, Nat.le_succ_of_le hnumber⟩)

/-- An attempt that starts while the disconnection has not taken `network_write`. -/
theorem meets_contender (hclean : CleanupSucceeds fails)
    (hobserve : ¬ fails (.observe .polling)) :
    Meets (act fails true) (Rivals true) (Rivals false)
      (fun s => s.core.number false ≤ s.core.attempt ∧ Untouched initial s.core) connectionConnect
      fun r s => Leaves initial r s.core := by
  refine Outline.meets_connectionConnect (p := fun c => c.number false ≤ c.attempt ∧
    Untouched initial c) kept_contenderOutline (steps_contenderOutline hobserve) hclean ?_ ?_
  · rintro s s' ⟨hnumber, hs⟩ (hstep : Disconnects s.core s'.core)
    exact ⟨hstep.numbered hnumber, untouched_stable hs hstep⟩
  · rintro s s' ⟨hnumber, hs⟩ hs'
    unfold Rivals
    rw [hs']
    exact ⟨attempts_begin s.core, numbered_begin hnumber, hs.1, finds_begin hnumber hs.2⟩

end attempt

/-! ## Both together -/

section pool

variable {fails : Query → Prop} {losses : Prop} {shared : Shared Bool}
  {pool : Pool Bool Query Query.Answer (Shared Bool) (NativeResult Unit)}
  {r r' : NativeResult Unit}

theorem rivals_of_loss (i : Bool) (s s' : Shared Bool)
    (hloss : (machine fails losses).surroundings s s') : Rivals i s s' := by
  obtain ⟨-, uuid, rfl⟩ := hloss
  cases i with
  | true =>
      exact ⟨rfl, rfl, Iff.rfl, fun _ => ⟨rfl, rfl⟩, fun hnone => ⟨rfl, .inl hnone⟩,
        fun _ => ⟨rfl, rfl⟩, id⟩
  | false => exact ⟨rfl, rfl, Iff.rfl, fun _ => rfl⟩

/-- A disconnection that was issued after an attempt succeeds if and only if the attempt does, or
something was recorded before and the attempt has not taken it down. -/
theorem disconnect_ok_iff (hclean : CleanupSucceeds fails)
    (hobserve : ∀ site, ¬ fails (.observe site)) (hfresh : shared.Fresh)
    (hreach : Pool.Reach (machine fails losses) (.start contenders shared) pool)
    (hattempt : pool.tasks true = .pure r) (hdisconnect : pool.tasks false = .pure r')
    (hissued : pool.shared.number true < pool.shared.number false) :
    r' = .ok () ↔ r = .ok () ∨ shared.owned ≠ none ∧ pool.shared.removed true = false := by
  -- Each of the two by itself.
  have hmeets : ∀ i, Meets ((machine fails losses).act i) (Rivals i) (Rivals !i)
      (fun s => s.core.found false = none ∧ s.core.number false ≤ s.core.attempt ∧
        Untouched shared.owned s.core) (contenders i)
      fun r s => if i then Leaves shared.owned r s.core else Answered r s := by
    rintro (_ | _)
    · exact (meets_disconnection hclean (hobserve _)).consequence (fun _ hs => hs.1) fun _ _ hs => hs
    · exact (meets_contender hclean (hobserve _)).consequence (fun _ hs => hs.2) fun _ _ hs => hs
  have hstart : shared.core.found false = none ∧ shared.core.number false ≤ shared.core.attempt ∧
      Untouched shared.owned shared.core := by
    refine ⟨hfresh.found false, ?_, hfresh.removed true, .inl ⟨hfresh.found false, rfl⟩⟩
    rw [show shared.core.number false = 0 from hfresh.number false]
    exact Nat.zero_le _
  have hresults := reach_meets hmeets (fun _ => hstart) (by
    rintro (_ | _) (_ | _) hne s s' hstep
    · exact absurd rfl hne
    · exact hstep
    · exact hstep
    · exact absurd rfl hne) rivals_of_loss hreach
  obtain ⟨owned, hfinds, hr⟩ := (hresults true).2 r hattempt
  obtain ⟨found, hfound, hr'⟩ := (hresults false).2 r' hdisconnect
  -- What the disconnection found is what the attempt left.
  have hsame : found = owned := by
    rcases hfinds with ⟨hnone, -⟩ | hsome | ⟨-, hle⟩
    · rw [hfound] at hnone
      cases hnone
    · exact Option.some.inj (hfound.symm.trans hsome)
    · exact absurd hissued (Nat.not_lt.mpr hle)
  rw [hr', hsame]
  rcases hr with ⟨rfl, hne⟩ | ⟨⟨error, rfl⟩, ⟨hremoved, rfl⟩ | ⟨hremoved, rfl⟩⟩
  · exact ⟨fun _ => .inl rfl, fun _ => hne⟩
  · exact ⟨fun hne => .inr ⟨hne, hremoved⟩, fun h => h.elim nofun And.left⟩
  · refine ⟨fun hne => absurd rfl hne, fun h => ?_⟩
    rcases h with h | ⟨-, hkept⟩
    · cases h
    · exact absurd (hkept.symm.trans hremoved) nofun

end pool

def contendersSetup : Setup Bool := { uuid := fun _ => "u" }

/-- The attempt goes this far. -/
def underway (turns : ℕ) : Pool Bool Query Query.Answer (Shared Bool) (NativeResult Unit) :=
  Pool.play (reply contendersSetup) (List.replicate turns true) (.start contenders {})

/-- The disconnection is issued, the attempt goes on, and then the disconnection. -/
def contended (turns attempt disconnection : ℕ) :
    Pool Bool Query Query.Answer (Shared Bool) (NativeResult Unit) :=
  Pool.play (reply contendersSetup)
    (false :: List.replicate attempt true ++ List.replicate disconnection false) (underway turns)

theorem reach_underway (turns : ℕ) :
    Pool.Reach (machine (fun _ => False) False) (.start contenders {}) (underway turns) := by
  have hreach : Pool.Reach (machine (fun query => contendersSetup.failing query = true) False)
      (.start contenders {}) (underway turns) := Pool.reach_play act_of_reply _ _
  simpa [contendersSetup] using hreach

theorem reach_contended (turns attempt disconnection : ℕ) :
    Pool.Reach (machine (fun _ => False) False) (underway turns)
      (contended turns attempt disconnection) := by
  have hreach : Pool.Reach (machine (fun query => contendersSetup.failing query = true) False)
      (underway turns) (contended turns attempt disconnection) := Pool.reach_play act_of_reply _ _
  simpa [contendersSetup] using hreach

/-- The disconnection is issued when the attempt is about to return. -/
theorem disconnect_ok_iff_late : (contended 40 6 20).tasks false = .pure (.ok ()) := by
  obtain ⟨r, hr⟩ : ∃ r, ((contended 40 6 20).tasks false).result? = some r := ⟨_, rfl⟩
  have hattempt : ((contended 40 6 20).tasks true).result? = some (.ok ()) := rfl
  have hdisconnect := Dialogue.eq_pure_of_result? hr
  have hok := (disconnect_ok_iff ⟨fun _ => id, id, fun _ _ => id, fun _ => id, fun _ _ _ => id⟩
    (fun _ => id) ⟨fun _ => rfl, rfl, fun _ => rfl, fun _ => rfl, rfl, fun _ => rfl, fun _ => rfl,
      fun _ => rfl⟩ ((reach_underway 40).trans (reach_contended 40 6 20))
    (Dialogue.eq_pure_of_result? hattempt) hdisconnect (by decide)).mpr (.inl rfl)
  rw [hdisconnect, hok]

/-- Although every call succeeds, a disconnection that is issued while an attempt is on its way can
fail: it finds nothing recorded after the attempt has taken its tunnel down. -/
theorem not_disconnect_ok :
    ¬ ∀ (fails : Query → Prop)
      (underway pool : Pool Bool Query Query.Answer (Shared Bool) (NativeResult Unit))
      (r : NativeResult Unit), (∀ query, ¬ fails query) →
        Pool.Reach (machine fails False) (.start contenders {}) underway →
          underway.shared.number true ≠ 0 → (underway.tasks true).result? = none →
            underway.tasks false = connectionDisconnect →
              Pool.Reach (machine fails False) underway pool →
                (pool.tasks false).result? = some r → r = .ok () := by
  intro h
  have hok := h (fun _ => False) (underway 24) (contended 24 20 4) _ (fun _ => id)
    (reach_underway 24) (by decide) rfl rfl (reach_contended 24 20 4) rfl
  cases hok

end ProtonVpnOmarchy.Agent.Runtime
