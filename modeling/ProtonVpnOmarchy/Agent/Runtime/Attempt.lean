import ProtonVpnOmarchy.Agent.Runtime.Core

/-!
# An attempt, stage by stage

What is true of the tunnel at each stage of `connection_connect` is a parameter here: an `Outline` gives
one assertion for each stage, each kept by the other tasks, and says how the steps of the attempt lead
from one to the next. The calls that take a tunnel down do not fail.

* `Outline.meets_replaceTunnel`, `Outline.meets_pollTunnel`, `Outline.meets_establish` — the parts of an
  attempt that holds `network_write`.
* `Outline.meets_connectionConnect` — an attempt goes through the stages and ends in the last one.
-/

namespace ProtonVpnOmarchy.Agent.Runtime

open Lib

variable {ι : Type} [DecidableEq ι]

/-- The counter is moved by a task. -/
def Core.begin (c : Core ι) (i : ι) : Core ι :=
  { c with
    attempt := c.attempt + 1
    latest := some i
    number := Function.update c.number i (c.attempt + 1) }

/-- A task has a new profile. -/
def Core.name (c : Core ι) (i : ι) (uuid : String) : Core ι :=
  { c with created := Function.update c.created i (insert uuid (c.created i)) }

/-- What is true of the tunnel at the stages of the attempt with number `attempt`. -/
structure Outline (ι : Type) where
  /-- The attempt has its number, and does not hold `network_write` yet. -/
  begun : ℕ → Core ι → Prop
  /-- It holds `network_write`. -/
  entered : ℕ → Core ι → Prop
  /-- It was not cancelled when it looked at the recorded uuid. -/
  allowed : ℕ → Core ι → Prop
  /-- The tunnel it replaces is down. -/
  replacing : ℕ → String → Core ι → Prop
  /-- No tunnel is in its way. -/
  free : ℕ → Core ι → Prop
  /-- It has a profile. -/
  named : ℕ → String → Core ι → Prop
  /-- NetworkManager has activated the profile. -/
  activated : ℕ → String → Core ι → Prop
  /-- The uuid is recorded. -/
  owning : ℕ → String → Core ι → Prop
  /-- The tunnel is down again. -/
  down : ℕ → String → Core ι → Prop
  /-- It is about to give `network_write` back. -/
  finished : NativeResult Unit → Core ι → Prop
  left : NativeResult Unit → Core ι → Prop

/-- What is recorded is known. -/
def Outline.looked (o : Outline ι) (a : ℕ) (owned : Option String) (c : Core ι) : Prop :=
  o.allowed a c ∧ c.owned = owned

/-- The others keep the assertions of an outline. -/
structure Outline.Kept (o : Outline ι) (rely : Shared ι → Shared ι → Prop) : Prop where
  begun : ∀ a, Stable rely fun s => o.begun a s.core
  entered : ∀ a, Stable rely fun s => o.entered a s.core
  allowed : ∀ a, Stable rely fun s => o.allowed a s.core
  looked : ∀ a owned, Stable rely fun s => o.looked a owned s.core
  replacing : ∀ a uuid, Stable rely fun s => o.replacing a uuid s.core
  free : ∀ a, Stable rely fun s => o.free a s.core
  named : ∀ a uuid, Stable rely fun s => o.named a uuid s.core
  activated : ∀ a uuid, Stable rely fun s => o.activated a uuid s.core
  owning : ∀ a uuid, Stable rely fun s => o.owning a uuid s.core
  down : ∀ a uuid, Stable rely fun s => o.down a uuid s.core
  finished : ∀ r, Stable rely fun s => o.finished r s.core
  left : ∀ r, Stable rely fun s => o.left r s.core

/-- The steps of an attempt lead from one assertion to the next. -/
structure Outline.Steps (o : Outline ι) (fails : Query → Prop) (i : ι)
    (guar : Shared ι → Shared ι → Prop) : Prop where
  same : ∀ s s' : Shared ι, s'.core = s.core → guar s s'
  enter : ∀ a s, o.begun a s.core → s.core.holder = none →
    guar s (s.take .network i) ∧ o.entered a (s.take .network i).core
  check : ∀ a c, o.entered a c → c.attempt = a → o.allowed a c
  replace : ∀ a uuid s s', o.looked a (some uuid) s.core →
    s'.core = s.core.remove i uuid → guar s s' ∧ o.replacing a uuid s'.core
  replaced : ∀ a uuid s s', o.replacing a uuid s.core → s'.core = { s.core with owned := none } →
    guar s s' ∧ o.free a s'.core
  nothing : ∀ a c, o.allowed a c → o.free a c
  name : ∀ a uuid s s', o.free a s.core → uuid ∉ s.core.tunnels → (∀ j, uuid ∉ s.core.created j) →
    s'.core = s.core.name i uuid → guar s s' ∧ o.named a uuid s'.core
  activate : ∀ a uuid s s', o.named a uuid s.core →
    s'.core = { s.core with tunnels := insert uuid s.core.tunnels } →
      guar s s' ∧ o.activated a uuid s'.core
  record : ∀ a uuid s s', o.activated a uuid s.core → s'.core = { s.core with owned := some uuid } →
    guar s s' ∧ o.owning a uuid s'.core
  remove : ∀ a uuid s s', o.owning a uuid s.core → s'.core = s.core.remove i uuid →
    guar s s' ∧ o.down a uuid s'.core
  forget : ∀ a uuid s s' error, o.down a uuid s.core → s'.core = { s.core with owned := none } →
    guar s s' ∧ o.finished (.error error) s'.core
  entered_error : ∀ a error c, o.entered a c → o.finished (.error error) c
  free_error : ∀ a error c, o.free a c → o.finished (.error error) c
  named_error : ∀ a uuid error c, o.named a uuid c → o.finished (.error error) c
  owning_ok : ∀ a uuid c, o.owning a uuid c → o.finished (.ok ()) c
  owning_error : fails (.observe .polling) → ∀ a uuid error c, o.owning a uuid c →
    o.finished (.error error) c
  leave : ∀ r s, o.finished r s.core →
    guar s (s.release .network i) ∧ o.left r (s.release .network i).core
  begun_error : ∀ a error c, o.begun a c → o.left (.error error) c

/-- Only the recorded tunnel is replaced. -/
theorem owned_of_replacement {observation : TunnelObservation} {owned : Option String}
    {uuid : String} (h : replacementConnectionUuid observation owned = .ok (some uuid)) :
    owned = some uuid := by
  unfold replacementConnectionUuid at h
  split_ifs at h with hstate
  · cases h
  · split at h
    · split_ifs at h with hsame
      cases h
      rw [hsame]
    · cases h

namespace Outline

variable {o : Outline ι} {fails : Query → Prop} {i : ι} {rely guar : Shared ι → Shared ι → Prop}

/-- A part of an attempt goes on from an assertion, or the attempt is about to end. -/
def After {α : Type} (o : Outline ι) (p : Core ι → Prop) : NativeResult α → Core ι → Prop
  | .ok _, c => p c
  | .error error, c => o.finished (.error error) c

/-- What a round of the polling loop leads to. -/
def Polled (o : Outline ι) (a : ℕ) (uuid : String) : Unit ⊕ NativeResult Unit → Core ι → Prop
  | .inl _, c => o.owning a uuid c
  | .inr r, c => o.finished r c

section attempt

variable (hkept : o.Kept rely) (hsteps : o.Steps fails i guar)

include hkept hsteps

/-! ## Parts that can end an attempt -/

omit hsteps [DecidableEq ι] in
theorem stable_after {α : Type} {p : Core ι → Prop} (hp : Stable rely fun s => p s.core)
    (r : NativeResult α) : Stable rely fun s => o.After p r s.core := by
  cases r with
  | ok _ => exact hp
  | error error => exact hkept.finished _

omit hsteps in
theorem meets_orReturn {α β : Type} {pre : Shared ι → Prop} {p q : Core ι → Prop}
    {task : Task (NativeResult α)} {next : α → Task (NativeResult β)}
    (h : Meets (act fails i) rely guar pre task fun r s => o.After p r s.core)
    (hnext : ∀ value, Meets (act fails i) rely guar (fun s => p s.core) (next value)
      fun r s => o.After q r s.core) :
    Meets (act fails i) rely guar pre (orReturn task next) fun r s => o.After q r s.core := by
  refine meets_bind _ h fun r => ?_
  cases r with
  | error error => exact meets_pure (hkept.finished _) fun _ hs => hs
  | ok value => exact hnext value

omit hsteps in
/-- A part that leaves the tunnel alone. -/
theorem meets_quiet {α β : Type} {p q : Core ι → Prop} {result : NativeResult α → Prop}
    {task : Task (NativeResult α)} {next : α → Task (NativeResult β)}
    (h : Calm fails i rely guar result task) (hp : Stable rely fun s => p s.core)
    (hexit : ∀ error c, p c → o.finished (.error error) c)
    (hnext : ∀ value, Meets (act fails i) rely guar (fun s => p s.core) (next value)
      fun r s => o.After q r s.core) :
    Meets (act fails i) rely guar (fun s => p s.core) (orReturn task next)
      fun r s => o.After q r s.core := by
  refine meets_calm_orReturn h hp (fun error _ => ?_) fun value _ => hnext value
  exact ⟨hkept.finished _, fun s hs => hexit error _ hs⟩

/-- An attempt that was not cancelled goes on. -/
theorem meets_check (a : ℕ) :
    Meets (act fails i) rely guar (fun s => o.entered a s.core) (checkConnectionAttempt a)
      fun r s => o.After (o.allowed a) r s.core := by
  refine meets_query (fun current c => if current = a then o.allowed a c
    else o.finished (.error connectionCancelled) c) (hkept.entered a) ?_ fun current => ?_
  · rintro s current s' hs ⟨rfl, rfl⟩
    refine ⟨hsteps.same _ _ rfl, ?_⟩
    split_ifs with hcurrent
    · exact hsteps.check a _ hs hcurrent
    · exact hsteps.entered_error a _ _ hs
  · split_ifs
    · exact meets_pure (hkept.allowed a) fun _ hs => hs
    · exact meets_pure (hkept.finished _) fun _ hs => hs

/-- The tunnel that is replaced is taken down. -/
theorem meets_replaceTunnel (hclean : CleanupSucceeds fails) (a : ℕ) :
    Meets (act fails i) rely guar (fun s => o.entered a s.core) (replaceTunnel a)
      fun r s => o.After (o.free a) r s.core := by
  have hallowed_error : ∀ error c, o.allowed a c → o.finished (.error error) c :=
    fun error c hc => hsteps.free_error a error c (hsteps.nothing a c hc)
  refine meets_quiet hkept (calm_ask hsteps.same rfl) (hkept.entered a)
    (hsteps.entered_error a) fun current => ?_
  refine meets_orReturn hkept (meets_check hkept hsteps a) fun _ => ?_
  refine meets_query (fun owned => o.looked a owned) (hkept.allowed a) ?_ fun owned => ?_
  · rintro s owned s' hs ⟨rfl, rfl⟩
    exact ⟨hsteps.same _ _ rfl, hs, rfl⟩
  cases hreplacement : replacementConnectionUuid current owned with
  | error error =>
      exact meets_pure (hkept.finished _) fun s hs => hallowed_error error _ hs.1
  | ok replacement =>
      cases replacement with
      | none => exact meets_pure (hkept.free a) fun s hs => hsteps.nothing a _ hs.1
      | some uuid =>
          have howned : owned = some uuid := owned_of_replacement hreplacement
          subst howned
          refine meets_bind _ (meets_disconnectOwnedInner hclean hsteps.same
            (hkept.looked a (some uuid)) (hkept.replacing a uuid) (hkept.free a)
            (hsteps.replace a uuid) (hsteps.replaced a uuid)) fun r => ?_
          refine Meets.consequence (?_ : Meets _ _ _ (fun s => o.free a s.core) _ _)
            (fun _ hs => hs.1) fun _ _ hs => hs
          cases r with
          | error error =>
              exact meets_pure (hkept.finished _) fun s hs => hsteps.free_error a error _ hs
          | ok _ =>
              refine meets_quiet hkept (calm_ask hsteps.same rfl) (hkept.free a)
                (hsteps.free_error a) fun observation => ?_
              split_ifs
              · exact meets_pure (hkept.finished _) fun s hs => hsteps.free_error a _ _ hs
              · exact meets_pure (hkept.free a) fun _ hs => hs

/-! ## A tunnel that is up -/

/-- An attempt that fails takes its tunnel down. -/
theorem meets_giveUp (hclean : CleanupSucceeds fails) (a : ℕ) (uuid : String)
    (error : NativeError) :
    Meets (act fails i) rely guar (fun s => o.owning a uuid s.core) (giveUp uuid error)
      fun r s => o.Polled a uuid r s.core := by
  have hcleanup : Meets (act fails i) rely guar (fun s => o.owning a uuid s.core)
      (cleanupOwnedConnection uuid) fun _ s => o.finished (.error error) s.core := by
    refine meets_bind _ (meets_disconnectOwnedInner hclean hsteps.same (hkept.owning a uuid)
      (hkept.down a uuid) (hkept.finished (.error error)) (hsteps.remove a uuid)
      fun s s' => hsteps.forget a uuid s s' error) fun _ => ?_
    exact meets_pure (hkept.finished _) fun _ hs => hs.1
  refine meets_bind _ hcleanup fun _ => ?_
  exact meets_pure (hkept.finished _) fun _ hs => hs

theorem meets_awaitLocalAgent (hclean : CleanupSucceeds fails) (a : ℕ) (uuid : String)
    (observation : TunnelObservation) (queue : Queue) :
    Meets (act fails i) rely guar (fun s => o.owning a uuid s.core)
      (awaitLocalAgent a uuid observation queue) fun r s => o.Polled a uuid r s.core := by
  have howning := hkept.owning a uuid
  refine meets_calm (calm_ask hsteps.same rfl) howning fun _ _ => ?_
  refine meets_calm (calm_unlessCancelled hsteps.same a rfl) howning fun ready _ => ?_
  rcases ready with error | (_ | (error | snapshot))
  · exact meets_giveUp hkept hsteps hclean a uuid error
  · exact meets_giveUp hkept hsteps hclean a uuid _
  · exact meets_giveUp hkept hsteps hclean a uuid error
  · refine meets_calm (calm_ask hsteps.same rfl) howning fun _ _ => ?_
    refine meets_calm (calm_ask hsteps.same rfl) howning fun _ _ => ?_
    refine meets_calm (calm_ask hsteps.same rfl) howning fun _ _ => ?_
    exact meets_pure (hkept.finished _) fun s hs => hsteps.owning_ok a uuid _ hs

theorem meets_secureSession (hclean : CleanupSucceeds fails) (a : ℕ) (plan : Plan) (uuid : String)
    (observation : TunnelObservation) :
    Meets (act fails i) rely guar (fun s => o.owning a uuid s.core)
      (secureSession a plan uuid observation) fun r s => o.Polled a uuid r s.core := by
  have howning := hkept.owning a uuid
  refine meets_calm (calm_reconcileSplitKillSwitchBypass hsteps.same plan.settings true) howning
    fun bypassed _ => ?_
  cases bypassed with
  | error error => exact meets_giveUp hkept hsteps hclean a uuid error
  | ok _ =>
      refine meets_calm (calm_unlessCancelled hsteps.same a rfl) howning fun started _ => ?_
      split
      · exact meets_awaitLocalAgent hkept hsteps hclean a uuid observation _
      · split_ifs
        · refine meets_calm (calm_ask hsteps.same rfl) howning fun passed _ => ?_
          split_ifs
          · exact meets_giveUp hkept hsteps hclean a uuid _
          · exact meets_pure howning fun _ hs => hs
        · exact meets_giveUp hkept hsteps hclean a uuid _

theorem meets_waitForTunnel (hclean : CleanupSucceeds fails) (a : ℕ) (plan : Plan) (uuid : String)
    (conflicts : List String) :
    Meets (act fails i) rely guar (fun s => o.owning a uuid s.core)
      (pollTunnel.waitForTunnel plan uuid conflicts) fun r s => o.Polled a uuid r s.core := by
  have howning := hkept.owning a uuid
  refine meets_calm (calm_ask hsteps.same rfl) howning fun passed _ => ?_
  split_ifs
  · exact meets_giveUp hkept hsteps hclean a uuid _
  · refine meets_calm (calm_ask hsteps.same rfl) howning fun _ _ => ?_
    exact meets_pure howning fun _ hs => hs

/-- One round of the polling loop. -/
theorem meets_pollTunnel (hclean : CleanupSucceeds fails) (a : ℕ) (plan : Plan) (uuid : String)
    (conflicts : List String) :
    Meets (act fails i) rely guar (fun s => o.owning a uuid s.core)
      (pollTunnel a plan uuid conflicts) fun r s => o.Polled a uuid r s.core := by
  have howning := hkept.owning a uuid
  refine meets_calm (calm_checkConnectionAttempt hsteps.same a) howning fun checked _ => ?_
  cases checked with
  | error error => exact meets_giveUp hkept hsteps hclean a uuid error
  | ok _ =>
      have hobserve : Calm fails i rely guar (fun r => ∀ error, r = .error error →
          fails (.observe .polling)) (ask (.observe .polling)) := by
        refine calm_answer hsteps.same rfl _ ?_
        rintro s r s' ⟨-, hact⟩ error rfl
        exact hact
      refine meets_calm hobserve howning fun observed hobserved => ?_
      cases observed with
      | error error =>
          refine meets_pure (hkept.finished _) fun s hs => ?_
          exact hsteps.owning_error (hobserved error rfl) a uuid error _ hs
      | ok observation =>
          dsimp only
          split
          · exact meets_secureSession hkept hsteps hclean a plan uuid observation
          · refine meets_calm (calm_ask hsteps.same rfl) howning fun _ _ => ?_
            exact meets_giveUp hkept hsteps hclean a uuid _
          · refine meets_calm (calm_ask hsteps.same rfl) howning fun passed _ => ?_
            split_ifs
            · exact meets_giveUp hkept hsteps hclean a uuid _
            · exact meets_waitForTunnel hkept hsteps hclean a plan uuid conflicts
          · exact meets_waitForTunnel hkept hsteps hclean a plan uuid conflicts

/-! ## The whole attempt -/

theorem meets_activate (a : ℕ) (plan : Plan) (uuid : String) :
    Meets (act fails i) rely guar (fun s => o.named a uuid s.core) (activate plan uuid)
      fun r s => match r with
        | .ok _ => o.activated a uuid s.core
        | .error _ => o.named a uuid s.core := by
  have hnamed := hkept.named a uuid
  refine meets_calm_orReturn (calm_ask hsteps.same rfl) hnamed (fun _ _ => ⟨hnamed, fun _ hs => hs⟩)
    fun _ _ => ?_
  refine meets_query (fun r c => match r with
    | .ok _ => o.activated a uuid c
    | .error _ => o.named a uuid c) hnamed ?_ fun connected => ?_
  · rintro s r s' hs (⟨rfl, hs'⟩ | ⟨-, ⟨error, rfl⟩, rfl⟩)
    · exact hsteps.activate a uuid s s' hs (by rw [hs']; rfl)
    · exact ⟨hsteps.same _ _ rfl, hs⟩
  cases connected with
  | ok _ => exact meets_pure (hkept.activated a uuid) fun _ hs => hs
  | error error =>
      refine meets_calm (calm_ask hsteps.same rfl) hnamed fun _ _ => ?_
      exact meets_pure hnamed fun _ hs => hs

theorem meets_establish (hclean : CleanupSucceeds fails) (a : ℕ) (plan : Plan) (uuid : String)
    (conflicts : List String) :
    Meets (act fails i) rely guar (fun s => o.named a uuid s.core)
      (establish a plan uuid conflicts) fun r s => o.After (o.finished (.ok ())) r s.core := by
  have hnamed := hkept.named a uuid
  have hrestore : ∀ error : NativeError, Meets (act fails i) rely guar
      (fun s => o.named a uuid s.core)
      (orReturn restoreGlobalDestinationPolicy fun _ => pure (.error error : NativeResult Unit))
      fun r s => o.After (o.finished (.ok ())) r s.core := by
    intro error
    refine meets_quiet hkept (calm_restoreGlobalDestinationPolicy hsteps.same) hnamed
      (hsteps.named_error a uuid) fun _ => ?_
    exact meets_pure (hkept.finished _) fun s hs => hsteps.named_error a uuid error _ hs
  refine meets_quiet hkept (calm_applyConnectionDestinationPolicy hsteps.same _ _) hnamed
    (hsteps.named_error a uuid) fun _ => ?_
  refine meets_calm (calm_checkConnectionAttempt hsteps.same a) hnamed fun checked _ => ?_
  cases checked with
  | error error => exact hrestore error
  | ok _ =>
      refine meets_bind _ (meets_activate hkept hsteps a plan uuid) fun activated => ?_
      cases activated with
      | error error => exact hrestore _
      | ok _ =>
          refine meets_query (fun _ => o.owning a uuid) (hkept.activated a uuid) ?_ fun _ => ?_
          · intro s _ s' hs hact
            exact hsteps.record a uuid s s' hs (by rw [hact]; rfl)
          refine meets_calm (calm_ask hsteps.same rfl) (hkept.owning a uuid) fun _ _ => ?_
          refine meets_loop (fun _ (s : Shared ι) => o.owning a uuid s.core)
            (fun r (s : Shared ι) => o.finished r s.core) (fun _ => hkept.owning a uuid) (fun _ => ?_) fun r => ?_
          · refine (meets_pollTunnel hkept hsteps hclean a plan uuid conflicts).consequence
              (fun _ hs => hs) ?_
            rintro (_ | r) s hs
            · exact hs
            · exact hs
          · refine meets_pure (stable_after hkept (hkept.finished _) r) fun s hs => ?_
            cases r with
            | ok _ => exact hs
            | error error => exact hs

/-- The attempt is given a profile, or it is not. -/
def onProfile (o : Outline ι) (a : ℕ) : NativeResult String → Core ι → Prop
  | .ok uuid => o.named a uuid
  | .error _ => o.free a

theorem meets_connectExclusively (hclean : CleanupSucceeds fails) (a : ℕ) :
    Meets (act fails i) rely guar (fun s => o.entered a s.core) (connectExclusively a)
      fun r s => o.After (o.finished (.ok ())) r s.core := by
  refine meets_quiet hkept (calm_ask hsteps.same rfl) (hkept.entered a) (hsteps.entered_error a)
    fun _ => ?_
  refine meets_quiet hkept (calm_ask hsteps.same rfl) (hkept.entered a) (hsteps.entered_error a)
    fun plan => ?_
  refine meets_orReturn hkept (meets_replaceTunnel hkept hsteps hclean a) fun _ => ?_
  refine meets_query (o.onProfile a) (hkept.free a) ?_ fun named => ?_
  · rintro s (error | uuid) s' hs hact
    · obtain ⟨-, rfl⟩ := hact
      exact ⟨hsteps.same _ _ rfl, hs⟩
    · obtain ⟨htunnels, hcreated, rfl⟩ := hact
      exact hsteps.name a uuid s _ hs htunnels hcreated rfl
  cases named with
  | error error => exact meets_pure (hkept.finished _) fun s hs => hsteps.free_error a error _ hs
  | ok uuid =>
      refine meets_quiet hkept (calm_ask hsteps.same rfl) (hkept.named a uuid)
        (hsteps.named_error a uuid) fun conflicts => ?_
      exact meets_establish hkept hsteps hclean a plan uuid conflicts

/-- `network_write` is waited for, and held while the attempt works. -/
theorem meets_guardedUnlessCancelled_network (hclean : CleanupSucceeds fails) (a : ℕ) :
    Meets (act fails i) rely guar (fun s => o.begun a s.core)
      (guardedUnlessCancelled a .network (connectExclusively a)) fun r s => o.left r s.core := by
  have hwait : Meets (act fails i) rely guar (fun s => o.begun a s.core)
      (unlessCancelled a (.lock .network)) fun r s => match r with
        | .ok _ => o.entered a s.core
        | .error error => o.left (.error error) s.core := by
    refine meets_loop (fun _ (s : Shared ι) => o.begun a s.core) (fun r s => match r with
      | .ok _ => o.entered a s.core
      | .error error => o.left (.error error) s.core) (fun _ => hkept.begun a) (fun _ => ?_)
      fun r => ?_
    · refine meets_calm (calm_checkConnectionAttempt hsteps.same a) (hkept.begun a)
        fun checked _ => ?_
      cases checked with
      | error error => exact meets_pure (hkept.left _) fun s hs => hsteps.begun_error a error _ hs
      | ok _ =>
          refine meets_query (fun polled c => match polled with
            | some _ => o.entered a c
            | none => o.begun a c) (hkept.begun a) ?_ fun polled => ?_
          · rintro s (_ | _) s' hs hact
            · obtain rfl := hact
              exact ⟨hsteps.same _ _ rfl, hs⟩
            · obtain ⟨hfree, rfl⟩ := hact
              exact hsteps.enter a s hs hfree
          · cases polled with
            | none => exact meets_pure (hkept.begun a) fun _ hs => hs
            | some _ => exact meets_pure (hkept.entered a) fun _ hs => hs
    · cases r with
      | error error => exact meets_pure (hkept.left _) fun _ hs => hs
      | ok _ => exact meets_pure (hkept.entered a) fun _ hs => hs
  refine meets_bind _ hwait fun waited => ?_
  cases waited with
  | error error => exact meets_pure (hkept.left _) fun _ hs => hs
  | ok _ =>
      refine meets_bind _ (meets_connectExclusively hkept hsteps hclean a) fun r => ?_
      refine Meets.consequence (?_ : Meets _ _ _ (fun s => o.finished r s.core) _ _) ?_
        fun _ _ hs => hs
      · refine meets_query (fun _ => o.left r) (hkept.finished r) ?_ fun _ => ?_
        · rintro s _ s' hs rfl
          exact hsteps.leave r s hs
        · exact meets_pure (hkept.left r) fun _ hs => hs
      · intro s hs
        cases r with
        | ok _ => exact hs
        | error error => exact hs

/-- An attempt goes through its stages. -/
theorem meets_connectionConnect {p : Core ι → Prop} (hclean : CleanupSucceeds fails)
    (hp : Stable rely fun s => p s.core)
    (hbegin : ∀ s s' : Shared ι, p s.core → s'.core = s.core.begin i →
      guar s s' ∧ o.begun (s.core.attempt + 1) s'.core) :
    Meets (act fails i) rely guar (fun s => p s.core) connectionConnect
      fun r s => o.left r s.core := by
  refine meets_query (fun a => o.begun a) hp ?_ fun a => ?_
  · rintro s a s' hs ⟨rfl, rfl⟩
    exact hbegin s _ hs rfl
  have hbegun := hkept.begun a
  have hprepare : Calm fails i rely guar (fun _ => True) (preparation a) := by
    refine calm_orReturn _ (calm_unlessCancelled hsteps.same a rfl) (fun _ _ => trivial) ?_
    intro prepared _
    refine calm_orReturn (fun _ => True) (calm_pure trivial) (fun _ _ => trivial) fun _ _ => ?_
    exact calm_ask hsteps.same rfl
  refine meets_calm_orReturn hprepare hbegun (fun error _ =>
    ⟨hkept.left _, fun s hs => hsteps.begun_error a error _ hs⟩) fun _ _ => ?_
  refine meets_calm_orReturn (calm_unlessCancelled hsteps.same a rfl) hbegun (fun error _ =>
    ⟨hkept.left _, fun s hs => hsteps.begun_error a error _ hs⟩) fun _ _ => ?_
  refine meets_bind _ (meets_guardedUnlessCancelled_network hkept hsteps hclean a) fun r => ?_
  refine meets_calm (calm_ask hsteps.same rfl) (hkept.left r) fun _ _ => ?_
  exact meets_pure (hkept.left r) fun _ hs => hs

end attempt

end Outline

end ProtonVpnOmarchy.Agent.Runtime
