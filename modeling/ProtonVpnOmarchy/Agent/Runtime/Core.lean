import ProtonVpnOmarchy.Agent.Runtime.Shared

/-!
# The tunnel among what the tasks share

The part of the shared state that says which tunnel is up, and the pieces of the tasks that leave it
alone.

* `act_core` — which questions leave that part alone.
* `calm_reconcileSplitKillSwitchBypass`, `calm_restoreGlobalDestinationPolicy` — the calls of the split
  service do, and they succeed if the calls of a clean-up do.
* `meets_disconnectOwnedInner` — what taking a tunnel down does to it.
-/

namespace ProtonVpnOmarchy.Agent.Runtime

open Lib

variable {ι : Type} [DecidableEq ι]

/-! ## The part of the state that a tunnel depends on -/

/-- The counter, `network_write`, the recorded uuid and the tunnels, with who did what. -/
structure Core (ι : Type) where
  attempt : ℕ
  holder : Option ι
  owned : Option String
  tunnels : Finset String
  latest : Option ι
  number : ι → ℕ
  created : ι → Finset String
  quiet : ℕ
  found : ι → Option (Option String)
  left : ι → Option (Option String)
  removed : ι → Bool

def Shared.core (s : Shared ι) : Core ι :=
  { s with holder := s.holder .network }

/-- A question that leaves this part alone. -/
def Query.isPassive : Query → Bool
  | .nextAttempt | .setOwnedUuid _ | .newProfile | .connect _ | .disconnectUuid _ => false
  | .lock mutex | .unlock mutex | .tryLock mutex | .poll (.lock mutex) => mutex ≠ .network
  | _ => true

theorem core_take {s : Shared ι} {mutex : Mutex} {i : ι} (h : mutex ≠ .network) :
    (s.take mutex i).core = s.core := by
  simp [Shared.core, Shared.take, Function.update_of_ne h.symm, h]

theorem core_release {s : Shared ι} {mutex : Mutex} {i : ι} (h : mutex ≠ .network) :
    (s.release mutex i).core = s.core := by
  simp [Shared.core, Shared.release, Function.update_of_ne h.symm, h]

theorem core_take_network (s : Shared ι) (i : ι) :
    (s.take .network i).core =
      { s.core with
        holder := some i
        found := Function.update s.found i (some s.owned) } := by
  simp [Shared.core, Shared.take]

theorem core_release_network (s : Shared ι) (i : ι) :
    (s.release .network i).core =
      { s.core with
        holder := none
        quiet := if s.core.owned = none then s.core.attempt else s.core.quiet
        left := Function.update s.left i (some s.owned) } := by
  simp only [Shared.core, Shared.release, Function.update_self, true_and, if_true]
  congr

theorem act_core {fails : Query → Prop} {i : ι} {query : Query} {s s' : Shared ι}
    {answer : query.Answer} (hpassive : query.isPassive = true)
    (hact : act fails i query s answer s') : s'.core = s.core := by
  cases query with
  | nextAttempt | setOwnedUuid | newProfile | connect | disconnectUuid =>
      exact absurd hpassive (by simp [Query.isPassive])
  | lock mutex =>
      obtain ⟨-, rfl⟩ := hact
      exact core_take (by simpa [Query.isPassive] using hpassive)
  | unlock mutex =>
      obtain rfl := hact
      exact core_release (by simpa [Query.isPassive] using hpassive)
  | tryLock mutex =>
      cases answer with
      | true =>
          obtain ⟨-, rfl⟩ := hact
          exact core_take (by simpa [Query.isPassive] using hpassive)
      | false => exact congrArg Shared.core hact
  | poll future =>
      cases future with
      | lock mutex =>
          cases answer with
          | some _ =>
              obtain ⟨-, rfl⟩ := hact
              exact core_take (by simpa [Query.isPassive] using hpassive)
          | none => exact congrArg Shared.core hact
      | _ => exact congrArg Shared.core hact
  | loadAttempt | ownedUuid | settings | policyOverride | policyAvailable =>
      exact congrArg Shared.core hact.2
  | observe site => exact congrArg Shared.core hact.1
  | persistSettings _ | applyRanges _ _ | killSwitch _ _ _ _ | setKillSwitchBypass _ _ =>
      rcases hact with ⟨-, rfl⟩ | ⟨-, -, rfl⟩
      · rfl
      · rfl
  | setPolicyOverride _ | setSnapshot _ =>
      rw [hact]
      rfl
  | _ => exact congrArg Shared.core hact

/-! ## Tasks that leave it alone -/

section calm

variable {fails : Query → Prop} {i : ι} {rely guar : Shared ι → Shared ι → Prop} {α β : Type}

/-- A piece of a task that leaves the tunnel alone. -/
def Calm (fails : Query → Prop) (i : ι) (rely guar : Shared ι → Shared ι → Prop)
    (result : α → Prop) (task : Task α) : Prop :=
  Passive Shared.core (act fails i) rely guar result task

variable {result : α → Prop}

theorem calm_pure {a : α} (h : result a) : Calm fails i rely guar result (pure a) :=
  passive_pure h

theorem calm_bind (result : α → Prop) {task : Task α} {next : α → Task β} {result' : β → Prop}
    (h : Calm fails i rely guar result task)
    (hnext : ∀ a, result a → Calm fails i rely guar result' (next a)) :
    Calm fails i rely guar result' (task >>= next) := passive_bind h hnext

theorem calm_orReturn (result : NativeResult α → Prop) {task : Task (NativeResult α)}
    {next : α → Task (NativeResult β)} {result' : NativeResult β → Prop}
    (h : Calm fails i rely guar result task)
    (herror : ∀ error, result (.error error) → result' (.error error))
    (hnext : ∀ a, result (.ok a) → Calm fails i rely guar result' (next a)) :
    Calm fails i rely guar result' (orReturn task next) := by
  refine calm_bind _ h fun a ha => ?_
  cases a with
  | error error => exact calm_pure (herror error ha)
  | ok a => exact hnext a ha

section rules

variable (hguar : ∀ s s' : Shared ι, s'.core = s.core → guar s s')

include hguar

theorem calm_answer {query : Query} (hquery : query.isPassive = true)
    (answer : query.Answer → Prop) (hact : ∀ s a s', act fails i query s a s' → answer a) :
    Calm fails i rely guar answer (ask query) :=
  passive_ask answer hguar
    (fun s a s' hstep => ⟨act_core hquery hstep, hact s a s' hstep⟩) fun _ ha => passive_pure ha

theorem calm_ask {query : Query} (hquery : query.isPassive = true) :
    Calm fails i rely guar (fun _ => True) (ask query) :=
  calm_answer hguar hquery (fun _ => True) fun _ _ _ _ => trivial

theorem calm_guarded {mutex : Mutex} (hmutex : mutex ≠ .network) {task : Task α}
    (h : Calm fails i rely guar result task) :
    Calm fails i rely guar result (guarded mutex task) := by
  refine calm_bind _ (calm_ask hguar (by simpa [Query.isPassive] using hmutex)) fun _ _ => ?_
  refine calm_bind _ h fun a ha => ?_
  refine calm_bind _ (calm_ask hguar (by simpa [Query.isPassive] using hmutex)) fun _ _ => ?_
  exact calm_pure ha

end rules

/-- The calls that take a tunnel down cannot fail. -/
structure CleanupSucceeds (fails : Query → Prop) : Prop where
  bypass : ∀ routes, ¬ fails (.setKillSwitchBypass false routes)
  available : ¬ fails .policyAvailable
  ranges : ∀ allowLan allowLocalDns, ¬ fails (.applyRanges allowLan allowLocalDns)
  disconnect : ∀ uuid, ¬ fails (.disconnectUuid uuid)
  killSwitch : ∀ mode serverIp ipv6, ¬ fails (.killSwitch mode false serverIp ipv6)

/-- What is said of the result of a call in a clean-up. -/
def Cleans (fails : Query → Prop) (result : NativeResult α) : Prop :=
  CleanupSucceeds fails → ∃ value, result = .ok value

section pieces

variable (hguar : ∀ s s' : Shared ι, s'.core = s.core → guar s s')

include hguar

theorem calm_checkConnectionAttempt (attempt : ℕ) :
    Calm fails i rely guar (fun _ => True) (checkConnectionAttempt attempt) := by
  refine calm_bind _ (calm_ask hguar rfl) fun current _ => ?_
  split_ifs
  · exact calm_pure trivial
  · exact calm_pure trivial

theorem calm_unlessCancelled (attempt : ℕ) {future : Future}
    (hfuture : (Query.poll future).isPassive = true) :
    Calm fails i rely guar (fun _ => True) (unlessCancelled attempt future) := by
  refine passive_loop (fun _ => True) (fun _ => ?_) fun _ _ => calm_pure trivial
  refine calm_bind _ (calm_checkConnectionAttempt hguar attempt) fun checked _ => ?_
  cases checked with
  | error error => exact calm_pure fun _ _ => trivial
  | ok _ =>
      refine calm_bind _ (calm_ask hguar hfuture) fun polled _ => ?_
      cases polled with
      | some result => exact calm_pure fun _ _ => trivial
      | none => exact calm_pure fun _ _ => trivial

theorem calm_bypassKillSwitch (enabled : Bool) :
    Calm fails i rely guar (fun r => enabled = false → Cleans fails r)
      (bypassKillSwitch enabled) := by
  refine calm_orReturn (fun r => enabled = false → ∃ routes, r = .ok routes) ?_ ?_
    fun routes _ => ?_
  · cases enabled with
    | false => exact calm_pure fun _ => ⟨[], rfl⟩
    | true => exact calm_answer hguar rfl _ fun _ _ _ _ h => absurd h (by decide)
  · rintro error h hactive
    obtain ⟨_, hroutes⟩ := h hactive
    cases hroutes
  · refine calm_orReturn (fun r => enabled = false → Cleans fails r) ?_ ?_ fun _ _ => ?_
    · refine calm_answer hguar rfl _ ?_
      rintro s a s' hact rfl hclean
      exact ⟨(), Outcome.eq_ok hact (hclean.bypass routes)⟩
    · rintro error h hactive hclean
      obtain ⟨_, hvalue⟩ := h hactive hclean
      cases hvalue
    · refine calm_bind _ (calm_ask hguar rfl) fun _ _ => ?_
      exact calm_pure fun _ _ => ⟨(), rfl⟩

theorem calm_reconcileSplitKillSwitchBypass (settings : NativeSettings) (tunnelActive : Bool) :
    Calm fails i rely guar (fun r => tunnelActive = false → Cleans fails r)
      (reconcileSplitKillSwitchBypass settings tunnelActive) := by
  unfold reconcileSplitKillSwitchBypass
  refine calm_guarded hguar (by decide) ?_
  refine calm_bind (fun _ => True) ?_ fun needed _ => ?_
  · split_ifs
    · exact calm_pure trivial
    · exact calm_ask hguar rfl
  · cases needed with
    | false => exact calm_pure fun _ _ => ⟨(), rfl⟩
    | true =>
        intro p hstable
        refine (calm_bypassKillSwitch hguar _ p hstable).consequence (fun _ hs => hs) ?_
        rintro r s ⟨hr, hs⟩
        exact ⟨fun hactive => hr (by rw [hactive]; rfl), hs⟩

theorem calm_applyDestinationPolicy (settings : NativeSettings) :
    Calm fails i rely guar (Cleans fails) (applyDestinationPolicy settings) := by
  refine calm_bind _ (calm_answer hguar rfl (fun answer => CleanupSucceeds fails → answer = true) ?_)
    fun available havailable => ?_
  · rintro s a s' ⟨ha, -⟩ hclean
    exact ha.resolve_right hclean.available
  · cases available with
    | false =>
        refine calm_pure fun hclean => ?_
        cases havailable hclean
    | true =>
        refine calm_answer hguar rfl _ ?_
        intro s a s' hact hclean
        exact ⟨(), Outcome.eq_ok hact (hclean.ranges _ _)⟩

theorem calm_applyConnectionDestinationPolicy (globalSettings effective : NativeSettings) :
    Calm fails i rely guar (fun _ => True)
      (applyConnectionDestinationPolicy globalSettings effective) := by
  unfold applyConnectionDestinationPolicy
  split_ifs
  · refine calm_orReturn _ (calm_applyDestinationPolicy hguar effective) (fun _ _ => trivial) ?_
    exact fun _ _ => calm_bind _ (calm_ask hguar rfl) fun _ _ => calm_pure trivial
  · exact calm_bind _ (calm_ask hguar rfl) fun _ _ => calm_pure trivial

theorem calm_restoreGlobalDestinationPolicy :
    Calm fails i rely guar (Cleans fails) restoreGlobalDestinationPolicy := by
  refine calm_bind _ (calm_ask hguar rfl) fun override _ => ?_
  split_ifs
  · exact calm_pure fun _ => ⟨(), rfl⟩
  · refine calm_bind _ (calm_ask hguar rfl) fun settings _ => ?_
    refine calm_orReturn _ (calm_applyDestinationPolicy hguar settings) ?_ fun _ _ => ?_
    · intro error h hclean
      obtain ⟨_, hvalue⟩ := h hclean
      cases hvalue
    · exact calm_bind _ (calm_ask hguar rfl) fun _ _ => calm_pure fun _ => ⟨(), rfl⟩

end pieces

/-! ## Steps that change it -/

section meets

variable {p : Core ι → Prop} {post : β → Shared ι → Prop}

/-- A piece that leaves the tunnel alone, before the rest of a task. -/
theorem meets_calm {task : Task α} {next : α → Task β}
    (h : Calm fails i rely guar result task) (hstable : Stable rely fun s => p s.core)
    (hnext : ∀ a, result a → Meets (act fails i) rely guar (fun s => p s.core) (next a) post) :
    Meets (act fails i) rely guar (fun s => p s.core) (task >>= next) post := by
  refine meets_bind (fun a s => result a ∧ p s.core) (h p hstable) fun a => ?_
  by_cases ha : result a
  · exact (hnext a ha).consequence (fun _ hs => hs.2) fun _ _ hs => hs
  · exact fun s hs => absurd hs.1 ha

theorem meets_calm_orReturn {task : Task (NativeResult α)} {next : α → Task (NativeResult β)}
    {result : NativeResult α → Prop} {post : NativeResult β → Shared ι → Prop}
    (h : Calm fails i rely guar result task) (hstable : Stable rely fun s => p s.core)
    (herror : ∀ error, result (.error error) → Stable rely (post (.error error)) ∧
      ∀ s : Shared ι, p s.core → post (.error error) s)
    (hnext : ∀ a, result (.ok a) →
      Meets (act fails i) rely guar (fun s => p s.core) (next a) post) :
    Meets (act fails i) rely guar (fun s => p s.core) (orReturn task next) post := by
  refine meets_calm h hstable fun a ha => ?_
  cases a with
  | error error => exact meets_pure (herror error ha).1 (herror error ha).2
  | ok a => exact hnext a ha

/-- A question that changes the tunnel, before the rest of a task. -/
theorem meets_query {query : Query} {next : query.Answer → Task β}
    (mid : query.Answer → Core ι → Prop) (hstable : Stable rely fun s => p s.core)
    (hstep : ∀ s a s', p s.core → act fails i query s a s' → guar s s' ∧ mid a s'.core)
    (hnext : ∀ a, Meets (act fails i) rely guar (fun s => mid a s.core) (next a) post) :
    Meets (act fails i) rely guar (fun s => p s.core) (ask query >>= next) post :=
  meets_ask (fun a s => mid a s.core) hstable hstep hnext

end meets

section disconnect

/-- A tunnel is taken down by a task. -/
def Core.remove (c : Core ι) (i : ι) (uuid : String) : Core ι :=
  { c with
    tunnels := c.tunnels.erase uuid
    removed := Function.update c.removed i true }

variable {p down clear : Core ι → Prop}

/-- How taking a tunnel down ends if the calls of a clean-up succeed. -/
def Cleared (fails : Query → Prop) (clear : Core ι → Prop) (r : NativeResult Unit)
    (s : Shared ι) : Prop :=
  clear s.core ∧ (¬ fails (.observe .cleanup) → r = .ok ())

omit [DecidableEq ι] in
theorem stable_cleared (hclear : Stable rely fun s => clear s.core) (r : NativeResult Unit) :
    Stable rely (Cleared fails clear r) := by
  rintro s s' ⟨hs, hr⟩ hrely
  exact ⟨hclear s s' hs hrely, hr⟩

theorem not_cleanupSucceeds {error : NativeError}
    (h : Cleans fails (.error error : NativeResult α)) : ¬ CleanupSucceeds fails := by
  intro hclean
  obtain ⟨_, hvalue⟩ := h hclean
  cases hvalue

/-- A call of a clean-up, before the rest of it. -/
theorem meets_cleans {task : Task (NativeResult α)} {next : α → Task (NativeResult β)}
    {post : NativeResult β → Shared ι → Prop} (h : Calm fails i rely guar (Cleans fails) task)
    (hclean : CleanupSucceeds fails) (hstable : Stable rely fun s => p s.core)
    (hnext : ∀ a, Meets (act fails i) rely guar (fun s => p s.core) (next a) post) :
    Meets (act fails i) rely guar (fun s => p s.core) (orReturn task next) post :=
  meets_calm_orReturn h hstable (fun _ herror => absurd hclean (not_cleanupSucceeds herror))
    fun a _ => hnext a

theorem meets_forgetConnection (hguar : ∀ s s' : Shared ι, s'.core = s.core → guar s s')
    (hdown : Stable rely fun s => down s.core) (hclear : Stable rely fun s => clear s.core)
    (hforget : ∀ s s' : Shared ι, down s.core → s'.core = { s.core with owned := none } →
      guar s s' ∧ clear s'.core) :
    Meets (act fails i) rely guar (fun s => down s.core) forgetConnection
      (Cleared fails clear) := by
  refine meets_query (fun _ c => clear c) hdown ?_ fun _ => ?_
  · intro s _ s' hs hact
    exact hforget s s' hs (by rw [hact]; rfl)
  refine meets_calm (calm_ask hguar rfl) hclear fun _ _ => ?_
  have hobserve : Calm fails i rely guar (fun r => ∀ error, r = .error error →
      fails (.observe .cleanup)) (ask (.observe .cleanup)) := by
    refine calm_answer hguar rfl _ ?_
    rintro s a s' ⟨-, hact⟩ error rfl
    exact hact
  refine meets_calm_orReturn hobserve hclear (fun error herror => ?_) fun _ _ => ?_
  · exact ⟨stable_cleared hclear _, fun s hs => ⟨hs, fun hnot => absurd (herror error rfl) hnot⟩⟩
  refine meets_calm (calm_ask hguar rfl) hclear fun _ _ => ?_
  exact meets_pure (stable_cleared hclear _) fun _ hs => ⟨hs, fun _ => rfl⟩

/-- A tunnel is taken down and its record cleared. -/
theorem meets_disconnectOwnedInner {uuid : String} (hclean : CleanupSucceeds fails)
    (hguar : ∀ s s' : Shared ι, s'.core = s.core → guar s s')
    (hp : Stable rely fun s => p s.core) (hdown : Stable rely fun s => down s.core)
    (hclear : Stable rely fun s => clear s.core)
    (hremove : ∀ s s' : Shared ι, p s.core → s'.core = s.core.remove i uuid →
      guar s s' ∧ down s'.core)
    (hforget : ∀ s s' : Shared ι, down s.core → s'.core = { s.core with owned := none } →
      guar s s' ∧ clear s'.core) :
    Meets (act fails i) rely guar (fun s => p s.core) (disconnectOwnedInner uuid)
      (Cleared fails clear) := by
  unfold disconnectOwnedInner
  refine meets_calm (calm_ask hguar rfl) hp fun settings _ => ?_
  refine meets_calm (calm_ask hguar rfl) hp fun selected _ => ?_
  refine meets_calm_orReturn (calm_reconcileSplitKillSwitchBypass hguar settings false) hp ?_
    fun _ _ => ?_
  · intro error herror
    exact absurd hclean (not_cleanupSucceeds (herror rfl))
  refine meets_cleans (calm_restoreGlobalDestinationPolicy hguar) hclean hp fun _ => ?_
  refine meets_calm (calm_ask hguar rfl) hp fun _ _ => ?_
  refine meets_calm (calm_ask hguar rfl) hp fun _ _ => ?_
  refine meets_query (fun r c => r = .ok () ∧ down c) hp ?_ ?_
  · rintro s r s' hs (⟨rfl, hs'⟩ | ⟨hfail, -⟩)
    · obtain ⟨hstep, hafter⟩ := hremove s s' hs (by rw [hs']; rfl)
      exact ⟨hstep, rfl, hafter⟩
    · exact absurd hfail (hclean.disconnect uuid)
  rintro (error | _)
  · exact fun s hs => nomatch hs.1
  refine Meets.consequence (?_ : Meets _ _ _ (fun s => down s.core) _ _) (fun _ hs => hs.2)
    fun _ _ hs => hs
  refine meets_cleans ?_ hclean hdown fun _ => ?_
  · refine calm_answer hguar rfl _ ?_
    intro s a s' hact hclean
    exact ⟨(), Outcome.eq_ok hact (hclean.killSwitch _ _ _)⟩
  · exact meets_forgetConnection hguar hdown hclear hforget

end disconnect

end calm

end ProtonVpnOmarchy.Agent.Runtime
