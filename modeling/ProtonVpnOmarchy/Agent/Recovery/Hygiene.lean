import ProtonVpnOmarchy.Agent.Recovery.Basic

/-!
# The temporary tunnels of a recovery

What a run of the recovery leaves behind, and when it heeds a request to cancel.

* `run_orderly` — at most five tunnels, one at a time, each removed before anything else is tried, and
  none beside another VPN or behind the kill switch.
* `run_heeds` — a run that has been asked to cancel begins no other tunnel, as long as no stage is
  written over the request before the run looks at it.
* `begins_tunnel_after_cancellation` — the stage of the clean-up is written over a request.
-/

namespace ProtonVpnOmarchy.Agent.Recovery

open Lib Operations Native
open ProtonVpnOmarchy.Agent.Runtime (TunnelState)

/-! ## What a history says of the tunnels -/

/-- The tunnels whose activation was begun, the last one first. -/
def activated : List Event → List String
  | [] => []
  | ⟨.connect uuid, _⟩ :: past => uuid :: activated past
  | _ :: past => activated past

/-- The tunnels whose activation was begun and that were not removed by their uuid since. -/
def standing : List Event → List String
  | [] => []
  | ⟨.connect uuid, _⟩ :: past => uuid :: standing past
  | ⟨.disconnectUuid uuid, _, .ok (.ok _)⟩ :: past => (standing past).erase uuid
  | _ :: past => standing past

/-- An answer of the initial check that forbids a recovery: a VPN is up, or the kill switch blocks. -/
def forbids : Event → Prop
  | ⟨.observe, _, reply⟩ =>
    ∀ observation, reply = .ok observation → observation.state ≠ .disconnected
  | ⟨.conflictingInterfaces, _, reply⟩ => reply ≠ .ok []
  | ⟨.networkBlocked, _, reply⟩ => reply ≠ .ok false
  | _ => False

/-- The initial check was made, and nothing forbids a recovery. -/
structure Checked (past : List Event) : Prop where
  asked : ∀ query ∈ [Query.observe, .conflictingInterfaces, .networkBlocked],
    query ∈ past.map (·.1)
  allowed : ∀ event ∈ past, ¬ forbids event

/-- Another tunnel may be begun. -/
structure Admissible (past : List Event) : Prop where
  alone : standing past = []
  few : (activated past).length < MAX_ATTEMPTS
  checked : Checked past

/-- A tunnel is begun only where one may be. -/
def Orderly : Event → List Event → Prop
  | ⟨.connect _, _⟩, past => Admissible past
  | _, _ => True

/-- How a run may end: no tunnel is left, or the last step failed to remove the one that is, and the
result says so. -/
def Cleaned (result : NativeResult Value) (past : List Event) : Prop :=
  standing past = [] ∨ ∃ uuid before rest, standing past = [uuid] ∧
    ((∃ error, past = ⟨.disconnectUuid uuid, before, .error error⟩ :: rest ∧
        result = .error error) ∨
      ∃ error, past = ⟨.disconnectUuid uuid, before, .ok (.error error)⟩ :: rest ∧
        result = .error (cleanupFailed error))

/-- The questions that neither begin nor remove a tunnel, and are not part of the initial check. -/
def Quiet : Query → Prop
  | .connect _ | .disconnectUuid _ | .observe | .conflictingInterfaces | .networkBlocked => False
  | _ => True

section quiet

variable {query : Query} (answer : query.Answer) (past : List Event)

theorem activated_quiet (h : Quiet query) :
    activated (⟨query, answer⟩ :: past) = activated past := by
  cases query <;> first | exact h.elim | rfl

theorem standing_quiet (h : Quiet query) :
    standing (⟨query, answer⟩ :: past) = standing past := by
  cases query <;> first | exact h.elim | rfl

theorem not_forbids_quiet (h : Quiet query) : ¬ forbids ⟨query, answer⟩ := by
  cases query <;> first | exact h.elim | exact id

theorem orderly_quiet (h : Quiet query) : Orderly ⟨query, answer⟩ past := by
  cases query <;> first | exact h.elim | exact trivial

end quiet

theorem only_ask {kind : Query → Prop} (query : Query) (h : kind query) :
    Dialogue.Only kind (ask query) := ⟨h, fun _ => trivial⟩

theorem only_unlessCancelled {α : Type} {task : Task (NativeResult α)}
    (h : Dialogue.Only Quiet task) : Dialogue.Only Quiet (unlessCancelled task) := by
  refine Dialogue.only_bind (only_ask .cancelled trivial) ?_
  rintro (_ | _)
  · exact h
  · exact trivial

theorem only_untilDone {β : Type} {round : Task (NativeResult (Unit ⊕ β))}
    (h : Dialogue.Only Quiet round) : Dialogue.Only Quiet (untilDone round) := by
  refine ⟨fun _ => Dialogue.only_bind h ?_, fun _ => trivial⟩
  rintro (error | _ | value) <;> exact trivial

/-- Neither the wait for a tunnel nor the request through it begins or removes one. -/
theorem only_attempt (op : Operation) (request : ApiRequest) (uuid : String) :
    Dialogue.Only Quiet (attempt op request uuid) := by
  have hlook : Dialogue.Only Quiet (look uuid) := by
    refine only_unlessCancelled (Dialogue.only_andThen (only_ask _ trivial) ?_)
    intro observation
    split_ifs
    · exact trivial
    · exact trivial
    · refine Dialogue.only_bind (only_ask .deadlinePassed trivial) ?_
      rintro (_ | _)
      · exact Dialogue.only_bind (only_ask .sleep trivial) fun _ => trivial
      · exact trivial
  have hawait : Dialogue.Only Quiet (awaitOnce request) := by
    refine Dialogue.only_bind (only_ask (.await request) trivial) ?_
    rintro ((error | value) | _ | _)
    · exact trivial
    · exact trivial
    · exact trivial
    · exact only_unlessCancelled trivial
  refine Dialogue.only_andThen (only_ask _ trivial) fun _ => ?_
  refine Dialogue.only_andThen (only_untilDone hlook) fun _ => ?_
  refine Dialogue.only_andThen (only_ask _ trivial) fun addresses => only_unlessCancelled ?_
  refine Dialogue.only_bind (only_ask _ trivial) fun _ => ?_
  exact Dialogue.only_andThen (only_ask _ trivial) fun _ => only_untilDone hawait

/-! ## One tunnel at a time -/

/-- Certain tunnels are standing, and `n` more may be begun. -/
structure Holds (tunnels : List String) (n : ℕ) (past : List Event) : Prop where
  orderly : Dialogue.Always Orderly past
  standing : standing past = tunnels
  few : (activated past).length + n ≤ MAX_ATTEMPTS
  checked : Checked past

namespace Holds

variable {tunnels : List String} {n : ℕ} {past : List Event} {uuid : String}

theorem quiet (h : Holds tunnels n past) (query : Query) (hquiet : Quiet query)
    (answer : query.Answer) : Holds tunnels n (⟨query, answer⟩ :: past) where
  orderly := ⟨orderly_quiet answer past hquiet, h.orderly⟩
  standing := (standing_quiet answer past hquiet).trans h.standing
  few := by
    rw [activated_quiet answer past hquiet]
    exact h.few
  checked :=
    { asked := fun query hquery => List.mem_cons_of_mem _ (h.checked.asked query hquery)
      allowed := List.forall_mem_cons.mpr
        ⟨not_forbids_quiet answer hquiet, h.checked.allowed⟩ }

theorem connect (h : Holds [] (n + 1) past) (answer : (Query.connect uuid).Answer) :
    Holds [uuid] n (⟨.connect uuid, answer⟩ :: past) where
  orderly := by
    refine ⟨⟨h.standing, ?_, h.checked⟩, h.orderly⟩
    have hfew := h.few
    omega
  standing := congrArg (uuid :: ·) h.standing
  few := by
    have hfew := h.few
    show (activated past).length + 1 + n ≤ MAX_ATTEMPTS
    omega
  checked :=
    { asked := fun query hquery => List.mem_cons_of_mem _ (h.checked.asked query hquery)
      allowed := List.forall_mem_cons.mpr ⟨id, h.checked.allowed⟩ }

theorem disconnected (h : Holds [uuid] n past) (before : List Change) :
    Holds [] n (⟨.disconnectUuid uuid, before, .ok (.ok ())⟩ :: past) where
  orderly := ⟨trivial, h.orderly⟩
  standing := by
    show (Recovery.standing past).erase uuid = []
    rw [h.standing]
    exact List.erase_cons_head ..
  few := h.few
  checked :=
    { asked := fun query hquery => List.mem_cons_of_mem _ (h.checked.asked query hquery)
      allowed := List.forall_mem_cons.mpr ⟨id, h.checked.allowed⟩ }

end Holds

/-- Nothing is relied on. -/
abbrev Kept {α : Type} (task : Task α) (past : List Event) (post : α → List Event → Prop) : Prop :=
  Dialogue.Keeps (fun _ => True) (Dialogue.Always Orderly) task past post

theorem kept_answer {α : Type} {query : Query} {next : query.Reply → Task α} {past : List Event}
    {post : α → List Event → Prop} (hsafe : Dialogue.Always Orderly past)
    (h : ∀ answer : query.Answer, Kept (next answer.2) (⟨query, answer⟩ :: past) post) :
    Kept (ask query >>= next) past post :=
  Dialogue.keeps_ask Dialogue.closed_true hsafe fun answer _ => h answer

/-- A tunnel is removed before the next candidate. -/
theorem through_kept (op : Operation) (request : ApiRequest) (uuid : String) {n : ℕ}
    {past : List Event} (h : Holds [] (n + 1) past) :
    Kept (through op request uuid) past fun r past' =>
      r.elim (Cleaned · past') fun _ => Holds [] n past' := by
  refine kept_answer h.orderly fun answer => ?_
  have hbegun := h.connect answer
  refine Dialogue.keeps_bind ((only_attempt op request uuid).keeps (Holds [uuid] n)
    (fun _ h => h.orderly) (fun query answer _ hquiet h => h.quiet query hquiet answer) hbegun) ?_
    Dialogue.closed_true
  intro attempted past' _ hattempted
  refine kept_answer hattempted.orderly fun answer => ?_
  have hstage := hattempted.quiet (.stage op.method "guest_hole.cleaning_up" false)
    trivial answer
  refine kept_answer hstage.orderly ?_
  rintro ⟨before, error | error | ⟨⟩⟩
  · refine Dialogue.keeps_pure ⟨trivial, hstage.orderly⟩ (.inr ?_)
    exact ⟨uuid, before, _, hstage.standing, .inl ⟨error, rfl, rfl⟩⟩
  · refine Dialogue.keeps_pure ⟨trivial, hstage.orderly⟩ (.inr ?_)
    exact ⟨uuid, before, _, hstage.standing, .inr ⟨error, rfl, rfl⟩⟩
  · have hremoved := hstage.disconnected before
    rcases attempted with error | value
    · show Kept (if isFinal error.code then _ else _) _ _
      split_ifs
      · exact Dialogue.keeps_pure hremoved.orderly (.inl hremoved.standing)
      · exact Dialogue.keeps_pure hremoved.orderly hremoved
    · exact Dialogue.keeps_pure hremoved.orderly (.inl hremoved.standing)

/-- No more tunnels are begun than there are candidates. -/
theorem candidates_kept (op : Operation) (request : ApiRequest) (lastError : NativeError)
    (targets : List Endpoint) {past : List Event} (h : Holds [] targets.length past) :
    Kept (candidates op request lastError targets) past Cleaned := by
  induction targets generalizing lastError past with
  | nil => exact Dialogue.keeps_pure h.orderly (.inl h.standing)
  | cons target targets ih =>
      refine kept_answer h.orderly ?_
      rintro ⟨before, _ | _⟩
      · have hchecked := h.quiet .cancelled trivial (before, false)
        refine kept_answer hchecked.orderly fun answer => ?_
        have hstage := hchecked.quiet
          (.stage op.method "guest_hole.connecting" true) trivial answer
        refine kept_answer hstage.orderly ?_
        rintro ⟨before', error | uuid⟩
        · have hguest := hstage.quiet (.guest target) trivial (before', .error error)
          exact Dialogue.keeps_pure hguest.orderly (.inl hguest.standing)
        · have hguest := hstage.quiet (.guest target) trivial (before', .ok uuid)
          refine Dialogue.keeps_bind (through_kept op request uuid hguest) ?_ Dialogue.closed_true
          rintro (result | error) past' hsafe hthrough
          · exact Dialogue.keeps_pure hsafe hthrough
          · exact ih error hthrough
      · have hchecked := h.quiet .cancelled trivial (before, true)
        exact Dialogue.keeps_pure hchecked.orderly (.inl hchecked.standing)

/-- The initial check begins nothing, and a run that goes on after it is allowed to. -/
theorem initialCheck_kept (before : List Change) :
    Kept initialCheck [⟨.cancelled, before, false⟩] fun result past =>
      Dialogue.Always Orderly past ∧ standing past = [] ∧
        (result = .ok () → Holds [] MAX_ATTEMPTS past) := by
  refine kept_answer ⟨trivial, trivial⟩ ?_
  rintro ⟨before₁, error | observation⟩
  · exact Dialogue.keeps_pure ⟨trivial, trivial, trivial⟩ ⟨⟨trivial, trivial, trivial⟩, rfl, nofun⟩
  have horderly₁ : Dialogue.Always Orderly
      [⟨.observe, before₁, .ok observation⟩, ⟨.cancelled, before, false⟩] :=
    ⟨trivial, trivial, trivial⟩
  show Kept (if observation.state ≠ .disconnected then _ else _) _ _
  split_ifs with hstate
  · exact Dialogue.keeps_pure horderly₁ ⟨horderly₁, rfl, nofun⟩
  refine kept_answer horderly₁ ?_
  rintro ⟨before₂, error | interfaces⟩
  · exact Dialogue.keeps_pure ⟨trivial, horderly₁⟩ ⟨⟨trivial, horderly₁⟩, rfl, nofun⟩
  show Kept (if interfaces ≠ [] then _ else _) _ _
  split_ifs with hinterfaces
  · exact Dialogue.keeps_pure ⟨trivial, horderly₁⟩ ⟨⟨trivial, horderly₁⟩, rfl, nofun⟩
  refine kept_answer ⟨trivial, horderly₁⟩ ?_
  rintro ⟨before₃, error | _ | _⟩
  · exact Dialogue.keeps_pure ⟨trivial, trivial, horderly₁⟩
      ⟨⟨trivial, trivial, horderly₁⟩, rfl, nofun⟩
  · refine Dialogue.keeps_pure ⟨trivial, trivial, horderly₁⟩
      ⟨⟨trivial, trivial, horderly₁⟩, rfl, fun _ => ⟨⟨trivial, trivial, horderly₁⟩, rfl, ?_, ?_⟩⟩
    · exact le_rfl
    · refine ⟨by simp, ?_⟩
      rintro event (_ | ⟨_, _ | ⟨_, _ | ⟨_, _ | ⟨_, ⟨⟩⟩⟩⟩⟩)
      · exact fun hblocked => hblocked rfl
      · exact fun hconflict => hconflict (by rw [not_not.mp hinterfaces])
      · exact fun hup => hup observation rfl (not_not.mp hstate)
      · exact id
  · exact Dialogue.keeps_pure ⟨trivial, trivial, horderly₁⟩
      ⟨⟨trivial, trivial, horderly₁⟩, rfl, nofun⟩

theorem run_kept (op : Operation) (request : ApiRequest) : Kept (run op request) [] Cleaned := by
  refine kept_answer trivial ?_
  rintro ⟨before, _ | _⟩
  · refine Dialogue.keeps_andThen Dialogue.closed_true (initialCheck_kept before) ?_ ?_
    · exact fun error past _ hcheck => .inl hcheck.2.1
    · intro _ past _ hcheck
      have hholds := hcheck.2.2 rfl
      refine kept_answer hholds.orderly ?_
      rintro ⟨before', error | endpoints⟩
      · have hread := hholds.quiet .endpoints trivial (before', .error error)
        exact Dialogue.keeps_pure hread.orderly (.inl hread.standing)
      · have hread := hholds.quiet .endpoints trivial (before', .ok endpoints)
        refine candidates_kept op request unavailable _ { hread with few := ?_ }
        have hfew := hread.few
        have hlength := endpoints.length_take_le MAX_ATTEMPTS
        omega
  · exact Dialogue.keeps_pure ⟨trivial, trivial⟩ (.inl rfl)

/-- **In every history of a run, a tunnel is begun only when no other one is standing, fewer than five
have been begun and the initial check has found no VPN and no kill switch; when the run returns none is
standing, unless the removal of the last one has failed and the result says so.** -/
theorem run_orderly {op : Operation} {request : ApiRequest} {n : ℕ}
    {rest : Task (NativeResult Value)} {past : List Event}
    (h : Dialogue.Talks n (run op request) [] rest past) :
    Dialogue.Always Orderly past ∧ ∀ result, rest = .pure result → Cleaned result past :=
  run_kept op request n rest past h trivial

/-! ## What a run is told -/

/-- `cancelled()` -/
def Query.isCheck : Query → Bool
  | .cancelled => true
  | _ => false

/-- The activation of a tunnel -/
def Query.isConnect : Query → Bool
  | .connect _ => true
  | _ => false

/-- The steps between the check before a candidate and the activation of its tunnel. -/
def Query.leadsToTunnel : Query → Bool
  | .stage _ text _ => text = "guest_hole.connecting"
  | .guest _ | .connect _ => true
  | _ => false

/-- The reply to a check. -/
def checkReply : Event → Bool
  | ⟨.cancelled, _, reply⟩ => reply
  | _ => false

section requests

variable (op : Operation) (first : Scene)

/-- A check for a cancellation is answered as things are. -/
def Truthful (event : Event) (past : List Event) : Prop :=
  event.1.isCheck = true → checkReply event = (sceneAfter op first (event :: past)).cancelled op

/-- No stage has been written over a request to cancel when the run checks for one, and none comes
between the check before a candidate and the activation of its tunnel. -/
def Undisturbed (event : Event) (past : List Event) : Prop :=
  (event.1.isCheck = true → (sceneAfter op first (event :: past)).overwritten = false) ∧
    (event.1.leadsToTunnel = true →
      (sceneAfter op first (event :: past)).requested = (sceneAfter op first past).requested)

/-- The counters of the coordinator and of the recovery have not wrapped. -/
def Few (scene : Scene) : Prop :=
  scene.world.begun.length < 2 ^ 64 ∧ scene.cancels < 2 ^ 64

/-- No tunnel is begun after a request to cancel. -/
def Heeds (event : Event) (past : List Event) : Prop :=
  event.1.isConnect = true → (sceneAfter op first (event :: past)).requested = false

instance (event : Event) (past : List Event) : Decidable (Truthful op first event past) :=
  inferInstanceAs (Decidable (_ → _))

instance (event : Event) (past : List Event) : Decidable (Undisturbed op first event past) :=
  inferInstanceAs (Decidable (_ ∧ _))

instance (event : Event) (past : List Event) : Decidable (Heeds op first event past) :=
  inferInstanceAs (Decidable (_ → _))

instance (scene : Scene) : Decidable (Few scene) := inferInstanceAs (Decidable (_ ∧ _))

/-- A run has come to `rest`, and its checks were answered as things were. -/
def History (request : ApiRequest) (rest : Task (NativeResult Value)) (past : List Event) : Prop :=
  (∃ n, Dialogue.Talks n (run op request) [] rest past) ∧
    Dialogue.Always (Truthful op first) past

end requests

/-- What is known of a scene: a request that no stage was written over is still to be read off. -/
structure Sound (op : Operation) (scene : Scene) : Prop where
  accounted : ∃ records, Accounted scene.world records
  begun : op.id ∈ scene.world.begun
  generation : scene.generation = op.generation + UInt64.ofNat scene.cancels
  readable : scene.asked = true → scene.overwritten = false →
    ∃ stage, standsForCancelling stage = true ∧ StageIs scene.world op.id stage

section sound

variable {op : Operation} {scene : Scene}

@[simp] theorem call_world (op : Operation) (scene : Scene) (call : Call) :
    (scene.call op call).world = scene.world.call call := by
  unfold Scene.call
  dsimp only
  split
  · rfl
  · split_ifs <;> rfl

@[simp] theorem call_generation (op : Operation) (scene : Scene) (call : Call) :
    (scene.call op call).generation = scene.generation := by
  unfold Scene.call
  dsimp only
  split
  · rfl
  · split_ifs <;> rfl

@[simp] theorem call_cancels (op : Operation) (scene : Scene) (call : Call) :
    (scene.call op call).cancels = scene.cancels := by
  unfold Scene.call
  dsimp only
  split
  · rfl
  · split_ifs <;> rfl

/-- A call of the coordinator writes no stage of the operation, or one that decides. -/
theorem call_cases (op : Operation) (scene : Scene) (call : Call) :
    (scene.world.stageFor call op.id = none ∧ (scene.call op call).asked = scene.asked ∧
        (scene.call op call).overwritten = scene.overwritten) ∨
      ∃ stage, scene.world.stageFor call op.id = some stage ∧
        if standsForCancelling stage then
          (scene.call op call).asked = true ∧ (scene.call op call).overwritten = false
        else
          (scene.call op call).asked = scene.asked ∧
            (scene.call op call).overwritten = scene.asked := by
  unfold Scene.call
  dsimp only
  split
  · next hnone => exact .inl ⟨hnone, rfl, rfl⟩
  · next stage hstage =>
      refine .inr ⟨stage, hstage, ?_⟩
      split_ifs
      · exact ⟨rfl, rfl⟩
      · exact ⟨rfl, rfl⟩

theorem Sound.call (h : Sound op scene) (call : Call)
    (hfew : (scene.world.call call).begun.length < 2 ^ 64) : Sound op (scene.call op call) := by
  obtain ⟨records, haccounted⟩ := h.accounted
  refine ⟨?_, ?_, ?_, ?_⟩
  · rw [call_world]
    exact ⟨_, haccounted.call call⟩
  · rw [call_world]
    exact (begun_grows _ call).subset h.begun
  · rw [call_generation, call_cancels]
    exact h.generation
  · intro hasked hreadable
    rw [call_world]
    rcases call_cases op scene call with ⟨hnone, hsame, hsame'⟩ | ⟨stage, hstage, hdecides⟩
    · rw [hsame] at hasked
      rw [hsame'] at hreadable
      obtain ⟨stage, hstands, hstage⟩ := h.readable hasked hreadable
      exact ⟨stage, hstands, hstage.call haccounted call hfew h.begun hnone⟩
    · split_ifs at hdecides with hstands
      · exact ⟨stage, hstands, stageIs_of_written haccounted call hfew hstage⟩
      · rw [hdecides.1] at hasked
        rw [hdecides.2, hasked] at hreadable
        cases hreadable

theorem Sound.change (h : Sound op scene) (change : Change)
    (hfew : (scene.change op change).world.begun.length < 2 ^ 64) :
    Sound op (scene.change op change) := by
  cases change with
  | call call =>
      refine h.call call ?_
      rw [← call_world op scene call]
      exact hfew
  | cancel =>
      refine ⟨h.accounted, h.begun, ?_, h.readable⟩
      show scene.generation + 1 = op.generation + UInt64.ofNat (scene.cancels + 1)
      rw [h.generation, UInt64.ofNat_add, UInt64.add_assoc]
      rfl
  | dropRequest => exact ⟨h.accounted, h.begun, h.generation, h.readable⟩

/-- The counters only go up. -/
theorem few_of_change (change : Change) (h : Few (scene.change op change)) : Few scene := by
  cases change with
  | call call =>
      obtain ⟨hbegun, hcancels⟩ := h
      unfold Scene.change at hbegun hcancels
      rw [call_world] at hbegun
      rw [call_cancels] at hcancels
      exact ⟨lt_of_le_of_lt (begun_grows scene.world call).length_le hbegun, hcancels⟩
  | cancel => exact ⟨h.1, Nat.lt_of_succ_lt h.2⟩
  | dropRequest => exact ⟨h.1, h.2⟩

theorem few_of_changes (changes : List Change)
    (h : Few (changes.foldl (Scene.change op) scene)) : Few scene := by
  induction changes generalizing scene with
  | nil => exact h
  | cons change changes ih => exact few_of_change change (ih h)

theorem Sound.changes (h : Sound op scene) (changes : List Change)
    (hfew : Few (changes.foldl (Scene.change op) scene)) :
    Sound op (changes.foldl (Scene.change op) scene) := by
  induction changes generalizing scene with
  | nil => exact h
  | cons change changes ih => exact ih (h.change change (few_of_changes changes hfew).1) hfew

theorem closed_few (op : Operation) (first : Scene) :
    Dialogue.Closed fun past : List Event => Few (sceneAfter op first past) :=
  fun event _ h => few_of_changes (Recovery.changes event) h

theorem Sound.after {first : Scene} (h : Sound op first) {past : List Event}
    (hfew : Few (sceneAfter op first past)) : Sound op (sceneAfter op first past) := by
  induction past with
  | nil => exact h
  | cons event past ih =>
      exact (ih (closed_few op first event past hfew)).changes (Recovery.changes event) hfew

/-- An operation that has just been authorised is at no stage of a cancellation. -/
theorem sound_of_operation {records : List OperationRecord} (haccounted : Accounted scene.world records)
    (hcancels : scene.cancels = 0) (hasked : scene.asked = false)
    (hop : scene.operation = some op) : Sound op scene := by
  unfold Scene.operation at hop
  split at hop
  · cases hop
  next active hactive =>
    split_ifs at hop
    obtain rfl := Option.some.inj hop
    refine ⟨⟨records, haccounted⟩, ?_, ?_, ?_⟩
    · refine haccounted.mem_begun_iff.mpr (.inl (List.mem_map.mpr ⟨active, ?_, rfl⟩))
      have hmem := List.mem_of_find?_eq_some hactive
      rw [Scene.active, haccounted.published] at hmem
      exact hmem
    · rw [hcancels]
      exact (UInt64.add_zero _).symm
    · intro htrue
      rw [hasked] at htrue
      cases htrue

/-- **A check that finds no cancellation is right, unless a stage was written over the request.** -/
theorem requested_eq_false (h : Sound op scene) (hfew : Few scene)
    (hcancelled : scene.cancelled op = false) (hreadable : scene.overwritten = false) :
    scene.requested = false := by
  unfold Scene.cancelled at hcancelled
  simp only [Bool.or_eq_false_iff, Bool.not_eq_false', decide_eq_false_iff_not, not_not] at hcancelled
  obtain ⟨⟨-, hgeneration⟩, hactive⟩ := hcancelled
  have hcancels : scene.cancels = 0 := by
    have hzero : UInt64.ofNat scene.cancels = 0 := by
      rw [h.generation] at hgeneration
      exact UInt64.add_eq_left.mp hgeneration
    have hnat := congrArg UInt64.toNat hzero
    rw [UInt64.toNat_ofNat', Nat.mod_eq_of_lt hfew.2] at hnat
    exact hnat
  have hasked : scene.asked = false := by
    by_contra hne
    obtain ⟨stage, hstands, hstage⟩ := h.readable (Bool.eq_true_of_not_eq_false hne) hreadable
    obtain ⟨records, haccounted⟩ := h.accounted
    obtain ⟨active, hmem, hat⟩ := List.any_eq_true.mp hactive
    rw [Scene.active, haccounted.published] at hmem
    simp only [Bool.and_eq_true, decide_eq_true_eq, Bool.not_eq_true'] at hat
    rw [hstage active hmem hat.1, hstands] at hat
    cases hat.2
  unfold Scene.requested
  rw [hasked, hcancels]
  rfl

end sound

/-! ## Requests to cancel -/

section heeds

variable (op : Operation) (first : Scene)

/-- What is relied on. -/
def Told (past : List Event) : Prop :=
  Dialogue.Always (Truthful op first) past ∧ Dialogue.Always (Undisturbed op first) past ∧
    Few (sceneAfter op first past)

theorem closed_told : Dialogue.Closed (Told op first) :=
  (Dialogue.closed_always _).and ((Dialogue.closed_always _).and (closed_few op first))

abbrev Heeding {α : Type} (task : Task α) (past : List Event) (post : α → List Event → Prop) : Prop :=
  Dialogue.Keeps (Told op first) (Dialogue.Always (Heeds op first)) task past post

variable {op first} {past : List Event}

/-- A step that begins no tunnel needs no check before it. -/
theorem heeding_answer {α : Type} {query : Query} {next : query.Reply → Task α}
    {post : α → List Event → Prop} (hsafe : Dialogue.Always (Heeds op first) past)
    (hquery : query.isConnect = false)
    (h : ∀ answer : query.Answer, Told op first (⟨query, answer⟩ :: past) →
      Dialogue.Always (Heeds op first) (⟨query, answer⟩ :: past) →
      Heeding op first (next answer.2) (⟨query, answer⟩ :: past) post) :
    Heeding op first (ask query >>= next) past post := by
  refine Dialogue.keeps_ask (closed_told op first) hsafe fun answer htold => ?_
  refine h answer htold ⟨fun hconnect => ?_, hsafe⟩
  rw [hquery] at hconnect
  cases hconnect

theorem heeding_of_only {α : Type} {task : Task α}
    (h : Dialogue.Only (·.isConnect = false) task)
    (hsafe : Dialogue.Always (Heeds op first) past) :
    Heeding op first task past fun _ past' => Dialogue.Always (Heeds op first) past' := by
  refine h.keeps (Dialogue.Always (Heeds op first)) (fun _ hsafe => hsafe) ?_ hsafe
  intro query answer past hquery hsafe
  refine ⟨fun hconnect => ?_, hsafe⟩
  rw [hquery] at hconnect
  cases hconnect

theorem only_initialCheck : Dialogue.Only (·.isConnect = false) initialCheck := by
  refine Dialogue.only_andThen ⟨rfl, fun _ => trivial⟩ fun observation => ?_
  split_ifs
  · exact trivial
  refine Dialogue.only_andThen ⟨rfl, fun _ => trivial⟩ fun interfaces => ?_
  split_ifs
  · exact trivial
  refine Dialogue.only_andThen ⟨rfl, fun _ => trivial⟩ ?_
  rintro (_ | _) <;> exact trivial

/-- A tunnel that is begun before a request. -/
theorem through_heeds (request : ApiRequest) (uuid : String)
    (hsafe : Dialogue.Always (Heeds op first) past)
    (hrequested : (sceneAfter op first past).requested = false) :
    Heeding op first (through op request uuid) past fun _ _ => True := by
  have hquiet : ∀ query, Quiet query → query.isConnect = false := by
    intro query hquery
    cases query <;> first | exact hquery.elim | rfl
  refine Dialogue.keeps_ask (closed_told op first) hsafe fun answer htold => ?_
  have hbegun : Dialogue.Always (Heeds op first) (⟨.connect uuid, answer⟩ :: past) :=
    ⟨fun _ => (htold.2.1.1.2 rfl).trans hrequested, hsafe⟩
  refine Dialogue.keeps_bind (d := attempt op request uuid)
    (heeding_of_only ((only_attempt op request uuid).mono hquiet) hbegun) ?_ (closed_told op first)
  intro attempted past' hattempted _
  refine heeding_answer hattempted rfl fun answer _ hstage => ?_
  refine heeding_answer hstage rfl ?_
  rintro ⟨before, error | error | ⟨⟩⟩ _ hremoved
  · exact Dialogue.keeps_pure hremoved trivial
  · exact Dialogue.keeps_pure hremoved trivial
  · rcases attempted with error | value
    · show Heeding op first (if isFinal error.code then _ else _) _ _
      split_ifs <;> exact Dialogue.keeps_pure hremoved trivial
    · exact Dialogue.keeps_pure hremoved trivial

/-- The check before a candidate holds until its tunnel is begun. -/
theorem candidates_heed (hsound : Sound op first) (request : ApiRequest) (lastError : NativeError)
    (targets : List Endpoint) (hsafe : Dialogue.Always (Heeds op first) past) :
    Heeding op first (candidates op request lastError targets) past fun _ _ => True := by
  induction targets generalizing lastError past with
  | nil => exact Dialogue.keeps_pure hsafe trivial
  | cons target targets ih =>
      refine heeding_answer hsafe rfl ?_
      rintro ⟨before, _ | _⟩ htold hchecked
      · have hrequested := requested_eq_false (hsound.after htold.2.2) htold.2.2
          (htold.1.1 rfl).symm (htold.2.1.1.1 rfl)
        refine heeding_answer hchecked rfl fun answer htold hstage => ?_
        have hconnecting : (Query.stage op.method "guest_hole.connecting" true).leadsToTunnel := by
          simp [Query.leadsToTunnel]
        have hrequested := (htold.2.1.1.2 hconnecting).trans hrequested
        refine heeding_answer hstage rfl ?_
        rintro ⟨before', error | uuid⟩ htold hguest
        · exact Dialogue.keeps_pure hguest trivial
        · have hrequested := (htold.2.1.1.2 rfl).trans hrequested
          refine Dialogue.keeps_bind (d := through op request uuid)
            (through_heeds request uuid hguest hrequested) ?_ (closed_told op first)
          rintro (result | error) past' hsafe' _
          · exact Dialogue.keeps_pure hsafe' trivial
          · exact ih error hsafe'
      · exact Dialogue.keeps_pure hchecked trivial

theorem run_heeds (hsound : Sound op first) (request : ApiRequest) :
    Heeding op first (run op request) [] fun _ _ => True := by
  refine heeding_answer trivial rfl ?_
  rintro ⟨before, _ | _⟩ _ hsafe
  · refine Dialogue.keeps_andThen (closed_told op first)
      (heeding_of_only only_initialCheck hsafe) (fun _ _ _ _ => trivial) ?_
    intro _ past hsafe _
    refine heeding_answer hsafe rfl ?_
    rintro ⟨before', error | endpoints⟩ _ hread
    · exact Dialogue.keeps_pure hread trivial
    · exact candidates_heed hsound request unavailable _ hread
  · exact Dialogue.keeps_pure hsafe trivial

end heeds

/-- A request that attaches to the operation asks it to cancel. -/
theorem asked_of_attaches {op : Operation} {scene : Scene} {call : Call} {lease : OperationLease}
    (h : Attaches scene.world call lease) (hid : lease.id = op.id) :
    (scene.call op call).asked = true := by
  obtain ⟨-, stage, hstage, hcancelling⟩ := attaches_spec h
  have hall : ∀ stage ∈ ["tunnel.cancelling", "auth.cancelling_security_key"],
      standsForCancelling stage = true := by
    decide +kernel
  rw [hid] at hstage
  rcases call_cases op scene call with ⟨hnone, -⟩ | ⟨stage', hstage', hdecides⟩
  · rw [hnone] at hstage
    cases hstage
  · obtain rfl := Option.some.inj (hstage'.symm.trans hstage)
    rw [if_pos (hall stage' hcancelling)] at hdecides
    exact hdecides.1

/-- The agent after some calls. -/
def sceneOf (state : StateSnapshot) (calls : List Call) (generation : UInt64) : Scene where
  world := after state calls
  generation := generation

/-- **A history of a run after its operation was authorised: at most five tunnels, at most one at a
time and each removed before anything else is tried, none where the initial check forbids it; and none
after a request to cancel, as long as no stage is written over a request before a check and no request
comes between the check before a candidate and the activation of its tunnel.** -/
theorem run_hygienic {state : StateSnapshot} (hstate : state.operations = {}) {calls : List Call}
    {generation : UInt64} {op : Operation} {request : ApiRequest}
    (hop : (sceneOf state calls generation).operation = some op)
    {rest : Task (NativeResult Value)} {past : List Event}
    (h : History op (sceneOf state calls generation) request rest past) :
    (Dialogue.Always Orderly past ∧ ∀ result, rest = .pure result → Cleaned result past) ∧
      (Few (sceneAfter op (sceneOf state calls generation) past) →
        Dialogue.Always (Undisturbed op (sceneOf state calls generation)) past →
        Dialogue.Always (Heeds op (sceneOf state calls generation)) past) := by
  obtain ⟨⟨n, htalks⟩, htruthful⟩ := h
  refine ⟨run_orderly htalks, fun hfew hundisturbed => ?_⟩
  have hsound : Sound op (sceneOf state calls generation) :=
    sound_of_operation (accounted hstate calls) rfl rfl hop
  exact (run_heeds hsound request n rest past htalks ⟨htruthful, hundisturbed, hfew⟩).1

/-- The first connection, and its recovery. -/
def firstOperation : Operation := ⟨operationId 1, "connection.connect", 0⟩

def firstScene : Scene := sceneOf {} firstConnect 0

def certificateRequest : ApiRequest := ⟨"POST", "/vpn/v1/certificate", none, none⟩

/-- Two candidates, and a cancellation while the run sleeps or waits for DNS, which then fails. -/
def cancelling (observed : TunnelState) : (query : Query) → List Event → query.Answer
  | .cancelled, past => ([], (sceneAfter firstOperation firstScene past).cancelled firstOperation)
  | .observe, _ => ([], .ok ⟨.disconnected, none, false⟩)
  | .conflictingInterfaces, _ => ([], .ok [])
  | .networkBlocked, _ => ([], .ok false)
  | .endpoints, _ => ([], .ok [⟨"CH#1", "192.0.2.1", "key"⟩, ⟨"CH#2", "192.0.2.2", "key"⟩])
  | .stage .., _ => ([], 3)
  | .guest target, _ => ([], .ok target.name)
  | .connect _, _ => ([], ())
  | .connected _, _ => ([], .ok ())
  | .observeUuid uuid, _ => ([], .ok ⟨observed, some uuid, true⟩)
  | .deadlinePassed, _ => ([], false)
  | .sleep, _ => ([.call firstCancel], ())
  | .resolveApi, _ =>
    ([.call firstCancel], .error
      { code := "guest_hole_dns_failed"
        message := "The recovery tunnel could not resolve the Proton API"
        retryable := true
        source := some "deadline has elapsed" })
  | .forGuestHole _, _ => ([], .ok ())
  | .await _, _ => ([], .tick)
  | .disconnectUuid _, _ => ([], .ok (.ok ()))

/-- The history of the run, after some steps. -/
def cancelledRun (observed : TunnelState) (n : ℕ) : Task (NativeResult Value) × List Event :=
  Dialogue.drive (cancelling observed) n (run firstOperation certificateRequest) []

theorem history_cancelledRun (observed : TunnelState) (n : ℕ)
    (htruthful : Dialogue.Always (Truthful firstOperation firstScene) (cancelledRun observed n).2) :
    History firstOperation firstScene certificateRequest (cancelledRun observed n).1
      (cancelledRun observed n).2 :=
  ⟨Dialogue.talks_drive (cancelling observed) n (run firstOperation certificateRequest) [],
    htruthful⟩

theorem operation_firstScene : firstScene.operation = some firstOperation := by
  decide +kernel

/-- The run sleeps when the request comes, and ends after the removal of its first tunnel. -/
theorem run_hygienic_asleep :
    (Dialogue.Always Orderly (cancelledRun .connecting 30).2 ∧
      ∀ result, (cancelledRun .connecting 30).1 = .pure result →
        Cleaned result (cancelledRun .connecting 30).2) ∧
      activated (cancelledRun .connecting 30).2 = ["CH#1"] ∧
      (sceneAfter firstOperation firstScene (cancelledRun .connecting 30).2).asked = true ∧
      Dialogue.Always (Heeds firstOperation firstScene) (cancelledRun .connecting 30).2 := by
  have hhistory := history_cancelledRun .connecting 30 (by decide +kernel)
  have hrun := run_hygienic rfl operation_firstScene hhistory
  exact ⟨hrun.1, by decide +kernel, by decide +kernel,
    hrun.2 (by decide +kernel) (by decide +kernel)⟩

/-- **The operation is asked to cancel while the run waits for DNS. The clean-up writes its stage over
the request, and the tunnel of the next candidate is begun.** -/
theorem begins_tunnel_after_cancellation :
    ¬ ∀ (state : StateSnapshot) (calls : List Call) (generation : UInt64) (op : Operation)
      (request : ApiRequest) (rest : Task (NativeResult Value)) (past : List Event),
      state.operations = {} → (sceneOf state calls generation).operation = some op →
      History op (sceneOf state calls generation) request rest past →
      Few (sceneAfter op (sceneOf state calls generation) past) →
      (Dialogue.Always Orderly past ∧ ∀ result, rest = .pure result → Cleaned result past) ∧
        Dialogue.Always (Heeds op (sceneOf state calls generation)) past := by
  intro h
  have hhistory := history_cancelledRun .connected 20 (by decide +kernel)
  have hheeds := (h {} firstConnect 0 firstOperation certificateRequest _ _ rfl
    operation_firstScene hhistory (by decide +kernel)).2
  have hnot : ¬ Dialogue.Always (Heeds firstOperation firstScene)
      (cancelledRun .connected 20).2 := by
    decide +kernel
  exact hnot hheeds

end ProtonVpnOmarchy.Agent.Recovery
