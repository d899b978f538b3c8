import ProtonVpnOmarchy.Agent.Operations.Runs

/-!
# Operations are coordinated

* `operations_coordinated` — after every run of fewer than `2 ^ 64` operations the active ones do not
  conflict, every operation that began leaves them once, through its own lease, and the last ones that
  finished are listed and published.
-/

namespace ProtonVpnOmarchy.Agent.Operations

open Lib

/-- The `n`-th call takes an operation off the active ones. -/
def Leaves (state : StateSnapshot) (calls : List Call) (id : String) (n : ℕ) : Prop :=
  n < calls.length ∧ id ∈ (after state (calls.take n)).active.map (·.id) ∧
    id ∉ (after state (calls.take (n + 1))).active.map (·.id)

/-- The calls finish an operation through the lease that was given out when it began. -/
def FinishedByOwner (calls : List Call) (id : String) : Prop :=
  ∃ now result, .finish now (some (ownerLease id)) result ∈ calls

/-- What the coordinator is for. -/
structure Coordinated (state : StateSnapshot) (calls : List Call) : Prop where
  /-- No two active operations are incompatible. -/
  apart : (after state calls).active.Pairwise fun a b => domainsConflict a.domain b.domain = false
  running : ∀ operation ∈ (after state calls).active, operation.state = .running
  active_nodup : ((after state calls).active.map (·.id)).Nodup
  /-- An operation that began is active until its owner finishes it, and leaves once. -/
  leaves_once : ∀ id ∈ (after state calls).begun,
    (¬ FinishedByOwner calls id ∧ id ∈ (after state calls).active.map (·.id) ∧
      ∀ n, ¬ Leaves state calls id n) ∨
    (FinishedByOwner calls id ∧ id ∉ (after state calls).active.map (·.id) ∧
      ∃! n, Leaves state calls id n)
  /-- Only its own lease takes an operation off the active ones. -/
  leaves_by_owner : ∀ id n, Leaves state calls id n →
    ∃ now result, calls[n]? = some (.finish now (some (ownerLease id)) result)
  /-- The last operations that finished, the newest first. -/
  recent : (after state calls).registry.recent =
    (finished state calls).take RECENT_OPERATION_LIMIT
  recent_nodup : ((after state calls).registry.recent.map (·.id)).Nodup
  disjoint : ∀ operation ∈ (after state calls).active, ∀ operation' ∈
    (after state calls).registry.recent, operation.id ≠ operation'.id
  published : (after state calls).coordinator.state.operations =
    ⟨(after state calls).active, (after state calls).registry.recent⟩

/-! ## Leaving -/

theorem leaves_concat (state : StateSnapshot) (calls : List Call) (call : Call) (id : String)
    (n : ℕ) :
    Leaves state (calls ++ [call]) id n ↔
      Leaves state calls id n ∨ (n = calls.length ∧ id ∈ (after state calls).active.map (·.id) ∧
        id ∉ ((after state calls).call call).active.map (·.id)) := by
  unfold Leaves
  rw [List.length_append, List.length_singleton]
  rcases lt_trichotomy n calls.length with hlt | rfl | hgt
  · rw [List.take_append_of_le_length hlt.le, List.take_append_of_le_length hlt]
    constructor
    · rintro ⟨-, hbefore, hafter⟩
      exact .inl ⟨hlt, hbefore, hafter⟩
    · rintro (⟨-, hbefore, hafter⟩ | ⟨heq, -, -⟩)
      · exact ⟨by omega, hbefore, hafter⟩
      · omega
  · have htake : (calls ++ [call]).take (calls.length + 1) = calls ++ [call] :=
      List.take_of_length_le (by simp)
    rw [List.take_left, htake, after_concat]
    constructor
    · rintro ⟨-, hbefore, hafter⟩
      exact .inr ⟨rfl, hbefore, hafter⟩
    · rintro (⟨hlt, -, -⟩ | ⟨-, hbefore, hafter⟩)
      · omega
      · exact ⟨by omega, hbefore, hafter⟩
  · constructor
    · rintro ⟨hlt, -, -⟩
      omega
    · rintro (⟨hlt, -, -⟩ | ⟨heq, -, -⟩)
      · omega
      · omega

/-- A call takes an operation off the active ones only as its owner. -/
theorem finish_of_leaves {world : World} {call : Call} {id : String}
    (hbefore : id ∈ world.active.map (·.id)) (hafter : id ∉ (world.call call).active.map (·.id)) :
    ∃ now lease result, call = .finish now (some lease) result ∧ lease.ownsCompletion = true ∧
      lease.id = id := by
  have heffect := call_effect world call
  revert heffect hafter
  generalize world.call call = world'
  intro hafter heffect
  cases heffect with
  | idle hwritten hcompleted => exact absurd hbefore hafter
  | @edit call p f target stage leases hfound hidentity hstage hleases hwritten hcompleted =>
      have hids : (modifyFirst p f world.active).map (·.id) = world.active.map (·.id) :=
        map_modifyFirst (·.id) (fun operation => congrArg (·.1) (hidentity operation)) _
      exact absurd (hids ▸ hbefore) hafter
  | @begin now clientInstanceId method spec hspec hfree hwritten =>
      refine absurd ?_ hafter
      show id ∈ (world.active ++ [newOperation now clientInstanceId method spec
        (operationId world.registry.nextId)]).map (·.id)
      rw [List.map_append]
      exact List.mem_append_left _ hbefore
  | finish now lease result howns hfound =>
      refine ⟨now, lease, result, rfl, howns, ?_⟩
      by_contra hne
      obtain ⟨operation, hoperation, rfl⟩ := List.mem_map.mp hbefore
      refine hafter (List.mem_map.mpr ⟨operation, ?_, rfl⟩)
      exact (List.mem_eraseP_of_neg (by simpa using Ne.symm hne)).mpr hoperation

section run

variable {state : StateSnapshot} {calls : List Call}

/-- An operation that its owner finishes has finished. -/
theorem mem_finished_of_finishedByOwner (hstate : state.operations = {}) (h : Run state calls)
    {id : String} (hid : FinishedByOwner calls id) : id ∈ (finished state calls).map (·.id) := by
  obtain ⟨now, result, hmem⟩ := hid
  induction h with
  | start => exact absurd hmem List.not_mem_nil
  | @call calls h call hlease ih =>
      have haccounted := accounted hstate calls
      rw [finished_concat, List.map_append]
      rcases List.mem_append.mp hmem with hmem | hmem
      · exact List.mem_append_right _ (ih hmem)
      · obtain rfl := List.mem_singleton.mp hmem
        have hbegun : id ∈ (after state calls).begun := by
          refine List.mem_map.mpr ⟨ownerLease id, ?_, rfl⟩
          exact List.mem_filter.mpr ⟨hlease, rfl⟩
        rcases haccounted.mem_begun_iff.mp hbegun with hactive | hfinished
        · refine List.mem_append_left _ ?_
          obtain ⟨operation, hoperation, hoperationId⟩ := List.mem_map.mp hactive
          rcases hfound : (after state calls).active.find? (·.id = id) with _ | target
          · exact absurd (decide_eq_true hoperationId)
              (List.find?_eq_none.mp hfound operation hoperation)
          · have htarget : target.id = id := by simpa using List.find?_some hfound
            rw [completed_of_find now result rfl hfound]
            simp [id_complete, htarget]
        · exact List.mem_append_right _ hfinished

/-- The owner of an operation that is taken off the active ones. -/
theorem leaves_by_owner (hstate : state.operations = {}) (h : Run state calls) {id : String}
    {n : ℕ} (hleaves : Leaves state calls id n) :
    ∃ now result, calls[n]? = some (.finish now (some (ownerLease id)) result) := by
  induction h with
  | start => exact absurd hleaves.1 (Nat.not_lt_zero _)
  | @call calls h call hlease ih =>
      rcases (leaves_concat state calls call id n).mp hleaves with hleaves | ⟨rfl, hbefore, hafter⟩
      · obtain ⟨now, result, hcall⟩ := ih hleaves
        refine ⟨now, result, ?_⟩
        rw [List.getElem?_append_left hleaves.1]
        exact hcall
      · obtain ⟨now, lease, result, rfl, howns, rfl⟩ := finish_of_leaves hbefore hafter
        refine ⟨now, result, ?_⟩
        rw [List.getElem?_concat_length, ← (accounted hstate calls).owner lease hlease howns]

/-- An operation has not begun, is active and never left, or has finished and left once. -/
theorem leaves_cases (hstate : state.operations = {})
    (hfew : (after state calls).begun.length < 2 ^ 64) (id : String) :
    (id ∉ (after state calls).begun ∧ ∀ n, ¬ Leaves state calls id n) ∨
    (id ∈ (after state calls).active.map (·.id) ∧ ∀ n, ¬ Leaves state calls id n) ∨
    (id ∈ (finished state calls).map (·.id) ∧ ∃! n, Leaves state calls id n) := by
  induction calls using List.reverseRecOn with
  | nil => exact .inl ⟨List.not_mem_nil, fun n hleaves => absurd hleaves.1 (Nat.not_lt_zero _)⟩
  | append_singleton calls call ih =>
      have hbefore := accounted hstate calls
      have hafter := accounted hstate (calls ++ [call])
      have hfewer : (after state calls).begun.length < 2 ^ 64 := by
        refine lt_of_le_of_lt ?_ hfew
        rw [after_concat]
        exact (begun_grows _ call).length_le
      have hfinished : (finished state calls).map (·.id) ⊆
          (finished state (calls ++ [call])).map (·.id) := by
        rw [finished_concat, List.map_append]
        exact List.subset_append_right _ _
      -- What was neither active nor finished does not finish with this call.
      have hnew : id ∈ (finished state (calls ++ [call])).map (·.id) →
          id ∈ (after state calls).begun := by
        intro hid
        by_contra hbegun
        rw [hbefore.mem_begun_iff, not_or] at hbegun
        rw [finished_concat, List.map_append] at hid
        rcases List.mem_append.mp hid with hid | hid
        · obtain ⟨record, hrecord, rfl⟩ := List.mem_map.mp hid
          rw [Option.mem_toList] at hrecord
          obtain ⟨now, lease, result, operation, -, -, hfound, rfl⟩ := exists_of_completed hrecord
          refine hbegun.1 (List.mem_map.mpr ⟨operation, List.mem_of_find?_eq_some hfound, ?_⟩)
          rw [id_complete]
        · exact hbegun.2 hid
      rcases ih hfewer with ⟨hbegun, hnever⟩ | ⟨hactive, hnever⟩ | ⟨hdone, n, hleaves, hunique⟩
      · have hnever' : ∀ n, ¬ Leaves state (calls ++ [call]) id n := by
          intro n hleaves
          rcases (leaves_concat state calls call id n).mp hleaves with hleaves | ⟨-, hactive, -⟩
          · exact hnever n hleaves
          · exact hbegun (hbefore.mem_begun_iff.mpr (.inl hactive))
        by_cases hbegun' : id ∈ (after state (calls ++ [call])).begun
        · rcases hafter.mem_begun_iff.mp hbegun' with hactive | hdone
          · exact .inr (.inl ⟨hactive, hnever'⟩)
          · exact absurd (hnew hdone) hbegun
        · exact .inl ⟨hbegun', hnever'⟩
      · have hbegun : id ∈ (after state (calls ++ [call])).begun := by
          rw [after_concat]
          exact (begun_grows _ call).subset (hbefore.mem_begun_iff.mpr (.inl hactive))
        by_cases hactive' : id ∈ (after state (calls ++ [call])).active.map (·.id)
        · refine .inr (.inl ⟨hactive', ?_⟩)
          intro n hleaves
          rw [after_concat] at hactive'
          rcases (leaves_concat state calls call id n).mp hleaves with hleaves | ⟨-, -, hgone⟩
          · exact hnever n hleaves
          · exact hgone hactive'
        · have hdone := (hafter.mem_begun_iff.mp hbegun).resolve_left hactive'
          rw [after_concat] at hactive'
          refine .inr (.inr ⟨hdone, calls.length, ?_, ?_⟩)
          · exact (leaves_concat state calls call id _).mpr (.inr ⟨rfl, hactive, hactive'⟩)
          · intro m hm
            rcases (leaves_concat state calls call id m).mp hm with hm | ⟨rfl, -, -⟩
            · exact absurd hm (hnever m)
            · rfl
      · refine .inr (.inr ⟨hfinished hdone, n, ?_, ?_⟩)
        · exact (leaves_concat state calls call id n).mpr (.inl hleaves)
        · intro m hm
          rcases (leaves_concat state calls call id m).mp hm with hm | ⟨-, hactive, -⟩
          · exact hunique m hm
          · exact absurd hactive (hbefore.not_mem_active hfewer hdone)

/-- **After every run of fewer than `2 ^ 64` operations, whatever leases it used in whatever order,
the operations are coordinated.** -/
theorem operations_coordinated (hstate : state.operations = {}) (h : Run state calls)
    (hfew : (after state calls).begun.length < 2 ^ 64) : Coordinated state calls := by
  have haccounted := accounted hstate calls
  have hnodup := haccounted.nodup hfew
  have hrecent : ∀ operation ∈ (after state calls).registry.recent,
      operation ∈ finished state calls := by
    rw [haccounted.recent]
    exact fun operation hoperation => List.mem_of_mem_take hoperation
  refine ⟨haccounted.apart, haccounted.running, (List.nodup_append.mp hnodup).1, ?_,
    fun id n hleaves => leaves_by_owner hstate h hleaves, haccounted.recent, ?_, ?_,
    haccounted.published⟩
  · intro id hid
    rcases leaves_cases hstate hfew id with ⟨hbegun, -⟩ | ⟨hactive, hnever⟩ | ⟨hdone, n, hleaves, hn⟩
    · exact absurd hid hbegun
    · refine .inl ⟨?_, hactive, hnever⟩
      intro howner
      exact haccounted.not_mem_active hfew (mem_finished_of_finishedByOwner hstate h howner) hactive
    · refine .inr ⟨?_, haccounted.not_mem_active hfew hdone, n, hleaves, hn⟩
      obtain ⟨now, result, hcall⟩ := leaves_by_owner hstate h hleaves
      exact ⟨now, result, List.mem_of_getElem? hcall⟩
  · rw [haccounted.recent, List.map_take]
    exact (List.nodup_append.mp hnodup).2.1.sublist (List.take_sublist _ _)
  · intro operation hoperation operation' hoperation' heq
    refine haccounted.not_mem_active hfew (List.mem_map_of_mem (hrecent _ hoperation')) ?_
    rw [← heq]
    exact List.mem_map_of_mem hoperation

end run

/-- A connection that another client cancels, and that is finished twice. -/
def cancelledTwice : List Call :=
  [.begin 1 "panel" "connection.connect", .begin 2 "menu" "connection.cancel",
    .finish 3 (some (ownerLease (operationId 1))) (.ok ()),
    .finish 4 (some (ownerLease (operationId 1))) (.ok ())]

theorem operations_coordinated_cancelledTwice : Coordinated {} cancelledTwice := by
  have hlease : ownerLease (operationId 1) ∈
      (after {} [.begin 1 "panel" "connection.connect", .begin 2 "menu" "connection.cancel"]).leases :=
    by decide +kernel
  have hlease' : ownerLease (operationId 1) ∈
      (after {} [.begin 1 "panel" "connection.connect", .begin 2 "menu" "connection.cancel",
        .finish 3 (some (ownerLease (operationId 1))) (.ok ())]).leases := by decide +kernel
  have hconnect : Run {} [.begin 1 "panel" "connection.connect"] := .call .start _ trivial
  have hcancel : Run {} [.begin 1 "panel" "connection.connect", .begin 2 "menu" "connection.cancel"] :=
    .call hconnect _ trivial
  have hfinish : Run {} [.begin 1 "panel" "connection.connect", .begin 2 "menu" "connection.cancel",
      .finish 3 (some (ownerLease (operationId 1))) (.ok ())] := .call hcancel _ hlease
  exact operations_coordinated rfl (.call hfinish _ hlease') (by decide +kernel)

end ProtonVpnOmarchy.Agent.Operations
