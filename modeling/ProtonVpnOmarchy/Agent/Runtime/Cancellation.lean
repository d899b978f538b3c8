import ProtonVpnOmarchy.Agent.Runtime.Attempt
import ProtonVpnOmarchy.Agent.Runtime.Replay

/-!
# Cancelled attempts

One connection attempt beside any number of cancellations and disconnections. The tunnel of the attempt
is recorded whenever the attempt does not hold `network_write`, so that whoever moved the counter last
finds it; and once `network_write` was free with nothing recorded after that, the attempt sees that it
was cancelled before it could record anything again.

* `Consistent` — the invariant; `Guarantee` — what each task does to it in one step.
* `meets_connectionCancel`, `meets_connectionDisconnect`, `meets_attempt` — the tasks, one by one.
* `cancelled_attempt_gone` — once all who cancelled have returned, the tunnel is down and the record is
  empty, if the calls that take a tunnel down succeed.
* `not_cancelled_attempt_gone` — the split service has to succeed as well as NetworkManager.
-/

namespace ProtonVpnOmarchy.Agent.Runtime

open Lib

variable {ι : Type}

/-! ## What holds at every moment -/

/-- The record of a tunnel follows the tunnels of an attempt. -/
structure Consistent (connector : ι) (c : Core ι) : Prop where
  quiet_le : c.quiet ≤ c.attempt
  number_le : c.number connector ≤ c.attempt
  /-- Once `network_write` was released with nothing recorded after the attempt was cancelled, nothing
  is recorded and the attempt has no tunnel. -/
  settled : c.number connector < c.quiet →
    c.owned = none ∧ ∀ uuid ∈ c.created connector, uuid ∉ c.tunnels
  /-- While the attempt does not hold `network_write`, its tunnels are recorded. -/
  recorded : c.holder ≠ some connector →
    ∀ uuid ∈ c.created connector, uuid ∈ c.tunnels → c.owned = some uuid
  moved : c.number connector ≠ 0 →
    c.latest ≠ none ∧ (c.latest = some connector → c.attempt = c.number connector)

/-- What a task does in one step. -/
structure Guarantee (connector i : ι) (c c' : Core ι) : Prop where
  attempt_le : c.attempt ≤ c'.attempt
  holder : ∀ j ≠ i, c'.holder = some j ↔ c.holder = some j
  owned : c.holder ≠ some i → c'.owned = c.owned
  quiet : c.holder ≠ some i → c'.quiet = c.quiet
  tunnels : c.holder ≠ some i → c'.tunnels ⊆ c.tunnels
  number : ∀ j ≠ i, c'.number j = c.number j
  created : ∀ j ≠ i, c'.created j = c.created j
  latest : c'.attempt = c.attempt ∧ c'.latest = c.latest ∨ c'.latest = some i
  quiet_eq : c'.quiet = c.quiet ∨ c'.quiet = c'.attempt
  consistent : Consistent connector c → Consistent connector c'

/-- What the others do between two steps of a task. -/
structure Relied (connector i : ι) (c c' : Core ι) : Prop where
  attempt_le : c.attempt ≤ c'.attempt
  holder : c'.holder = some i ↔ c.holder = some i
  owned : c.holder = some i → c'.owned = c.owned
  quiet : c.holder = some i → c'.quiet = c.quiet
  tunnels : c.holder = some i → c'.tunnels ⊆ c.tunnels
  number : c'.number i = c.number i
  created : c'.created i = c.created i
  latest : c'.latest = some i → c'.attempt = c.attempt ∧ c.latest = some i
  quiet_eq : c'.quiet = c.quiet ∨ c'.quiet = c'.attempt
  consistent : Consistent connector c → Consistent connector c'

section guarantee

variable {connector i j : ι} {c c' : Core ι}

theorem Guarantee.relied (h : Guarantee connector j c c') (hne : i ≠ j) :
    Relied connector i c c' := by
  have hnot : c.holder = some i → c.holder ≠ some j := by
    intro hi hj
    exact hne (Option.some.inj (hi.symm.trans hj))
  refine
    { attempt_le := h.attempt_le
      holder := h.holder i hne
      owned := fun hi => h.owned (hnot hi)
      quiet := fun hi => h.quiet (hnot hi)
      tunnels := fun hi => h.tunnels (hnot hi)
      number := h.number i hne
      created := h.created i hne
      latest := ?_
      quiet_eq := h.quiet_eq
      consistent := h.consistent }
  intro hlatest
  rcases h.latest with ⟨hattempt, hsame⟩ | hother
  · exact ⟨hattempt, hsame ▸ hlatest⟩
  · exact absurd (Option.some.inj (hother.symm.trans hlatest)) hne.symm

theorem Guarantee.refl (connector i : ι) (c : Core ι) : Guarantee connector i c c where
  attempt_le := le_rfl
  holder _ _ := Iff.rfl
  owned _ := rfl
  quiet _ := rfl
  tunnels _ := Finset.Subset.refl _
  number _ _ := rfl
  created _ _ := rfl
  latest := .inl ⟨rfl, rfl⟩
  quiet_eq := .inl rfl
  consistent h := h

/-- A tunnel goes down by itself. -/
theorem relied_loss {uuid : String} (h : c' = { c with tunnels := c.tunnels.erase uuid }) :
    Relied connector i c c' := by
  subst h
  refine
    { attempt_le := le_rfl
      holder := Iff.rfl
      owned := fun _ => rfl
      quiet := fun _ => rfl
      tunnels := fun _ => Finset.erase_subset _ _
      number := rfl
      created := rfl
      latest := fun hlatest => ⟨rfl, hlatest⟩
      quiet_eq := .inl rfl
      consistent := fun hc => ?_ }
  exact
    { quiet_le := hc.quiet_le
      number_le := hc.number_le
      settled := fun hlt => ⟨(hc.settled hlt).1, fun uuid huuid hmem =>
        (hc.settled hlt).2 uuid huuid (Finset.mem_of_mem_erase hmem)⟩
      recorded := fun hholder uuid huuid hmem =>
        hc.recorded hholder uuid huuid (Finset.mem_of_mem_erase hmem)
      moved := hc.moved }

/-- A step of the task that holds `network_write`. -/
theorem guarantee_of_holder (hholder : c.holder = some i)
    (hattempt : c'.attempt = c.attempt) (hlatest : c'.latest = c.latest)
    (hheld : c'.holder = some i ∨ c'.holder = none) (hnumber : c'.number = c.number)
    (hcreated : ∀ j ≠ i, c'.created j = c.created j)
    (hquiet : c'.quiet = c.quiet ∨ c'.quiet = c'.attempt)
    (hconsistent : Consistent connector c → Consistent connector c') :
    Guarantee connector i c c' where
  attempt_le := hattempt.ge
  holder j hj := by
    rw [hholder]
    rcases hheld with h | h
    · rw [h]
    · rw [h]
      simpa using hj.symm
  owned h := absurd hholder h
  quiet h := absurd hholder h
  tunnels h := absurd hholder h
  number _ _ := by rw [hnumber]
  created := hcreated
  latest := .inl ⟨hattempt, hlatest⟩
  quiet_eq := hquiet
  consistent := hconsistent

/-! ## Steps of every task -/

theorem guarantee_begin [DecidableEq ι] (connector i : ι) (c : Core ι) :
    Guarantee connector i c (c.begin i) := by
  refine
    { attempt_le := Nat.le_succ _
      holder := fun _ _ => Iff.rfl
      owned := fun _ => rfl
      quiet := fun _ => rfl
      tunnels := fun _ => Finset.Subset.refl _
      number := fun j hj => Function.update_of_ne hj _ _
      created := fun _ _ => rfl
      latest := .inr rfl
      quiet_eq := .inl rfl
      consistent := fun hc => ?_ }
  have hquiet := hc.quiet_le
  have hnumber := hc.number_le
  unfold Core.begin
  by_cases hi : connector = i
  · subst hi
    refine ⟨by dsimp only; omega, ?_, ?_, hc.recorded, ?_⟩
    · dsimp only
      rw [Function.update_self]
    · dsimp only
      rw [Function.update_self]
      intro hlt
      omega
    · intro _
      dsimp only
      rw [Function.update_self]
      exact ⟨Option.some_ne_none _, fun _ => rfl⟩
  · refine ⟨by dsimp only; omega, ?_, ?_, hc.recorded, ?_⟩
    · dsimp only
      rw [Function.update_of_ne hi]
      omega
    · dsimp only
      rw [Function.update_of_ne hi]
      exact hc.settled
    · intro _
      exact ⟨Option.some_ne_none _, fun hlatest => absurd (Option.some.inj hlatest).symm hi⟩

theorem guarantee_lock {found : ι → Option (Option String)} (hholder : c.holder = none) :
    Guarantee connector i c { c with holder := some i, found := found } where
  attempt_le := le_rfl
  holder j hj := by
    rw [hholder]
    simpa using hj.symm
  owned _ := rfl
  quiet _ := rfl
  tunnels _ := Finset.Subset.refl _
  number _ _ := rfl
  created _ _ := rfl
  latest := .inl ⟨rfl, rfl⟩
  quiet_eq := .inl rfl
  consistent hc :=
    { quiet_le := hc.quiet_le
      number_le := hc.number_le
      settled := hc.settled
      recorded := fun _ => hc.recorded (by rw [hholder]; nofun)
      moved := hc.moved }

/-- `network_write` is given back while the tunnels of the attempt are recorded. -/
theorem guarantee_unlock {left : ι → Option (Option String)} (hholder : c.holder = some i)
    (hrecorded : ∀ uuid ∈ c.created connector, uuid ∈ c.tunnels → c.owned = some uuid) :
    Guarantee connector i c
      { c with
        holder := none
        quiet := if c.owned = none then c.attempt else c.quiet
        left := left } := by
  refine guarantee_of_holder hholder rfl rfl (.inr rfl) rfl (fun _ _ => rfl) ?_ fun hc => ?_
  · dsimp only
    split_ifs
    · exact .inr rfl
    · exact .inl rfl
  · refine ⟨?_, hc.number_le, ?_, fun _ => hrecorded, hc.moved⟩
    · dsimp only
      split_ifs
      · exact le_rfl
      · exact hc.quiet_le
    · intro hlt
      dsimp only at hlt ⊢
      split_ifs at hlt with howned
      · refine ⟨howned, fun uuid huuid hmem => ?_⟩
        rw [hrecorded uuid huuid hmem] at howned
        cases howned
      · exact hc.settled hlt

end guarantee

/-! ## Tasks that hold `network_write` -/

/-- What the others leave alone while a task holds `network_write`. -/
def Local (i : ι) (q : Core ι → Prop) : Prop :=
  ∀ c c' : Core ι, c'.owned = c.owned → c'.quiet = c.quiet → c'.tunnels ⊆ c.tunnels →
    c'.number i = c.number i → c'.created i = c.created i →
      (c'.latest = some i → c'.attempt = c.attempt ∧ c.latest = some i) → q c → q c'

/-- A task holds `network_write`. -/
def Inside (connector i : ι) (q : Core ι → Prop) (c : Core ι) : Prop :=
  Consistent connector c ∧ c.holder = some i ∧ q c

/-- What a cancellation or a disconnection leaves behind. -/
def Served (connector i : ι) (c : Core ι) : Prop :=
  Consistent connector c ∧ (c.latest = some i → c.quiet = c.attempt)

section tasks

variable {connector i : ι}

/-- The others, for a task. -/
abbrev others (connector i : ι) (s s' : Shared ι) : Prop := Relied connector i s.core s'.core

/-- A task, for the others. -/
abbrev steps (connector i : ι) (s s' : Shared ι) : Prop := Guarantee connector i s.core s'.core

theorem steps_of_core_eq (s s' : Shared ι) (h : s'.core = s.core) : steps connector i s s' := by
  unfold steps
  rw [h]
  exact Guarantee.refl connector i s.core

theorem stable_inside {q : Core ι → Prop} (hq : Local i q) :
    Stable (others connector i) fun s => Inside connector i q s.core := by
  rintro s s' ⟨hconsistent, hholder, hs⟩ hothers
  refine ⟨hothers.consistent hconsistent, hothers.holder.mpr hholder, ?_⟩
  exact hq _ _ (hothers.owned hholder) (hothers.quiet hholder) (hothers.tunnels hholder)
    hothers.number hothers.created hothers.latest hs

theorem stable_served : Stable (others connector i) fun s => Served connector i s.core := by
  rintro s s' ⟨hconsistent, hquiet⟩ hothers
  refine ⟨hothers.consistent hconsistent, fun hlatest => ?_⟩
  obtain ⟨hattempt, hbefore⟩ := hothers.latest hlatest
  rcases hothers.quiet_eq with hsame | hnow
  · rw [hsame, hattempt]
    exact hquiet hbefore
  · exact hnow

theorem stable_numbered (generation : ℕ) : Stable (others connector i) fun s =>
    Consistent connector s.core ∧ (s.core.latest = some i → s.core.attempt = generation) := by
  rintro s s' ⟨hconsistent, hnumber⟩ hothers
  refine ⟨hothers.consistent hconsistent, fun hlatest => ?_⟩
  obtain ⟨hattempt, hbefore⟩ := hothers.latest hlatest
  rw [hattempt]
  exact hnumber hbefore

theorem local_latest (generation : ℕ) :
    Local i fun c : Core ι => c.latest = some i → c.attempt = generation := by
  intro c c' _ _ _ _ _ hlatest hc h
  obtain ⟨hattempt, hbefore⟩ := hlatest h
  rw [hattempt]
  exact hc hbefore

theorem local_done : Local i fun c : Core ι => c.owned = none ∨ c.latest ≠ some i := by
  intro c c' howned _ _ _ _ hlatest hc
  rw [howned]
  exact hc.imp id fun hnot h => hnot (hlatest h).2

/-- A step of the task that holds `network_write`. -/
theorem step_inside {q q' : Core ι → Prop} {s s' : Shared ι} {owned : Option String}
    {tunnels : Finset String} {created : ι → Finset String} {removed : ι → Bool}
    (hs : Inside connector i q s.core)
    (hs' : s'.core =
      { s.core with owned := owned, tunnels := tunnels, created := created, removed := removed })
    (hcreated : ∀ j ≠ i, created j = s.core.created j)
    (hconsistent : Consistent connector s'.core) (hq : q' s'.core) :
    steps connector i s s' ∧ Inside connector i q' s'.core := by
  obtain ⟨-, hholder, -⟩ := hs
  refine ⟨?_, hconsistent, ?_, hq⟩
  · unfold steps
    refine guarantee_of_holder hholder ?_ ?_ (.inl ?_) ?_ ?_ (.inl ?_) fun _ => hconsistent
    all_goals rw [hs']
    · exact hholder
    · exact hcreated
  · rw [hs']
    exact hholder

variable [DecidableEq ι]

theorem steps_take {s : Shared ι} (hfree : s.holder .network = none) :
    steps connector i s (s.take .network i) := by
  unfold steps
  rw [core_take_network]
  exact guarantee_lock hfree

theorem steps_release {s : Shared ι} (hholder : s.core.holder = some i)
    (hrecorded : ∀ uuid ∈ s.core.created connector, uuid ∈ s.core.tunnels →
      s.core.owned = some uuid) :
    steps connector i s (s.release .network i) := by
  unfold steps
  rw [core_release_network]
  exact guarantee_unlock hholder hrecorded

variable {fails : Query → Prop}

/-- A task that takes `network_write`, works and gives it back. -/
theorem meets_guarded_network (hne : i ≠ connector) {generation : ℕ}
    {body : Task (NativeResult Unit)}
    (hbody : Meets (act fails i) (others connector i) (steps connector i)
      (fun s => Inside connector i (fun c => c.latest = some i → c.attempt = generation) s.core)
      body fun _ s =>
        Inside connector i (fun c => c.owned = none ∨ c.latest ≠ some i) s.core) :
    Meets (act fails i) (others connector i) (steps connector i)
      (fun s => Consistent connector s.core ∧
        (s.core.latest = some i → s.core.attempt = generation))
      (guarded .network body) fun _ s => Served connector i s.core := by
  refine meets_query (p := fun c => Consistent connector c ∧
    (c.latest = some i → c.attempt = generation)) (fun _ =>
      Inside connector i fun c => c.latest = some i → c.attempt = generation)
    (stable_numbered generation) ?_ fun _ => ?_
  · rintro s _ s' ⟨hconsistent, hnumber⟩ ⟨hfree, rfl⟩
    have hstep : steps connector i s (s.take .network i) := steps_take hfree
    refine ⟨hstep, hstep.consistent hconsistent, ?_⟩
    rw [core_take_network]
    exact ⟨rfl, hnumber⟩
  refine meets_bind _ hbody fun result => ?_
  refine meets_query (p := Inside connector i fun c => c.owned = none ∨ c.latest ≠ some i)
    (fun _ => Served connector i) (stable_inside local_done) ?_ fun _ => ?_
  · rintro s _ s' ⟨hconsistent, hholder, hs⟩ rfl
    have hrecorded := hconsistent.recorded (by
      rw [hholder]
      exact fun h => hne (Option.some.inj h))
    have hstep : steps connector i s (s.release .network i) := steps_release hholder hrecorded
    refine ⟨hstep, hstep.consistent hconsistent, ?_⟩
    rw [core_release_network]
    intro hlatest
    rcases hs with howned | hnot
    · exact if_pos howned
    · exact absurd hlatest hnot
  · exact meets_pure stable_served fun _ hs => hs

/-! ## Cancellations and disconnections -/

theorem consistent_remove {c : Core ι} (hc : Consistent connector c) (uuid : String) :
    Consistent connector (c.remove i uuid) where
  quiet_le := hc.quiet_le
  number_le := hc.number_le
  settled hlt := ⟨(hc.settled hlt).1, fun other hother hmem =>
    (hc.settled hlt).2 other hother (Finset.mem_of_mem_erase hmem)⟩
  recorded hholder other hother hmem :=
    hc.recorded hholder other hother (Finset.mem_of_mem_erase hmem)
  moved := hc.moved

omit [DecidableEq ι] in
theorem consistent_forget {c : Core ι} {uuid : String} (hc : Consistent connector c)
    (hholder : c.holder ≠ some connector) (howned : c.owned = some uuid)
    (huuid : uuid ∉ c.tunnels) : Consistent connector { c with owned := none } where
  quiet_le := hc.quiet_le
  number_le := hc.number_le
  settled hlt := ⟨rfl, (hc.settled hlt).2⟩
  recorded _ other hother hmem := by
    have hsame := hc.recorded hholder other hother hmem
    rw [howned] at hsame
    cases hsame
    exact absurd hmem huuid
  moved := hc.moved

/-- Another task takes the recorded tunnel down. -/
theorem meets_takeDown (hne : i ≠ connector) (hclean : CleanupSucceeds fails) (uuid : String) :
    Meets (act fails i) (others connector i) (steps connector i)
      (fun s => Inside connector i (fun c => c.owned = some uuid) s.core)
      (disconnectOwnedInner uuid)
      fun _ s => Inside connector i (fun c => c.owned = none ∨ c.latest ≠ some i) s.core := by
  have howned : ∀ owned : Option String, Local i fun c : Core ι => c.owned = owned :=
    fun owned c c' hsame _ _ _ _ _ hc => hsame.trans hc
  have hdown : Local i fun c : Core ι => c.owned = some uuid ∧ uuid ∉ c.tunnels :=
    fun c c' hsame _ htunnels _ _ _ hc => ⟨hsame.trans hc.1, fun h => hc.2 (htunnels h)⟩
  refine (meets_disconnectOwnedInner hclean steps_of_core_eq (stable_inside (howned (some uuid)))
    (stable_inside hdown) (stable_inside (howned none)) ?_ ?_).consequence (fun _ hs => hs) ?_
  · intro s s' hs hs'
    refine step_inside hs hs' (fun _ _ => rfl) ?_ ?_
    · rw [hs']
      exact consistent_remove hs.1 uuid
    · rw [hs']
      exact ⟨hs.2.2, Finset.notMem_erase _ _⟩
  · intro s s' hs hs'
    refine step_inside hs hs' (fun _ _ => rfl) ?_ ?_
    · rw [hs']
      refine consistent_forget hs.1 ?_ hs.2.2.1 hs.2.2.2
      rw [hs.2.1]
      exact fun h => hne (Option.some.inj h)
    · rw [hs']
  · rintro r s ⟨⟨hconsistent, hholder, hs⟩, -⟩
    exact ⟨hconsistent, hholder, .inl hs⟩

/-- What is recorded is looked at, and taken down. -/
theorem meets_lookup (hne : i ≠ connector) (hclean : CleanupSucceeds fails) (generation : ℕ)
    {next : Option String → Task (NativeResult Unit)} {nothing : NativeResult Unit}
    (hsome : ∀ uuid, next (some uuid) = disconnectOwnedInner uuid)
    (hnone : next none = pure nothing) :
    Meets (act fails i) (others connector i) (steps connector i)
      (fun s => Inside connector i (fun c => c.latest = some i → c.attempt = generation) s.core)
      (ask .ownedUuid >>= next)
      fun _ s => Inside connector i (fun c => c.owned = none ∨ c.latest ≠ some i) s.core := by
  refine meets_query (fun owned => Inside connector i fun c => c.owned = owned)
    (stable_inside (local_latest generation)) ?_ fun owned => ?_
  · rintro s owned s' hs ⟨rfl, rfl⟩
    exact ⟨steps_of_core_eq _ _ rfl, hs.1, hs.2.1, rfl⟩
  · cases owned with
    | some uuid =>
        rw [hsome]
        exact meets_takeDown hne hclean uuid
    | none =>
        rw [hnone]
        refine meets_pure (stable_inside local_done) fun s hs => ?_
        exact ⟨hs.1, hs.2.1, .inl hs.2.2⟩

/-- A task moves the counter and then holds `network_write`. -/
theorem meets_begin {next : ℕ → Task (NativeResult Unit)}
    {post : NativeResult Unit → Shared ι → Prop}
    (hnext : ∀ generation, Meets (act fails i) (others connector i) (steps connector i)
      (fun s => Consistent connector s.core ∧
        (s.core.latest = some i → s.core.attempt = generation)) (next generation) post) :
    Meets (act fails i) (others connector i) (steps connector i)
      (fun s => Consistent connector s.core) (ask .nextAttempt >>= next) post := by
  refine meets_query (p := Consistent connector) (fun generation c => Consistent connector c ∧
    (c.latest = some i → c.attempt = generation)) (fun s s' hs hothers => hothers.consistent hs) ?_
    hnext
  rintro s generation s' hs ⟨rfl, rfl⟩
  have hstep := guarantee_begin connector i s.core
  exact ⟨hstep, hstep.consistent hs, fun _ => rfl⟩

theorem meets_connectionCancel (hne : i ≠ connector) (hclean : CleanupSucceeds fails) :
    Meets (act fails i) (others connector i) (steps connector i)
      (fun s => Consistent connector s.core) connectionCancel
      fun _ s => Served connector i s.core := by
  refine meets_begin fun generation => meets_guarded_network hne ?_
  refine meets_query (fun current => Inside connector i fun c =>
    (c.latest = some i → c.attempt = generation) ∧
      (current ≠ generation → c.owned = none ∨ c.latest ≠ some i))
    (stable_inside (local_latest generation)) ?_ fun current => ?_
  · rintro s current s' hs ⟨rfl, rfl⟩
    refine ⟨steps_of_core_eq _ _ rfl, hs.1, hs.2.1, hs.2.2, fun hmoved => .inr fun hlatest => ?_⟩
    exact hmoved (hs.2.2 hlatest)
  · split_ifs with hcurrent
    · exact meets_pure (stable_inside local_done) fun s hs => ⟨hs.1, hs.2.1, hs.2.2.2 hcurrent⟩
    · exact (meets_lookup hne hclean generation (fun _ => rfl) rfl).consequence
        (fun s hs => ⟨hs.1, hs.2.1, hs.2.2.1⟩) fun _ _ hs => hs

theorem meets_connectionDisconnect (hne : i ≠ connector) (hclean : CleanupSucceeds fails) :
    Meets (act fails i) (others connector i) (steps connector i)
      (fun s => Consistent connector s.core) connectionDisconnect
      fun _ s => Served connector i s.core := by
  refine meets_begin fun generation => meets_guarded_network hne ?_
  exact meets_lookup hne hclean generation (fun _ => rfl) rfl

/-! ## The attempt -/

/-- The attempt holds `network_write`, was not cancelled before `network_write` was last free with
nothing recorded, and has these profiles. -/
def Ahead (connector : ι) (a : ℕ) (created : Finset String) (q : Core ι → Prop) : Core ι → Prop :=
  Inside connector connector fun c =>
    c.number connector = a ∧ c.quiet ≤ a ∧ c.created connector = created ∧ q c

/-- What the steps of an attempt rely on. -/
def outline (connector : ι) : Outline ι where
  begun a c := Consistent connector c ∧ c.number connector = a ∧ c.created connector = ∅
  entered a := Inside connector connector fun c =>
    c.number connector = a ∧ c.created connector = ∅
  allowed a := Ahead connector a ∅ fun _ => True
  replacing a _ := Ahead connector a ∅ fun _ => True
  free a := Ahead connector a ∅ fun _ => True
  named a uuid := Ahead connector a {uuid} fun c => uuid ∉ c.tunnels
  activated a uuid := Ahead connector a {uuid} fun _ => True
  owning a uuid := Ahead connector a {uuid} fun c => c.owned = some uuid
  down a uuid := Ahead connector a {uuid} fun c => uuid ∉ c.tunnels
  finished _ := Inside connector connector fun c =>
    ∀ uuid ∈ c.created connector, uuid ∈ c.tunnels → c.owned = some uuid
  left _ := Consistent connector

omit [DecidableEq ι] in
theorem stable_ahead {a : ℕ} {created : Finset String} {q : Core ι → Prop}
    (hq : ∀ c c' : Core ι, c'.owned = c.owned → c'.tunnels ⊆ c.tunnels → q c → q c') :
    Stable (others connector connector) fun s => Ahead connector a created q s.core := by
  refine stable_inside ?_
  rintro c c' howned hquiet htunnels hnumber hcreated _ ⟨ha, hle, hc, hs⟩
  rw [hnumber, hquiet, hcreated]
  exact ⟨ha, hle, hc, hq c c' howned htunnels hs⟩

omit [DecidableEq ι] in
theorem kept_outline : (outline connector).Kept (others connector connector) where
  begun a := by
    rintro s s' ⟨hconsistent, hnumber, hcreated⟩ hothers
    refine ⟨hothers.consistent hconsistent, ?_, ?_⟩
    · rw [hothers.number]
      exact hnumber
    · rw [hothers.created]
      exact hcreated
  entered a := by
    dsimp only [outline]
    refine stable_inside ?_
    rintro c c' - - - hnumber hcreated - ⟨ha, hc⟩
    rw [hnumber, hcreated]
    exact ⟨ha, hc⟩
  allowed a := stable_ahead fun _ _ _ _ _ => trivial
  looked a owned := by
    rintro s s' ⟨hs, howned⟩ hothers
    refine ⟨stable_ahead (fun _ _ _ _ _ => trivial) s s' hs hothers, ?_⟩
    rw [hothers.owned hs.2.1]
    exact howned
  replacing a uuid := stable_ahead fun _ _ _ _ _ => trivial
  free a := stable_ahead fun _ _ _ _ _ => trivial
  named a uuid := by
    dsimp only [outline]
    exact stable_ahead fun _ _ _ htunnels hs h => hs (htunnels h)
  activated a uuid := stable_ahead fun _ _ _ _ _ => trivial
  owning a uuid := stable_ahead fun _ _ howned _ hs => howned.trans hs
  down a uuid := by
    dsimp only [outline]
    exact stable_ahead fun _ _ _ htunnels hs h => hs (htunnels h)
  finished r := by
    dsimp only [outline]
    refine stable_inside ?_
    intro c c' howned _ htunnels _ hcreated _ hs uuid huuid hmem
    rw [howned]
    rw [hcreated] at huuid
    exact hs uuid huuid (htunnels hmem)
  left r := fun s s' hs hothers => hothers.consistent hs

omit [DecidableEq ι] in
/-- A step of an attempt that is ahead. -/
theorem step_ahead {a : ℕ} {profiles profiles' : Finset String} {q q' : Core ι → Prop}
    {s s' : Shared ι} {owned : Option String} {tunnels : Finset String}
    {created : ι → Finset String} {removed : ι → Bool} (hs : Ahead connector a profiles q s.core)
    (hs' : s'.core =
      { s.core with owned := owned, tunnels := tunnels, created := created, removed := removed })
    (hothers : ∀ j ≠ connector, created j = s.core.created j)
    (hcreated : created connector = profiles') (hq : q' s'.core) :
    steps connector connector s s' ∧ Ahead connector a profiles' q' s'.core := by
  have hconsistent : Consistent connector s'.core := by
    obtain ⟨hc, hholder, hnumber, hquiet, -⟩ := hs
    rw [hs']
    refine ⟨hc.quiet_le, hc.number_le, fun hlt => ?_, fun hnot => absurd hholder hnot, hc.moved⟩
    dsimp only at hlt
    omega
  refine step_inside hs hs' hothers hconsistent ?_
  rw [hs']
  rw [hs'] at hq
  exact ⟨hs.2.2.1, hs.2.2.2.1, hcreated, hq⟩

omit [DecidableEq ι] in
/-- Before its tunnel is activated and after it is down, an attempt leaves nothing unrecorded. -/
theorem finished_of_ahead {a : ℕ} {profiles : Finset String} {q : Core ι → Prop} {c : Core ι}
    (r : NativeResult Unit) (hc : Ahead connector a profiles q c)
    (hq : ∀ uuid ∈ profiles, uuid ∈ c.tunnels → c.owned = some uuid) :
    (outline connector).finished r c := by
  refine ⟨hc.1, hc.2.1, fun uuid huuid => ?_⟩
  rw [hc.2.2.2.2.1] at huuid
  exact hq uuid huuid

omit [DecidableEq ι] in
theorem finished_of_notMem {a : ℕ} {uuid : String} {c : Core ι} (r : NativeResult Unit)
    (hc : Ahead connector a {uuid} (fun c => uuid ∉ c.tunnels) c) :
    (outline connector).finished r c := by
  refine finished_of_ahead r hc fun other hother hmem => ?_
  rw [Finset.mem_singleton] at hother
  rw [hother] at hmem
  exact absurd hmem hc.2.2.2.2.2

omit [DecidableEq ι] in
theorem finished_of_owned {a : ℕ} {uuid : String} {c : Core ι} (r : NativeResult Unit)
    (hc : Ahead connector a {uuid} (fun c => c.owned = some uuid) c) :
    (outline connector).finished r c := by
  refine finished_of_ahead r hc fun other hother _ => ?_
  rw [Finset.mem_singleton] at hother
  rw [hother]
  exact hc.2.2.2.2.2

theorem steps_outline : (outline connector).Steps fails connector (steps connector connector) where
  same := steps_of_core_eq
  enter a s hs hfree := by
    have hstep : steps connector connector s (s.take .network connector) := steps_take hfree
    refine ⟨hstep, hstep.consistent hs.1, ?_⟩
    rw [core_take_network]
    exact ⟨rfl, hs.2⟩
  check a c hs hattempt := by
    obtain ⟨hconsistent, hholder, hnumber, hcreated⟩ := hs
    exact ⟨hconsistent, hholder, hnumber, hattempt ▸ hconsistent.quiet_le, hcreated, trivial⟩
  replace a uuid s s' hs hs' := by
    obtain ⟨hs, -⟩ := hs
    dsimp only [outline] at hs ⊢
    exact step_ahead hs hs' (fun _ _ => rfl) hs.2.2.2.2.1 trivial
  replaced a uuid s s' hs hs' := by
    dsimp only [outline] at hs ⊢
    exact step_ahead hs hs' (fun _ _ => rfl) hs.2.2.2.2.1 trivial
  nothing a c hs := hs
  name a uuid s s' hs htunnels _ hs' := by
    dsimp only [outline] at hs ⊢
    refine step_ahead hs hs' (fun _ hj => Function.update_of_ne hj _ _) ?_ ?_
    · rw [Function.update_self, hs.2.2.2.2.1]
      rfl
    · rw [hs']
      exact htunnels
  activate a uuid s s' hs hs' := by
    dsimp only [outline] at hs ⊢
    exact step_ahead hs hs' (fun _ _ => rfl) hs.2.2.2.2.1 trivial
  record a uuid s s' hs hs' := by
    dsimp only [outline] at hs ⊢
    refine step_ahead hs hs' (fun _ _ => rfl) hs.2.2.2.2.1 ?_
    rw [hs']
  remove a uuid s s' hs hs' := by
    dsimp only [outline] at hs ⊢
    refine step_ahead hs hs' (fun _ _ => rfl) hs.2.2.2.2.1 ?_
    rw [hs']
    exact Finset.notMem_erase _ _
  forget a uuid s s' error hs hs' := by
    dsimp only [outline] at hs ⊢
    have hstep : steps connector connector s s' ∧
        Ahead connector a {uuid} (fun c => uuid ∉ c.tunnels) s'.core := by
      refine step_ahead hs hs' (fun _ _ => rfl) hs.2.2.2.2.1 ?_
      rw [hs']
      exact hs.2.2.2.2.2
    exact ⟨hstep.1, finished_of_notMem (.error error) hstep.2⟩
  entered_error a error c hs := by
    refine ⟨hs.1, hs.2.1, fun uuid huuid => ?_⟩
    rw [hs.2.2.2] at huuid
    exact absurd huuid (Finset.notMem_empty uuid)
  free_error a error c hs := by
    dsimp only [outline] at hs
    exact finished_of_ahead _ hs fun uuid huuid => absurd huuid (Finset.notMem_empty uuid)
  named_error a uuid error c hs := finished_of_notMem _ hs
  owning_ok a uuid c hs := finished_of_owned _ hs
  owning_error _ a uuid error c hs := finished_of_owned _ hs
  leave r s hs := by
    have hstep : steps connector connector s (s.release .network connector) :=
      steps_release hs.2.1 hs.2.2
    exact ⟨hstep, hstep.consistent hs.1⟩
  begun_error a error c hs := hs.1

theorem meets_attempt (hclean : CleanupSucceeds fails) :
    Meets (act fails connector) (others connector connector) (steps connector connector)
      (fun s => Consistent connector s.core ∧ s.core.created connector = ∅) connectionConnect
      fun _ s => Consistent connector s.core := by
  refine Outline.meets_connectionConnect (p := fun c => Consistent connector c ∧
    c.created connector = ∅) kept_outline steps_outline hclean ?_ ?_
  · rintro s s' ⟨hconsistent, hcreated⟩ hothers
    refine ⟨hothers.consistent hconsistent, ?_⟩
    rw [hothers.created]
    exact hcreated
  · rintro s s' ⟨hconsistent, hcreated⟩ hs'
    have hstep := guarantee_begin connector connector s.core
    unfold steps
    rw [hs']
    exact ⟨hstep, hstep.consistent hconsistent, Function.update_self _ _ _, hcreated⟩

end tasks

/-! ## Attempts that were cancelled -/

section pool

variable [DecidableEq ι] {fails : Query → Prop} {losses : Prop} {connector : ι}
  {tasks : ι → Task (NativeResult Unit)} {shared : Shared ι}
  {pool : Pool ι Query Query.Answer (Shared ι) (NativeResult Unit)}

omit [DecidableEq ι] in
theorem consistent_of_fresh (hfresh : shared.Fresh) : Consistent connector shared.core where
  quiet_le := by
    rw [show shared.core.quiet = 0 from hfresh.quiet]
    exact Nat.zero_le _
  number_le := by
    rw [show shared.core.number connector = 0 from hfresh.number connector]
    exact Nat.zero_le _
  settled hlt := by
    rw [show shared.core.quiet = 0 from hfresh.quiet] at hlt
    exact absurd hlt (Nat.not_lt_zero _)
  recorded _ uuid huuid := by
    rw [show shared.core.created connector = ∅ from hfresh.created connector] at huuid
    exact absurd huuid (Finset.notMem_empty uuid)
  moved hne := absurd (hfresh.number connector) hne

/-- Once everybody who cancelled an attempt has returned, its tunnel is down and nothing is
recorded. -/
theorem cancelled_attempt_gone (hclean : CleanupSucceeds fails)
    (hconnector : tasks connector = connectionConnect)
    (hothers : ∀ i ≠ connector, tasks i = connectionCancel ∨ tasks i = connectionDisconnect)
    (hfresh : shared.Fresh) (hreach : Pool.Reach (machine fails losses) (.start tasks shared) pool)
    (hreturned : ∀ i ≠ connector, ∃ r, pool.tasks i = .pure r)
    (hbegun : pool.shared.number connector ≠ 0)
    (hcancelled : pool.shared.number connector < pool.shared.attempt) :
    pool.shared.owned = none ∧
      ∀ uuid ∈ pool.shared.created connector, uuid ∉ pool.shared.tunnels := by
  -- Every task by itself, as long as the others keep to their guarantees.
  have hmeets : ∀ i, Meets ((machine fails losses).act i) (others connector i) (steps connector i)
      (fun s => Consistent connector s.core ∧ s.core.created connector = ∅) (tasks i)
      fun _ s => Consistent connector s.core ∧ (i ≠ connector → Served connector i s.core) := by
    intro i
    by_cases hi : i = connector
    · subst hi
      rw [hconnector]
      exact (meets_attempt hclean).consequence (fun _ hs => hs)
        fun _ _ hs => ⟨hs, fun hne => absurd rfl hne⟩
    · have hserved : Meets (act fails i) (others connector i) (steps connector i)
          (fun s => Consistent connector s.core) (tasks i)
          fun _ s => Served connector i s.core := by
        rcases hothers i hi with htask | htask
        · rw [htask]
          exact meets_connectionCancel hi hclean
        · rw [htask]
          exact meets_connectionDisconnect hi hclean
      exact hserved.consequence (fun _ hs => hs.1) fun _ _ hs => ⟨hs.1, fun _ => hs⟩
  have hstart : ∀ i : ι, Consistent connector shared.core ∧ shared.core.created connector = ∅ :=
    fun _ => ⟨consistent_of_fresh hfresh, hfresh.created connector⟩
  have hrelied : ∀ i j : ι, i ≠ j → ∀ s s' : Shared ι, steps connector j s s' →
      others connector i s s' := fun i j hne s s' hstep => Guarantee.relied hstep hne
  have hlosses : ∀ (i : ι) (s s' : Shared ι), (machine fails losses).surroundings s s' →
      others connector i s s' := by
    rintro i s s' ⟨-, uuid, rfl⟩
    exact relied_loss rfl
  have hconsistent : Consistent connector pool.shared.core :=
    reach_invariant hmeets hstart hrelied hlosses (consistent_of_fresh hfresh)
      (fun i s s' hs hstep => hstep.consistent hs)
      (fun s s' hs hloss => (hlosses connector s s' hloss).consistent hs) hreach
  -- Whoever moved the counter last has returned, so nothing was recorded when that task was done.
  obtain ⟨hmoved, hlatest⟩ := hconsistent.moved hbegun
  obtain ⟨j, hj⟩ := Option.ne_none_iff_exists'.mp hmoved
  have hne : j ≠ connector := by
    rintro rfl
    have hsame : pool.shared.attempt = pool.shared.number j := hlatest hj
    omega
  obtain ⟨r, hr⟩ := hreturned j hne
  have hserved := ((reach_meets hmeets hstart hrelied hlosses hreach j).2 r hr).2 hne
  have hquiet : pool.shared.quiet = pool.shared.attempt := hserved.2 hj
  exact hconsistent.settled (show pool.shared.number connector < pool.shared.quiet by omega)

end pool

/-- An attempt and a cancellation. -/
def rivals (i : Bool) : Task (NativeResult Unit) :=
  if i then connectionConnect else connectionCancel

/-- The kill switch and split tunneling are both on. -/
def guardedSettings : NativeSettings := { killswitch := 1, splitTunneling := true }

def guardedSetup (failing : Query → Bool) : Setup Bool :=
  { failing
    uuid := fun _ => "u"
    plan := ⟨⟨"node.protonvpn.net", "192.0.2.1"⟩, guardedSettings, guardedSettings, "wireguard"⟩ }

/-- The attempt comes to its end, and then the cancellation. -/
def cancelledLate (failing : Query → Bool) :
    Pool Bool Query Query.Answer (Shared Bool) (NativeResult Unit) :=
  Pool.play (reply (guardedSetup failing)) (List.replicate 46 true ++ List.replicate 24 false)
    (.start rivals { settings := guardedSettings })

theorem reach_cancelledLate (failing : Query → Bool) :
    Pool.Reach (machine (fun query => failing query = true) False)
      (.start rivals { settings := guardedSettings }) (cancelledLate failing) := by
  have hreach : Pool.Reach
      (machine (fun query => (guardedSetup failing).failing query = true) False)
      (.start rivals { settings := guardedSettings }) (cancelledLate failing) :=
    Pool.reach_play act_of_reply _ _
  exact hreach

theorem fresh_settings {ι : Type} (settings : NativeSettings) :
    ({ settings := settings } : Shared ι).Fresh :=
  ⟨fun _ => rfl, rfl, fun _ => rfl, fun _ => rfl, rfl, fun _ => rfl, fun _ => rfl, fun _ => rfl⟩

theorem cancelled_attempt_gone_late :
    (cancelledLate fun _ => false).shared.owned = none ∧
      ∀ uuid ∈ (cancelledLate fun _ => false).shared.created true,
        uuid ∉ (cancelledLate fun _ => false).shared.tunnels := by
  have hclean : CleanupSucceeds fun _ => false = true :=
    ⟨nofun, nofun, nofun, nofun, nofun⟩
  refine cancelled_attempt_gone hclean rfl ?_ (fresh_settings guardedSettings)
    (reach_cancelledLate fun _ => false) ?_ ?_ ?_
  · rintro (_ | _) hi
    · exact .inl rfl
    · exact absurd rfl hi
  · rintro (_ | _) hi
    · exact ⟨_, rfl⟩
    · exact absurd rfl hi
  · decide
  · decide

/-- The split service does not take its bypass back. -/
def bypassStays : Query → Bool
  | .setKillSwitchBypass enabled _ => !enabled
  | _ => false

/-- With a split service that fails, a cancellation keeps the tunnel up, although NetworkManager takes
down every tunnel it is asked to. -/
theorem not_cancelled_attempt_gone :
    ¬ ∀ (fails : Query → Prop) (tasks : Bool → Task (NativeResult Unit)) (shared : Shared Bool)
      (pool : Pool Bool Query Query.Answer (Shared Bool) (NativeResult Unit)),
      (∀ uuid, ¬ fails (.disconnectUuid uuid)) → tasks true = connectionConnect →
        (∀ i ≠ true, tasks i = connectionCancel ∨ tasks i = connectionDisconnect) →
          shared.Fresh → Pool.Reach (machine fails False) (.start tasks shared) pool →
            (∀ i ≠ true, ∃ r, pool.tasks i = .pure r) → pool.shared.number true ≠ 0 →
              pool.shared.number true < pool.shared.attempt →
                pool.shared.owned = none ∧
                  ∀ uuid ∈ pool.shared.created true, uuid ∉ pool.shared.tunnels := by
  intro h
  have hgone := h (fun query => bypassStays query = true) rivals { settings := guardedSettings }
    (cancelledLate bypassStays) nofun rfl ?_ (fresh_settings guardedSettings)
    (reach_cancelledLate bypassStays) ?_ (by decide) (by decide)
  · exact absurd hgone.1 (by decide)
  · rintro (_ | _) hi
    · exact .inl rfl
    · exact absurd rfl hi
  · rintro (_ | _) hi
    · exact ⟨_, rfl⟩
    · exact absurd rfl hi

end ProtonVpnOmarchy.Agent.Runtime
