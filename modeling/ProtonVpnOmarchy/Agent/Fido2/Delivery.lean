import ProtonVpnOmarchy.Agent.Fido2.Basic

/-!
# Delivery of the outcomes of PINs

Who is told what about a PIN, in every interleaving.

* `Local` — the situations in which a call of `submit_pin` can be.
* `served_of_reaches` — as long as no branch that gives up the reply of a waiting call is taken, the
  outcome of every PIN goes to the call that sent it, rejected calls leave the others alone, no call
  waits after the end, and a cancellation that was granted decides the result.
* `left_waiting` — a run that ends with an error of the security key leaves a call waiting.
-/

namespace ProtonVpnOmarchy.Agent.Fido2

open Native

/-! ## The property -/

/-- `authenticate` has returned. -/
def Main.isReturned : Main → Bool
  | .returned _ => true
  | _ => false

/-- What the parties can rely on in a state. -/
structure Served (s : State) : Prop where
  /-- The outcome of a PIN goes to its call, unless that was told of a cancellation before. -/
  delivered : ∀ c outcome, (s.callers c).verdict = some outcome →
    (s.callers c).channel = .filled outcome ∨ (s.callers c).channel = .filled cancelledOutcome
  /-- A call is told the outcome of its own PIN, or that the operation is cancelled. -/
  own : ∀ c outcome, (s.callers c).channel = .filled outcome →
    (s.callers c).verdict = some outcome ∨ outcome = cancelledOutcome ∧ s.cancelled = true
  /-- A call that is rejected has taken no request, or one that the authenticator gave up. -/
  request : ∀ c reason, (s.callers c).phase = .rejected reason →
    (s.callers c).took = true → reason = .stopped
  /-- A call that is rejected has not dropped the reply of another one. -/
  reply : ∀ c reason, (s.callers c).phase = .rejected reason → (s.callers c).displaced = false
  /-- No call waits for a reply after the end. -/
  ended : s.main.isReturned = true →
    ∀ c, (s.callers c).phase = .waiting → (s.callers c).channel ≠ .open
  /-- A cancellation that returned without an error decides the result. -/
  cancelled : ∀ k result, s.cancels k = .returned (.ok ()) → s.main = .returned result →
    result = .error cancelledError

/-! ## Steps that keep to the protocol -/

/-- The call whose sender is in the slot has handed its PIN over. -/
def State.handed (s : State) : Bool :=
  s.pinReply.all fun c => (s.callers c).phase = .waiting

/-- No branch is taken that gives up the reply of a call: a sender is put into an empty slot, a call
that could not hand its PIN over takes no sender of another one out, an outcome does not come before
the PIN, no PIN is handed over after the end, and `authenticate` returns an error of the transport only
while no sender is in the slot, and one of `sign` only if no cancellation has been granted. -/
def State.regular (s : State) : Action → Bool
  | .register _ => s.pinReply = none
  | .handOver _ true => !s.main.isReturned
  | .handOver c false => s.pinReply = none || s.pinReply = some c
  | .status status => status.outcome.isNone || s.handed
  | .prepare (some _) => s.pinReply = none
  | .advance =>
    match s.main with
    | .failing _ => !s.granted
    | .failed _ => s.pinReply = none
    | .deciding result => s.cancelled || result.result.isOk || s.pinReply = none
    | .accepting _ => s.handed
    | _ => true
  | _ => true

/-! ## Situations of a call -/

/-- The situations of a call: with the flag of the cancellation, whether `authenticate` has returned,
whether the sender of the call is in the slot and whether its PIN is being checked. -/
inductive Local (cancelled returned : Bool) : Bool → Bool → Caller → Prop
  | absent : Local cancelled returned false false {}
  | refused (reason : Rejection) (hreason : reason = .tooLong ∨ reason = .notRequested) :
      Local cancelled returned false false { phase := .rejected reason }
  | holding (sender : Sender) :
      Local cancelled returned false false { phase := .holding sender, took := true }
  | registered (sender : Sender) :
      Local cancelled returned true false
        { phase := .registered sender, channel := .open, took := true }
  | interrupted (sender : Sender) (hcancelled : cancelled = true) :
      Local cancelled returned false false
        { phase := .registered sender, channel := .filled cancelledOutcome, took := true }
  | checked (hreturned : returned = false) :
      Local cancelled returned true true { phase := .waiting, channel := .open, took := true }
  | judged (phase : Phase) (outcome : Outcome)
      (hphase : phase = .waiting ∨ phase = .answered (some outcome)) :
      Local cancelled returned false false
        { phase, channel := .filled outcome, took := true, verdict := some outcome }
  | cancelled (phase : Phase) (checking : Bool) (verdict : Option Outcome)
      (hphase : phase = .waiting ∨ phase = .answered (some cancelledOutcome))
      (hcancelled : cancelled = true) :
      Local cancelled returned false checking
        { phase, channel := .filled cancelledOutcome, took := true, verdict }
  | stopped (channel : Channel)
      (hchannel : channel = .dropped ∨ channel = .filled cancelledOutcome ∧ cancelled = true) :
      Local cancelled returned false false { phase := .rejected .stopped, channel, took := true }

namespace Local

variable {cancelled returned inSlot checking : Bool} {caller : Caller}

/-- A cancellation only adds to the situations. -/
theorem cancel (h : Local cancelled returned inSlot checking caller) :
    Local true returned inSlot checking caller := by
  cases h with
  | absent => exact .absent
  | refused reason hreason => exact .refused reason hreason
  | holding sender => exact .holding sender
  | registered sender => exact .registered sender
  | interrupted sender => exact .interrupted sender rfl
  | checked hreturned => exact .checked hreturned
  | judged phase outcome hphase => exact .judged phase outcome hphase
  | cancelled phase checking verdict hphase => exact .cancelled phase checking verdict hphase rfl
  | stopped channel hchannel => exact .stopped channel (hchannel.imp id fun h => ⟨h.1, rfl⟩)

/-- At the end no call may be checked whose sender is in the slot. -/
theorem finish (h : Local cancelled returned false checking caller) (returned' : Bool) :
    Local cancelled returned' false checking caller := by
  cases h with
  | absent => exact .absent
  | refused reason hreason => exact .refused reason hreason
  | holding sender => exact .holding sender
  | interrupted sender hcancelled => exact .interrupted sender hcancelled
  | judged phase outcome hphase => exact .judged phase outcome hphase
  | cancelled phase checking verdict hphase hcancelled =>
      exact .cancelled phase checking verdict hphase hcancelled
  | stopped channel hchannel => exact .stopped channel hchannel

/-- The call whose sender is in the slot is told of a cancellation. -/
theorem tellCancelled (h : Local true returned true checking caller) :
    Local true returned false checking (caller.tell cancelledOutcome) := by
  cases h with
  | registered sender => exact .interrupted sender rfl
  | checked hreturned => exact .cancelled .waiting true none (.inl rfl) rfl

/-- The PINs that are checked are judged, and the call whose sender is in the slot is told. -/
theorem tellJudged (h : Local cancelled returned true checking caller)
    (hphase : caller.phase = .waiting) (outcome : Outcome) :
    checking = true ∧
      Local cancelled returned false false
        (Caller.tell outcome { caller with verdict := some outcome }) := by
  cases h with
  | registered sender => cases hphase
  | checked hreturned => exact ⟨rfl, .judged .waiting outcome (.inl rfl)⟩

/-- A PIN is judged whose call has been told of a cancellation. -/
theorem judge (h : Local cancelled returned false true caller) (outcome : Outcome) :
    Local cancelled returned false false { caller with verdict := some outcome } := by
  cases h with
  | cancelled phase checking verdict hphase hcancelled =>
      exact .cancelled phase false (some outcome) hphase hcancelled

theorem of_absent (h : Local cancelled returned inSlot checking caller)
    (hphase : caller.phase = .absent) : inSlot = false ∧ checking = false ∧ caller = {} := by
  cases h with
  | absent => exact ⟨rfl, rfl, rfl⟩
  | judged _ _ hphase' | cancelled _ _ _ hphase' => rcases hphase' with rfl | rfl <;> cases hphase
  | _ => cases hphase

theorem of_holding {sender : Sender} (h : Local cancelled returned inSlot checking caller)
    (hphase : caller.phase = .holding sender) :
    inSlot = false ∧ checking = false ∧ caller = { phase := .holding sender, took := true } := by
  cases h with
  | holding sender' =>
      cases hphase
      exact ⟨rfl, rfl, rfl⟩
  | judged _ _ hphase' | cancelled _ _ _ hphase' => rcases hphase' with rfl | rfl <;> cases hphase
  | _ => cases hphase

/-- A call that has not handed its PIN over waits to be told, or has been told of a cancellation. -/
theorem of_registered {sender : Sender} (h : Local cancelled returned inSlot checking caller)
    (hphase : caller.phase = .registered sender) :
    checking = false ∧
      (inSlot = true ∧
          caller = { phase := .registered sender, channel := .open, took := true } ∨
        inSlot = false ∧ cancelled = true ∧ caller =
          { phase := .registered sender, channel := .filled cancelledOutcome, took := true }) := by
  cases h with
  | registered sender' =>
      cases hphase
      exact ⟨rfl, .inl ⟨rfl, rfl⟩⟩
  | interrupted sender' hcancelled =>
      cases hphase
      exact ⟨rfl, .inr ⟨rfl, hcancelled, rfl⟩⟩
  | judged _ _ hphase' | cancelled _ _ _ hphase' => rcases hphase' with rfl | rfl <;> cases hphase
  | _ => cases hphase

/-- A call hears what it has been told. -/
theorem hear {outcome : Outcome} (h : Local cancelled returned inSlot checking caller)
    (hphase : caller.phase = .waiting) (hchannel : caller.channel = .filled outcome) :
    Local cancelled returned inSlot checking
      { caller with phase := .answered (some outcome) } := by
  cases h with
  | judged phase outcome' hphase' =>
      cases hchannel
      exact .judged _ outcome (.inr rfl)
  | cancelled phase checking verdict hphase' hcancelled =>
      cases hchannel
      exact .cancelled _ checking verdict (.inr rfl) hcancelled
  | checked => cases hchannel
  | _ => cases hphase

theorem not_dropped (h : Local cancelled returned inSlot checking caller)
    (hphase : caller.phase = .waiting) : caller.channel ≠ .dropped := by
  cases h with
  | checked | judged | cancelled => exact nofun
  | _ => cases hphase

end Local

/-! ## Calls -/

/-- Every call is in one of the situations. -/
def Calls (s : State) : Prop :=
  ∀ c, Local s.cancelled s.main.isReturned (decide (s.pinReply = some c))
    (decide (c ∈ s.checking)) (s.callers c)

section calls

variable {s s' : State} {c : ℕ}

/-- The situation of a call whose sender is not in the slot. -/
theorem Calls.outside (h : Calls s) (hslot : s.pinReply ≠ some c) :
    Local s.cancelled s.main.isReturned false (decide (c ∈ s.checking)) (s.callers c) := by
  have hlocal := h c
  rw [decide_eq_false hslot] at hlocal
  exact hlocal

/-- The situation of the call whose sender is in the slot. -/
theorem Calls.inside (h : Calls s) (hslot : s.pinReply = some c) :
    Local s.cancelled s.main.isReturned true (decide (c ∈ s.checking)) (s.callers c) := by
  have hlocal := h c
  rw [decide_eq_true hslot] at hlocal
  exact hlocal

/-- Only one call is concerned. -/
theorem Calls.update (h : Calls s) (hcancelled : s'.cancelled = s.cancelled)
    (hreturned : s'.main.isReturned = s.main.isReturned)
    (hself : Local s.cancelled s.main.isReturned (decide (s'.pinReply = some c))
      (decide (c ∈ s'.checking)) (s'.callers c))
    (hslot : ∀ d, d ≠ c → (s'.pinReply = some d ↔ s.pinReply = some d))
    (hchecking : ∀ d, d ≠ c → (d ∈ s'.checking ↔ d ∈ s.checking))
    (hothers : ∀ d, d ≠ c → s'.callers d = s.callers d) : Calls s' := by
  intro d
  rw [hcancelled, hreturned]
  by_cases hd : d = c
  · rw [hd]
    exact hself
  · rw [decide_eq_decide.mpr (hslot d hd), decide_eq_decide.mpr (hchecking d hd), hothers d hd]
    exact h d

@[simp] theorem setCaller_self (s : State) (c : ℕ) (caller : Caller) :
    (s.setCaller c caller).callers c = caller := Function.update_self ..

@[simp] theorem setCaller_of_ne (s : State) {c d : ℕ} (caller : Caller) (h : d ≠ c) :
    (s.setCaller c caller).callers d = s.callers d := Function.update_of_ne h ..

/-- The reply that the operation is cancelled. -/
theorem Calls.reply (h : Calls s) (hcancelled : s.cancelled = true) :
    Calls (s.reply cancelledOutcome) := by
  unfold State.reply
  split
  · exact h
  · next c hslot =>
      have hlocal := h.inside hslot
      rw [hcancelled] at hlocal
      refine h.update (c := c) rfl rfl ?_ ?_ (fun _ _ => .rfl) fun d hd => setCaller_of_ne _ _ hd
      · show Local s.cancelled _ false _ ((s.setCaller c _).callers c)
        rw [setCaller_self, hcancelled]
        exact hlocal.tellCancelled
      · intro d hd
        rw [hslot]
        exact ⟨nofun, fun hsame => absurd (Option.some.inj hsame).symm hd⟩

/-- A PIN is judged whose call does not wait for it. -/
theorem Calls.judge_outside (h : Calls s) (hslot : s.pinReply ≠ some c) (outcome : Outcome) :
    Local s.cancelled s.main.isReturned false false ((s.judge outcome).callers c) := by
  have hlocal := h.outside hslot
  show Local _ _ _ _ (if c ∈ s.checking then { s.callers c with verdict := some outcome }
    else s.callers c)
  split_ifs with hchecking
  · rw [decide_eq_true hchecking] at hlocal
    exact hlocal.judge outcome
  · rw [decide_eq_false hchecking] at hlocal
    exact hlocal

/-- An outcome of the authenticator goes to the call whose PIN was checked. -/
theorem Calls.report (h : Calls s) (hhanded : s.handed = true) (outcome : Outcome) :
    Calls (s.report outcome) := by
  intro d
  unfold State.report State.reply
  split
  · next hnone =>
      have hslot : s.pinReply ≠ some d := by
        rw [show s.pinReply = none from hnone]
        exact nofun
      show Local s.cancelled s.main.isReturned (decide (s.pinReply = some d)) false _
      rw [decide_eq_false hslot]
      exact h.judge_outside hslot outcome
  · next c hsome =>
      replace hsome : s.pinReply = some c := hsome
      show Local s.cancelled s.main.isReturned false false
        (((s.judge outcome).setCaller c _).callers d)
      by_cases hd : d = c
      · subst hd
        rw [setCaller_self]
        have hphase : (s.callers d).phase = .waiting := by
          unfold State.handed at hhanded
          rw [hsome] at hhanded
          exact of_decide_eq_true hhanded
        obtain ⟨hchecking, htold⟩ := (h.inside hsome).tellJudged hphase outcome
        have hjudged : (s.judge outcome).callers d =
            { s.callers d with verdict := some outcome } := if_pos (of_decide_eq_true hchecking)
        rw [hjudged]
        exact htold
      · rw [setCaller_of_ne _ _ hd]
        refine h.judge_outside (fun hslot => hd ?_) outcome
        exact Option.some.inj (hslot.symm.trans hsome)

theorem Calls.submit (h : Calls s) {pin : String} (hstep : s.submit c pin = some s') :
    Calls s' := by
  unfold State.submit at hstep
  split at hstep
  · next hphase =>
      obtain ⟨hslot, hchecking, hcaller⟩ := (h c).of_absent hphase
      rw [hcaller] at hstep
      split_ifs at hstep
      · obtain rfl := Option.some.inj hstep
        refine h.update (c := c) rfl rfl ?_ (fun _ _ => .rfl) (fun _ _ => .rfl)
          fun d hd => setCaller_of_ne _ _ hd
        rw [setCaller_self, State.setCaller, hslot, hchecking]
        exact .refused .tooLong (.inl rfl)
      · split at hstep
        · obtain rfl := Option.some.inj hstep
          refine h.update (c := c) rfl rfl ?_ (fun _ _ => .rfl) (fun _ _ => .rfl)
            fun d hd => setCaller_of_ne _ _ hd
          rw [setCaller_self, State.setCaller, hslot, hchecking]
          exact .refused .notRequested (.inr rfl)
        · next sender hpending =>
            obtain rfl := Option.some.inj hstep
            refine h.update (c := c) rfl rfl ?_ (fun _ _ => .rfl) (fun _ _ => .rfl)
              fun d hd => setCaller_of_ne _ _ hd
            show Local _ _ (decide (s.pinReply = some c)) (decide (c ∈ s.checking))
              ((s.setCaller c _).callers c)
            rw [setCaller_self, hslot, hchecking]
            exact .holding sender
  · cases hstep

/-- A sender is put into an empty slot. -/
theorem Calls.register (h : Calls s) (hempty : s.pinReply = none)
    (hstep : s.register c = some s') : Calls s' := by
  unfold State.register at hstep
  split at hstep
  · next sender hphase =>
      obtain ⟨-, hchecking, hcaller⟩ := (h c).of_holding hphase
      rw [hempty, hcaller] at hstep
      obtain rfl := Option.some.inj hstep
      refine h.update (c := c) rfl rfl ?_ ?_ (fun _ _ => .rfl) fun d hd => setCaller_of_ne _ _ hd
      · show Local _ _ (decide (some c = some c)) (decide (c ∈ s.checking))
          ((s.setCaller c _).callers c)
        rw [setCaller_self, hchecking, decide_eq_true rfl]
        exact .registered sender
      · intro d hd
        rw [hempty]
        exact ⟨fun hsame => absurd (Option.some.inj hsame).symm hd, nofun⟩
  · cases hstep

/-- A PIN is handed over before the end. -/
theorem Calls.handOver_accepted (h : Calls s) (hrunning : s.main.isReturned = false)
    (hstep : s.handOver c true = some s') : Calls s' := by
  unfold State.handOver at hstep
  split at hstep
  · next sender hphase =>
      obtain ⟨hchecking, hsituation⟩ := (h c).of_registered hphase
      obtain rfl := Option.some.inj hstep
      refine h.update (c := c) rfl rfl ?_ (fun _ _ => .rfl) ?_ fun d hd => setCaller_of_ne _ _ hd
      · show Local _ _ (decide (s.pinReply = some c)) (decide (c ∈ c :: s.checking))
          ((s.setCaller c _).callers c)
        rw [setCaller_self, decide_eq_true List.mem_cons_self, hrunning]
        rcases hsituation with ⟨hslot, hcaller⟩ | ⟨hslot, hcancelled, hcaller⟩
        · rw [hslot, hcaller]
          exact .checked rfl
        · rw [hslot, hcaller]
          exact .cancelled .waiting true none (.inl rfl) hcancelled
      · intro d hd
        exact ⟨fun hmem => (List.mem_cons.mp hmem).resolve_left hd, List.mem_cons_of_mem c⟩
  · cases hstep

/-- A PIN that is not taken leaves the senders of other calls alone. -/
theorem Calls.handOver_stopped (h : Calls s)
    (hslot : s.pinReply = none ∨ s.pinReply = some c) (hstep : s.handOver c false = some s') :
    Calls s' := by
  unfold State.handOver at hstep
  split at hstep
  · next sender hphase =>
      obtain ⟨hchecking, hsituation⟩ := (h c).of_registered hphase
      rcases hslot with hslot | hslot
      · rw [hslot] at hstep
        obtain rfl := Option.some.inj hstep
        refine h.update (c := c) rfl rfl ?_ (fun _ _ => .rfl) (fun _ _ => .rfl)
          fun d hd => setCaller_of_ne _ _ hd
        rw [setCaller_self]
        show Local _ _ (decide (s.pinReply = some c)) (decide (c ∈ s.checking)) _
        rw [hchecking]
        rcases hsituation with ⟨hinside, -⟩ | ⟨houtside, hcancelled, hcaller⟩
        · rw [hslot] at hinside
          cases hinside
        · rw [houtside, hcaller]
          exact .stopped _ (.inr ⟨rfl, hcancelled⟩)
      · rw [hslot] at hstep
        obtain rfl := Option.some.inj hstep
        refine h.update (c := c) rfl rfl ?_ ?_ (fun _ _ => .rfl) ?_
        · rw [setCaller_self, setCaller_self]
          show Local _ _ (decide (none = some c)) (decide (c ∈ s.checking)) _
          rw [hchecking]
          rcases hsituation with ⟨-, hcaller⟩ | ⟨houtside, -⟩
          · rw [hcaller, decide_eq_false fun hne : c ≠ c => hne rfl]
            exact .stopped .dropped (.inl rfl)
          · rw [hslot, decide_eq_true rfl] at houtside
            cases houtside
        · intro d hd
          rw [hslot]
          exact ⟨nofun, fun hsame => absurd (Option.some.inj hsame).symm hd⟩
        · intro d hd
          rw [setCaller_of_ne _ _ hd]
          exact setCaller_of_ne _ _ hd
  · cases hstep

theorem Calls.hear (h : Calls s) (hstep : s.hear c = some s') : Calls s' := by
  unfold State.hear at hstep
  split at hstep
  · next outcome hphase hchannel =>
      obtain rfl := Option.some.inj hstep
      refine h.update (c := c) rfl rfl ?_ (fun _ _ => .rfl) (fun _ _ => .rfl)
        fun d hd => setCaller_of_ne _ _ hd
      rw [setCaller_self]
      exact (h c).hear hphase hchannel
  · next hphase hchannel => exact absurd hchannel ((h c).not_dropped hphase)
  · cases hstep

/-- A call of `cancel` raises the flag first. -/
theorem Calls.cancel (h : Calls s) {k : ℕ} {error : Option String}
    (hflag : s.cancels k ≠ .absent → s.cancelled = true)
    (hstep : s.cancel k error = some s') : Calls s' := by
  unfold State.cancel at hstep
  split at hstep
  · obtain rfl := Option.some.inj hstep
    exact fun c => (h c).cancel
  · next hstored =>
      obtain rfl := Option.some.inj hstep
      exact h.reply (hflag (by rw [hstored]; exact nofun))
  · split_ifs at hstep
    · split at hstep
      · obtain rfl := Option.some.inj hstep
        exact h
      · obtain rfl := Option.some.inj hstep
        exact h
    · obtain rfl := Option.some.inj hstep
      exact h
  · cases hstep

/-- `authenticate` returns while no sender is in the slot. -/
theorem Calls.return (h : Calls s) (hempty : s.pinReply = none)
    {result : NativeResult FidoAssertion} : Calls { s with main := .returned result } := by
  intro c
  have hslot : s.pinReply ≠ some c := by
    rw [hempty]
    exact nofun
  show Local s.cancelled true (decide (s.pinReply = some c)) _ _
  rw [decide_eq_false hslot]
  exact (h.outside hslot).finish true

theorem reply_pinReply (outcome : Outcome) (s : State) : (s.reply outcome).pinReply = none := by
  unfold State.reply
  split
  · assumption
  · rfl

/-- `authenticate` goes on, and looks at no call. -/
theorem Calls.go (h : Calls s) {main : Main} (hmain : main.isReturned = s.main.isReturned)
    (managerSet : Bool) (pendingPin : Option Sender) (worker : Worker) :
    Calls { s with managerSet, pendingPin, worker, main } := by
  intro c
  show Local s.cancelled main.isReturned _ _ _
  rw [hmain]
  exact h c

theorem Calls.advance (h : Calls s) {request : FidoRequest} (hregular : s.regular .advance = true)
    (hcancelling : s.main = .cancelling → s.cancelled = true)
    (hstep : s.advance request = some s') : Calls s' := by
  have hempty : decide (s.pinReply = none) = true → s.pinReply = none := of_decide_eq_true
  unfold State.advance at hstep
  unfold State.regular at hregular
  split at hstep <;> rename_i hmain <;> rw [hmain] at hregular
  case h_1 error =>
    obtain rfl := Option.some.inj hstep
    exact h.go (by rw [hmain]; rfl) false s.pendingPin s.worker
  case h_2 error =>
    split_ifs at hstep
    obtain rfl := Option.some.inj hstep
    exact (h.return (hempty hregular)).go rfl s.managerSet s.pendingPin .finished
  case h_3 result =>
    obtain rfl := Option.some.inj hstep
    exact h.go (by rw [hmain]; rfl) false s.pendingPin s.worker
  case h_4 result =>
    obtain rfl := Option.some.inj hstep
    exact h.go (by rw [hmain]; rfl) s.managerSet none s.worker
  case h_5 result =>
    split_ifs at hstep
    obtain rfl := Option.some.inj hstep
    exact h.go (by rw [hmain]; rfl) s.managerSet s.pendingPin .finished
  case h_6 result =>
    split_ifs at hstep with hcancelled
    · obtain rfl := Option.some.inj hstep
      exact h.go (by rw [hmain]; rfl) s.managerSet s.pendingPin s.worker
    · split at hstep
      · next error hresult =>
          obtain rfl := Option.some.inj hstep
          refine h.return (hempty ?_)
          simpa [hcancelled, hresult, Except.isOk, Except.toBool] using hregular
      · obtain rfl := Option.some.inj hstep
        exact h.go (by rw [hmain]; rfl) s.managerSet s.pendingPin s.worker
  case h_7 =>
    obtain rfl := Option.some.inj hstep
    exact (h.reply (hcancelling hmain)).return (reply_pinReply _ _)
  case h_8 result =>
    obtain rfl := Option.some.inj hstep
    exact (h.report hregular .accepted).return (reply_pinReply _ _)
  all_goals cases hstep

end calls

/-! ## Cancellations -/

/-- The manager is there. -/
def Main.holdsManager : Main → Bool
  | .signing | .failing _ | .receiving | .received _ => true
  | _ => false

/-- After this, `authenticate` can only return that it was cancelled. -/
def Main.IsBound : Main → Prop
  | .preparing | .failed _ | .accepting _ => False
  | .returned result => result = .error cancelledError
  | _ => True

/-- What holds of the manager, the flag and the cancellations. -/
structure Guarded (s : State) : Prop where
  manager : s.managerSet = s.main.holdsManager
  flag : ∀ k, s.cancels k ≠ .absent → s.cancelled = true
  returned : ∀ k, s.cancels k = .returned (.ok ()) → s.granted = true
  granted : s.granted = true → s.cancelled = true ∧ s.main.IsBound
  cancelling : s.main = .cancelling → s.cancelled = true

section guarded

variable {s s' : State}

theorem bound_of_holdsManager {main : Main} (h : main.holdsManager = true) : main.IsBound := by
  cases main with
  | signing | failing | receiving | received => exact trivial
  | _ => cases h

/-- Calls of `submit_pin` and statuses have no part in a cancellation. -/
theorem Guarded.congr (h : Guarded s) (hmanager : s'.managerSet = s.managerSet)
    (hmain : s'.main = s.main) (hcancelled : s'.cancelled = s.cancelled)
    (hcancels : s'.cancels = s.cancels) (hgranted : s'.granted = s.granted) : Guarded s' := by
  refine ⟨?_, ?_, ?_, ?_, ?_⟩
  · rw [hmanager, hmain]
    exact h.manager
  · rw [hcancels, hcancelled]
    exact h.flag
  · rw [hcancels, hgranted]
    exact h.returned
  · rw [hgranted, hcancelled, hmain]
    exact h.granted
  · rw [hmain, hcancelled]
    exact h.cancelling

/-- An outcome changes the calls and the slot of the reply only. -/
theorem exists_report_eq (outcome : Outcome) (s : State) :
    (∃ pinReply callers, s.reply outcome = { s with pinReply, callers }) ∧
      ∃ pinReply callers checking, s.report outcome = { s with pinReply, callers, checking } := by
  have hreply : ∀ s : State, ∃ pinReply callers,
      s.reply outcome = { s with pinReply, callers } := by
    intro s
    unfold State.reply
    split
    · exact ⟨_, _, rfl⟩
    · exact ⟨_, _, rfl⟩
  refine ⟨hreply s, ?_⟩
  obtain ⟨pinReply, callers, heq⟩ := hreply (s.judge outcome)
  exact ⟨pinReply, callers, _, heq⟩

/-- A call of `cancel` goes on. -/
theorem Guarded.setCancel (h : Guarded s) (hcancelled : s.cancelled = true) (k : ℕ) (cancel : Cancel)
    (hcancel : cancel ≠ .returned (.ok ())) :
    Guarded { s with cancels := Function.update s.cancels k cancel } := by
  refine ⟨h.manager, fun _ _ => hcancelled, ?_, h.granted, h.cancelling⟩
  intro k' hreturned
  by_cases hk : k' = k
  · rw [hk] at hreturned
    exact absurd ((Function.update_self ..).symm.trans hreturned) hcancel
  · exact h.returned k' ((Function.update_of_ne hk ..).symm.trans hreturned)

theorem Guarded.cancel (h : Guarded s) {k : ℕ} {error : Option String}
    (hstep : s.cancel k error = some s') : Guarded s' := by
  unfold State.cancel at hstep
  split at hstep
  · obtain rfl := Option.some.inj hstep
    have hraised : Guarded { s with cancelled := true } :=
      ⟨h.manager, fun _ _ => rfl, h.returned, fun hgranted => ⟨rfl, (h.granted hgranted).2⟩,
        fun _ => rfl⟩
    exact hraised.setCancel rfl k .stored nofun
  · next hstored =>
      obtain rfl := Option.some.inj hstep
      have hcancelled := h.flag k (by rw [hstored]; exact nofun)
      obtain ⟨pinReply, callers, hreply⟩ := (exists_report_eq cancelledOutcome s).1
      rw [hreply]
      exact (h.setCancel hcancelled k .replied nofun).congr rfl rfl rfl rfl rfl
  · next hreplied =>
      have hcancelled := h.flag k (by rw [hreplied]; exact nofun)
      split_ifs at hstep with hmanager
      · split at hstep
        · obtain rfl := Option.some.inj hstep
          rw [h.manager] at hmanager
          exact ⟨h.manager, fun _ _ => hcancelled, fun _ _ => rfl,
            fun _ => ⟨hcancelled, bound_of_holdsManager hmanager⟩, h.cancelling⟩
        · obtain rfl := Option.some.inj hstep
          exact h.setCancel hcancelled k _ nofun
      · obtain rfl := Option.some.inj hstep
        exact h.setCancel hcancelled k _ nofun
  · cases hstep

/-- `authenticate` goes on. -/
theorem Guarded.go (h : Guarded s) (main : Main) {managerSet : Bool}
    (hmanager : managerSet = main.holdsManager) (hbound : s.granted = true → main.IsBound)
    (hcancelling : main = .cancelling → s.cancelled = true) (pendingPin : Option Sender)
    (worker : Worker) : Guarded { s with managerSet, pendingPin, worker, main } :=
  ⟨hmanager, h.flag, h.returned, fun hgranted => ⟨(h.granted hgranted).1, hbound hgranted⟩,
    hcancelling⟩

theorem Guarded.prepare (h : Guarded s) {error : Option NativeError}
    (hstep : s.prepare error = some s') : Guarded s' := by
  unfold State.prepare at hstep
  split at hstep
  · next hmain =>
      have hnot : s.granted = true → False := by
        intro hgranted
        have hbound := (h.granted hgranted).2
        rw [hmain] at hbound
        exact hbound
      have hmanager := h.manager
      rw [hmain] at hmanager
      split at hstep
      · next error =>
          obtain rfl := Option.some.inj hstep
          exact h.go (.returned (.error error)) hmanager (fun hgranted => (hnot hgranted).elim)
            nofun s.pendingPin s.worker
      · obtain rfl := Option.some.inj hstep
        exact h.go .signing rfl (fun _ => trivial) nofun s.pendingPin .idle
  · cases hstep

theorem Guarded.sign (h : Guarded s) {error : Option AuthenticatorError}
    (hstep : s.sign error = some s') : Guarded s' := by
  unfold State.sign at hstep
  split at hstep
  · next hmain =>
      have hmanager := h.manager
      rw [hmain] at hmanager
      split at hstep
      · next error =>
          obtain rfl := Option.some.inj hstep
          exact h.go (.failing error) hmanager (fun _ => trivial) nofun s.pendingPin s.worker
      · obtain rfl := Option.some.inj hstep
        exact h.go .receiving hmanager (fun _ => trivial) nofun s.pendingPin s.worker
  · cases hstep

theorem Guarded.receive (h : Guarded s) {result : Received}
    (hstep : s.receive result = some s') : Guarded s' := by
  unfold State.receive at hstep
  split at hstep
  · next hmain =>
      have hmanager := h.manager
      rw [hmain] at hmanager
      obtain rfl := Option.some.inj hstep
      exact h.go (.received result) hmanager (fun _ => trivial) nofun s.pendingPin s.worker
  · cases hstep

/-- `authenticate` looks at the flag after it has taken the manager away. -/
theorem Guarded.advance (h : Guarded s) {request : FidoRequest}
    (hregular : s.regular .advance = true) (hstep : s.advance request = some s') : Guarded s' := by
  unfold State.advance at hstep
  unfold State.regular at hregular
  have hmanager := h.manager
  split at hstep <;> rename_i hmain <;> rw [hmain] at hregular hmanager
  case h_1 error =>
    obtain rfl := Option.some.inj hstep
    refine h.go (.failed error) rfl (fun hgranted => ?_) nofun s.pendingPin s.worker
    simp [hgranted] at hregular
  case h_2 error =>
    split_ifs at hstep
    obtain rfl := Option.some.inj hstep
    refine h.go (.returned _) hmanager (fun hgranted => ?_) nofun s.pendingPin .finished
    have hbound := (h.granted hgranted).2
    rw [hmain] at hbound
    exact hbound.elim
  case h_3 result =>
    obtain rfl := Option.some.inj hstep
    exact h.go (.cleared result) rfl (fun _ => trivial) nofun s.pendingPin s.worker
  case h_4 result =>
    obtain rfl := Option.some.inj hstep
    exact h.go (.joining result) hmanager (fun _ => trivial) nofun none s.worker
  case h_5 result =>
    split_ifs at hstep
    obtain rfl := Option.some.inj hstep
    exact h.go (.deciding result) hmanager (fun _ => trivial) nofun s.pendingPin .finished
  case h_6 result =>
    split_ifs at hstep with hcancelled
    · obtain rfl := Option.some.inj hstep
      exact h.go .cancelling hmanager (fun _ => trivial) (fun _ => hcancelled)
        s.pendingPin s.worker
    · have hnot : s.granted = true → False := fun hgranted => hcancelled (h.granted hgranted).1
      split at hstep
      · obtain rfl := Option.some.inj hstep
        exact h.go (.returned _) hmanager (fun hgranted => (hnot hgranted).elim) nofun
          s.pendingPin s.worker
      · obtain rfl := Option.some.inj hstep
        exact h.go (.accepting _) hmanager (fun hgranted => (hnot hgranted).elim) nofun
          s.pendingPin s.worker
  case h_7 =>
    obtain rfl := Option.some.inj hstep
    obtain ⟨pinReply, callers, hreply⟩ := (exists_report_eq cancelledOutcome s).1
    rw [hreply]
    exact (h.go (.returned _) hmanager (fun _ => rfl) nofun s.pendingPin s.worker).congr
      rfl rfl rfl rfl rfl
  case h_8 result =>
    obtain rfl := Option.some.inj hstep
    obtain ⟨pinReply, callers, checking, hreport⟩ := (exists_report_eq .accepted s).2
    rw [hreport]
    refine (h.go (.returned _) hmanager (fun hgranted => ?_) nofun s.pendingPin
      s.worker).congr rfl rfl rfl rfl rfl
    have hbound := (h.granted hgranted).2
    rw [hmain] at hbound
    exact hbound.elim
  all_goals cases hstep

end guarded

/-! ## Every run -/

theorem Calls.status {s s' : State} (h : Calls s) {status : Status}
    (hregular : s.regular (.status status) = true) (hstep : s.status status = some s') :
    Calls s' := by
  unfold State.status at hstep
  split at hstep
  · obtain rfl := Option.some.inj hstep
    split
    · exact h
    · next outcome houtcome =>
        have hhanded : (status.outcome.isNone || s.handed) = true := hregular
        rw [houtcome] at hhanded
        exact h.report hhanded outcome
  · cases hstep

theorem Guarded.status {s s' : State} (h : Guarded s) {status : Status}
    (hstep : s.status status = some s') : Guarded s' := by
  unfold State.status at hstep
  split at hstep
  · obtain rfl := Option.some.inj hstep
    split
    · exact h.congr rfl rfl rfl rfl rfl
    · next outcome _ =>
        obtain ⟨pinReply, callers, checking, hreport⟩ := (exists_report_eq outcome s).2
        rw [hreport]
        exact h.congr rfl rfl rfl rfl rfl
  · cases hstep

/-- The steps of a call of `submit_pin` change nothing that a cancellation looks at. -/
theorem exists_call_eq {s s' : State} {c : ℕ}
    (hstep : (∃ pin, s.submit c pin = some s') ∨ s.register c = some s' ∨
      (∃ accepted, s.handOver c accepted = some s') ∨ s.hear c = some s') :
    ∃ pendingPin pinReply callers checking,
      s' = { s with pendingPin, pinReply, callers, checking } := by
  rcases hstep with ⟨pin, hstep⟩ | hstep | ⟨accepted, hstep⟩ | hstep
  · unfold State.submit at hstep
    split at hstep
    · split_ifs at hstep
      · exact ⟨_, _, _, _, (Option.some.inj hstep).symm⟩
      · split at hstep
        · exact ⟨_, _, _, _, (Option.some.inj hstep).symm⟩
        · exact ⟨_, _, _, _, (Option.some.inj hstep).symm⟩
    · cases hstep
  · unfold State.register at hstep
    split at hstep
    · split at hstep
      · exact ⟨_, _, _, _, (Option.some.inj hstep).symm⟩
      · exact ⟨_, _, _, _, (Option.some.inj hstep).symm⟩
    · cases hstep
  · unfold State.handOver at hstep
    split at hstep
    · split_ifs at hstep
      · exact ⟨_, _, _, _, (Option.some.inj hstep).symm⟩
      · split at hstep
        · exact ⟨_, _, _, _, (Option.some.inj hstep).symm⟩
        · exact ⟨_, _, _, _, (Option.some.inj hstep).symm⟩
    · cases hstep
  · unfold State.hear at hstep
    split at hstep
    · exact ⟨_, _, _, _, (Option.some.inj hstep).symm⟩
    · exact ⟨_, _, _, _, (Option.some.inj hstep).symm⟩
    · cases hstep

theorem Guarded.call {s s' : State} (h : Guarded s) {c : ℕ}
    (hstep : (∃ pin, s.submit c pin = some s') ∨ s.register c = some s' ∨
      (∃ accepted, s.handOver c accepted = some s') ∨ s.hear c = some s') : Guarded s' := by
  obtain ⟨pendingPin, pinReply, callers, checking, rfl⟩ := exists_call_eq hstep
  exact h.congr rfl rfl rfl rfl rfl

/-- **What one step of the protocol keeps.** -/
theorem sound_step {s s' : State} {request : FidoRequest} {action : Action}
    (h : Calls s ∧ Guarded s) (hregular : s.regular action = true)
    (hstep : s.step request action = some s') : Calls s' ∧ Guarded s' := by
  obtain ⟨hcalls, hguarded⟩ := h
  cases action with
  | submit c pin =>
      exact ⟨hcalls.submit hstep, hguarded.call (.inl ⟨pin, hstep⟩)⟩
  | register c =>
      exact ⟨hcalls.register (of_decide_eq_true hregular) hstep,
        hguarded.call (.inr (.inl hstep))⟩
  | handOver c accepted =>
      refine ⟨?_, hguarded.call (.inr (.inr (.inl ⟨accepted, hstep⟩)))⟩
      rcases accepted with _ | _
      · refine hcalls.handOver_stopped ?_ hstep
        simpa [State.regular] using hregular
      · refine hcalls.handOver_accepted ?_ hstep
        simpa [State.regular] using hregular
  | hear c =>
      exact ⟨hcalls.hear hstep, hguarded.call (.inr (.inr (.inr hstep)))⟩
  | status status => exact ⟨hcalls.status hregular hstep, hguarded.status hstep⟩
  | request =>
      have hstep' : s.request = some s' := hstep
      unfold State.request at hstep'
      split at hstep'
      · obtain rfl := Option.some.inj hstep'
        exact ⟨hcalls, hguarded.congr rfl rfl rfl rfl rfl⟩
      · cases hstep'
  | cancel k error =>
      exact ⟨hcalls.cancel (hguarded.flag k) hstep, hguarded.cancel hstep⟩
  | prepare error =>
      refine ⟨?_, hguarded.prepare hstep⟩
      have hstep' : s.prepare error = some s' := hstep
      unfold State.prepare at hstep'
      split at hstep'
      · next hmain =>
          split at hstep'
          · obtain rfl := Option.some.inj hstep'
            exact hcalls.return (of_decide_eq_true hregular)
          · obtain rfl := Option.some.inj hstep'
            exact hcalls.go (by rw [hmain]; rfl) true s.pendingPin .idle
      · cases hstep'
  | sign error =>
      refine ⟨?_, hguarded.sign hstep⟩
      have hstep' : s.sign error = some s' := hstep
      unfold State.sign at hstep'
      split at hstep'
      · next hmain =>
          split at hstep'
          · obtain rfl := Option.some.inj hstep'
            exact hcalls.go (by rw [hmain]; rfl) s.managerSet s.pendingPin s.worker
          · obtain rfl := Option.some.inj hstep'
            exact hcalls.go (by rw [hmain]; rfl) s.managerSet s.pendingPin s.worker
      · cases hstep'
  | receive result =>
      refine ⟨?_, hguarded.receive hstep⟩
      have hstep' : s.receive result = some s' := hstep
      unfold State.receive at hstep'
      split at hstep'
      · next hmain =>
          obtain rfl := Option.some.inj hstep'
          exact hcalls.go (by rw [hmain]; rfl) s.managerSet s.pendingPin s.worker
      · cases hstep'
  | advance =>
      exact ⟨hcalls.advance hregular hguarded.cancelling hstep, hguarded.advance hregular hstep⟩

/-- What one situation says of a call. -/
theorem served_of_local {cancelled returned inSlot checking : Bool} {caller : Caller}
    (h : Local cancelled returned inSlot checking caller) :
    (∀ outcome, caller.verdict = some outcome →
      caller.channel = .filled outcome ∨ caller.channel = .filled cancelledOutcome) ∧
    (∀ outcome, caller.channel = .filled outcome →
      caller.verdict = some outcome ∨ outcome = cancelledOutcome ∧ cancelled = true) ∧
    (∀ reason, caller.phase = .rejected reason →
      (caller.took = true → reason = .stopped) ∧ caller.displaced = false) ∧
    (returned = true → caller.phase = .waiting → caller.channel ≠ .open) := by
  cases h with
  | absent | holding | registered => refine ⟨nofun, nofun, nofun, nofun⟩
  | refused reason hreason =>
      exact ⟨nofun, nofun, fun _ _ => ⟨nofun, rfl⟩, nofun⟩
  | interrupted sender hcancelled =>
      refine ⟨nofun, ?_, nofun, nofun⟩
      rintro outcome ⟨⟩
      exact .inr ⟨rfl, hcancelled⟩
  | checked hreturned =>
      refine ⟨nofun, nofun, nofun, ?_⟩
      intro htrue
      rw [hreturned] at htrue
      cases htrue
  | judged phase outcome hphase =>
      refine ⟨?_, ?_, ?_, fun _ _ => nofun⟩
      · rintro outcome' ⟨⟩
        exact .inl rfl
      · rintro outcome' ⟨⟩
        exact .inl rfl
      · rintro reason rfl
        rcases hphase with hphase | hphase <;> cases hphase
  | cancelled phase checking verdict hphase hcancelled =>
      refine ⟨fun _ _ => .inr rfl, ?_, ?_, fun _ _ => nofun⟩
      · rintro outcome ⟨⟩
        exact .inr ⟨rfl, hcancelled⟩
      · rintro reason rfl
        rcases hphase with hphase | hphase <;> cases hphase
  | stopped channel hchannel =>
      refine ⟨nofun, ?_, ?_, nofun⟩
      · rintro outcome rfl
        rcases hchannel with hchannel | ⟨hchannel, hcancelled⟩
        · cases hchannel
        · cases hchannel
          exact .inr ⟨rfl, hcancelled⟩
      · rintro reason ⟨⟩
        exact ⟨fun _ => rfl, rfl⟩

theorem served_of_sound {s : State} (hcalls : Calls s) (hguarded : Guarded s) : Served s where
  delivered c := (served_of_local (hcalls c)).1
  own c := (served_of_local (hcalls c)).2.1
  request c reason hphase := ((served_of_local (hcalls c)).2.2.1 reason hphase).1
  reply c reason hphase := ((served_of_local (hcalls c)).2.2.1 reason hphase).2
  ended hreturned c := (served_of_local (hcalls c)).2.2.2 hreturned
  cancelled k result hok hmain := by
    have hbound := (hguarded.granted (hguarded.returned k hok)).2
    rw [hmain] at hbound
    exact hbound

/-- **In every state of every interleaving whose steps keep to the protocol, the outcome of a PIN goes
to the call that sent it and to no other, a rejected call leaves the requests and the replies of others
alone, no call waits after the end, and a cancellation that was granted decides the result.** -/
theorem served_of_reaches {request : FidoRequest} {s : State}
    (h : Reaches request (fun s action => s.regular action = true) s) : Served s := by
  have hsound : Calls s ∧ Guarded s := by
    induction h with
    | start =>
        refine ⟨fun _ => .absent, rfl, ?_, nofun, nofun, nofun⟩
        exact fun _ hne => absurd rfl hne
    | step h action hregular hstep ih => exact sound_step ih hregular hstep
  exact served_of_sound hsound.1 hsound.2

/-- Some actions one after the other, if each is of a kind and possible. -/
def State.play (request : FidoRequest) (kind : State → Action → Bool) :
    State → List Action → Option State
  | s, [] => some s
  | s, action :: actions =>
    if kind s action then (s.step request action).bind fun s' => s'.play request kind actions
    else none

theorem reaches_play {request : FidoRequest} {kind : State → Action → Bool} {s s' : State}
    {actions : List Action} (h : Reaches request (fun s action => kind s action = true) s)
    (hplay : s.play request kind actions = some s') :
    Reaches request (fun s action => kind s action = true) s' := by
  induction actions generalizing s with
  | nil =>
      obtain rfl := Option.some.inj hplay
      exact h
  | cons action actions ih =>
      unfold State.play at hplay
      split_ifs at hplay with hkind
      obtain ⟨s₁, hstep, hrest⟩ := Option.bind_eq_some_iff.mp hplay
      exact ih (.step h action hkind hstep) hrest

theorem Reaches.any {request : FidoRequest} {kind : State → Action → Prop} {s : State}
    (h : Reaches request kind s) : Reaches request (fun _ _ => True) s := by
  induction h with
  | start => exact .start
  | step _ action _ hstep ih => exact .step ih action trivial hstep

/-- A security key with one credential. -/
def oneKey : FidoRequest := ⟨.null, [], [[1]]⟩

/-- A PIN is asked for, and a call hands one over. -/
def submission (c : ℕ) (pin : String) : List Action :=
  [.request, .submit c pin, .register c, .handOver c true]

/-- A wrong PIN, a right one, and a cancellation before the key answers. -/
def cancelledSignature : List Action :=
  [.prepare none, .sign none, .status (.pinRequired 0)] ++ submission 0 "1234" ++
    [.status (.invalidPin 1 (some 7)), .hear 0] ++ submission 1 "4321" ++
    [.status .presenceRequired, .hear 1, .cancel 0 none, .cancel 0 none, .cancel 0 none,
      .receive (.ok (.ok ⟨none, [2], [3]⟩)), .advance, .advance, .advance, .advance, .advance]

theorem served_of_reaches_cancelledSignature :
    ∃ s, Served s ∧ (s.callers 0).phase = .answered (some (.invalid (some 7))) ∧
      (s.callers 1).phase = .answered (some .accepted) ∧ s.main.isReturned = true := by
  obtain ⟨s, hs⟩ : ∃ s, State.play oneKey State.regular {} cancelledSignature = some s :=
    Option.isSome_iff_exists.mp (by decide +kernel)
  have hview : (State.play oneKey State.regular {} cancelledSignature).map (fun s =>
      ((s.callers 0).phase, (s.callers 1).phase, s.main.isReturned)) =
        some (.answered (some (.invalid (some 7))), .answered (some .accepted), true) := by
    decide +kernel
  rw [hs] at hview
  obtain ⟨hfirst, hsecond, hreturned⟩ : _ ∧ _ ∧ _ := by simpa using hview
  exact ⟨s, served_of_reaches (reaches_play .start hs), hfirst, hsecond, hreturned⟩

/-- The key fails while it checks a PIN. -/
def failedSignature : List Action :=
  [.prepare none, .sign none, .status (.pinRequired 0)] ++ submission 0 "1234" ++
    [.receive (.ok (.error ⟨false, "device"⟩)), .advance, .advance, .advance, .advance]

/-- **The security key ends with an error while it checks a PIN: `authenticate` returns the error and
answers nobody, and the call that sent the PIN is left waiting.** -/
theorem left_waiting :
    ¬ ∀ (request : FidoRequest) (s : State), Reaches request (fun _ _ => True) s → Served s := by
  intro h
  obtain ⟨s, hs⟩ : ∃ s, State.play oneKey (fun _ _ => true) {} failedSignature = some s :=
    Option.isSome_iff_exists.mp (by decide +kernel)
  have hview : (State.play oneKey (fun _ _ => true) {} failedSignature).map (fun s =>
      ((s.callers 0).phase, (s.callers 0).channel, s.main.isReturned)) =
        some (.waiting, .open, true) := by
    decide +kernel
  rw [hs] at hview
  obtain ⟨hwaiting, hopen, hreturned⟩ : _ ∧ _ ∧ _ := by simpa using hview
  have hserved := h oneKey s (reaches_play .start hs).any
  exact hserved.ended hreturned 0 hwaiting hopen

end ProtonVpnOmarchy.Agent.Fido2
