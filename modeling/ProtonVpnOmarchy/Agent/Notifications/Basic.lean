import ProtonVpnOmarchy.Agent.StateReducer

/-!
# Notifications

The emitter of `notifications.rs`. It looks at one snapshot after the other, and remembers of each of
them what it needs in order to see what has changed. Snapshots that follow each other quickly may be
skipped.

* `Output.Has.observe` — the parts of an observation do not interfere with each other.
* `has_run` — what is sent, and what is remembered, does not depend on what the command answers.
-/

namespace ProtonVpnOmarchy.Agent.Notifications

/-! ## Texts -/

/-- Source: `notifications.rs` `NotificationCatalog` -/
structure NotificationCatalog where
  insecureWifiSummary : String
  insecureWifiBody : String
  portForwardingSummary : String
  portForwardingBody : String
  p2pDetectedSummary : String
  p2pDetectedBody : String
  connectingSummary : String
  connectingBody : String
  connectedSummary : String
  connectedBody : String
  disconnectedSummary : String
  disconnectedBody : String
  connectionErrorSummary : String
  connectionErrorBody : String
  twoFactorSummary : String
  twoFactorBody : String
  securityKeyPinSummary : String
  securityKeyPinBody : String
  touchSecurityKeySummary : String
  touchSecurityKeyBody : String
  attentionSummary : String
  attentionBody : String
  operationFailedSummary : String
  operationFailedBody : String
  secureServer : String

/-- Source: `notifications.rs` -/
def ENGLISH_NOTIFICATIONS : NotificationCatalog where
  insecureWifiSummary := "The Wi-Fi network is not secure"
  insecureWifiBody :=
    "This network does not use WPA encryption. Connect to Proton VPN to protect your traffic."
  portForwardingSummary := "Port forwarding is active"
  portForwardingBody := "Proton VPN assigned port {port}."
  p2pDetectedSummary := "P2P traffic detected"
  p2pDetectedBody := "This server does not allow P2P for your plan. Connect to a P2P server."
  connectingSummary := "Proton VPN is connecting"
  connectingBody := "Preparing a secure connection…"
  connectedSummary := "Proton VPN is connected"
  connectedBody := "Connected to {destination}"
  disconnectedSummary := "Proton VPN is disconnected"
  disconnectedBody := "Traffic is no longer using the VPN tunnel."
  connectionErrorSummary := "Proton VPN connection error"
  connectionErrorBody := "Open the panel to review the error and try again."
  twoFactorSummary := "Two-factor authentication"
  twoFactorBody := "Proton VPN is waiting for your code in the panel."
  securityKeyPinSummary := "Your security key needs a PIN"
  securityKeyPinBody := "Return to the Proton VPN panel to enter it."
  touchSecurityKeySummary := "Touch your security key"
  touchSecurityKeyBody := "Authentication is continuing in the Proton VPN panel."
  attentionSummary := "Proton VPN needs your attention"
  attentionBody := "Open the panel to continue authentication."
  operationFailedSummary := "Proton VPN operation failed"
  operationFailedBody := "Open the panel to review the error and try again."
  secureServer := "a secure server"

/-- Source: `notifications.rs` -/
def SPANISH_NOTIFICATIONS : NotificationCatalog where
  insecureWifiSummary := "La red Wi-Fi no es segura"
  insecureWifiBody :=
    "Esta red no usa cifrado WPA. Conéctate a Proton VPN para proteger tu tráfico."
  portForwardingSummary := "Reenvío de puertos activo"
  portForwardingBody := "Proton VPN asignó el puerto {port}."
  p2pDetectedSummary := "Tráfico P2P detectado"
  p2pDetectedBody := "Este servidor no permite P2P para tu plan. Conéctate a un servidor P2P."
  connectingSummary := "Proton VPN está conectando"
  connectingBody := "Preparando una conexión segura…"
  connectedSummary := "Proton VPN está conectado"
  connectedBody := "Conectado a {destination}"
  disconnectedSummary := "Proton VPN está desconectado"
  disconnectedBody := "El tráfico ya no usa el túnel VPN."
  connectionErrorSummary := "Error de conexión de Proton VPN"
  connectionErrorBody := "Abre el panel para ver el error y volver a intentarlo."
  twoFactorSummary := "Verificación en dos pasos"
  twoFactorBody := "Proton VPN está esperando tu código en el panel."
  securityKeyPinSummary := "Tu llave necesita un PIN"
  securityKeyPinBody := "Vuelve al panel de Proton VPN para ingresarlo."
  touchSecurityKeySummary := "Toca tu llave de seguridad"
  touchSecurityKeyBody := "La autenticación continúa en el panel de Proton VPN."
  attentionSummary := "Proton VPN necesita tu atención"
  attentionBody := "Abre el panel para continuar la autenticación."
  operationFailedSummary := "La operación de Proton VPN falló"
  operationFailedBody := "Abre el panel para revisar el error y volver a intentarlo."
  secureServer := "un servidor seguro"

/-- Source: `notifications.rs` `notification_catalog` -/
def notificationCatalog (locale : String) : NotificationCatalog :=
  let language := locale.toList.takeWhile fun c => c ≠ '-' && c ≠ '_'
  if language.map Char.toLower = ['e', 's'] then SPANISH_NOTIFICATIONS else ENGLISH_NOTIFICATIONS

/-- What a message about the status of a connection says. -/
def NotificationCatalog.statusSummary (text : NotificationCatalog) : ConnectionStatus → Option String
  | .unknown => none
  | .disconnected => some text.disconnectedSummary
  | .connecting => some text.connectingSummary
  | .connected => some text.connectedSummary
  | .error => some text.connectionErrorSummary

theorem notificationCatalog_cases (locale : String) :
    notificationCatalog locale = SPANISH_NOTIFICATIONS ∨
      notificationCatalog locale = ENGLISH_NOTIFICATIONS := by
  unfold notificationCatalog
  dsimp only
  split_ifs
  · exact .inl rfl
  · exact .inr rfl

/-- Source: `notifications.rs` `StatusIcon` -/
inductive StatusIcon where
  | information
  | disconnected
  | connecting
  | connected
  deriving DecidableEq

/-- Source: `notifications.rs` `NotificationMessage` -/
structure NotificationMessage where
  icon : StatusIcon
  urgency : String
  summary : String
  body : String
  deriving DecidableEq

/-! ## The emitter -/

/-- Source: `notifications.rs` `NotificationEmitter` -/
structure NotificationEmitter where
  connectionId : Option UInt32
  generalId : Option UInt32
  lastConnectionStatus : ConnectionStatus
  lastConnectionSignature : String
  lastConnectionErrorCode : String
  lastForwardedPort : Option UInt16
  lastNetworkGeneration : UInt64
  lastOperationId : String
  lastAttentionStage : String

/-- Source: `notifications.rs` `connection_signature` -/
def connectionSignature (snapshot : StateReducer.StateSnapshot) : String :=
  snapshot.connection.countryCode.getD "" ++ ":" ++ snapshot.connection.serverName.getD "" ++ ":" ++
    snapshot.connection.protocol.getD ""

/-- Source: `notifications.rs` `connection_destination` -/
def connectionDestination (snapshot : StateReducer.StateSnapshot) (text : NotificationCatalog) : String :=
  (((snapshot.connection.countryName.filter (· ≠ "")).or
    (snapshot.connection.countryCode.filter (· ≠ ""))).or
      (snapshot.connection.serverName.filter (· ≠ ""))).getD text.secureServer

/-- Source: `notifications.rs` `is_connection_operation` -/
def isConnectionOperation (operation : OperationRecord) : Bool :=
  operation.domain = .tunnelConfiguration && "connection.".toList.isPrefixOf operation.kind.toList

namespace NotificationEmitter

/-- Source: `notifications.rs` `NotificationEmitter::new` -/
def new (initial : StateReducer.StateSnapshot) : NotificationEmitter where
  connectionId := none
  generalId := none
  lastConnectionStatus := initial.connection.status
  lastConnectionSignature := connectionSignature initial
  lastConnectionErrorCode := initial.connection.errorCode.getD ""
  lastForwardedPort := initial.features.portForwarding.activePort
  lastNetworkGeneration := initial.networkSecurity.generation
  lastOperationId := (initial.operations.recent.head?.map OperationRecord.id).getD ""
  lastAttentionStage := ""

variable (emitter : NotificationEmitter) (snapshot : StateReducer.StateSnapshot) (locale : String) (enabled : Bool)

/-- The message about a connection, if something about it has changed. -/
def connectionMessage : Option NotificationMessage :=
  let status := snapshot.connection.status
  let changed := status ≠ emitter.lastConnectionStatus
  let detailsChanged := connectionSignature snapshot ≠ emitter.lastConnectionSignature
  let errorCode := snapshot.connection.errorCode.getD ""
  let restrictionChanged := errorCode ≠ emitter.lastConnectionErrorCode
  let text := notificationCatalog locale
  if errorCode = "p2p_not_allowed" ∧ restrictionChanged then
    some ⟨.information, "critical", text.p2pDetectedSummary, text.p2pDetectedBody⟩
  else
    match status with
    | .connecting =>
      if changed then some ⟨.connecting, "normal", text.connectingSummary, text.connectingBody⟩ else none
    | .connected =>
      if changed ∨ detailsChanged then
        some ⟨.connected, "normal", text.connectedSummary,
          text.connectedBody.replace "{destination}" (connectionDestination snapshot text)⟩
      else none
    | .disconnected =>
      if changed ∧ (emitter.lastConnectionStatus = .connecting ∨
          emitter.lastConnectionStatus = .connected ∨ emitter.lastConnectionStatus = .error) then
        some ⟨.disconnected, "normal", text.disconnectedSummary, text.disconnectedBody⟩
      else none
    | .error =>
      if changed then
        some ⟨.disconnected, "critical", text.connectionErrorSummary, text.connectionErrorBody⟩
      else none
    | .unknown => none

/-- The summary of a message about a connection. -/
theorem summary_connectionMessage {message : NotificationMessage}
    (h : emitter.connectionMessage snapshot locale = some message) :
    message.summary = (notificationCatalog locale).p2pDetectedSummary ∨
      (notificationCatalog locale).statusSummary snapshot.connection.status = some message.summary := by
  unfold connectionMessage at h
  dsimp only at h
  by_cases hp2p : snapshot.connection.errorCode.getD "" = "p2p_not_allowed" ∧
      snapshot.connection.errorCode.getD "" ≠ emitter.lastConnectionErrorCode
  · rw [if_pos hp2p] at h
    cases h
    exact .inl rfl
  · rw [if_neg hp2p] at h
    right
    revert h
    cases snapshot.connection.status with
    | unknown =>
        intro h
        cases h
    | disconnected =>
        intro h
        rw [← Option.some.inj (Option.ite_none_right_eq_some.mp h).2]
        rfl
    | connecting =>
        intro h
        rw [← Option.some.inj (Option.ite_none_right_eq_some.mp h).2]
        rfl
    | connected =>
        intro h
        rw [← Option.some.inj (Option.ite_none_right_eq_some.mp h).2]
        rfl
    | error =>
        intro h
        rw [← Option.some.inj (Option.ite_none_right_eq_some.mp h).2]
        rfl

/-- The emitter afterwards, and what it sends. Source: `notifications.rs` `observe_connection` -/
def observeConnection : NotificationEmitter × Option NotificationMessage :=
  ({ emitter with
      lastConnectionStatus := snapshot.connection.status
      lastConnectionSignature := connectionSignature snapshot
      lastConnectionErrorCode := snapshot.connection.errorCode.getD "" },
    if enabled then emitter.connectionMessage snapshot locale else none)

/-- Source: `notifications.rs` `observe_port_forwarding` -/
def observePortForwarding : NotificationEmitter × Option NotificationMessage :=
  let port := snapshot.features.portForwarding.activePort
  let changed := port ≠ emitter.lastForwardedPort
  let text := notificationCatalog locale
  ({ emitter with lastForwardedPort := port },
    match port with
    | some port =>
      if changed ∧ enabled then
        some ⟨.information, "normal", text.portForwardingSummary,
          text.portForwardingBody.replace "{port}" (toString port.toNat)⟩
      else none
    | none => none)

/-- Source: `notifications.rs` `observe_network_security` -/
def observeNetworkSecurity : NotificationEmitter × Option NotificationMessage :=
  let network := snapshot.networkSecurity
  let changed := network.generation ≠ emitter.lastNetworkGeneration
  let text := notificationCatalog locale
  if ¬ changed ∨ enabled = false ∨ network.known = false ∨ network.wifiConnected = false ∨
      network.insecureWifi = false then
    if changed ∧ (network.wifiConnected = false ∨ network.insecureWifi = false) then
      ({ emitter with lastNetworkGeneration := network.generation }, none)
    else (emitter, none)
  else if snapshot.connection.status = .connecting ∨ snapshot.connection.status = .connected then
    -- The generation stays pending, in case the tunnel goes.
    (emitter, none)
  else
    ({ emitter with lastNetworkGeneration := network.generation },
      some ⟨.information, "critical", text.insecureWifiSummary, text.insecureWifiBody⟩)

/-- The stages that wait for the user. -/
def attentionStages : List String :=
  ["auth.waiting_for_two_factor", "auth.security_key_pin_required", "auth.touch_security_key",
    "auth.waiting_for_human_verification", "auth.waiting_for_sso"]

/-- Source: `notifications.rs` `observe_attention_operation` -/
def observeAttentionOperation : NotificationEmitter × Option NotificationMessage :=
  match snapshot.operations.active.find? fun operation => attentionStages.contains operation.stage with
  | none => ({ emitter with lastAttentionStage := "" }, none)
  | some operation =>
    let key := operation.id ++ ":" ++ operation.stage
    if key = emitter.lastAttentionStage then (emitter, none)
    else
      let text := notificationCatalog locale
      let (summary, body) :=
        if operation.stage = "auth.waiting_for_two_factor" then (text.twoFactorSummary, text.twoFactorBody)
        else if operation.stage = "auth.security_key_pin_required" then
          (text.securityKeyPinSummary, text.securityKeyPinBody)
        else if operation.stage = "auth.touch_security_key" then
          (text.touchSecurityKeySummary, text.touchSecurityKeyBody)
        else (text.attentionSummary, text.attentionBody)
      ({ emitter with lastAttentionStage := key },
        if enabled then some ⟨.information, "normal", summary, body⟩ else none)

/-- A failure that the user is told about. -/
def isAnnounced (operation : OperationRecord) : Bool :=
  operation.state = .failed && !isConnectionOperation operation && operation.error.isSome

/-- Source: `notifications.rs` `observe_failed_operation` -/
def observeFailedOperation : NotificationEmitter × Option NotificationMessage :=
  match snapshot.operations.recent.head? with
  | none => (emitter, none)
  | some operation =>
    if operation.id = emitter.lastOperationId then (emitter, none)
    else
      let text := notificationCatalog locale
      ({ emitter with lastOperationId := operation.id },
        if enabled && isAnnounced operation then
          some ⟨.information, "critical", text.operationFailedSummary, text.operationFailedBody⟩
        else none)

end NotificationEmitter

/-! ## Observations -/

/-- What is known about a snapshot when it is observed. -/
structure Observation where
  snapshot : StateReducer.StateSnapshot
  locale : String
  enabled : Bool
  portForwardingEnabled : Bool

/-- A notification that was sent, and the one that it replaces. -/
structure Sent where
  replacementId : Option UInt32
  message : NotificationMessage

/-- What the command answers: the id of the notification, if it succeeds. -/
abbrev Command := List Sent → Option UInt32

/-- The emitter, and what was sent, the last one first. -/
structure Output where
  emitter : NotificationEmitter
  sent : List Sent := []

variable (command : Command)

/-- A part of an observation whose notifications replace each other. -/
def Output.connection (output : Output)
    (part : NotificationEmitter → NotificationEmitter × Option NotificationMessage) : Output :=
  match part output.emitter with
  | (emitter, none) => { output with emitter := emitter }
  | (emitter, some message) =>
    let sent := ⟨emitter.connectionId, message⟩ :: output.sent
    ⟨{ emitter with connectionId := (command sent).or emitter.connectionId }, sent⟩

/-- The other parts share the id of their notifications. -/
def Output.general (output : Output)
    (part : NotificationEmitter → NotificationEmitter × Option NotificationMessage) : Output :=
  match part output.emitter with
  | (emitter, none) => { output with emitter := emitter }
  | (emitter, some message) =>
    let sent := ⟨emitter.generalId, message⟩ :: output.sent
    ⟨{ emitter with generalId := (command sent).or emitter.generalId }, sent⟩

/-- Source: `notifications.rs` `NotificationEmitter::observe` -/
def Output.observe (output : Output) (observation : Observation) : Output :=
  ((((output.connection command fun emitter =>
    emitter.observeConnection observation.snapshot observation.locale observation.enabled).general command
      fun emitter => emitter.observePortForwarding observation.snapshot observation.locale
        (observation.enabled && observation.portForwardingEnabled)).general command fun emitter =>
      emitter.observeNetworkSecurity observation.snapshot observation.locale observation.enabled).general
        command fun emitter => emitter.observeAttentionOperation observation.snapshot observation.locale
          observation.enabled).general command fun emitter =>
      emitter.observeFailedOperation observation.snapshot observation.locale observation.enabled

/-- The loop over the snapshots. Source: `notifications.rs` `run` -/
def run (initial : StateReducer.StateSnapshot) (observations : List Observation) : Output :=
  observations.foldl (Output.observe command) ⟨.new initial, []⟩

/-! ## What is decided -/

/-- What the parts of an observation send. -/
structure Messages where
  connection : Option NotificationMessage
  portForwarding : Option NotificationMessage
  networkSecurity : Option NotificationMessage
  attention : Option NotificationMessage
  failure : Option NotificationMessage

/-- The messages, in the order in which they are sent. -/
def Messages.toList (messages : Messages) : List NotificationMessage :=
  messages.connection.toList ++ messages.portForwarding.toList ++ messages.networkSecurity.toList ++
    messages.attention.toList ++ messages.failure.toList

namespace NotificationEmitter

/-- What an observation sends. -/
def messages (emitter : NotificationEmitter) (observation : Observation) : Messages where
  connection := (emitter.observeConnection observation.snapshot observation.locale observation.enabled).2
  portForwarding := (emitter.observePortForwarding observation.snapshot observation.locale
    (observation.enabled && observation.portForwardingEnabled)).2
  networkSecurity :=
    (emitter.observeNetworkSecurity observation.snapshot observation.locale observation.enabled).2
  attention :=
    (emitter.observeAttentionOperation observation.snapshot observation.locale observation.enabled).2
  failure :=
    (emitter.observeFailedOperation observation.snapshot observation.locale observation.enabled).2

/-- What an observation remembers. -/
def next (emitter : NotificationEmitter) (observation : Observation) : NotificationEmitter where
  connectionId := emitter.connectionId
  generalId := emitter.generalId
  lastConnectionStatus := observation.snapshot.connection.status
  lastConnectionSignature := connectionSignature observation.snapshot
  lastConnectionErrorCode := observation.snapshot.connection.errorCode.getD ""
  lastForwardedPort := observation.snapshot.features.portForwarding.activePort
  lastNetworkGeneration := (emitter.observeNetworkSecurity observation.snapshot observation.locale
    observation.enabled).1.lastNetworkGeneration
  lastOperationId := (emitter.observeFailedOperation observation.snapshot observation.locale
    observation.enabled).1.lastOperationId
  lastAttentionStage := (emitter.observeAttentionOperation observation.snapshot observation.locale
    observation.enabled).1.lastAttentionStage

/-- Emitters that remember the same, apart from the ids of their notifications. -/
def Same (emitter other : NotificationEmitter) : Prop :=
  ∃ connectionId generalId, other = { emitter with
    connectionId := connectionId
    generalId := generalId }

theorem Same.refl (emitter : NotificationEmitter) : Same emitter emitter := ⟨_, _, rfl⟩

/-- A part that does the same whatever the ids are, and leaves them alone. -/
def IdFree (part : NotificationEmitter → NotificationEmitter × Option NotificationMessage) : Prop :=
  ∀ emitter other, Same emitter other →
    Same (part emitter).1 (part other).1 ∧ (part other).2 = (part emitter).2

variable (snapshot : StateReducer.StateSnapshot) (locale : String) (enabled : Bool)

theorem idFree_observeConnection :
    IdFree fun emitter => emitter.observeConnection snapshot locale enabled := by
  rintro emitter _ ⟨connectionId, generalId, rfl⟩
  exact ⟨⟨connectionId, generalId, rfl⟩, rfl⟩

theorem idFree_observePortForwarding :
    IdFree fun emitter => emitter.observePortForwarding snapshot locale enabled := by
  rintro emitter _ ⟨connectionId, generalId, rfl⟩
  exact ⟨⟨connectionId, generalId, rfl⟩, rfl⟩

theorem idFree_observeNetworkSecurity :
    IdFree fun emitter => emitter.observeNetworkSecurity snapshot locale enabled := by
  rintro emitter _ ⟨connectionId, generalId, rfl⟩
  unfold observeNetworkSecurity
  dsimp only
  split_ifs
  all_goals exact ⟨⟨connectionId, generalId, rfl⟩, rfl⟩

theorem idFree_observeAttentionOperation :
    IdFree fun emitter => emitter.observeAttentionOperation snapshot locale enabled := by
  rintro emitter _ ⟨connectionId, generalId, rfl⟩
  unfold observeAttentionOperation
  dsimp only
  split
  · exact ⟨⟨connectionId, generalId, rfl⟩, rfl⟩
  · split_ifs
    all_goals exact ⟨⟨connectionId, generalId, rfl⟩, rfl⟩

theorem idFree_observeFailedOperation :
    IdFree fun emitter => emitter.observeFailedOperation snapshot locale enabled := by
  rintro emitter _ ⟨connectionId, generalId, rfl⟩
  unfold observeFailedOperation
  dsimp only
  split
  · exact ⟨⟨connectionId, generalId, rfl⟩, rfl⟩
  · split_ifs
    all_goals exact ⟨⟨connectionId, generalId, rfl⟩, rfl⟩

/-! ### Each part has its own fields -/

theorem fst_observeNetworkSecurity (emitter : NotificationEmitter) :
    (emitter.observeNetworkSecurity snapshot locale enabled).1 = { emitter with
      lastNetworkGeneration :=
        (emitter.observeNetworkSecurity snapshot locale enabled).1.lastNetworkGeneration } := by
  unfold observeNetworkSecurity
  dsimp only
  split_ifs <;> rfl

theorem fst_observeAttentionOperation (emitter : NotificationEmitter) :
    (emitter.observeAttentionOperation snapshot locale enabled).1 = { emitter with
      lastAttentionStage :=
        (emitter.observeAttentionOperation snapshot locale enabled).1.lastAttentionStage } := by
  unfold observeAttentionOperation
  dsimp only
  split
  · rfl
  · split_ifs <;> rfl

theorem fst_observeFailedOperation (emitter : NotificationEmitter) :
    (emitter.observeFailedOperation snapshot locale enabled).1 = { emitter with
      lastOperationId :=
        (emitter.observeFailedOperation snapshot locale enabled).1.lastOperationId } := by
  unfold observeFailedOperation
  dsimp only
  split
  · rfl
  · split_ifs <;> rfl

theorem observeNetworkSecurity_congr {emitter other : NotificationEmitter}
    (h : other.lastNetworkGeneration = emitter.lastNetworkGeneration) :
    (other.observeNetworkSecurity snapshot locale enabled).1.lastNetworkGeneration =
        (emitter.observeNetworkSecurity snapshot locale enabled).1.lastNetworkGeneration ∧
      (other.observeNetworkSecurity snapshot locale enabled).2 =
        (emitter.observeNetworkSecurity snapshot locale enabled).2 := by
  unfold observeNetworkSecurity
  dsimp only
  rw [h]
  split_ifs <;> exact ⟨by first | rfl | exact h, rfl⟩

theorem observeAttentionOperation_congr {emitter other : NotificationEmitter}
    (h : other.lastAttentionStage = emitter.lastAttentionStage) :
    (other.observeAttentionOperation snapshot locale enabled).1.lastAttentionStage =
        (emitter.observeAttentionOperation snapshot locale enabled).1.lastAttentionStage ∧
      (other.observeAttentionOperation snapshot locale enabled).2 =
        (emitter.observeAttentionOperation snapshot locale enabled).2 := by
  unfold observeAttentionOperation
  dsimp only
  rw [h]
  split
  · exact ⟨rfl, rfl⟩
  · split_ifs <;> exact ⟨by first | rfl | exact h, rfl⟩

theorem observeFailedOperation_congr {emitter other : NotificationEmitter}
    (h : other.lastOperationId = emitter.lastOperationId) :
    (other.observeFailedOperation snapshot locale enabled).1.lastOperationId =
        (emitter.observeFailedOperation snapshot locale enabled).1.lastOperationId ∧
      (other.observeFailedOperation snapshot locale enabled).2 =
        (emitter.observeFailedOperation snapshot locale enabled).2 := by
  unfold observeFailedOperation
  dsimp only
  rw [h]
  split
  · exact ⟨h, rfl⟩
  · split_ifs <;> exact ⟨by first | rfl | exact h, rfl⟩

end NotificationEmitter

open NotificationEmitter

/-- What an emitter has sent: the messages, the last one first. -/
def Output.Has (output : Output) (emitter : NotificationEmitter) (messages : List NotificationMessage) :
    Prop :=
  Same emitter output.emitter ∧ output.sent.map Sent.message = messages

theorem Output.Has.connection (command : Command) {output : Output} {emitter : NotificationEmitter}
    {messages : List NotificationMessage} (h : output.Has emitter messages)
    {part : NotificationEmitter → NotificationEmitter × Option NotificationMessage} (hpart : IdFree part) :
    (output.connection command part).Has (part emitter).1 ((part emitter).2.toList ++ messages) := by
  obtain ⟨hsame, hmessage⟩ := hpart _ _ h.1
  rw [← hmessage, ← h.2]
  unfold Output.connection
  rcases hresult : part output.emitter with ⟨other, _ | message⟩
  · rw [hresult] at hsame
    exact ⟨hsame, rfl⟩
  · rw [hresult] at hsame
    obtain ⟨connectionId, generalId, hother⟩ := hsame
    dsimp only at hother ⊢
    rw [hother]
    exact ⟨⟨_, _, rfl⟩, rfl⟩

theorem Output.Has.general (command : Command) {output : Output} {emitter : NotificationEmitter}
    {messages : List NotificationMessage} (h : output.Has emitter messages)
    {part : NotificationEmitter → NotificationEmitter × Option NotificationMessage} (hpart : IdFree part) :
    (output.general command part).Has (part emitter).1 ((part emitter).2.toList ++ messages) := by
  obtain ⟨hsame, hmessage⟩ := hpart _ _ h.1
  rw [← hmessage, ← h.2]
  unfold Output.general
  rcases hresult : part output.emitter with ⟨other, _ | message⟩
  · rw [hresult] at hsame
    exact ⟨hsame, rfl⟩
  · rw [hresult] at hsame
    obtain ⟨connectionId, generalId, hother⟩ := hsame
    dsimp only at hother ⊢
    rw [hother]
    exact ⟨⟨_, _, rfl⟩, rfl⟩

theorem reverse_toList {α : Type} (option : Option α) : option.toList.reverse = option.toList := by
  cases option <;> rfl

/-- One part after the other is the same as all parts at once. -/
theorem Output.Has.observe (command : Command) {output : Output} {emitter : NotificationEmitter}
    {messages : List NotificationMessage} (h : output.Has emitter messages) (observation : Observation) :
    (output.observe command observation).Has (emitter.next observation)
      ((emitter.messages observation).toList.reverse ++ messages) := by
  obtain ⟨snapshot, locale, enabled, portForwardingEnabled⟩ := observation
  have hall := ((((h.connection command (idFree_observeConnection snapshot locale enabled)).general command
    (idFree_observePortForwarding snapshot locale (enabled && portForwardingEnabled))).general command
      (idFree_observeNetworkSecurity snapshot locale enabled)).general command
        (idFree_observeAttentionOperation snapshot locale enabled)).general command
          (idFree_observeFailedOperation snapshot locale enabled)
  set second := ((emitter.observeConnection snapshot locale enabled).1.observePortForwarding snapshot locale
    (enabled && portForwardingEnabled)).1 with hsecond
  have hnetwork := observeNetworkSecurity_congr snapshot locale enabled
    (show second.lastNetworkGeneration = emitter.lastNetworkGeneration from rfl)
  set third := (second.observeNetworkSecurity snapshot locale enabled).1 with hthird
  have hattention := observeAttentionOperation_congr snapshot locale enabled
    (show third.lastAttentionStage = emitter.lastAttentionStage by
      rw [hthird, fst_observeNetworkSecurity]
      rfl)
  set fourth := (third.observeAttentionOperation snapshot locale enabled).1 with hfourth
  have hfailure := observeFailedOperation_congr snapshot locale enabled
    (show fourth.lastOperationId = emitter.lastOperationId by
      rw [hfourth, fst_observeAttentionOperation, hthird, fst_observeNetworkSecurity]
      rfl)
  have hnext : (fourth.observeFailedOperation snapshot locale enabled).1 =
      emitter.next ⟨snapshot, locale, enabled, portForwardingEnabled⟩ := by
    rw [fst_observeFailedOperation, hfailure.1, hfourth, fst_observeAttentionOperation, hattention.1,
      hthird, fst_observeNetworkSecurity, hnetwork.1]
    rfl
  rw [hnext, hfailure.2, hattention.2, hnetwork.2] at hall
  unfold Messages.toList
  simp only [List.reverse_append, reverse_toList, List.append_assoc]
  exact hall

/-! ## Runs -/

/-- What is remembered after a number of observations. -/
def remembered (initial : StateReducer.StateSnapshot) (observations : List Observation) :
    NotificationEmitter :=
  observations.foldl NotificationEmitter.next (.new initial)

theorem remembered_concat (initial : StateReducer.StateSnapshot) (observations : List Observation)
    (observation : Observation) :
    remembered initial (observations ++ [observation]) =
      (remembered initial observations).next observation := by
  unfold remembered
  rw [List.foldl_append]
  rfl

/-- What is found in a number of observations, the last one first. -/
def collected {α : Type} (find : NotificationEmitter → Observation → List α)
    (initial : StateReducer.StateSnapshot) (observations : List Observation) : List α :=
  (observations.foldl (fun past observation =>
    (past.1.next observation, find past.1 observation ++ past.2)) (NotificationEmitter.new initial, [])).2

theorem collected_concat {α : Type} (find : NotificationEmitter → Observation → List α)
    (initial : StateReducer.StateSnapshot) (observations : List Observation) (observation : Observation) :
    collected find initial (observations ++ [observation]) =
      find (remembered initial observations) observation ++ collected find initial observations := by
  have hremembered : ∀ (observations : List Observation) (emitter : NotificationEmitter) (past : List α),
      (observations.foldl (fun past observation =>
        (past.1.next observation, find past.1 observation ++ past.2)) (emitter, past)).1 =
          observations.foldl NotificationEmitter.next emitter := by
    intro observations
    induction observations with
    | nil => exact fun _ _ => rfl
    | cons observation observations ih => exact fun emitter past => ih _ _
  unfold collected remembered
  rw [List.foldl_append, List.foldl_cons, List.foldl_nil, hremembered]

/-- The messages of a number of observations, the last one first. -/
def decisions : StateReducer.StateSnapshot → List Observation → List Messages :=
  collected fun emitter observation => [emitter.messages observation]

/-- **What is sent does not depend on what the command answers.** -/
theorem has_run (command : Command) (initial : StateReducer.StateSnapshot)
    (observations : List Observation) :
    (run command initial observations).Has (remembered initial observations)
      ((decisions initial observations).flatMap fun messages => messages.toList.reverse) := by
  induction observations using List.reverseRecOn with
  | nil => exact ⟨Same.refl _, rfl⟩
  | append_singleton observations observation ih =>
      rw [remembered_concat, decisions, collected_concat, List.singleton_append, List.flatMap_cons]
      have hrun : run command initial (observations ++ [observation]) =
          (run command initial observations).observe command observation := by
        unfold run
        rw [List.foldl_append]
        rfl
      rw [hrun]
      exact ih.observe command observation

end ProtonVpnOmarchy.Agent.Notifications
