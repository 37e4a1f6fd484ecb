import SeekTalent.Base.PyText
import SeekTalent.Base.Table
import SeekTalent.Liepin.DetailStore

/-!
# Connections and their compliance gates

`LiepinStore` keeps the connections to provider accounts, and the compliance gates that say
for which account a search may be run. A connection names its gate by reference. Binding or
approving an account writes it to both tables at once; recording a session writes it to the
connection alone, whatever the gate says. A run is created only if the two agree.

An operation is one database transaction: it answers the changed tables, or raises and
changes nothing. What is read from the clock or drawn at random is an argument.
-/

namespace SeekTalent

/-- What the operations use of the interpreter's library. -/
structure ConnectionLibrary where
  /-- `str.lower` -/
  lower : String → String
  /-- `hmac.new(secret, identity, sha256).hexdigest()` -/
  hmacSha256 : String → String → String

def ConnectionLibrary.ascii : ConnectionLibrary where
  lower := fun s => String.ofList (s.toList.map Char.toLower)
  hmacSha256 := fun secret identity => secret ++ "/" ++ identity

def hmacProviderAccountHash (lib : ConnectionLibrary) (secret accountIdentity : String) : String :=
  "hmac-sha256:" ++ lib.hmacSha256 secret (lib.lower (Py.strip accountIdentity))

/-! ## 1. Rows -/

inductive GateStatus where
  | pendingAccountBinding
  | approved
  | denied
  | expired
  deriving DecidableEq

structure ComplianceGate where
  scope : LiepinScope
  providerAccountHash : Option String
  status : GateStatus
  candidatePersonalInfoProcessingBasis : String
  personalInformationProcessor : String
  operatorAuditOwner : String
  accountHolderAuthorized : Bool
  humanInitiatedRecruiting : Bool
  allowedPurposes : List String := []
  deletionSlaDays : Int
  deletionPath : String
  rawDetailRetentionAllowedAfterDebug : Bool
  fixtureExportAllowed : Bool
  policyRef : String

namespace ComplianceGate

def basePolicyAllows (gate : ComplianceGate) (purpose : String) : Bool :=
  Py.strip gate.scope.tenantId != "" &&
  Py.strip gate.scope.workspaceId != "" &&
  Py.strip gate.scope.actorId != "" &&
  Py.strip gate.candidatePersonalInfoProcessingBasis != "" &&
  Py.strip gate.personalInformationProcessor != "" &&
  Py.strip gate.operatorAuditOwner != "" &&
  gate.accountHolderAuthorized &&
  gate.humanInitiatedRecruiting &&
  gate.allowedPurposes.contains purpose &&
  decide (gate.deletionSlaDays > 0) &&
  Py.strip gate.deletionPath != "" &&
  !gate.rawDetailRetentionAllowedAfterDebug &&
  !gate.fixtureExportAllowed &&
  Py.strip gate.policyRef != ""

def allowsLiveSearch (gate : ComplianceGate) (providerAccountHash : Option String)
    (purpose : String := "search") : Bool :=
  gate.status == .approved &&
  gate.providerAccountHash != none &&
  gate.providerAccountHash == providerAccountHash &&
  gate.basePolicyAllows purpose

end ComplianceGate

/-- A row of `liepin_compliance_gates`; the gate is what `_gate_from_row` reads of it. -/
structure ComplianceGateRow where
  gateRef : String
  gate : ComplianceGate

inductive ConnectionStatus where
  | pendingLogin
  | loginReady
  | connected
  | revoked
  deriving DecidableEq

structure LiepinConnectionRow where
  connectionId : String
  scope : LiepinScope
  complianceGateRef : String
  status : ConnectionStatus := .pendingLogin
  providerAccountHash : Option String := none
  observedProviderAccountSubject : Option String := none
  sessionStoreKeyId : Option String := none
  encryptedStateSha256 : Option String := none
  sessionUpdatedAt : Option String := none
  revokedAt : Option String := none

structure LiepinRunRow where
  runId : String
  scope : LiepinScope
  connectionId : String
  complianceGateRef : String
  status : String := "queued"

structure LiepinEventRow where
  scope : LiepinScope
  subjectType : String
  subjectId : String
  sequence : Nat
  eventName : String
  payload : List (String × String)
  redactionState : String

namespace LiepinConnectionRow

/-- `UPDATE … SET provider_account_hash = ?, status = 'connected'` -/
def connect (row : LiepinConnectionRow) (accountHash : String) : LiepinConnectionRow :=
  { row with providerAccountHash := some accountHash, status := .connected }

/-- What `record_session_metadata` makes of a row. -/
def withSession (row : LiepinConnectionRow)
    (providerAccountHash sessionStoreKeyId encryptedStateSha256 now : String) :
    LiepinConnectionRow :=
  { row with
    providerAccountHash := some providerAccountHash
    status := .connected
    sessionStoreKeyId := some sessionStoreKeyId
    encryptedStateSha256 := some encryptedStateSha256
    sessionUpdatedAt := some now
    revokedAt := none }

/-- What `revoke_session` leaves of a row. -/
def revoke (row : LiepinConnectionRow) (now : String) : LiepinConnectionRow :=
  { row with
    status := .revoked
    providerAccountHash := none
    observedProviderAccountSubject := none
    sessionStoreKeyId := none
    encryptedStateSha256 := none
    sessionUpdatedAt := none
    revokedAt := some now }

/-- The account that `bind_connection_account` finds on a connection. -/
def accountToBind (row : LiepinConnectionRow) (lib : ConnectionLibrary) (secret : String) :
    Option String :=
  if row.status = .connected ∧ row.providerAccountHash ≠ none then row.providerAccountHash
  else if row.status = .loginReady then
    match row.observedProviderAccountSubject with
    | some subject =>
      if subject ≠ "" then some (hmacProviderAccountHash lib secret subject) else none
    | none => none
  else none

end LiepinConnectionRow

/-- `UPDATE … SET provider_account_hash = ?, status = 'approved'` -/
def ComplianceGateRow.approve (row : ComplianceGateRow) (accountHash : String) :
    ComplianceGateRow :=
  { row with
    gate := { row.gate with providerAccountHash := some accountHash, status := .approved } }

structure ConnectionStore where
  gates : List ComplianceGateRow := []
  connections : List LiepinConnectionRow := []
  runs : List LiepinRunRow := []
  events : List LiepinEventRow := []
  nodup_gateRefs : (gates.map (·.gateRef)).Nodup := by simp
  nodup_connectionIds : (connections.map (·.connectionId)).Nodup := by simp
  nodup_runIds : (runs.map (·.runId)).Nodup := by simp

/-! ## 2. What an event may hold -/

def unsafePayloadKeys : List String :=
  ["auth", "authHeader", "auth_header", "authHeaders", "auth_headers", "authorization", "authUrl",
    "auth_url", "accountSubject", "account_subject", "browserContext", "browser_context", "cdpUrl",
    "cdp_url", "cookie", "rawProviderPayload", "raw_provider_payload", "rawPayload", "raw_payload",
    "providerPayload", "provider_payload", "providerAccountSubject", "provider_account_subject",
    "observedProviderAccountSubject", "observed_provider_account_subject", "remoteDebuggingPort",
    "remote_debugging_port", "debugWebsocketUrl", "debug_websocket_url", "playwright", "wsEndpoint",
    "ws_endpoint", "workerBaseUrl", "worker_base_url", "cookies", "localStorage", "local_storage",
    "sessionStorage", "session_storage", "storageState", "storage_state", "workerUrl", "worker_url",
    "token", "streamToken", "stream_token"]

def unsafeRevokeReasonMarkers : List String :=
  ["access", "authorization", "authheader", "bearer", "basic", "cdp", "cookie", "debugwebsocket",
    "digest", "localstorage", "refresh", "sessionstorage", "storagestate", "token", "websocket"]

def normalizePayloadKey (lib : ConnectionLibrary) (key : String) : String :=
  lib.lower (String.ofList (key.toList.filter fun c => c != '_' && c != '-'))

def normalizeRevokeReasonMarker (lib : ConnectionLibrary) (reason : String) : String :=
  String.ofList ((normalizePayloadKey lib reason).toList.filter (· != ' '))

/-- `has_unsafe_payload` of a text that stands under no key, or under a key other than
    `redaction_state`. -/
def hasUnsafeText (lib : ConnectionLibrary) (value : String) : Bool :=
  let lowered := lib.lower value
  let anyOf (markers : List String) : Bool := markers.any (Py.contains lowered)
  anyOf ["authorization:", "bearer ", "authorization basic ", "authorization token ",
    "authorization digest "] ||
  ["basic ", "token ", "digest "].any (Py.startsWith lowered) ||
  anyOf ["authorization: basic", "browsercontext=", "cdp://", "devtools/browser",
    "internal-worker-observed-account", "observedprovideraccountsubject", "devtools/page",
    "provider account subject", "provideraccountsubject", "remote debugging port",
    "storage_state", "rawproviderpayload", "raw_provider_payload", "providerpayload",
    "provider_payload", "workerurl="] ||
  (["ws://", "wss://"].any (Py.startsWith lowered) &&
    anyOf ["devtools/browser", "devtools/page", "playwright"]) ||
  (anyOf ["127.0.0.1", "localhost"] &&
    anyOf [":9222", "/json/version", "/devtools/", "/internal", ":9999"]) ||
  (anyOf [":9222"] && anyOf ["/json/version", "/devtools/"]) ||
  (anyOf ["worker"] && anyOf ["/internal"]) ||
  (anyOf ["liepin.com"] && anyOf ["token=", "cookie=", "auth=", "sid="])

/-- `has_unsafe_payload` of a dictionary of texts. -/
def hasUnsafePayload (lib : ConnectionLibrary) (payload : List (String × String)) : Bool :=
  payload.any fun (key, value) =>
    let normalizedKey := normalizePayloadKey lib key
    (unsafePayloadKeys.map (normalizePayloadKey lib)).contains normalizedKey ||
    Py.contains normalizedKey "token" ||
    Py.contains normalizedKey "cookie" ||
    (!(normalizedKey == "redactionstate" && lib.lower value == "raw_provider_payload") &&
      hasUnsafeText lib value)

def safeRevokeReason (lib : ConnectionLibrary) (reason : String) : String :=
  let normalized := Py.strip reason
  let normalizedKey := normalizeRevokeReasonMarker lib normalized
  if normalized = "" then "unspecified"
  else if hasUnsafeText lib normalized ||
      (unsafePayloadKeys.map (normalizePayloadKey lib)).contains normalizedKey ||
      unsafeRevokeReasonMarkers.any (Py.contains normalizedKey) then
    "unsafe_reason_redacted"
  else normalized

/-! ## 3. The operations -/

namespace ConnectionStore

/-- The gate with this reference, if it is in the scope. -/
def gate (store : ConnectionStore) (scope : LiepinScope) (gateRef : String) :
    Option ComplianceGateRow :=
  store.gates.find? fun row => row.gateRef = gateRef ∧ row.gate.scope = scope

/-- The connection with this id, if it is in the scope. -/
def connection (store : ConnectionStore) (scope : LiepinScope) (connectionId : String) :
    Option LiepinConnectionRow :=
  store.connections.find? fun row => row.scope = scope ∧ row.connectionId = connectionId

/-- `UPDATE liepin_connections … WHERE` the row is in the scope and has the id. -/
def updateConnection (store : ConnectionStore) (scope : LiepinScope) (connectionId : String)
    (f : LiepinConnectionRow → LiepinConnectionRow)
    (hf : ∀ row, (f row).connectionId = row.connectionId) : ConnectionStore :=
  { store with
    connections := Table.updateWhere
      (fun row => row.scope = scope ∧ row.connectionId = connectionId) f store.connections
    nodup_connectionIds := Table.nodup_keys_updateWhere store.nodup_connectionIds hf }

/-- Both tables get the account: the gate is approved for it, the connection connected. -/
def bindAccount (store : ConnectionStore) (scope : LiepinScope) (gateRef connectionId : String)
    (accountHash : String) : ConnectionStore :=
  { store with
    gates := Table.updateWhere (fun row => row.gateRef = gateRef ∧ row.gate.scope = scope)
      (·.approve accountHash) store.gates
    connections := Table.updateWhere
      (fun row => row.scope = scope ∧ row.connectionId = connectionId)
      (·.connect accountHash) store.connections
    nodup_gateRefs := Table.nodup_keys_updateWhere store.nodup_gateRefs fun _ => rfl
    nodup_connectionIds := Table.nodup_keys_updateWhere store.nodup_connectionIds fun _ => rfl }

/-- `create_compliance_gate`, with the reference that is drawn. -/
def createComplianceGate (scope : LiepinScope) (gate : ComplianceGate) (gateRef : String)
    (store : ConnectionStore) : Except String (ConnectionStore × String) :=
  if h : gateRef ∈ store.gates.map (·.gateRef) then
    .error "UNIQUE constraint failed: liepin_compliance_gates.gate_ref"
  else
    .ok ({ store with
      gates := store.gates ++ [⟨gateRef, { gate with scope := scope }⟩]
      nodup_gateRefs := by
        rw [List.map_append]
        exact store.nodup_gateRefs.append (List.nodup_singleton _) (by simpa using h) }, gateRef)

/-- `given or drawn` -/
def givenOr (given : Option String) (drawn : String) : String :=
  if given.getD "" ≠ "" then given.getD "" else drawn

/-- `create_connection`, with the id that is drawn when none is given. -/
def createConnection (scope : LiepinScope) (complianceGateRef : String)
    (connectionId : Option String) (drawn : String) (store : ConnectionStore) :
    Except String (ConnectionStore × String) :=
  let id := givenOr connectionId drawn
  if h : id ∈ store.connections.map (·.connectionId) then
    .error "UNIQUE constraint failed: liepin_connections.connection_id"
  else
    .ok ({ store with
      connections := store.connections ++
        [{ connectionId := id, scope := scope, complianceGateRef := complianceGateRef }]
      nodup_connectionIds := by
        rw [List.map_append]
        exact store.nodup_connectionIds.append (List.nodup_singleton _) (by simpa using h) }, id)

def recordConnectionAccountSubject (scope : LiepinScope)
    (connectionId observedProviderAccountSubject : String) (store : ConnectionStore) :
    ConnectionStore × Bool :=
  if observedProviderAccountSubject = "" then (store, false)
  else
    match store.connection scope connectionId with
    | none => (store, false)
    | some row =>
      -- the other two conditions of the statement's `WHERE`
      if row.status = .pendingLogin ∧ row.providerAccountHash = none then
        (store.updateConnection scope connectionId (fun row => { row with
          observedProviderAccountSubject := some observedProviderAccountSubject
          status := .loginReady }) fun _ => rfl, true)
      else (store, false)

def bindConnectionAccount (lib : ConnectionLibrary) (gateRef : String) (scope : LiepinScope)
    (connectionId secret : String) (store : ConnectionStore) : ConnectionStore × Option String :=
  match store.connection scope connectionId with
  | none => (store, none)
  | some row =>
    if row.complianceGateRef ≠ gateRef then (store, none)
    else match row.accountToBind lib secret with
      | none => (store, none)
      | some accountHash =>
        match store.gate scope gateRef with
        | none => (store, none)
        | some gateRow =>
          let gate := gateRow.gate
          if ¬(gate.status = .pendingAccountBinding ∨
              gate.status = .approved ∧ gate.providerAccountHash = some accountHash) then
            (store, none)
          else if gate.providerAccountHash ∉ [none, some accountHash] then (store, none)
          else (store.bindAccount scope gateRef connectionId accountHash, some accountHash)

def approveConnectionAccountHash (gateRef : String) (scope : LiepinScope)
    (connectionId providerAccountHash : String) (store : ConnectionStore) :
    ConnectionStore × Bool :=
  if providerAccountHash = "" then (store, false)
  else match store.connection scope connectionId with
    | none => (store, false)
    | some row =>
      if row.complianceGateRef ≠ gateRef then (store, false)
      else match store.gate scope gateRef with
        | none => (store, false)
        | some gateRow =>
          if gateRow.gate.status ∈ [.denied, .expired] then (store, false)
          else (store.bindAccount scope gateRef connectionId providerAccountHash, true)

/-- `record_session_metadata`. No gate is looked at. -/
def recordSessionMetadata (scope : LiepinScope) (connectionId : String)
    (providerAccountHash sessionStoreKeyId encryptedStateSha256 now : String)
    (store : ConnectionStore) : ConnectionStore × Option LiepinConnectionRow :=
  if providerAccountHash = "" ∨ sessionStoreKeyId = "" ∨ encryptedStateSha256 = "" then
    (store, none)
  else match store.connection scope connectionId with
    | none => (store, none)
    | some _ =>
      let store' := store.updateConnection scope connectionId
        (·.withSession providerAccountHash sessionStoreKeyId encryptedStateSha256 now)
        fun _ => rfl
      (store', store'.connection scope connectionId)

def appendEvent (lib : ConnectionLibrary) (scope : LiepinScope)
    (subjectType subjectId eventName : String) (payload : List (String × String))
    (redactionState : String) (store : ConnectionStore) : Except String ConnectionStore :=
  if hasUnsafePayload lib payload then .error "unsafe Liepin event payload"
  else
    let earlier := store.events.filter fun e => e.scope.tenantId = scope.tenantId ∧
      e.scope.workspaceId = scope.workspaceId ∧ e.subjectType = subjectType ∧
      e.subjectId = subjectId
    let sequence := (earlier.map (·.sequence)).foldl max 0 + 1
    .ok { store with
      events := store.events ++
        [{ scope, subjectType, subjectId, sequence, eventName, payload, redactionState }] }

def revokeSession (lib : ConnectionLibrary) (scope : LiepinScope)
    (connectionId reason now : String) (store : ConnectionStore) :
    Except String (ConnectionStore × Bool) :=
  match store.connection scope connectionId with
  | none => .ok (store, false)
  | some _ =>
    let revoked := store.updateConnection scope connectionId (·.revoke now) fun _ => rfl
    match revoked.appendEvent lib scope "connection" connectionId "session_revoked"
        [("connectionId", connectionId), ("reason", safeRevokeReason lib reason)] "domain" with
    | .error e => .error e
    | .ok store => .ok (store, true)

/-- The join of `create_run`: the connected connection that names the gate, with the gate. -/
def connectedWithGate (store : ConnectionStore) (scope : LiepinScope)
    (connectionId complianceGateRef : String) : Option (LiepinConnectionRow × ComplianceGate) :=
  match store.connection scope connectionId with
  | none => none
  | some row =>
    if row.complianceGateRef = complianceGateRef ∧ row.status = .connected then
      (store.gate scope complianceGateRef).map fun gateRow => (row, gateRow.gate)
    else none

/-- `create_run`, with the id that is drawn. -/
def createRun (scope : LiepinScope) (connectionId complianceGateRef runId : String)
    (store : ConnectionStore) : Except String (ConnectionStore × String) :=
  match store.connectedWithGate scope connectionId complianceGateRef with
  | none => .error "Liepin connection does not belong to compliance gate."
  | some (row, gate) =>
    if row.providerAccountHash = none ∨ row.providerAccountHash ≠ gate.providerAccountHash then
      .error "Liepin connection is not bound to the compliance gate account."
    else if ¬gate.allowsLiveSearch row.providerAccountHash then
      .error "Liepin compliance gate does not allow live search."
    else if h : runId ∈ store.runs.map (·.runId) then
      .error "UNIQUE constraint failed: liepin_runs.run_id"
    else
      .ok ({ store with
        runs := store.runs ++ [{ runId, scope, connectionId, complianceGateRef }]
        nodup_runIds := by
          rw [List.map_append]
          exact store.nodup_runIds.append (List.nodup_singleton _) (by simpa using h) }, runId)

end ConnectionStore

end SeekTalent
