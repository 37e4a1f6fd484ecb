import SeekTalent.Base.Run
import SeekTalent.Liepin.ConnectionStore

/-!
# Runs of the connection tables

Any operations in any order, with any arguments. A connection is bound when its gate is
approved for its account. Binding and approving bind; they and recording a session are the
only ways to become connected. Recording a session does not look at the gate, and approving
does not look at the other connections of its gate, so what is connected is bound in those
runs in which neither goes against a gate. A run is created for a bound connection only.
-/

namespace SeekTalent

/-! ## 1. Bound connections -/

namespace ConnectionStore

variable {store store' : ConnectionStore} {scope : LiepinScope} {gateRef connectionId : String}
variable {row : LiepinConnectionRow} {hash : String}

/-- The connection's gate is approved for the account. -/
def ApprovedFor (store : ConnectionStore) (row : LiepinConnectionRow) (hash : String) : Prop :=
  ∃ g ∈ store.gates, g.gateRef = row.complianceGateRef ∧ g.gate.scope = row.scope ∧
    g.gate.status = .approved ∧ g.gate.providerAccountHash = some hash

/-- **The binding.** What is connected has an account, and its gate is approved for it. -/
def Bound (store : ConnectionStore) : Prop :=
  ∀ row ∈ store.connections, row.status = .connected →
    ∃ hash, row.providerAccountHash = some hash ∧ store.ApprovedFor row hash

def HasAccounts (store : ConnectionStore) : Prop :=
  ∀ row ∈ store.connections, row.status = .connected → row.providerAccountHash ≠ none

theorem gate_eq_some_iff {g : ComplianceGateRow} :
    store.gate scope gateRef = some g ↔ g ∈ store.gates ∧ g.gateRef = gateRef ∧
      g.gate.scope = scope := by
  unfold gate
  rw [Table.find?_eq_some_iff store.nodup_gateRefs (k := gateRef), decide_eq_true_eq]
  intro g _ hkey
  rw [decide_eq_true_eq] at hkey
  exact hkey.1

theorem connection_eq_some_iff :
    store.connection scope connectionId = some row ↔ row ∈ store.connections ∧
      row.scope = scope ∧ row.connectionId = connectionId := by
  unfold connection
  rw [Table.find?_eq_some_iff store.nodup_connectionIds (k := connectionId), decide_eq_true_eq]
  intro row _ hkey
  rw [decide_eq_true_eq] at hkey
  exact hkey.2

theorem connection_unique {row' : LiepinConnectionRow} (h : row ∈ store.connections)
    (h' : row' ∈ store.connections) (hid : row'.connectionId = row.connectionId) : row' = row :=
  List.inj_on_of_nodup_map store.nodup_connectionIds h' h hid

theorem ApprovedFor.congr {row' : LiepinConnectionRow} (h : store.ApprovedFor row hash)
    (href : row'.complianceGateRef = row.complianceGateRef) (hscope : row'.scope = row.scope) :
    store.ApprovedFor row' hash := by
  obtain ⟨g, hg, hgref, hgscope, happroved⟩ := h
  exact ⟨g, hg, hgref.trans href.symm, hgscope.trans hscope.symm, happroved⟩

/-! ### Writing to one table -/

theorem mem_updateConnection_iff {f : LiepinConnectionRow → LiepinConnectionRow}
    {hf : ∀ row, (f row).connectionId = row.connectionId} :
    row ∈ (store.updateConnection scope connectionId f hf).connections ↔
      (∃ r ∈ store.connections, (r.scope = scope ∧ r.connectionId = connectionId) ∧ row = f r) ∨
      row ∈ store.connections ∧ ¬(row.scope = scope ∧ row.connectionId = connectionId) := by
  unfold updateConnection
  simp only [Table.mem_updateWhere_iff, decide_eq_true_eq, decide_eq_false_iff_not]

/-! ### Writing to both -/

theorem mem_bindAccount_iff :
    row ∈ (store.bindAccount scope gateRef connectionId hash).connections ↔
      (∃ r ∈ store.connections, (r.scope = scope ∧ r.connectionId = connectionId) ∧
        row = r.connect hash) ∨
      row ∈ store.connections ∧ ¬(row.scope = scope ∧ row.connectionId = connectionId) := by
  unfold bindAccount
  simp only [Table.mem_updateWhere_iff, decide_eq_true_eq, decide_eq_false_iff_not]

theorem mem_gates_bindAccount_iff {g : ComplianceGateRow} :
    g ∈ (store.bindAccount scope gateRef connectionId hash).gates ↔
      (∃ r ∈ store.gates, (r.gateRef = gateRef ∧ r.gate.scope = scope) ∧ g = r.approve hash) ∨
      g ∈ store.gates ∧ ¬(g.gateRef = gateRef ∧ g.gate.scope = scope) := by
  unfold bindAccount
  simp only [Table.mem_updateWhere_iff, decide_eq_true_eq, decide_eq_false_iff_not]

theorem approvedFor_bindAccount {g : ComplianceGateRow}
    (hg : store.gate scope gateRef = some g) (href : row.complianceGateRef = gateRef)
    (hscope : row.scope = scope) :
    (store.bindAccount scope gateRef connectionId hash).ApprovedFor row hash := by
  obtain ⟨hmem, hgref, hgscope⟩ := gate_eq_some_iff.mp hg
  refine ⟨g.approve hash, mem_gates_bindAccount_iff.mpr ?_, ?_, ?_, rfl, rfl⟩
  · exact .inl ⟨g, hmem, ⟨hgref, hgscope⟩, rfl⟩
  · exact hgref.trans href.symm
  · exact hgscope.trans hscope.symm

theorem ApprovedFor.bindAccount_of_ne {old : String} (h : store.ApprovedFor row old)
    (hne : ¬(row.complianceGateRef = gateRef ∧ row.scope = scope)) :
    (store.bindAccount scope gateRef connectionId hash).ApprovedFor row old := by
  obtain ⟨g, hg, hgref, hgscope, happroved⟩ := h
  refine ⟨g, mem_gates_bindAccount_iff.mpr (.inr ⟨hg, ?_⟩), hgref, hgscope, happroved⟩
  rw [hgref, hgscope]
  exact hne

/-- **Binding keeps what is bound**, when the other connections of the gate have the account. -/
theorem Bound.bindAccount {g : ComplianceGateRow} {r : LiepinConnectionRow} (h : store.Bound)
    (hr : store.connection scope connectionId = some r) (href : r.complianceGateRef = gateRef)
    (hg : store.gate scope gateRef = some g)
    (hothers : ∀ row ∈ store.connections, row.scope = scope → row.complianceGateRef = gateRef →
      row.connectionId ≠ connectionId → row.status = .connected →
      row.providerAccountHash = some hash) :
    (store.bindAccount scope gateRef connectionId hash).Bound := by
  intro row hrow hconnected
  obtain ⟨hrmem, hrscope, hrid⟩ := connection_eq_some_iff.mp hr
  rcases mem_bindAccount_iff.mp hrow with ⟨r', hr', ⟨-, hid⟩, rfl⟩ | ⟨hrow, hother⟩
  · obtain rfl := connection_unique hrmem hr' (hid.trans hrid.symm)
    exact ⟨hash, rfl, approvedFor_bindAccount hg href hrscope⟩
  · by_cases hgate : row.complianceGateRef = gateRef ∧ row.scope = scope
    · obtain ⟨hrowref, hrowscope⟩ := hgate
      have hhash := hothers row hrow hrowscope hrowref (fun hid => hother ⟨hrowscope, hid⟩)
        hconnected
      exact ⟨hash, hhash, approvedFor_bindAccount hg hrowref hrowscope⟩
    · obtain ⟨old, hhash, happroved⟩ := h row hrow hconnected
      exact ⟨old, hhash, happroved.bindAccount_of_ne hgate⟩

/-! ## 2. What each operation does -/

theorem createComplianceGate_ok {gate : ComplianceGate} {answer : String}
    (h : store.createComplianceGate scope gate gateRef = .ok (store', answer)) :
    store'.connections = store.connections ∧
      store'.gates = store.gates ++ [⟨gateRef, { gate with scope := scope }⟩] := by
  unfold createComplianceGate at h
  split at h
  · cases h
  · cases h
    exact ⟨rfl, rfl⟩

theorem createConnection_ok {given : Option String} {drawn answer : String}
    (h : store.createConnection scope gateRef given drawn = .ok (store', answer)) :
    store'.gates = store.gates ∧ answer ∉ store.connections.map (·.connectionId) ∧
      store'.connections = store.connections ++
        [{ connectionId := answer, scope := scope, complianceGateRef := gateRef }] := by
  unfold createConnection at h
  dsimp only at h
  split at h
  · cases h
  · rename_i hnew
    cases h
    exact ⟨rfl, hnew, rfl⟩

theorem recordConnectionAccountSubject_cases (store : ConnectionStore) (scope : LiepinScope)
    (connectionId subject : String) :
    (store.recordConnectionAccountSubject scope connectionId subject).1 = store ∨
    (∃ r, store.connection scope connectionId = some r ∧ r.status = .pendingLogin) ∧
      (store.recordConnectionAccountSubject scope connectionId subject).1 =
        store.updateConnection scope connectionId (fun row => { row with
          observedProviderAccountSubject := some subject
          status := .loginReady }) fun _ => rfl := by
  unfold recordConnectionAccountSubject
  split
  · exact .inl rfl
  · split
    · exact .inl rfl
    · rename_i r hr
      split
      · rename_i hpending
        exact .inr ⟨⟨r, hr, hpending.1⟩, rfl⟩
      · exact .inl rfl

theorem bindConnectionAccount_cases (lib : ConnectionLibrary) (store : ConnectionStore)
    (gateRef : String) (scope : LiepinScope) (connectionId secret : String) :
    (store.bindConnectionAccount lib gateRef scope connectionId secret).1 = store ∨
    ∃ r g hash, store.connection scope connectionId = some r ∧ r.complianceGateRef = gateRef ∧
      r.status ∈ [.connected, .loginReady] ∧ store.gate scope gateRef = some g ∧
      (g.gate.status = .pendingAccountBinding ∨
        g.gate.status = .approved ∧ g.gate.providerAccountHash = some hash) ∧
      (store.bindConnectionAccount lib gateRef scope connectionId secret).1 =
        store.bindAccount scope gateRef connectionId hash := by
  unfold bindConnectionAccount
  split
  · exact .inl rfl
  rename_i r hr
  split
  · exact .inl rfl
  rename_i href
  rw [not_not] at href
  split
  · exact .inl rfl
  rename_i hash hhash
  split
  · exact .inl rfl
  rename_i g hg
  dsimp only
  split
  · exact .inl rfl
  rename_i hgate
  rw [not_not] at hgate
  split
  · exact .inl rfl
  right
  refine ⟨r, g, hash, hr, href, ?_, hg, hgate, rfl⟩
  unfold LiepinConnectionRow.accountToBind at hhash
  split at hhash
  · rename_i hconnected
    simp [hconnected.1]
  · split at hhash
    · rename_i hready
      simp [hready]
    · cases hhash

theorem approveConnectionAccountHash_cases (store : ConnectionStore) (gateRef : String)
    (scope : LiepinScope) (connectionId hash : String) :
    (store.approveConnectionAccountHash gateRef scope connectionId hash).1 = store ∨
    ∃ r g, store.connection scope connectionId = some r ∧ r.complianceGateRef = gateRef ∧
      store.gate scope gateRef = some g ∧ g.gate.status ∉ [.denied, .expired] ∧
      (store.approveConnectionAccountHash gateRef scope connectionId hash).1 =
        store.bindAccount scope gateRef connectionId hash := by
  unfold approveConnectionAccountHash
  split
  · exact .inl rfl
  split
  · exact .inl rfl
  rename_i r hr
  split
  · exact .inl rfl
  rename_i href
  rw [not_not] at href
  split
  · exact .inl rfl
  rename_i g hg
  split
  · exact .inl rfl
  rename_i hstatus
  exact .inr ⟨r, g, hr, href, hg, hstatus, rfl⟩

theorem recordSessionMetadata_cases (store : ConnectionStore) (scope : LiepinScope)
    (connectionId hash keyId sha256 now : String) :
    (store.recordSessionMetadata scope connectionId hash keyId sha256 now).1 = store ∨
    (hash ≠ "" ∧ keyId ≠ "" ∧ sha256 ≠ "") ∧
      (store.recordSessionMetadata scope connectionId hash keyId sha256 now).1 =
        store.updateConnection scope connectionId (·.withSession hash keyId sha256 now)
          fun _ => rfl := by
  unfold recordSessionMetadata
  split
  · exact .inl rfl
  · rename_i hgiven
    rw [not_or, not_or] at hgiven
    split
    · exact .inl rfl
    · exact .inr ⟨hgiven, rfl⟩

theorem appendEvent_ok {lib : ConnectionLibrary} {subjectType subjectId eventName : String}
    {payload : List (String × String)} {redactionState : String}
    (h : store.appendEvent lib scope subjectType subjectId eventName payload redactionState =
      .ok store') :
    store'.gates = store.gates ∧ store'.connections = store.connections := by
  unfold appendEvent at h
  split at h
  · cases h
  · cases h
    exact ⟨rfl, rfl⟩

theorem revokeSession_ok {lib : ConnectionLibrary} {reason now : String} {answer : Bool}
    (h : store.revokeSession lib scope connectionId reason now = .ok (store', answer)) :
    store' = store ∨ store'.gates = store.gates ∧ store'.connections =
      (store.updateConnection scope connectionId (·.revoke now) fun _ => rfl).connections := by
  unfold revokeSession at h
  split at h
  · cases h
    exact .inl rfl
  · dsimp only at h
    split at h
    · cases h
    · rename_i hevent
      cases h
      exact .inr (appendEvent_ok hevent)

/-- **A run is created** for a connected connection whose account is its gate's, and that gate
    allows a live search. -/
theorem createRun_ok {complianceGateRef runId answer : String}
    (h : store.createRun scope connectionId complianceGateRef runId = .ok (store', answer)) :
    store'.gates = store.gates ∧ store'.connections = store.connections ∧
    store'.runs = store.runs ++
      [{ runId := runId
         scope := scope
         connectionId := connectionId
         complianceGateRef := complianceGateRef }] ∧
    ∃ r g hash, store.connection scope connectionId = some r ∧ r.status = .connected ∧
      r.complianceGateRef = complianceGateRef ∧ store.gate scope complianceGateRef = some g ∧
      r.providerAccountHash = some hash ∧ store.ApprovedFor r hash ∧
      g.gate.allowsLiveSearch (some hash) = true := by
  unfold createRun at h
  split at h
  · cases h
  rename_i r gate hjoined
  split at h
  · cases h
  rename_i hbound
  split at h
  · cases h
  rename_i hallows
  split at h
  · cases h
  cases h
  refine ⟨rfl, rfl, rfl, ?_⟩
  rw [not_not] at hallows
  unfold connectedWithGate at hjoined
  split at hjoined
  · cases hjoined
  rename_i r' hr
  split at hjoined
  swap
  · cases hjoined
  rename_i hnamed
  obtain ⟨g, hg, hpair⟩ := Option.map_eq_some_iff.mp hjoined
  obtain ⟨rfl, rfl⟩ := Prod.mk.inj hpair
  rw [not_or, not_not] at hbound
  obtain ⟨hash, hhash⟩ := Option.ne_none_iff_exists'.mp hbound.1
  rw [hhash] at hallows
  obtain ⟨hgmem, hgref, hgscope⟩ := gate_eq_some_iff.mp hg
  obtain ⟨-, hscope, -⟩ := connection_eq_some_iff.mp hr
  refine ⟨r', g, hash, hr, hnamed.2, hnamed.1, hg, hhash, ?_, hallows⟩
  refine ⟨g, hgmem, hgref.trans hnamed.1.symm, hgscope.trans hscope.symm, ?_, ?_⟩
  · simp only [ComplianceGate.allowsLiveSearch, Bool.and_eq_true, beq_iff_eq] at hallows
    exact hallows.1.1.1
  · exact hbound.2.symm.trans hhash

end ConnectionStore

/-! ## 3. Calls and runs -/

inductive ConnectionCall where
  | createGate (scope : LiepinScope) (gate : ComplianceGate) (gateRef : String)
  | createConnection (scope : LiepinScope) (complianceGateRef : String)
      (connectionId : Option String) (drawn : String)
  | recordSubject (scope : LiepinScope) (connectionId subject : String)
  | bind (gateRef : String) (scope : LiepinScope) (connectionId secret : String)
  | approve (gateRef : String) (scope : LiepinScope) (connectionId providerAccountHash : String)
  | recordSession (scope : LiepinScope)
      (connectionId providerAccountHash sessionStoreKeyId encryptedStateSha256 now : String)
  | revoke (scope : LiepinScope) (connectionId reason now : String)
  | createRun (scope : LiepinScope) (connectionId complianceGateRef runId : String)

/-- The tables a call leaves when it does not raise. -/
def ConnectionCall.body (lib : ConnectionLibrary) :
    ConnectionCall → ConnectionStore → Except String ConnectionStore
  | .createGate scope gate gateRef, store =>
    (·.1) <$> store.createComplianceGate scope gate gateRef
  | .createConnection scope complianceGateRef connectionId drawn, store =>
    (·.1) <$> store.createConnection scope complianceGateRef connectionId drawn
  | .recordSubject scope connectionId subject, store =>
    .ok (store.recordConnectionAccountSubject scope connectionId subject).1
  | .bind gateRef scope connectionId secret, store =>
    .ok (store.bindConnectionAccount lib gateRef scope connectionId secret).1
  | .approve gateRef scope connectionId providerAccountHash, store =>
    .ok (store.approveConnectionAccountHash gateRef scope connectionId providerAccountHash).1
  | .recordSession scope connectionId providerAccountHash keyId sha256 now, store =>
    .ok (store.recordSessionMetadata scope connectionId providerAccountHash keyId sha256 now).1
  | .revoke scope connectionId reason now, store =>
    (·.1) <$> store.revokeSession lib scope connectionId reason now
  | .createRun scope connectionId complianceGateRef runId, store =>
    (·.1) <$> store.createRun scope connectionId complianceGateRef runId

def ConnectionCall.execute (lib : ConnectionLibrary) (call : ConnectionCall)
    (store : ConnectionStore) : ConnectionStore :=
  match call.body lib store with
  | .ok store' => store'
  | .error _ => store

def ConnectionStore.runConnections (lib : ConnectionLibrary) (store : ConnectionStore)
    (calls : List ConnectionCall) : ConnectionStore :=
  calls.foldl (fun store call => call.execute lib store) store

/-- The call goes against no gate: a session is recorded for the account that the gate of the
    connection is approved for, and an account is approved only if the other connected
    connections of the gate have it. -/
def ConnectionCall.KeepsGates (store : ConnectionStore) : ConnectionCall → Prop
  | .approve gateRef scope connectionId providerAccountHash =>
    ∀ row ∈ store.connections, row.scope = scope → row.complianceGateRef = gateRef →
      row.connectionId ≠ connectionId → row.status = .connected →
      row.providerAccountHash = some providerAccountHash
  | .recordSession scope connectionId providerAccountHash keyId sha256 _ =>
    providerAccountHash ≠ "" → keyId ≠ "" → sha256 ≠ "" →
      ∀ row ∈ store.connections, row.scope = scope → row.connectionId = connectionId →
        store.ApprovedFor row providerAccountHash
  | _ => True

section Step

open ConnectionStore

variable {lib : ConnectionLibrary} {call : ConnectionCall} {store store' : ConnectionStore}
variable {row : LiepinConnectionRow}

/-- What a call can do to the tables. -/
inductive ConnectionCall.Effect (store store' : ConnectionStore) : ConnectionCall → Prop
  /-- nothing gets connected, and the gates stay as they are -/
  | quiet {call : ConnectionCall} (hgates : store.gates ⊆ store'.gates)
      (hconnections : ∀ row ∈ store'.connections, row.status = .connected →
        row ∈ store.connections) : Effect store store' call
  | bind {gateRef connectionId secret hash : String} {scope : LiepinScope}
      {r : LiepinConnectionRow} {g : ComplianceGateRow}
      (hr : store.connection scope connectionId = some r) (href : r.complianceGateRef = gateRef)
      (hstatus : r.status ∈ [.connected, .loginReady]) (hg : store.gate scope gateRef = some g)
      (hgate : g.gate.status = .pendingAccountBinding ∨
        g.gate.status = .approved ∧ g.gate.providerAccountHash = some hash)
      (hstore : store' = store.bindAccount scope gateRef connectionId hash) :
      Effect store store' (.bind gateRef scope connectionId secret)
  | approve {gateRef connectionId hash : String} {scope : LiepinScope}
      {r : LiepinConnectionRow} {g : ComplianceGateRow}
      (hr : store.connection scope connectionId = some r) (href : r.complianceGateRef = gateRef)
      (hg : store.gate scope gateRef = some g) (hstatus : g.gate.status ∉ [.denied, .expired])
      (hstore : store' = store.bindAccount scope gateRef connectionId hash) :
      Effect store store' (.approve gateRef scope connectionId hash)
  | recordSession {connectionId hash keyId sha256 now : String} {scope : LiepinScope}
      (hgiven : hash ≠ "" ∧ keyId ≠ "" ∧ sha256 ≠ "")
      (hstore : store' = store.updateConnection scope connectionId
        (·.withSession hash keyId sha256 now) fun _ => rfl) :
      Effect store store' (.recordSession scope connectionId hash keyId sha256 now)

theorem ConnectionCall.Effect.same (h : store' = store) : Effect store store' call :=
  .quiet (h ▸ List.Subset.refl _) fun _ hrow _ => h ▸ hrow

theorem ConnectionStore.mem_of_updateConnection {scope : LiepinScope} {connectionId : String}
    {f : LiepinConnectionRow → LiepinConnectionRow}
    {hf : ∀ row, (f row).connectionId = row.connectionId}
    (hrow : row ∈ (store.updateConnection scope connectionId f hf).connections)
    (hconnected : row.status = .connected) (hlost : ∀ row, (f row).status ≠ .connected) :
    row ∈ store.connections := by
  rcases mem_updateConnection_iff.mp hrow with ⟨r, -, -, rfl⟩ | ⟨hrow, -⟩
  · exact absurd hconnected (hlost r)
  · exact hrow

theorem ConnectionCall.execute_of_body {β : Type} {r : Except String (ConnectionStore × β)}
    (h : call.body lib store = (·.1) <$> r)
    (hok : ∀ store' answer, r = .ok (store', answer) → Effect store store' call) :
    Effect store (call.execute lib store) call := by
  unfold ConnectionCall.execute
  rw [h]
  cases r with
  | error e => exact .same rfl
  | ok pair => exact hok pair.1 pair.2 rfl

/-- **One step.** Every call does one of these. -/
theorem ConnectionCall.execute_effect (lib : ConnectionLibrary) (call : ConnectionCall)
    (store : ConnectionStore) : Effect store (call.execute lib store) call := by
  cases call with
  | createGate scope gate gateRef =>
    apply execute_of_body rfl
    intro store' answer hok
    obtain ⟨hconnections, hgates⟩ := createComplianceGate_ok hok
    apply Effect.quiet
    · rw [hgates]
      exact List.subset_append_left _ _
    · intro row hrow _
      rwa [hconnections] at hrow
  | createConnection scope gateRef given drawn =>
    apply execute_of_body rfl
    intro store' answer hok
    obtain ⟨hgates, -, hconnections⟩ := createConnection_ok hok
    apply Effect.quiet
    · rw [hgates]
      exact List.Subset.refl _
    · -- the new connection has not logged in
      intro row hrow hconnected
      rw [hconnections, List.mem_append, List.mem_singleton] at hrow
      rcases hrow with hrow | rfl
      · exact hrow
      · cases hconnected
  | recordSubject scope connectionId subject =>
    rcases recordConnectionAccountSubject_cases store scope connectionId subject with
      hsame | ⟨-, hupdate⟩
    · exact .same hsame
    · show Effect store (store.recordConnectionAccountSubject scope connectionId subject).1 _
      rw [hupdate]
      apply Effect.quiet
      · exact List.Subset.refl _
      · intro row hrow hconnected
        exact mem_of_updateConnection hrow hconnected fun row => by simp
  | bind gateRef scope connectionId secret =>
    rcases bindConnectionAccount_cases lib store gateRef scope connectionId secret with
      hsame | ⟨r, g, hash, hr, href, hstatus, hg, hgate, hbind⟩
    · exact .same hsame
    · exact .bind hr href hstatus hg hgate hbind
  | approve gateRef scope connectionId hash =>
    rcases approveConnectionAccountHash_cases store gateRef scope connectionId hash with
      hsame | ⟨r, g, hr, href, hg, hstatus, hbind⟩
    · exact .same hsame
    · exact .approve hr href hg hstatus hbind
  | recordSession scope connectionId hash keyId sha256 now =>
    rcases recordSessionMetadata_cases store scope connectionId hash keyId sha256 now with
      hsame | ⟨hgiven, hupdate⟩
    · exact .same hsame
    · exact .recordSession hgiven hupdate
  | revoke scope connectionId reason now =>
    apply execute_of_body rfl
    intro store' answer hok
    rcases revokeSession_ok hok with hsame | ⟨hgates, hconnections⟩
    · exact .same hsame
    · apply Effect.quiet
      · rw [hgates]
        exact List.Subset.refl _
      · intro row hrow hconnected
        rw [hconnections] at hrow
        exact mem_of_updateConnection hrow hconnected fun row => by
          simp [LiepinConnectionRow.revoke]
  | createRun scope connectionId gateRef runId =>
    apply execute_of_body rfl
    intro store' answer hok
    obtain ⟨hgates, hconnections, -⟩ := createRun_ok hok
    apply Effect.quiet
    · rw [hgates]
      exact List.Subset.refl _
    · intro row hrow _
      rwa [hconnections] at hrow

theorem ConnectionCall.Effect.hasAccounts (heffect : call.Effect store store')
    (h : store.HasAccounts) : store'.HasAccounts := by
  intro row hrow hconnected
  cases heffect with
  | quiet _ hconnections => exact h row (hconnections row hrow hconnected) hconnected
  | bind hr _ _ _ _ hstore =>
    rw [hstore] at hrow
    rcases mem_bindAccount_iff.mp hrow with ⟨r, -, -, rfl⟩ | ⟨hrow, -⟩
    · exact Option.some_ne_none _
    · exact h row hrow hconnected
  | approve hr _ _ _ hstore =>
    rw [hstore] at hrow
    rcases mem_bindAccount_iff.mp hrow with ⟨r, -, -, rfl⟩ | ⟨hrow, -⟩
    · exact Option.some_ne_none _
    · exact h row hrow hconnected
  | recordSession _ hstore =>
    rw [hstore] at hrow
    rcases mem_updateConnection_iff.mp hrow with ⟨r, -, -, rfl⟩ | ⟨hrow, -⟩
    · exact Option.some_ne_none _
    · exact h row hrow hconnected

/-- **What is bound stays bound** in a step that goes against no gate. -/
theorem ConnectionCall.Effect.bound (heffect : call.Effect store store')
    (hkeeps : call.KeepsGates store) (h : store.Bound) : store'.Bound := by
  cases heffect with
  | quiet hgates hconnections =>
    intro row hrow hconnected
    obtain ⟨hash, hhash, g, hg, happroved⟩ :=
      h row (hconnections row hrow hconnected) hconnected
    exact ⟨hash, hhash, g, hgates hg, happroved⟩
  | @bind gateRef connectionId secret hash scope r g hr href _ hg hgate hstore =>
    rw [hstore]
    apply h.bindAccount hr href hg
    -- the gate has no connected connection unless it is approved, and then for this account
    intro row hrow hscope hrowref _ hconnected
    obtain ⟨old, hold, g', hg', hgref, hgscope, hstatus, hhash⟩ := h row hrow hconnected
    have hsame : store.gate scope gateRef = some g' :=
      gate_eq_some_iff.mpr ⟨hg', hgref.trans hrowref, hgscope.trans hscope⟩
    obtain rfl := Option.some.inj (hg.symm.trans hsame)
    rcases hgate with hpending | ⟨-, hbound⟩
    · rw [hpending] at hstatus
      cases hstatus
    · rw [hold, ← hhash, hbound]
  | approve hr href hg _ hstore =>
    rw [hstore]
    exact h.bindAccount hr href hg hkeeps
  | recordSession hgiven hstore =>
    rw [hstore]
    intro row hrow hconnected
    rcases mem_updateConnection_iff.mp hrow with ⟨r, hr, hkey, rfl⟩ | ⟨hrow, -⟩
    · exact ⟨_, rfl, (hkeeps hgiven.1 hgiven.2.1 hgiven.2.2 r hr hkey.1 hkey.2).congr rfl rfl⟩
    · exact h row hrow hconnected

/-- The call connects this connection: it binds or approves the account, and the gate is
    approved for it then, or it records a session. -/
def ConnectionCall.Connects (store' : ConnectionStore) (row : LiepinConnectionRow) :
    ConnectionCall → Prop
  | .bind gateRef scope connectionId _ =>
    gateRef = row.complianceGateRef ∧ scope = row.scope ∧ connectionId = row.connectionId ∧
      ∃ hash, row.providerAccountHash = some hash ∧ store'.ApprovedFor row hash
  | .approve gateRef scope connectionId hash =>
    gateRef = row.complianceGateRef ∧ scope = row.scope ∧ connectionId = row.connectionId ∧
      row.providerAccountHash = some hash ∧ store'.ApprovedFor row hash
  | .recordSession scope connectionId hash _ _ _ =>
    scope = row.scope ∧ connectionId = row.connectionId ∧ row.providerAccountHash = some hash
  | _ => False

/-- **How a connection gets connected.** -/
theorem ConnectionCall.Effect.connects (heffect : call.Effect store store')
    (hrow : row ∈ store'.connections) (hnew : row ∉ store.connections)
    (hconnected : row.status = .connected) : call.Connects store' row := by
  cases heffect with
  | quiet _ hconnections => exact absurd (hconnections row hrow hconnected) hnew
  | bind hr href _ hg _ hstore =>
    obtain ⟨hrmem, hrscope, hrid⟩ := connection_eq_some_iff.mp hr
    subst hstore
    rcases mem_bindAccount_iff.mp hrow with ⟨r', hr', hkey, rfl⟩ | ⟨hrow, -⟩
    · obtain rfl := connection_unique hrmem hr' (hkey.2.trans hrid.symm)
      exact ⟨href.symm, hrscope.symm, hrid.symm, _, rfl, approvedFor_bindAccount hg href hrscope⟩
    · exact absurd hrow hnew
  | approve hr href hg _ hstore =>
    obtain ⟨hrmem, hrscope, hrid⟩ := connection_eq_some_iff.mp hr
    subst hstore
    rcases mem_bindAccount_iff.mp hrow with ⟨r', hr', hkey, rfl⟩ | ⟨hrow, -⟩
    · obtain rfl := connection_unique hrmem hr' (hkey.2.trans hrid.symm)
      exact ⟨href.symm, hrscope.symm, hrid.symm, rfl, approvedFor_bindAccount hg href hrscope⟩
    · exact absurd hrow hnew
  | recordSession _ hstore =>
    rw [hstore] at hrow
    rcases mem_updateConnection_iff.mp hrow with ⟨r, -, hkey, rfl⟩ | ⟨hrow, -⟩
    · exact ⟨hkey.1.symm, hkey.2.symm, rfl⟩
    · exact absurd hrow hnew

theorem ConnectionCall.Effect.ne_bind_of_revoked {old : LiepinConnectionRow}
    (heffect : call.Effect store store') (hold : old ∈ store.connections)
    (hrevoked : old.status = .revoked) (hrow : row ∈ store'.connections)
    (hid : row.connectionId = old.connectionId) (hconnected : row.status = .connected)
    (gateRef : String) (scope : LiepinScope) (connectionId secret : String) :
    call ≠ .bind gateRef scope connectionId secret := by
  -- the row has changed: it was revoked, and now it is connected
  have hnew : row ∉ store.connections := by
    intro hmem
    obtain rfl := connection_unique hold hmem hid
    rw [hrevoked] at hconnected
    cases hconnected
  cases heffect with
  | quiet _ hconnections => exact absurd (hconnections row hrow hconnected) hnew
  | bind hr _ hstatus _ _ hstore =>
    rw [hstore] at hrow
    rcases mem_bindAccount_iff.mp hrow with ⟨r', hr', hkey, rfl⟩ | ⟨hrow, -⟩
    · obtain ⟨hrmem, -, hrid⟩ := connection_eq_some_iff.mp hr
      obtain rfl := connection_unique hrmem hr' (hkey.2.trans hrid.symm)
      obtain rfl := connection_unique hold hrmem hid
      simp [hrevoked] at hstatus
    · exact absurd hrow hnew
  | approve => simp
  | recordSession => simp

end Step

/-! ## 4. Every run -/

section Runs

open ConnectionStore

variable {lib : ConnectionLibrary} {store : ConnectionStore} {calls : List ConnectionCall}

/-- **Every run of the connection tables.** What is connected has an account. As long as no
    step goes against a gate, it is bound to its gate. A connection gets connected by being
    bound or approved, and then its gate is approved for its account, or by a session that is
    recorded; a revoked one is not bound. And a run is created only for a connected connection
    whose account is the one its gate is approved for. -/
theorem runConnections_spec (lib : ConnectionLibrary) (calls : List ConnectionCall) :
    (∀ row ∈ (runConnections lib {} calls).connections, row.status = .connected →
      row.providerAccountHash ≠ none) ∧
    ((∀ first call third, calls = first ++ call :: third →
        call.KeepsGates (runConnections lib {} first)) →
      (runConnections lib {} calls).Bound) ∧
    (∀ first call third row, calls = first ++ call :: third →
      row ∈ (call.execute lib (runConnections lib {} first)).connections →
      row.status = .connected →
      (row ∉ (runConnections lib {} first).connections →
        call.Connects (call.execute lib (runConnections lib {} first)) row) ∧
      ∀ old ∈ (runConnections lib {} first).connections,
        old.connectionId = row.connectionId → old.status = .revoked →
        ∀ gateRef scope connectionId secret, call ≠ .bind gateRef scope connectionId secret) ∧
    ∀ first scope connectionId complianceGateRef runId third store' answer,
      calls = first ++ .createRun scope connectionId complianceGateRef runId :: third →
      (runConnections lib {} first).createRun scope connectionId complianceGateRef runId =
        .ok (store', answer) →
      ∃ row g hash, (runConnections lib {} first).connection scope connectionId = some row ∧
        row.status = .connected ∧ row.complianceGateRef = complianceGateRef ∧
        (runConnections lib {} first).gate scope complianceGateRef = some g ∧
        row.providerAccountHash = some hash ∧
        (runConnections lib {} first).ApprovedFor row hash ∧
        g.gate.allowsLiveSearch (some hash) = true := by
  refine ⟨?_, ?_, ?_, ?_⟩
  · have hrun : (runConnections lib {} calls).HasAccounts := by
      apply Stateful.foldl_induction fun _ _ => True
      · intro store call _ h
        exact (call.execute_effect lib store).hasAccounts h
      · intro row hrow
        cases hrow
      · exact fun _ _ _ _ => trivial
    exact hrun
  · intro hkeeps
    apply Stateful.foldl_induction ConnectionCall.KeepsGates
    · intro store call hkeeps h
      exact (call.execute_effect lib store).bound hkeeps h
    · intro row hrow
      cases hrow
    · exact hkeeps
  · intro first call third row _ hrow hconnected
    have heffect := call.execute_effect lib (runConnections lib {} first)
    refine ⟨fun hnew => heffect.connects hrow hnew hconnected, ?_⟩
    intro old hold hid hrevoked
    exact heffect.ne_bind_of_revoked hold hrevoked hrow hid.symm hconnected
  · intro first scope connectionId complianceGateRef runId third store' answer _ hok
    obtain ⟨-, -, -, hrun⟩ := createRun_ok hok
    exact hrun

end Runs

/-! ### A session that no gate allows -/

def recruiterScope : LiepinScope := ⟨"tenant-a", "workspace-a", "actor-a"⟩

def waitingGate : ComplianceGate where
  scope := recruiterScope
  providerAccountHash := none
  status := .pendingAccountBinding
  candidatePersonalInfoProcessingBasis := "candidate_consent"
  personalInformationProcessor := "processor-a"
  operatorAuditOwner := "operator-a"
  accountHolderAuthorized := true
  humanInitiatedRecruiting := true
  allowedPurposes := ["search"]
  deletionSlaDays := 30
  deletionPath := "workspace-delete-job"
  rawDetailRetentionAllowedAfterDebug := false
  fixtureExportAllowed := false
  policyRef := "policy-v1"

def sessionCalls : List ConnectionCall :=
  [.createGate recruiterScope waitingGate "gate_1",
    .createConnection recruiterScope "gate_1" none "conn_1",
    .recordSession recruiterScope "conn_1" "hash-a" "key-v1" "abc123" "2026-05-01T00:00:00",
    .revoke recruiterScope "conn_1" "user_requested" "2026-05-02T00:00:00",
    .recordSession recruiterScope "conn_1" "hash-a" "key-v1" "abc123" "2026-05-03T00:00:00"]

/-- The first session does not ask for the gate, and no more does the one after the revocation. -/
theorem not_bound_runConnections :
    ¬∀ (lib : ConnectionLibrary) (calls : List ConnectionCall),
      (ConnectionStore.runConnections lib {} calls).Bound := by
  intro hbound
  have hconnected :
      (ConnectionStore.runConnections .ascii {} (sessionCalls.take 3)).connections.map
        (fun row => (row.status, row.providerAccountHash)) =
      [(.connected, some "hash-a")] := by
    decide
  have hgates :
      (ConnectionStore.runConnections .ascii {} (sessionCalls.take 3)).gates.map (·.gate.status) =
      [.pendingAccountBinding] := by
    decide
  have hmem := List.mem_singleton_self ((ConnectionStatus.connected, some "hash-a"))
  rw [← hconnected] at hmem
  obtain ⟨row, hrow, hpair⟩ := List.mem_map.mp hmem
  obtain ⟨hash, -, g, hg, -, -, happroved, -⟩ :=
    hbound .ascii (sessionCalls.take 3) row hrow (congrArg Prod.fst hpair)
  have hstatus := List.mem_map_of_mem (f := fun g : ComplianceGateRow => g.gate.status) hg
  rw [hgates, List.mem_singleton] at hstatus
  rw [happroved] at hstatus
  cases hstatus

end SeekTalent
