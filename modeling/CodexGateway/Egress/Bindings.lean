import CodexGateway.Egress.Protocol
import CodexGateway.Library.Uuid
import CodexGateway.Store.Schema

/-! # Nodes, bindings and registrations

The tables of account egress. Every write advances the version of the whole
configuration, and a node takes the new version as its revision.
-/

open Store (StoreError UpstreamProvider AccountID)

namespace Egress

abbrev UUID := { text : Text // Uuid.isCanonical text = true }

structure EgressServer where
  id : UUID
  name : Text
  server : Text
  port : Int
  cipher : Text
  passwordCiphertext : List UInt8
  udp : Bool
  revision : Int
  deriving DecidableEq

/-- A row of `upstream_accounts`. -/
structure Account where
  id : AccountID
  provider : UpstreamProvider
  deriving DecidableEq

/-- A row of `upstream_account_egress`. -/
structure BindingRow where
  accountID : AccountID
  nodeID : Option UUID
  revision : Int
  deriving DecidableEq

inductive Phase where
  | pending
  | prepared
  | committed
  deriving Repr, DecidableEq

structure EgressRegistration where
  id : UUID
  provider : UpstreamProvider
  nodeID : Option UUID
  preserve : Bool
  accountID : Option AccountID
  state : Phase
  revision : Int
  createdAt : Store.Time
  baselineBindingRevision : Int
  deriving DecidableEq

structure Db where
  version : Int
  servers : Table EgressServer.id
  accounts : Table Account.id
  bindings : Table BindingRow.accountID
  registrations : Table EgressRegistration.id

/-- The tables as the migration leaves them. -/
def Db.empty : Db := ⟨1, .empty, .empty, .empty, .empty⟩

/-! ## Nodes -/

section Nodes

-- `parseAddr` is `netip.ParseAddr`: whether an address is IPv4 in its own notation, if
-- the text is one.
variable (parseAddr : Text → Option Bool)

/-- `unicode.IsControl` -/
def isControl (c : Char) : Bool := c.toNat < 32 || (127 ≤ c.toNat && c.toNat < 160)

def validateEgressServer (n : EgressServer) : Except StoreError Unit := do
  if n.name = [] ∨ Text.byteLength n.name > 80 ∨ Text.trimSpace n.name ≠ n.name ∨
      n.name.any isControl ∨ n.port < 1 ∨ n.port > 65535 then
    throw (.invalid "invalid egress node")
  if supportedCipher n.cipher = false then throw (.invalid "invalid SS cipher")
  if n.server = [] ∨ Text.byteLength n.server > 253 ∨ Text.trimSpace n.server ≠ n.server then
    throw (.invalid "invalid SS host")
  match parseAddr n.server with
  | some plain => if plain then pure () else throw (.invalid "invalid SS host")
  | none =>
    let labels := n.server.splitOn '.'
    if Text.toLower n.server ≠ n.server ∨ labels.length < 2 ∨ labels.all validLabel = false then
      throw (.invalid "invalid SS host")

/-- The columns that an update of a node sets. An empty ciphertext keeps the password. -/
def EgressServer.assign (n : EgressServer) (revision : Int) (row : EgressServer) : EgressServer :=
  { row with
    name := n.name
    server := n.server
    port := n.port
    cipher := n.cipher
    passwordCiphertext :=
      if n.passwordCiphertext = [] then row.passwordCiphertext else n.passwordCiphertext
    udp := n.udp
    revision }

/-- The optimistic guard of an update; zero accepts every revision. -/
def checkRevision (row : EgressServer) (expected : Int) : Except StoreError Unit :=
  if expected = 0 ∨ row.revision = expected then .ok ()
  else if expected > 0 then .error (.conflict "egress node changed")
  else .error (.notFound "save egress node")

def updateEgressServer (db : Db) (n : EgressServer) (version : Int) : Except StoreError Db :=
  match db.servers.find? n.id with
  | none => .error (.notFound "save egress node")
  | some row => do
    checkRevision row (if n.passwordCiphertext = [] then n.revision else 0)
    if n.passwordCiphertext ≠ [] ∧ n.passwordCiphertext.length ≤ 28 then
      throw (.invalid "save egress node")
    pure { db with
      version, servers := db.servers.modify n.id (n.assign version) (fun _ => rfl) }

def saveEgressServer (db : Db) (n : EgressServer) (create : Bool) (actor : Text) :
    Except StoreError Db := do
  if actor = [] then throw (.invalid "")
  validateEgressServer parseAddr n
  if create = true ∧ n.passwordCiphertext.length < 29 then
    throw (.invalid "missing SS credential")
  let version := db.version + 1
  if create then
    match db.servers.insert? { n with revision := version } with
    | none => throw (.conflict "save egress node")
    | some servers => pure { db with version, servers }
  else updateEgressServer db n version

end Nodes

def registrationGrace : Store.Time := 24 * 3600 * 1000000000

def deleteEgressServer (db : Db) (id : UUID) (actor : Text) (now : Store.Time) :
    Except StoreError Db := do
  if actor = [] then throw (.invalid "")
  if db.bindings.rows.any (fun b => b.nodeID = some id) ∨
      db.registrations.rows.any (fun r => r.nodeID = some id ∧ r.state ≠ .committed ∧
        r.createdAt > now - registrationGrace) then
    throw (.conflict "node is bound")
  if (db.servers.find? id).isNone then throw (.notFound "")
  pure { db with
    version := db.version + 1
    registrations := db.registrations.update
      (fun r => r.nodeID = some id ∧ r.state = .committed) (fun r => { r with nodeID := none })
      (fun _ => rfl)
    servers := db.servers.delete fun n => n.id = id }

/-! ## Bindings -/

def setEgressBinding (db : Db) (provider : UpstreamProvider) (accountID : AccountID)
    (nodeID : Option UUID) (revision : Int) : Except StoreError Db := do
  match db.accounts.find? accountID with
  | none => throw (.notFound "find egress account")
  | some account =>
    if account.provider ≠ provider then throw (.conflict "wrong account provider")
    if nodeID.any (fun id => (db.servers.find? id).isNone) then throw (.notFound "")
    pure { db with
      bindings := (db.bindings.insertIfAbsent ⟨accountID, nodeID, revision⟩).modify accountID
        (fun b => { b with nodeID, revision }) (fun _ => rfl) }

/-- The administrator's write; `provider` is the one the store is scoped to. -/
def setEgressBindingTx (db : Db) (provider : UpstreamProvider) (accountID : AccountID)
    (nodeID : Option UUID) (actor : Text) : Except StoreError Db := do
  if actor = [] then throw (.invalid "")
  setEgressBinding { db with version := db.version + 1 } provider accountID nodeID (db.version + 1)

/-! ## Registrations -/

/-- A registration without a node argument preserves the binding of its account. -/
def createEgressRegistration (db : Db) (id : UUID) (provider : UpstreamProvider)
    (nodeID : Option (Option UUID)) (actor : Text) (now : Store.Time) : Except StoreError Db := do
  if actor = [] then throw (.invalid "")
  let selected := nodeID.getD none
  if selected.any (fun id => (db.servers.find? id).isNone) then throw (.notFound "")
  let version := db.version + 1
  match db.registrations.insert? {
    id
    provider
    nodeID := selected
    preserve := nodeID.isNone
    accountID := none
    state := .pending
    revision := version
    createdAt := now
    baselineBindingRevision := 0 } with
  | none => throw (.conflict "create egress registration")
  | some registrations => pure { db with version, registrations }

/-- `INSERT … ON CONFLICT (id) DO UPDATE … WHERE provider = EXCLUDED.provider`. -/
def ensureAccount (db : Db) (accountID : AccountID) (provider : UpstreamProvider)
    (error : StoreError) : Except StoreError Db :=
  match db.accounts.find? accountID with
  | none => .ok { db with accounts := db.accounts.insertIfAbsent ⟨accountID, provider⟩ }
  | some account => if account.provider ≠ provider then .error error else .ok db

def currentBindingRevision (db : Db) (accountID : AccountID) : Int :=
  (db.bindings.find? accountID).elim 0 BindingRow.revision

/-- The node of a prepared route must not have changed; zero accepts every revision. -/
def checkPrepared (db : Db) (id : UUID) (expectedNodeRevision : Int) : Except StoreError Unit :=
  if expectedNodeRevision > 0 then
    match db.servers.find? id with
    | none => .error (.notFound "read prepared node revision")
    | some node => if node.revision ≠ expectedNodeRevision then .error (.conflict "") else .ok ()
  else .ok ()

/-- The binding of a commit, unless the registration preserves the one there is. -/
def commitBinding (db : Db) (registration : EgressRegistration) (accountID : AccountID)
    (expectedNodeRevision : Int) : Except StoreError Db := do
  if registration.preserve then pure db
  else
    if registration.baselineBindingRevision ≠ currentBindingRevision db accountID then
      throw (.conflict "")
    if let some id := registration.nodeID then checkPrepared db id expectedNodeRevision
    setEgressBinding db registration.provider accountID registration.nodeID registration.revision

/-- The phase and the account of a registration, set by its transition. -/
def advanceRegistration (db : Db) (id : UUID) (accountID : AccountID) (state : Phase)
    (baseline : Int) : Db :=
  { db with
    registrations := db.registrations.modify id
      (fun r => { r with accountID := some accountID, state, baselineBindingRevision := baseline })
      (fun _ => rfl) }

def transitionEgressRegistration (db : Db) (id : UUID) (provider : UpstreamProvider)
    (accountID : AccountID) (commit : Bool) (expectedNodeRevision : Int) :
    Except StoreError Db := do
  match db.registrations.find? id with
  | none => throw (.notFound "find egress registration")
  | some registration =>
    if registration.provider ≠ provider ∨
        registration.accountID.any (fun account => account ≠ accountID) then
      throw (.conflict "")
    if registration.state = .committed ∨ commit = false ∧ registration.state = .prepared then
      pure db
    else
      if commit = true ∧ registration.state ≠ .prepared then throw (.conflict "")
      let db ← ensureAccount { db with version := db.version + 1 } accountID provider
        (.notFound "ensure registration account")
      if commit then
        let db ← commitBinding db registration accountID expectedNodeRevision
        pure (advanceRegistration db id accountID .committed registration.baselineBindingRevision)
      else
        let baseline := currentBindingRevision db accountID
        if registration.preserve = false ∧ baseline > registration.revision then
          throw (.conflict "")
        pure (advanceRegistration db id accountID .prepared baseline)

/-! ## Snapshots -/

structure EgressBinding where
  accountID : AccountID
  provider : UpstreamProvider
  nodeID : Option UUID
  revision : Int
  deriving DecidableEq

structure EgressState where
  version : Int
  nodes : List EgressServer
  bindings : List EgressBinding
  registrations : List EgressRegistration

/-- What one repeatable read of the tables sees. -/
def egressSnapshot (db : Db) : EgressState where
  version := db.version
  nodes := db.servers.rows.mergeSort fun a b => decide (a.id.val ≤ b.id.val)
  bindings := (db.bindings.rows.mergeSort fun a b => decide (a.accountID.val ≤ b.accountID.val)).filterMap
    fun b => (db.accounts.find? b.accountID).map fun account =>
      ⟨b.accountID, account.provider, b.nodeID, b.revision⟩
  registrations := db.registrations.rows.mergeSort fun a b => decide (a.id.val ≤ b.id.val)

end Egress
