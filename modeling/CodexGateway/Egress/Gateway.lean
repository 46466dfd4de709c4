import CodexGateway.Egress.Bindings

/-! # Routes and their resolution

The gateway's side of account egress: the snapshot it sends to the egress runtime, the
synchronization with the runtime, and the answer to the question which exit an account
takes. What the network and the database answer are arguments.
-/

open Store (UpstreamProvider)

namespace Egress

/-- `UpstreamProviderCodex` and the other names of providers. -/
def providerName : UpstreamProvider → Text
  | .codex => "codex".toList
  | .antigravity => "antigravity".toList
  | .anthropic => "anthropic".toList

/-- The configuration of the gateway; `controlURL` says whether there is one. -/
structure GatewayConfig where
  egressControlKey : Text
  controlURL : Bool
  deriving Repr, DecidableEq

section Gateway

-- `sha256` is the hexadecimal digest of a text, `decrypt` opens the credential of a node.
variable (sha256 : Text → Text) (routeToken : Text → Text → Text)
  (decrypt : UUID → List UInt8 → Option Text) (config : GatewayConfig)

/-- `%s/%s/%d/%s/%d` -/
def routeText (kind id : Text) (bindingRevision : Int) (n : EgressServer) : Text :=
  kind ++ '/' :: (id ++ '/' :: (Text.ofInt bindingRevision ++ '/' :: nodeKey n.id.val n.revision))

def egressRouteID (kind id : Text) (bindingRevision : Int) (n : EgressServer) : Text :=
  sha256 (routeText kind id bindingRevision n)

/-! ## The snapshot for the runtime -/

def runtimeNode (n : EgressServer) : Option Node :=
  (decrypt n.id n.passwordCiphertext).map fun password =>
    ⟨n.id.val, n.revision, n.server, n.port, n.cipher, password, n.udp⟩

def runtimeRoute (state : EgressState) (kind id : Text) (revision : Int) (nodeID : Option UUID) :
    Option Route := do
  let id' ← nodeID
  let n ← state.nodes.find? fun n => n.id = id'
  let routeID := egressRouteID sha256 kind id revision n
  pure ⟨routeID, routeToken config.egressControlKey routeID, n.id.val, n.revision⟩

/-- The routes of a registration that is not committed: its own, and in advance the one
of its account. -/
def registrationRoutes (state : EgressState) (r : EgressRegistration) : List Route :=
  if r.state = .committed then []
  else
    (runtimeRoute sha256 routeToken config state "registration".toList r.id.val r.revision
      r.nodeID).toList ++
    match r.accountID with
    | some account =>
      if r.state = .prepared ∧ r.preserve = false then
        (runtimeRoute sha256 routeToken config state (providerName r.provider) account.val
          r.revision r.nodeID).toList
      else []
    | none => []

def runtimeSnapshot (state : EgressState) : Option Snapshot := do
  let nodes ← state.nodes.mapM (runtimeNode decrypt)
  pure {
    version := state.version
    nodes
    routes := state.bindings.filterMap (fun b =>
        runtimeRoute sha256 routeToken config state (providerName b.provider) b.accountID.val
          b.revision b.nodeID) ++
      state.registrations.flatMap (registrationRoutes sha256 routeToken config state) }

/-! ## Synchronization -/

/-- A read of the tables. One that fails has read a part of them. -/
structure Read where
  state : EgressState
  failed : Bool

/-- Decoding an answer into a status that was decoded before: fields that the answer
leaves out keep their values. -/
def Status.decodeInto (old answer : Status) : Status :=
  { answer with
    errorCode := if answer.errorCode = [] then old.errorCode else answer.errorCode
    routeIDs := if answer.routeIDs = [] then old.routeIDs else answer.routeIDs
    nodeRevisions := answer.nodeRevisions ++
      old.nodeRevisions.filter fun entry => entry.1 ∉ answer.nodeRevisions.map Prod.fst }

/-- What a synchronization sees: its read, and the answers of the runtime. -/
structure SyncReplies where
  read : Read
  status : Option Status
  put : Bool
  refreshed : Option Status

/-- The state, the status and the error of a synchronization. -/
structure Synced where
  state : EgressState
  status : Status
  error : Option String

/-- `egressControl`: without a key or an address there is no answer. -/
def control {α : Type} (answer : Option α) : Option α :=
  if config.egressControlKey = [] ∨ config.controlURL = false then none else answer

def syncAccountEgress (cached : Status) (replies : SyncReplies) : Synced :=
  let state := replies.read.state
  let finish (status : Status) : Synced :=
    if status.instanceID = [] ∨ status.ready = false ∨ status.appliedVersion ≠ state.version then
      ⟨state, { status with errorCode := "egress_apply_pending".toList },
        some "account egress is unavailable"⟩
    else ⟨state, status, none⟩
  if replies.read.failed then ⟨state, cached, some "read egress tables"⟩
  else
    match control config replies.status with
    | none =>
      ⟨state, { Status.zero with errorCode := "egress_control_unavailable".toList },
        some "account egress is unavailable"⟩
    | some answer =>
      -- The first answer is decoded into a zero status.
      if answer.ready = false ∨ answer.appliedVersion ≠ state.version then
        match runtimeSnapshot sha256 routeToken decrypt config state with
        | none =>
          ⟨state, { answer with errorCode := "egress_config_invalid".toList },
            some "account egress is unavailable"⟩
        | some _ =>
          let refreshed := (control config replies.refreshed).map answer.decodeInto
          if replies.put then
            match refreshed with
            | none =>
              ⟨state, { Status.zero with errorCode := "egress_control_unavailable".toList },
                some "account egress is unavailable"⟩
            | some status => finish status
          else
            ⟨state, { refreshed.getD .zero with errorCode := "egress_apply_failed".toList },
              some "account egress is unavailable"⟩
      else finish answer

/-! ## Resolution -/

inductive Mode where
  | global
  | account
  deriving Repr, DecidableEq

/-- The answer to a sidecar; `proxy` is the user and the password of the proxy's URL. -/
structure Resolution where
  mode : Mode
  proxy : Option (Text × Text)
  revision : Text
  deriving Repr, DecidableEq

inductive ResolveError where
  | unavailable
  | conflict
  | notFound
  | read
  deriving Repr, DecidableEq

def globalResolution (revision : Int) : Resolution :=
  ⟨.global, none, "global:".toList ++ Text.ofInt revision⟩

def routeResolution (kind id : Text) (revision : Int) (nodeID : Option UUID)
    (state : EgressState) : Except ResolveError Resolution :=
  match nodeID with
  | none => .ok (globalResolution revision)
  | some id' =>
    match state.nodes.find? fun n => n.id = id' with
    | none => .error .unavailable
    | some n =>
      let routeID := egressRouteID sha256 kind id revision n
      .ok ⟨.account, some (routeID, routeToken config.egressControlKey routeID), routeID⟩

def appliedRouteResolution (kind id : Text) (revision : Int) (nodeID : Option UUID)
    (synced : Synced) : Except ResolveError Resolution :=
  if nodeID.isSome ∧ config.egressControlKey = [] then .error .unavailable
  else
    match routeResolution sha256 routeToken config kind id revision nodeID synced.state with
    | .error err => .error err
    | .ok resolution =>
      if resolution.mode = .global then .ok resolution
      else if synced.status.ready = true ∧ synced.status.instanceID ≠ [] ∧
          resolution.revision ∈ synced.status.routeIDs then .ok resolution
      else .error .unavailable

/-- Which exit an account takes: the call without a registration. `first` is the read of
the call itself, `synced` the outcome of its synchronization. -/
def resolveAccount (provider accountID : Text) (first : Read) (synced : Synced) :
    Except ResolveError Resolution :=
  if first.failed then .error .read
  else
    match first.state.bindings.find? fun b => b.accountID.val = accountID with
    | none => .ok (globalResolution 0)
    | some b =>
      if providerName b.provider ≠ provider then .error .conflict
      else if b.nodeID.isNone then .ok (globalResolution b.revision)
      else
        match synced.state.bindings.find? fun current =>
          current.accountID.val = accountID ∧ providerName current.provider = provider with
        | none => .error .unavailable
        | some current =>
          appliedRouteResolution sha256 routeToken config provider accountID current.revision
            current.nodeID synced

/-- The call for a registration. It reads the tables again, and once more for the account
of a registration that is committed. -/
def egressRegistrationResolution (registrationID : UUID) (second third : Read) (synced : Synced) :
    Except ResolveError Resolution :=
  if second.failed then .error .read
  else
    match second.state.registrations.find? fun r => r.id = registrationID with
    | none => .error .notFound
    | some r =>
      if r.state = .committed then
        resolveAccount sha256 routeToken config (providerName r.provider)
          (r.accountID.elim [] Subtype.val) third synced
      else if r.nodeID.isNone then .ok (globalResolution r.revision)
      else
        appliedRouteResolution sha256 routeToken config "registration".toList r.id.val r.revision
          r.nodeID synced

/-- What a call reads, in order. -/
structure ResolveReplies where
  first : Read
  second : Read
  third : Read
  cached : Status
  sync : SyncReplies

def resolveAccountEgress (provider accountID : Text) (registrationID : Option UUID)
    (replies : ResolveReplies) : Except ResolveError Resolution :=
  let synced := syncAccountEgress sha256 routeToken decrypt config replies.cached replies.sync
  match registrationID with
  | none => resolveAccount sha256 routeToken config provider accountID replies.first synced
  | some id =>
    if replies.first.failed then .error .read
    else
      match replies.first.state.registrations.find? fun r => r.id = id with
      | none => .error .notFound
      | some r =>
        if providerName r.provider ≠ provider ∨
            accountID ≠ [] ∧ r.accountID.any (fun account => account.val ≠ accountID) then
          .error .conflict
        else
          egressRegistrationResolution sha256 routeToken config id replies.second replies.third
            synced

end Gateway

end Egress
