import CodexGateway.Egress.Protocol
import CodexGateway.Library.Table

/-! # The egress runtime

One process that keeps a local listener for every node and sends a tunnel to the
listener of its route. Nodes are objects that maps, routes and tunnels share; an object
is named by its number on the heap. Every step below runs under the mutex.
-/

namespace Egress

structure NodeRuntime where
  pointer : Nat
  node : Node
  port : Nat
  active : Int
  deriving Repr, DecidableEq

/-- An entry of the map of nodes. -/
structure Installed where
  key : Text
  pointer : Nat
  deriving Repr, DecidableEq

/-- An entry of the map of routes. -/
structure RouteRuntime where
  id : Text
  token : Text
  pointer : Nat
  deriving Repr, DecidableEq

structure Runtime where
  heap : Serial NodeRuntime.pointer
  nodes : Table Installed.key
  desired : List Text
  routes : Table RouteRuntime.id
  status : Status
  fingerprint : Text

def newRuntime (instanceID : Text) : Runtime where
  heap := .empty
  nodes := .empty
  desired := []
  routes := .empty
  status := { Status.zero with instanceID }
  fingerprint := []

/-! ## Configurations -/

/-- A listener of the local proxy with the server it sends everything to. -/
structure Listener where
  name : Text
  port : Nat
  node : Node
  deriving Repr, DecidableEq

abbrev Configuration := List Listener

def NodeRuntime.listener (object : NodeRuntime) : Listener where
  name := "node-".toList ++ object.node.id ++ '-' :: Text.ofInt object.node.revision
  port := object.port
  node := object.node

/-- The proxies and listeners of a configuration, in the order of their keys. -/
def marshalMihomo (heap : Serial NodeRuntime.pointer) (nodes : Table Installed.key) :
    Configuration :=
  (nodes.rows.mergeSort fun a b => decide (a.key ≤ b.key)).filterMap fun row =>
    (heap.find? row.pointer).map NodeRuntime.listener

/-! ## Installing a snapshot -/

/-- The first free port, from 20000 to 60000. -/
def freePort (used : List Nat) : Option Nat :=
  (List.range' 20000 40001).find? fun port => port ∉ used

/-- The maps that an installation builds. -/
structure Candidate where
  heap : Serial NodeRuntime.pointer
  nodes : Table Installed.key
  used : List Nat
  desired : List Text

def Runtime.active (r : Runtime) (pointer : Nat) : Bool :=
  (r.heap.find? pointer).any fun object => 0 < object.active

/-- The nodes with tunnels, and the ports in use. -/
def Runtime.candidate (r : Runtime) : Candidate where
  heap := r.heap
  nodes := r.nodes.delete fun row => !r.active row.pointer
  used := r.nodes.rows.filterMap fun row => (r.heap.find? row.pointer).map NodeRuntime.port
  desired := []

def Candidate.add (r : Runtime) (c : Candidate) (node : Node) : Except String Candidate :=
  let desired := node.key :: c.desired
  match r.nodes.find? node.key with
  | some previous =>
    if (r.heap.find? previous.pointer).map NodeRuntime.node ≠ some node then
      .error "node revision conflict"
    else .ok { c with nodes := c.nodes.insertIfAbsent previous, desired }
  | none =>
    match freePort c.used with
    | none => .error "local listener capacity exceeded"
    | some port =>
      .ok {
        heap := c.heap.insert (fun pointer => ⟨pointer, node, port, 0⟩) (fun _ => rfl)
        nodes := c.nodes.insertIfAbsent ⟨node.key, c.heap.next⟩
        used := port :: c.used
        desired }

/-- What the controller answers while a snapshot is installed. -/
structure Answers where
  apply : Bool
  probe : Nat → Bool
  rollback : Bool
  rollbackProbe : Nat → Bool

/-- The ports of the nodes of a map that meet a condition. -/
def portsOf (heap : Serial NodeRuntime.pointer) (nodes : Table Installed.key)
    (among : Installed → Bool) : List Nat :=
  (nodes.rows.filter among).filterMap fun row => (heap.find? row.pointer).map NodeRuntime.port

/-- The routes of a snapshot, each with the object of its node. A later route of the
same name would replace an earlier one. -/
def routesOf (nodes : Table Installed.key) (routes : List Route) : Table RouteRuntime.id :=
  routes.foldr (fun route table =>
    match nodes.find? (nodeKey route.nodeID route.nodeRevision) with
    | none => table
    | some row => table.insertIfAbsent ⟨route.id, route.token, row.pointer⟩) .empty

/-- The result of a step: the runtime, an error, and the configurations sent. -/
structure Outcome where
  runtime : Runtime
  error : Option String
  sent : List Configuration

section Install

variable (parseAddr : Text → Option Bool) (routeToken : Text → Text → Text)
  (digest : Snapshot → Text) (key : Text)

def Runtime.adopt (r : Runtime) (snapshot : Snapshot) (c : Candidate) : Runtime :=
  let routes := routesOf c.nodes snapshot.routes
  { heap := c.heap
    nodes := c.nodes
    desired := c.desired
    routes
    fingerprint := digest snapshot
    status := { r.status with
      appliedVersion := snapshot.version
      ready := true
      errorCode := []
      routeIDs := (routes.rows.map RouteRuntime.id).mergeSort fun a b => decide (a ≤ b)
      nodeRevisions := snapshot.nodes.map fun node => (node.id, node.revision) } }

/-- The candidate is given up. Its new objects stay on the heap, but nothing refers to
them. -/
def Runtime.abandon (r : Runtime) (c : Candidate) (restored : Bool) : Runtime :=
  { r with
    heap := c.heap
    status := { r.status with
      ready := r.status.ready && restored
      errorCode := "configuration_apply_failed".toList } }

def Runtime.install (r : Runtime) (snapshot : Snapshot) (answers : Answers) : Outcome :=
  match validateSnapshot parseAddr routeToken snapshot key with
  | .error err => ⟨r, some err, []⟩
  | .ok () =>
    if snapshot.version < r.status.appliedVersion then ⟨r, some "stale snapshot", []⟩
    else if snapshot.version = r.status.appliedVersion ∧ r.status.ready then
      if digest snapshot ≠ r.fingerprint then ⟨r, some "snapshot version conflict", []⟩
      else ⟨r, none, []⟩
    else
      match snapshot.nodes.foldlM (Candidate.add r) r.candidate with
      | .error err => ⟨r, some err, []⟩
      | .ok c =>
        let configuration := marshalMihomo c.heap c.nodes
        let fresh := portsOf c.heap c.nodes fun row => (r.nodes.find? row.key).isNone
        if answers.apply && fresh.all answers.probe then
          ⟨r.adopt digest snapshot c, none, [configuration]⟩
        else
          let restored := answers.rollback &&
            (portsOf r.heap r.nodes fun _ => true).all answers.rollbackProbe
          ⟨r.abandon c restored, some "configuration apply failed",
            [configuration, marshalMihomo r.heap r.nodes]⟩

end Install

/-! ## Pruning -/

def Runtime.prune (r : Runtime) (apply : Bool) : Outcome :=
  let keep := r.nodes.delete fun row => !(r.desired.contains row.key || r.active row.pointer)
  if r.status.ready = false ∨ keep.rows.length = r.nodes.rows.length then ⟨r, none, []⟩
  else if apply then ⟨{ r with nodes := keep }, none, [marshalMihomo r.heap keep]⟩
  else ⟨r, none, [marshalMihomo r.heap keep]⟩

/-! ## Tunnels and probes -/

def allowedHosts : List Text :=
  ["auth.openai.com".toList, "chatgpt.com".toList, "accounts.google.com".toList,
    "oauth2.googleapis.com".toList, "www.googleapis.com".toList,
    "cloudcode-pa.googleapis.com".toList, "daily-cloudcode-pa.googleapis.com".toList,
    "daily-cloudcode-pa.sandbox.googleapis.com".toList, "platform.claude.com".toList,
    "api.anthropic.com".toList]

/-- A host of the list with port 443; the host may stand in brackets. -/
def allowedTarget (target : Text) : Bool :=
  allowedHosts.any fun host =>
    target = host ++ ":443".toList ∨ target = '[' :: host ++ "]:443".toList

/-- What a request to the data port carries. -/
structure ConnectRequest where
  remoteIP : Option Text
  isConnect : Bool
  requestURI : Text
  host : Text
  credentials : Option (Text × Text)
  deriving Repr, DecidableEq

def squidIP : Text := "172.28.60.2".toList

def Runtime.count (r : Runtime) (pointer : Nat) (by' : Int) : Runtime :=
  { r with
    heap := r.heap.modify pointer (fun object => { object with active := object.active + by' })
      (fun _ => rfl) }

/-- The admission of a tunnel: the object it holds from now on. -/
def Runtime.connect (r : Runtime) (request : ConnectRequest) : Except String (Runtime × Nat) :=
  if request.remoteIP ≠ some squidIP then .error "source rejected"
  else if request.isConnect = false ∨ request.requestURI ≠ request.host ∨
      allowedTarget request.host = false then .error "destination rejected"
  else
    match request.credentials with
    | none => .error "route authentication required"
    | some (id, token) =>
      match r.routes.find? id with
      | none => .error "route unavailable"
      | some route =>
        if r.status.ready = false ∨ route.token ≠ token then .error "route unavailable"
        else .ok (r.count route.pointer 1, route.pointer)

def maxConcurrentProbes : Nat := 4

/-- The start of a connectivity probe, while others run. -/
def Runtime.beginProbe (r : Runtime) (running : Nat) (nodeID : Text) (revision : Int) :
    Except String (Runtime × Nat) :=
  if running ≥ maxConcurrentProbes then .error "probe_busy"
  else
    match r.nodes.find? (nodeKey nodeID revision) with
    | none => .error "node_not_applied"
    | some row =>
      if r.status.ready = false ∨ nodeKey nodeID revision ∉ r.desired then
        .error "node_not_applied"
      else .ok (r.count row.pointer 1, row.pointer)

end Egress
