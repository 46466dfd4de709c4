import CodexGateway.Egress.RuntimeSteps
import CodexGateway.Egress.Writes

/-! # An account leaves through its own node

The tables, the gateway, the egress runtime and its local proxy together. A route is
named by a digest of the account, its binding and the revision of its node, so whatever
snapshot the runtime has applied, a tunnel under a route goes to the node for which the
route was made.
-/

open Store (UpstreamProvider AccountID)

namespace Egress

variable {kind id : Text} {b : Int} {n : EgressServer} {r : Runtime} {mihomo : Configuration}

/-! ## Names of routes -/

theorem slash_not_mem_ofInt (n : Int) : '/' ∉ Text.ofInt n := by
  intro member
  rcases Text.mem_ofInt member with bad | bad
  · exact absurd bad (by decide)
  · exact absurd bad (by decide)

theorem slash_not_mem_uuid (id : UUID) : '/' ∉ id.val := by
  intro member
  rcases Uuid.allowed_of_mem id.property member with bad | bad
  · exact absurd bad (by decide)
  · exact absurd bad (by decide)

theorem slash_not_mem_accountID (id : AccountID) : '/' ∉ id.val := by
  intro member
  exact absurd (id.property.2 '/' member) (by decide)

theorem slash_not_mem_providerName (provider : UpstreamProvider) : '/' ∉ providerName provider := by
  cases provider <;> decide

theorem routeText_injective {kind' id' : Text} {b' : Int} {n' : EgressServer}
    (kindFree : '/' ∉ kind) (kindFree' : '/' ∉ kind') (idFree : '/' ∉ id) (idFree' : '/' ∉ id')
    (same : routeText kind id b n = routeText kind' id' b' n') :
    kind = kind' ∧ id = id' ∧ b = b' ∧ n.id = n'.id ∧ n.revision = n'.revision := by
  obtain ⟨kinds, rest⟩ := Text.split_unique kindFree kindFree' same
  obtain ⟨ids, rest⟩ := Text.split_unique idFree idFree' rest
  obtain ⟨revisions, rest⟩ :=
    Text.split_unique (slash_not_mem_ofInt b) (slash_not_mem_ofInt b') rest
  obtain ⟨nodes, nodeRevisions⟩ :=
    nodeKey_injective (slash_not_mem_uuid n.id) (slash_not_mem_uuid n'.id) rest
  exact ⟨kinds, ids, Text.ofInt_injective revisions, Subtype.ext nodes, nodeRevisions⟩

variable {history : List Db} {d db : Db} {revision : Int} {nodeID : Option UUID}
  {snapshot : Snapshot} {heap heap' : Serial NodeRuntime.pointer} {pointer : Nat} {synced : Synced}
  {resolution : Resolution}

section Routes

variable {sha256 : Text → Text} {routeToken : Text → Text → Text}
  {decrypt : UUID → List UInt8 → Option Text} {config : GatewayConfig}

variable (sha256 decrypt) in
/-- A route of some past state of the tables, and the node that it was made for. -/
def Leads (history : List Db) (route : Text) (node : Node) : Prop :=
  ∃ d ∈ history, ∃ n ∈ d.servers.rows, runtimeNode decrypt n = some node ∧
    ∃ kind id b, '/' ∉ kind ∧ '/' ∉ id ∧ route = egressRouteID sha256 kind id b n

theorem Leads.mono {history' : List Db} {route : Text} {node : Node}
    (leads : Leads sha256 decrypt history route node) (more : ∀ d ∈ history, d ∈ history') :
    Leads sha256 decrypt history' route node := by
  obtain ⟨d, member, rest⟩ := leads
  exact ⟨d, more d member, rest⟩

theorem Leads.node (recorded : Recorded history db) (collisionFree : Function.Injective sha256)
    (kindFree : '/' ∉ kind) (idFree : '/' ∉ id) (member : d ∈ history) (row : n ∈ d.servers.rows)
    {node : Node} (leads : Leads sha256 decrypt history (egressRouteID sha256 kind id b n) node) :
    runtimeNode decrypt n = some node := by
  obtain ⟨d', member', n', row', opened, kind', id', b', kindFree', idFree', same⟩ := leads
  obtain ⟨-, -, -, nodes, revisions⟩ :=
    routeText_injective kindFree kindFree' idFree idFree' (collisionFree same)
  rw [recorded.unique d member d' member' n row n' row' nodes revisions]
  exact opened

theorem mem_nodes_egressSnapshot : n ∈ (egressSnapshot d).nodes ↔ n ∈ d.servers.rows := by
  simp [egressSnapshot, List.mem_mergeSort]

theorem runtimeRoute_some {state : EgressState}
    {route : Route} (nodes : state.nodes = (egressSnapshot d).nodes)
    (made : runtimeRoute sha256 routeToken config state kind id revision nodeID = some route) :
    ∃ n ∈ d.servers.rows, route.id = egressRouteID sha256 kind id revision n ∧
      route.nodeID = n.id.val ∧ route.nodeRevision = n.revision := by
  unfold runtimeRoute at made
  obtain ⟨id', -, made⟩ := Option.bind_eq_some_iff.mp made
  obtain ⟨n, found, made⟩ := Option.bind_eq_some_iff.mp made
  cases made
  refine ⟨n, ?_, rfl, rfl, rfl⟩
  rw [nodes] at found
  exact mem_nodes_egressSnapshot.mp (List.mem_of_find?_eq_some found)

theorem runtimeSnapshot_some
    (made : runtimeSnapshot sha256 routeToken decrypt config (egressSnapshot d) = some snapshot) :
    (∀ node ∈ snapshot.nodes, ∃ n ∈ d.servers.rows, runtimeNode decrypt n = some node) ∧
    ∀ route ∈ snapshot.routes, ∃ n ∈ d.servers.rows, ∃ kind id b, '/' ∉ kind ∧ '/' ∉ id ∧
      route.id = egressRouteID sha256 kind id b n ∧
      route.nodeID = n.id.val ∧ route.nodeRevision = n.revision := by
  unfold runtimeSnapshot at made
  obtain ⟨nodes, opened, made⟩ := Option.bind_eq_some_iff.mp made
  cases made
  refine ⟨?_, ?_⟩
  · intro node member
    obtain ⟨n, row, same⟩ := Option.exists_of_mem_mapM opened member
    exact ⟨n, mem_nodes_egressSnapshot.mp row, same⟩
  · have named : ∀ {kind id : Text} {revision : Int} {nodeID : Option UUID} {route : Route},
        '/' ∉ kind → '/' ∉ id →
        runtimeRoute sha256 routeToken config (egressSnapshot d) kind id revision nodeID =
          some route → ∃ n ∈ d.servers.rows, ∃ kind id b, '/' ∉ kind ∧ '/' ∉ id ∧
            route.id = egressRouteID sha256 kind id b n ∧
            route.nodeID = n.id.val ∧ route.nodeRevision = n.revision := by
      intro kind id revision nodeID route kindFree idFree route'
      obtain ⟨n, row, same⟩ := runtimeRoute_some rfl route'
      exact ⟨n, row, kind, id, revision, kindFree, idFree, same⟩
    intro route member
    rcases List.mem_append.mp member with bound | registered
    · obtain ⟨b, -, made⟩ := List.mem_filterMap.mp bound
      exact named (slash_not_mem_providerName _) (slash_not_mem_accountID _) made
    · obtain ⟨r, -, made⟩ := List.mem_flatMap.mp registered
      unfold registrationRoutes at made
      split at made
      · cases made
      · rcases List.mem_append.mp made with own | ahead
        · exact named (by decide) (slash_not_mem_uuid _) (Option.mem_toList.mp own)
        · split at ahead
          · split at ahead
            · exact named (slash_not_mem_providerName _) (slash_not_mem_accountID _)
                (Option.mem_toList.mp ahead)
            · cases ahead
          · cases ahead

end Routes

/-! ## The system -/

/-- The tables with all their past states, the runtime, the configuration of its local
proxy, and the tunnels and probes that are open. `accepted` records the route of
every tunnel there was, with the node it was sent to. -/
structure World where
  db : Db
  history : List Db
  runtime : Runtime
  mihomo : Configuration
  tunnels : List (Text × Nat)
  probes : List Nat
  accepted : List (Text × Node)

def World.held (w : World) : List Nat := w.tunnels.map Prod.snd ++ w.probes

def World.start (instanceID : Text) : World :=
  ⟨.empty, [.empty], newRuntime instanceID, [], [], [], []⟩

/-- Whether configurations took effect that the local proxy reported as failed. -/
structure Late where
  apply : Bool
  rollback : Bool

inductive WorldEvent where
  | write (write : Write)
  /-- The snapshot of some state of the tables arrives at the runtime. -/
  | install (state : Nat) (answers : Answers) (late : Late)
  | prune (apply : Bool) (late : Bool)
  | connect (request : ConnectRequest)
  | disconnect (tunnel : Text × Nat)
  | beginProbe (nodeID : Text) (revision : Int)
  | endProbe (pointer : Nat)
  | restart (instanceID : Text)

/-- The configuration of the local proxy after some were sent to it. -/
def receive (mihomo : Configuration) (sent : List Configuration) (effective : List Bool) :
    Configuration :=
  (sent.zip effective).foldl (fun old new => if new.2 then new.1 else old) mihomo

section World

variable (sha256 : Text → Text) (routeToken : Text → Text → Text)
  (decrypt : UUID → List UInt8 → Option Text) (config : GatewayConfig)
  (parseAddr parseIPv4 : Text → Option Bool) (digest : Snapshot → Text)

def World.deliver (w : World) (snapshot : Snapshot) (answers : Answers) (late : Late) : World :=
  let out := w.runtime.install parseAddr routeToken digest config.egressControlKey snapshot answers
  { w with
    runtime := out.runtime
    mihomo := receive w.mihomo out.sent
      [answers.apply || late.apply, answers.rollback || late.rollback] }

def World.step (w : World) : WorldEvent → World
  | .write write =>
    match write.apply parseIPv4 w.db with
    | .error _ => w
    | .ok db => { w with db, history := db :: w.history }
  | .install state answers late =>
    match (w.history[state]?).bind fun d =>
      runtimeSnapshot sha256 routeToken decrypt config (egressSnapshot d) with
    | none => w
    | some snapshot => w.deliver routeToken config parseAddr digest snapshot answers late
  | .prune apply late =>
    let out := w.runtime.prune apply
    { w with runtime := out.runtime, mihomo := receive w.mihomo out.sent [apply || late] }
  | .connect request =>
    match w.runtime.connect request with
    | .error _ => w
    | .ok (runtime, pointer) =>
      let route := (request.credentials.map Prod.fst).getD []
      { w with
        runtime
        tunnels := (route, pointer) :: w.tunnels
        accepted := ((runtime.heap.find? pointer).map fun object => (route, object.node)).toList ++
          w.accepted }
  | .disconnect tunnel =>
    if tunnel ∈ w.tunnels then
      { w with
        runtime := w.runtime.count tunnel.2 (-1), tunnels := w.tunnels.erase tunnel }
    else w
  | .beginProbe nodeID revision =>
    match w.runtime.beginProbe w.probes.length nodeID revision with
    | .error _ => w
    | .ok (runtime, pointer) => { w with runtime, probes := pointer :: w.probes }
  | .endProbe pointer =>
    if pointer ∈ w.probes then
      { w with runtime := w.runtime.count pointer (-1), probes := w.probes.erase pointer }
    else w
  | .restart instanceID =>
    { w with runtime := newRuntime instanceID, mihomo := [], tunnels := [], probes := [] }

def worldRun (w : World) (events : List WorldEvent) : World :=
  Transaction.run (World.step sha256 routeToken decrypt config parseAddr parseIPv4 digest) w events

end World

/-! ## The local proxy -/

/-- Whatever listens at the port of an installed node sends to that node. -/
def Agrees (r : Runtime) (mihomo : Configuration) : Prop :=
  ∀ row ∈ r.nodes.rows, ∀ object, r.heap.find? row.pointer = some object →
    ∀ listener ∈ mihomo, listener.port = object.port → listener.node = object.node

variable {w : World}

theorem listener_node_of_mapped {rows : List Installed}
    (mapped : WellMapped heap rows) {nodes : Table Installed.key}
    (fewer : ∀ row ∈ nodes.rows, row ∈ rows) (keeps : Keeps heap' heap) {row : Installed}
    (member : row ∈ rows) {object : NodeRuntime} (found : heap.find? row.pointer = some object)
    {listener : Listener} (listed : listener ∈ marshalMihomo heap' nodes)
    (port : listener.port = object.port) : listener.node = object.node := by
  obtain ⟨row', member', object', found', rfl⟩ := mem_marshalMihomo.mp listed
  obtain ⟨object'', found'', node'', port''⟩ := keeps _ _ found'
  have same : row' = row :=
    mapped.apart row' (fewer row' member') row member object'' object found'' found
      (port''.trans port)
  rw [same, found] at found''
  cases found''
  exact node''.symm

theorem Agrees.keeps {r' : Runtime} (agrees : Agrees r mihomo)
    (mapped : WellMapped r.heap r.nodes.rows) (keeps : Keeps r.heap r'.heap)
    (rows' : ∀ row ∈ r'.nodes.rows, row ∈ r.nodes.rows) : Agrees r' mihomo := by
  intro row member object found listener listed port
  obtain ⟨old, oldFound, -⟩ := mapped.object row (rows' row member)
  obtain ⟨new, newFound, node, port'⟩ := keeps _ _ oldFound
  cases newFound.symm.trans found
  rw [node]
  exact agrees row (rows' row member) old oldFound listener listed (port.trans port')

section Steps

variable {sha256 : Text → Text} {routeToken : Text → Text → Text}
  {decrypt : UUID → List UInt8 → Option Text} {config : GatewayConfig}
  {parseAddr parseIPv4 : Text → Option Bool} {digest : Snapshot → Text}

variable (parseAddr routeToken digest) in
theorem agrees_install (key : Text) {held : List Nat} (sound : r.Sound held)
    (agrees : Agrees r mihomo) (snapshot : Snapshot) (answers : Answers) (late : Late) :
    let out := r.install parseAddr routeToken digest key snapshot answers
    Agrees out.runtime (receive mihomo out.sent
      [answers.apply || late.apply, answers.rollback || late.rollback]) := by
  rcases install_cases parseAddr routeToken digest key r snapshot answers with
    ⟨same, silent⟩ | ⟨c, -, -, folded, outcome⟩
  · dsimp only
    rw [same, silent]
    exact agrees
  · obtain ⟨from', -⟩ := sound.candidate folded
    rcases outcome with ⟨applied, effective⟩ | ⟨restored, -, failed⟩
    · rw [applied]
      dsimp only
      rw [effective, Bool.true_or]
      intro row member object found listener listed port
      exact listener_node_of_mapped from'.mapped (fun _ => List.mem_append_left _) (Keeps.refl _)
        (List.mem_append_left _ member) found listed port
    · rw [failed]
      dsimp only
      -- Of the three configurations that may be in force, none takes a port of an
      -- installed node for another one.
      have older : Agrees (r.abandon c restored) mihomo :=
        agrees.keeps sound.mapped from'.keeps fun _ member => member
      have candidate : Agrees (r.abandon c restored) (marshalMihomo c.heap c.nodes) :=
        fun row member object found listener listed port =>
          listener_node_of_mapped from'.mapped (fun _ => List.mem_append_left _) (Keeps.refl _)
            (List.mem_append_right _ member) found listed port
      have rolledBack : Agrees (r.abandon c restored) (marshalMihomo r.heap r.nodes) :=
        fun row member object found listener listed port =>
          listener_node_of_mapped from'.mapped (fun _ => List.mem_append_right _) from'.keeps
            (List.mem_append_right _ member) found listed port
      unfold receive
      cases answers.apply || late.apply <;> cases answers.rollback || late.rollback
      · exact older
      · exact rolledBack
      · exact candidate
      · exact rolledBack

theorem agrees_prune {held : List Nat} (sound : r.Sound held) (agrees : Agrees r mihomo)
    (apply late : Bool) :
    Agrees (r.prune apply).runtime (receive mihomo (r.prune apply).sent [apply || late]) := by
  have kept : Agrees r (marshalMihomo r.heap (r.nodes.delete fun row =>
      !(r.desired.contains row.key || r.active row.pointer))) :=
    fun row member object found listener listed port =>
      listener_node_of_mapped sound.mapped (fun _ => List.mem_of_mem_filter) (Keeps.refl _) member
        found listed port
  have fewer : ∀ {mihomo : Configuration}, Agrees r mihomo →
      Agrees { r with nodes := r.nodes.delete fun row =>
        !(r.desired.contains row.key || r.active row.pointer) } mihomo :=
    fun agrees => agrees.keeps sound.mapped (Keeps.refl _) fun _ => List.mem_of_mem_filter
  unfold Runtime.prune
  dsimp only
  split
  · exact agrees
  · unfold receive
    split
    next applied =>
      rw [applied]
      exact fewer kept
    next failed =>
      rw [eq_false_of_ne_true failed]
      cases late
      · exact agrees
      · exact kept

/-! ## The invariant of the system -/

variable (sha256 decrypt) in
structure World.Sound (w : World) : Prop where
  recorded : Recorded w.history w.db
  runtime : w.runtime.Sound w.held
  objects : ∀ object ∈ w.runtime.heap.rows, ∃ d ∈ w.history, ∃ n ∈ d.servers.rows,
    runtimeNode decrypt n = some object.node
  routes : ∀ route ∈ w.runtime.routes.rows, ∃ object,
    w.runtime.heap.find? route.pointer = some object ∧
      Leads sha256 decrypt w.history route.id object.node
  agrees : Agrees w.runtime w.mihomo
  tunnels : ∀ tunnel ∈ w.tunnels, ∃ object, w.runtime.heap.find? tunnel.2 = some object ∧
    (tunnel.1, object.node) ∈ w.accepted
  accepted : ∀ entry ∈ w.accepted, Leads sha256 decrypt w.history entry.1 entry.2

theorem Keeps.object_node (keeps : Keeps heap heap') {P : Node → Prop}
    (holds : ∃ object, heap.find? pointer = some object ∧ P object.node) :
    ∃ object, heap'.find? pointer = some object ∧ P object.node := by
  obtain ⟨object, found, holds⟩ := holds
  obtain ⟨object', found', node, -⟩ := keeps _ _ found
  exact ⟨object', found', by rw [node]; exact holds⟩

theorem World.sound_start (instanceID : Text) : (World.start instanceID).Sound sha256 decrypt := by
  refine ⟨recorded_empty, ⟨⟨?_, ?_⟩, ?_, ?_, ?_⟩, ?_, ?_, ?_, ?_, ?_⟩ <;>
    · intro _ impossible
      cases impossible

theorem World.Sound.write (sound : w.Sound sha256 decrypt) (writes : Writes w.db db) :
    World.Sound sha256 decrypt { w with db, history := db :: w.history } := by
  have more : ∀ d ∈ w.history, d ∈ db :: w.history := fun _ => List.mem_cons_of_mem _
  refine ⟨sound.recorded.write writes, sound.runtime, ?_, ?_, sound.agrees, sound.tunnels, ?_⟩
  · intro object member
    obtain ⟨d, past, rest⟩ := sound.objects object member
    exact ⟨d, more d past, rest⟩
  · intro route member
    obtain ⟨object, found, leads⟩ := sound.routes route member
    exact ⟨object, found, leads.mono more⟩
  · exact fun entry member => (sound.accepted entry member).mono more

theorem World.Sound.recount (sound : w.Sound sha256 decrypt) {by' : Int}
    {tunnels : List (Text × Nat)} {probes : List Nat} {accepted : List (Text × Node)}
    (runtime : (w.runtime.count pointer by').Sound (tunnels.map Prod.snd ++ probes))
    (held : ∀ tunnel ∈ tunnels, ∃ object, w.runtime.heap.find? tunnel.2 = some object ∧
      (tunnel.1, object.node) ∈ accepted)
    (leads : ∀ entry ∈ accepted, Leads sha256 decrypt w.history entry.1 entry.2) :
    World.Sound sha256 decrypt
      { w with runtime := w.runtime.count pointer by', tunnels, probes, accepted } := by
  have keeps := keeps_count w.runtime pointer by'
  refine ⟨sound.recorded, runtime, ?_, ?_, ?_, ?_, leads⟩
  · intro object member
    obtain ⟨old, oldMember, rfl⟩ := List.mem_map.mp member
    obtain ⟨d, past, n, row, opened⟩ := sound.objects old oldMember
    refine ⟨d, past, n, row, ?_⟩
    dsimp only
    split <;> exact opened
  · exact fun route member => keeps.object_node (sound.routes route member)
  · exact sound.agrees.keeps sound.runtime.mapped keeps fun _ member => member
  · intro tunnel member
    exact keeps.object_node (P := fun node => (tunnel.1, node) ∈ accepted) (held tunnel member)

/-- Objects of past nodes with the key of a route are of the node that it names. -/
theorem leads_of_key (recorded : Recorded history db)
    (past : d ∈ history) (row : n ∈ d.servers.rows) (kindFree : '/' ∉ kind) (idFree : '/' ∉ id)
    {node : Node} (known : ∃ d ∈ history, ∃ n ∈ d.servers.rows, runtimeNode decrypt n = some node)
    (keyed : node.key = nodeKey n.id.val n.revision) :
    Leads sha256 decrypt history (egressRouteID sha256 kind id b n) node := by
  obtain ⟨d', past', n', row', opened⟩ := known
  have parts : n'.id = n.id ∧ n'.revision = n.revision := by
    obtain ⟨password, -, made⟩ := Option.map_eq_some_iff.mp opened
    subst made
    obtain ⟨ids, revisions⟩ :=
      nodeKey_injective (slash_not_mem_uuid n'.id) (slash_not_mem_uuid n.id) keyed
    exact ⟨Subtype.ext ids, revisions⟩
  have same : n' = n := recorded.unique d' past' d past n' row' n row parts.1 parts.2
  rw [same] at opened
  exact ⟨d, past, n, row, opened, kind, id, b, kindFree, idFree, rfl⟩

theorem World.Sound.deliver (sound : w.Sound sha256 decrypt) (past : d ∈ w.history)
    (made : runtimeSnapshot sha256 routeToken decrypt config (egressSnapshot d) = some snapshot)
    (answers : Answers) (late : Late) :
    (w.deliver routeToken config parseAddr digest snapshot answers late).Sound sha256 decrypt := by
  have agrees := agrees_install routeToken parseAddr digest config.egressControlKey sound.runtime
    sound.agrees snapshot answers late
  have runtime : (w.runtime.install parseAddr routeToken digest config.egressControlKey snapshot
      answers).runtime.Sound w.held := sound.runtime.install snapshot answers
  unfold World.deliver
  dsimp only at agrees ⊢
  rcases install_cases parseAddr routeToken digest config.egressControlKey w.runtime snapshot
      answers with ⟨same, -⟩ | ⟨c, -, -, folded, outcome⟩
  · refine ⟨sound.recorded, runtime, ?_, ?_, agrees, ?_, sound.accepted⟩ <;> dsimp only <;> rw [same]
    · exact sound.objects
    · exact sound.routes
    · exact sound.tunnels
  · obtain ⟨from', -⟩ := sound.runtime.candidate folded
    obtain ⟨nodes, routes⟩ := runtimeSnapshot_some made
    have objects : ∀ object ∈ c.heap.rows, ∃ d ∈ w.history, ∃ n ∈ d.servers.rows,
        runtimeNode decrypt n = some object.node := by
      intro object member
      rcases Candidate.addAll_object folded object member with old | new
      · exact sound.objects object old
      · obtain ⟨n, row, opened⟩ := nodes object.node new
        exact ⟨d, past, n, row, opened⟩
    have tunnels : ∀ tunnel ∈ w.tunnels, ∃ object, c.heap.find? tunnel.2 = some object ∧
        (tunnel.1, object.node) ∈ w.accepted := fun tunnel member =>
      from'.keeps.object_node (P := fun node => (tunnel.1, node) ∈ w.accepted)
        (sound.tunnels tunnel member)
    rcases outcome with ⟨applied, -⟩ | ⟨restored, -, failed⟩
    · rw [applied] at runtime agrees ⊢
      refine ⟨sound.recorded, runtime, objects, ?_, agrees, tunnels, sound.accepted⟩
      intro entry member
      obtain ⟨route, routeMember, row, found, rfl⟩ := mem_routesOf member
      obtain ⟨rowMember, named⟩ := Table.find?_eq_some.mp found
      obtain ⟨object, objectFound, keyed, -⟩ :=
        from'.mapped.object row (List.mem_append_left _ rowMember)
      obtain ⟨n, server, kind, id, b, kindFree, idFree, routeID, nodeID, nodeRevision⟩ :=
        routes route routeMember
      refine ⟨object, objectFound, ?_⟩
      dsimp only
      rw [routeID]
      refine leads_of_key sound.recorded past server kindFree idFree
        (objects object (Table.mem_of_find? objectFound)) ?_
      rw [keyed, named, nodeID, nodeRevision]
    · rw [failed] at runtime agrees ⊢
      exact ⟨sound.recorded, runtime, objects,
        fun route member => from'.keeps.object_node (sound.routes route member), agrees, tunnels,
        sound.accepted⟩

theorem World.Sound.prune (sound : w.Sound sha256 decrypt) (apply late : Bool) :
    World.Sound sha256 decrypt { w with
      runtime := (w.runtime.prune apply).runtime
      mihomo := receive w.mihomo (w.runtime.prune apply).sent [apply || late] } := by
  have same : (w.runtime.prune apply).runtime.heap = w.runtime.heap ∧
      (w.runtime.prune apply).runtime.routes = w.runtime.routes := by
    unfold Runtime.prune
    dsimp only
    split
    · exact ⟨rfl, rfl⟩
    · split <;> exact ⟨rfl, rfl⟩
  refine ⟨sound.recorded, sound.runtime.prune apply, ?_, ?_,
    agrees_prune sound.runtime sound.agrees apply late, ?_, sound.accepted⟩
  · dsimp only
    rw [same.1]
    exact sound.objects
  · dsimp only
    rw [same.1, same.2]
    exact sound.routes
  · dsimp only
    rw [same.1]
    exact sound.tunnels

theorem World.Sound.connect (sound : w.Sound sha256 decrypt) {request : ConnectRequest}
    {runtime : Runtime} (accepted : w.runtime.connect request = .ok (runtime, pointer)) :
    World.Sound sha256 decrypt { w with
      runtime
      tunnels := ((request.credentials.map Prod.fst).getD [], pointer) :: w.tunnels
      accepted := ((runtime.heap.find? pointer).map fun object =>
        ((request.credentials.map Prod.fst).getD [], object.node)).toList ++ w.accepted } := by
  obtain ⟨id, token, credentials, -, found, rfl⟩ := Runtime.connect_ok accepted
  have member := Table.mem_of_find? found
  obtain ⟨row, rowMember, points, -⟩ := sound.runtime.routed _ member
  obtain ⟨object, objectFound, leads⟩ := sound.routes _ member
  obtain ⟨object', objectFound', node, -⟩ := keeps_count w.runtime pointer 1 _ _ objectFound
  rw [credentials, objectFound']
  simp only [Option.map_some, Option.getD_some, node]
  refine sound.recount ?_ ?_ ?_
  · exact sound.runtime.hold ⟨row, rowMember, points⟩ (List.Perm.refl _)
  · intro tunnel member
    rcases List.mem_cons.mp member with rfl | old
    · exact ⟨object, objectFound, List.mem_append_left _ (by simp)⟩
    · obtain ⟨other, otherFound, recorded⟩ := sound.tunnels tunnel old
      exact ⟨other, otherFound, List.mem_append_right _ recorded⟩
  · intro entry member
    rcases List.mem_append.mp member with new | old
    · rw [List.mem_singleton.mp (show entry ∈ [(id, object.node)] from new)]
      exact leads
    · exact sound.accepted entry old

theorem World.Sound.step (sound : w.Sound sha256 decrypt) (event : WorldEvent) :
    (w.step sha256 routeToken decrypt config parseAddr parseIPv4 digest event).Sound
      sha256 decrypt := by
  cases event with
  | write write =>
    rw [World.step]
    cases applied : write.apply parseIPv4 w.db with
    | error err => exact sound
    | ok db => exact sound.write (Write.apply_writes applied)
  | install state answers late =>
    rw [World.step]
    cases made : (w.history[state]?).bind fun d =>
        runtimeSnapshot sha256 routeToken decrypt config (egressSnapshot d) with
    | none => exact sound
    | some snapshot =>
      obtain ⟨d, found, made⟩ := Option.bind_eq_some_iff.mp made
      exact sound.deliver (List.mem_of_getElem? found) made answers late
  | prune apply late => exact sound.prune apply late
  | connect request =>
    rw [World.step]
    cases accepted : w.runtime.connect request with
    | error err => exact sound
    | ok result => exact sound.connect accepted
  | disconnect tunnel =>
    rw [World.step]
    split
    next open' =>
      refine sound.recount (sound.runtime.release ?_)
        (fun other member => sound.tunnels other (List.mem_of_mem_erase member)) sound.accepted
      exact ((List.perm_cons_erase open').map Prod.snd).append_right _
    · exact sound
  | beginProbe nodeID revision =>
    rw [World.step]
    cases accepted : w.runtime.beginProbe w.probes.length nodeID revision with
    | error err => exact sound
    | ok result =>
      obtain ⟨runtime, pointer⟩ := result
      obtain ⟨installed, rfl⟩ := Runtime.beginProbe_ok accepted
      exact sound.recount (sound.runtime.hold installed List.perm_middle) sound.tunnels
        sound.accepted
  | endProbe pointer =>
    rw [World.step]
    split
    next running =>
      refine sound.recount (sound.runtime.release ?_) sound.tunnels sound.accepted
      exact ((List.perm_cons_erase running).append_left _).trans List.perm_middle
    · exact sound
  | restart instanceID =>
    refine ⟨sound.recorded, ⟨⟨?_, ?_⟩, ?_, ?_, ?_⟩, ?_, ?_, ?_, ?_, sound.accepted⟩ <;>
      · intro _ impossible
        cases impossible

theorem worldRun_sound (instanceID : Text) (events : List WorldEvent) :
    (worldRun sha256 routeToken decrypt config parseAddr parseIPv4 digest (.start instanceID)
      events).Sound sha256 decrypt :=
  Transaction.run_preserves (World.sound_start instanceID) (fun _ event before => before.step event)
    events

end Steps

/-! ## Resolutions -/

/-- What a read of the tables in some state may return: all of it, or what was read
before it failed. -/
structure Read.Of (read : Read) (d : Db) : Prop where
  nodes : read.state.nodes <+: (egressSnapshot d).nodes
  bindings : read.state.bindings <+: (egressSnapshot d).bindings
  registrations : read.state.registrations <+: (egressSnapshot d).registrations
  complete : read.failed = false → read.state = egressSnapshot d

theorem mem_bindings_egressSnapshot {b : EgressBinding} :
    b ∈ (egressSnapshot d).bindings ↔ ∃ row ∈ d.bindings.rows, ∃ account,
      d.accounts.find? row.accountID = some account ∧
        b = ⟨row.accountID, account.provider, row.nodeID, row.revision⟩ := by
  unfold egressSnapshot
  simp only [List.mem_filterMap, List.mem_mergeSort, Option.map_eq_some_iff]
  constructor
  · rintro ⟨row, member, account, found, rfl⟩
    exact ⟨row, member, account, found, rfl⟩
  · rintro ⟨row, member, account, found, rfl⟩
    exact ⟨row, member, account, found, rfl⟩

def Db.Unbound (d : Db) (accountID : Text) : Prop :=
  ∀ b ∈ d.bindings.rows, b.accountID.val = accountID → b.nodeID = none

section Resolve

variable {sha256 : Text → Text} {routeToken : Text → Text → Text}
  {decrypt : UUID → List UInt8 → Option Text} {config : GatewayConfig}

variable (sha256 routeToken config) in
/-- The resolution is the route of the account's binding in a state of the tables. -/
structure RouteOf (d : Db) (provider accountID : Text) (resolution : Resolution)
    (n : EgressServer) : Prop where
  node : n ∈ d.servers.rows
  bound : ∃ b ∈ d.bindings.rows, b.accountID.val = accountID ∧ b.nodeID = some n.id ∧
    resolution.revision = egressRouteID sha256 provider accountID b.revision n ∧
    ∃ account, d.accounts.find? b.accountID = some account ∧ providerName account.provider = provider
  proxy : resolution.proxy =
    some (resolution.revision, routeToken config.egressControlKey resolution.revision)

variable (sha256 routeToken decrypt config) in
theorem syncAccountEgress_state (cached : Status) (replies : SyncReplies) :
    (syncAccountEgress sha256 routeToken decrypt config cached replies).state =
      replies.read.state := by
  unfold syncAccountEgress
  dsimp only
  split
  · rfl
  · split
    · rfl
    · split
      · split
        · rfl
        · split
          · split
            · rfl
            · split <;> rfl
          · rfl
      · split <;> rfl

theorem appliedRouteResolution_ok
    (ok : appliedRouteResolution sha256 routeToken config kind id revision nodeID synced =
      .ok resolution) :
    nodeID = none ∧ resolution.mode = .global ∨
    ∃ n ∈ synced.state.nodes, nodeID = some n.id ∧ resolution.mode = .account ∧
      resolution.revision = egressRouteID sha256 kind id revision n ∧
      resolution.proxy =
        some (resolution.revision, routeToken config.egressControlKey resolution.revision) := by
  unfold appliedRouteResolution at ok
  obtain ⟨-, ok⟩ := Except.refuse_eq_ok.mp ok
  cases nodeID with
  | none =>
    cases ok
    exact .inl ⟨rfl, rfl⟩
  | some id' =>
    unfold routeResolution at ok
    dsimp only at ok
    cases found : synced.state.nodes.find? fun n => n.id = id' with
    | none =>
      rw [found] at ok
      cases ok
    | some n =>
      rw [found] at ok
      dsimp only at ok
      rw [if_neg (by decide)] at ok
      split at ok
      · cases ok
        refine .inr ⟨n, List.mem_of_find?_eq_some found, ?_, rfl, rfl, rfl⟩
        have named : n.id = id' := by simpa using List.find?_some found
        rw [named]
      · cases ok

/-- A resolution without a registration is about the first read or about that of the
synchronization. -/
theorem resolveAccount_ok {provider accountID : Text} {first : Read}
    {d' : Db} (owned : ∀ b ∈ d.bindings.rows, (d.accounts.find? b.accountID).isSome = true)
    (readFirst : first.Of d) (bindings : synced.state.bindings <+: (egressSnapshot d').bindings)
    (nodes : synced.state.nodes <+: (egressSnapshot d').nodes)
    (ok : resolveAccount sha256 routeToken config provider accountID first synced =
      .ok resolution) :
    resolution.mode = .global ∧ (d.Unbound accountID ∨ d'.Unbound accountID) ∨
    resolution.mode = .account ∧
      ∃ n, RouteOf sha256 routeToken config d' provider accountID resolution n := by
  -- One row of the bindings of an account tells about all of them.
  have only : ∀ {d : Db} {row : BindingRow}, row ∈ d.bindings.rows →
      row.accountID.val = accountID → row.nodeID = none → d.Unbound accountID := by
    intro d row member named free b other same
    have twin : b = row := List.inj_on_of_nodup_map d.bindings.unique other member
      (Subtype.ext (same.trans named.symm))
    rw [twin]
    exact free
  unfold resolveAccount at ok
  obtain ⟨complete, ok⟩ := Except.refuse_eq_ok.mp ok
  rw [readFirst.complete (by simpa using complete)] at ok
  cases found : (egressSnapshot d).bindings.find? fun b => b.accountID.val = accountID with
  | none =>
    rw [found] at ok
    cases ok
    refine .inl ⟨rfl, .inl ?_⟩
    intro b member named
    obtain ⟨account, accountFound⟩ := Option.isSome_iff_exists.mp (owned b member)
    have listed := List.find?_eq_none.mp found _
      (mem_bindings_egressSnapshot.mpr ⟨b, member, account, accountFound, rfl⟩)
    simp [named] at listed
  | some b =>
    rw [found] at ok
    obtain ⟨-, ok⟩ := Except.refuse_eq_ok.mp ok
    obtain ⟨row, member, account, -, rfl⟩ :=
      mem_bindings_egressSnapshot.mp (List.mem_of_find?_eq_some found)
    have named : row.accountID.val = accountID := by simpa using List.find?_some found
    split at ok
    next free =>
      cases ok
      exact .inl ⟨rfl, .inl (only member named (Option.isNone_iff_eq_none.mp free))⟩
    · cases current : synced.state.bindings.find? fun current =>
          current.accountID.val = accountID ∧ providerName current.provider = provider with
      | none =>
        rw [current] at ok
        cases ok
      | some b' =>
        rw [current] at ok
        obtain ⟨row', member', account', accountFound', rfl⟩ :=
          mem_bindings_egressSnapshot.mp (bindings.subset (List.mem_of_find?_eq_some current))
        obtain ⟨named', provider'⟩ : row'.accountID.val = accountID ∧
          providerName account'.provider = provider := by simpa using List.find?_some current
        rcases appliedRouteResolution_ok ok with
          ⟨free, mode⟩ | ⟨n, nodeMember, bound, mode, route, proxy⟩
        · exact .inl ⟨mode, .inr (only member' named' free)⟩
        · exact .inr ⟨mode, n, mem_nodes_egressSnapshot.mp (nodes.subset nodeMember),
            ⟨row', member', named', bound, route, account', accountFound', provider'⟩, proxy⟩

variable {parseAddr parseIPv4 : Text → Option Bool} {digest : Snapshot → Text}

/-- In every run, with whatever the gateway's reads return from the states the tables
had and whatever the runtime answers: a resolution to an account's route is that of
the account's binding, all tunnels that were ever accepted under it were sent to the
bound node, and for those that are open the local proxy has no other exit. A
resolution to the global exit is that of an account without a node. -/
theorem resolveAccountEgress_sound (collisionFree : Function.Injective sha256)
    (instanceID : Text) (events : List WorldEvent) (w : World)
    (run : w = worldRun sha256 routeToken decrypt config parseAddr parseIPv4 digest
      (.start instanceID) events)
    {d d' : Db} (past : d ∈ w.history) (past' : d' ∈ w.history) {replies : ResolveReplies}
    (readFirst : replies.first.Of d) (readSync : replies.sync.read.Of d')
    {provider accountID : Text} {resolution : Resolution}
    (ok : resolveAccountEgress sha256 routeToken decrypt config provider accountID none replies =
      .ok resolution) :
    (resolution.mode = .global → d.Unbound accountID ∨ d'.Unbound accountID) ∧
    (resolution.mode = .account → ∃ n,
      RouteOf sha256 routeToken config d' provider accountID resolution n ∧
      (∀ node, (resolution.revision, node) ∈ w.accepted → runtimeNode decrypt n = some node) ∧
      ∀ tunnel ∈ w.tunnels, tunnel.1 = resolution.revision →
        ∃ object, w.runtime.heap.find? tunnel.2 = some object ∧
          runtimeNode decrypt n = some object.node ∧
          ∀ listener ∈ w.mihomo, listener.port = object.port → listener.node = object.node) := by
  have sound : w.Sound sha256 decrypt := by
    rw [run]
    exact worldRun_sound instanceID events
  unfold resolveAccountEgress at ok
  dsimp only at ok
  have state := syncAccountEgress_state sha256 routeToken decrypt config replies.cached replies.sync
  rcases resolveAccount_ok (sound.recorded.owned d past) readFirst
      (by rw [state]; exact readSync.bindings) (by rw [state]; exact readSync.nodes) ok with
    ⟨mode, unbound⟩ | ⟨mode, n, route⟩
  · refine ⟨fun _ => unbound, fun other => ?_⟩
    rw [mode] at other
    cases other
  · refine ⟨fun other => ?_, fun _ => ?_⟩
    · rw [mode] at other
      cases other
    · have sent : ∀ node, (resolution.revision, node) ∈ w.accepted →
          runtimeNode decrypt n = some node := by
        intro node member
        have leads := sound.accepted _ member
        obtain ⟨b, -, rfl, -, revision, account, -, rfl⟩ := route.bound
        rw [revision] at leads
        exact leads.node sound.recorded collisionFree (slash_not_mem_providerName _)
          (slash_not_mem_accountID _) past' route.node
      refine ⟨n, route, sent, ?_⟩
      intro tunnel member named
      obtain ⟨object, found, accepted⟩ := sound.tunnels tunnel member
      rw [named] at accepted
      obtain ⟨row, installed, points⟩ := sound.runtime.kept tunnel.2
        (List.mem_append_left _ (List.mem_map_of_mem member))
      rw [← points] at found
      refine ⟨object, by rw [← points]; exact found, sent _ accepted, ?_⟩
      exact sound.agrees row installed object found

end Resolve

/-! One account, one node, one tunnel. -/

def exchange (c : Char) : Char := if c = '/' then '_' else if c = '_' then '/' else c

/-- A digest without collisions whose values are identifiers. -/
def sampleDigest (text : Text) : Text := text.map exchange

theorem sampleDigest_injective : Function.Injective sampleDigest := by
  have twice : Function.Involutive exchange := by
    intro c
    unfold exchange
    by_cases slash : c = '/'
    · simp [slash]
    · by_cases line : c = '_'
      · simp [line]
      · simp [slash, line]
  exact List.map_injective_iff.mpr twice.injective

def sampleUUID : UUID := ⟨"00000000-0000-4000-8000-000000000001".toList, by decide +kernel⟩

def sampleAccountID : AccountID := ⟨List.replicate 16 '0', rfl, by
  intro c member
  rw [List.eq_of_mem_replicate member]
  decide⟩

def sampleServer : EgressServer where
  id := sampleUUID
  name := ['n']
  server := "ss.example".toList
  port := 8388
  cipher := "aes-128-gcm".toList
  passwordCiphertext := List.replicate 29 0
  udp := false
  revision := 0

def sampleConfig : GatewayConfig := ⟨['k'], true⟩

def sampleToken (key id : Text) : Text := key ++ id

def sampleRun (events : List WorldEvent) : World :=
  worldRun sampleDigest sampleToken (fun _ _ => some ['p']) sampleConfig (fun _ => none)
    (fun _ => none) (fun _ => []) (.start ['i']) events

def sampleRoute : Text :=
  sampleDigest (routeText "codex".toList sampleAccountID.val 3 { sampleServer with revision := 2 })

def sampleConnect : ConnectRequest where
  remoteIP := some squidIP
  isConnect := true
  requestURI := "chatgpt.com:443".toList
  host := "chatgpt.com:443".toList
  credentials := some (sampleRoute, 'k' :: sampleRoute)

def sampleEvents : List WorldEvent :=
  [.write (.ensure sampleAccountID .codex), .write (.save sampleServer true ['u']),
    .write (.bind .codex sampleAccountID (some sampleUUID) ['u']),
    .install 0 ⟨true, fun _ => true, true, fun _ => true⟩ ⟨false, false⟩, .connect sampleConnect]

def sampleDb : Db := (sampleRun sampleEvents).db

def sampleReplies : ResolveReplies where
  first := ⟨egressSnapshot sampleDb, false⟩
  second := ⟨egressSnapshot sampleDb, false⟩
  third := ⟨egressSnapshot sampleDb, false⟩
  cached := .zero
  sync := {
    read := ⟨egressSnapshot sampleDb, false⟩
    status := some ⟨['i'], 3, true, [], [sampleRoute], []⟩
    put := true
    refreshed := none }

theorem Read.of_complete (d : Db) : Read.Of ⟨egressSnapshot d, false⟩ d :=
  ⟨List.prefix_rfl, List.prefix_rfl, List.prefix_rfl, fun _ => rfl⟩

theorem resolveAccountEgress_sampleReplies :
    (sampleRun sampleEvents).tunnels = [(sampleRoute, 1)] ∧
    ∃ n, RouteOf sampleDigest sampleToken sampleConfig sampleDb "codex".toList sampleAccountID.val
        ⟨.account, some (sampleRoute, 'k' :: sampleRoute), sampleRoute⟩ n ∧
      ∀ node, (sampleRoute, node) ∈ (sampleRun sampleEvents).accepted →
        runtimeNode (fun _ _ => some ['p']) n = some node := by
  refine ⟨by decide +kernel, ?_⟩
  have past : sampleDb ∈ (sampleRun sampleEvents).history :=
    (worldRun_sound ['i'] sampleEvents).recorded.present
  obtain ⟨n, route, sent, -⟩ := (resolveAccountEgress_sound sampleDigest_injective ['i'] sampleEvents
    (sampleRun sampleEvents) rfl past past (Read.of_complete _) (Read.of_complete _)
    (show resolveAccountEgress sampleDigest sampleToken (fun _ _ => some ['p']) sampleConfig
      "codex".toList sampleAccountID.val none sampleReplies =
        .ok ⟨.account, some (sampleRoute, 'k' :: sampleRoute), sampleRoute⟩ by decide +kernel)).2 rfl
  exact ⟨n, route, sent⟩

end Egress
