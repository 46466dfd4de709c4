import CodexGateway.Egress.EndToEnd
import CodexGateway.Egress.Registrations

/-! # Snapshots that the runtime accepts

The gateway builds a snapshot from the tables, and the runtime checks it again. Whatever
the tables contain, the checks pass as long as every stored node is usable and revisions
are in order: no two routes of one state are named alike.
-/

open Store (UpstreamProvider AccountID)

namespace Egress

/-- An address that `netip.ParseAddr` reads. `plain` says that it is IPv4 and written as
its own text; only IPv6 has zones. -/
structure Addr where
  plain : Bool
  zone : Text
  unzoned : plain = true → zone = []

/-- What the gateway asks of an address. -/
def parseIPv4 (netip : Text → Option Addr) (text : Text) : Option Bool := (netip text).map Addr.plain

/-- What the runtime asks of an address. -/
def parseZone (netip : Text → Option Addr) (text : Text) : Option Bool :=
  (netip text).map fun addr => addr.zone = []

variable {n : EgressServer} {r : EgressRegistration} {d : Db}

section Servers

variable {netip : Text → Option Addr} {decrypt : UUID → List UInt8 → Option Text}

theorem isIdentifier_uuid (id : UUID) : isIdentifier id.val = true := by
  have canonical := id.property
  have length : id.val.length = 36 := by
    simp only [Uuid.isCanonical, Bool.and_eq_true, decide_eq_true_eq] at canonical
    exact canonical.1
  simp only [isIdentifier, length, Bool.and_eq_true, List.all_eq_true]
  refine ⟨by decide, ?_⟩
  intro c member
  rcases Uuid.allowed_of_mem canonical member with rfl | hex
  · decide
  · simp only [Uuid.isHex, Bool.or_eq_true, Bool.and_eq_true, decide_eq_true_eq] at hex
    have letter : c.isAlphanum = true := by
      rcases hex with digit | ⟨low, high⟩
      · simp [Char.isAlphanum, digit]
      · have lower : c.isLower = true := by
          simp only [Char.isLower, Bool.and_eq_true, decide_eq_true_eq]
          exact ⟨low, le_trans high (by decide)⟩
        simp [Char.isAlphanum, Char.isAlpha, lower]
    simp [letter]

/-- What the gateway accepts as a host, the runtime accepts. -/
theorem validateEgressServer_ok (ok : validateEgressServer (parseIPv4 netip) n = .ok ()) :
    validServer (parseZone netip) n.server = true ∧ (1 ≤ n.port ∧ n.port ≤ 65535) ∧
      supportedCipher n.cipher = true := by
  unfold validateEgressServer at ok
  obtain ⟨fields, ok⟩ := Except.refuse_eq_ok.mp ok
  obtain ⟨cipher, ok⟩ := Except.refuse_eq_ok.mp ok
  obtain ⟨host, ok⟩ := Except.refuse_eq_ok.mp ok
  simp only [not_or] at fields host
  refine ⟨?_, by omega, by simpa using cipher⟩
  unfold validServer parseZone
  unfold parseIPv4 at ok
  cases parsed : netip n.server with
  | some addr =>
    simp only [parsed, Option.map_some] at ok ⊢
    have plain : addr.plain = true := by
      by_contra other
      simp [other] at ok
    simp [addr.unzoned plain]
  | none =>
    simp only [parsed, Option.map_none] at ok ⊢
    obtain ⟨labels, -⟩ := Except.refuse_eq_ok.mp ok
    simp only [not_or, not_not, not_lt] at labels
    rw [if_neg (by simp only [not_or, not_not]; exact ⟨host.1, host.2.1, labels.1⟩)]
    simpa using labels.2

variable (netip decrypt) in
/-- A stored node: valid, and with a password for its cipher. -/
structure EgressServer.Usable (n : EgressServer) : Prop where
  valid : validateEgressServer (parseIPv4 netip) n = .ok ()
  revision : 1 ≤ n.revision
  password : ∃ password, decrypt n.id n.passwordCiphertext = some password ∧
    validPassword n.cipher password = true

theorem EgressServer.Usable.accepted (usable : n.Usable netip decrypt) :
    ∃ node, runtimeNode decrypt n = some node ∧ node.Accepted (parseZone netip) ∧
      node.key = nodeKey n.id.val n.revision := by
  obtain ⟨password, opened, valid⟩ := usable.password
  obtain ⟨server, port, cipher⟩ := validateEgressServer_ok usable.valid
  refine ⟨⟨n.id.val, n.revision, n.server, n.port, n.cipher, password, n.udp⟩, ?_, ?_, rfl⟩
  · simp [runtimeNode, opened]
  · exact ⟨isIdentifier_uuid n.id, usable.revision, server, port, cipher, valid⟩

end Servers

/-! ## Routes -/

structure RouteSpec where
  kind : Text
  id : Text
  revision : Int
  nodeID : Option UUID

/-- The part that tells the routes of one state apart. -/
def RouteSpec.name (spec : RouteSpec) : Text × Text × Int := (spec.kind, spec.id, spec.revision)

def EgressBinding.spec (b : EgressBinding) : RouteSpec :=
  ⟨providerName b.provider, b.accountID.val, b.revision, b.nodeID⟩

def EgressRegistration.specs (r : EgressRegistration) : List RouteSpec :=
  if r.state = .committed then []
  else
    ⟨"registration".toList, r.id.val, r.revision, r.nodeID⟩ ::
    match r.accountID with
    | some account =>
      if r.state = .prepared ∧ r.preserve = false then
        [⟨providerName r.provider, account.val, r.revision, r.nodeID⟩]
      else []
    | none => []

def EgressState.specs (state : EgressState) : List RouteSpec :=
  state.bindings.map EgressBinding.spec ++ state.registrations.flatMap EgressRegistration.specs

/-- The texts whose digests name the routes of a state. -/
def Db.RouteText (d : Db) (text : Text) : Prop :=
  ∃ spec ∈ (egressSnapshot d).specs, ∃ n ∈ d.servers.rows,
    text = routeText spec.kind spec.id spec.revision n

theorem providerName_ne_registration (provider : UpstreamProvider) :
    providerName provider ≠ "registration".toList := by
  cases provider <;> decide

theorem EgressRegistration.mem_specs {spec : RouteSpec} (member : spec ∈ r.specs) :
    r.state ≠ .committed ∧ spec.revision = r.revision ∧ '/' ∉ spec.kind ∧ '/' ∉ spec.id ∧
      (spec.kind = "registration".toList ∧ spec.id = r.id.val ∨
        ∃ account, r.accountID = some account ∧ spec.kind = providerName r.provider ∧
          spec.id = account.val) := by
  unfold EgressRegistration.specs at member
  split at member
  · cases member
  · rename_i uncommitted
    rcases List.mem_cons.mp member with rfl | ahead
    · exact ⟨uncommitted, rfl, (by decide : '/' ∉ "registration".toList), slash_not_mem_uuid r.id,
        .inl ⟨rfl, rfl⟩⟩
    · split at ahead
      · rename_i account given
        split at ahead
        · rw [List.mem_singleton.mp ahead]
          exact ⟨uncommitted, rfl, slash_not_mem_providerName _, slash_not_mem_accountID _,
            .inr ⟨account, given, rfl, rfl⟩⟩
        · cases ahead
      · cases ahead

theorem EgressRegistration.specs_distinct (r : EgressRegistration) :
    r.specs.Pairwise fun spec other => spec.name ≠ other.name := by
  unfold EgressRegistration.specs
  split
  · exact .nil
  · split
    · split
      · refine List.pairwise_pair.mpr ?_
        intro same
        simp only [RouteSpec.name, Prod.mk.injEq] at same
        exact providerName_ne_registration r.provider same.1.symm
      · exact List.pairwise_singleton _ _
    · exact List.pairwise_singleton _ _

theorem registration_of_mem_snapshot
    (member : r ∈ (egressSnapshot d).registrations) : d.registrations.find? r.id = some r := by
  apply Table.find?_of_mem
  simpa [egressSnapshot, List.mem_mergeSort] using member

theorem binding_of_mem_snapshot {b : EgressBinding} (member : b ∈ (egressSnapshot d).bindings) :
    d.bindings.find? b.accountID = some ⟨b.accountID, b.nodeID, b.revision⟩ := by
  simp only [egressSnapshot, List.mem_filterMap, List.mem_mergeSort] at member
  obtain ⟨row, stored, made⟩ := member
  obtain ⟨account, -, rfl⟩ := Option.map_eq_some_iff.mp made
  exact Table.find?_of_mem stored

theorem bindings_distinct (d : Db) :
    (egressSnapshot d).bindings.Pairwise fun b other => b.accountID ≠ other.accountID := by
  have sorted : (d.bindings.rows.mergeSort fun a b =>
      decide (a.accountID.val ≤ b.accountID.val)).Pairwise
        fun a b => a.accountID ≠ b.accountID := by
    have unique := List.pairwise_map.mp d.bindings.unique
    exact ((List.mergeSort_perm _ _).pairwise_iff fun different => different.symm).mpr unique
  simp only [egressSnapshot, List.pairwise_filterMap]
  refine sorted.imp ?_
  intro a b different made first made' second
  obtain ⟨-, -, rfl⟩ := Option.map_eq_some_iff.mp first
  obtain ⟨-, -, rfl⟩ := Option.map_eq_some_iff.mp second
  exact different

theorem registrations_distinct (d : Db) :
    (egressSnapshot d).registrations.Pairwise fun r other => r.id ≠ other.id := by
  have unique := List.pairwise_map.mp d.registrations.unique
  exact ((List.mergeSort_perm _ _).pairwise_iff fun different => different.symm).mpr unique

/-- No two routes of one state are made for the same thing. -/
theorem Ordered.specs_distinct (ordered : Ordered d) :
    (egressSnapshot d).specs.Pairwise fun spec other => spec.name ≠ other.name := by
  unfold EgressState.specs
  refine List.pairwise_append.mpr ⟨?_, ?_, ?_⟩
  · refine List.pairwise_map.mpr ((bindings_distinct d).imp ?_)
    intro b other different same
    simp only [RouteSpec.name, EgressBinding.spec, Prod.mk.injEq] at same
    exact different (Subtype.ext same.2.1)
  · refine List.pairwise_flatMap.mpr ⟨fun r _ => r.specs_distinct, ?_⟩
    refine (registrations_distinct d).imp_of_mem ?_
    intro r other member member' different spec listed spec' listed' same
    -- Revisions tell registrations apart.
    obtain ⟨-, revision, -⟩ := EgressRegistration.mem_specs listed
    obtain ⟨-, revision', -⟩ := EgressRegistration.mem_specs listed'
    simp only [RouteSpec.name, Prod.mk.injEq] at same
    refine different (ordered.distinct r.id other.id r other
      (registration_of_mem_snapshot member) (registration_of_mem_snapshot member') ?_)
    rw [← revision, ← revision', same.2.2]
  · intro spec listed spec' listed' same
    obtain ⟨b, member, rfl⟩ := List.mem_map.mp listed
    obtain ⟨r, member', listed'⟩ := List.mem_flatMap.mp listed'
    obtain ⟨uncommitted, revision, -, -, -⟩ := EgressRegistration.mem_specs listed'
    simp only [RouteSpec.name, EgressBinding.spec, Prod.mk.injEq] at same
    -- No binding has the revision of a registration that is not committed.
    refine ordered.apart b.accountID r.id _ r (binding_of_mem_snapshot member)
      (registration_of_mem_snapshot member') uncommitted ?_
    rw [← revision, ← same.2.2]

theorem mem_specs_free {spec : RouteSpec} (member : spec ∈ (egressSnapshot d).specs) :
    '/' ∉ spec.kind ∧ '/' ∉ spec.id := by
  rcases List.mem_append.mp member with bound | registered
  · obtain ⟨b, -, rfl⟩ := List.mem_map.mp bound
    exact ⟨slash_not_mem_providerName _, slash_not_mem_accountID _⟩
  · obtain ⟨r, -, listed⟩ := List.mem_flatMap.mp registered
    obtain ⟨-, -, kind, id, -⟩ := EgressRegistration.mem_specs listed
    exact ⟨kind, id⟩

section Snapshots

variable {sha256 : Text → Text} {routeToken : Text → Text → Text} {config : GatewayConfig}
  {netip : Text → Option Addr} {decrypt : UUID → List UInt8 → Option Text}

variable (sha256 routeToken config) in
def RouteSpec.route (state : EgressState) (spec : RouteSpec) : Option Route :=
  runtimeRoute sha256 routeToken config state spec.kind spec.id spec.revision spec.nodeID

theorem registrationRoutes_eq (state : EgressState) (r : EgressRegistration) :
    registrationRoutes sha256 routeToken config state r =
      r.specs.filterMap (RouteSpec.route sha256 routeToken config state) := by
  unfold registrationRoutes EgressRegistration.specs
  split
  · rfl
  · have one : ∀ (spec : RouteSpec) (rest : List RouteSpec),
        (spec :: rest).filterMap (RouteSpec.route sha256 routeToken config state) =
          (spec.route sha256 routeToken config state).toList ++
            rest.filterMap (RouteSpec.route sha256 routeToken config state) := by
      intro spec rest
      rw [List.filterMap_cons]
      cases spec.route sha256 routeToken config state <;> rfl
    rw [one]
    congr 1
    cases r.accountID with
    | none => rfl
    | some account =>
      dsimp only
      split
      · rw [one, List.filterMap_nil, List.append_nil]
        rfl
      · rfl

theorem routes_eq_specs (state : EgressState) :
    (state.bindings.filterMap fun b => runtimeRoute sha256 routeToken config state
        (providerName b.provider) b.accountID.val b.revision b.nodeID) ++
      state.registrations.flatMap (registrationRoutes sha256 routeToken config state) =
    state.specs.filterMap (RouteSpec.route sha256 routeToken config state) := by
  unfold EgressState.specs
  rw [List.filterMap_append, List.filterMap_map, List.filterMap_flatMap]
  congr 1
  exact List.flatMap_congr fun r _ => registrationRoutes_eq state r

theorem RouteSpec.route_some {spec : RouteSpec} {route : Route}
    (made : spec.route sha256 routeToken config (egressSnapshot d) = some route) :
    ∃ n ∈ d.servers.rows, route.id = sha256 (routeText spec.kind spec.id spec.revision n) ∧
      route.nodeID = n.id.val ∧ route.nodeRevision = n.revision ∧
      route.token = routeToken config.egressControlKey route.id := by
  unfold RouteSpec.route runtimeRoute at made
  obtain ⟨id, -, made⟩ := Option.bind_eq_some_iff.mp made
  obtain ⟨n, found, made⟩ := Option.bind_eq_some_iff.mp made
  cases made
  exact ⟨n, mem_nodes_egressSnapshot.mp (List.mem_of_find?_eq_some found), rfl, rfl, rfl, rfl⟩

/-- Routes of one state are named alike only if their digests collide. -/
theorem Ordered.routes_unique (ordered : Ordered d)
    (collisionFree : ∀ text text', d.RouteText text → d.RouteText text' →
      sha256 text = sha256 text' → text = text') :
    (((egressSnapshot d).specs.filterMap
      (RouteSpec.route sha256 routeToken config (egressSnapshot d))).map Route.id).Nodup := by
  refine List.pairwise_map.mpr (List.pairwise_filterMap.mpr (ordered.specs_distinct.imp_of_mem ?_))
  intro spec other member member' different route made route' made' same
  obtain ⟨n, row, named, -⟩ := RouteSpec.route_some made
  obtain ⟨n', row', named', -⟩ := RouteSpec.route_some made'
  rw [named, named'] at same
  have texts := collisionFree _ _ ⟨spec, member, n, row, rfl⟩ ⟨other, member', n', row', rfl⟩ same
  obtain ⟨kindFree, idFree⟩ := mem_specs_free member
  obtain ⟨kindFree', idFree'⟩ := mem_specs_free member'
  obtain ⟨kinds, ids, revisions, -⟩ :=
    routeText_injective kindFree kindFree' idFree idFree' texts
  exact different (by simp only [RouteSpec.name, kinds, ids, revisions])

theorem nodeKeys_nodup (d : Db) :
    ((egressSnapshot d).nodes.map fun n => nodeKey n.id.val n.revision).Nodup := by
  have sorted : (egressSnapshot d).nodes.Pairwise fun n other => n.id ≠ other.id := by
    have unique := List.pairwise_map.mp d.servers.unique
    exact ((List.mergeSort_perm _ _).pairwise_iff fun different => different.symm).mpr unique
  refine List.pairwise_map.mpr (sorted.imp ?_)
  intro n other different same
  exact different (Subtype.ext
    (nodeKey_injective (slash_not_mem_uuid n.id) (slash_not_mem_uuid other.id) same).1)

variable (routeToken config) in
/-- The runtime accepts the snapshot of every state with usable nodes. -/
theorem Ordered.snapshot_accepted (ordered : Ordered d)
    (usable : ∀ n ∈ d.servers.rows, n.Usable netip decrypt)
    (identifiers : ∀ text, isIdentifier (sha256 text) = true)
    (collisionFree : ∀ text text', d.RouteText text → d.RouteText text' →
      sha256 text = sha256 text' → text = text') :
    ∃ snapshot,
      runtimeSnapshot sha256 routeToken decrypt config (egressSnapshot d) = some snapshot ∧
      (snapshot.nodes.length ≤ 4096 → snapshot.routes.length ≤ 65536 →
        validateSnapshot (parseZone netip) routeToken snapshot config.egressControlKey = .ok ()) := by
  have stored : ∀ n ∈ (egressSnapshot d).nodes, n.Usable netip decrypt :=
    fun n member => usable n (mem_nodes_egressSnapshot.mp member)
  have each : ∀ n ∈ (egressSnapshot d).nodes, ∃ node, runtimeNode decrypt n = some node := by
    intro n member
    obtain ⟨node, made, -⟩ := (stored n member).accepted
    exact ⟨node, made⟩
  obtain ⟨nodes, opened⟩ := Option.exists_mapM each
  have keys : nodes.map Node.key =
      (egressSnapshot d).nodes.map fun n => nodeKey n.id.val n.revision := by
    refine Option.map_of_mapM opened fun n member node made => ?_
    obtain ⟨node', made', -, keyed⟩ := (stored n member).accepted
    cases made'.symm.trans made
    exact keyed
  refine ⟨⟨d.version, nodes, (egressSnapshot d).specs.filterMap
    (RouteSpec.route sha256 routeToken config (egressSnapshot d))⟩, ?_, ?_⟩
  · rw [runtimeSnapshot, opened, ← routes_eq_specs]
    rfl
  · intro few fewRoutes
    have version := ordered.version
    refine validateSnapshot_of_accepted (by dsimp only; omega) few fewRoutes ?_ ?_ ?_
      (ordered.routes_unique collisionFree)
    · intro node member
      obtain ⟨n, row, made⟩ := Option.exists_of_mem_mapM opened member
      obtain ⟨node', made', accepted, -⟩ := (stored n row).accepted
      cases made'.symm.trans made
      exact accepted
    · dsimp only
      rw [keys]
      exact nodeKeys_nodup d
    · intro route member
      obtain ⟨spec, -, made⟩ := List.mem_filterMap.mp member
      obtain ⟨n, row, named, nodeID, nodeRevision, token⟩ := RouteSpec.route_some made
      refine ⟨named ▸ identifiers _, ?_, token⟩
      dsimp only
      rw [keys, nodeID, nodeRevision]
      exact List.mem_map_of_mem (mem_nodes_egressSnapshot.mpr row)

end Snapshots

end Egress
