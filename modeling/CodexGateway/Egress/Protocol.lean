import CodexGateway.Library.Strings
import CodexGateway.Library.Transaction

/-! # The control protocol of account egress

What the gateway sends to the egress runtime: nodes with their credentials, routes that
point at them, and the checks that the runtime makes before it accepts a snapshot.
-/

namespace Egress

structure Node where
  id : Text
  revision : Int
  server : Text
  port : Int
  cipher : Text
  password : Text
  udp : Bool
  deriving Repr, DecidableEq

structure Route where
  id : Text
  token : Text
  nodeID : Text
  nodeRevision : Int
  deriving Repr, DecidableEq

structure Snapshot where
  version : Int
  nodes : List Node
  routes : List Route
  deriving Repr, DecidableEq

structure Status where
  instanceID : Text
  appliedVersion : Int
  ready : Bool
  errorCode : Text
  routeIDs : List Text
  nodeRevisions : List (Text × Int)
  deriving Repr, DecidableEq

def Status.zero : Status := ⟨[], 0, false, [], [], []⟩

/-! ## Credentials -/

def maxPasswordBytes : Nat := 4096

def ss2022AES128GCM : Text := "2022-blake3-aes-128-gcm".toList

def ciphers : List Text :=
  ["aes-128-gcm".toList, "aes-256-gcm".toList, "chacha20-ietf-poly1305".toList, ss2022AES128GCM]

def supportedCipher (method : Text) : Bool := ciphers.contains method

def isSS2022 (method : Text) : Bool := method = ss2022AES128GCM

def isBase64 (c : Char) : Bool :=
  c.isAlphanum || c = '+' || c = '/'

/-- How many bytes a padded Base64 text decodes to, if it decodes. -/
def decodedLength (text : Text) : Option Nat :=
  let data := text.takeWhile (· ≠ '=')
  let padding := text.length - data.length
  if text.length % 4 = 0 ∧ data.all isBase64 ∧ padding ≤ 2 ∧
      text.drop data.length = List.replicate padding '=' then
    some (text.length / 4 * 3 - padding)
  else none

def validPassword (method password : Text) : Bool :=
  if password = [] ∨ Text.byteLength password > maxPasswordBytes ∨
      password.any (fun c => c.toNat = 0 ∨ c = '\r' ∨ c = '\n') then false
  else if isSS2022 method then
    (password.splitOn ':').all fun key => decodedLength key = some 16
  else true

/-! ## Names -/

/-- `^[A-Za-z0-9_-]{1,200}$` -/
def isIdentifier (text : Text) : Bool :=
  1 ≤ text.length && text.length ≤ 200 && text.all fun c => c.isAlphanum || c = '_' || c = '-'

def nodeKey (id : Text) (revision : Int) : Text := id ++ '/' :: Text.ofInt revision

def Node.key (node : Node) : Text := nodeKey node.id node.revision

theorem nodeKey_injective {id id' : Text} {revision revision' : Int} (free : '/' ∉ id)
    (free' : '/' ∉ id') (same : nodeKey id revision = nodeKey id' revision') :
    id = id' ∧ revision = revision' := by
  obtain ⟨ids, revisions⟩ := Text.split_unique free free' same
  exact ⟨ids, Text.ofInt_injective revisions⟩

/-! ## Snapshots -/

section Validation

-- `parseAddr` is `netip.ParseAddr`: whether an address has no zone, if the text is one.
variable (parseAddr : Text → Option Bool) (routeToken : Text → Text → Text)

def validLabel (label : Text) : Bool :=
  label ≠ [] && Text.byteLength label ≤ 63 && label.head? ≠ some '-' && label.getLast? ≠ some '-' &&
    label.all fun c => ('a' ≤ c ∧ c ≤ 'z') ∨ ('0' ≤ c ∧ c ≤ '9') ∨ c = '-'

def validServer (server : Text) : Bool :=
  match parseAddr server with
  | some withoutZone => withoutZone
  | none =>
    if server = [] ∨ Text.byteLength server > 253 ∨ Text.toLower server ≠ server then false
    else
      let labels := server.splitOn '.'
      2 ≤ labels.length && labels.all validLabel

def validateNodes : List Node → List Text → Except String (List Text)
  | [], seen => .ok seen
  | node :: rest, seen =>
    if isIdentifier node.id = false ∨ node.revision < 1 ∨
        validServer parseAddr node.server = false ∨ node.port < 1 ∨ node.port > 65535 then
      .error "invalid node"
    else if supportedCipher node.cipher = false then .error "invalid cipher"
    else if validPassword node.cipher node.password = false then .error "invalid node"
    else if node.key ∈ seen then .error "duplicate node"
    else validateNodes rest (node.key :: seen)

def validateRoutes (key : Text) (nodes : List Text) : List Route → List Text → Except String Unit
  | [], _ => .ok ()
  | route :: rest, seen =>
    if isIdentifier route.id = false ∨ route.id ∈ seen ∨
        nodeKey route.nodeID route.nodeRevision ∉ nodes ∨
        route.token ≠ routeToken key route.id then
      .error "invalid route"
    else validateRoutes key nodes rest (route.id :: seen)

def validateSnapshot (snapshot : Snapshot) (key : Text) : Except String Unit := do
  if snapshot.version < 0 ∨ snapshot.nodes.length > 4096 ∨ snapshot.routes.length > 65536 then
    throw "invalid snapshot"
  let nodes ← validateNodes parseAddr snapshot.nodes []
  validateRoutes routeToken key nodes snapshot.routes []

end Validation

structure Snapshot.Valid (snapshot : Snapshot) : Prop where
  version : 0 ≤ snapshot.version
  identifiers : ∀ node ∈ snapshot.nodes, isIdentifier node.id = true
  distinct : (snapshot.nodes.map Node.key).Nodup
  unique : (snapshot.routes.map Route.id).Nodup
  pointed : ∀ route ∈ snapshot.routes,
    nodeKey route.nodeID route.nodeRevision ∈ snapshot.nodes.map Node.key

variable {nodes : List Node} {seen : List Text} {routes : List Route} {snapshot : Snapshot}

section Validation

variable {parseAddr : Text → Option Bool} {routeToken : Text → Text → Text}

theorem validateNodes_ok {keys : List Text} (ok : validateNodes parseAddr nodes seen = .ok keys) :
    keys = (nodes.map Node.key).reverse ++ seen ∧
      (∀ node ∈ nodes, isIdentifier node.id = true ∧ node.key ∉ seen) ∧
      (nodes.map Node.key).Nodup := by
  induction nodes generalizing seen with
  | nil =>
    cases ok
    simp
  | cons node rest ih =>
    unfold validateNodes at ok
    obtain ⟨fields, ok⟩ := Except.refuse_eq_ok.mp ok
    obtain ⟨-, ok⟩ := Except.refuse_eq_ok.mp ok
    obtain ⟨-, ok⟩ := Except.refuse_eq_ok.mp ok
    obtain ⟨fresh, ok⟩ := Except.refuse_eq_ok.mp ok
    obtain ⟨rfl, each, distinct⟩ := ih ok
    have identifier : isIdentifier node.id = true := by
      by_contra bad
      exact fields (.inl (by simpa using bad))
    refine ⟨by simp, ?_, ?_⟩
    · intro other member
      rcases List.mem_cons.mp member with rfl | later
      · exact ⟨identifier, fresh⟩
      · exact ⟨(each other later).1, fun seen' => (each other later).2 (List.mem_cons_of_mem _ seen')⟩
    · rw [List.map_cons, List.nodup_cons]
      refine ⟨?_, distinct⟩
      intro again
      obtain ⟨other, later, same⟩ := List.mem_map.mp again
      apply (each other later).2
      rw [same]
      exact List.mem_cons_self

theorem validateRoutes_ok {key : Text} {nodes : List Text}
    (ok : validateRoutes routeToken key nodes routes seen = .ok ()) :
    (∀ route ∈ routes, route.id ∉ seen ∧ nodeKey route.nodeID route.nodeRevision ∈ nodes ∧
      route.token = routeToken key route.id) ∧ (routes.map Route.id).Nodup := by
  induction routes generalizing seen with
  | nil => simp
  | cons route rest ih =>
    unfold validateRoutes at ok
    obtain ⟨fields, ok⟩ := Except.refuse_eq_ok.mp ok
    obtain ⟨each, distinct⟩ := ih ok
    simp only [not_or, not_not, ne_eq] at fields
    refine ⟨?_, ?_⟩
    · intro other member
      rcases List.mem_cons.mp member with rfl | later
      · exact fields.2
      · obtain ⟨fresh, rest⟩ := each other later
        exact ⟨fun seen' => fresh (List.mem_cons_of_mem _ seen'), rest⟩
    · rw [List.map_cons, List.nodup_cons]
      refine ⟨?_, distinct⟩
      intro again
      obtain ⟨other, later, same⟩ := List.mem_map.mp again
      apply (each other later).1
      rw [same]
      exact List.mem_cons_self

theorem validateSnapshot_ok {key : Text}
    (ok : validateSnapshot parseAddr routeToken snapshot key = .ok ()) :
    snapshot.Valid ∧ ∀ route ∈ snapshot.routes, route.token = routeToken key route.id := by
  obtain ⟨bounds, ok⟩ := Except.refuse_eq_ok.mp ok
  obtain ⟨nodes, accepted, ok⟩ := Except.bind_eq_ok.mp ok
  obtain ⟨rfl, each, distinct⟩ := validateNodes_ok accepted
  obtain ⟨routes, unique⟩ := validateRoutes_ok ok
  have version : ¬ snapshot.version < 0 := fun negative => bounds (.inl negative)
  refine ⟨⟨Int.not_lt.mp version, fun node member => (each node member).1, distinct, unique, ?_⟩, ?_⟩
  · intro route member
    simpa using (routes route member).2.1
  · exact fun route member => (routes route member).2.2

variable (parseAddr) in
structure Node.Accepted (node : Node) : Prop where
  identifier : isIdentifier node.id = true
  revision : 1 ≤ node.revision
  server : validServer parseAddr node.server = true
  port : 1 ≤ node.port ∧ node.port ≤ 65535
  cipher : supportedCipher node.cipher = true
  password : validPassword node.cipher node.password = true

theorem validateNodes_of_accepted (accepted : ∀ node ∈ nodes, node.Accepted parseAddr)
    (distinct : (nodes.map Node.key).Nodup) (fresh : ∀ node ∈ nodes, node.key ∉ seen) :
    validateNodes parseAddr nodes seen = .ok ((nodes.map Node.key).reverse ++ seen) := by
  induction nodes generalizing seen with
  | nil => rfl
  | cons node rest ih =>
    rw [List.map_cons, List.nodup_cons] at distinct
    have this := accepted node List.mem_cons_self
    have later : validateNodes parseAddr rest (node.key :: seen) =
        .ok ((rest.map Node.key).reverse ++ node.key :: seen) := by
      refine ih (fun other member => accepted other (List.mem_cons_of_mem _ member)) distinct.2 ?_
      intro other member again
      rcases List.mem_cons.mp again with same | old
      · exact distinct.1 (same ▸ List.mem_map_of_mem member)
      · exact fresh other (List.mem_cons_of_mem _ member) old
    have fields : ¬ (isIdentifier node.id = false ∨ node.revision < 1 ∨
        validServer parseAddr node.server = false ∨ node.port < 1 ∨ node.port > 65535) := by
      have port := this.port
      have revision := this.revision
      simp only [this.identifier, this.server, Bool.true_eq_false, false_or]
      omega
    simp [validateNodes, fields, this.cipher, this.password, fresh node List.mem_cons_self, later]

theorem validateRoutes_of_named {key : Text} {nodes : List Text}
    (named : ∀ route ∈ routes, isIdentifier route.id = true ∧
      nodeKey route.nodeID route.nodeRevision ∈ nodes ∧ route.token = routeToken key route.id)
    (unique : (routes.map Route.id).Nodup) (fresh : ∀ route ∈ routes, route.id ∉ seen) :
    validateRoutes routeToken key nodes routes seen = .ok () := by
  induction routes generalizing seen with
  | nil => rfl
  | cons route rest ih =>
    rw [List.map_cons, List.nodup_cons] at unique
    obtain ⟨identifier, node, token⟩ := named route List.mem_cons_self
    have later : validateRoutes routeToken key nodes rest (route.id :: seen) = .ok () := by
      refine ih (fun other member => named other (List.mem_cons_of_mem _ member)) unique.2 ?_
      intro other member again
      rcases List.mem_cons.mp again with same | old
      · exact unique.1 (same ▸ List.mem_map_of_mem member)
      · exact fresh other (List.mem_cons_of_mem _ member) old
    simp [validateRoutes, identifier, node, token, fresh route List.mem_cons_self, later]

theorem validateSnapshot_of_accepted {key : Text}
    (version : 0 ≤ snapshot.version) (nodes : snapshot.nodes.length ≤ 4096)
    (routes : snapshot.routes.length ≤ 65536)
    (accepted : ∀ node ∈ snapshot.nodes, node.Accepted parseAddr)
    (distinct : (snapshot.nodes.map Node.key).Nodup)
    (named : ∀ route ∈ snapshot.routes, isIdentifier route.id = true ∧
      nodeKey route.nodeID route.nodeRevision ∈ snapshot.nodes.map Node.key ∧
      route.token = routeToken key route.id)
    (unique : (snapshot.routes.map Route.id).Nodup) :
    validateSnapshot parseAddr routeToken snapshot key = .ok () := by
  have bounds : ¬ (snapshot.version < 0 ∨ snapshot.nodes.length > 4096 ∨
      snapshot.routes.length > 65536) := by
    omega
  have checked : validateNodes parseAddr snapshot.nodes [] =
      .ok ((snapshot.nodes.map Node.key).reverse ++ []) :=
    validateNodes_of_accepted accepted distinct fun _ _ impossible => by cases impossible
  have pointed : validateRoutes routeToken key ((snapshot.nodes.map Node.key).reverse ++ [])
      snapshot.routes [] = .ok () := by
    refine validateRoutes_of_named ?_ unique fun _ _ impossible => by cases impossible
    intro route member
    obtain ⟨identifier, node, token⟩ := named route member
    exact ⟨identifier, by simpa using node, token⟩
  rw [validateSnapshot, if_neg bounds, checked]
  exact pointed

end Validation

end Egress
