import CodexGateway.Egress.Snapshots

/-! # Saving nodes while others do

The handler of a saved node reads, validates and writes in separate steps, so the row may
change in between. A new password comes with its cipher. A retained one is checked only
for the cipher with keys, and then the write is guarded by the revision that was read.
-/

open Store (StoreError UpstreamProvider AccountID)

namespace Egress

open Except (bind_eq_ok check_bind_eq_ok refuse_eq_ok mapError_eq_ok)

variable {id : UUID} {db db' : Db} {n : EgressServer} {parseAddr : Text → Option Bool}

/-! ## Credentials of nodes -/

abbrev Nonce := { bytes : List UInt8 // bytes.length = 12 }

/-- The authenticated cipher of the gateway's key. What it seals for a node, it opens for
that node. -/
structure Aead where
  sealText : Nonce → Text → UUID → List UInt8
  openText : Nonce → List UInt8 → UUID → Option Text
  opens : ∀ nonce password id, openText nonce (sealText nonce password id) id = some password
  overhead : ∀ nonce password id, 16 ≤ (sealText nonce password id).length

/-- The version of the envelope, the nonce and the sealed password. -/
def encryptEgressPassword (aead : Aead) (nonce : Nonce) (id : UUID) (password : Text) :
    Option (List UInt8) :=
  if password = [] then none else some (1 :: (nonce.val ++ aead.sealText nonce password id))

def decryptEgressPassword (aead : Aead) (id : UUID) (envelope : List UInt8) : Option Text :=
  if short : envelope.length < 29 ∨ envelope.head? ≠ some 1 then none
  else aead.openText ⟨(envelope.drop 1).take 12, by
    rw [not_or, not_lt] at short
    rw [List.length_take, List.length_drop]
    omega⟩ (envelope.drop 13) id

theorem decrypt_of_encrypt {aead : Aead} {nonce : Nonce} {password : Text} {envelope : List UInt8}
    (sealed : encryptEgressPassword aead nonce id password = some envelope) :
    envelope ≠ [] ∧ decryptEgressPassword aead id envelope = some password := by
  unfold encryptEgressPassword at sealed
  split at sealed
  · cases sealed
  · cases sealed
    have long : ¬ ((1 :: (nonce.val ++ aead.sealText nonce password id)).length < 29 ∨
        (1 :: (nonce.val ++ aead.sealText nonce password id)).head? ≠ some 1) := by
      have overhead := aead.overhead nonce password id
      have length := nonce.property
      simp only [List.length_cons, List.length_append, List.head?_cons, ne_eq, not_true, or_false]
      omega
    have parts : (nonce.val ++ aead.sealText nonce password id).take 12 = nonce.val ∧
        (nonce.val ++ aead.sealText nonce password id).drop 12 = aead.sealText nonce password id :=
      ⟨List.take_left' nonce.property, List.drop_left' nonce.property⟩
    refine ⟨List.cons_ne_nil _ _, ?_⟩
    rw [decryptEgressPassword, dif_neg long]
    simp only [List.drop_succ_cons, List.drop_zero, parts.1, parts.2]
    exact aead.opens nonce password id

/-! ## Answers -/

structure HttpError where
  status : Nat
  type : String
  code : String
  message : Text
  deriving DecidableEq

/-- What a handler fails with: an error of the store, or any other. -/
inductive Failure where
  | store (err : StoreError)
  | unavailable

def egressError : Failure → HttpError
  | .store (.invalid _) =>
    ⟨400, "upstream_error", "invalid_egress_request", "SS 节点或出口绑定参数无效".toList⟩
  | .store (.notFound _) =>
    ⟨404, "upstream_error", "egress_not_found", "出口节点、账号或注册流程不存在".toList⟩
  | .store (.conflict _) =>
    ⟨409, "upstream_error", "egress_conflict", "出口仍被引用，或账号与注册流程不匹配".toList⟩
  | _ =>
    ⟨503, "upstream_error", "egress_unavailable",
      "出口配置已保存但暂未应用，请稍后刷新；绑定账号不会回退全局出口".toList⟩

def egressPasswordError (cipher : Text) (retained : Bool) : HttpError :=
  if retained then
    ⟨400, "invalid_request_error", "egress_password_required",
      "现有密码不是有效的 ".toList ++ cipher ++ " 密钥，请重新填写 Base64 密钥".toList⟩
  else if isSS2022 cipher then
    ⟨400, "invalid_request_error", "invalid_egress_password",
      cipher ++ " 的密码须为 Base64 编码的 16 字节密钥，多个密钥用英文冒号分隔".toList⟩
  else
    ⟨400, "invalid_request_error", "invalid_egress_password",
      "SS 密码须为非空单行文本，最多 4096 字节".toList⟩

/-! ## The handler -/

structure SaveInput where
  name : Text
  protocol : Text
  server : Text
  port : Int
  cipher : Text
  password : Text
  udp : Bool
  deriving DecidableEq

/-- The node as the request names it, before its credential. -/
def SaveInput.node (input : SaveInput) (id : UUID) : EgressServer where
  id
  name := Text.trimSpace input.name
  server := Text.toLower (Text.trimSpace input.server)
  port := input.port
  cipher := input.cipher
  passwordCiphertext := []
  udp := input.udp
  revision := 0

section Handler

variable (netip : Text → Option Addr) (aead : Aead)

/-- The revision whose password was checked; zero if none was. -/
def retainedRevision (db : Db) (create : Bool) (id : UUID) (input : SaveInput) :
    Except HttpError Int :=
  if create = false ∧ input.password = [] ∧ isSS2022 input.cipher = true then
    match db.servers.find? id with
    | none => .error (egressError (.store (.notFound "find egress node")))
    | some current =>
      match decryptEgressPassword aead id current.passwordCiphertext with
      | none => .error (egressError .unavailable)
      | some retained =>
        if validPassword input.cipher retained = false then
          .error (egressPasswordError input.cipher true)
        else .ok current.revision
  else .ok 0

/-- The credential of the request; none keeps the one there is. -/
def newCredential (nonce : Nonce) (id : UUID) (input : SaveInput) : Except HttpError (List UInt8) :=
  if input.password = [] then .ok []
  else
    match encryptEgressPassword aead nonce id input.password with
    | none => .error (egressError .unavailable)
    | some envelope => .ok envelope

/-- The handler up to its write: what it would save, from the tables it reads. -/
def prepareSave (db : Db) (create : Bool) (id : UUID) (nonce : Nonce) (input : SaveInput) :
    Except HttpError EgressServer := do
  if (input.protocol ≠ [] ∧ input.protocol ≠ "ss".toList) ∨
      (create = true ∧ input.password = []) then
    throw (egressError (.store (.invalid "")))
  (validateEgressServer (parseIPv4 netip) (input.node id)).mapError (egressError ∘ .store)
  if input.password ≠ [] ∧ validPassword input.cipher input.password = false then
    throw (egressPasswordError input.cipher false)
  let revision ← retainedRevision aead db create id input
  let passwordCiphertext ← newCredential aead nonce id input
  pure { input.node id with revision, passwordCiphertext }

/-- What is known of a node that is about to be saved. -/
structure Prepared (db : Db) (create : Bool) (n : EgressServer) : Prop where
  valid : validateEgressServer (parseIPv4 netip) n = .ok ()
  created : create = true → n.passwordCiphertext ≠ []
  password : n.passwordCiphertext ≠ [] → ∃ password,
    decryptEgressPassword aead n.id n.passwordCiphertext = some password ∧
      validPassword n.cipher password = true
  retained : n.passwordCiphertext = [] → isSS2022 n.cipher = true →
    ∃ row ∈ db.servers.rows, row.id = n.id ∧ row.revision = n.revision ∧ ∃ password,
      decryptEgressPassword aead row.id row.passwordCiphertext = some password ∧
        validPassword n.cipher password = true

variable {netip aead}

theorem prepareSave_ok {create : Bool} {nonce : Nonce} {input : SaveInput}
    (ok : prepareSave netip aead db create id nonce input = .ok n) :
    Prepared netip aead db create n := by
  unfold prepareSave at ok
  obtain ⟨fields, ok⟩ := refuse_eq_ok.mp ok
  obtain ⟨valid, ok⟩ := check_bind_eq_ok.mp ok
  obtain ⟨accepted, ok⟩ := refuse_eq_ok.mp ok
  obtain ⟨revision, checked, ok⟩ := bind_eq_ok.mp ok
  obtain ⟨credential, sealed, ok⟩ := bind_eq_ok.mp ok
  cases ok
  have opened : input.password ≠ [] → credential ≠ [] ∧
      decryptEgressPassword aead id credential = some input.password := by
    intro given
    unfold newCredential at sealed
    rw [if_neg given] at sealed
    split at sealed
    · cases sealed
    · rename_i envelope encrypted
      cases sealed
      exact decrypt_of_encrypt encrypted
  have kept : credential = [] → input.password = [] := by
    intro none
    by_contra given
    exact (opened given).1 none
  refine ⟨mapError_eq_ok.mp valid, ?_, ?_, ?_⟩
  · intro creates none
    exact fields (.inr ⟨creates, kept none⟩)
  · intro some
    have given : input.password ≠ [] := by
      intro none
      unfold newCredential at sealed
      rw [if_pos none] at sealed
      cases sealed
      exact some rfl
    refine ⟨input.password, (opened given).2, ?_⟩
    by_contra invalid
    exact accepted ⟨given, eq_false_of_ne_true invalid⟩
  · intro none keyed
    have updates : create = false := by
      by_contra creates
      exact fields (.inr ⟨by simpa using creates, kept none⟩)
    unfold retainedRevision at checked
    rw [if_pos ⟨updates, kept none, keyed⟩] at checked
    split at checked
    · cases checked
    · rename_i row found
      split at checked
      · cases checked
      · rename_i retained decrypted
        obtain ⟨usable, checked⟩ := refuse_eq_ok.mp checked
        cases checked
        have key : row.id = id := Table.key_of_find? found
        refine ⟨row, Table.mem_of_find? found, key, rfl, retained, ?_, eq_true_of_ne_false usable⟩
        rw [key]
        exact decrypted

end Handler

/-! ## What a save writes -/

def Write.isSave : Write → Bool
  | .save _ _ _ => true
  | _ => false

theorem transitionEgressRegistration_servers {provider : UpstreamProvider} {accountID : AccountID}
    {commit : Bool} {expected : Int}
    (ok : transitionEgressRegistration db id provider accountID commit expected = .ok db') :
    db'.servers = db.servers := by
  unfold transitionEgressRegistration at ok
  cases found : db.registrations.find? id with
  | none =>
    rw [found] at ok
    cases ok
  | some r =>
    rw [found] at ok
    obtain ⟨-, ok⟩ := refuse_eq_ok.mp ok
    split at ok
    · cases ok
      rfl
    · obtain ⟨-, ok⟩ := refuse_eq_ok.mp ok
      obtain ⟨ensured, ensure, ok⟩ := bind_eq_ok.mp ok
      have frame : ensured.servers = db.servers := by rw [ensureAccount_ok ensure]
      split at ok
      · obtain ⟨bound, binds, ok⟩ := bind_eq_ok.mp ok
        have kept : bound.servers = db.servers := by rw [(commitBinding_ok binds).1, frame]
        cases ok
        exact kept
      · obtain ⟨-, ok⟩ := refuse_eq_ok.mp ok
        cases ok
        exact frame

theorem Write.servers_of_not_save {write : Write} (ok : write.apply parseAddr db = .ok db')
    (other : write.isSave = false) (member : n ∈ db'.servers.rows) : n ∈ db.servers.rows := by
  cases write with
  | save n create actor => cases other
  | delete id actor now =>
    obtain ⟨-, ok⟩ := refuse_eq_ok.mp ok
    obtain ⟨-, ok⟩ := refuse_eq_ok.mp ok
    obtain ⟨-, ok⟩ := refuse_eq_ok.mp ok
    cases ok
    exact List.mem_of_mem_filter member
  | bind provider accountID nodeID actor =>
    obtain ⟨-, ok⟩ := refuse_eq_ok.mp ok
    rw [(setEgressBinding_ok ok).1] at member
    exact member
  | register id provider nodeID actor now =>
    obtain ⟨-, ok⟩ := refuse_eq_ok.mp ok
    obtain ⟨-, ok⟩ := refuse_eq_ok.mp ok
    dsimp only at ok
    split at ok
    · cases ok
    · cases ok
      exact member
  | prepare id provider accountID =>
    rw [transitionEgressRegistration_servers ok] at member
    exact member
  | commit id provider accountID expected =>
    rw [transitionEgressRegistration_servers ok] at member
    exact member
  | ensure accountID provider =>
    rw [ensureAccount_ok ok] at member
    exact member

theorem validPassword_weaker {cipher other password : Text}
    (valid : validPassword cipher password = true) (free : isSS2022 other = false) :
    validPassword other password = true := by
  unfold validPassword at valid ⊢
  split at valid
  · cases valid
  · rename_i bounds
    have unkeyed : ¬ isSS2022 other = true := by simp [free]
    rw [if_neg bounds, if_neg unkeyed]

section Saves

variable {netip : Text → Option Addr} {aead : Aead}

theorem validateEgressServer_congr {n' : EgressServer} (name : n'.name = n.name)
    (server : n'.server = n.server) (port : n'.port = n.port) (cipher : n'.cipher = n.cipher) :
    validateEgressServer parseAddr n' = validateEgressServer parseAddr n := by
  unfold validateEgressServer
  rw [name, server, port, cipher]

/-- A prepared save leaves a usable node, even if the row changed since it was read. The
history tells that a row with the revision that was read is the row that was read. -/
theorem Prepared.save {history : List Db} {past : Db} (recorded : Recorded history db)
    (usable : ∀ n ∈ db.servers.rows, n.Usable netip (decryptEgressPassword aead))
    (positive : ∀ d ∈ history, ∀ n ∈ d.servers.rows, 1 ≤ n.revision) (version : 1 ≤ db.version)
    (wasRead : past ∈ history) {create : Bool} (prepared : Prepared netip aead past create n)
    {actor : Text} (ok : saveEgressServer (parseIPv4 netip) db n create actor = .ok db') :
    ∀ n' ∈ db'.servers.rows, n'.Usable netip (decryptEgressPassword aead) := by
  intro n' member
  rcases saveEgressServer_rows ok member with old | ⟨creates, rfl⟩ | ⟨row, stored, same, rfl, guarded⟩
  · exact usable n' old
  · refine ⟨?_, by dsimp only; omega, prepared.password (prepared.created creates)⟩
    rw [← prepared.valid]
    exact validateEgressServer_congr rfl rfl rfl rfl
  · refine ⟨?_, by dsimp only [EgressServer.assign]; omega, ?_⟩
    · rw [← prepared.valid]
      exact validateEgressServer_congr rfl rfl rfl rfl
    · dsimp only [EgressServer.assign]
      by_cases none : n.passwordCiphertext = []
      · rw [if_pos none]
        by_cases keyed : isSS2022 n.cipher = true
        · obtain ⟨read, readRow, readID, readRevision, password, opened, valid⟩ :=
            prepared.retained none keyed
          have above := positive past wasRead read readRow
          have unchanged : row.revision = n.revision := by
            rcases guarded none with zero | matching
            · omega
            · exact matching
          have identical : row = read := recorded.unique db recorded.present past wasRead row stored
            read readRow (same.trans readID.symm) (unchanged.trans readRevision.symm)
          rw [identical]
          exact ⟨password, opened, valid⟩
        · obtain ⟨password, opened, valid⟩ := (usable row stored).password
          exact ⟨password, opened, validPassword_weaker valid (eq_false_of_ne_true keyed)⟩
      · rw [if_neg none, same]
        exact prepared.password none

end Saves

/-! ## The system -/

/-- A handler between its read and its write. -/
structure PendingSave where
  server : EgressServer
  create : Bool
  actor : Text

structure Deployment where
  world : World
  pending : List PendingSave

inductive DeploymentEvent where
  /-- A handler reads the tables and validates its request. -/
  | request (create : Bool) (id : UUID) (nonce : Nonce) (input : SaveInput) (actor : Text)
  /-- The write of one of the handlers. -/
  | save (index : Nat)
  /-- Anything else; nodes are saved by handlers only. -/
  | other (event : WorldEvent)

def WorldEvent.isSave : WorldEvent → Bool
  | .write w => w.isSave
  | _ => false

section Deployment

variable (sha256 : Text → Text) (routeToken : Text → Text → Text) (config : GatewayConfig)
  (netip : Text → Option Addr) (aead : Aead) (digest : Snapshot → Text)

def Deployment.worldStep (w : World) (event : WorldEvent) : World :=
  w.step sha256 routeToken (decryptEgressPassword aead) config (parseZone netip) (parseIPv4 netip)
    digest event

def Deployment.step (s : Deployment) : DeploymentEvent → Deployment
  | .request create id nonce input actor =>
    match prepareSave netip aead s.world.db create id nonce input with
    | .error _ => s
    | .ok server => { s with pending := ⟨server, create, actor⟩ :: s.pending }
  | .save index =>
    match s.pending[index]? with
    | none => s
    | some p =>
      { world := Deployment.worldStep sha256 routeToken config netip aead digest s.world
          (.write (.save p.server p.create p.actor))
        pending := s.pending.eraseIdx index }
  | .other event =>
    if event.isSave then s
    else { s with world := Deployment.worldStep sha256 routeToken config netip aead digest s.world event }

def deploymentRun (instanceID : Text) (events : List DeploymentEvent) : Deployment :=
  Transaction.run (Deployment.step sha256 routeToken config netip aead digest)
    ⟨.start instanceID, []⟩ events

structure Deployment.Sound (s : Deployment) : Prop where
  world : s.world.Sound sha256 (decryptEgressPassword aead)
  ordered : ∀ d ∈ s.world.history, Ordered d
  usable : ∀ d ∈ s.world.history, ∀ n ∈ d.servers.rows,
    n.Usable netip (decryptEgressPassword aead)
  pending : ∀ p ∈ s.pending, ∃ d ∈ s.world.history, Prepared netip aead d p.create p.server

variable {sha256 routeToken config netip aead digest}

theorem Deployment.sound_start (instanceID : Text) :
    Deployment.Sound sha256 netip aead ⟨.start instanceID, []⟩ := by
  refine ⟨World.sound_start instanceID, ?_, ?_, ?_⟩
  · intro d member
    rw [List.mem_singleton.mp member]
    exact ordered_empty
  · intro d member n row
    rw [List.mem_singleton.mp member] at row
    cases row
  · intro p impossible
    cases impossible

theorem World.history_step {decrypt : UUID → List UInt8 → Option Text}
    {parseIPv4 : Text → Option Bool} (w : World) (event : WorldEvent) :
    (w.step sha256 routeToken decrypt config parseAddr parseIPv4 digest event).history = w.history ∨
      ∃ write db, event = .write write ∧ write.apply parseIPv4 w.db = .ok db ∧
        (w.step sha256 routeToken decrypt config parseAddr parseIPv4 digest event).history =
          db :: w.history := by
  cases event with
  | write write =>
    rw [World.step]
    cases applied : write.apply parseIPv4 w.db with
    | error err => exact .inl rfl
    | ok db => exact .inr ⟨write, db, rfl, applied, rfl⟩
  | install state answers late =>
    rw [World.step]
    split <;> exact .inl rfl
  | prune apply late => exact .inl rfl
  | connect request =>
    rw [World.step]
    split <;> exact .inl rfl
  | disconnect tunnel =>
    rw [World.step]
    split <;> exact .inl rfl
  | beginProbe nodeID revision =>
    rw [World.step]
    split <;> exact .inl rfl
  | endProbe pointer =>
    rw [World.step]
    split <;> exact .inl rfl
  | restart instanceID => exact .inl rfl

theorem Deployment.Sound.worldStep {s : Deployment} (sound : s.Sound sha256 netip aead)
    (event : WorldEvent) {pending : List PendingSave} (fewer : ∀ p ∈ pending, p ∈ s.pending)
    (leaves : ∀ write db, event = .write write → write.apply (parseIPv4 netip) s.world.db = .ok db →
      ∀ n ∈ db.servers.rows, n.Usable netip (decryptEgressPassword aead)) :
    Deployment.Sound sha256 netip aead
      ⟨Deployment.worldStep sha256 routeToken config netip aead digest s.world event, pending⟩ := by
  have world : (Deployment.worldStep sha256 routeToken config netip aead digest s.world event).Sound
      sha256 (decryptEgressPassword aead) := sound.world.step event
  have recorded : ∀ p ∈ pending, ∃ d ∈ s.world.history, Prepared netip aead d p.create p.server :=
    fun p member => sound.pending p (fewer p member)
  rcases World.history_step s.world event with same | ⟨write, db, isWrite, applied, extended⟩
  · refine ⟨world, ?_, ?_, ?_⟩ <;> dsimp only [Deployment.worldStep] <;> rw [same]
    · exact sound.ordered
    · exact sound.usable
    · exact recorded
  · refine ⟨world, ?_, ?_, ?_⟩ <;> dsimp only [Deployment.worldStep] <;> rw [extended]
    · intro d member
      rcases List.mem_cons.mp member with rfl | old
      · exact (sound.ordered _ sound.world.recorded.present).change (Write.change applied)
      · exact sound.ordered d old
    · intro d member
      rcases List.mem_cons.mp member with rfl | old
      · exact leaves write _ isWrite applied
      · exact sound.usable d old
    · intro p member
      obtain ⟨d, past, prepared⟩ := recorded p member
      exact ⟨d, List.mem_cons_of_mem _ past, prepared⟩

theorem Deployment.Sound.step {s : Deployment} (sound : s.Sound sha256 netip aead) (event : DeploymentEvent) :
    (s.step sha256 routeToken config netip aead digest event).Sound sha256 netip aead := by
  have present := sound.world.recorded.present
  cases event with
  | request create id nonce input actor =>
    rw [Deployment.step]
    cases ok : prepareSave netip aead s.world.db create id nonce input with
    | error err => exact sound
    | ok server =>
      refine ⟨sound.world, sound.ordered, sound.usable, ?_⟩
      intro p member
      rcases List.mem_cons.mp member with rfl | old
      · exact ⟨s.world.db, present, prepareSave_ok ok⟩
      · exact sound.pending p old
  | save index =>
    rw [Deployment.step]
    cases found : s.pending[index]? with
    | none => exact sound
    | some p =>
      obtain ⟨past, wasRead, prepared⟩ := sound.pending p (List.mem_of_getElem? found)
      refine sound.worldStep _ (fun _ member => List.mem_of_mem_eraseIdx member) ?_
      intro write db isWrite applied
      cases isWrite
      exact prepared.save sound.world.recorded (sound.usable _ present)
        (fun d member n row => (sound.usable d member n row).revision)
        (sound.ordered _ present).version wasRead applied
  | other event =>
    rw [Deployment.step]
    split
    · exact sound
    · rename_i notSave
      refine sound.worldStep event (fun _ member => member) ?_
      intro write db isWrite applied n member
      cases isWrite
      exact sound.usable _ present n
        (Write.servers_of_not_save applied (eq_false_of_ne_true notSave) member)

theorem deploymentRun_sound (instanceID : Text) (events : List DeploymentEvent) :
    (deploymentRun sha256 routeToken config netip aead digest instanceID events).Sound
      sha256 netip aead :=
  Transaction.run_preserves (Deployment.sound_start instanceID) (fun _ event before => before.step event)
    events

/-! ## Installations -/

theorem Candidate.addAll_fails {r : Runtime} {nodes : List Node} {c : Candidate}
    (agree : ∀ node ∈ nodes, ∀ row, r.nodes.find? node.key = some row →
      (r.heap.find? row.pointer).map NodeRuntime.node = some node) :
    Except.FailsWith (· = "local listener capacity exceeded")
      (nodes.foldlM (Candidate.add r) c) := by
  induction nodes generalizing c with
  | nil => exact Except.failsWith_ok c
  | cons node rest ih =>
    rw [List.foldlM_cons]
    refine Except.FailsWith.bind ?_ fun _ _ => ih fun other member =>
      agree other (List.mem_cons_of_mem _ member)
    unfold Candidate.add
    dsimp only
    cases found : r.nodes.find? node.key with
    | some row =>
      dsimp only
      rw [if_neg (not_not.mpr (agree node List.mem_cons_self row found))]
      exact Except.failsWith_ok _
    | none =>
      dsimp only
      split
      · exact Except.failsWith_error rfl
      · exact Except.failsWith_ok _

theorem World.Sound.installed_agrees {decrypt : UUID → List UInt8 → Option Text} {w : World}
    (sound : w.Sound sha256 decrypt) {d : Db} (past : d ∈ w.history) (stored : n ∈ d.servers.rows)
    {node : Node} (made : runtimeNode decrypt n = some node) {row : Installed}
    (found : w.runtime.nodes.find? node.key = some row) :
    (w.runtime.heap.find? row.pointer).map NodeRuntime.node = some node := by
  obtain ⟨object, objectFound, keyed, -⟩ :=
    sound.runtime.mapped.object row (Table.mem_of_find? found)
  obtain ⟨d', past', n', stored', made'⟩ :=
    sound.objects object (Table.mem_of_find? objectFound)
  have key : object.node.key = node.key := keyed.trans (Table.key_of_find? found)
  have parts : ∀ {n : EgressServer} {node : Node}, runtimeNode decrypt n = some node →
      node.id = n.id.val ∧ node.revision = n.revision := by
    intro n node made
    obtain ⟨password, -, rfl⟩ := Option.map_eq_some_iff.mp made
    exact ⟨rfl, rfl⟩
  obtain ⟨id, revision⟩ := parts made
  obtain ⟨id', revision'⟩ := parts made'
  unfold Node.key at key
  rw [id, revision, id', revision'] at key
  obtain ⟨ids, revisions⟩ := nodeKey_injective (slash_not_mem_uuid _) (slash_not_mem_uuid _) key
  have same : n' = n :=
    sound.recorded.unique d' past' d past n' stored' n stored (Subtype.ext ids) revisions
  rw [same, made] at made'
  rw [objectFound, Option.map_some, Option.some.inj made']

/-- An accepted snapshot is installed, or refused for another reason than its contents. -/
theorem install_error {key : Text} {r : Runtime} {snapshot : Snapshot}
    (accepted : validateSnapshot parseAddr routeToken snapshot key = .ok ())
    (agree : ∀ node ∈ snapshot.nodes, ∀ row, r.nodes.find? node.key = some row →
      (r.heap.find? row.pointer).map NodeRuntime.node = some node) (answers : Answers) :
    (r.install parseAddr routeToken digest key snapshot answers).error ∈
      [none, some "stale snapshot", some "snapshot version conflict",
        some "local listener capacity exceeded", some "configuration apply failed"] := by
  unfold Runtime.install
  rw [accepted]
  dsimp only
  split
  · simp
  · split
    · split <;> simp
    · cases folded : snapshot.nodes.foldlM (Candidate.add r) r.candidate with
      | error err =>
        have capacity := Candidate.addAll_fails agree err folded
        simp [capacity]
      | ok c =>
        dsimp only
        split <;> simp

/-- In every interleaving of handlers with each other and with all other writes, every
node that was ever stored is usable, an id and a revision name one content for ever,
and the snapshot of every state is accepted and then never refused for its contents.
The digest is that of SHA-256: its values are identifiers, and the routes of one state
do not collide. -/
theorem deploymentRun_installable (instanceID : Text) (events : List DeploymentEvent) (s : Deployment)
    (run : s = deploymentRun sha256 routeToken config netip aead digest instanceID events)
    (identifiers : ∀ text, isIdentifier (sha256 text) = true)
    (collisionFree : ∀ d ∈ s.world.history, ∀ text text', d.RouteText text → d.RouteText text' →
      sha256 text = sha256 text' → text = text') :
    (∀ d ∈ s.world.history, ∀ n ∈ d.servers.rows,
      validateEgressServer (parseIPv4 netip) n = .ok () ∧
      ∃ password, decryptEgressPassword aead n.id n.passwordCiphertext = some password ∧
        validPassword n.cipher password = true) ∧
    (∀ d ∈ s.world.history, ∀ d' ∈ s.world.history, ∀ n ∈ d.servers.rows,
      ∀ n' ∈ d'.servers.rows, n.id = n'.id → n.revision = n'.revision → n = n') ∧
    ∀ d ∈ s.world.history, ∃ snapshot,
      runtimeSnapshot sha256 routeToken (decryptEgressPassword aead) config (egressSnapshot d) =
        some snapshot ∧
      (snapshot.nodes.length ≤ 4096 → snapshot.routes.length ≤ 65536 →
        (snapshot.routes.map Route.id).Nodup ∧
        validateSnapshot (parseZone netip) routeToken snapshot config.egressControlKey = .ok () ∧
        ∀ answers, (s.world.runtime.install (parseZone netip) routeToken digest
          config.egressControlKey snapshot answers).error ∈
            [none, some "stale snapshot", some "snapshot version conflict",
              some "local listener capacity exceeded", some "configuration apply failed"]) := by
  have sound : s.Sound sha256 netip aead := by
    rw [run]
    exact deploymentRun_sound instanceID events
  refine ⟨?_, sound.world.recorded.unique, ?_⟩
  · intro d past n stored
    have usable := sound.usable d past n stored
    exact ⟨usable.valid, usable.password⟩
  · intro d past
    obtain ⟨snapshot, made, accepted⟩ := (sound.ordered d past).snapshot_accepted routeToken config
      (sound.usable d past) identifiers (collisionFree d past)
    refine ⟨snapshot, made, fun few fewRoutes => ?_⟩
    have valid := accepted few fewRoutes
    refine ⟨(validateSnapshot_ok valid).1.unique, valid, install_error valid ?_⟩
    intro node member row found
    obtain ⟨n, stored, opened⟩ := (runtimeSnapshot_some made).1 node member
    exact sound.world.installed_agrees past stored opened found

end Deployment

/-! Two nodes, saved by handlers that overlap: an account is bound to one of them, and a registration
is under way with the other. -/

/-- Identifiers as they are, everything else under one name. -/
def boundedDigest (text : Text) : Text :=
  if isIdentifier (sampleDigest text) then sampleDigest text else ['x']

theorem isIdentifier_boundedDigest (text : Text) : isIdentifier (boundedDigest text) = true := by
  unfold boundedDigest
  split
  · assumption
  · decide

def charBytes (c : Char) : List UInt8 :=
  [UInt8.ofNat (c.toNat % 256), UInt8.ofNat (c.toNat / 256 % 256), UInt8.ofNat (c.toNat / 65536)]

def charsOf : List UInt8 → Text
  | low :: middle :: high :: rest =>
    Char.ofNat (low.toNat + 256 * middle.toNat + 65536 * high.toNat) :: charsOf rest
  | _ => []

theorem charsOf_charBytes (text : Text) : charsOf (text.flatMap charBytes) = text := by
  induction text with
  | nil => rfl
  | cons c rest ih =>
    have small : c.toNat < 1114112 := by
      rcases c.valid with low | ⟨-, high⟩
      · exact lt_of_lt_of_le low (by decide)
      · exact high
    have number : c.toNat % 256 % 256 + 256 * (c.toNat / 256 % 256 % 256) +
        65536 * (c.toNat / 65536 % 256) = c.toNat := by
      omega
    rw [List.flatMap_cons]
    simp only [charBytes, List.cons_append, List.nil_append, charsOf, UInt8.toNat_ofNat']
    rw [ih]
    congr 1
    exact (congrArg Char.ofNat number).trans (Char.ofNat_toNat c)

/-- A cipher that hides nothing. -/
def plainAead : Aead where
  sealText _ password _ := List.replicate 16 0 ++ password.flatMap charBytes
  openText _ sealed _ := some (charsOf (sealed.drop 16))
  opens _ password _ := by
    rw [List.drop_left' (List.length_replicate ..), charsOf_charBytes]
  overhead _ _ _ := by
    rw [List.length_append, List.length_replicate]
    omega

def zeroNonce : Nonce := ⟨List.replicate 12 0, rfl⟩

def savedInput : SaveInput :=
  ⟨['n'], [], "ss.node".toList, 443, "aes-256-gcm".toList, ['p'], false⟩

def handledDeployment : Deployment :=
  deploymentRun boundedDigest sampleToken sampleConfig (fun _ => none) plainAead (fun _ => []) ['i']
    [.request true exitUUID zeroNonce savedInput ['u'],
      .request true intentUUID zeroNonce { savedInput with name := ['m'] } ['u'], .save 1, .save 0,
      .other (.write (.ensure joiningAccountID .codex)),
      .other (.write (.bind .codex joiningAccountID (some exitUUID) ['u'])),
      .other (.write (.register sampleUUID .codex (some (some intentUUID)) ['u'] 0))]

theorem deploymentRun_installable_handled :
    handledDeployment.world.db.servers.rows.map EgressServer.revision = [3, 2] ∧
    (egressSnapshot handledDeployment.world.db).specs.length = 2 ∧
    ∀ d ∈ handledDeployment.world.history, ∃ snapshot,
      runtimeSnapshot boundedDigest sampleToken (decryptEgressPassword plainAead) sampleConfig
        (egressSnapshot d) = some snapshot ∧
      (snapshot.nodes.length ≤ 4096 → snapshot.routes.length ≤ 65536 →
        (snapshot.routes.map Route.id).Nodup ∧
        validateSnapshot (parseZone fun _ => none) sampleToken snapshot
          sampleConfig.egressControlKey = .ok () ∧
        ∀ answers, (handledDeployment.world.runtime.install (parseZone fun _ => none) sampleToken
          (fun _ => []) sampleConfig.egressControlKey snapshot answers).error ∈
            [none, some "stale snapshot", some "snapshot version conflict",
              some "local listener capacity exceeded", some "configuration apply failed"]) := by
  have spelled : ∀ d ∈ handledDeployment.world.history, ∀ spec ∈ (egressSnapshot d).specs,
      ∀ n ∈ d.servers.rows,
        isIdentifier (sampleDigest (routeText spec.kind spec.id spec.revision n)) = true := by
    decide +kernel
  refine ⟨by decide +kernel, by decide +kernel, ?_⟩
  refine (deploymentRun_installable ['i'] _ handledDeployment rfl isIdentifier_boundedDigest ?_).2.2
  rintro d past _ _ ⟨spec, member, n, row, rfl⟩ ⟨spec', member', n', row', rfl⟩ same
  rw [boundedDigest, if_pos (spelled d past spec member n row), boundedDigest,
    if_pos (spelled d past spec' member' n' row')] at same
  exact sampleDigest_injective same

end Egress
