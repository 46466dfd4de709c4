import CodexGateway.Egress.Gateway

/-! # The history of the egress tables

A write keeps the rows of other nodes and gives a saved node a revision above every
earlier version. So over all states that the tables ever had, an id and a revision name
one row.
-/

open Store (StoreError UpstreamProvider AccountID)

namespace Egress

open Except (bind_eq_ok check_bind_eq_ok refuse_eq_ok)

variable {db db' : Db} {actor : Text} {id : UUID} {provider : UpstreamProvider}
  {accountID : AccountID}

structure Writes (db db' : Db) : Prop where
  version : db.version ≤ db'.version
  servers : ∀ n ∈ db'.servers.rows, n ∈ db.servers.rows ∨
    db.version < n.revision ∧ n.revision ≤ db'.version
  accounts : ∀ id, (db.accounts.find? id).isSome = true → (db'.accounts.find? id).isSome = true
  bindings : ∀ b ∈ db'.bindings.rows, b ∈ db.bindings.rows ∨
    (db'.accounts.find? b.accountID).isSome = true

theorem Writes.refl (db : Db) : Writes db db :=
  ⟨Int.le_refl _, fun _ => .inl, fun _ => id, fun _ => .inl⟩

theorem Writes.trans {a b c : Db} (first : Writes a b) (rest : Writes b c) : Writes a c := by
  refine ⟨Int.le_trans first.version rest.version, ?_, fun id => rest.accounts id ∘ first.accounts id, ?_⟩
  · intro n member
    rcases rest.servers n member with old | ⟨low, high⟩
    · rcases first.servers n old with older | ⟨low, high⟩
      · exact .inl older
      · exact .inr ⟨low, Int.le_trans high rest.version⟩
    · exact .inr ⟨Int.lt_of_le_of_lt first.version low, high⟩
  · intro binding member
    rcases rest.bindings binding member with old | owned
    · rcases first.bindings binding old with older | owned
      · exact .inl older
      · exact .inr (rest.accounts _ owned)
    · exact .inr owned

theorem writes_of_same (version : db.version ≤ db'.version)
    (servers : ∀ n ∈ db'.servers.rows, n ∈ db.servers.rows)
    (accounts : db'.accounts = db.accounts) (bindings : db'.bindings = db.bindings) :
    Writes db db' :=
  ⟨version, fun n member => .inl (servers n member), fun id found => by rw [accounts]; exact found,
    fun b member => .inl (by rw [← bindings]; exact member)⟩

theorem writes_advance (db : Db) : Writes db { db with version := db.version + 1 } :=
  writes_of_same (Int.le_add_one (Int.le_refl _)) (fun _ => id) rfl rfl

variable {create : Bool} {now : Store.Time} {expectedNodeRevision : Int}

section Nodes

variable {parseAddr : Text → Option Bool} {n : EgressServer}

theorem checkRevision_ok {row : EgressServer} {expected : Int}
    (ok : checkRevision row expected = .ok ()) : expected = 0 ∨ row.revision = expected := by
  unfold checkRevision at ok
  split at ok
  · assumption
  · split at ok <;> cases ok

theorem saveEgressServer_ok {parseAddr : Text → Option Bool}
    (ok : saveEgressServer parseAddr db n create actor = .ok db') :
    db' = { db with version := db.version + 1, servers := db'.servers } := by
  obtain ⟨-, ok⟩ := refuse_eq_ok.mp ok
  obtain ⟨-, ok⟩ := check_bind_eq_ok.mp ok
  obtain ⟨-, ok⟩ := refuse_eq_ok.mp ok
  dsimp only at ok
  split at ok
  · split at ok <;> cases ok
    rfl
  · unfold updateEgressServer at ok
    split at ok
    · cases ok
    · obtain ⟨-, ok⟩ := check_bind_eq_ok.mp ok
      obtain ⟨-, ok⟩ := refuse_eq_ok.mp ok
      cases ok
      rfl

/-- The rows after a save: those from before, the new one, or the one that it updates. -/
theorem saveEgressServer_rows (ok : saveEgressServer parseAddr db n create actor = .ok db')
    {n' : EgressServer} (member : n' ∈ db'.servers.rows) :
    n' ∈ db.servers.rows ∨
      (create = true ∧ n' = { n with revision := db.version + 1 }) ∨
      ∃ row ∈ db.servers.rows, row.id = n.id ∧ n' = n.assign (db.version + 1) row ∧
        (n.passwordCiphertext = [] → n.revision = 0 ∨ row.revision = n.revision) := by
  obtain ⟨-, ok⟩ := refuse_eq_ok.mp ok
  obtain ⟨-, ok⟩ := check_bind_eq_ok.mp ok
  obtain ⟨-, ok⟩ := refuse_eq_ok.mp ok
  dsimp only at ok
  split at ok
  · rename_i creates
    cases inserted : db.servers.insert? { n with revision := db.version + 1 } with
    | none =>
      rw [inserted] at ok
      cases ok
    | some servers =>
      rw [inserted] at ok
      cases ok
      have rows := (Table.insert?_eq_some.mp inserted).2
      rw [show n' ∈ servers.rows ↔ _ by rw [rows, List.mem_cons]] at member
      rcases member with rfl | old
      · exact .inr (.inl ⟨creates, rfl⟩)
      · exact .inl old
  · unfold updateEgressServer at ok
    cases found : db.servers.find? n.id with
    | none =>
      rw [found] at ok
      cases ok
    | some row =>
      rw [found] at ok
      obtain ⟨guarded, ok⟩ := check_bind_eq_ok.mp ok
      obtain ⟨-, ok⟩ := refuse_eq_ok.mp ok
      cases ok
      obtain ⟨old, oldMember, rfl⟩ := List.mem_map.mp member
      dsimp only
      split
      · rename_i own
        have same : old = row := List.inj_on_of_nodup_map (Table.unique _) oldMember
          (Table.mem_of_find? found) ((of_decide_eq_true own).trans (Table.key_of_find? found).symm)
        subst same
        refine .inr (.inr ⟨old, oldMember, of_decide_eq_true own, rfl, ?_⟩)
        intro none
        rw [if_pos none] at guarded
        exact checkRevision_ok guarded
      · exact .inl oldMember

theorem saveEgressServer_writes
    (ok : saveEgressServer parseAddr db n create actor = .ok db') : Writes db db' := by
  have frame := saveEgressServer_ok ok
  have version : db'.version = db.version + 1 := by rw [frame]
  have accounts : db'.accounts = db.accounts := by rw [frame]
  have bindings : db'.bindings = db.bindings := by rw [frame]
  refine ⟨by omega, ?_, fun id found => by rw [accounts]; exact found,
    fun b member => .inl (by rw [← bindings]; exact member)⟩
  intro n' member
  rcases saveEgressServer_rows ok member with old | ⟨-, rfl⟩ | ⟨row, -, -, rfl, -⟩
  · exact .inl old
  · exact .inr ⟨Int.lt_succ _, version.ge⟩
  · exact .inr ⟨Int.lt_succ _, version.ge⟩

theorem deleteEgressServer_writes
    (ok : deleteEgressServer db id actor now = .ok db') : Writes db db' := by
  obtain ⟨-, ok⟩ := refuse_eq_ok.mp ok
  obtain ⟨-, ok⟩ := refuse_eq_ok.mp ok
  obtain ⟨-, ok⟩ := refuse_eq_ok.mp ok
  cases ok
  exact writes_of_same (Int.le_add_one (Int.le_refl _)) (fun _ => List.mem_of_mem_filter) rfl rfl

end Nodes

theorem setEgressBinding_writes {nodeID : Option UUID} {revision : Int}
    (ok : setEgressBinding db provider accountID nodeID revision = .ok db') : Writes db db' := by
  unfold setEgressBinding at ok
  cases found : db.accounts.find? accountID with
  | none =>
    rw [found] at ok
    cases ok
  | some account =>
    rw [found] at ok
    obtain ⟨-, ok⟩ := refuse_eq_ok.mp ok
    obtain ⟨-, ok⟩ := refuse_eq_ok.mp ok
    cases ok
    have owned : (db.accounts.find? accountID).isSome = true := by
      rw [found]
      rfl
    refine ⟨Int.le_refl _, fun _ => .inl, fun _ => id, ?_⟩
    intro b member
    obtain ⟨old, oldMember, rfl⟩ := List.mem_map.mp member
    dsimp only
    split
    next same => exact .inr (by rw [of_decide_eq_true same]; exact owned)
    next other =>
      rcases Table.mem_insertIfAbsent oldMember with rfl | older
      · simp at other
      · exact .inl older

theorem ensureAccount_writes {error : StoreError}
    (ok : ensureAccount db accountID provider error = .ok db') : Writes db db' := by
  unfold ensureAccount at ok
  cases found : db.accounts.find? accountID with
  | none =>
    rw [found] at ok
    cases ok
    exact ⟨Int.le_refl _, fun _ => .inl, fun _ => Table.isSome_insertIfAbsent, fun _ => .inl⟩
  | some account =>
    rw [found] at ok
    obtain ⟨-, ok⟩ := refuse_eq_ok.mp ok
    cases ok
    exact Writes.refl db

theorem commitBinding_writes {registration : EgressRegistration}
    (ok : commitBinding db registration accountID expectedNodeRevision = .ok db') :
    Writes db db' := by
  unfold commitBinding at ok
  split at ok
  · cases ok
    exact Writes.refl db
  · obtain ⟨-, ok⟩ := refuse_eq_ok.mp ok
    split at ok
    · obtain ⟨-, ok⟩ := check_bind_eq_ok.mp ok
      exact setEgressBinding_writes ok
    · exact setEgressBinding_writes ok

theorem transitionEgressRegistration_writes {commit : Bool}
    (ok : transitionEgressRegistration db id provider accountID commit expectedNodeRevision =
      .ok db') : Writes db db' := by
  have advanced : ∀ db state baseline,
      Writes db (advanceRegistration db id accountID state baseline) := fun db _ _ =>
    writes_of_same (Int.le_refl _) (fun _ member => member) rfl rfl
  unfold transitionEgressRegistration at ok
  cases found : db.registrations.find? id with
  | none =>
    rw [found] at ok
    cases ok
  | some registration =>
    rw [found] at ok
    obtain ⟨-, ok⟩ := refuse_eq_ok.mp ok
    split at ok
    · cases ok
      exact Writes.refl db
    · obtain ⟨-, ok⟩ := refuse_eq_ok.mp ok
      obtain ⟨ensured, ensure, ok⟩ := bind_eq_ok.mp ok
      have before := (writes_advance db).trans (ensureAccount_writes ensure)
      split at ok
      · obtain ⟨bound, bind, ok⟩ := bind_eq_ok.mp ok
        cases ok
        exact (before.trans (commitBinding_writes bind)).trans (advanced _ _ _)
      · obtain ⟨-, ok⟩ := refuse_eq_ok.mp ok
        cases ok
        exact before.trans (advanced _ _ _)

theorem createEgressRegistration_writes {nodeID : Option (Option UUID)}
    (ok : createEgressRegistration db id provider nodeID actor now = .ok db') : Writes db db' := by
  obtain ⟨-, ok⟩ := refuse_eq_ok.mp ok
  obtain ⟨-, ok⟩ := refuse_eq_ok.mp ok
  dsimp only at ok
  split at ok
  · cases ok
  · cases ok
    exact writes_of_same (Int.le_add_one (Int.le_refl _)) (fun _ member => member) rfl rfl

/-! ## Writes in any order -/

inductive Write where
  | save (n : EgressServer) (create : Bool) (actor : Text)
  | delete (id : UUID) (actor : Text) (now : Store.Time)
  | bind (provider : UpstreamProvider) (accountID : AccountID) (nodeID : Option UUID) (actor : Text)
  | register (id : UUID) (provider : UpstreamProvider) (nodeID : Option (Option UUID))
      (actor : Text) (now : Store.Time)
  | prepare (id : UUID) (provider : UpstreamProvider) (accountID : AccountID)
  | commit (id : UUID) (provider : UpstreamProvider) (accountID : AccountID)
      (expectedNodeRevision : Int)
  /-- `EnsureUpstreamAccount`, and an account that a synchronization adds. -/
  | ensure (accountID : AccountID) (provider : UpstreamProvider)

def Write.apply (parseAddr : Text → Option Bool) (db : Db) : Write → Except StoreError Db
  | .save n create actor => saveEgressServer parseAddr db n create actor
  | .delete id actor now => deleteEgressServer db id actor now
  | .bind provider accountID nodeID actor => setEgressBindingTx db provider accountID nodeID actor
  | .register id provider nodeID actor now => createEgressRegistration db id provider nodeID actor now
  | .prepare id provider accountID => transitionEgressRegistration db id provider accountID false 0
  | .commit id provider accountID expectedNodeRevision =>
    transitionEgressRegistration db id provider accountID true expectedNodeRevision
  | .ensure accountID provider =>
    ensureAccount db accountID provider (.conflict "upstream account belongs to another provider")

theorem Write.apply_writes {parseAddr : Text → Option Bool} {write : Write}
    (ok : write.apply parseAddr db = .ok db') : Writes db db' := by
  cases write with
  | save n create actor => exact saveEgressServer_writes ok
  | delete id actor now => exact deleteEgressServer_writes ok
  | bind provider accountID nodeID actor =>
    obtain ⟨-, ok⟩ := refuse_eq_ok.mp ok
    exact (writes_advance db).trans (setEgressBinding_writes ok)
  | register id provider nodeID actor now => exact createEgressRegistration_writes ok
  | prepare id provider accountID => exact transitionEgressRegistration_writes ok
  | commit id provider accountID expectedNodeRevision =>
    exact transitionEgressRegistration_writes ok
  | ensure accountID provider => exact ensureAccount_writes ok

/-- All states the tables had so far, with the present one. -/
structure Recorded (history : List Db) (db : Db) : Prop where
  present : db ∈ history
  past : ∀ d ∈ history, ∀ n ∈ d.servers.rows, n.revision ≤ db.version
  unique : ∀ d ∈ history, ∀ d' ∈ history, ∀ n ∈ d.servers.rows, ∀ n' ∈ d'.servers.rows,
    n.id = n'.id → n.revision = n'.revision → n = n'
  owned : ∀ d ∈ history, ∀ b ∈ d.bindings.rows, (d.accounts.find? b.accountID).isSome = true

theorem recorded_empty : Recorded [Db.empty] Db.empty := by
  refine ⟨List.mem_cons_self, ?_, ?_, ?_⟩
  · intro d member n impossible
    rw [List.mem_singleton.mp member] at impossible
    cases impossible
  · intro d member d' member' n impossible
    rw [List.mem_singleton.mp member] at impossible
    cases impossible
  · intro d member b impossible
    rw [List.mem_singleton.mp member] at impossible
    cases impossible

theorem Recorded.write {history : List Db} (recorded : Recorded history db)
    (writes : Writes db db') : Recorded (db' :: history) db' := by
  -- Against every earlier row, a row of the new state is an old one or has a higher revision.
  have against : ∀ n ∈ db'.servers.rows, ∀ d ∈ history, ∀ n' ∈ d.servers.rows,
      n.id = n'.id → n.revision = n'.revision → n = n' := by
    intro n member d member' n' row sameID sameRevision
    rcases writes.servers n member with old | ⟨newer, -⟩
    · exact recorded.unique db recorded.present d member' n old n' row sameID sameRevision
    · have below := recorded.past d member' n' row
      omega
  refine ⟨List.mem_cons_self, ?_, ?_, ?_⟩
  · intro d member n row
    rcases List.mem_cons.mp member with rfl | old
    · rcases writes.servers n row with older | ⟨-, high⟩
      · exact Int.le_trans (recorded.past db recorded.present n older) writes.version
      · exact high
    · exact Int.le_trans (recorded.past d old n row) writes.version
  · intro d member d' member' n row n' row' sameID sameRevision
    rcases List.mem_cons.mp member with rfl | old <;>
      rcases List.mem_cons.mp member' with rfl | old'
    · exact List.inj_on_of_nodup_map (Table.unique _) row row' sameID
    · exact against n row d' old' n' row' sameID sameRevision
    · exact (against n' row' d old n row sameID.symm sameRevision.symm).symm
    · exact recorded.unique d old d' old' n row n' row' sameID sameRevision
  · intro d member b row
    rcases List.mem_cons.mp member with rfl | old
    · rcases writes.bindings b row with older | owned
      · exact writes.accounts _ (recorded.owned db recorded.present b older)
      · exact owned
    · exact recorded.owned d old b row

end Egress
