import CodexGateway.Egress.Writes

/-! # Bindings and registrations over time

A registration is created, prepared for an account and committed. Between the last two
steps the binding of the account must not change. Revisions order all of this: a binding
takes the version of its write or the revision of its registration, and both lie above
every revision that the account had before.
-/

open Store (StoreError UpstreamProvider AccountID)

namespace Egress

open Except (bind_eq_ok check_bind_eq_ok refuse_eq_ok)

variable {db db' : Db} {provider : UpstreamProvider} {accountID : AccountID} {id : UUID}

/-! ## What a write does to bindings and registrations -/

def BindingSet (db db' : Db) (b : BindingRow) : Prop :=
  ∀ accountID, db'.bindings.find? accountID =
    if accountID = b.accountID then some b else db.bindings.find? accountID

def RegistrationSet (db db' : Db) (r r' : EgressRegistration) : Prop :=
  db.registrations.find? r.id = some r ∧ r'.id = r.id ∧
    ∀ id, db'.registrations.find? id = if id = r.id then some r' else db.registrations.find? id

def EgressRegistration.advance (r : EgressRegistration) (accountID : AccountID) (state : Phase)
    (baseline : Int) : EgressRegistration :=
  { r with accountID := some accountID, state, baselineBindingRevision := baseline }

/-- All that a write can do to bindings and registrations. -/
inductive Change (db : Db) : Write → Db → Prop
  | same {w : Write} {db' : Db} (version : db.version ≤ db'.version)
      (bindings : db'.bindings = db.bindings)
      (registrations : db'.registrations = db.registrations) : Change db w db'
  | released {db' : Db} (id : UUID) (actor : Text) (now : Store.Time)
      (version : db'.version = db.version + 1) (bindings : db'.bindings = db.bindings)
      (registrations : db'.registrations = db.registrations.update
        (fun r => r.nodeID = some id ∧ r.state = .committed) (fun r => { r with nodeID := none })
        (fun _ => rfl)) : Change db (.delete id actor now) db'
  | bound {db' : Db} (provider : UpstreamProvider) (b : BindingRow) (actor : Text)
      (version : db'.version = db.version + 1) (revision : b.revision = db.version + 1)
      (bindings : BindingSet db db' b) (registrations : db'.registrations = db.registrations) :
      Change db (.bind provider b.accountID b.nodeID actor) db'
  | registered {db' : Db} (r : EgressRegistration) (nodeID : Option (Option UUID)) (actor : Text)
      (version : db'.version = db.version + 1) (revision : r.revision = db.version + 1)
      (state : r.state = .pending) (account : r.accountID = none)
      (node : r.nodeID = nodeID.getD none) (preserve : r.preserve = nodeID.isNone)
      (bindings : db'.bindings = db.bindings)
      (inserted : db.registrations.insert? r = some db'.registrations) :
      Change db (.register r.id r.provider nodeID actor r.createdAt) db'
  | prepared {db' : Db} (r : EgressRegistration) (accountID : AccountID)
      (version : db'.version = db.version + 1) (state : r.state = .pending)
      (account : ∀ other ∈ r.accountID, other = accountID) (bindings : db'.bindings = db.bindings)
      (older : r.preserve = false → currentBindingRevision db accountID ≤ r.revision)
      (registrations : RegistrationSet db db' r
        (r.advance accountID .prepared (currentBindingRevision db accountID))) :
      Change db (.prepare r.id r.provider accountID) db'
  | committed {db' : Db} (r : EgressRegistration) (accountID : AccountID) (expected : Int)
      (version : db'.version = db.version + 1) (state : r.state = .prepared)
      (account : ∀ other ∈ r.accountID, other = accountID)
      (registrations : RegistrationSet db db' r
        (r.advance accountID .committed r.baselineBindingRevision))
      (bindings : r.preserve = true ∧ db'.bindings = db.bindings ∨
        r.preserve = false ∧ r.baselineBindingRevision = currentBindingRevision db accountID ∧
          (∀ id ∈ r.nodeID, (db'.servers.find? id).isSome = true) ∧
          BindingSet db db' ⟨accountID, r.nodeID, r.revision⟩) :
      Change db (.commit r.id r.provider accountID expected) db'

theorem setEgressBinding_ok {nodeID : Option UUID} {revision : Int}
    (ok : setEgressBinding db provider accountID nodeID revision = .ok db') :
    db' = { db with bindings := db'.bindings } ∧ BindingSet db db' ⟨accountID, nodeID, revision⟩ ∧
      ∀ id ∈ nodeID, (db.servers.find? id).isSome = true := by
  unfold setEgressBinding at ok
  cases found : db.accounts.find? accountID with
  | none =>
    rw [found] at ok
    cases ok
  | some account =>
    rw [found] at ok
    obtain ⟨-, ok⟩ := refuse_eq_ok.mp ok
    obtain ⟨nodes, ok⟩ := refuse_eq_ok.mp ok
    cases ok
    refine ⟨rfl, ?_, ?_⟩
    · intro other
      simp only [Table.find?_modify]
      by_cases own : other = accountID
      · subst own
        obtain ⟨row, stored⟩ := Option.isSome_iff_exists.mp
          (Table.isSome_insertIfAbsent_self db.bindings ⟨other, nodeID, revision⟩)
        have key : row.accountID = other := Table.key_of_find? stored
        have stored' : (db.bindings.insertIfAbsent ⟨other, nodeID, revision⟩).find? other =
            some row := stored
        simp [stored', key]
      · simp [own, Table.find?_insertIfAbsent]
    · intro id named
      have exists' : ¬ (db.servers.find? id).isNone = true := by
        intro missing
        exact nodes (by simp [Option.mem_def.mp named, missing])
      simpa [Option.isSome_iff_ne_none] using exists'

theorem ensureAccount_ok {error : StoreError}
    (ok : ensureAccount db accountID provider error = .ok db') :
    db' = { db with accounts := db'.accounts } := by
  unfold ensureAccount at ok
  split at ok
  · cases ok
    rfl
  · obtain ⟨-, ok⟩ := refuse_eq_ok.mp ok
    cases ok
    rfl

variable {r r' : EgressRegistration} {expected : Int} {write : Write}

theorem commitBinding_ok (ok : commitBinding db r accountID expected = .ok db') :
    db' = { db with bindings := db'.bindings } ∧
      (r.preserve = true ∧ db'.bindings = db.bindings ∨
        r.preserve = false ∧ r.baselineBindingRevision = currentBindingRevision db accountID ∧
          (∀ id ∈ r.nodeID, (db.servers.find? id).isSome = true) ∧
          BindingSet db db' ⟨accountID, r.nodeID, r.revision⟩) := by
  unfold commitBinding at ok
  split at ok
  · rename_i preserve
    cases ok
    exact ⟨rfl, .inl ⟨preserve, rfl⟩⟩
  · rename_i replaces
    obtain ⟨baseline, ok⟩ := refuse_eq_ok.mp ok
    have set : setEgressBinding db r.provider accountID r.nodeID r.revision = .ok db' := by
      split at ok
      · exact (check_bind_eq_ok.mp ok).2
      · exact ok
    obtain ⟨frame, bindings, nodes⟩ := setEgressBinding_ok set
    exact ⟨frame, .inr ⟨by simpa using replaces, not_not.mp baseline, nodes, bindings⟩⟩

theorem registrationSet_advance {bound : Db}
    (found : db.registrations.find? r.id = some r) (same : bound.registrations = db.registrations)
    (accountID : AccountID) (state : Phase) (baseline : Int) :
    RegistrationSet db (advanceRegistration bound r.id accountID state baseline) r
      (r.advance accountID state baseline) := by
  refine ⟨found, rfl, fun id => ?_⟩
  simp only [advanceRegistration, Table.find?_modify, same]
  by_cases own : id = r.id
  · simp [own, found, EgressRegistration.advance]
  · simp [own]

/-- A transition replays, prepares or commits. -/
theorem transitionEgressRegistration_ok {commit : Bool}
    (ok : transitionEgressRegistration db id provider accountID commit expected = .ok db') :
    db' = db ∨ ∃ r : EgressRegistration, r.id = id ∧ r.provider = provider ∧
      Change db (if commit then .commit r.id r.provider accountID expected
        else .prepare r.id r.provider accountID) db' := by
  unfold transitionEgressRegistration at ok
  cases found : db.registrations.find? id with
  | none =>
    rw [found] at ok
    cases ok
  | some r =>
    rw [found] at ok
    have key : r.id = id := Table.key_of_find? found
    subst key
    obtain ⟨matching, ok⟩ := refuse_eq_ok.mp ok
    simp only [not_or, not_not] at matching
    have account : ∀ other ∈ r.accountID, other = accountID := by
      intro other given
      by_contra different
      exact matching.2 (by simp [Option.mem_def.mp given, different])
    split at ok
    · cases ok
      exact .inl rfl
    · rename_i open'
      simp only [not_or, not_and] at open'
      obtain ⟨ready, ok⟩ := refuse_eq_ok.mp ok
      obtain ⟨ensured, ensure, ok⟩ := bind_eq_ok.mp ok
      have frame := ensureAccount_ok ensure
      have bindings : ensured.bindings = db.bindings := by rw [frame]
      have registrations : ensured.registrations = db.registrations := by rw [frame]
      have version : ensured.version = db.version + 1 := by rw [frame]
      have current : currentBindingRevision ensured accountID =
          currentBindingRevision db accountID := by
        rw [currentBindingRevision, bindings, currentBindingRevision]
      refine .inr ⟨r, rfl, matching.1, ?_⟩
      split at ok
      · rename_i commits
        obtain ⟨bound, binds, ok⟩ := bind_eq_ok.mp ok
        obtain ⟨boundFrame, outcome⟩ := commitBinding_ok binds
        have kept : bound.registrations = db.registrations := by rw [boundFrame, registrations]
        have prepared : r.state = .prepared := by
          by_contra other
          exact ready ⟨commits, other⟩
        have set := registrationSet_advance found kept accountID .committed
          r.baselineBindingRevision
        have advanced : (advanceRegistration bound r.id accountID .committed
            r.baselineBindingRevision).version = db.version + 1 := by
          rw [advanceRegistration, boundFrame, version]
        cases ok
        rw [if_pos commits]
        refine .committed r accountID expected advanced prepared account set ?_
        rcases outcome with ⟨preserve, same⟩ | ⟨replaces, baseline, nodes, bound'⟩
        · exact .inl ⟨preserve, same.trans bindings⟩
        · refine .inr ⟨replaces, baseline.trans current, ?_, ?_⟩
          · intro node named
            have stored := nodes node named
            rw [show (advanceRegistration bound r.id accountID .committed
              r.baselineBindingRevision).servers = ensured.servers by
                rw [advanceRegistration, boundFrame]]
            exact stored
          · intro other
            rw [← bindings]
            exact bound' other
      · rename_i prepares
        obtain ⟨older, ok⟩ := refuse_eq_ok.mp ok
        have pending : r.state = .pending := by
          have notPrepared := open'.2 (by simpa using prepares)
          cases state : r.state with
          | pending => rfl
          | prepared => exact absurd state notPrepared
          | committed => exact absurd state open'.1
        have set := registrationSet_advance found registrations accountID .prepared
          (currentBindingRevision ensured accountID)
        cases ok
        rw [if_neg prepares]
        rw [current] at older set ⊢
        refine .prepared r accountID version pending account bindings ?_ set
        intro replaces
        by_contra newer
        exact older ⟨replaces, not_le.mp newer⟩

theorem Write.change {parseAddr : Text → Option Bool} {write : Write}
    (ok : write.apply parseAddr db = .ok db') : Change db write db' := by
  cases write with
  | save n create actor =>
    have frame := saveEgressServer_ok ok
    refine .same ?_ (by rw [frame]) (by rw [frame])
    rw [frame]
    exact Int.le_add_one (Int.le_refl _)
  | delete id actor now =>
    obtain ⟨-, ok⟩ := refuse_eq_ok.mp ok
    obtain ⟨-, ok⟩ := refuse_eq_ok.mp ok
    obtain ⟨-, ok⟩ := refuse_eq_ok.mp ok
    cases ok
    exact .released id actor now rfl rfl rfl
  | bind provider accountID nodeID actor =>
    obtain ⟨-, ok⟩ := refuse_eq_ok.mp ok
    obtain ⟨frame, bindings, -⟩ := setEgressBinding_ok ok
    exact .bound provider ⟨accountID, nodeID, db.version + 1⟩ actor (by rw [frame]) rfl bindings
      (by rw [frame])
  | register id provider nodeID actor now =>
    obtain ⟨-, ok⟩ := refuse_eq_ok.mp ok
    obtain ⟨-, ok⟩ := refuse_eq_ok.mp ok
    dsimp only at ok
    split at ok
    · cases ok
    · rename_i registrations inserted
      cases ok
      exact .registered ⟨id, provider, nodeID.getD none, nodeID.isNone, none, .pending,
        db.version + 1, now, 0⟩ nodeID actor rfl rfl rfl rfl rfl rfl rfl inserted
  | prepare id provider accountID =>
    rcases transitionEgressRegistration_ok ok with rfl | ⟨r, rfl, rfl, change⟩
    · exact .same (Int.le_refl _) rfl rfl
    · exact change
  | commit id provider accountID expected =>
    rcases transitionEgressRegistration_ok ok with rfl | ⟨r, rfl, rfl, change⟩
    · exact .same (Int.le_refl _) rfl rfl
    · exact change
  | ensure accountID provider =>
    have frame := ensureAccount_ok ok
    exact .same (by rw [frame]) (by rw [frame]) (by rw [frame])

/-! ## Registrations move forward -/

inductive Phase.Next : Phase → Phase → Prop
  | prepare : Next .pending .prepared
  | commit : Next .prepared .committed

/-- A registration after a write. Only a deleted node is taken out of one that is
committed. -/
structure EgressRegistration.Follows (r r' : EgressRegistration) : Prop where
  provider : r'.provider = r.provider
  preserve : r'.preserve = r.preserve
  revision : r'.revision = r.revision
  state : r'.state = r.state ∨ Phase.Next r.state r'.state
  account : ∀ accountID, r.accountID = some accountID → r'.accountID = some accountID
  node : r'.nodeID = r.nodeID ∨ r.state = .committed
  baseline : r.state ≠ .pending → r'.baselineBindingRevision = r.baselineBindingRevision

theorem EgressRegistration.Follows.refl (r : EgressRegistration) : r.Follows r :=
  ⟨rfl, rfl, rfl, .inl rfl, fun _ same => same, .inl rfl, fun _ => rfl⟩

theorem EgressRegistration.follows_advance {state : Phase} {baseline : Int}
    (account : ∀ other ∈ r.accountID, other = accountID) (next : Phase.Next r.state state)
    (kept : r.state ≠ .pending → baseline = r.baselineBindingRevision) :
    r.Follows (r.advance accountID state baseline) where
  provider := rfl
  preserve := rfl
  revision := rfl
  state := .inr next
  account := fun other given => by rw [EgressRegistration.advance, account other given]
  node := .inl rfl
  baseline := kept

section Changes

variable {db db' : Db} {write : Write}

theorem Change.follows (change : Change db write db') (found : db.registrations.find? id = some r) :
    ∃ r', db'.registrations.find? id = some r' ∧ r.Follows r' := by
  have advanced : ∀ {s : EgressRegistration} {accountID : AccountID} {state : Phase}
      {baseline : Int}, RegistrationSet db db' s (s.advance accountID state baseline) →
      (∀ other ∈ s.accountID, other = accountID) → Phase.Next s.state state →
      (s.state ≠ .pending → baseline = s.baselineBindingRevision) →
      ∃ r', db'.registrations.find? id = some r' ∧ r.Follows r' := by
    intro s accountID state baseline set account next kept
    obtain ⟨stored, -, rest⟩ := set
    rw [rest]
    by_cases own : id = s.id
    · subst own
      cases stored.symm.trans found
      exact ⟨_, if_pos rfl, EgressRegistration.follows_advance account next kept⟩
    · exact ⟨r, by rw [if_neg own, found], .refl r⟩
  cases change with
  | same version bindings registrations => exact ⟨r, by rw [registrations, found], .refl r⟩
  | released node actor now version bindings registrations =>
    rw [registrations, Table.find?_update, found, Option.map_some]
    refine ⟨_, rfl, ?_⟩
    split
    · rename_i released
      simp only [decide_eq_true_eq] at released
      exact ⟨rfl, rfl, rfl, .inl rfl, fun _ same => same, .inr released.2, fun _ => rfl⟩
    · exact .refl r
  | bound provider b actor version revision bindings registrations =>
    exact ⟨r, by rw [registrations, found], .refl r⟩
  | registered s nodeID actor version revision state account node preserve bindings inserted =>
    refine ⟨r, ?_, .refl r⟩
    rw [Table.find?_insert? inserted, if_neg, found]
    intro same
    cases ((Table.insert?_eq_some.mp inserted).1.symm.trans (same ▸ found))
  | prepared s accountID version state account bindings older registrations =>
    exact advanced registrations account (state ▸ .prepare) fun other => absurd state other
  | committed s accountID expected version state account registrations bindings =>
    exact advanced registrations account (state ▸ .commit) fun _ => rfl

theorem Change.origin (change : Change db write db')
    (found' : db'.registrations.find? id = some r') :
    (∃ r, db.registrations.find? id = some r ∧ r.Follows r') ∨
      (db.registrations.find? id = none ∧ r'.state = .pending ∧ r'.accountID = none ∧
        r'.revision = db.version + 1 ∧ db'.version = db.version + 1 ∧
        db'.bindings = db.bindings ∧ ∃ nodeID actor,
          write = .register id r'.provider nodeID actor r'.createdAt ∧
            r'.nodeID = nodeID.getD none ∧ r'.preserve = nodeID.isNone) := by
  cases found : db.registrations.find? id with
  | some r =>
    obtain ⟨other, same, follows⟩ := change.follows found
    cases found'.symm.trans same
    exact .inl ⟨r, rfl, follows⟩
  | none =>
    right
    have unset : ∀ {s s' : EgressRegistration}, RegistrationSet db db' s s' → False := by
      rintro s s' ⟨stored, -, rest⟩
      rw [rest] at found'
      split at found'
      · rename_i own
        cases (own ▸ found).symm.trans stored
      · cases found.symm.trans found'
    cases change with
    | same version bindings registrations =>
      rw [registrations, found] at found'
      cases found'
    | released node actor now version bindings registrations =>
      rw [registrations, Table.find?_update, found] at found'
      cases found'
    | bound provider b actor version revision bindings registrations =>
      rw [registrations, found] at found'
      cases found'
    | registered s nodeID actor version revision state account node preserve bindings inserted =>
      rw [Table.find?_insert? inserted] at found'
      split at found'
      · rename_i own
        cases found'
        subst own
        exact ⟨rfl, state, account, revision, version, bindings, nodeID, actor, rfl, node, preserve⟩
      · cases found.symm.trans found'
    | prepared s accountID version state account bindings older registrations =>
      exact (unset registrations).elim
    | committed s accountID expected version state account registrations bindings =>
      exact (unset registrations).elim

/-! ## Revisions order all changes -/

/-- Revisions are versions. No binding has the revision of a registration that is not
committed, and a prepared one lies above the binding it was prepared for. -/
structure Ordered (db : Db) : Prop where
  version : 1 ≤ db.version
  binding : ∀ accountID b, db.bindings.find? accountID = some b →
    1 ≤ b.revision ∧ b.revision ≤ db.version
  registration : ∀ id r, db.registrations.find? id = some r →
    1 ≤ r.revision ∧ r.revision ≤ db.version
  distinct : ∀ id id' r r', db.registrations.find? id = some r →
    db.registrations.find? id' = some r' → r.revision = r'.revision → id = id'
  apart : ∀ accountID id b r, db.bindings.find? accountID = some b →
    db.registrations.find? id = some r → r.state ≠ .committed → b.revision ≠ r.revision
  prepared : ∀ id r, db.registrations.find? id = some r → r.state = .prepared →
    r.preserve = false → r.baselineBindingRevision < r.revision

theorem ordered_empty : Ordered Db.empty := by
  constructor
  · decide
  all_goals
    intros
    simp_all [Db.empty]

theorem Ordered.currentBindingRevision_lt (ordered : Ordered db)
    (found : db.registrations.find? id = some r) (open' : r.state ≠ .committed)
    (older : currentBindingRevision db accountID ≤ r.revision) :
    currentBindingRevision db accountID < r.revision := by
  unfold currentBindingRevision at older ⊢
  cases bound : db.bindings.find? accountID with
  | none =>
    have positive := (ordered.registration id r found).1
    simp only [Option.elim_none]
    omega
  | some b =>
    have different := ordered.apart accountID id b r bound found open'
    rw [bound] at older
    simp only [Option.elim_some] at older ⊢
    omega

theorem Ordered.binding_newer (ordered : Ordered db) (change : Change db write db')
    (accountID : AccountID) :
    db'.bindings.find? accountID = db.bindings.find? accountID ∨
      currentBindingRevision db accountID < currentBindingRevision db' accountID := by
  have below : currentBindingRevision db accountID ≤ db.version := by
    unfold currentBindingRevision
    cases bound : db.bindings.find? accountID with
    | none =>
      have positive := ordered.version
      simp only [Option.elim_none]
      omega
    | some b => exact (ordered.binding accountID b bound).2
  have set : ∀ {b : BindingRow}, BindingSet db db' b →
      (accountID = b.accountID → currentBindingRevision db accountID < b.revision) →
      db'.bindings.find? accountID = db.bindings.find? accountID ∨
        currentBindingRevision db accountID < currentBindingRevision db' accountID := by
    intro b bindings newer
    by_cases own : accountID = b.accountID
    · right
      have after : currentBindingRevision db' accountID = b.revision := by
        rw [currentBindingRevision, bindings, if_pos own]
        rfl
      rw [after]
      exact newer own
    · exact .inl (by rw [bindings, if_neg own])
  cases change with
  | same version bindings registrations => exact .inl (by rw [bindings])
  | released node actor now version bindings registrations => exact .inl (by rw [bindings])
  | bound provider b actor version revision bindings registrations =>
    exact set bindings fun _ => by omega
  | registered s nodeID actor version revision state account node preserve bindings inserted =>
    exact .inl (by rw [bindings])
  | prepared s other version state account bindings older registrations =>
    exact .inl (by rw [bindings])
  | committed s other expected version state account registrations bindings =>
    rcases bindings with ⟨-, same⟩ | ⟨replaces, baseline, -, bindings⟩
    · exact .inl (by rw [same])
    · refine set bindings fun own => ?_
      dsimp only at own
      subst own
      rw [← baseline]
      exact ordered.prepared s.id s registrations.1 state replaces

theorem Change.version_le (change : Change db write db') : db.version ≤ db'.version := by
  cases change <;> omega

/-- Every binding after a write is one from before, an administrator's or a registration's. -/
theorem Change.binding_origin (change : Change db write db') {b : BindingRow}
    (bound : db'.bindings.find? accountID = some b) :
    db.bindings.find? accountID = some b ∨
      (b.revision = db.version + 1 ∧ db'.version = db.version + 1 ∧
        db'.registrations = db.registrations) ∨
      ∃ id r r', db.registrations.find? id = some r ∧ db'.registrations.find? id = some r' ∧
        r'.state = .committed ∧ b.revision = r.revision := by
  cases change with
  | same version bindings registrations => exact .inl (bindings ▸ bound)
  | released node actor now version bindings registrations => exact .inl (bindings ▸ bound)
  | bound provider row actor version revision bindings registrations =>
    rw [bindings] at bound
    split at bound
    · cases bound
      exact .inr (.inl ⟨revision, version, registrations⟩)
    · exact .inl bound
  | registered s nodeID actor version revision state account node preserve bindings inserted =>
    exact .inl (bindings ▸ bound)
  | prepared s other version state account bindings older registrations =>
    exact .inl (bindings ▸ bound)
  | committed s other expected version state account registrations bindings =>
    rcases bindings with ⟨-, same⟩ | ⟨-, -, -, bindings⟩
    · exact .inl (same ▸ bound)
    · rw [bindings] at bound
      split at bound
      · cases bound
        refine .inr (.inr ⟨s.id, s, s.advance other .committed s.baselineBindingRevision,
          registrations.1, ?_, rfl, rfl⟩)
        rw [registrations.2.2, if_pos rfl]
      · exact .inl bound

theorem Change.moves (change : Change db write db') (found : db.registrations.find? id = some r)
    (found' : db'.registrations.find? id = some r') (uncommitted : r.state ≠ .committed) :
    r' = r ∨
      (∃ accountID, r.state = .pending ∧ db'.bindings = db.bindings ∧
        r' = r.advance accountID .prepared (currentBindingRevision db accountID) ∧
        (r.preserve = false → currentBindingRevision db accountID ≤ r.revision)) ∨
      ∃ accountID, r.state = .prepared ∧
        r' = r.advance accountID .committed r.baselineBindingRevision ∧
        (r.preserve = true ∧ db'.bindings = db.bindings ∨
          r.preserve = false ∧ r.baselineBindingRevision = currentBindingRevision db accountID ∧
            (∀ node ∈ r.nodeID, (db'.servers.find? node).isSome = true) ∧
            BindingSet db db' ⟨accountID, r.nodeID, r.revision⟩) := by
  have stays : db'.registrations.find? id = some r → r' = r := by
    intro kept
    cases kept.symm.trans found'
    rfl
  cases change with
  | same version bindings registrations => exact .inl (stays (registrations ▸ found))
  | released node actor now version bindings registrations =>
    refine .inl (stays ?_)
    rw [registrations, Table.find?_update, found]
    simp [uncommitted]
  | bound provider row actor version revision bindings registrations =>
    exact .inl (stays (registrations ▸ found))
  | registered s nodeID actor version revision state account node preserve bindings inserted =>
    refine .inl (stays ?_)
    rw [Table.find?_insert? inserted, if_neg, found]
    intro same
    cases (Table.insert?_eq_some.mp inserted).1.symm.trans (same ▸ found)
  | prepared s accountID version state account bindings older registrations =>
    obtain ⟨stored, -, rest⟩ := registrations
    by_cases own : id = s.id
    · subst own
      cases stored.symm.trans found
      rw [rest, if_pos rfl] at found'
      cases found'
      exact .inr (.inl ⟨accountID, state, bindings, rfl, older⟩)
    · exact .inl (stays (by rw [rest, if_neg own, found]))
  | committed s accountID expected version state account registrations bindings =>
    obtain ⟨stored, -, rest⟩ := registrations
    by_cases own : id = s.id
    · subst own
      cases stored.symm.trans found
      rw [rest, if_pos rfl] at found'
      cases found'
      exact .inr (.inr ⟨accountID, state, rfl, bindings⟩)
    · exact .inl (stays (by rw [rest, if_neg own, found]))

theorem Change.of_prepared (change : Change db write db')
    (found : db.registrations.find? id = some r) (found' : db'.registrations.find? id = some r')
    (pending : r.state = .pending) (prepared : r'.state = .prepared) :
    db'.bindings = db.bindings ∧ ∃ accountID, r'.accountID = some accountID ∧
      r'.baselineBindingRevision = currentBindingRevision db accountID ∧
      (r.preserve = false → currentBindingRevision db accountID ≤ r.revision) := by
  have uncommitted : r.state ≠ .committed := by
    rw [pending]
    decide
  rcases change.moves found found' uncommitted with
    rfl | ⟨accountID, -, bindings, rfl, older⟩ | ⟨accountID, -, rfl, -⟩
  · cases pending.symm.trans prepared
  · exact ⟨bindings, accountID, rfl, rfl, older⟩
  · cases prepared

theorem Change.of_committed (change : Change db write db')
    (found : db.registrations.find? id = some r) (found' : db'.registrations.find? id = some r')
    (uncommitted : r.state ≠ .committed) (committed : r'.state = .committed) :
    r.state = .prepared ∧ ∃ accountID, r'.accountID = some accountID ∧
      (r.preserve = true ∧ db'.bindings = db.bindings ∨
        r.preserve = false ∧ r.baselineBindingRevision = currentBindingRevision db accountID ∧
          (∀ node ∈ r.nodeID, (db'.servers.find? node).isSome = true) ∧
          db'.bindings.find? accountID = some ⟨accountID, r.nodeID, r.revision⟩) := by
  rcases change.moves found found' uncommitted with
    rfl | ⟨accountID, -, -, rfl, -⟩ | ⟨accountID, prepared, rfl, bindings⟩
  · exact absurd committed uncommitted
  · cases committed
  · refine ⟨prepared, accountID, rfl, bindings.imp_right ?_⟩
    rintro ⟨replaces, baseline, nodes, set⟩
    exact ⟨replaces, baseline, nodes, by rw [set, if_pos rfl]⟩

theorem EgressRegistration.Follows.uncommitted (follows : r.Follows r')
    (open' : r'.state ≠ .committed) : r.state ≠ .committed := by
  intro committed
  rcases follows.state with same | next
  · exact open' (same.trans committed)
  · rw [committed] at next
    cases next

theorem EgressRegistration.Follows.notPending (follows : r.Follows r')
    (begun : r.state ≠ .pending) : r'.state ≠ .pending := by
  rcases follows.state with same | next
  · rwa [same]
  · intro pending
    rw [pending] at next
    generalize r.state = phase at next
    cases next

theorem Ordered.change (ordered : Ordered db) (change : Change db write db') : Ordered db' := by
  have grows := change.version_le
  have registration : ∀ id r, db'.registrations.find? id = some r →
      1 ≤ r.revision ∧ r.revision ≤ db'.version := by
    intro id r' found'
    rcases change.origin found' with ⟨r, found, follows⟩ | ⟨-, -, -, revision, version, -⟩
    · have before := ordered.registration id r found
      rw [follows.revision]
      omega
    · have positive := ordered.version
      omega
  refine ⟨ordered.version.trans grows, ?_, registration, ?_, ?_, ?_⟩
  · intro accountID b bound
    rcases change.binding_origin bound with old | ⟨revision, version, -⟩ | ⟨id, r, -, found, -, -, same⟩
    · have before := ordered.binding accountID b old
      omega
    · have positive := ordered.version
      omega
    · have before := ordered.registration id r found
      omega
  · intro id other r' s' found' stored' same
    rcases change.origin found' with ⟨r, found, follows⟩ | ⟨-, -, -, revision, -, -, _, _, created, -⟩ <;>
      rcases change.origin stored' with ⟨s, stored, follows'⟩ | ⟨-, -, -, revision', -, -, _, _, created', -⟩
    · rw [follows.revision, follows'.revision] at same
      exact ordered.distinct id other r s found stored same
    · have below := (ordered.registration id r found).2
      rw [follows.revision] at same
      omega
    · have below := (ordered.registration other s stored).2
      rw [follows'.revision] at same
      omega
    · -- One write creates one registration.
      rw [created] at created'
      injection created'
  · intro accountID id b r' bound found' open'
    rcases change.origin found' with ⟨r, found, follows⟩ | ⟨-, -, -, revision, -, bindings, -⟩
    · have uncommitted := follows.uncommitted open'
      rw [follows.revision]
      rcases change.binding_origin bound with
        old | ⟨newest, -, -⟩ | ⟨other, s, s', stored, stored', committed, same⟩
      · exact ordered.apart accountID id b r old found uncommitted
      · have below := (ordered.registration id r found).2
        omega
      · -- The registration that set the binding is committed, so it is another one.
        rw [same]
        intro equal
        have ids := ordered.distinct other id s r stored found equal
        subst ids
        cases stored'.symm.trans found'
        exact open' committed
    · have below := (ordered.binding accountID b (bindings ▸ bound)).2
      omega
  · intro id r' found' prepared replaces
    rcases change.origin found' with ⟨r, found, follows⟩ | ⟨-, pending, -⟩
    · have kind : r.preserve = false := follows.preserve.symm.trans replaces
      rw [follows.revision]
      by_cases begun : r.state = .pending
      · obtain ⟨-, accountID, -, baseline, older⟩ :=
          change.of_prepared found found' begun prepared
        rw [baseline]
        exact ordered.currentBindingRevision_lt found (by rw [begun]; decide) (older kind)
      · have before : r.state = .prepared := by
          rcases follows.state with same | next
          · exact same.symm.trans prepared
          · rw [prepared] at next
            generalize r.state = phase at next begun
            cases next
            exact absurd rfl begun
        rw [follows.baseline begun]
        exact ordered.prepared id r found before kind
    · cases pending.symm.trans prepared

end Changes

/-! ## Runs -/

structure EgressRegistration.Since (r r' : EgressRegistration) : Prop where
  preserve : r'.preserve = r.preserve
  revision : r'.revision = r.revision
  account : ∀ accountID, r.accountID = some accountID → r'.accountID = some accountID
  node : r'.nodeID = r.nodeID ∨ r'.state = .committed
  baseline : r.state ≠ .pending →
    r'.state ≠ .pending ∧ r'.baselineBindingRevision = r.baselineBindingRevision
  committed : r.state = .committed → r'.state = .committed

theorem EgressRegistration.Since.refl (r : EgressRegistration) : r.Since r :=
  ⟨rfl, rfl, fun _ same => same, .inl rfl, fun begun => ⟨begun, rfl⟩, fun done => done⟩

theorem EgressRegistration.Since.trans {s t : EgressRegistration} (first : r.Since s)
    (rest : s.Since t) : r.Since t where
  preserve := rest.preserve.trans first.preserve
  revision := rest.revision.trans first.revision
  account := fun accountID given => rest.account accountID (first.account accountID given)
  node := by
    rcases first.node with same | done
    · exact rest.node.imp_left fun same' => same'.trans same
    · exact .inr (rest.committed done)
  baseline := fun begun => by
    obtain ⟨begun', same⟩ := first.baseline begun
    obtain ⟨begun'', same'⟩ := rest.baseline begun'
    exact ⟨begun'', same'.trans same⟩
  committed := fun done => rest.committed (first.committed done)

theorem EgressRegistration.Follows.since (follows : r.Follows r') : r.Since r' := by
  have committed : r.state = .committed → r'.state = .committed := by
    intro done
    by_contra open'
    exact follows.uncommitted open' done
  exact ⟨follows.preserve, follows.revision, follows.account, follows.node.imp_right committed,
    fun begun => ⟨follows.notPending begun, follows.baseline begun⟩, committed⟩

/-- The tables at a later time: bindings only get newer. -/
structure Newer (db db' : Db) : Prop where
  binding : ∀ accountID, db'.bindings.find? accountID = db.bindings.find? accountID ∨
    currentBindingRevision db accountID < currentBindingRevision db' accountID
  registration : ∀ id r, db.registrations.find? id = some r →
    ∃ r', db'.registrations.find? id = some r' ∧ r.Since r'

theorem currentBindingRevision_congr
    (same : db'.bindings.find? accountID = db.bindings.find? accountID) :
    currentBindingRevision db' accountID = currentBindingRevision db accountID := by
  rw [currentBindingRevision, same, currentBindingRevision]

theorem Newer.refl (db : Db) : Newer db db :=
  ⟨fun _ => .inl rfl, fun _ r found => ⟨r, found, .refl r⟩⟩

theorem Newer.trans {a b c : Db} (first : Newer a b) (rest : Newer b c) : Newer a c := by
  constructor
  · intro accountID
    rcases first.binding accountID with same | newer <;>
      rcases rest.binding accountID with same' | newer'
    · exact .inl (same'.trans same)
    · exact .inr (currentBindingRevision_congr same ▸ newer')
    · exact .inr ((currentBindingRevision_congr same').symm ▸ newer)
    · exact .inr (newer.trans newer')
  · intro id r found
    obtain ⟨s, stored, since⟩ := first.registration id r found
    obtain ⟨t, stored', since'⟩ := rest.registration id s stored
    exact ⟨t, stored', since.trans since'⟩

theorem Ordered.newer (ordered : Ordered db) (change : Change db write db') : Newer db db' := by
  refine ⟨ordered.binding_newer change, ?_⟩
  intro id r found
  obtain ⟨r', found', follows⟩ := change.follows found
  exact ⟨r', found', follows.since⟩

def Write.Transitions (id : UUID) : Write → Prop
  | .prepare other _ _ => other = id
  | .commit other _ _ _ => other = id
  | _ => False

theorem transition_replays (found : db.registrations.find? id = some r)
    (committed : r.state = .committed) (provider : UpstreamProvider) (accountID : AccountID)
    (commit : Bool) (expected : Int) :
    Transaction.commit (fun db =>
      transitionEgressRegistration db id provider accountID commit expected) db = db := by
  apply Transaction.commit_preserves (P := fun db' => db' = db) rfl
  intro db' ok
  unfold transitionEgressRegistration at ok
  rw [found] at ok
  obtain ⟨-, ok⟩ := refuse_eq_ok.mp ok
  rw [if_pos (.inl committed)] at ok
  cases ok
  rfl

theorem Change.preserving (change : Change db write db')
    (found : db.registrations.find? id = some r) (preserve : r.preserve = true)
    (transitions : write.Transitions id) : db'.bindings = db.bindings := by
  cases change with
  | same version bindings registrations => exact bindings
  | released node actor now version bindings registrations => exact bindings
  | bound provider row actor version revision bindings registrations => exact transitions.elim
  | registered s nodeID actor version revision state account node preserve bindings inserted =>
    exact bindings
  | prepared s accountID version state account bindings older registrations => exact bindings
  | committed s accountID expected version state account registrations bindings =>
    have own : s.id = id := transitions
    subst own
    cases registrations.1.symm.trans found
    rcases bindings with ⟨-, same⟩ | ⟨replaces, -⟩
    · exact same
    · cases preserve.symm.trans replaces

section Runs

variable (parseAddr : Text → Option Bool)

/-- A write that fails leaves the tables as they were. -/
def tablesStep (db : Db) (write : Write) : Db :=
  Transaction.commit (fun db => write.apply parseAddr db) db

def tablesRun (db : Db) (writes : List Write) : Db :=
  Transaction.run (tablesStep parseAddr) db writes

theorem tablesStep_change (db : Db) (write : Write) :
    Change db write (tablesStep parseAddr db write) := by
  unfold tablesStep Transaction.commit
  split
  · exact Write.change ‹_›
  · exact .same (Int.le_refl _) rfl rfl

theorem tablesStep_replays
    (found : db.registrations.find? id = some r) (committed : r.state = .committed)
    (transitions : write.Transitions id) : tablesStep parseAddr db write = db := by
  cases write with
  | prepare other provider accountID =>
    have own : other = id := transitions
    subst own
    exact transition_replays found committed provider accountID false 0
  | commit other provider accountID expected =>
    have own : other = id := transitions
    subst own
    exact transition_replays found committed provider accountID true expected
  | save | delete | bind | register | ensure => exact transitions.elim

theorem tablesRun_ordered (ordered : Ordered db) (writes : List Write) :
    Ordered (tablesRun parseAddr db writes) :=
  Transaction.run_preserves ordered
    (fun db write before => before.change (tablesStep_change parseAddr db write)) writes

theorem tablesRun_newer (ordered : Ordered db) (writes : List Write) :
    Newer db (tablesRun parseAddr db writes) := by
  let Kept (db' : Db) : Prop := Ordered db' ∧ Newer db db'
  have kept : Kept (tablesRun parseAddr db writes) := by
    apply Transaction.run_preserves (P := Kept) ⟨ordered, .refl db⟩
    rintro db' write ⟨ordered', newer⟩
    have change := tablesStep_change parseAddr db' write
    exact ⟨ordered'.change change, newer.trans (ordered'.newer change)⟩
  exact kept.2

/-- What one write does to registrations and to the bindings of accounts. -/
structure RegistrationStep (db : Db) (write : Write) (db' : Db) : Prop where
  moves : ∀ id r, db.registrations.find? id = some r →
    ∃ r', db'.registrations.find? id = some r' ∧ r.Follows r'
  created : ∀ id r', db.registrations.find? id = none → db'.registrations.find? id = some r' →
    r'.state = .pending ∧ r'.accountID = none ∧ ∃ nodeID actor,
      write = .register id r'.provider nodeID actor r'.createdAt ∧
        r'.nodeID = nodeID.getD none ∧ r'.preserve = nodeID.isNone
  replayed : ∀ id r, db.registrations.find? id = some r → r.state = .committed →
    write.Transitions id → db' = db
  preserving : ∀ id r, db.registrations.find? id = some r → r.preserve = true →
    write.Transitions id → db'.bindings = db.bindings
  newer : ∀ accountID, db'.bindings.find? accountID = db.bindings.find? accountID ∨
    currentBindingRevision db accountID < currentBindingRevision db' accountID

theorem tablesStep_registrations (ordered : Ordered db) (write : Write) :
    RegistrationStep db write (tablesStep parseAddr db write) := by
  have change := tablesStep_change parseAddr db write
  refine ⟨fun _ _ => change.follows, ?_, ?_, ?_, ordered.binding_newer change⟩
  · intro id r' missing found'
    rcases change.origin found' with ⟨r, found, -⟩ | ⟨-, pending, account, -, -, -, created⟩
    · cases missing.symm.trans found
    · exact ⟨pending, account, created⟩
  · exact fun _ _ found committed => tablesStep_replays parseAddr found committed
  · exact fun _ _ found => change.preserving found

/-- The binding that a commit replaces is the one its registration was prepared for, and
the new one names the node that the registration was created with. -/
structure CommittedAsPrepared (start db db' : Db) (p r' : EgressRegistration) : Prop where
  bound : ∃ accountID, r'.accountID = some accountID ∧
    db.bindings.find? accountID = start.bindings.find? accountID ∧
    currentBindingRevision db accountID < p.revision ∧
    db'.bindings.find? accountID = some ⟨accountID, p.nodeID, p.revision⟩
  node : ∀ node ∈ p.nodeID, (db'.servers.find? node).isSome = true

theorem committedAsPrepared {start : Db} (ordered : Ordered start) {prepare : Write}
    {later : List Write} {p p' : EgressRegistration}
    (pending : start.registrations.find? id = some p) (unprepared : p.state = .pending)
    (prepared : (tablesStep parseAddr start prepare).registrations.find? id = some p')
    (isPrepared : p'.state = .prepared)
    (found : (tablesRun parseAddr (tablesStep parseAddr start prepare) later).registrations.find?
      id = some r) (uncommitted : r.state ≠ .committed)
    (found' : (tablesStep parseAddr (tablesRun parseAddr (tablesStep parseAddr start prepare)
      later) write).registrations.find? id = some r') (committed : r'.state = .committed)
    (replaces : p.preserve = false) :
    CommittedAsPrepared start (tablesRun parseAddr (tablesStep parseAddr start prepare) later)
      (tablesStep parseAddr (tablesRun parseAddr (tablesStep parseAddr start prepare) later) write)
      p r' := by
  have first := tablesStep_change parseAddr start prepare
  have orderedFirst := ordered.change first
  obtain ⟨unchanged, accountID, account, baseline, -⟩ :=
    first.of_prepared pending prepared unprepared isPrepared
  -- From the prepare to the commit the registration keeps what it was prepared with.
  have newer := tablesRun_newer parseAddr orderedFirst later
  obtain ⟨p'', same, begins⟩ := (ordered.newer first).registration id p pending
  cases same.symm.trans prepared
  obtain ⟨r'', same, since⟩ := newer.registration id p' prepared
  cases same.symm.trans found
  have whole := begins.trans since
  have last := tablesStep_change parseAddr
    (tablesRun parseAddr (tablesStep parseAddr start prepare) later) write
  obtain ⟨isPrepared', committedTo, account', outcome⟩ :=
    last.of_committed found found' uncommitted committed
  obtain ⟨next', same, follows⟩ := last.follows found
  cases same.symm.trans found'
  have sameAccount : committedTo = accountID := by
    have kept := follows.account accountID (since.account accountID account)
    exact Option.some.inj (account'.symm.trans kept)
  subst sameAccount
  rcases outcome with ⟨preserves, -⟩ | ⟨-, current, nodes, bound⟩
  · rw [whole.preserve, replaces] at preserves
    cases preserves
  have node : r.nodeID = p.nodeID := whole.node.resolve_right uncommitted
  have kept : r.baselineBindingRevision = currentBindingRevision start committedTo := by
    have begun : p'.state ≠ .pending := by
      rw [isPrepared]
      decide
    exact (since.baseline begun).2.trans baseline
  rw [node, whole.revision] at bound
  refine ⟨⟨committedTo, account', ?_, ?_, bound⟩, node ▸ nodes⟩
  · -- A changed binding would have a newer revision than the one recorded.
    rcases newer.binding committedTo with same | changed
    · rw [same, unchanged]
    · have before : currentBindingRevision (tablesStep parseAddr start prepare) committedTo =
          currentBindingRevision start committedTo :=
        currentBindingRevision_congr (by rw [unchanged])
      omega
  · have below := (tablesRun_ordered parseAddr orderedFirst later).prepared id r found isPrepared'
      (whole.preserve.trans replaces)
    rwa [whole.revision, current] at below

/-- Registrations and bindings in every run of the tables' writes, from any callers. -/
theorem tablesRun_registrations (before : List Write) (write : Write) :
    RegistrationStep (tablesRun parseAddr .empty before) write
        (tablesStep parseAddr (tablesRun parseAddr .empty before) write) ∧
      ∀ first prepare later id p p' r r', before = first ++ prepare :: later →
        (tablesRun parseAddr .empty first).registrations.find? id = some p → p.state = .pending →
        (tablesRun parseAddr .empty (first ++ [prepare])).registrations.find? id = some p' →
        p'.state = .prepared →
        (tablesRun parseAddr .empty before).registrations.find? id = some r →
        r.state ≠ .committed →
        (tablesStep parseAddr (tablesRun parseAddr .empty before) write).registrations.find? id =
          some r' → r'.state = .committed → p.preserve = false →
        CommittedAsPrepared (tablesRun parseAddr .empty first)
          (tablesRun parseAddr .empty before)
          (tablesStep parseAddr (tablesRun parseAddr .empty before) write) p r' := by
  constructor
  · exact tablesStep_registrations parseAddr (tablesRun_ordered parseAddr ordered_empty before) write
  · intro first prepare later id p p' r r' split pending unprepared prepared isPrepared found
      uncommitted found' committed replaces
    have whole : tablesRun parseAddr .empty before = tablesRun parseAddr
        (tablesStep parseAddr (tablesRun parseAddr .empty first) prepare) later := by
      rw [split, tablesRun, Transaction.run, List.foldl_append]
      rfl
    have one : tablesRun parseAddr .empty (first ++ [prepare]) =
        tablesStep parseAddr (tablesRun parseAddr .empty first) prepare := by
      rw [tablesRun, Transaction.run, List.foldl_append]
      rfl
    rw [whole] at found found' ⊢
    rw [one] at prepared
    exact committedAsPrepared parseAddr (tablesRun_ordered parseAddr ordered_empty first) pending
      unprepared prepared isPrepared found uncommitted found' committed replaces

end Runs

def exitUUID : UUID := ⟨"00000000-0000-4000-8000-00000000000a".toList, by decide +kernel⟩

def intentUUID : UUID := ⟨"00000000-0000-4000-8000-00000000000b".toList, by decide +kernel⟩

def joiningAccountID : AccountID := ⟨List.replicate 16 'a', rfl, by
  intro c member
  rw [List.eq_of_mem_replicate member]
  decide⟩

def exitServer : EgressServer where
  id := exitUUID
  name := ['n']
  server := "a.b".toList
  port := 8388
  cipher := "aes-128-gcm".toList
  passwordCiphertext := List.replicate 29 1
  udp := false
  revision := 0

def intent : EgressRegistration :=
  ⟨intentUUID, .codex, some exitUUID, false, none, .pending, 3, 0, 0⟩

/-- A registration with a node, from its creation to its commit. -/
theorem tablesRun_registrations_intent :
    CommittedAsPrepared
      (tablesRun (fun _ => none) .empty [.save exitServer true ['u'],
        .register intentUUID .codex (some (some exitUUID)) ['u'] 0])
      (tablesRun (fun _ => none) .empty [.save exitServer true ['u'],
        .register intentUUID .codex (some (some exitUUID)) ['u'] 0,
        .prepare intentUUID .codex joiningAccountID])
      (tablesStep (fun _ => none) (tablesRun (fun _ => none) .empty [.save exitServer true ['u'],
        .register intentUUID .codex (some (some exitUUID)) ['u'] 0,
        .prepare intentUUID .codex joiningAccountID])
        (.commit intentUUID .codex joiningAccountID 2)) intent
      (intent.advance joiningAccountID .committed 0) :=
  (tablesRun_registrations (fun _ => none) _ _).2
    [.save exitServer true ['u'], .register intentUUID .codex (some (some exitUUID)) ['u'] 0]
    (.prepare intentUUID .codex joiningAccountID) [] intentUUID intent
    (intent.advance joiningAccountID .prepared 0) (intent.advance joiningAccountID .prepared 0)
    (intent.advance joiningAccountID .committed 0) rfl (by decide +kernel) (by decide)
    (by decide +kernel) (by decide) (by decide +kernel) (by decide) (by decide +kernel) (by decide)
    (by decide)

end Egress
