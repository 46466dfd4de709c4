import CodexGateway.Store.GroupAdmin

/-! # Invitations

Joining a group through an invitation, and the review of applications. A membership that
comes from an invitation is written like one that an owner adds.
-/

namespace Store

abbrev InvitationID := Nat

abbrev ApplicationID := Nat

/-- Only an invitation to a group names one. -/
inductive InvitationKind where
  | ownerBootstrap
  | recovery
  | member
  | group (id : GroupID)
  deriving Repr, DecidableEq

structure Invitation where
  id : InvitationID
  kind : InvitationKind
  tokenHash : Text
  usedAt : Option Time
  revokedAt : Option Time
  expiresAt : Time
  maxUses : Nat
  requiresApproval : Bool
  deriving Repr, DecidableEq

structure InvitationApplication where
  id : ApplicationID
  invitationID : InvitationID
  userID : Option UserID
  username : Text
  approved : Bool
  reviewedAt : Option Time
  reviewedBy : Option UserID
  deriving Repr, DecidableEq

/-- The tables of invitations next to the rest of the store. `owners` are the users whose
role is not that of a member. -/
structure InvitationDb where
  store : Db
  owners : List UserID
  invitations : Table Invitation.id
  applications : Table InvitationApplication.id

def invitationUnavailable : StoreError := .other "invitation unavailable"

/-! ## Locks and checks -/

/-- `lockInvitationUsersTx` for one user that must exist. -/
def lockInvitationUser (db : Db) (userID : UserID) : Except StoreError User :=
  if (db.accounts.find? userID).isNone then .error (.notFound "lock invitation billing account")
  else
    match db.users.find? userID with
    | none => .error (.notFound "lock invitation user")
    | some user => .ok user

def lockActiveInvitationGroup (db : Db) (id : GroupID) : Except StoreError Unit :=
  match db.groups.find? id with
  | none => .error (.notFound "lock invitation group")
  | some group =>
    if group.archivedAt.isSome then .error (.conflict "group is archived") else .ok ()

def invitationCapacity (db : InvitationDb) (invitation : Invitation) (now : Time) :
    Except StoreError Unit :=
  if invitation.usedAt.isSome ∨ invitation.revokedAt.isSome ∨ invitation.expiresAt ≤ now then
    .error invitationUnavailable
  else if (db.applications.rows.filter fun a => a.invitationID = invitation.id).length ≥
      invitation.maxUses then .error invitationUnavailable
  else .ok ()

/-! ## Joining -/

inductive JoinAnswer where
  | application (application : InvitationApplication)
  | alreadyMember
  deriving Repr, DecidableEq

def previousApplication (db : InvitationDb) (invitationID : InvitationID) (userID : UserID) :
    Option InvitationApplication :=
  db.applications.rows.find? fun a => a.invitationID = invitationID ∧ a.userID = some userID

/-- A new application; without a required approval it is approved at once. -/
def insertInvitationApplication (db : InvitationDb) (invitation : Invitation) (user : User)
    (now : Time) (newID : ApplicationID) :
    Except StoreError (InvitationDb × InvitationApplication) :=
  let row : InvitationApplication :=
    ⟨newID, invitation.id, some user.id, user.username, !invitation.requiresApproval,
      if invitation.requiresApproval then none else some now, none⟩
  match db.applications.insert? row with
  | none => .error (.conflict "create invitation application")
  | some applications => .ok ({ db with applications }, row)

/-- The application of a user who is not a member yet. -/
def applyToGroup (db : InvitationDb) (invitation : Invitation) (groupID : GroupID) (user : User)
    (now : Time) (newID : ApplicationID) : Except StoreError (InvitationDb × JoinAnswer) := do
  invitationCapacity db invitation now
  lockActiveInvitationGroup db.store groupID
  let (db, application) ← insertInvitationApplication db invitation user now newID
  return (if invitation.requiresApproval then db
    else { db with store := addMember groupID db.store user.id }, .application application)

def joinGroup (db : InvitationDb) (invitation : Invitation) (groupID : GroupID) (user : User)
    (now : Time) (newID : ApplicationID) : Except StoreError (InvitationDb × JoinAnswer) :=
  match previousApplication db invitation.id user.id with
  | some application => .ok (db, .application application)
  | none =>
    if (db.store.memberships.find? (groupID, user.id)).isSome then .ok (db, .alreadyMember)
    else applyToGroup db invitation groupID user now newID

def tokenInvitation (db : InvitationDb) (hash : Text) : Option Invitation :=
  db.invitations.rows.find? fun invitation => invitation.tokenHash = hash

def joinInvitation (db : InvitationDb) (hash : Text) (userID : UserID) (now : Time)
    (newID : ApplicationID) : Except StoreError (InvitationDb × JoinAnswer) := do
  let user ← lockInvitationUser db.store userID
  if user.status ≠ .active then throw (.conflict "conflict")
  match tokenInvitation db hash with
  | none => throw invitationUnavailable
  | some invitation =>
    match invitation.kind with
    | .group groupID => joinGroup db invitation groupID user now newID
    | _ => throw invitationUnavailable

/-! ## Reviewing -/

inductive Decision where
  | approve
  | reject
  deriving Repr, DecidableEq

structure ReviewParams where
  invitationID : InvitationID
  applicationIDs : List ApplicationID
  decision : Decision
  actorID : Option UserID
  at' : Time
  deriving Repr, DecidableEq

/-- Delete a user who is still waiting for approval, with the empty account. -/
def deletePendingInvitationUser (db : InvitationDb) (user : User) :
    Except StoreError InvitationDb :=
  if user.status ≠ .pending ∨ user.id ∈ db.owners then .error (.conflict "conflict")
  else
    let empty (account : BillingAccount) : Bool := account.userID = user.id ∧
      account.balanceUSD = 0 ∧ account.groupID = none ∧
      db.store.memberships.rows.all fun row => row.userID ≠ user.id
    if db.store.accounts.rows.any empty = false then
      .error (.notFound "delete pending billing account")
    else if (db.store.users.find? user.id).any (fun row => row.status = .pending) = false then
      .error (.notFound "delete pending registration")
    else
      .ok { db with
        store := { db.store with
          modelAccess := db.store.modelAccess.delete fun row => row.userID = user.id
          accounts := db.store.accounts.delete empty
          users := db.store.users.delete fun row => row.id = user.id }
        applications := db.applications.update (fun a => a.userID = some user.id)
          (fun a => { a with userID := none }) (fun _ => rfl) }

/-- What the approval of one application writes. -/
def approveApplication (kind : InvitationKind) (db : Db) (user : User) : Except StoreError Db :=
  match kind with
  | .group groupID =>
    if user.status ≠ .active then .error (.conflict "conflict")
    else .ok (addMember groupID db user.id)
  | _ =>
    if user.status ≠ .pending then .error (.conflict "conflict")
    else .ok { db with
      users := db.users.modify user.id (fun row => { row with status := .active })
        (fun _ => rfl) }

/-- What the rejection of one application writes, once it is deleted. -/
def rejectApplicant (kind : InvitationKind) (db : InvitationDb) (user : User) :
    Except StoreError InvitationDb :=
  if kind = .member then deletePendingInvitationUser db user else .ok db

/-- One application of a review. The user is read before the review changes anything. -/
def reviewApplication (params : ReviewParams) (kind : InvitationKind) (users : UserID → Option User)
    (db : InvitationDb) (a : InvitationApplication) : Except StoreError (InvitationDb × Bool) :=
  if a.approved then
    if params.decision = .reject then .error (.conflict "approved application cannot be rejected")
    else .ok (db, false)
  else
    match a.userID.bind users with
    | none => .error (.conflict "conflict")
    | some user =>
      match params.decision with
      | .reject => do
        let db ← rejectApplicant kind
          { db with applications := db.applications.delete fun row => row.id = a.id } user
        return (db, true)
      | .approve => do
        let store ← approveApplication kind db.store user
        return ({ db with
          store
          applications := db.applications.modify a.id
            (fun row => { row with
              approved := true, reviewedAt := some params.at', reviewedBy := params.actorID })
            (fun _ => rfl) }, true)

/-- The loop over the applications, which counts the changes. -/
def reviewAll (params : ReviewParams) (kind : InvitationKind) (users : UserID → Option User) :
    List InvitationApplication → InvitationDb → Nat → Except StoreError (InvitationDb × Nat)
  | [], db, changed => .ok (db, changed)
  | a :: rest, db, changed => do
    let (db, one) ← reviewApplication params kind users db a
    reviewAll params kind users rest db (if one then changed + 1 else changed)

def checkActor (db : Db) : Option UserID → Except StoreError Unit
  | none => .ok ()
  | some actor =>
    if (db.users.find? actor).any fun user => user.status = .active then .ok ()
    else .error (.conflict "conflict")

/-- A pending approval into a group needs the group to be active. -/
def checkReviewedGroup (db : Db) (params : ReviewParams) (kind : InvitationKind)
    (applications : List InvitationApplication) : Except StoreError Unit :=
  if params.decision = .approve ∧ applications.any (fun a => !a.approved) then
    match kind with
    | .group groupID => lockActiveInvitationGroup db groupID
    | _ => .ok ()
  else .ok ()

def reviewedApplications (db : InvitationDb) (params : ReviewParams) : List InvitationApplication :=
  (db.applications.rows.filter fun a => a.invitationID = params.invitationID ∧
    a.id ∈ params.applicationIDs).insertionSort fun a b => a.id ≤ b.id

def reviewInvitationApplications (db : InvitationDb) (params : ReviewParams) :
    Except StoreError (InvitationDb × Nat) := do
  if params.applicationIDs = [] ∨ params.applicationIDs.length > 100 then throw (.invalid "invalid")
  checkActor db.store params.actorID
  match db.invitations.find? params.invitationID with
  | none => throw (.notFound "lock reviewed invitation")
  | some invitation =>
    if invitation.kind = .ownerBootstrap ∨ invitation.kind = .recovery then throw (.invalid "invalid")
    let applications := reviewedApplications db params
    if params.decision = .approve ∧ applications.length ≠ params.applicationIDs.dedup.length then
      throw (.conflict "application no longer exists")
    checkReviewedGroup db.store params invitation.kind applications
    reviewAll params invitation.kind db.store.users.find? applications db 0

end Store
