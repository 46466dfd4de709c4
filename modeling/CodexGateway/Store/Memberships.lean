import CodexGateway.Store.GroupTimeline
import CodexGateway.Store.Invitations

/-! # Memberships and their mirror

A membership is a row of its own; the account mirrors one of them for older readers, and
the readers of groups fall back to the mirror. The mirror names a membership that exists
as long as a group is not emptied while a user whose account mirrors it is also a member
of another group.
-/

namespace Store

open Except

variable {userID : UserID} {groupID : GroupID} {db db' : Db} {now : Time} {newID : PeriodID}
  {g : GroupSummary} {ids : List UserID} {params : SetGroupMembersParams}

/-! ## Steps -/

/-- Every mirror names a membership. -/
def Mirrored (db : Db) : Prop :=
  ∀ userID account, db.accounts.find? userID = some account → ∀ groupID,
    account.groupID = some groupID → (db.memberships.find? (groupID, userID)).isSome = true

/-- What an operation that does not empty a group does, one membership at a time. -/
inductive MemberStep (adds : GroupID → UserID → Prop) (db db' : Db) : Prop
  | still : db'.memberships = db.memberships → db'.accounts = db.accounts →
      MemberStep adds db db'
  | add (groupID : GroupID) (userID : UserID) : adds groupID userID →
      db'.memberships = (addMember groupID db userID).memberships →
      db'.accounts = (addMember groupID db userID).accounts → MemberStep adds db db'
  | remove (groupID : GroupID) (userID : UserID) :
      db'.memberships = (removeMember groupID db userID).memberships →
      db'.accounts = (removeMember groupID db userID).accounts → MemberStep adds db db'
  | drop (dropped : BillingAccount → Bool) : db'.memberships = db.memberships →
      db'.accounts = db.accounts.delete dropped → MemberStep adds db db'

theorem firstMembership_some {memberships : Table GroupMembership.key}
    (first : firstMembership memberships userID = some groupID) :
    (memberships.find? (groupID, userID)).isSome = true := by
  obtain ⟨row, head, rfl⟩ := Option.map_eq_some_iff.mp first
  have member := (List.perm_insertionSort _ _).mem_iff.mp (List.mem_of_head? head)
  obtain ⟨stored, same⟩ := List.mem_filter.mp member
  have key : (row.groupID, userID) = row.key := by rw [← of_decide_eq_true same]
  rw [key, Table.find?_of_mem stored]
  rfl

theorem mirrored_addMember (mirrored : Mirrored db) (groupID : GroupID) (userID : UserID) :
    Mirrored (addMember groupID db userID) := by
  intro other account found named mirror
  rw [addMember] at found ⊢
  dsimp only at found ⊢
  rw [Table.find?_modify] at found
  split at found
  · rename_i same
    subst same
    obtain ⟨old, stored, rfl⟩ := Option.map_eq_some_iff.mp found
    dsimp only at mirror
    cases before : old.groupID with
    | none =>
      rw [before] at mirror
      cases mirror
      exact Table.isSome_insertIfAbsent_self db.memberships ⟨groupID, other, 100⟩
    | some earlier =>
      rw [before] at mirror
      cases mirror
      exact Table.isSome_insertIfAbsent (mirrored other old stored earlier before)
  · exact Table.isSome_insertIfAbsent (mirrored other account found named mirror)

theorem find?_removeMember (db : Db) (groupID other : GroupID) (userID otherUser : UserID) :
    (removeMember groupID db userID).memberships.find? (other, otherUser) =
      if other = groupID ∧ otherUser = userID then none
      else db.memberships.find? (other, otherUser) := by
  rw [removeMember]
  dsimp only
  rw [Table.find?_delete]
  cases found : db.memberships.find? (other, otherUser) with
  | none => simp
  | some row =>
    have key := Table.key_of_find? found
    obtain ⟨rfl, rfl⟩ := Prod.mk.inj key
    rw [Option.filter_some]
    by_cases same : row.groupID = groupID ∧ row.userID = userID <;> simp only [same] <;> rfl

theorem mirrored_removeMember (mirrored : Mirrored db) (groupID : GroupID) (userID : UserID) :
    Mirrored (removeMember groupID db userID) := by
  intro other account found named mirror
  have accounts : (removeMember groupID db userID).accounts.find? other = some account := found
  rw [removeMember] at accounts
  dsimp only at accounts
  rw [Table.find?_update] at accounts
  obtain ⟨old, stored, same⟩ := Option.map_eq_some_iff.mp accounts
  have key := Table.key_of_find? stored
  subst key
  split at same
  · rename_i cleared
    simp only [decide_eq_true_eq] at cleared
    subst same
    rw [cleared.1]
    exact firstMembership_some mirror
  · rename_i kept
    subst same
    simp only [decide_eq_true_eq] at kept
    rw [find?_removeMember, if_neg]
    · exact mirrored _ old stored named mirror
    · rintro ⟨rfl, sameUser⟩
      exact kept ⟨sameUser, mirror⟩

theorem MemberStep.mirrored {adds : GroupID → UserID → Prop} (step : MemberStep adds db db')
    (mirrored : Mirrored db) : Mirrored db' := by
  unfold Mirrored
  cases step with
  | still memberships accounts =>
    rw [memberships, accounts]
    exact mirrored
  | add groupID userID _ memberships accounts =>
    rw [memberships, accounts]
    exact mirrored_addMember mirrored groupID userID
  | remove groupID userID memberships accounts =>
    rw [memberships, accounts]
    exact mirrored_removeMember mirrored groupID userID
  | drop dropped memberships accounts =>
    rw [memberships, accounts]
    intro userID account found
    rw [Table.find?_delete] at found
    exact mirrored userID account (Option.filter_eq_some_iff.mp found).1

/-- A membership comes only from a step that adds it. -/
theorem MemberStep.absent {adds : GroupID → UserID → Prop} (step : MemberStep adds db db')
    (unadded : ¬ adds groupID userID) (absent : db.memberships.find? (groupID, userID) = none) :
    db'.memberships.find? (groupID, userID) = none := by
  cases step with
  | still memberships _ => rw [memberships, absent]
  | add other otherUser added memberships _ =>
    have different : (groupID, userID) ≠ (other, otherUser) := by
      intro same
      cases same
      exact unadded added
    rw [memberships, addMember]
    dsimp only
    rw [Table.find?_insertIfAbsent, if_neg different, absent]
  | remove other otherUser memberships _ =>
    rw [memberships, find?_removeMember, absent]
    exact ite_self _
  | drop _ memberships _ => rw [memberships, absent]

/-! ## Emptying a group -/

/-- No user whose account mirrors the group is a member of another one. -/
def MirrorsOnly (db : Db) (groupID : GroupID) : Prop :=
  ∀ userID account, db.accounts.find? userID = some account → account.groupID = some groupID →
    ∀ row ∈ db.memberships.rows, row.userID = userID → row.groupID = groupID

theorem find?_removeAllMembers (db : Db) (groupID other : GroupID) (userID : UserID) :
    (removeAllMembers groupID db).memberships.find? (other, userID) =
      if other = groupID then none else db.memberships.find? (other, userID) := by
  rw [removeAllMembers]
  dsimp only
  rw [Table.find?_delete]
  cases found : db.memberships.find? (other, userID) with
  | none => simp
  | some row =>
    have key := Table.key_of_find? found
    obtain ⟨rfl, rfl⟩ := Prod.mk.inj key
    by_cases same : row.groupID = groupID <;> simp [same]

/-- Emptying a group keeps the mirrors exactly if it clears all of its own. -/
theorem mirrored_removeAllMembers (mirrored : Mirrored db) (groupID : GroupID) :
    Mirrored (removeAllMembers groupID db) ↔ MirrorsOnly db groupID := by
  have accounts : ∀ userID, (removeAllMembers groupID db).accounts.find? userID =
      (db.accounts.find? userID).map fun account =>
        if account.groupID = some groupID ∧
            ∀ row ∈ db.memberships.rows, row.groupID ≠ groupID → row.userID ≠ userID then
          { account with groupID := none } else account := by
    intro userID
    rw [removeAllMembers]
    dsimp only
    rw [Table.find?_update]
    cases found : db.accounts.find? userID with
    | none => rfl
    | some account =>
      have key := Table.key_of_find? found
      subst key
      rw [Option.map_some, Option.map_some]
      congr 1
      simp only [Table.delete, List.all_eq_true, List.mem_filter, decide_eq_true_eq,
        Bool.not_eq_true', decide_eq_false_iff_not, and_imp, ne_eq]
  constructor
  · intro after userID account found mirror row member user
    by_contra different
    have kept : (removeAllMembers groupID db).accounts.find? userID = some account := by
      rw [accounts, found, Option.map_some, if_neg]
      rintro ⟨-, alone⟩
      exact alone row member different user
    have present := after userID account kept groupID mirror
    rw [find?_removeAllMembers, if_pos rfl] at present
    cases present
  · intro only userID account found named mirror
    rw [accounts] at found
    obtain ⟨old, stored, same⟩ := Option.map_eq_some_iff.mp found
    split at same
    · subst same
      cases mirror
    · rename_i kept
      subst same
      have different : named ≠ groupID := by
        rintro rfl
        exact kept ⟨mirror, fun row member other user =>
          other (only userID old stored mirror row member user)⟩
      rw [find?_removeAllMembers, if_neg different]
      exact mirrored userID old stored named mirror

/-! ## Operations -/

inductive MemberOp where
  | members (params : SetGroupMembersParams) (newID : PeriodID)
  | join (hash : Text) (userID : UserID) (now : Time) (newID : ApplicationID)
  | review (params : ReviewParams)
  | archive (params : ArchiveGroupParams) (newID : PeriodID)

def MemberOp.result (db : InvitationDb) : MemberOp → Except StoreError InvitationDb
  | .members params newID =>
    (setGroupMembers db.store params newID).map fun done => { db with store := done.1 }
  | .join hash userID now newID => (joinInvitation db hash userID now newID).map Prod.fst
  | .review params => (reviewInvitationApplications db params).map Prod.fst
  | .archive params newID =>
    (archiveGroup db.store params newID).map fun done => { db with store := done.1 }

/-- The operation may add the user to the group. -/
def MemberOp.Adds (db : InvitationDb) : MemberOp → GroupID → UserID → Prop
  | .members params _, groupID, userID =>
    params.action = .add ∧ params.groupID = groupID ∧ userID ∈ params.userIDs
  | .join hash applicant _ _, groupID, userID => applicant = userID ∧
      ∃ invitation, tokenInvitation db hash = some invitation ∧ invitation.kind = .group groupID
  | .review params, groupID, userID => params.decision = .approve ∧
      (∃ invitation, db.invitations.find? params.invitationID = some invitation ∧
        invitation.kind = .group groupID) ∧
      ∃ a ∈ reviewedApplications db params, a.userID = some userID
  | .archive _ _, _, _ => False

abbrev MemberSteps (adds : GroupID → UserID → Prop) : Db → Db → Prop :=
  Relation.ReflTransGen (MemberStep adds)

variable {adds : GroupID → UserID → Prop} {id : GroupID} {detail : GroupDetail}
  {response : GroupResponse} {kind : InvitationKind} {users : Db} {changed : Nat} {op : MemberOp}
  {ops : List MemberOp}

theorem MemberSteps.still (memberships : db'.memberships = db.memberships)
    (accounts : db'.accounts = db.accounts) : MemberSteps adds db db' :=
  .single (.still memberships accounts)

theorem rollGroup_members (ok : rollGroup db id now newID = .ok (db', g)) :
    db'.memberships = db.memberships ∧ db'.accounts = db.accounts := by
  rw [(rollGroup_ok ok).frame]
  exact ⟨rfl, rfl⟩

section Fold

variable {adds : GroupID → UserID → Prop} {groupID : GroupID}

theorem addMembers_steps (allowed : ∀ id ∈ ids, adds groupID id) (db : Db) :
    MemberSteps adds db (ids.foldl (addMember groupID) db) := by
  induction ids generalizing db with
  | nil => exact .refl
  | cons id rest ih =>
    exact .head (.add groupID id (allowed id List.mem_cons_self) rfl rfl)
      (ih (fun other member => allowed other (List.mem_cons_of_mem _ member)) _)

theorem removeMembers_steps (adds : GroupID → UserID → Prop) (ids : List UserID) (db : Db) :
    MemberSteps adds db (ids.foldl (removeMember groupID) db) := by
  induction ids generalizing db with
  | nil => exact .refl
  | cons id rest ih => exact .head (.remove groupID id rfl rfl) (ih _)

theorem removeMembers_absent
    (absent : userID ∈ ids ∨ db.memberships.find? (groupID, userID) = none) :
    (ids.foldl (removeMember groupID) db).memberships.find? (groupID, userID) = none := by
  induction ids generalizing db with
  | nil => exact absent.resolve_left List.not_mem_nil
  | cons id rest ih =>
    refine ih ?_
    rw [find?_removeMember]
    rcases absent with member | gone
    · rcases List.mem_cons.mp member with rfl | later
      · exact .inr (if_pos ⟨rfl, rfl⟩)
      · exact .inl later
    · rw [gone]
      exact .inr (ite_self _)

end Fold

theorem applySetGroupMembers_ok
    (ok : applySetGroupMembers params ids newID db = .ok (db', detail)) :
    ∃ rolled, rolled.memberships = db.memberships ∧ rolled.accounts = db.accounts ∧
      db' = changeMembers params.action params.groupID ids rolled := by
  obtain ⟨-, ok⟩ := check_bind_eq_ok.mp ok
  obtain ⟨-, ok⟩ := check_bind_eq_ok.mp ok
  obtain ⟨⟨rolled, g⟩, roll, ok⟩ := bind_eq_ok.mp ok
  obtain ⟨-, ok⟩ := check_bind_eq_ok.mp ok
  obtain ⟨answer, -, ok⟩ := bind_eq_ok.mp ok
  cases ok
  obtain ⟨memberships, accounts⟩ := rollGroup_members roll
  exact ⟨rolled, memberships, accounts, rfl⟩

theorem memberInput_ok (ok : memberInput params = .ok ids) :
    ∀ id, id ∈ ids ↔ id ∈ params.userIDs := by
  unfold memberInput at ok
  obtain ⟨-, ok⟩ := refuse_eq_ok.mp ok
  split at ok <;> cases ok
  exact fun id => (List.perm_insertionSort _ _).mem_iff

/-- What a write of members leaves: the old members if it is answered from the record,
otherwise the changed ones. -/
theorem setGroupMembers_ok (ok : setGroupMembers db params newID = .ok (db', response)) :
    (db' = db ∧ (db.groupOperations.find? params.write.operationID).isSome = true) ∨
    ∃ ids rolled, (∀ id, id ∈ ids ↔ id ∈ params.userIDs) ∧
      rolled.memberships = db.memberships ∧ rolled.accounts = db.accounts ∧
      db'.memberships = (changeMembers params.action params.groupID ids rolled).memberships ∧
      db'.accounts = (changeMembers params.action params.groupID ids rolled).accounts := by
  obtain ⟨ids, input, ok⟩ := bind_eq_ok.mp ok
  obtain ⟨-, ok⟩ := check_bind_eq_ok.mp ok
  rcases claimedWrite_ok ok with ⟨rfl, stored, found, -⟩ | ⟨-, operations, done, -, applied, rfl⟩
  · exact .inl ⟨rfl, by rw [found]; rfl⟩
  · obtain ⟨⟨changed, detail⟩, ran, same⟩ := bind_eq_ok.mp applied
    cases same
    obtain ⟨rolled, memberships, accounts, rfl⟩ := applySetGroupMembers_ok ran
    exact .inr ⟨ids, rolled, memberInput_ok input, memberships, accounts, rfl, rfl⟩

theorem applyArchiveGroup_ok {params : ArchiveGroupParams}
    (ok : applyArchiveGroup params newID db = .ok (db', detail)) :
    db'.memberships = db.memberships ∧ db'.accounts = db.accounts := by
  obtain ⟨-, ok⟩ := check_bind_eq_ok.mp ok
  obtain ⟨⟨rolled, g⟩, roll, ok⟩ := bind_eq_ok.mp ok
  obtain ⟨-, ok⟩ := check_bind_eq_ok.mp ok
  obtain ⟨answer, -, ok⟩ := bind_eq_ok.mp ok
  cases ok
  have same := rollGroup_members roll
  exact same

theorem archiveGroup_members {params : ArchiveGroupParams}
    (ok : archiveGroup db params newID = .ok (db', response)) :
    db'.memberships = db.memberships ∧ db'.accounts = db.accounts := by
  rcases groupWrite_ok ok with rfl | ⟨operations, done, detail, ran, rfl⟩
  · exact ⟨rfl, rfl⟩
  · have same := applyArchiveGroup_ok ran
    exact same

theorem joinInvitation_steps {db db' : InvitationDb} {hash : Text} {newID : ApplicationID}
    {answer : JoinAnswer} (ok : joinInvitation db hash userID now newID = .ok (db', answer)) :
    MemberSteps (MemberOp.Adds db (.join hash userID now newID)) db.store db'.store := by
  obtain ⟨user, locked, ok⟩ := bind_eq_ok.mp ok
  have same : user.id = userID := by
    unfold lockInvitationUser at locked
    obtain ⟨-, locked⟩ := refuse_eq_ok.mp locked
    split at locked
    · cases locked
    · rename_i found
      cases locked
      exact Table.key_of_find? found
  obtain ⟨-, ok⟩ := refuse_eq_ok.mp ok
  split at ok
  · cases ok
  · rename_i invitation token
    split at ok
    · rename_i groupID kind
      unfold joinGroup at ok
      split at ok
      · cases ok
        exact .refl
      · split at ok
        · cases ok
          exact .refl
        · obtain ⟨-, ok⟩ := check_bind_eq_ok.mp ok
          obtain ⟨-, ok⟩ := check_bind_eq_ok.mp ok
          obtain ⟨⟨inserted, application⟩, insertion, ok⟩ := bind_eq_ok.mp ok
          have store : inserted.store = db.store := by
            unfold insertInvitationApplication at insertion
            dsimp only at insertion
            split at insertion <;> cases insertion
            rfl
          cases ok
          split
          · exact MemberSteps.still (by rw [store]) (by rw [store])
          · rw [store]
            exact .single (.add groupID user.id ⟨same.symm, invitation, token, kind⟩ rfl rfl)
    · cases ok

theorem reviewApplication_steps {params : ReviewParams}
    {db db' : InvitationDb} {a : InvitationApplication} {one : Bool}
    (allowed : ∀ groupID userID, params.decision = .approve → kind = .group groupID →
      a.userID = some userID → adds groupID userID)
    (ok : reviewApplication params kind users.users.find? db a = .ok (db', one)) :
    MemberSteps adds db.store db'.store := by
  unfold reviewApplication at ok
  split at ok
  · obtain ⟨-, ok⟩ := refuse_eq_ok.mp ok
    cases ok
    exact .refl
  · split at ok
    · cases ok
    · rename_i user applicant
      obtain ⟨userID, named, found⟩ := Option.bind_eq_some_iff.mp applicant
      have key := Table.key_of_find? found
      subst key
      split at ok
      · obtain ⟨rejected, reject, ok⟩ := bind_eq_ok.mp ok
        cases ok
        unfold rejectApplicant at reject
        split at reject
        · unfold deletePendingInvitationUser at reject
          obtain ⟨-, reject⟩ := refuse_eq_ok.mp reject
          dsimp only at reject
          obtain ⟨-, reject⟩ := refuse_eq_ok.mp reject
          obtain ⟨-, reject⟩ := refuse_eq_ok.mp reject
          cases reject
          exact .single (.drop _ rfl rfl)
        · cases reject
          exact .refl
      · rename_i approve
        obtain ⟨store, approved, ok⟩ := bind_eq_ok.mp ok
        cases ok
        unfold approveApplication at approved
        split at approved
        · obtain ⟨-, approved⟩ := refuse_eq_ok.mp approved
          cases approved
          exact .single (.add _ user.id (allowed _ _ approve rfl named) rfl rfl)
        · obtain ⟨-, approved⟩ := refuse_eq_ok.mp approved
          cases approved
          exact MemberSteps.still rfl rfl

theorem reviewAll_steps {params : ReviewParams} {applications : List InvitationApplication}
    {db db' : InvitationDb} {total : Nat}
    (allowed : ∀ a ∈ applications, ∀ groupID userID, params.decision = .approve →
      kind = .group groupID → a.userID = some userID → adds groupID userID)
    (ok : reviewAll params kind users.users.find? applications db changed = .ok (db', total)) :
    MemberSteps adds db.store db'.store := by
  induction applications generalizing db changed with
  | nil =>
    cases ok
    exact .refl
  | cons a rest ih =>
    obtain ⟨⟨middle, one⟩, first, ok⟩ := bind_eq_ok.mp ok
    exact (reviewApplication_steps (allowed a List.mem_cons_self) first).trans
      (ih (fun other member => allowed other (List.mem_cons_of_mem _ member)) ok)

theorem reviewInvitationApplications_steps {db db' : InvitationDb} {params : ReviewParams}
    (ok : reviewInvitationApplications db params = .ok (db', changed)) :
    MemberSteps (MemberOp.Adds db (.review params)) db.store db'.store := by
  obtain ⟨-, ok⟩ := refuse_eq_ok.mp ok
  obtain ⟨-, ok⟩ := check_bind_eq_ok.mp ok
  split at ok
  · cases ok
  · rename_i invitation found
    obtain ⟨-, ok⟩ := refuse_eq_ok.mp ok
    dsimp only at ok
    obtain ⟨-, ok⟩ := refuse_eq_ok.mp ok
    obtain ⟨-, ok⟩ := check_bind_eq_ok.mp ok
    exact reviewAll_steps (fun a member groupID userID approve kind named =>
      ⟨approve, ⟨invitation, found, kind⟩, a, member, named⟩) ok

/-- An operation changes the memberships step by step, or empties a group. -/
theorem MemberOp.ok {db db' : InvitationDb} {op : MemberOp} (ok : op.result db = .ok db') :
    MemberSteps (op.Adds db) db.store db'.store ∨
      ∃ params newID rolled, op = .members params newID ∧ params.action = .removeAll ∧
        rolled.memberships = db.store.memberships ∧ rolled.accounts = db.store.accounts ∧
        db'.store.memberships = (removeAllMembers params.groupID rolled).memberships ∧
        db'.store.accounts = (removeAllMembers params.groupID rolled).accounts := by
  cases op with
  | members params newID =>
    obtain ⟨⟨store, response⟩, result, rfl⟩ := map_eq_ok.mp ok
    rcases setGroupMembers_ok result with
      ⟨rfl, -⟩ | ⟨ids, rolled, members, memberships, accounts, changed, mirrors⟩
    · exact .inl .refl
    · have start : MemberSteps (MemberOp.Adds db (.members params newID)) db.store rolled :=
        MemberSteps.still memberships accounts
      have last : MemberSteps (MemberOp.Adds db (.members params newID))
          (changeMembers params.action params.groupID ids rolled) store :=
        MemberSteps.still changed mirrors
      cases action : params.action with
      | add =>
        rw [action] at last
        exact .inl ((start.trans (addMembers_steps (fun id member =>
          ⟨action, rfl, (members id).mp member⟩) rolled)).trans last)
      | remove =>
        rw [action] at last
        exact .inl ((start.trans (removeMembers_steps _ ids rolled)).trans last)
      | removeAll =>
        rw [action] at changed mirrors
        exact .inr ⟨params, newID, rolled, rfl, action, memberships, accounts, changed, mirrors⟩
  | join hash userID now newID =>
    obtain ⟨⟨last, answer⟩, result, rfl⟩ := map_eq_ok.mp ok
    exact .inl (joinInvitation_steps result)
  | review params =>
    obtain ⟨⟨last, changed⟩, result, rfl⟩ := map_eq_ok.mp ok
    exact .inl (reviewInvitationApplications_steps result)
  | archive params newID =>
    obtain ⟨⟨store, response⟩, result, rfl⟩ := map_eq_ok.mp ok
    obtain ⟨memberships, accounts⟩ := archiveGroup_members result
    exact .inl (MemberSteps.still memberships accounts)

/-! ## Readers -/

theorem rollGroup_id (ok : rollGroup db id now newID = .ok (db', g)) : g.id = id := by
  obtain ⟨group, period, found, -, -, rfl⟩ := readGroupSummary_eq_ok.mp (rollGroup_read ok).2
  rw [summaryOf_id]
  exact Table.key_of_find? found

theorem rollGroups_ids {newID : GroupID → PeriodID} {ids : List GroupID}
    {groups : List GroupSummary} (ok : rollGroups now newID ids db = .ok (db', groups)) :
    ∀ g ∈ groups, g.id ∈ ids := by
  induction ids generalizing db groups with
  | nil =>
    cases ok
    intro g member
    cases member
  | cons id rest ih =>
    obtain ⟨⟨middle, first⟩, roll, ok⟩ := bind_eq_ok.mp ok
    obtain ⟨⟨last, others⟩, later, ok⟩ := bind_eq_ok.mp ok
    cases ok
    have rest' : ∀ g ∈ others, g.id ∈ id :: rest :=
      fun g member => List.mem_cons_of_mem _ (ih later g member)
    split
    · refine List.forall_mem_cons.mpr ⟨?_, rest'⟩
      rw [rollGroup_id roll]
      exact List.mem_cons_self
    · exact rest'

theorem userMemberships_some (mirrored : Mirrored db) {members : List GroupID}
    (ok : userMemberships db userID = .ok members) (member : groupID ∈ members) :
    (db.memberships.find? (groupID, userID)).isSome = true := by
  unfold userMemberships at ok
  dsimp only at ok
  split at ok
  · cases ok
    obtain ⟨row, listed, rfl⟩ := List.mem_map.mp member
    obtain ⟨stored, same⟩ := List.mem_filter.mp ((List.perm_insertionSort _ _).mem_iff.mp listed)
    have key : (row.groupID, userID) = row.key := by rw [← of_decide_eq_true same]
    rw [key, Table.find?_of_mem stored]
    rfl
  · split at ok
    · cases ok
    · rename_i account found
      cases ok
      exact mirrored userID account found groupID (Option.mem_toList.mp member)

/-- The user is counted in the group, by a membership or by the mirror. -/
def CountedIn (db : Db) (groupID : GroupID) (userID : UserID) : Prop :=
  (∃ row ∈ db.memberships.rows, row.groupID = groupID ∧ row.userID = userID) ∨
    ∃ account ∈ mirrorOnly db groupID, account.userID = userID

/-- No reader takes the user for a member of the group. -/
structure NotMember (db : Db) (groupID : GroupID) (userID : UserID) : Prop where
  counted : ¬ CountedIn db groupID userID
  listed : ∀ detail, groupDetail db groupID = .ok detail → ∀ member ∈ detail.members,
    member.userID ≠ userID
  funded : ∀ now model newID db' usable fallback,
    userFundingGroups db userID now model newID = .ok (db', usable, fallback) →
      (∀ g ∈ usable, g.id ≠ groupID) ∧ ∀ g ∈ fallback, g.id ≠ groupID

theorem mirrorOnly_eq_nil (mirrored : Mirrored db) (groupID : GroupID) :
    mirrorOnly db groupID = [] := by
  rw [mirrorOnly, List.filter_eq_nil_iff]
  intro account member only
  obtain ⟨mirror, absent⟩ := of_decide_eq_true only
  have present := mirrored _ account (Table.find?_of_mem member) groupID mirror
  rw [absent] at present
  cases present

theorem notMember_of_absent (mirrored : Mirrored db)
    (absent : db.memberships.find? (groupID, userID) = none) : NotMember db groupID userID where
  counted := by
    rintro (⟨row, member, rfl, rfl⟩ | ⟨account, member, -⟩)
    · rw [Table.find?_of_mem member] at absent
      cases absent
    · rw [mirrorOnly_eq_nil mirrored] at member
      cases member
  listed := by
    intro detail ok member listed same
    obtain ⟨summary, -, ok⟩ := bind_eq_ok.mp ok
    cases ok
    obtain ⟨user, sorted, rfl⟩ := List.mem_map.mp listed
    obtain ⟨-, placed⟩ := List.mem_filter.mp ((List.perm_insertionSort _ _).mem_iff.mp sorted)
    change user.id = userID at same
    subst same
    rw [isGroupMember, absent] at placed
    obtain ⟨account, found, mirror⟩ := (Option.any_eq_true _ _).mp placed
    have present := mirrored _ account found groupID (of_decide_eq_true mirror)
    rw [absent] at present
    cases present
  funded := by
    intro now model newID db' usable fallback ok
    obtain ⟨members, memberships, ok⟩ := bind_eq_ok.mp ok
    obtain ⟨-, ok⟩ := check_bind_eq_ok.mp ok
    obtain ⟨⟨rolled, summaries⟩, rolls, ok⟩ := bind_eq_ok.mp ok
    cases ok
    have others : ∀ g ∈ summaries, g.id ≠ groupID := by
      rintro g member rfl
      have present := userMemberships_some mirrored memberships
        (List.mem_dedup.mp (rollGroups_ids rolls g member))
      rw [absent] at present
      cases present
    refine ⟨fun g member => ?_, fun g first => ?_⟩
    · exact others g (List.mem_of_mem_filter (List.mem_of_mem_filter member))
    · exact others g (List.mem_of_mem_filter (List.mem_of_find?_eq_some first))

/-- A group without memberships can be archived, whenever a new write may roll it. -/
theorem archiveGroup_isOk {claimed rolled : Db} (mirrored : Mirrored db)
    {params : ArchiveGroupParams}
    (empty : ∀ row ∈ db.memberships.rows, row.groupID ≠ params.groupID)
    (valid : validateGroupWrite params.write = .ok ())
    (created : claimGroupOperation db params.write "archive".toList
      ([idText params.groupID] ++ [Text.trimSpace params.write.reason]) = .ok (.created claimed))
    (roll : rollGroup claimed params.groupID params.write.at' newID = .ok (rolled, g)) :
    (archiveGroup db params newID).isOk = true := by
  obtain ⟨-, operations, -, rfl⟩ := claimGroupOperation_created created
  obtain ⟨exists', read⟩ := rollGroup_read roll
  obtain ⟨memberships, accounts⟩ := rollGroup_members roll
  obtain ⟨group, period, found, current, stored, rfl⟩ := readGroupSummary_eq_ok.mp read
  have none' : (summaryOf rolled group period).memberCount = 0 := by
    have key := Table.key_of_find? found
    have mirrored' : Mirrored rolled := by
      unfold Mirrored
      rw [memberships, accounts]
      exact mirrored
    have rows : (rolled.memberships.rows.filter fun row => row.groupID = group.id) = [] := by
      rw [List.filter_eq_nil_iff, memberships]
      intro row member same
      exact empty row member ((of_decide_eq_true same).trans key)
    rw [summaryOf_memberCount, memberCount, rows, mirrorOnly_eq_nil mirrored']
    rfl
  have lock : lockGroup { db with groupOperations := operations } params.groupID = .ok () :=
    if_pos exists'
  have detail : ∃ detail, groupDetail { rolled with
      groups := rolled.groups.modify params.groupID
        (fun group => { group with archivedAt := some (group.archivedAt.getD params.write.at') })
        (fun _ => rfl)
      groupPeriods := rolled.groupPeriods.modify (summaryOf rolled group period).periodID
        (fun period => { period with closedAt := some (period.closedAt.getD params.write.at') })
        (fun _ => rfl) } params.groupID = .ok detail := by
    obtain ⟨summary, again⟩ : ∃ summary, readGroupSummary { rolled with
        groups := rolled.groups.modify params.groupID
          (fun group => { group with archivedAt := some (group.archivedAt.getD params.write.at') })
          (fun _ => rfl)
        groupPeriods := rolled.groupPeriods.modify (summaryOf rolled group period).periodID
          (fun period => { period with closedAt := some (period.closedAt.getD params.write.at') })
          (fun _ => rfl) } params.groupID = .ok summary := by
      refine ⟨_, readGroupSummary_eq_ok.mpr
        ⟨{ group with archivedAt := some (group.archivedAt.getD params.write.at') },
          { period with closedAt := some (period.closedAt.getD params.write.at') }, ?_, current, ?_,
          rfl⟩⟩
      · dsimp only
        rw [Table.find?_modify, if_pos rfl, found]
        rfl
      · dsimp only
        rw [Table.find?_modify, summaryOf_periodID, if_pos rfl, stored]
        rfl
    unfold groupDetail
    rw [again]
    exact ⟨_, rfl⟩
  obtain ⟨answer, detail⟩ := detail
  unfold archiveGroup groupWrite claimedWrite
  rw [valid, ok_bind, created, ok_bind]
  dsimp only
  rw [applyArchiveGroup, lock, ok_bind, roll, ok_bind]
  dsimp only
  rw [checkEmpty, none', if_neg (by decide), ok_bind, detail]
  rfl

/-! ## Runs -/

def MemberOp.apply (db : InvitationDb) (op : MemberOp) : InvitationDb :=
  Transaction.commit (fun db => op.result db) db

def memberRun (db : InvitationDb) (ops : List MemberOp) : InvitationDb :=
  Transaction.run MemberOp.apply db ops

/-- The operation does not empty a group that is mirrored for a member of another one. -/
def SparesMirrors (db : InvitationDb) : MemberOp → Prop
  | .members params _ => params.action = .removeAll → MirrorsOnly db.store params.groupID
  | _ => True

/-- The operation is a write of members that takes effect. -/
def MemberOp.Changes (db : InvitationDb) (op : MemberOp) (params : SetGroupMembersParams) : Prop :=
  (∃ newID, op = .members params newID) ∧ (op.result db).isOk = true ∧
    db.store.groupOperations.find? params.write.operationID = none

/-- The operation takes effect and removes the user from the group. -/
def MemberOp.Removes (db : InvitationDb) (op : MemberOp) (groupID : GroupID) (userID : UserID) :
    Prop :=
  ∃ params, op.Changes db params ∧ params.groupID = groupID ∧
    (params.action = .remove ∧ userID ∈ params.userIDs ∨ params.action = .removeAll)

theorem MemberSteps.mirrored {adds : GroupID → UserID → Prop} (steps : MemberSteps adds db db')
    (mirrored : Mirrored db) : Mirrored db' := by
  induction steps with
  | refl => exact mirrored
  | tail _ step ih => exact step.mirrored ih

theorem MemberSteps.absent {adds : GroupID → UserID → Prop} (steps : MemberSteps adds db db')
    (unadded : ¬ adds groupID userID) (absent : db.memberships.find? (groupID, userID) = none) :
    db'.memberships.find? (groupID, userID) = none := by
  induction steps with
  | refl => exact absent
  | tail _ step ih => exact step.absent unadded ih

theorem MemberOp.mirrored {db db' : InvitationDb} {op : MemberOp} (spares : SparesMirrors db op)
    (mirrored : Mirrored db.store) (ok : op.result db = .ok db') : Mirrored db'.store := by
  rcases op.ok ok with steps | ⟨params, newID, rolled, rfl, action, memberships, accounts, changed, mirrors⟩
  · exact steps.mirrored mirrored
  · have only : MirrorsOnly rolled params.groupID := by
      unfold MirrorsOnly
      rw [memberships, accounts]
      exact spares action
    have rolled' : Mirrored rolled := by
      unfold Mirrored
      rw [memberships, accounts]
      exact mirrored
    unfold Mirrored
    rw [changed, mirrors]
    exact (mirrored_removeAllMembers rolled' params.groupID).mpr only

theorem MemberOp.absent {db db' : InvitationDb} {op : MemberOp}
    (unadded : ¬ op.Adds db groupID userID)
    (absent : db.store.memberships.find? (groupID, userID) = none) (ok : op.result db = .ok db') :
    db'.store.memberships.find? (groupID, userID) = none := by
  rcases op.ok ok with steps | ⟨params, newID, rolled, -, -, memberships, -, changed, -⟩
  · exact steps.absent unadded absent
  · rw [changed, find?_removeAllMembers, memberships, absent]
    exact ite_self _

theorem MemberOp.Changes.applied {db : InvitationDb} {op : MemberOp}
    (changes : op.Changes db params) : ∃ ids rolled, (∀ id, id ∈ ids ↔ id ∈ params.userIDs) ∧
      rolled.memberships = db.store.memberships ∧ rolled.accounts = db.store.accounts ∧
      (op.apply db).store.memberships =
        (changeMembers params.action params.groupID ids rolled).memberships ∧
      (op.apply db).store.accounts =
        (changeMembers params.action params.groupID ids rolled).accounts := by
  obtain ⟨⟨newID, rfl⟩, committed, new⟩ := changes
  obtain ⟨db', ok⟩ := exists_of_isOk committed
  have applied : MemberOp.apply db (.members params newID) = db' := Transaction.commit_of_ok ok
  obtain ⟨⟨store, response⟩, result, rfl⟩ := map_eq_ok.mp ok
  rw [applied]
  rcases setGroupMembers_ok result with ⟨-, taken⟩ | changed
  · rw [new] at taken
    cases taken
  · exact changed

theorem MemberOp.Removes.absent {db : InvitationDb} (removes : op.Removes db groupID userID) :
    (op.apply db).store.memberships.find? (groupID, userID) = none := by
  obtain ⟨params, changes, rfl, removed⟩ := removes
  obtain ⟨ids, rolled, members, -, -, changed, -⟩ := changes.applied
  rcases removed with ⟨action, member⟩ | action
  · rw [changed, action]
    exact removeMembers_absent (.inl ((members userID).mpr member))
  · rw [changed, action]
    exact (find?_removeAllMembers _ _ _ _).trans (if_pos rfl)

/-- Emptying a group keeps the mirrors only under the condition of the run. -/
theorem MemberOp.Changes.mirrored_iff {db : InvitationDb} (changes : op.Changes db params)
    (action : params.action = .removeAll) (mirrored : Mirrored db.store) :
    Mirrored (op.apply db).store ↔ MirrorsOnly db.store params.groupID := by
  obtain ⟨ids, rolled, -, memberships, accounts, changed, mirrors⟩ := changes.applied
  have rolled' : Mirrored rolled := by
    unfold Mirrored
    rw [memberships, accounts]
    exact mirrored
  have step := mirrored_removeAllMembers rolled' params.groupID
  unfold MirrorsOnly at step ⊢
  rw [memberships, accounts] at step
  rw [← step]
  unfold Mirrored
  rw [changed, mirrors, action]
  rfl

theorem memberRun_mirrored {db : InvitationDb} (mirrored : Mirrored db.store)
    (spares : Transaction.Along SparesMirrors MemberOp.apply db ops) :
    Mirrored (memberRun db ops).store :=
  Transaction.run_preserves_along (P := fun db => Mirrored db.store) mirrored
    (fun _ op spares mirrored => Transaction.commit_preserves
      (P := fun db : InvitationDb => Mirrored db.store) mirrored
      fun _ ok => op.mirrored spares mirrored ok) spares

theorem memberRun_absent {db : InvitationDb}
    (absent : db.store.memberships.find? (groupID, userID) = none)
    (unadded : Transaction.Along (fun db op => ¬ op.Adds db groupID userID) MemberOp.apply db ops) :
    (memberRun db ops).store.memberships.find? (groupID, userID) = none :=
  Transaction.run_preserves_along
    (P := fun db : InvitationDb => db.store.memberships.find? (groupID, userID) = none) absent
    (fun _ op unadded absent => Transaction.commit_preserves
      (P := fun db : InvitationDb => db.store.memberships.find? (groupID, userID) = none) absent
      fun _ ok => op.absent unadded absent ok) unadded

/-- In a run that starts without mirrors and never empties a group that is mirrored
for a member of another one: every mirror names a membership, so that nobody without
one is taken for a member, and a group without memberships can be archived. A removed
user has no membership until one is added again. Emptying a group keeps this exactly
under that condition. -/
theorem memberRun_removed {db : InvitationDb} {ops : List MemberOp}
    (unmirrored : ∀ account ∈ db.store.accounts.rows, account.groupID = none)
    (spares : Transaction.Along SparesMirrors MemberOp.apply db ops) :
    let reached := (memberRun db ops).store
    (∀ account ∈ reached.accounts.rows, ∀ groupID, account.groupID = some groupID →
      (reached.memberships.find? (groupID, account.userID)).isSome = true) ∧
    (∀ groupID userID, reached.memberships.find? (groupID, userID) = none →
      NotMember reached groupID userID) ∧
    (∀ before op later groupID userID, ops = before ++ op :: later →
      op.Removes (memberRun db before) groupID userID →
      Transaction.Along (fun db op => ¬ op.Adds db groupID userID) MemberOp.apply
        (op.apply (memberRun db before)) later →
      reached.memberships.find? (groupID, userID) = none) ∧
    (∀ (op : MemberOp) params, op.Changes (memberRun db ops) params → params.action = .removeAll →
      (Mirrored (op.apply (memberRun db ops)).store ↔ MirrorsOnly reached params.groupID)) ∧
    ∀ (params : ArchiveGroupParams) newID claimed rolled g,
      (∀ row ∈ reached.memberships.rows, row.groupID ≠ params.groupID) →
      validateGroupWrite params.write = .ok () →
      claimGroupOperation reached params.write "archive".toList
        ([idText params.groupID] ++ [Text.trimSpace params.write.reason]) = .ok (.created claimed) →
      rollGroup claimed params.groupID params.write.at' newID = .ok (rolled, g) →
      (archiveGroup reached params newID).isOk = true := by
  have start : Mirrored db.store := by
    intro userID account found groupID mirror
    rw [unmirrored account (Table.mem_of_find? found)] at mirror
    cases mirror
  have mirrored := memberRun_mirrored start spares
  refine ⟨fun account member => mirrored _ account (Table.find?_of_mem member),
    fun groupID userID absent => notMember_of_absent mirrored absent, ?_,
    fun op params changes action => changes.mirrored_iff action mirrored,
    fun params newID claimed rolled g empty valid created roll =>
      archiveGroup_isOk mirrored empty valid created roll⟩
  rintro before op later groupID userID rfl removes unadded
  have split : memberRun db (before ++ op :: later) =
      memberRun (op.apply (memberRun db before)) later := by
    unfold memberRun Transaction.run
    rw [List.foldl_append]
    rfl
  rw [split]
  exact memberRun_absent removes.absent unadded

/-! Two groups and a user. Emptying a group that the account mirrors leaves the mirror if
    the user is also in the other group. -/

def twoGroups : InvitationDb where
  store := { Db.empty ⟨10 ^ Billing.amountScale, [], true⟩ with
    users := ⟨[⟨1, ['x'], .active⟩], by decide⟩
    accounts := ⟨[⟨1, 0, 1, false, 50, none⟩], by decide⟩
    groups := ⟨[⟨7, ['a'], 5, none, .day, 0, 0, some 1, none, 0, 1, none, [], false⟩,
      ⟨8, ['b'], 5, none, .day, 0, 0, some 2, none, 0, 1, none, [], false⟩], by decide⟩
    groupPeriods := ⟨[⟨1, 7, 0, day, 5, 0, none, none⟩, ⟨2, 8, 0, day, 5, 0, none, none⟩],
      by decide⟩ }
  owners := []
  invitations := .empty
  applications := .empty

def memberWrite (operation : Char) (groupID : GroupID) (userIDs : List UserID)
    (action : MembersAction) : MemberOp :=
  .members ⟨⟨[operation], 1, ['r'], 0⟩, groupID, userIDs, action⟩ 0

def leavingOps : List MemberOp :=
  [memberWrite 'a' 7 [1] .add, memberWrite 'b' 8 [1] .add, memberWrite 'c' 7 [] .removeAll,
    memberWrite 'd' 8 [1] .remove]

/-- After the run the user has no membership and is still a member of the first group. -/
theorem memberRun_leaving :
    twoGroups.store.memberships = .empty ∧
    (∀ account ∈ twoGroups.store.accounts.rows, account.groupID = none) ∧
    (memberRun twoGroups leavingOps).store.memberships = .empty ∧
    ((memberRun twoGroups leavingOps).store.accounts.find? 1).map BillingAccount.groupID =
      some (some 7) ∧
    memberCount (memberRun twoGroups leavingOps).store 7 = 1 ∧
    userMemberships (memberRun twoGroups leavingOps).store 1 = .ok [7] ∧
    (archiveGroup (memberRun twoGroups leavingOps).store ⟨⟨['e'], 1, ['r'], 0⟩, 7⟩ 0).map Prod.snd =
      .error (.conflict "only empty groups can be archived") := by
  decide +kernel

def emptyingOps : List MemberOp := [memberWrite 'a' 7 [1] .add, memberWrite 'c' 7 [] .removeAll]

theorem memberRun_emptying :
    ((memberRun twoGroups emptyingOps).store.accounts.find? 1).map BillingAccount.groupID =
        some none ∧
      NotMember (memberRun twoGroups emptyingOps).store 7 1 := by
  have joined : (MemberOp.apply twoGroups (memberWrite 'a' 7 [1] .add)).store.memberships.rows =
      [⟨7, 1, 100⟩] := by decide +kernel
  have spares : Transaction.Along SparesMirrors MemberOp.apply twoGroups emptyingOps := by
    refine ⟨fun impossible => ?_, fun _ userID account _ _ row member _ => ?_, trivial⟩
    · cases impossible
    · rw [joined, List.mem_singleton] at member
      rw [member]
  refine ⟨by decide +kernel, ?_⟩
  exact (memberRun_removed (by decide) spares).2.1 7 1 (by decide +kernel)

end Store
