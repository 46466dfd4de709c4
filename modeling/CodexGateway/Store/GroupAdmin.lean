import CodexGateway.Store.Cash

/-! # Group administration

Writing a group, its members, its account pools and archiving it. Each write claims its
operation id and stores its response, so that a repetition is answered from the record.
Ids that the source draws at random are parameters.
-/

namespace Store

open Billing

variable {response : GroupResponse}

/-! ## Claiming a write -/

/-- `BillingWriteParams` of a group write, whose operation id is any text. -/
structure GroupWriteParams where
  operationID : Text
  actorUserID : UserID
  reason : Text
  at' : Time
  deriving Repr, DecidableEq

def validateGroupWrite (params : GroupWriteParams) : Except StoreError Unit :=
  let reason := Text.trimSpace params.reason
  if params.operationID = [] ∨ reason = [] ∨ reason.length > 500 then
    .error (.invalid "operation id, actor and reason are required")
  else .ok ()

/-- A claimed write is either new or has a stored response. -/
inductive GroupClaim where
  | created (db : Db)
  | replay (response : GroupResponse)

/-- The `INSERT … ON CONFLICT DO NOTHING` into `group_operations`, and the comparison with
the stored row if the id is taken. The table bounds the length of the id and refers to
the actor. -/
def claimGroupOperation (db : Db) (params : GroupWriteParams) (action : Text)
    (fingerprint : List Text) : Except StoreError GroupClaim :=
  let row : GroupOperation := ⟨params.operationID, params.actorUserID, action, fingerprint, none⟩
  match db.groupOperations.find? params.operationID, db.groupOperations.insert? row with
  | some stored, _ =>
    match stored.response with
    | some response =>
      if stored.actorUserID ≠ params.actorUserID ∨ stored.action ≠ action ∨
          stored.fingerprint ≠ fingerprint then
        .error (.conflict "group operation replay mismatch")
      else .ok (.replay response)
    | none => .error (.conflict "group operation replay mismatch")
  | none, some groupOperations =>
    if params.operationID.length > 128 ∨ (db.users.find? params.actorUserID).isNone then
      .error (.invalid "claim group operation")
    else .ok (.created { db with groupOperations })
  | none, none => .error (.conflict "group operation replay mismatch")

def finishGroupOperation (db : Db) (id : Text) (response : GroupResponse) : Db :=
  { db with
    groupOperations := db.groupOperations.modify id
      (fun row => { row with response := some response }) (fun _ => rfl) }

/-- A claimed write: a repetition returns the stored response, a new one runs and its
response is stored. -/
def claimedWrite (db : Db) (params : GroupWriteParams) (action : Text) (fingerprint : List Text)
    (apply : Db → Except StoreError (Db × GroupResponse)) :
    Except StoreError (Db × GroupResponse) := do
  match ← claimGroupOperation db params action fingerprint with
  | .replay response => return (db, response)
  | .created claimed =>
    let (done, response) ← apply claimed
    return (finishGroupOperation done params.operationID response, response)

/-! ## The response -/

/-- The users that a membership or the mirror places in the group. -/
def isGroupMember (db : Db) (id : GroupID) (userID : UserID) : Bool :=
  (db.memberships.find? (id, userID)).isSome ||
    (db.accounts.find? userID).any fun account => account.groupID = some id

def groupMember (db : Db) (periodID : PeriodID) (memberLimit : Option Text) (user : User) :
    GroupMember :=
  ⟨user.id, user.username, numericText (memberUsed db periodID user.id),
    groupMemberRemaining db periodID user.id memberLimit⟩

/-- Members who have spent most come first, then by name and id. -/
def memberOrder (db : Db) (periodID : PeriodID) (a b : User) : Prop :=
  let used := memberUsed db periodID
  used b.id < used a.id ∨ used a.id = used b.id ∧
    (Text.toLower a.username < Text.toLower b.username ∨
      Text.toLower a.username = Text.toLower b.username ∧ a.id ≤ b.id)

instance (db : Db) (periodID : PeriodID) (a b : User) : Decidable (memberOrder db periodID a b) :=
  inferInstanceAs (Decidable (_ ∨ _))

def groupDetail (db : Db) (id : GroupID) : Except StoreError GroupDetail := do
  let summary ← readGroupSummary db id
  let members := (db.users.rows.filter fun user => isGroupMember db id user.id).insertionSort
    (memberOrder db summary.periodID)
  return ⟨summary, members.map (groupMember db summary.periodID summary.memberLimitUSD)⟩

/-- `groupWrite`: the response is the detail of the group. -/
def groupWrite (db : Db) (params : GroupWriteParams) (action : Text) (values : List Text)
    (apply : Db → Except StoreError (Db × GroupDetail)) :
    Except StoreError (Db × GroupResponse) := do
  validateGroupWrite params
  claimedWrite db params action (values ++ [Text.trimSpace params.reason]) fun claimed => do
    let (done, detail) ← apply claimed
    return (done, .group detail)

/-! ## Writing a group -/

/-- Without a group id a group is created. -/
structure PutGroupParams where
  write : GroupWriteParams
  groupID : Option GroupID
  name : Text
  limitUSD : Text
  memberLimitUSD : Option Text
  memberLimitSet : Bool
  period : Text
  customDays : Int
  startsAt : Option Time
  periodCount : Option Int
  modelIDs : List Text
  modelIDsSet : Bool
  deriving Repr, DecidableEq

/-- The ids that a write draws: of a new group, of the period that a roll opens first, and
of the period that the write itself or its last roll opens. -/
structure PutGroupIDs where
  group : GroupID
  rolled : PeriodID
  opened : PeriodID

/-- The parameters after the checks that read no table. A member limit and models are given
only if they are to be changed. -/
structure GroupSettings where
  groupID : Option GroupID
  name : Text
  amount : Text
  memberLimit : Option (Option Text)
  period : GroupPeriodKind
  customDays : Int
  duration : Int
  startsAt : Option Time
  periodCount : Option Int
  models : Option (List Text)
  deriving Repr, DecidableEq

def validModelAccessModel (model : Text) : Bool :=
  !model.isEmpty && model.length ≤ 128 &&
    model.all fun c => ('a' ≤ c && c ≤ 'z') || ('A' ≤ c && c ≤ 'Z') || c.isDigit ||
      c = '.' || c = '_' || c = ':' || c = '-'

/-- `normalizeBillingModels`: trimmed, valid, each once, in order, and at least one. -/
def normalizeBillingModels (models : List Text) : Except StoreError (List Text) :=
  let trimmed := models.map Text.trimSpace
  if trimmed.all validModelAccessModel = false then .error (.invalid "invalid model access model")
  else if trimmed = [] then .error (.invalid "at least one model must be selected")
  else .ok (trimmed.dedup.insertionSort (· ≤ ·))

def groupPeriodText : GroupPeriodKind → Text
  | .day => "day".toList
  | .week => "week".toList
  | .month => "month".toList
  | .custom => "custom".toList

def groupPeriodKind? (text : Text) : Option GroupPeriodKind :=
  [.day, .week, .month, .custom].find? fun kind => groupPeriodText kind = text

/-- `groupPeriodDuration` on the text of a period. -/
def groupPeriodInput (period : Text) (customDays : Int) :
    Except StoreError (GroupPeriodKind × Int) :=
  match groupPeriodKind? period with
  | some kind => (groupPeriodDuration kind customDays).map fun duration => (kind, duration)
  | none =>
    if customDays ≠ 0 then .error (.invalid "custom days require a custom period")
    else .error (.invalid "invalid subscription tier")

/-- A given member limit is always set. -/
def memberLimitInput (limit : Option Text) (isSet : Bool) :
    Except StoreError (Option (Option Text)) :=
  match limit with
  | some text =>
    ((parseInput text false true).map fun amount => some (some amount)).mapError
      fun _ => .invalid "invalid group member limit"
  | none => .ok (if isSet then some none else none)

/-- Given models are always set. -/
def modelInput (models : List Text) (isSet : Bool) : Except StoreError (Option (List Text)) :=
  if models ≠ [] ∨ isSet then (normalizeBillingModels models).map some else .ok none

def checkPeriodCount (count : Option Int) : Except StoreError Unit :=
  if count.any fun n => n < 0 ∨ n > 99 then
    .error (.invalid "group period count must be between 0 and 99")
  else .ok ()

def checkAnchor : Option Time → Except StoreError Unit
  | none => .ok ()
  | some anchor => validateGroupTime anchor

def putGroupSettings (params : PutGroupParams) : Except StoreError GroupSettings := do
  let name := Text.trimSpace params.name
  if name = [] ∨ name.length > 120 then
    throw (.invalid "group name is required (maximum 120 characters)")
  let amount ← (parseInput params.limitUSD false true).mapError
    fun _ => .invalid "invalid group limit"
  let memberLimit ← memberLimitInput params.memberLimitUSD params.memberLimitSet
  let (period, duration) ← groupPeriodInput params.period params.customDays
  validateGroupTime params.write.at'
  checkPeriodCount params.periodCount
  let models ← modelInput params.modelIDs params.modelIDsSet
  checkAnchor params.startsAt
  return ⟨params.groupID, name, amount, memberLimit, period, params.customDays, duration,
    params.startsAt, params.periodCount, models⟩

/-- `strings.Join` with a zero byte. -/
def joinZero : List Text → Text
  | [] => []
  | [text] => text
  | text :: rest => text ++ Char.ofNat 0 :: joinZero rest

/-- The values of the fingerprint. A point in time stands for its text. -/
def putGroupValues (s : GroupSettings) : List Text :=
  [(s.groupID.map idText).getD [], s.name, s.amount, groupPeriodText s.period,
    Text.ofInt s.customDays, (s.startsAt.map Text.ofInt).getD []] ++
  (s.memberLimit.elim [] fun limit => ["member_limit_usd".toList, limit.getD "null".toList]) ++
  (s.periodCount.elim [] fun count => ["period_count".toList, Text.ofInt count]) ++
  s.models.elim ["model_ids_omitted".toList] fun models => ["model_ids".toList, joinZero models]

/-- The models of a new group: the given ones, or the whole catalog. -/
def newGroupModels (db : Db) : Option (List Text) → Except StoreError (List Text)
  | some models => do
    validateBillingModels db models
    return models
  | none => .ok (db.activeModels.insertionSort (· ≤ ·))

/-- The models after an edit: the given ones, or those it had. -/
def editedGroupModels (db : Db) (old : List Text) : Option (List Text) → Except StoreError (List Text)
  | some models => do
    validateBillingModels db models
    return models
  | none => .ok old

def checkActive (g : GroupSummary) : Except StoreError Unit :=
  if g.archivedAt.isSome then .error (.conflict "group is archived") else .ok ()

/-- The group before the write: a blank one, or the stored one after a roll, and its
current period. -/
def draftGroup (db : Db) (s : GroupSettings) (now : Time) (ids : PutGroupIDs) :
    Except StoreError (Db × GroupSummary × Option PeriodID) :=
  match s.groupID with
  | none => do
    let models ← newGroupModels db s.models
    let start := s.startsAt.getD now
    return (db,
      { id := ids.group
        name := s.name
        limitUSD := s.amount
        memberLimitUSD := s.memberLimit.getD none
        usedUSD := []
        remainingUSD := []
        period := s.period
        customDays := s.customDays
        startsAt := start
        periodID := 0
        periodStartsAt := start
        periodEndsAt := start
        periodCount := 1
        currentPeriodNumber := 1
        expiresAt := none
        memberCount := 0
        archivedAt := none
        modelIDs := models }, none)
  | some id => do
    lockGroup db id
    let (db, g) ← rollGroup db id now ids.rolled
    checkActive g
    let models ← editedGroupModels db g.modelIDs s.models
    return (db, { g with modelIDs := models }, some g.periodID)

/-- A change of the period, the length or the anchor starts a new term. -/
def resetsTerm (s : GroupSettings) (g : GroupSummary) (current : Option PeriodID) : Bool :=
  current.isNone || g.period ≠ s.period || g.customDays ≠ s.customDays ||
    s.startsAt.any fun anchor => anchor ≠ g.startsAt

/-- A new term starts in the period that contains the present, which gets number one. -/
def placePeriod (reset : Bool) (g : GroupSummary) (start now : Time) (duration : Int) :
    Except StoreError GroupSummary :=
  if reset then do
    let periodStart := groupPeriodStart start now duration
    let periodEnd ← addGroupPeriods periodStart duration 1
    return { g with
      currentPeriodNumber := 1, periodStartsAt := periodStart, periodEndsAt := periodEnd }
  else .ok g

/-- The row that a write leaves, except for its current period. -/
def groupRow (s : GroupSettings) (g : GroupSummary) (start : Time) (expires : Option Time)
    (currentPeriodID : Option PeriodID) : Group where
  id := g.id
  name := s.name
  limitUSD := numeric s.amount
  memberLimitUSD := g.memberLimitUSD.map numeric
  period := s.period
  customDays := s.customDays
  startsAt := start
  currentPeriodID := currentPeriodID
  archivedAt := g.archivedAt
  periodCount := g.periodCount
  currentPeriodNumber := g.currentPeriodNumber
  expiresAt := expires
  modelIDs := g.modelIDs
  modelsInitialized := !g.modelIDs.isEmpty

/-- The `INSERT` of a new group or the `UPDATE` of a stored one. -/
def saveGroup (db : Db) (s : GroupSettings) (g : GroupSummary) (start : Time)
    (expires : Option Time) (current : Option PeriodID) : Except StoreError Db :=
  match current with
  | none =>
    match db.groups.insert? (groupRow s g start expires none) with
    | none => .error (.conflict "create group")
    | some groups => .ok { db with groups }
  | some _ =>
    .ok { db with
      groups := db.groups.modify g.id
        (fun row => { groupRow s g start expires row.currentPeriodID with
          id := row.id, archivedAt := row.archivedAt })
        (fun _ => rfl) }

def limitPeriod (db : Db) (s : GroupSettings) (g : GroupSummary) : Db :=
  { db with
    groupPeriods := db.groupPeriods.modify g.periodID
      (fun period => { period with
        limitUSD := numeric s.amount, memberLimitUSD := g.memberLimitUSD.map numeric })
      (fun _ => rfl) }

/-- The period after the row: a new one if the term was reset, otherwise the current one
with the new limits, rolled on if an extended term covers the present. -/
def savePeriod (db : Db) (reset : Bool) (s : GroupSettings) (g : GroupSummary)
    (current : Option PeriodID) (now : Time) (newID : PeriodID) : Except StoreError Db :=
  if reset then replaceGroupPeriod db g current g.periodStartsAt g.periodEndsAt now newID
  else do
    let (rolled, _) ← rollGroup (limitPeriod db s g) g.id now newID
    return rolled

def applyPutGroup (s : GroupSettings) (now : Time) (ids : PutGroupIDs) (db : Db) :
    Except StoreError (Db × GroupDetail) := do
  let (db, old, current) ← draftGroup db s now ids
  let reset := resetsTerm s old current
  let start := if reset then s.startsAt.getD now else old.startsAt
  let g ← placePeriod reset
    { old with
      memberLimitUSD := s.memberLimit.getD old.memberLimitUSD
      periodCount := s.periodCount.getD old.periodCount
      limitUSD := s.amount }
    start now s.duration
  let expires ← groupExpiration g.periodEndsAt s.duration g.periodCount g.currentPeriodNumber
  let db ← saveGroup db s g start expires current
  let db ← savePeriod db reset s g current now ids.opened
  let detail ← groupDetail db g.id
  return (db, detail)

def putGroup (db : Db) (params : PutGroupParams) (ids : PutGroupIDs) :
    Except StoreError (Db × GroupResponse) := do
  let settings ← putGroupSettings params
  groupWrite db params.write "put".toList (putGroupValues settings)
    (applyPutGroup settings params.write.at' ids)

/-! ## Members -/

inductive MembersAction where
  | add
  | remove
  | removeAll
  deriving Repr, DecidableEq

def MembersAction.text : MembersAction → Text
  | .add => "members.add".toList
  | .remove => "members.remove".toList
  | .removeAll => "members.remove_all".toList

structure SetGroupMembersParams where
  write : GroupWriteParams
  groupID : GroupID
  userIDs : List UserID
  action : MembersAction
  deriving Repr, DecidableEq

/-- The users of the operation in order, each named once. -/
def memberInput (params : SetGroupMembersParams) : Except StoreError (List UserID) :=
  if (params.action = .removeAll ∧ params.userIDs ≠ []) ∨
      (params.action ≠ .removeAll ∧ (params.userIDs = [] ∨ params.userIDs.length > 5000)) then
    .error (.invalid "invalid group members operation")
  else if params.userIDs.Nodup then .ok (params.userIDs.insertionSort (· ≤ ·))
  else .error (.invalid "user IDs must be distinct")

/-- The users with a membership or a mirror of the group. -/
def groupMemberAccountIDs (db : Db) (id : GroupID) : List UserID :=
  (((db.memberships.rows.filter fun row => row.groupID = id).map GroupMembership.userID ++
    (db.accounts.rows.filter fun account => account.groupID = some id).map
      BillingAccount.userID).dedup).insertionSort (· ≤ ·)

def lockGroupMemberUsers (db : Db) (ids : List UserID) : Except StoreError Unit :=
  if ids.any fun id => (db.users.find? id).any fun user => user.status = .pending then
    .error (.conflict "user registration is awaiting approval")
  else if ids.all fun id => (db.users.find? id).isSome then .ok ()
  else .error (.notFound "group member user is missing")

/-- A new membership, and the mirror if it is empty. -/
def addMember (groupID : GroupID) (db : Db) (userID : UserID) : Db :=
  { db with
    memberships := db.memberships.insertIfAbsent ⟨groupID, userID, 100⟩
    accounts := db.accounts.modify userID
      (fun account => { account with groupID := some (account.groupID.getD groupID) })
      (fun _ => rfl) }

/-- The first membership of a user in priority order. -/
def firstMembership (memberships : Table GroupMembership.key) (userID : UserID) : Option GroupID :=
  (((memberships.rows.filter fun row => row.userID = userID).insertionSort
    fun a b => a.priority < b.priority ∨ a.priority = b.priority ∧ a.groupID ≤ b.groupID).head?).map
    GroupMembership.groupID

/-- Without the membership; a mirror of it moves to the first one left. -/
def removeMember (groupID : GroupID) (db : Db) (userID : UserID) : Db :=
  let memberships := db.memberships.delete fun row => row.groupID = groupID ∧ row.userID = userID
  { db with
    memberships
    accounts := db.accounts.update
      (fun account => account.userID = userID ∧ account.groupID = some groupID)
      (fun account => { account with groupID := firstMembership memberships userID })
      (fun _ => rfl) }

/-- Without all memberships. A mirror is cleared only for users without any other. -/
def removeAllMembers (groupID : GroupID) (db : Db) : Db :=
  let memberships := db.memberships.delete fun row => row.groupID = groupID
  { db with
    memberships
    accounts := db.accounts.update
      (fun account => account.groupID = some groupID ∧
        memberships.rows.all fun row => row.userID ≠ account.userID)
      (fun account => { account with groupID := none })
      (fun _ => rfl) }

def changeMembers (action : MembersAction) (groupID : GroupID) (ids : List UserID) (db : Db) : Db :=
  match action with
  | .add => ids.foldl (addMember groupID) db
  | .remove => ids.foldl (removeMember groupID) db
  | .removeAll => removeAllMembers groupID db

def applySetGroupMembers (params : SetGroupMembersParams) (ids : List UserID) (newID : PeriodID)
    (db : Db) : Except StoreError (Db × GroupDetail) := do
  lockGroupMemberUsers db
    (if params.action = .removeAll then groupMemberAccountIDs db params.groupID else ids)
  lockGroup db params.groupID
  let (db, g) ← rollGroup db params.groupID params.write.at' newID
  checkActive g
  let db := changeMembers params.action params.groupID ids db
  let detail ← groupDetail db params.groupID
  return (db, detail)

def setGroupMembers (db : Db) (params : SetGroupMembersParams) (newID : PeriodID) :
    Except StoreError (Db × GroupResponse) := do
  let ids ← memberInput params
  groupWrite db params.write params.action.text (idText params.groupID :: ids.map idText)
    (applySetGroupMembers params ids newID)

/-! ## Archiving -/

structure ArchiveGroupParams where
  write : GroupWriteParams
  groupID : GroupID
  deriving Repr, DecidableEq

def checkEmpty (g : GroupSummary) : Except StoreError Unit :=
  if g.memberCount ≠ 0 then .error (.conflict "only empty groups can be archived") else .ok ()

def applyArchiveGroup (params : ArchiveGroupParams) (newID : PeriodID) (db : Db) :
    Except StoreError (Db × GroupDetail) := do
  lockGroup db params.groupID
  let (db, g) ← rollGroup db params.groupID params.write.at' newID
  checkEmpty g
  let db := { db with
    groups := db.groups.modify params.groupID
      (fun group => { group with archivedAt := some (group.archivedAt.getD params.write.at') })
      (fun _ => rfl)
    groupPeriods := db.groupPeriods.modify g.periodID
      (fun period => { period with closedAt := some (period.closedAt.getD params.write.at') })
      (fun _ => rfl) }
  let detail ← groupDetail db params.groupID
  return (db, detail)

def archiveGroup (db : Db) (params : ArchiveGroupParams) (newID : PeriodID) :
    Except StoreError (Db × GroupResponse) :=
  groupWrite db params.write "archive".toList [idText params.groupID]
    (applyArchiveGroup params newID)

/-! ## Account pools -/

structure SetGroupUpstreamAccountsParams where
  write : GroupWriteParams
  groupID : GroupID
  provider : Text
  strategy : Text
  accountIDs : List Text
  deriving Repr, DecidableEq

/-- The parameters after `normalizeGroupUpstreamParams`. -/
structure PoolSettings where
  groupID : GroupID
  provider : UpstreamProvider
  strategy : PoolStrategy
  accountIDs : List AccountID
  deriving Repr, DecidableEq

def providerText : UpstreamProvider → Text
  | .codex => "codex".toList
  | .antigravity => "antigravity".toList
  | .anthropic => "anthropic".toList

def strategyText : PoolStrategy → Text
  | .all => "all".toList
  | .selected => "selected".toList

def provider? (text : Text) : Option UpstreamProvider :=
  [.codex, .antigravity, .anthropic].find? fun provider =>
    providerText provider = Text.toLower (Text.trimSpace text)

/-- An empty text is the strategy `all`. -/
def strategy? (text : Text) : Option PoolStrategy :=
  let text := Text.toLower (Text.trimSpace text)
  if text = [] then some .all else [.all, .selected].find? fun strategy => strategyText strategy = text

def accountID? (text : Text) : Option AccountID :=
  if valid : IsAccountID (Text.trimSpace text) then some ⟨Text.trimSpace text, valid⟩ else none

/-- The accounts in order, each named once. -/
def poolAccounts (ids : List Text) : Except StoreError (List AccountID) :=
  match ids.mapM accountID? with
  | none => .error (.invalid "invalid or duplicate upstream account")
  | some accounts =>
    if accounts.Nodup then .ok (accounts.insertionSort fun a b => a.val ≤ b.val)
    else .error (.invalid "invalid or duplicate upstream account")

def normalizeGroupUpstreamParams (params : SetGroupUpstreamAccountsParams) :
    Except StoreError PoolSettings :=
  match provider? params.provider, strategy? params.strategy with
  | none, _ => .error (.invalid "invalid upstream provider")
  | some _, none => .error (.invalid "invalid group upstream strategy")
  | some provider, some strategy =>
    if strategy = .all ∧ params.accountIDs ≠ [] then
      .error (.invalid "all strategy cannot include accounts")
    else (poolAccounts params.accountIDs).map fun accounts =>
      ⟨params.groupID, provider, strategy, accounts⟩

/-- The checks that this write makes before it looks for a record of the operation. -/
def checkPool (db : Db) (pool : PoolSettings) : Except StoreError Unit :=
  match db.groups.find? pool.groupID with
  | none => .error (.notFound "lock group")
  | some group =>
    if group.archivedAt.isSome then .error (.conflict "group is archived")
    else if pool.accountIDs.all fun id =>
        (db.upstreamAccounts.find? id).any fun account => account.provider = pool.provider then
      .ok ()
    else .error (.notFound "upstream account not found for provider")

/-- Replace the policy and the pool of the group for one provider. -/
def savePool (pool : PoolSettings) (db : Db) : Db :=
  let access := db.upstreamAccess
  let others := access.selected.filter fun row => row ≠ (pool.groupID, pool.provider)
  { db with
    upstreamAccess := { access with
      selected :=
        if pool.strategy = .selected then (pool.groupID, pool.provider) :: others else others
      pooled := (pool.accountIDs.map fun id => (pool.groupID, pool.provider, id)) ++
        access.pooled.filter fun row => ¬ (row.1 = pool.groupID ∧ row.2.1 = pool.provider) } }

def poolValues (pool : PoolSettings) : List Text :=
  ["group_upstream_accounts".toList, idText pool.groupID, providerText pool.provider,
    strategyText pool.strategy, joinZero (pool.accountIDs.map Subtype.val)]

def setGroupUpstreamAccounts (db : Db) (params : SetGroupUpstreamAccountsParams) :
    Except StoreError (Db × GroupResponse) := do
  let pool ← normalizeGroupUpstreamParams params
  validateGroupWrite params.write
  checkPool db pool
  claimedWrite db params.write "group_upstream_accounts".toList
    (poolValues pool ++ [Text.trimSpace params.write.reason]) fun claimed =>
    .ok (savePool pool claimed,
      .policy ⟨pool.groupID, pool.provider, pool.strategy, pool.accountIDs, params.write.at'⟩)

/-! ## Priorities -/

structure SetGroupMembershipPreferenceParams where
  write : GroupWriteParams
  groupID : GroupID
  userID : UserID
  priority : Int
  deriving Repr, DecidableEq

def checkPreference (params : SetGroupMembershipPreferenceParams) : Except StoreError Unit :=
  if params.write.actorUserID ≠ params.userID ∨ params.priority < 1 ∨ params.priority > 100 then
    .error (.invalid "membership priority requires the member and a value between 1 and 100")
  else .ok ()

def applyPreference (params : SetGroupMembershipPreferenceParams) (db : Db) :
    Except StoreError (Db × GroupResponse) :=
  match db.groups.find? params.groupID with
  | none => .error (.notFound "read group status")
  | some group =>
    if group.archivedAt.isSome then .error (.conflict "group is archived")
    else if (db.memberships.find? (params.groupID, params.userID)).isNone then
      .error (.notFound "group membership not found")
    else
      .ok ({ db with
        memberships := db.memberships.modify (params.groupID, params.userID)
          (fun row => { row with priority := params.priority }) (fun _ => rfl) },
        .preference ⟨params.groupID, params.userID, params.priority⟩)

def setGroupMembershipPriority (db : Db) (params : SetGroupMembershipPreferenceParams) :
    Except StoreError (Db × GroupResponse) := do
  validateGroupWrite params.write
  checkPreference params
  lockBillingAccount db params.userID
  lockGroup db params.groupID
  claimedWrite db params.write "membership_priority".toList
    ["membership_priority".toList, idText params.groupID, idText params.userID,
      Text.ofInt params.priority, Text.trimSpace params.write.reason]
    (applyPreference params)

/-! ## What a claimed write does -/

section Claimed

variable {db db' : Db} {params : GroupWriteParams} {action : Text} {fingerprint : List Text}

/-- The stored row answers a repetition of the write with a response. -/
structure GroupOperation.Answers (stored : GroupOperation) (params : GroupWriteParams)
    (action : Text) (fingerprint : List Text) (response : GroupResponse) : Prop where
  actor : stored.actorUserID = params.actorUserID
  action' : stored.action = action
  fingerprint' : stored.fingerprint = fingerprint
  response' : stored.response = some response

theorem claimGroupOperation_replay
    (ok : claimGroupOperation db params action fingerprint = .ok (.replay response)) :
    ∃ stored, db.groupOperations.find? params.operationID = some stored ∧
      stored.Answers params action fingerprint response := by
  unfold claimGroupOperation at ok
  dsimp only at ok
  split at ok
  · rename_i stored found
    split at ok
    · rename_i kept recorded
      split at ok
      · cases ok
      · rename_i same
        simp only [not_or, not_not] at same
        cases ok
        exact ⟨stored, found, same.1, same.2.1, same.2.2, recorded⟩
    · cases ok
  · split at ok <;> cases ok
  · cases ok

theorem claimGroupOperation_created {claimed : Db}
    (ok : claimGroupOperation db params action fingerprint = .ok (.created claimed)) :
    db.groupOperations.find? params.operationID = none ∧
      ∃ operations, db.groupOperations.insert?
          ⟨params.operationID, params.actorUserID, action, fingerprint, none⟩ = some operations ∧
        claimed = { db with groupOperations := operations } := by
  unfold claimGroupOperation at ok
  dsimp only at ok
  split at ok
  · split at ok
    · split at ok <;> cases ok
    · cases ok
  · rename_i operations absent inserted
    split at ok <;> cases ok
    exact ⟨absent, operations, inserted, rfl⟩
  · cases ok

/-- A claimed write is answered from the record, or runs and leaves a record. -/
theorem claimedWrite_ok {apply : Db → Except StoreError (Db × GroupResponse)}
    (ok : claimedWrite db params action fingerprint apply = .ok (db', response)) :
    (db' = db ∧ ∃ stored, db.groupOperations.find? params.operationID = some stored ∧
      stored.Answers params action fingerprint response) ∨
    (db.groupOperations.find? params.operationID = none ∧ ∃ operations done,
      db.groupOperations.insert?
        ⟨params.operationID, params.actorUserID, action, fingerprint, none⟩ = some operations ∧
      apply { db with groupOperations := operations } = .ok (done, response) ∧
      db' = finishGroupOperation done params.operationID response) := by
  obtain ⟨claim, claimed, ok⟩ := Except.bind_eq_ok.mp ok
  cases claim with
  | replay stored =>
    cases ok
    exact .inl ⟨rfl, claimGroupOperation_replay claimed⟩
  | created start =>
    obtain ⟨⟨done, answer⟩, applied, ok⟩ := Except.bind_eq_ok.mp ok
    cases ok
    obtain ⟨absent, operations, inserted, rfl⟩ := claimGroupOperation_created claimed
    exact .inr ⟨absent, operations, done, inserted, applied, rfl⟩

theorem groupWrite_ok {values : List Text} {apply : Db → Except StoreError (Db × GroupDetail)}
    (ok : groupWrite db params action values apply = .ok (db', response)) :
    db' = db ∨ ∃ operations done detail,
      apply { db with groupOperations := operations } = .ok (done, detail) ∧
      db' = finishGroupOperation done params.operationID (.group detail) := by
  obtain ⟨-, ok⟩ := Except.check_bind_eq_ok.mp ok
  rcases claimedWrite_ok ok with ⟨rfl, -⟩ | ⟨-, operations, done, -, applied, rfl⟩
  · exact .inl rfl
  · obtain ⟨⟨_, detail⟩, ran, same⟩ := Except.bind_eq_ok.mp applied
    cases same
    exact .inr ⟨operations, _, detail, ran, rfl⟩

end Claimed

end Store
