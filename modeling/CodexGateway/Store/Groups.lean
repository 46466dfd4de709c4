import CodexGateway.Store.Funds

/-! # Groups and their periods

A group spends from one period at a time. Rolling a group opens the period that
contains the present; the old period stays, because requests bound to it still
settle against it. Points in time are nanoseconds, and Go's `Unix` and
`Nanosecond` split them.
-/

namespace Store

open Billing

/-! ## Time -/

def second : Int := 1000000000

/-- The whole seconds of `Time.Unix`. -/
def unix (t : Time) : Int := t / second

/-- The rest of `Time.Nanosecond`. -/
def nanosecond (t : Time) : Int := t % second

/-- The point in time of `time.Unix`. -/
def timeUnix (seconds nanoseconds : Int) : Time := seconds * second + nanoseconds

def firstCalendarSecond : Int := -62135596800
def lastCalendarSecond : Int := 253402300799

/-- The years 1 to 9999. -/
def InCalendar (t : Time) : Prop := firstCalendarSecond ≤ unix t ∧ unix t ≤ lastCalendarSecond

instance (t : Time) : Decidable (InCalendar t) := inferInstanceAs (Decidable (_ ∧ _))

def day : Int := 24 * 3600 * second

/-! ## Period arithmetic -/

def groupPeriodDuration (period : GroupPeriodKind) (customDays : Int) : Except StoreError Int :=
  if period = .custom then
    if customDays < 1 ∨ customDays > 106751 then
      .error (.invalid "custom period days must be between 1 and 106751")
    else .ok (customDays * day)
  else if customDays ≠ 0 then .error (.invalid "custom days require a custom period")
  else
    match period with
    | .day => .ok day
    | .week => .ok (7 * day)
    | _ => .ok (31 * day)

def groupPeriodStart (anchor now : Time) (duration : Int) : Time :=
  if now < anchor then anchor
  else
    let elapsed := unix now - unix anchor
    let elapsed := if nanosecond now < nanosecond anchor then elapsed - 1 else elapsed
    let seconds := duration / second
    timeUnix (unix anchor + elapsed / seconds * seconds) (nanosecond anchor)

def validateGroupTime (t : Time) : Except StoreError Unit :=
  if InCalendar t then .ok ()
  else .error (.invalid "group dates must be between years 1 and 9999")

def addGroupPeriods (anchor : Time) (duration count : Int) : Except StoreError Time := do
  validateGroupTime anchor
  let seconds := duration / second
  if count < 0 ∨ seconds ≤ 0 ∨ count > (lastCalendarSecond - unix anchor) / seconds then
    throw (.invalid "group period or expiry exceeds the supported date range")
  return timeUnix (unix anchor + count * seconds) (nanosecond anchor)

def groupExpiration (ends : Time) (duration count current : Int) :
    Except StoreError (Option Time) := do
  if count = 0 then return none
  if count < current then
    throw (.invalid "group period count cannot be below the current period number")
  let expires ← addGroupPeriods ends duration (count - current)
  return some expires

/-! ## Reading a group -/

/-- Accounts whose mirror names the group although no membership does. -/
def mirrorOnly (db : Db) (id : GroupID) : List BillingAccount :=
  db.accounts.rows.filter fun account =>
    account.groupID = some id ∧ db.memberships.find? (id, account.userID) = none

def memberCount (db : Db) (id : GroupID) : Nat :=
  (db.memberships.rows.filter fun row => row.groupID = id).length + (mirrorOnly db id).length

def readGroupSummary (db : Db) (id : GroupID) : Except StoreError GroupSummary :=
  match db.groups.find? id with
  | none => .error (.notFound "read group")
  | some group =>
    match group.currentPeriodID.bind db.groupPeriods.find? with
    | none => .error (.notFound "read group")
    | some period =>
      .ok {
        id := group.id
        name := group.name
        limitUSD := numericText group.limitUSD
        memberLimitUSD := group.memberLimitUSD.map numericText
        usedUSD := numericText period.usedUSD
        remainingUSD := numericText (max (group.limitUSD - period.usedUSD) 0)
        period := group.period
        customDays := group.customDays
        startsAt := group.startsAt
        periodID := period.id
        periodStartsAt := period.startsAt
        periodEndsAt := period.endsAt
        periodCount := group.periodCount
        currentPeriodNumber := group.currentPeriodNumber
        expiresAt := group.expiresAt
        memberCount := memberCount db id
        archivedAt := group.archivedAt
        modelIDs := group.modelIDs }

def lockGroup (db : Db) (id : GroupID) : Except StoreError Unit :=
  if (db.groups.find? id).isSome then .ok () else .error (.notFound "lock group")

/-! ## Rolling -/

/-- Close the current period, if there is one, and open the next under a new id. -/
def replaceGroupPeriod (db : Db) (g : GroupSummary) (current : Option PeriodID)
    (starts ends closedAt : Time) (newID : PeriodID) : Except StoreError Db := do
  let periods :=
    match current with
    | none => db.groupPeriods
    | some id =>
      db.groupPeriods.modify id
        (fun period => { period with closedAt := some (period.closedAt.getD closedAt) })
        (fun _ => rfl)
  let row : GroupPeriod :=
    ⟨newID, g.id, starts, ends, numeric g.limitUSD, 0, g.memberLimitUSD.map numeric, none⟩
  match periods.insert? row with
  | none => throw (.conflict "create group period")
  | some periods =>
    return { db with
      groupPeriods := periods
      groups := db.groups.modify g.id
        (fun group => { group with
          currentPeriodID := some newID, currentPeriodNumber := g.currentPeriodNumber })
        (fun _ => rfl) }

def rollGroup (db : Db) (id : GroupID) (now : Time) (newID : PeriodID) :
    Except StoreError (Db × GroupSummary) := do
  let g ← readGroupSummary db id
  if g.archivedAt.isSome ∨ now < g.periodEndsAt ∨ g.expiresAt.any (· ≤ now) then return (db, g)
  let duration ← groupPeriodDuration g.period g.customDays
  let start := groupPeriodStart g.periodStartsAt now duration
  match addGroupPeriods start duration 1 with
  -- At the end of the calendar there is no next cycle; the last one stays.
  | .error _ => return (db, g)
  | .ok ends =>
    let number := g.currentPeriodNumber +
      (unix start - unix g.periodStartsAt) / (duration / second)
    if g.periodCount > 0 ∧ number > g.periodCount then
      throw (.invalid "group period exceeds its configured count")
    let db ← replaceGroupPeriod db { g with currentPeriodNumber := number } (some g.periodID)
      start ends g.periodEndsAt newID
    let rolled ← readGroupSummary db id
    return (db, rolled)

/-! ## Funds of a group -/

/-- `GREATEST(limit_usd-used_usd,0)` of a period. -/
def GroupPeriod.available (period : GroupPeriod) : Int :=
  max (period.limitUSD - period.usedUSD) 0

/-- `COALESCE(used_usd,0)` of a member's counter. -/
def memberUsed (db : Db) (periodID : PeriodID) (userID : UserID) : Int :=
  ((db.memberUsage.find? (periodID, userID)).map GroupMemberUsage.usedUSD).getD 0

def groupMemberRemaining (db : Db) (periodID : PeriodID) (userID : UserID) :
    Option Text → Option Text
  | none => none
  | some limit => some (numericText (max (numeric limit - memberUsed db periodID userID) 0))

def groupPeriodActive (g : GroupSummary) (now : Time) : Bool :=
  g.archivedAt.isNone && !(now < g.periodStartsAt) && now < g.periodEndsAt &&
    g.expiresAt.all (now < ·)

def groupModelAllowed (g : GroupSummary) (model : Text) : Bool :=
  g.modelIDs.contains model

def groupHasNextPeriod (g : GroupSummary) : Bool :=
  if g.archivedAt.isSome ∨ (g.periodCount ≠ 0 ∧ g.currentPeriodNumber ≥ g.periodCount) ∨
      g.expiresAt.any (· ≤ g.periodEndsAt) then false
  else
    match groupPeriodDuration g.period g.customDays with
    | .error _ => false
    | .ok duration => (addGroupPeriods g.periodEndsAt duration 1).isOk

def lockBoundGroupPeriod (db : Db) : Option GroupID → Option PeriodID → Except StoreError Unit
  | none, none => .ok ()
  | some groupID, some periodID => do
    lockGroup db groupID
    match db.groupPeriods.find? periodID with
    | none => throw (.notFound "lock bound group period")
    | some period =>
      if period.groupID = groupID then return ()
      else throw (.notFound "lock bound group period")
  | _, _ => .error (.invalid "incomplete group binding")

/-! ## The groups that may pay for a user -/

/-- The memberships of a user in priority order; without any, the mirror. -/
def userMemberships (db : Db) (userID : UserID) : Except StoreError (List GroupID) :=
  let members := (db.memberships.rows.filter fun row => row.userID = userID).insertionSort
    fun a b => a.priority < b.priority ∨ a.priority = b.priority ∧ a.groupID ≤ b.groupID
  if members ≠ [] then .ok (members.map GroupMembership.groupID)
  else
    match db.accounts.find? userID with
    | none => .error (.notFound "read legacy user group")
    | some account => .ok account.groupID.toList

/-- Roll the groups one after the other; archived ones are dropped. -/
def rollGroups (now : Time) (newID : GroupID → PeriodID) :
    List GroupID → Db → Except StoreError (Db × List GroupSummary)
  | [], db => .ok (db, [])
  | id :: rest, db => do
    let (db, g) ← rollGroup db id now (newID id)
    let (db, others) ← rollGroups now newID rest db
    return (db, if g.archivedAt.isNone then g :: others else others)

def groupUsable (db : Db) (userID : UserID) (now : Time) (g : GroupSummary) : Bool :=
  groupPeriodActive g now && billingPositive g.remainingUSD &&
    (groupMemberRemaining db g.periodID userID g.memberLimitUSD).all billingPositive

def userFundingGroups (db : Db) (userID : UserID) (now : Time) (model : Text)
    (newID : GroupID → PeriodID) :
    Except StoreError (Db × List GroupSummary × Option GroupSummary) := do
  let members ← userMemberships db userID
  members.forM (lockGroup db)
  let (db, summaries) ← rollGroups now newID members.dedup db
  let candidates := summaries.filter fun g => model = [] ∨ groupModelAllowed g model
  let fallback := candidates.find? fun g => g.expiresAt.all (now < ·)
  return (db, candidates.filter (groupUsable db userID now), fallback)

end Store
