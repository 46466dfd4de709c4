import CodexGateway.Store.Groups

/-! # Subscriptions and their periods

A subscription spends from one period at a time, under the entitlement that is in
force. Rolling closes elapsed periods and opens the one that contains the
present; a purchase opens a subscription, a renewal appends an entitlement.
-/

namespace Store

open Billing

def maxInt32 : Int := 2147483647

def billingExpiryDays (start : Time) (days count : Int) : Except StoreError Time := do
  if days < 1 ∨ days > 3650 ∨ count < 1 ∨ count > maxInt32 ∨ ¬ InCalendar start then
    throw (.invalid "subscription duration exceeds supported range")
  let ends := timeUnix (unix start + days * count * 86400) (nanosecond start)
  if unix ends > lastCalendarSecond ∨ ends ≤ start then
    throw (.invalid "subscription expiry exceeds supported range")
  return ends

def validateBillingModels (db : Db) (models : List Text) : Except StoreError Unit :=
  if models.all db.activeModels.contains then .ok ()
  else .error (.invalid "model is not in the manageable catalog")

/-- What a purchase, a reopening or a renewal writes into an entitlement. -/
structure EntitlementTerms where
  tier : BillingTier
  periodDays : Int
  allowanceUSD : Int
  modelIDs : List Text
  deriving Repr, DecidableEq

def BillingPlan.terms (plan : BillingPlan) : EntitlementTerms :=
  ⟨plan.tier, plan.periodDays, plan.allowanceUSD, plan.modelIDs⟩

/-- The end of an entitlement; without a count it has none. -/
def entitlementEnd (start : Time) (days count : Int) : Except StoreError (Option Time) :=
  if count > 0 then (billingExpiryDays start days count).map some else .ok none

def insertBillingEntitlement (db : Db) (userID : UserID) (subscriptionID : SubscriptionID)
    (start : Time) (terms : EntitlementTerms) (count first : Int) (newID : EntitlementID) :
    Except StoreError (Db × Option Time) := do
  let ends ← entitlementEnd start terms.periodDays count
  let row : Entitlement :=
    { id := newID
      subscriptionID
      userID
      startsAt := start
      endsAt := ends
      tier := terms.tier
      periodDays := terms.periodDays
      allowanceUSD := terms.allowanceUSD
      modelIDs := terms.modelIDs
      periodCount := count
      firstPeriodNumber := first
      supersededAt := none }
  match db.entitlements.insert? row with
  | none => throw (.conflict "create subscription entitlement")
  | some entitlements => return ({ db with entitlements }, ends)

/-! ## Rolling -/

/-- A subscription whose current period has elapsed, as the query read it. -/
structure StaleSubscription where
  id : SubscriptionID
  periodID : PeriodID
  expiry : Option Time
  deriving Repr, DecidableEq

def staleSubscriptions (db : Db) (userID : UserID) (at' : Time) : List StaleSubscription :=
  (db.subscriptions.rows.insertionSort fun a b => a.id ≤ b.id).filterMap fun s =>
    if s.userID = userID ∧ s.enabled then
      (s.currentPeriodID.bind db.subscriptionPeriods.find?).bind fun period =>
        if period.endsAt ≤ at' then some ⟨s.id, period.id, s.expiresAt⟩ else none
    else none

/-- The entitlement in force: of those that contain the time, the last to start. -/
def currentEntitlement (db : Db) (subscriptionID : SubscriptionID) (at' : Time) :
    Except StoreError Entitlement :=
  let inForce := db.entitlements.rows.filter fun e =>
    e.subscriptionID = subscriptionID ∧ e.supersededAt = none ∧ e.startsAt ≤ at' ∧
      e.endsAt.all (at' < ·)
  match inForce.insertionSort fun a b => b.startsAt ≤ a.startsAt with
  | [] => .error (.notFound "locate current subscription entitlement")
  | e :: _ => .ok e

/-- The start of the period of an entitlement after some elapsed ones. -/
def advancedStart (start : Time) (days elapsed : Int) : Except StoreError Time :=
  if elapsed > 0 then billingExpiryDays start days elapsed else .ok start

def closeElapsedPeriod (db : Db) (periodID : PeriodID) : Db :=
  { db with
    subscriptionPeriods := db.subscriptionPeriods.modify periodID
      (fun period => { period with closedAt := some (period.closedAt.getD period.endsAt) })
      (fun _ => rfl) }

def disableSubscription (db : Db) (id : SubscriptionID) : Db :=
  { db with
    subscriptions := db.subscriptions.modify id
      (fun s => { s with enabled := false, disabledAt := s.expiresAt }) (fun _ => rfl) }

/-- Open the period of an entitlement and record the renewal. -/
def openEntitlementPeriod (db : Db) (userID : UserID) (s : Subscription) (e : Entitlement)
    (start ends : Time) (number : Int) (newID : PeriodID) : Except StoreError Db :=
  let row : SubscriptionPeriod :=
    { id := newID
      subscriptionID := s.id
      userID
      tier := e.tier
      startsAt := start
      endsAt := ends
      allowanceUSD := e.allowanceUSD
      remainingUSD := e.allowanceUSD
      periodNumber := number
      periodCount := s.periodCount
      entitlementID := some e.id
      periodDays := e.periodDays
      closedAt := none }
  match db.subscriptionPeriods.insert? row with
  | none => .error (.conflict "create current entitlement period")
  | some subscriptionPeriods =>
    .ok { db with
      subscriptionPeriods
      subscriptions := db.subscriptions.modify s.id
        (fun s => { s with
          currentPeriodID := some newID
          currentPeriodNumber := number
          tier := e.tier
          periodDays := e.periodDays
          allowanceUSD := e.allowanceUSD
          modelIDs := e.modelIDs }) (fun _ => rfl)
      ledger := db.ledger.insert
        (fun id => ⟨id, userID, none, .subscriptionRenewal newID, e.allowanceUSD, 0, none⟩)
        (fun _ => rfl) }

def rollSubscription (db : Db) (userID : UserID) (at' : Time) (newID : PeriodID)
    (stale : StaleSubscription) : Except StoreError Db := do
  let db := closeElapsedPeriod db stale.periodID
  if stale.expiry.any (· ≤ at') then return disableSubscription db stale.id
  match db.subscriptions.find? stale.id with
  | none => throw (.notFound "locate current subscription entitlement")
  | some s =>
    let e ← currentEntitlement db stale.id at'
    let seconds := unix at' - unix e.startsAt
    let seconds := if nanosecond at' < nanosecond e.startsAt then seconds - 1 else seconds
    let elapsed := seconds.tdiv (e.periodDays * 86400)
    if elapsed > maxInt32 - e.firstPeriodNumber then
      throw (.invalid "subscription period number overflow")
    let start ← advancedStart e.startsAt e.periodDays elapsed
    let ends ← billingExpiryDays start e.periodDays 1
    openEntitlementPeriod db userID s e start ends (e.firstPeriodNumber + elapsed) newID

def rollStale (userID : UserID) (at' : Time) (newID : SubscriptionID → PeriodID) :
    List StaleSubscription → Db → Except StoreError Db
  | [], db => .ok db
  | stale :: rest, db => do
    let db ← rollSubscription db userID at' (newID stale.id) stale
    rollStale userID at' newID rest db

def rollBillingSubscriptions (db : Db) (userID : UserID) (at' : Time)
    (newID : SubscriptionID → PeriodID) : Except StoreError Db :=
  rollStale userID at' newID (staleSubscriptions db userID at') db

/-! ## Expiry -/

/-- A finite subscription past its end, with its current period. -/
structure ExpiredSubscription where
  id : SubscriptionID
  expiresAt : Time
  periodID : PeriodID
  periodEndsAt : Time
  deriving Repr, DecidableEq

def BillingTier.rank : BillingTier → Nat
  | .day => 1
  | .week => 2
  | _ => 3

def expiredSubscriptions (db : Db) (userID : UserID) (at' : Time) : List ExpiredSubscription :=
  (db.subscriptions.rows.insertionSort fun a b => a.tier.rank ≤ b.tier.rank).filterMap fun s =>
    if s.userID = userID ∧ s.enabled ∧ s.periodCount > 0 then
      s.expiresAt.bind fun expiresAt =>
        if expiresAt ≤ at' then
          (s.currentPeriodID.bind db.subscriptionPeriods.find?).map fun period =>
            ⟨s.id, expiresAt, period.id, period.endsAt⟩
        else none
    else none

def expireSubscription (db : Db) (expired : ExpiredSubscription) : Db :=
  { db with
    subscriptionPeriods := db.subscriptionPeriods.modify expired.periodID
      (fun period => { period with
        closedAt := some (period.closedAt.getD (min expired.periodEndsAt expired.expiresAt)) })
      (fun _ => rfl)
    subscriptions := db.subscriptions.modify expired.id
      (fun s => if s.enabled then { s with enabled := false, disabledAt := s.expiresAt } else s)
      (fun s => by split <;> rfl) }

def expireBillingSubscriptions (db : Db) (userID : UserID) (at' : Time) : Db :=
  (expiredSubscriptions db userID at').foldl expireSubscription db

/-! ## Opening -/

/-- The identifiers and the configuration version drawn for one write. -/
structure FreshSubscription where
  subscriptionID : SubscriptionID
  entitlementID : EntitlementID
  periodID : PeriodID
  configVersion : Int
  deriving Repr, DecidableEq

structure PutSubscriptionParams where
  userID : UserID
  subscriptionID : Option SubscriptionID
  name : Text
  terms : EntitlementTerms
  periodCount : Int
  at' : Time
  deriving Repr, DecidableEq

/-- Close the period of a subscription that is opened again, and retire its
entitlements. -/
def retireSubscription (db : Db) (params : PutSubscriptionParams) (id : SubscriptionID) :
    Except StoreError Db :=
  match db.subscriptions.find? id with
  | none => .error (.notFound "lock subscription for reopen")
  | some s =>
    let previous := s.currentPeriodID.bind db.subscriptionPeriods.find?
    if s.userID ≠ params.userID then .error (.notFound "lock subscription for reopen")
    else if previous.any fun period => params.at' < period.startsAt then
      .error (.invalid "replacement precedes current period")
    else
      .ok { db with
        subscriptionPeriods := db.subscriptionPeriods.update
          (fun period => some period.id = s.currentPeriodID ∧ period.closedAt = none ∧
            period.startsAt ≤ params.at')
          (fun period => { period with closedAt := some params.at' }) (fun _ => rfl)
        entitlements := db.entitlements.update
          (fun e => e.subscriptionID = id ∧ e.supersededAt = none)
          (fun e => { e with supersededAt := some params.at' }) (fun _ => rfl) }

/-- The row of a new subscription, before its first period exists. -/
def createSubscription (db : Db) (params : PutSubscriptionParams) (id : SubscriptionID)
    (expiresAt : Option Time) (configVersion : Int) : Except StoreError Db :=
  let row : Subscription :=
    { id
      userID := params.userID
      name := params.name
      tier := params.terms.tier
      enabled := true
      allowanceUSD := params.terms.allowanceUSD
      currentPeriodID := none
      periodCount := params.periodCount
      currentPeriodNumber := 1
      expiresAt
      disabledAt := none
      periodDays := params.terms.periodDays
      modelIDs := params.terms.modelIDs
      modelsInitialized := true
      chargeEnabled := true
      priority := 1
      planID := none
      planVersion := none
      configVersion }
  match db.subscriptions.insert? row with
  | none => .error (.conflict "create billing subscription")
  | some subscriptions => .ok { db with subscriptions }

/-- Retire the subscription that is opened again; a new one has nothing to retire. -/
def prepareSubscription (db : Db) (params : PutSubscriptionParams) : Except StoreError Db :=
  match params.subscriptionID with
  | none => .ok db
  | some id => retireSubscription db params id

def insertSubscription (db : Db) (params : PutSubscriptionParams) (expiresAt : Option Time)
    (fresh : FreshSubscription) : Except StoreError Db :=
  match params.subscriptionID with
  | none => createSubscription db params fresh.subscriptionID expiresAt fresh.configVersion
  | some _ => .ok db

def reopenBillingSubscription (db : Db) (params : PutSubscriptionParams)
    (plan : Option BillingPlan) (fresh : FreshSubscription) :
    Except StoreError (Db × SubscriptionID) := do
  validateBillingModels db params.terms.modelIDs
  let id := params.subscriptionID.getD fresh.subscriptionID
  let db ← prepareSubscription db params
  let expiresAt ← entitlementEnd params.at' params.terms.periodDays params.periodCount
  let db ← insertSubscription db params expiresAt fresh
  let (db, _) ← insertBillingEntitlement db params.userID id params.at' params.terms
    params.periodCount 1 fresh.entitlementID
  let ends ← billingExpiryDays params.at' params.terms.periodDays 1
  let period : SubscriptionPeriod :=
    { id := fresh.periodID
      subscriptionID := id
      userID := params.userID
      tier := params.terms.tier
      startsAt := params.at'
      endsAt := ends
      allowanceUSD := params.terms.allowanceUSD
      remainingUSD := params.terms.allowanceUSD
      periodNumber := 1
      periodCount := params.periodCount
      entitlementID := some fresh.entitlementID
      periodDays := params.terms.periodDays
      closedAt := none }
  match db.subscriptionPeriods.insert? period with
  | none => throw (.conflict "create subscription period")
  | some subscriptionPeriods =>
    return ({ db with
      subscriptionPeriods
      subscriptions := db.subscriptions.modify id
        (fun s => { s with
          enabled := true
          name := params.name
          tier := params.terms.tier
          periodDays := params.terms.periodDays
          modelIDs := params.terms.modelIDs
          modelsInitialized := true
          allowanceUSD := params.terms.allowanceUSD
          periodCount := params.periodCount
          currentPeriodNumber := 1
          expiresAt
          currentPeriodID := some fresh.periodID
          disabledAt := none
          planID := plan.map BillingPlan.id
          planVersion := plan.map BillingPlan.version
          configVersion := fresh.configVersion }) (fun _ => rfl) }, id)

end Store
