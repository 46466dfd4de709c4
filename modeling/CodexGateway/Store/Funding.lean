import CodexGateway.Store.Groups

/-! # Funding sources

The order in which a request drains personal funds. Admission snapshots the open
subscription periods and the cash position; settlement takes the snapshot as it
was bound, or rebuilds the tier order of the first two funding rules.
-/

namespace Store

open Billing

/-! ## Admission -/

/-- The order of absent and present ids as texts. -/
def idLess : Option SubscriptionID → Option SubscriptionID → Bool
  | none, some _ => true
  | some a, some b => a < b
  | _, none => false

/-- Go's `less` of the stable sort. -/
def FundingSource.less (a b : FundingSource) : Bool :=
  if a.priority ≠ b.priority then a.priority < b.priority
  else if a.sourceType ≠ b.sourceType then a.sourceType = .subscription
  else if a.periodDays ≠ b.periodDays then a.periodDays > b.periodDays
  else if ratOf a.remainingUSD ≠ ratOf b.remainingUSD then
    ratOf a.remainingUSD > ratOf b.remainingUSD
  else idLess a.subscriptionID b.subscriptionID

def sortBillingFundingSources (sources : List FundingSource) :
    Except StoreError (List FundingSource) := do
  sources.forM fun source =>
    if source.priority < 1 ∨ source.priority > 100 then
      throw (.invalid "invalid funding priority")
    else (billingRat source.remainingUSD).map fun _ => ()
  return sources.insertionSort fun a b => b.less a = false

/-- The open period that a subscription may charge now. -/
def chargeablePeriod (db : Db) (s : Subscription) (userID : UserID) (model : Text) (now : Time) :
    Option SubscriptionPeriod :=
  if s.userID = userID ∧ s.enabled ∧ s.chargeEnabled ∧ s.modelsInitialized ∧ model ∈ s.modelIDs then
    (s.currentPeriodID.bind db.subscriptionPeriods.find?).filter fun period =>
      period.closedAt = none ∧ period.startsAt ≤ now ∧ now < period.endsAt ∧ 0 < period.remainingUSD
  else none

def subscriptionSources (db : Db) (userID : UserID) (model : Text) (now : Time) :
    List FundingSource :=
  (db.subscriptions.rows.insertionSort fun a b => a.id ≤ b.id).filterMap fun s =>
    (chargeablePeriod db s userID model now).map fun period =>
      { sourceType := .subscription
        subscriptionID := some s.id
        periodID := some period.id
        cashLotCutoff := 0
        priority := s.priority
        periodDays := s.periodDays
        remainingUSD := numericText period.remainingUSD }

def cashSource (db : Db) (model balance : Text) (cashPriority : Int) :
    Option Int → List FundingSource
  | none => []
  | some cutoff =>
    if db.settings.modelsInitialized ∧ model ∈ db.settings.modelIDs then
      [{ sourceType := .cash
         subscriptionID := none
         periodID := none
         cashLotCutoff := cutoff
         priority := cashPriority
         periodDays := 0
         remainingUSD := balance }]
    else []

def snapshotBillingFunding (db : Db) (userID : UserID) (model : Text) (now : Time)
    (balance : Text) (cashPriority : Int) (cashCutoff : Option Int) :
    Except StoreError (List FundingSource) :=
  sortBillingFundingSources
    (subscriptionSources db userID model now ++ cashSource db model balance cashPriority cashCutoff)

/-- When the earliest entitlement that could pay renews or begins, as a delay. -/
def billingFundingRetry (db : Db) (userID : UserID) (model : Text) (now : Time) : Int :=
  let candidate (s : Subscription) (e : Entitlement) : Option Time :=
    if e.startsAt > now then some e.startsAt
    else
      (s.currentPeriodID.bind db.subscriptionPeriods.find?).bind fun period =>
        if period.endsAt > now ∧ e.endsAt.all (period.endsAt < ·) then some period.endsAt else none
  let candidates := db.subscriptions.rows.flatMap fun s =>
    if s.userID = userID ∧ s.enabled ∧ s.chargeEnabled ∧ s.modelsInitialized then
      db.entitlements.rows.filterMap fun e =>
        if e.subscriptionID = s.id ∧ e.supersededAt = none ∧ model ∈ e.modelIDs ∧
            0 < e.allowanceUSD ∧ e.endsAt.all (now < ·) then candidate s e
        else none
    else []
  match candidates.min? with
  | some renewal => if renewal > now then renewal - now else 0
  | none => 0

/-! ## Settlement -/

/-- The checks on a bound snapshot. A source is recognised by its period; cash
has none. -/
def validateFundingSnapshot : List FundingSource → List (Option PeriodID) → Except StoreError Unit
  | [], _ => .ok ()
  | source :: rest, seen =>
    match source.sourceType with
    | .subscription =>
      if source.periodID = none ∨ source.subscriptionID = none ∨ source.cashLotCutoff ≠ 0 then
        .error (.conflict "invalid subscription funding snapshot")
      else if source.periodID ∈ seen then .error (.conflict "duplicate funding source")
      else validateFundingSnapshot rest (source.periodID :: seen)
    | .cash =>
      if source.cashLotCutoff < 1 ∨ source.periodID ≠ none ∨ source.subscriptionID ≠ none then
        .error (.conflict "invalid cash funding snapshot")
      else if source.periodID ∈ seen then .error (.conflict "duplicate funding source")
      else validateFundingSnapshot rest (source.periodID :: seen)
    | _ => .error (.conflict "unknown funding source")

/-- The source of a period or cutoff of the first two funding rules. -/
def legacySource (sourceType : SourceType) (periodID : Option PeriodID) (cashLotCutoff : Int) :
    FundingSource :=
  { sourceType
    subscriptionID := none
    periodID
    cashLotCutoff
    priority := 0
    periodDays := 0
    remainingUSD := [] }

def billingSettlementSources (reservation : BillingReservation) :
    Except StoreError (List FundingSource) :=
  if reservation.fundingRuleVersion = 3 ∨ reservation.fundingRuleVersion = 4 then do
    validateFundingSnapshot reservation.orderedFundingSources []
    return reservation.orderedFundingSources
  else if reservation.fundingRuleVersion ≠ 1 ∧ reservation.fundingRuleVersion ≠ 2 then
    .error (.conflict "unknown funding rule version")
  else
    let tier (sourceType : SourceType) (periodID : Option PeriodID) : List FundingSource :=
      (periodID.map fun id => legacySource sourceType (some id) 0).toList
    .ok (tier .day reservation.dayPeriodID ++ tier .week reservation.weekPeriodID ++
      tier .month reservation.monthPeriodID ++
      (reservation.cashLotCutoff.map fun cutoff => legacySource .cash none cutoff).toList)

end Store
