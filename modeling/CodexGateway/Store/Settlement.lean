import CodexGateway.Store.Funding
import CodexGateway.Store.Layers

/-! # Settling a request

The transaction `settleBillingTx`: price terminal usage, drain the bound sources
in order, debit the account, write the ledger and close the reservation.
-/

namespace Store

open Billing Config

/-- An amount that a `NUMERIC(30,12)` column is to take. -/
def checkNumeric (context : String) (units : Int) : Except StoreError Unit :=
  if NumericRange units then .ok () else .error (.invalid context)

/-- The state of the draining loops: allocations so far and what is left. -/
structure Charges where
  db : Db
  order : Nat
  remaining : Text
  charged : Text
  cashCharged : Text

def recordAllocation (db : Db) (context : String) (allocation : Allocation) :
    Except StoreError Db :=
  match db.allocations.insert? allocation with
  | none => .error (.conflict context)
  | some allocations => .ok { db with allocations }

/-- The upsert on `group_member_usage`. -/
def addMemberUsage (db : Db) (periodID : PeriodID) (userID : UserID) (amount : Int) :
    Except StoreError Db := do
  match db.memberUsage.insert? ⟨periodID, userID, amount⟩ with
  | some memberUsage => return { db with memberUsage }
  | none =>
    checkNumeric "accumulate group member funding" (memberUsed db periodID userID + amount)
    return { db with
      memberUsage := db.memberUsage.modify (periodID, userID)
        (fun row => { row with usedUSD := row.usedUSD + amount }) (fun _ => rfl) }

def addGroupUsage (db : Db) (context : String) (period : GroupPeriod) (amount : Int) :
    Except StoreError Db := do
  checkNumeric context (period.usedUSD + amount)
  return { db with
    groupPeriods := db.groupPeriods.modify period.id
      (fun row => { row with usedUSD := row.usedUSD + amount }) (fun _ => rfl) }

/-- What a group pays: the least of its funds, the need and the member's funds. -/
def groupAmount (db : Db) (userID : UserID) (period : GroupPeriod) (remaining : Text) :
    Except StoreError Text := do
  let groupCharged ← billingMin (numericText period.available) remaining
  match groupMemberRemaining db period.id userID (period.memberLimitUSD.map numericText) with
  | none => return groupCharged
  | some memberRemaining => billingMin groupCharged memberRemaining

/-- The group pays first, as far as its period and the member's limit allow. -/
def chargeGroup (reservation : BillingReservation) (c : Charges) :
    Except StoreError (Charges × Text) := do
  match reservation.groupID, reservation.groupPeriodID with
  | some groupID, some periodID =>
    if reservation.fundingRuleVersion ≥ 2 ∧ billingPositive c.remaining then
      let period ← candidatePeriod c.db "read bound group funding" groupID periodID
      let groupCharged ← groupAmount c.db reservation.userID period c.remaining
      if billingPositive groupCharged then
        let db ← addGroupUsage c.db "charge bound group period" period (numeric groupCharged)
        let db ← addMemberUsage db periodID reservation.userID (numeric groupCharged)
        let db ← recordAllocation db "record group charge allocation"
          ⟨reservation.requestID, c.order + 1, .group periodID, numeric groupCharged⟩
        let remaining ← billingSubtract c.remaining groupCharged
        return ({ c with db, order := c.order + 1, remaining, charged := groupCharged },
          groupCharged)
      else return (c, groupCharged)
    else return (c, numericText 0)
  | _, _ => return (c, numericText 0)

def SourceType.isTier : SourceType → BillingTier → Bool
  | .day, .day => true
  | .week, .week => true
  | .month, .month => true
  | _, _ => false

/-- The bound period of a source that is not cash. -/
def boundPeriod (db : Db) (userID : UserID) (source : FundingSource) :
    Except StoreError SubscriptionPeriod :=
  let missing : StoreError := .notFound "lock bound subscription period"
  match source.periodID with
  | none => .error (.invalid "lock bound subscription period")
  | some id =>
    match db.subscriptionPeriods.find? id with
    | none => .error missing
    | some period =>
      if period.userID = userID ∧
          (source.sourceType = .subscription ∧
            source.subscriptionID = some period.subscriptionID ∨
          source.sourceType.isTier period.tier) then .ok period
      else .error missing

def chargeSubscription (reservation : BillingReservation) (source : FundingSource) (c : Charges) :
    Except StoreError Charges := do
  let period ← boundPeriod c.db reservation.userID source
  let amount ← billingMin (numericText period.remainingUSD) c.remaining
  if billingPositive amount then
    let charged : Db := { c.db with
      subscriptionPeriods := c.db.subscriptionPeriods.modify period.id
        (fun row => { row with remainingUSD := row.remainingUSD - numeric amount }) (fun _ => rfl) }
    let db ← recordAllocation charged "record subscription charge allocation"
      ⟨reservation.requestID, c.order + 1, .subscription source.sourceType period.id,
        numeric amount⟩
    let remaining ← billingSubtract c.remaining amount
    let charged ← billingAdd c.charged amount
    return { c with db, order := c.order + 1, remaining, charged }
  else return c

/-- The cash lots with funds up to a cutoff, in sequence order. -/
def openLots (db : Db) (userID : UserID) (within : CashLot → Bool) : List CashLot :=
  (db.cashLots.rows.filter fun lot => lot.userID = userID ∧ within lot ∧ 0 < lot.remainingUSD)
    |>.insertionSort fun a b => a.lotSequence ≤ b.lotSequence

def debitLot (db : Db) (id : Nat) (amount : Int) : Db :=
  { db with
    cashLots := db.cashLots.modify id
      (fun lot => { lot with remainingUSD := lot.remainingUSD - amount }) (fun _ => rfl) }

def chargeLots (reservation : BillingReservation) : List CashLot → Charges → Except StoreError Charges
  | [], c => .ok c
  | lot :: rest, c =>
    if billingPositive c.remaining then do
      let amount ← billingMin (numericText lot.remainingUSD) c.remaining
      if billingPositive amount then
        let db ← recordAllocation (debitLot c.db lot.id (numeric amount))
          "record cash charge allocation"
          ⟨reservation.requestID, c.order + 1, .cash lot.id, numeric amount⟩
        let remaining ← billingSubtract c.remaining amount
        let charged ← billingAdd c.charged amount
        let cashCharged ← billingAdd c.cashCharged amount
        chargeLots reservation rest ⟨db, c.order + 1, remaining, charged, cashCharged⟩
      else chargeLots reservation rest c
    else .ok c

def chargeSource (reservation : BillingReservation) (source : FundingSource) (c : Charges) :
    Except StoreError Charges :=
  if source.sourceType = .cash then
    chargeLots reservation
      (openLots c.db reservation.userID fun lot => lot.lotSequence ≤ source.cashLotCutoff) c
  else chargeSubscription reservation source c

def chargeSources (reservation : BillingReservation) :
    List FundingSource → Charges → Except StoreError Charges
  | [], c => .ok c
  | source :: rest, c =>
    if billingPositive c.remaining then do
      let c ← chargeSource reservation source c
      chargeSources reservation rest c
    else .ok c

/-! ## Recording the outcome -/

/-- The pricing columns of a usage row, which only version 2 pricing writes. -/
def recordPricingDecision (db : Db) (requestID : Text) (priced : PricedUsage) :
    Except StoreError Db :=
  match priced.decision with
  | none => .ok db
  | some decision =>
    match db.usage.find? requestID with
    | none => .ok db
    | some usage =>
      let metrics := { usage.metrics.val with cacheWriteTokens := priced.cacheWriteTokens }
      if valid : metrics.Valid then
        .ok { db with
          usage := db.usage.modify requestID
            (fun row => { row with
              metrics := ⟨metrics, valid⟩
              pricingServiceTier := some decision.pricingServiceTier
              contextClass := some decision.contextClass
              pricingFallbackReason :=
                if decision.fallbackReason = [] then none else some decision.fallbackReason })
            (fun _ => rfl) }
      else .error (.invalid "record usage pricing decision")

def debitAccount (db : Db) (userID : UserID) (cashCharged : Int) : Except StoreError (Db × Int) :=
  match db.accounts.find? userID with
  | none => .error (.notFound "debit billing account")
  | some account =>
    if cashCharged ≤ account.balanceUSD then
      .ok ({ db with
        accounts := db.accounts.modify userID
          (fun row => { row with balanceUSD := row.balanceUSD - cashCharged }) (fun _ => rfl) },
        account.balanceUSD - cashCharged)
    else .error (.notFound "debit billing account")

/-- The partial unique index on usage charges. -/
def LedgerEntry.charges (entry : LedgerEntry) (requestID : Text) : Bool :=
  match entry.kind with
  | .usageCharge id _ => id = requestID
  | _ => false

def recordUsageCharge (db : Db) (reservation : BillingReservation) (charge : UsageCharge)
    (cashCharged balanceAfter : Int) : Except StoreError Db :=
  if db.ledger.rows.any (·.charges reservation.requestID) then
    .error (.conflict "record usage billing ledger")
  else
    .ok { db with
      ledger := db.ledger.insert
        (fun id => ⟨id, reservation.userID, none, .usageCharge reservation.requestID charge,
          charge.actualCostUSD, -cashCharged, some balanceAfter⟩) (fun _ => rfl) }

/-- Under the first funding rule a group only counts what its members spend. -/
def countLegacyGroupUsage (db : Db) (reservation : BillingReservation) (cost : Int) :
    Except StoreError Db :=
  match reservation.groupPeriodID with
  | none => .ok db
  | some periodID =>
    if reservation.fundingRuleVersion = 1 then
      match db.groupPeriods.find? periodID with
      | none => .ok db
      | some period => addGroupUsage db "accumulate group usage" period cost
    else .ok db

def settleReservation (db : Db) (requestID : Text) (charge : UsageCharge) (now : Time) :
    Except StoreError (Db × BillingReservation) :=
  match db.reservations.find? requestID with
  | none => .error (.notFound "settle billing reservation")
  | some row =>
    .ok ({ db with
      reservations := db.reservations.modify requestID
        (fun row => { row with state := .settled charge now }) (fun _ => rfl) },
      { row with state := .settled charge now })

def usageCharge (usage : UsageRequest) (priced : PricedUsage) (c : Charges)
    (groupCharged personalCharged : Text) : UsageCharge where
  inputTokens := usage.metrics.val.inputTokens
  cachedInputTokens := usage.metrics.val.cachedInputTokens
  outputTokens := usage.metrics.val.outputTokens
  actualCostUSD := numeric priced.cost
  chargedUSD := numeric c.charged
  uncoveredUSD := numeric c.remaining
  groupChargedUSD := numeric groupCharged
  personalChargedUSD := numeric personalCharged
  applied := priced.decision.map fun decision =>
    ⟨decision, priced.cacheWriteTokens, usage.actualServiceTier, usage.model⟩

/-- Everything after the reservation and its usage have been locked. -/
def chargeUsage (db : Db) (reservation : BillingReservation) (usage : UsageRequest) (now : Time) :
    Except StoreError (Db × BillingReservation) := do
  let priced ← priceUsage reservation usage
  let db ← recordPricingDecision db reservation.requestID priced
  let (c, groupCharged) ← chargeGroup reservation
    ⟨db, 0, priced.cost, numericText 0, numericText 0⟩
  let sources ← billingSettlementSources reservation
  let c ← chargeSources reservation sources c
  let personalCharged ← billingSubtract c.charged groupCharged
  let (db, balanceAfter) ← debitAccount c.db reservation.userID (numeric c.cashCharged)
  let charge := usageCharge usage priced c groupCharged personalCharged
  let db ← recordUsageCharge db reservation charge (numeric c.cashCharged) balanceAfter
  let db ← countLegacyGroupUsage db reservation (numeric priced.cost)
  settleReservation db reservation.requestID charge now

/-! ## The transaction -/

/-- The usage row of a request once it is terminal. -/
def terminalUsage (db : Db) (context : String) (requestID : Text) :
    Except StoreError UsageRequest :=
  match db.usage.find? requestID with
  | none => .error (.notFound context)
  | some usage => if usage.state = .inProgress then .error (.notFound context) else .ok usage

def UsageRequest.account (usage : UsageRequest) : Text :=
  (usage.upstreamAccountID.map Subtype.val).getD []

/-- The layers that may pay for a rule 4 request, each group of them locked. -/
def lockLayerCandidates (db : Db) (requestID : Text) : Except StoreError LayerCandidates := do
  let layers ← readFundingLayers db requestID
  let usage ← terminalUsage db "read terminal usage account" requestID
  let candidates := settlementLayerCandidates layers usage.account
  let locking := candidates.groups.insertionSort fun a b => a.groupID ≤ b.groupID
  locking.forM fun layer =>
    lockBoundGroupPeriod db (some layer.groupID) (some layer.groupPeriodID)
  return candidates

def settleBilling (db : Db) (requestID : Text) (now : Time) :
    Except StoreError (Db × BillingReservation) := do
  if requestID = [] then throw (.invalid "empty billing request id")
  match db.reservations.find? requestID with
  | none => throw (.notFound "read billing reservation")
  | some reservation =>
    match reservation.state with
    | .reserved =>
      if reservation.fundingRuleVersion = 4 then
        let candidates ← lockLayerCandidates db requestID
        let usage ← terminalUsage db "read terminal usage for billing" requestID
        let (db, reservation) ← bindSettlementLayer db reservation candidates.groups
          candidates.personal
        chargeUsage db reservation usage now
      else
        lockBoundGroupPeriod db reservation.groupID reservation.groupPeriodID
        let usage ← terminalUsage db "read terminal usage for billing" requestID
        chargeUsage db reservation usage now
    | .settled _ _ =>
      lockBoundGroupPeriod db reservation.groupID reservation.groupPeriodID
      return (db, reservation)
    | .released _ =>
      lockBoundGroupPeriod db reservation.groupID reservation.groupPeriodID
      throw (.conflict "settle released billing reservation")

def releaseBilling (db : Db) (requestID : Text) (now : Time) : Except StoreError Db := do
  if requestID = [] then throw (.invalid "empty billing request id")
  match db.reservations.find? requestID with
  | none => throw (.notFound "lock billing reservation for release")
  | some reservation =>
    match reservation.state with
    | .released _ => return db
    | .settled _ _ => throw (.conflict "release settled billing reservation")
    | .reserved =>
      return { db with
        reservations := db.reservations.modify requestID
          (fun row => { row with state := .released now }) (fun _ => rfl) }

end Store
