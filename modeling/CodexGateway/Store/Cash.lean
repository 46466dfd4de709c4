import CodexGateway.Store.Settlement
import CodexGateway.Store.Subscriptions

/-! # Cash operations

Recharges, adjustments and plan purchases. Each is claimed under an operation id,
so that repeating it returns the recorded ledger entry and changes nothing.
-/

namespace Store

open Billing

/-- `BillingWriteParams`. -/
structure BillingWriteParams where
  operationID : OperationID
  actorUserID : UserID
  reason : Text
  at' : Time
  deriving Repr, DecidableEq

def validateBillingWrite (params : BillingWriteParams) : Except StoreError Unit :=
  let reason := Text.trimSpace params.reason
  if reason = [] ∨ reason.length > 500 then
    .error (.invalid "operation id, actor and reason are required")
  else .ok ()

def lockNonPendingUser (db : Db) (userID : UserID) : Except StoreError Unit :=
  match db.users.find? userID with
  | none => .error (.notFound "lock user for business operation")
  | some user =>
    if user.status = .pending then .error (.conflict "user registration is awaiting approval")
    else .ok ()

def lockBillingAccount (db : Db) (userID : UserID) : Except StoreError Unit :=
  if (db.accounts.find? userID).isSome then lockNonPendingUser db userID
  else .error (.notFound "lock billing account")

def idText (id : Nat) : Text := Nat.toDigits 10 id

/-- A claimed operation is either new or a replay of a recorded entry. -/
inductive Claim where
  | created (db : Db)
  | replay (ledgerID : Nat)

def claimBillingOperation (db : Db) (params : BillingWriteParams) (operationType : Text)
    (target : Option UserID) (fingerprint : List Text) : Except StoreError Claim :=
  if params.operationID ∈ db.cleanedOperations then
    .error (.conflict "billing operation history was cleaned; operation ID cannot be reused")
  else
    let row : BillingOperation :=
      ⟨params.operationID, operationType, params.actorUserID, target, fingerprint, none⟩
    match db.operations.insert? row with
    | some operations => .ok (.created { db with operations })
    | none =>
      let mismatch : StoreError := .conflict "billing operation replay mismatch"
      match db.operations.find? params.operationID with
      | none => .error (.notFound "read billing operation replay")
      | some stored =>
        if stored.operationType ≠ operationType ∨ stored.actorUserID ≠ params.actorUserID ∨
            stored.targetUserID ≠ target ∨ stored.fingerprint ≠ fingerprint then .error mismatch
        else
          match stored.resultLedgerEntryID with
          | none => .error mismatch
          | some id => .ok (.replay id)

def finishBillingOperation (db : Db) (id : OperationID) (ledgerID : Nat) : Except StoreError Db :=
  if (db.operations.find? id).any fun row => row.resultLedgerEntryID = none then
    .ok { db with
      operations := db.operations.modify id
        (fun row => { row with resultLedgerEntryID := some ledgerID }) (fun _ => rfl) }
  else .error (.notFound "finish billing operation")

def replayBillingLedger (db : Db) (id : Nat) : Except StoreError LedgerEntry :=
  match db.ledger.find? id with
  | none => .error (.notFound "read billing operation result")
  | some entry => .ok entry

/-- An operation under a claim: a replay reads its entry, a new one runs and its
entry is recorded as the result. -/
def withClaim (db : Db) (params : BillingWriteParams) (operationType : Text)
    (target : Option UserID) (fingerprint : List Text)
    (operation : Db → Except StoreError (Db × LedgerEntry)) :
    Except StoreError (Db × LedgerEntry) := do
  match ← claimBillingOperation db params operationType target fingerprint with
  | .replay id =>
    let entry ← replayBillingLedger db id
    return (db, entry)
  | .created claimed =>
    let (done, entry) ← operation claimed
    let finished ← finishBillingOperation done params.operationID entry.id
    return (finished, entry)

/-- Append a ledger entry and return it as stored. -/
def recordLedger (db : Db) (userID : UserID) (operationID : OperationID) (kind : LedgerKind)
    (amount cashDelta balanceAfter : Int) : Db × LedgerEntry :=
  let entry (id : Nat) : LedgerEntry :=
    ⟨id, userID, some operationID, kind, amount, cashDelta, some balanceAfter⟩
  ({ db with ledger := db.ledger.insert entry (fun _ => rfl) }, entry db.ledger.next)

def createCashLot (db : Db) (userID : UserID) (sequence amount : Int) : Db :=
  { db with
    cashLots := db.cashLots.insert (fun id => ⟨id, userID, sequence, amount, amount⟩)
      (fun _ => rfl) }

def setCash (db : Db) (userID : UserID) (balance sequence : Int) : Db :=
  { db with
    accounts := db.accounts.modify userID
      (fun row => { row with balanceUSD := balance, nextCashLotSequence := sequence })
      (fun _ => rfl) }

/-! ## Recharge -/

structure RechargeUserParams where
  write : BillingWriteParams
  userID : UserID
  cnyAmount : Text
  deriving Repr, DecidableEq

def creditRecharge (params : RechargeUserParams) (cny : Text) (db : Db) :
    Except StoreError (Db × LedgerEntry) := do
  let usd ← (multiplyToAmount cny (numericText db.settings.usdPerCNY)).mapError
    fun text => .other ("convert recharge amount: " ++ text)
  if billingPositive usd = false then throw (.invalid "recharge rounds to zero USD")
  match db.accounts.find? params.userID with
  | none => throw (.notFound "credit recharge balance")
  | some account =>
    let amount := numeric usd
    checkNumeric "credit recharge balance" (account.balanceUSD + amount)
    let balance := account.balanceUSD + amount
    let credited := setCash db params.userID balance (account.nextCashLotSequence + 1)
    let (recorded, entry) := recordLedger credited params.userID params.write.operationID
      .recharge amount amount balance
    return (createCashLot recorded params.userID account.nextCashLotSequence amount, entry)

def rechargeUser (db : Db) (params : RechargeUserParams) :
    Except StoreError (Db × LedgerEntry) := do
  validateBillingWrite params.write
  let cny ← (parseInput params.cnyAmount false false).mapError
    fun _ => .invalid "invalid recharge amount"
  lockBillingAccount db params.userID
  withClaim db params.write "recharge".toList (some params.userID)
    ["recharge".toList, idText params.write.actorUserID, idText params.userID,
      Text.trimSpace params.write.reason, cny]
    (creditRecharge params cny)

/-! ## Debits -/

def debitLots : List CashLot → Db → Text → Except StoreError (Db × Text)
  | [], db, needed => .ok (db, needed)
  | lot :: rest, db, needed =>
    if billingPositive needed then do
      let deduction ← billingMin (numericText lot.remainingUSD) needed
      let left ← billingSubtract needed deduction
      debitLots rest (debitLot db lot.id (numeric deduction)) left
    else .ok (db, needed)

/-- The loop over all lots of a user; the account must not owe more than they hold. -/
def debitCashLots (db : Db) (userID : UserID) (amount : Text) : Except StoreError Db := do
  let (debited, needed) ← debitLots (openLots db userID fun _ => true) db amount
  if billingPositive needed then throw (.conflict "cash lots do not reconcile with account")
  return debited

/-! ## Adjustment -/

structure AdjustUserBalanceParams where
  write : BillingWriteParams
  userID : UserID
  usdAmount : Text
  deriving Repr, DecidableEq

/-- A negative adjustment debits the lots. -/
def debitAdjustment (db : Db) (userID : UserID) (amount : Text) : Except StoreError Db :=
  if billingPositive amount then .ok db
  else do
    let needed ← billingSubtract ['0'] amount
    debitCashLots db userID needed

def applyAdjustment (params : AdjustUserBalanceParams) (amount : Text) (db : Db) :
    Except StoreError (Db × LedgerEntry) := do
  match db.accounts.find? params.userID with
  | none => throw (.notFound "lock adjustment account")
  | some account =>
    let newBalance ← billingAdd (numericText account.balanceUSD) amount
    let newValue ← billingRat newBalance
    if newValue < 0 then throw (.insufficientFunds 0)
    let debited ← debitAdjustment db params.userID amount
    let sequence := account.nextCashLotSequence
    let nextSequence := if billingPositive amount then sequence + 1 else sequence
    checkNumeric "update adjusted balance" (numeric newBalance)
    let updated := setCash debited params.userID (numeric newBalance) nextSequence
    let (recorded, entry) := recordLedger updated params.userID params.write.operationID
      .adjustment (numeric amount) (numeric amount) (numeric newBalance)
    return (if billingPositive amount then
      createCashLot recorded params.userID sequence (numeric amount) else recorded, entry)

def adjustUserBalance (db : Db) (params : AdjustUserBalanceParams) :
    Except StoreError (Db × LedgerEntry) := do
  validateBillingWrite params.write
  let amount ← (parseInput params.usdAmount true false).mapError
    fun _ => .invalid "invalid adjustment amount"
  lockBillingAccount db params.userID
  withClaim db params.write "adjustment".toList (some params.userID)
    ["adjustment".toList, idText params.write.actorUserID, idText params.userID,
      Text.trimSpace params.write.reason, amount]
    (applyAdjustment params amount)

/-! ## Plans -/

def planChanged : StoreError :=
  .conflict "billing plan or subscription configuration changed"

def billingPlanTotal (price : Text) (count : Int) : Except StoreError Text := do
  let value ← billingRat price
  let total := floatString (value * count) amountScale
  match parsePrice total with
  | .error _ => throw (.invalid "purchase total exceeds supported range")
  | .ok _ => return total

def debitBillingPlanCash (db : Db) (userID : UserID) (total : Text) :
    Except StoreError (Db × Text) := do
  match db.accounts.find? userID with
  | none => throw (.notFound "read purchase balance")
  | some account =>
    let updated ← billingSubtract (numericText account.balanceUSD) total
    let amount ← billingRat updated
    if amount < 0 then throw (.insufficientFunds 0)
    let debited ← debitCashLots db userID total
    return (setCash debited userID (numeric updated) account.nextCashLotSequence, updated)

structure PlanTransactionParams where
  write : BillingWriteParams
  userID : UserID
  planVersion : Int
  configVersion : Int
  count : Int
  fresh : FreshSubscription
  newPeriodID : SubscriptionID → PeriodID

/-- The plan of a transaction, which must be on offer as the user saw it. -/
def readTransactionPlan (db : Db) (params : PlanTransactionParams) (planID : PlanID)
    (mustBeActive : Bool) : Except StoreError BillingPlan :=
  match db.plans.find? planID with
  | none => .error planChanged
  | some plan =>
    if plan.deletedAt.isSome ∨ (mustBeActive ∧ plan.active = false) ∨
        plan.version ≠ params.planVersion then .error planChanged
    else if params.count < plan.minPeriodCount then
      .error (.invalid "quantity is below the plan minimum")
    else .ok plan

/-- Debit the total, and record the transaction. -/
def payPlan (db : Db) (params : PlanTransactionParams) (plan : BillingPlan) (kind : LedgerKind) :
    Except StoreError (Db × LedgerEntry) := do
  let total ← billingPlanTotal (numericText plan.priceUSD) params.count
  let (debited, balance) ← debitBillingPlanCash db params.userID total
  return recordLedger debited params.userID params.write.operationID kind (numeric total)
    (-numeric total) (numeric balance)

def purchasePlan (params : PlanTransactionParams) (planID : PlanID) (db : Db) :
    Except StoreError (Db × LedgerEntry) := do
  let plan ← readTransactionPlan db params planID true
  let (opened, _) ← reopenBillingSubscription db
    ⟨params.userID, none, plan.name, plan.terms, params.count, params.write.at'⟩ (some plan)
    params.fresh
  payPlan opened params plan .planPurchase

def userSubscription (db : Db) (userID : UserID) (id : SubscriptionID) : Option Subscription :=
  (db.subscriptions.find? id).filter fun s => s.userID = userID

/-- The columns `plan` and `can_renew` of a subscription state: its plan, if it
still exists, and whether it can be extended. -/
def renewablePlan (db : Db) (s : Subscription) (at' : Time) : Option PlanID :=
  if s.enabled ∧ s.expiresAt.any (at' < ·) then
    ((s.planID.bind db.plans.find?).filter fun plan => plan.deletedAt.isNone).map BillingPlan.id
  else none

/-- Append an entitlement to a subscription that has not expired. -/
def extendSubscription (db : Db) (params : PlanTransactionParams) (s : Subscription)
    (plan : BillingPlan) : Except StoreError Db := do
  match s.expiresAt with
  | none => throw planChanged
  | some expiresAt =>
    if s.periodCount > maxInt32 - params.count then
      throw (.invalid "subscription period count exceeds supported range")
    let (inserted, expiry) ← insertBillingEntitlement db params.userID s.id expiresAt plan.terms
      params.count (s.periodCount + 1) params.fresh.entitlementID
    return { inserted with
      subscriptions := inserted.subscriptions.modify s.id
        (fun row => { row with
          periodCount := row.periodCount + params.count
          expiresAt := expiry
          planVersion := some plan.version
          configVersion := params.fresh.configVersion }) (fun _ => rfl) }

def renewPlan (params : PlanTransactionParams) (subscriptionID : SubscriptionID) (db : Db) :
    Except StoreError (Db × LedgerEntry) := do
  match userSubscription db params.userID subscriptionID with
  | none => throw planChanged
  | some s =>
    match s.planID with
    | none => throw planChanged
    | some planID =>
      let plan ← readTransactionPlan db params planID false
      if s.configVersion ≠ params.configVersion then throw planChanged
      let rolled ← rollBillingSubscriptions db params.userID params.write.at'
        params.newPeriodID
      match userSubscription rolled params.userID subscriptionID with
      | none => throw (.notFound "read subscription state")
      | some current =>
        if renewablePlan rolled current params.write.at' ≠ some plan.id then throw planChanged
        let extended ← extendSubscription rolled params current plan
        payPlan extended params plan .planRenewal

inductive PlanTransaction where
  | purchase (planID : PlanID)
  | renewal (subscriptionID : SubscriptionID)
  deriving Repr, DecidableEq

def transactBillingPlan (db : Db) (params : PlanTransactionParams) (transaction : PlanTransaction) :
    Except StoreError (Db × LedgerEntry) := do
  validateBillingWrite params.write
  if params.userID ≠ params.write.actorUserID ∨ params.planVersion < 1 ∨
      params.configVersion < 0 ∨ params.count < 1 ∨ params.count > 99 then
    throw (.invalid "invalid plan transaction")
  lockBillingAccount db params.userID
  let fingerprint (operationType planID subscriptionID : Text) : List Text :=
    [operationType, idText params.write.actorUserID, idText params.userID,
      Text.trimSpace params.write.reason, planID, subscriptionID,
      idText params.planVersion.toNat, idText params.configVersion.toNat,
      idText params.count.toNat]
  match transaction with
  | .purchase planID =>
    withClaim db params.write "plan_purchase".toList (some params.userID)
      (fingerprint "plan_purchase".toList (idText planID) []) (purchasePlan params planID)
  | .renewal subscriptionID =>
    withClaim db params.write "plan_renewal".toList (some params.userID)
      (fingerprint "plan_renewal".toList [] (idText subscriptionID))
      (renewPlan params subscriptionID)

def purchaseBillingPlan (db : Db) (params : PlanTransactionParams) (planID : PlanID) :
    Except StoreError (Db × LedgerEntry) :=
  transactBillingPlan db { params with configVersion := 0 } (.purchase planID)

def renewBillingSubscription (db : Db) (params : PlanTransactionParams)
    (subscriptionID : SubscriptionID) : Except StoreError (Db × LedgerEntry) :=
  transactBillingPlan db params (.renewal subscriptionID)

end Store
