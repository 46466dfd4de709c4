import CodexGateway.Store.Cash
import CodexGateway.Store.Quota
import CodexGateway.Store.Reservation
import CodexGateway.Store.Usage

/-! # The life of a request

A request is admitted, its usage is completed, and it is settled; a request that
never completes is released. Each of these is one transaction over quota, usage and
billing. Two jobs repair what a crash leaves behind.
-/

namespace Store

open Billing

/-! ## Admission -/

/-- `AdmitRequestParams`; without a provider the pool is that of Codex. -/
structure AdmitRequestParams where
  quota : ReserveQuotaParams
  usage : BeginUsageRequestParams
  billing : Option BillingReservationParams
  upstreamProvider : Option UpstreamProvider
  requireModelAccess : Bool

structure RequestAdmission where
  quota : QuotaReservation
  usage : UsageRequest
  billing : Option BillingReservation

def requireModelAccess (db : Db) (userID : UserID) (model : Text) : Except StoreError Unit :=
  if db.activeModels.contains model ∧
      (db.users.find? userID).any fun user => user.status ≠ .pending then
    match db.modelAccess.find? (userID, model) with
    | none => .error .modelAccessUnavailable
    | some row => if row.enabled then .ok () else .error .modelNotAllowed
  else .error .modelAccessUnavailable

/-- The billing part of an admission, which must be about the same request. -/
def normalizeBillingAdmission (params : AdmitRequestParams) (quota : ReserveQuotaParams)
    (usage : BeginUsageRequestParams) :
    Except StoreError (Option BillingReservationParams) :=
  match params.billing with
  | none => .ok none
  | some billing =>
    let billing := { billing with
      pricingRuleVersion :=
        if billing.pricingRuleVersion = 0 then 1 else billing.pricingRuleVersion
      requestedServiceTier := Text.trimSpace billing.requestedServiceTier }
    if billing.requestID ≠ quota.requestID ∨ billing.userID ≠ quota.userID ∨
        billing.apiKeyID ≠ quota.apiKeyID ∨ billing.model ≠ usage.model ∨
        billing.pricingRuleVersion ≠ usage.pricingRuleVersion ∨
        Text.trimSpace billing.requestedServiceTier ≠ usage.requestedServiceTier then
      .error (.invalid "inconsistent billing admission")
    else
      .ok (some { billing with
        now := quota.now, upstreamProvider := params.upstreamProvider.getD .codex })

/-- What is left of the parameters once they have passed their checks. -/
structure CheckedAdmission where
  quota : ReserveQuotaParams
  usage : BeginUsageRequestParams
  endpoint : Endpoint
  billing : Option BillingReservationParams

/-- Exactly the generation endpoints are billed. -/
def billedEndpoint (name : Text) (billed : Bool) : Except StoreError Endpoint :=
  match endpointNamed name with
  | none => .error (.invalid "unsupported usage endpoint")
  | some endpoint =>
    if endpoint.billed = false ∧ billed then
      .error (.invalid "models endpoint cannot be billed")
    else if endpoint.billed ∧ billed = false then
      .error (.invalid "generation endpoint requires billing")
    else .ok endpoint

def checkAdmission (params : AdmitRequestParams) : Except StoreError CheckedAdmission := do
  let quota ← normalizeReserveQuota params.quota
  let usage ← normalizeBeginUsageRequest params.usage
  if usage.requestID ≠ quota.requestID ∨ usage.userID ≠ quota.userID ∨
      usage.apiKeyID ≠ quota.apiKeyID ∨ usage.requestedAt ≠ quota.now then
    throw (.invalid "inconsistent request admission")
  let endpoint ← billedEndpoint usage.endpoint params.billing.isSome
  let billing ← normalizeBillingAdmission params quota usage
  return ⟨quota, usage, endpoint, billing⟩

section Admission

variable (structureDigest : Config.ModelPriceStructure → Text)

def reserveAdmittedBilling (db : Db) (fresh : FreshPeriods) :
    Option BillingReservationParams → Except StoreError (Db × Option BillingReservation)
  | none => .ok (db, none)
  | some billing => do
    let (db, reservation, _) ← reserveBilling structureDigest db billing fresh
    return (db, some reservation)

def admitChecked (db : Db) (requireAccess : Bool) (checked : CheckedAdmission)
    (fresh : FreshPeriods) : Except StoreError (Db × RequestAdmission) := do
  if requireAccess then requireModelAccess db checked.usage.userID checked.usage.model
  let (db, billing) ← reserveAdmittedBilling structureDigest db fresh checked.billing
  let (db, quota) ← reserveQuota db checked.quota
  let (db, usage) ← beginUsageRequest db checked.usage checked.endpoint
  return (db, ⟨quota, usage, billing⟩)

def convergeBillingSubscriptions (db : Db) (userID : UserID) (at' : Time) :
    Except StoreError Db := do
  lockBillingAccount db userID
  return expireBillingSubscriptions db userID at'

/-- An admission that lacks funds still converges the subscriptions of its user. -/
def admitRequest (db : Db) (params : AdmitRequestParams) (fresh : FreshPeriods) :
    Db × Except StoreError RequestAdmission :=
  match checkAdmission params with
  | .error err => (db, .error err)
  | .ok checked =>
    match admitChecked structureDigest db params.requireModelAccess checked fresh with
    | .ok (db', admission) => (db', .ok admission)
    | .error (.insufficientFunds retryAfter) =>
      if checked.billing.isSome then
        match convergeBillingSubscriptions db checked.quota.userID checked.quota.now with
        | .ok db' => (db', .error (.insufficientFunds retryAfter))
        | .error err => (db, .error err)
      else (db, .error (.insufficientFunds retryAfter))
    | .error err => (db, .error err)

end Admission

/-! ## Settling and releasing -/

def settleRequest (db : Db) (requestID : Text) (at' : Time) : Except StoreError Db := do
  if requestID = [] then throw (.invalid "empty request settlement id")
  let _ ← readReservation db requestID
  match db.usage.find? requestID with
  | none => throw (.notFound "read terminal usage for settlement")
  | some usage =>
    let inputTokens := usage.metrics.val.inputTokens
    let outputTokens := usage.metrics.val.outputTokens
    if usage.state = .inProgress ∨ inputTokens > maxInt64 - outputTokens then
      throw (.conflict "settle request without terminal usage")
    let db ← settleQuota db requestID (inputTokens + outputTokens) at'
    if usage.endpoint.billed then
      let (db, _) ← settleBilling db requestID at'
      return db
    else return db

def reservationReleased : Text := "reservation_released".toList

/-- The cancellation of a request that never completed. -/
def UsageRequest.cancel (row : UsageRequest) (at' : Time) : UsageRequest :=
  { row with
    state := .cancelled
    httpStatus := some 499
    errorCode := some reservationReleased
    completedAt := some at' }

def cancelUsage (db : Db) (usage : UsageRequest) (at' : Time) : Except StoreError Db :=
  if usage.firstTokenAt.any (at' < ·) then .error (.invalid "complete released usage request")
  else
    .ok { db with
      usage := db.usage.modify usage.requestID (fun row => row.cancel at') (fun _ => rfl) }

def releaseRequest (db : Db) (requestID : Text) (at' : Time) : Except StoreError Db := do
  if requestID = [] then throw (.invalid "empty request release id")
  let reservation ← readReservation db requestID
  match reservation.state with
  | .released _ => return db
  | .settled _ _ => throw (.conflict "release settled request")
  | .reserved =>
    match db.usage.find? requestID with
    | none => throw (.notFound "lock usage request for release")
    | some usage =>
      if usage.state ≠ .inProgress then
        throw (.conflict "release request with terminal usage")
      let at' := max at' usage.requestedAt
      let db ← cancelUsage db usage at'
      let db ← releaseQuotaReservation db requestID at'
      if usage.endpoint.billed then releaseBilling db requestID at' else return db

/-! ## Repair -/

def repairLimit (limit : Int) : Nat :=
  if limit ≤ 0 ∨ limit > 10000 then 1000 else limit.toNat

/-- Errors that a repair job passes over. -/
def StoreError.skipped : StoreError → Bool
  | .conflict _ => true
  | .notFound _ => true
  | _ => false

/-- A job over the entries of a list, which ends at the first other error. It returns
how many entries succeeded. -/
def repairAll {ι : Type} (repair : Db → ι → Except StoreError Db) :
    List ι → Db → Db × Nat × Option StoreError
  | [], db => (db, 0, none)
  | entry :: rest, db =>
    match repair db entry with
    | .ok db' =>
      let (last, repaired, failure) := repairAll repair rest db'
      (last, repaired + 1, failure)
    | .error err => if err.skipped then repairAll repair rest db else (db, 0, some err)

structure Unsettled where
  requestID : Text
  completedAt : Time
  createdAt : Time
  deriving Repr, DecidableEq

def unsettledRow (db : Db) (q : QuotaReservation) : Option Unsettled :=
  (db.usage.find? q.requestID).bind fun u =>
    if u.state ≠ .inProgress ∧ (q.state = .reserved ∨
        (db.reservations.find? q.requestID).any fun b => b.state = .reserved) then
      u.completedAt.map fun completedAt => ⟨q.requestID, completedAt, q.createdAt⟩
    else none

def unsettledRequests (db : Db) (limit : Int) : List Text :=
  let listed := (db.quotaReservations.rows.filterMap (unsettledRow db)).insertionSort fun a b =>
    a.completedAt < b.completedAt ∨ a.completedAt = b.completedAt ∧ a.createdAt ≤ b.createdAt
  (listed.take (repairLimit limit)).map Unsettled.requestID

/-- The pass over terminal requests; each settlement reads the clock. -/
def retryUnsettledRequests (db : Db) (limit : Int) (clock : Text → Time) :
    Db × Nat × Option StoreError :=
  repairAll (fun db id => settleRequest db id (clock id)) (unsettledRequests db limit) db

/-- A stale reservation, and whether its usage row was there when it was listed. -/
structure StaleReservation where
  requestID : Text
  hasUsage : Bool
  deriving Repr, DecidableEq

def staleReservations (db : Db) (before : Time) (limit : Int) (now : Time) :
    List StaleReservation :=
  let stale := db.quotaReservations.rows.filter fun r =>
    r.state = .reserved ∧ r.createdAt < before ∧
      (db.leases.find? r.requestID).all (fun lease => lease.expiresAt ≤ now) ∧
      (db.usage.find? r.requestID).all fun u => u.state = .inProgress
  ((stale.insertionSort fun a b => a.createdAt ≤ b.createdAt).take (repairLimit limit)).map
    fun r => ⟨r.requestID, (db.usage.find? r.requestID).isSome⟩

def releaseStale (db : Db) (stale : StaleReservation) (at' : Time) : Except StoreError Db :=
  if stale.hasUsage then releaseRequest db stale.requestID at'
  else releaseQuota db stale.requestID at'

def releaseStaleQuotaReservations (db : Db) (before : Time) (limit : Int) (now : Time)
    (clock : Text → Time) : Db × Nat × Option StoreError :=
  repairAll (fun db stale => releaseStale db stale (clock stale.requestID))
    (staleReservations db before limit now) db

end Store
