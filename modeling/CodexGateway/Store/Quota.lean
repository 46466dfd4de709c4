import CodexGateway.Store.Groups

/-! # Traffic quota

Daily counters per key and per user, rate windows and concurrency leases. A request
reserves one request and its tokens in both counters of its day; settling or
releasing it takes the reservation back.
-/

namespace Store

def maxInt64 : Int := 9223372036854775807

structure QuotaLimits where
  keyRequestsPerMinute : Int
  userRequestsPerMinute : Int
  keyConcurrent : Int
  userConcurrent : Int
  globalConcurrent : Int
  keyDailyRequests : Int
  userDailyRequests : Int
  deriving Repr, DecidableEq

/-- `ReserveQuotaParams`; a day that is not given is the day of the request. -/
structure ReserveQuotaParams where
  requestID : Text
  userID : UserID
  apiKeyID : KeyID
  day : Option Int
  now : Time
  reservedTokens : Int
  leaseTTL : Int
  limits : QuotaLimits
  deriving Repr, DecidableEq

def QuotaLimits.values (limits : QuotaLimits) : List Int :=
  [limits.keyRequestsPerMinute, limits.userRequestsPerMinute, limits.keyConcurrent,
    limits.userConcurrent, limits.globalConcurrent, limits.keyDailyRequests,
    limits.userDailyRequests]

def validateQuotaLimits (limits : QuotaLimits) : Except StoreError Unit :=
  if limits.values.any (· < 0) then .error (.invalid "quota limits cannot be negative")
  else .ok ()

def minute : Int := 60 * second

def dateOf (t : Time) : Int := t / day

def normalizeReserveQuota (params : ReserveQuotaParams) : Except StoreError ReserveQuotaParams := do
  if params.requestID = [] ∨ params.reservedTokens < 0 then
    throw (.invalid "invalid quota reservation")
  let params := { params with
    day := some (params.day.getD (dateOf params.now))
    leaseTTL := if params.leaseTTL ≤ 0 then 5 * minute else params.leaseTTL }
  if params.leaseTTL > 30 * minute then throw (.invalid "quota lease TTL exceeds 30 minutes")
  validateQuotaLimits params.limits
  return params

def enforceQuota (scope dimension : String) (limit current requested : Int) :
    Except StoreError Unit :=
  if limit = 0 ∨ current + requested ≤ limit then .ok ()
  else .error (.quotaExceeded scope dimension)

/-! ## Counters -/

/-- The `CHECK` of `quota_counters` and the range of its `BIGINT` columns. -/
def QuotaCounter.Valid (row : QuotaCounter) : Prop :=
  0 ≤ row.requestsCompleted ∧ row.requestsCompleted ≤ row.requestsReserved ∧
    0 ≤ row.tokensReserved ∧ 0 ≤ row.tokensUsed ∧ row.requestsReserved ≤ maxInt64 ∧
    row.tokensReserved ≤ maxInt64 ∧ row.tokensUsed ≤ maxInt64

instance (row : QuotaCounter) : Decidable row.Valid :=
  inferInstanceAs (Decidable (_ ∧ _))

/-- The counters of a request: those of its key and of its user on its day. -/
def QuotaCounter.counts (row : QuotaCounter) (day : Int) (userID : UserID) (apiKeyID : KeyID) :
    Bool :=
  row.day = day ∧ (row.scope = .key apiKeyID ∨ row.scope = .user userID)

def ensureCounter (db : Db) (day : Int) (scope : QuotaScope) : Db :=
  { db with quotaCounters := db.quotaCounters.insertIfAbsent ⟨day, scope, 0, 0, 0, 0⟩ }

def dailyRequests (db : Db) (day : Int) (scope : QuotaScope) : Int :=
  ((db.quotaCounters.find? (day, scope)).map QuotaCounter.requestsReserved).getD 0

structure CounterChange where
  requestsReserved : Int
  requestsCompleted : Int
  tokensReserved : Int
  tokensUsed : Int
  deriving Repr, DecidableEq

def QuotaCounter.change (row : QuotaCounter) (by' : CounterChange) : QuotaCounter :=
  { row with
    requestsReserved := row.requestsReserved + by'.requestsReserved
    requestsCompleted := row.requestsCompleted + by'.requestsCompleted
    tokensReserved := row.tokensReserved + by'.tokensReserved
    tokensUsed := row.tokensUsed + by'.tokensUsed }

/-- An update of the counters of a request that meet a condition. A row out of range
fails the statement; otherwise it must have touched exactly two rows. -/
def updateCounters (db : Db) (operation : String) (day : Int) (userID : UserID) (apiKeyID : KeyID)
    (condition : QuotaCounter → Bool) (by' : CounterChange) : Except StoreError Db :=
  let hit (row : QuotaCounter) : Bool := row.counts day userID apiKeyID && condition row
  let touched := db.quotaCounters.rows.filter hit
  if touched.any fun row => ¬ (row.change by').Valid then .error (.invalid operation)
  else if touched.length ≠ 2 then .error (.conflict operation)
  else
    .ok { db with
      quotaCounters := db.quotaCounters.update hit (fun row => row.change by') (fun _ => rfl) }

/-! ## Rate windows and leases -/

def ensureWindow (db : Db) (windowStart : Time) (scope : QuotaScope) : Db :=
  { db with rateWindows := db.rateWindows.insertIfAbsent ⟨windowStart, scope, 0⟩ }

def rateCount (db : Db) (windowStart : Time) (scope : QuotaScope) : Int :=
  ((db.rateWindows.find? (windowStart, scope)).map RateWindow.requestCount).getD 0

def countRequest (db : Db) (windowStart : Time) (scope : QuotaScope) : Db :=
  { db with
    rateWindows := db.rateWindows.modify (windowStart, scope)
      (fun row => { row with requestCount := row.requestCount + 1 }) (fun _ => rfl) }

def expireLeases (db : Db) (now : Time) : Db :=
  { db with leases := db.leases.delete fun lease => lease.expiresAt ≤ now }

def releaseLease (db : Db) (requestID : Text) : Db :=
  { db with leases := db.leases.delete fun lease => lease.requestID = requestID }

def enforceConcurrency (db : Db) (params : ReserveQuotaParams) : Except StoreError Unit := do
  let current (among : ConcurrencyLease → Bool) : Int := (db.leases.rows.filter among).length
  enforceQuota "key" "concurrency" params.limits.keyConcurrent
    (current fun lease => lease.apiKeyID = params.apiKeyID) 1
  enforceQuota "user" "concurrency" params.limits.userConcurrent
    (current fun lease => lease.userID = params.userID) 1
  enforceQuota "global" "concurrency" params.limits.globalConcurrent (current fun _ => true) 1

/-! ## Reserving -/

/-- The admission of a request after the scopes are locked. -/
def reserveQuota (db : Db) (params : ReserveQuotaParams) :
    Except StoreError (Db × QuotaReservation) := do
  let date := params.day.getD (dateOf params.now)
  let windowStart := params.now - params.now % minute
  let db := expireLeases db params.now
  enforceConcurrency db params
  let db := ensureWindow (ensureWindow db windowStart (.key params.apiKeyID)) windowStart
    (.user params.userID)
  enforceQuota "key" "rpm" params.limits.keyRequestsPerMinute
    (rateCount db windowStart (.key params.apiKeyID)) 1
  enforceQuota "user" "rpm" params.limits.userRequestsPerMinute
    (rateCount db windowStart (.user params.userID)) 1
  let db := ensureCounter (ensureCounter db date (.key params.apiKeyID)) date (.user params.userID)
  enforceQuota "key" "daily_requests" params.limits.keyDailyRequests
    (dailyRequests db date (.key params.apiKeyID)) 1
  enforceQuota "user" "daily_requests" params.limits.userDailyRequests
    (dailyRequests db date (.user params.userID)) 1
  let db := countRequest (countRequest db windowStart (.key params.apiKeyID)) windowStart
    (.user params.userID)
  let db ← updateCounters db "reserve daily quota" date params.userID params.apiKeyID (fun _ => true)
    ⟨1, 0, params.reservedTokens, 0⟩
  let row : QuotaReservation := ⟨params.requestID, date, params.userID, params.apiKeyID,
    params.reservedTokens, params.now, .reserved⟩
  match db.quotaReservations.insert? row with
  | none => throw (.conflict "insert quota reservation")
  | some quotaReservations =>
    let lease : ConcurrencyLease :=
      ⟨params.requestID, params.userID, params.apiKeyID, params.now + params.leaseTTL⟩
    match db.leases.insert? lease with
    | none => throw (.conflict "insert concurrency lease")
    | some leases => return ({ db with quotaReservations, leases }, row)

/-! ## Settling and releasing -/

def readReservation (db : Db) (requestID : Text) : Except StoreError QuotaReservation :=
  match db.quotaReservations.find? requestID with
  | none => .error (.notFound "read quota reservation")
  | some row => .ok row

/-- Close a reservation in a final state and drop its lease. -/
def closeReservation (db : Db) (requestID : Text) (state : QuotaState) : Db :=
  releaseLease { db with
    quotaReservations := db.quotaReservations.modify requestID
      (fun row => { row with state }) (fun _ => rfl) } requestID

def settleQuota (db : Db) (requestID : Text) (actualTokens : Int) (at' : Time) :
    Except StoreError Db := do
  let reservation ← readReservation db requestID
  match reservation.state with
  | .settled tokens _ =>
    if tokens = actualTokens then return db else throw (.conflict "settle quota")
  | .released _ => throw (.conflict "settle released quota")
  | .reserved =>
    let db ← updateCounters db "settle quota counters" reservation.day reservation.userID
      reservation.apiKeyID (fun row => reservation.reservedTokens ≤ row.tokensReserved)
      ⟨0, 1, -reservation.reservedTokens, actualTokens⟩
    return closeReservation db requestID (.settled actualTokens at')

def releaseQuotaReservation (db : Db) (requestID : Text) (at' : Time) : Except StoreError Db := do
  let reservation ← readReservation db requestID
  match reservation.state with
  | .released _ => return db
  | .settled _ _ => throw (.conflict "release settled quota")
  | .reserved =>
    let db ← updateCounters db "release quota counters" reservation.day reservation.userID
      reservation.apiKeyID
      (fun row => 0 < row.requestsReserved ∧ reservation.reservedTokens ≤ row.tokensReserved)
      ⟨-1, 0, -reservation.reservedTokens, 0⟩
    return closeReservation db requestID (.released at')

/-- `ReleaseQuota`: the quota alone, for a reservation without a usage row. -/
def releaseQuota (db : Db) (requestID : Text) (at' : Time) : Except StoreError Db := do
  if requestID = [] then throw (.invalid "empty quota reservation id")
  releaseQuotaReservation db requestID at'

/-! ## Retention -/

/-- Old rate windows, closed reservations and the counters of past days. -/
def deleteQuotaStateBefore (db : Db) (before : Time) : Db :=
  let kept (row : QuotaReservation) : Bool :=
    (db.reservations.find? row.requestID).any fun billing => billing.state = .reserved
  { db with
    rateWindows := db.rateWindows.delete fun row => row.windowStart < before
    quotaReservations := db.quotaReservations.delete fun row =>
      (match row.state with
        | .reserved => false
        | .settled _ at' => at' < before
        | .released at' => at' < before) && !kept row
    quotaCounters := db.quotaCounters.delete fun row => row.day < dateOf before }

end Store
