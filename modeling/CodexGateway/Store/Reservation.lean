import CodexGateway.Store.BoundOrder
import CodexGateway.Store.RecordedLayers
import CodexGateway.Store.Rolled

/-! # Reserving funds for a request

The transaction `reserveBillingTx`: normalize the request, roll the user's groups
and subscriptions, snapshot what may pay for it, and record the reservation with
its funding layers.
-/

namespace Store

open Billing Config
open Except (bind_eq_ok refuse_eq_ok)

variable {db db' : Db} {params : BillingReservationParams} {reservation : BillingReservation}
  {layers : List FundingLayer} {structureDigest : ModelPriceStructure → Text}

structure FreshPeriods where
  group : GroupID → PeriodID
  subscription : SubscriptionID → PeriodID

/-- The last cash lot that a request may use, while cash is enabled and there is some. -/
def cashCutoff (account : BillingAccount) : Option Int :=
  if account.cashSourceDisabled = false ∧ billingPositive (numericText account.balanceUSD) ∧
      account.nextCashLotSequence - 1 > 0 then some (account.nextCashLotSequence - 1)
  else none

/-- When a group has funds again, if it will. -/
def groupRenewal (group : GroupSummary) (now : Time) : Option Time :=
  let renewal :=
    if now < group.periodStartsAt then some group.periodStartsAt
    else if groupHasNextPeriod group then some group.periodEndsAt
    else none
  renewal.filter fun time => now < time ∧ group.expiresAt.all (time < ·)

/-- The delay of an `InsufficientFundsError`: the earlier of the renewals. -/
def fundingRetry (retry : Int) (group : Option GroupSummary) (model : Text) (now : Time) : Int :=
  match group with
  | none => retry
  | some group =>
    if groupModelAllowed group model ∧ billingPositive group.limitUSD ∧
        group.memberLimitUSD.all billingPositive then
      match groupRenewal group now with
      | none => retry
      | some renewal => if retry = 0 ∨ renewal - now < retry then renewal - now else retry
    else retry

variable {fresh : FreshPeriods} {normalized priced : BillingReservationParams}

section

variable (structureDigest : ModelPriceStructure → Text)

def reservationRow (params : BillingReservationParams) (multiplier : Text)
    (cutoff : Option Int) (sources : List FundingSource) (layers : List FundingLayer) :
    BillingReservation where
  requestID := params.requestID
  userID := params.userID
  apiKeyID := params.apiKeyID
  model := params.model
  inputUSDPerMillion := priceColumn params.inputUSDPerMillion
  cachedInputUSDPerMillion := priceColumn params.cachedInputUSDPerMillion
  outputUSDPerMillion := priceColumn params.outputUSDPerMillion
  pricingRuleVersion := params.pricingRuleVersion
  billingMode := params.billingMode
  pricingSnapshot := params.pricingSnapshot
  pricingMultiplier := numeric multiplier
  fundingRuleVersion := 4
  -- Provisional: settlement binds the layer whose pool served the request.
  groupID :=
    match layers with
    | .group layer :: _ => some layer.groupID
    | _ => none
  groupPeriodID :=
    match layers with
    | .group layer :: _ => some layer.groupPeriodID
    | _ => none
  dayPeriodID := none
  weekPeriodID := none
  monthPeriodID := none
  cashLotCutoff := cutoff
  orderedFundingSources := sources
  createdAt := params.now
  state := .reserved

def insertReservation (db : Db) (row : BillingReservation) : Except StoreError Db :=
  match db.reservations.insert? row with
  | none => .error (.conflict "insert billing reservation")
  | some reservations => .ok { db with reservations }

/-- What is left once the funds of a request are known. -/
def recordReservation (db : Db) (params : BillingReservationParams) (cutoff : Option Int)
    (sources : List FundingSource) (groups : List GroupSummary) :
    Except StoreError (Db × BillingReservation × List FundingLayer) := do
  let layers ← fundingLayers db params groups (sources ≠ [])
  if layers = [] then throw .noUpstreamAccount
  let params ← snapshotModelPrice structureDigest db params
  let row := reservationRow params (snapshotModelMultiplier db params.model) cutoff sources layers
  let inserted ← insertReservation db row
  let recorded ← recordFundingLayers row.requestID row.userID layers inserted
  return (recorded, row, layers)

def reserveBilling (db : Db) (params : BillingReservationParams) (fresh : FreshPeriods) :
    Except StoreError (Db × BillingReservation × List FundingLayer) := do
  let params ← normalizeReservation params
  match db.accounts.find? params.userID with
  | none => throw (.notFound "lock billing account")
  | some account =>
    let (db, groups, fallback) ← userFundingGroups db params.userID params.now params.model
      fresh.group
    let db ← rollBillingSubscriptions db params.userID params.now fresh.subscription
    let cutoff := cashCutoff account
    let sources ← snapshotBillingFunding db params.userID params.model params.now
      (numericText account.balanceUSD) account.cashPriority cutoff
    if params.billingMode ≠ .internalZero ∧ sources = [] ∧ groups = [] then
      throw (.insufficientFunds (fundingRetry
        (billingFundingRetry db params.userID params.model params.now) fallback params.model
        params.now))
    recordReservation structureDigest db params cutoff sources groups

/-- A reservation that was made, with everything it was made from. -/
structure Reserved (db : Db) (params : BillingReservationParams) (fresh : FreshPeriods)
    (db' : Db) (reservation : BillingReservation) (layers : List FundingLayer) where
  normalized : BillingReservationParams
  priced : BillingReservationParams
  account : BillingAccount
  grouped : Db
  rolled : Db
  inserted : Db
  groups : List GroupSummary
  fallback : Option GroupSummary
  sources : List FundingSource
  normalizes : normalizeReservation params = .ok normalized
  owner : db.accounts.find? normalized.userID = some account
  funding : userFundingGroups db normalized.userID normalized.now normalized.model fresh.group =
    .ok (grouped, groups, fallback)
  rolls : rollBillingSubscriptions grouped normalized.userID normalized.now fresh.subscription =
    .ok rolled
  snapshots : snapshotBillingFunding rolled normalized.userID normalized.model normalized.now
    (numericText account.balanceUSD) account.cashPriority (cashCutoff account) = .ok sources
  funded : ¬ (normalized.billingMode ≠ .internalZero ∧ sources = [] ∧ groups = [])
  layered : fundingLayers rolled normalized groups (sources ≠ []) = .ok layers
  nonempty : layers ≠ []
  prices : snapshotModelPrice structureDigest rolled normalized = .ok priced
  row : reservation = reservationRow priced (snapshotModelMultiplier rolled priced.model)
    (cashCutoff account) sources layers
  insertion : insertReservation rolled reservation = .ok inserted
  recording : recordFundingLayers reservation.requestID reservation.userID layers inserted =
    .ok db'

theorem reserveBilling_ok
    (ok : reserveBilling structureDigest db params fresh = .ok (db', reservation, layers)) :
    Nonempty (Reserved structureDigest db params fresh db' reservation layers) := by
  obtain ⟨normalized, normalizes, ok⟩ := bind_eq_ok.mp ok
  cases owner : db.accounts.find? normalized.userID with
  | none =>
    rw [owner] at ok
    cases ok
  | some account =>
    rw [owner] at ok
    obtain ⟨⟨grouped, groups, fallback⟩, funding, ok⟩ := bind_eq_ok.mp ok
    obtain ⟨rolled, rolls, ok⟩ := bind_eq_ok.mp ok
    obtain ⟨sources, snapshots, ok⟩ := bind_eq_ok.mp ok
    obtain ⟨funded, ok⟩ := refuse_eq_ok.mp ok
    obtain ⟨layers', layered, ok⟩ := bind_eq_ok.mp ok
    obtain ⟨nonempty, ok⟩ := refuse_eq_ok.mp ok
    obtain ⟨priced, prices, ok⟩ := bind_eq_ok.mp ok
    obtain ⟨inserted, insertion, ok⟩ := bind_eq_ok.mp ok
    obtain ⟨recorded, recording, ok⟩ := bind_eq_ok.mp ok
    cases ok
    exact ⟨⟨normalized, priced, account, grouped, rolled, inserted, groups, fallback, sources,
      normalizes, owner, funding, rolls, snapshots, funded, layered, nonempty, prices, rfl,
      insertion, recording⟩⟩

end

/-! ## What a reservation changes -/

/-- Two parameter lists that are about one request. -/
structure SameRequest (params params' : BillingReservationParams) : Prop where
  requestID : params'.requestID = params.requestID
  userID : params'.userID = params.userID
  apiKeyID : params'.apiKeyID = params.apiKeyID

theorem SameRequest.trans {a b c : BillingReservationParams} (first : SameRequest a b)
    (second : SameRequest b c) : SameRequest a c :=
  ⟨second.requestID.trans first.requestID, second.userID.trans first.userID,
    second.apiKeyID.trans first.apiKeyID⟩

theorem normalizePricing_sameRequest
    (ok : normalizePricing params = .ok normalized) : SameRequest params normalized := by
  unfold normalizePricing at ok
  split at ok
  · unfold normalizeV1Pricing at ok
    dsimp only at ok
    obtain ⟨_, ok⟩ := refuse_eq_ok.mp ok
    split at ok
    · cases ok
      refine ⟨?_, ?_, ?_⟩ <;> dsimp only <;> split <;> rfl
    · cases ok
  · split at ok
    · unfold normalizeV2Pricing at ok
      obtain ⟨_, ok⟩ := refuse_eq_ok.mp ok
      obtain ⟨_, ok⟩ := refuse_eq_ok.mp ok
      obtain ⟨_, ok⟩ := refuse_eq_ok.mp ok
      split at ok
      · cases ok
      · obtain ⟨_, ok⟩ := refuse_eq_ok.mp ok
        obtain ⟨_, ok⟩ := refuse_eq_ok.mp ok
        cases ok
        exact ⟨rfl, rfl, rfl⟩
    · cases ok

theorem normalizeReservation_sameRequest
    (ok : normalizeReservation params = .ok normalized) : SameRequest params normalized := by
  unfold normalizeReservation at ok
  dsimp only at ok
  obtain ⟨_, ok⟩ := refuse_eq_ok.mp ok
  obtain ⟨priced, pricing, ok⟩ := bind_eq_ok.mp ok
  obtain ⟨_, ok⟩ := refuse_eq_ok.mp ok
  cases ok
  have same := normalizePricing_sameRequest pricing
  exact ⟨same.requestID, same.userID, same.apiKeyID⟩

theorem snapshotModelPrice_sameRequest
    (ok : snapshotModelPrice structureDigest db params = .ok priced) :
    SameRequest params priced := by
  unfold snapshotModelPrice at ok
  split at ok
  · cases ok
    exact ⟨rfl, rfl, rfl⟩
  · split at ok
    · cases ok
      exact ⟨rfl, rfl, rfl⟩
    · split at ok
      · obtain ⟨_, _, ok⟩ := bind_eq_ok.mp ok
        obtain ⟨effective, _, ok⟩ := bind_eq_ok.mp ok
        cases effective with
        | none => cases ok
        | some effective =>
          cases ok
          exact ⟨rfl, rfl, rfl⟩
      · obtain ⟨effective, _, ok⟩ := bind_eq_ok.mp ok
        cases effective with
        | none => cases ok
        | some effective =>
          cases ok
          exact ⟨rfl, rfl, rfl⟩

theorem insertReservation_ok {row : BillingReservation} (ok : insertReservation db row = .ok db') :
    db.reservations.find? row.requestID = none ∧
      db'.reservations.rows = row :: db.reservations.rows ∧
      db' = { db with reservations := db'.reservations } := by
  unfold insertReservation at ok
  split at ok
  · cases ok
  · rename_i reservations inserted
    cases ok
    obtain ⟨absent, rows⟩ := Table.insert?_eq_some.mp inserted
    exact ⟨absent, rows, rfl⟩

/-- The second database differs from the first in the tables that a reservation
writes. -/
def ReservesOnly (db db' : Db) : Prop :=
  db' = { db with
    groups := db'.groups
    groupPeriods := db'.groupPeriods
    subscriptions := db'.subscriptions
    subscriptionPeriods := db'.subscriptionPeriods
    ledger := db'.ledger
    reservations := db'.reservations
    layers := db'.layers }

/-- What a new reservation does to the tables. -/
structure ReservationMade (db : Db) (params : BillingReservationParams) (db' : Db)
    (reservation : BillingReservation) (layers : List FundingLayer) : Prop where
  requestID : reservation.requestID = params.requestID
  userID : reservation.userID = params.userID
  apiKeyID : reservation.apiKeyID = params.apiKeyID
  reserved : reservation.state = .reserved
  rule : reservation.fundingRuleVersion = 4
  fresh : db.reservations.find? reservation.requestID = none
  reservations : db'.reservations.rows = reservation :: db.reservations.rows
  layers : ∃ rows : List LayerRow, rows.map LayerRow.read = layers ∧
    (∀ row ∈ rows, row.requestID = reservation.requestID) ∧
    rows.map LayerRow.position = layers.map FundingLayer.position ∧
    db'.layers.rows = rows.reverse ++ db.layers.rows
  groupPeriods : PeriodsExtended db.groupPeriods db'.groupPeriods
  ledger : ∃ renewals, db'.ledger.rows = renewals ++ db.ledger.rows ∧
    ∀ entry ∈ renewals, ∃ id, entry.kind = .subscriptionRenewal id
  account : ∃ account, db.accounts.find? reservation.userID = some account
  frame : ReservesOnly db db'

theorem Reserved.made (reserved : Reserved structureDigest db params fresh db' reservation layers) :
    ReservationMade db params db' reservation layers := by
  obtain ⟨normalized, priced, account, grouped, rolled, inserted, groups, fallback, sources,
    normalizes, owner, funding, rolls, -, -, -, -, prices, rfl, insertion, recording⟩ := reserved
  have same := (normalizeReservation_sameRequest normalizes).trans
    (snapshotModelPrice_sameRequest prices)
  have grouping := userFundingGroups_ok funding
  have rolling := rollBillingSubscriptions_ok rolls
  obtain ⟨absent, rows, insertedFrame⟩ := insertReservation_ok insertion
  obtain ⟨layerRows, reads, named, positions, recordedRows, recordedFrame⟩ :=
    recordFundingLayers_ok recording
  have sameUser := snapshotModelPrice_sameRequest prices
  -- every database is the one before it but for the tables that its step writes
  clear funding rolls insertion recording prices
  obtain ⟨groupRows, periodRows, rfl⟩ : ∃ groups periods,
      grouped = { db with groups, groupPeriods := periods } := ⟨_, _, grouping.frame⟩
  obtain ⟨subscriptions, subscriptionPeriods, ledger, rfl⟩ :
      ∃ subscriptions subscriptionPeriods ledger, rolled = { db with
        groups := groupRows, groupPeriods := periodRows, subscriptions, subscriptionPeriods, ledger } :=
    ⟨_, _, _, rolling.frame⟩
  obtain ⟨reservations, layerTable, rfl⟩ : ∃ reservations layers, db' = { db with
      groups := groupRows, groupPeriods := periodRows, subscriptions, subscriptionPeriods, ledger
      reservations, layers } := ⟨_, _, recordedFrame.trans (by rw [insertedFrame])⟩
  exact {
    requestID := same.requestID
    userID := same.userID
    apiKeyID := same.apiKeyID
    reserved := rfl
    rule := rfl
    fresh := absent
    reservations := (congrArg (·.reservations.rows) recordedFrame).trans rows
    layers := ⟨layerRows, reads, named, positions, by rw [recordedRows, insertedFrame]⟩
    groupPeriods := grouping.periods
    ledger := rolling.ledger
    account := by
      rw [← sameUser.userID] at owner
      exact ⟨account, owner⟩
    frame := rfl }

/-! ## Pricing what was admitted -/

theorem PricedParams.pricingBound_row (accepted : PricedParams priced) (db : Db)
    (cutoff : Option Int) (sources : List FundingSource) (layers : List FundingLayer) :
    PricingBound (reservationRow priced (snapshotModelMultiplier db priced.model) cutoff sources
      layers) :=
  accepted.pricingBound rfl rfl rfl rfl rfl rfl

theorem Reserved.pricingBound
    (made : Reserved structureDigest db params fresh db' reservation layers) :
    PricingBound reservation := by
  have accepted := normalizeReservation_priced made.normalizes
  have priced := snapshotModelPrice_priced accepted made.prices
  rw [made.row]
  exact priced.pricingBound_row made.rolled (cashCutoff made.account) made.sources layers

/-- Whatever pricing a reservation was admitted with, every stored usage can be
priced under it: the only error is a cost that rounds to 10¹⁸ USD or more.
Settlement prices the reservation after binding its group. -/
theorem priceUsage_of_reserveBilling {structureDigest : ModelPriceStructure → Text} {db db' : Db}
    {params : BillingReservationParams} {fresh : FreshPeriods} {reservation : BillingReservation}
    {layers : List FundingLayer}
    (ok : reserveBilling structureDigest db params fresh = .ok (db', reservation, layers))
    (groupID : Option GroupID) (groupPeriodID : Option PeriodID) (usage : UsageRequest) :
    (priceUsage { reservation with groupID, groupPeriodID } usage).map PricedUsage.cost =
      if roundedCost reservation usage < 10 ^ (amountScale + maxIntegerDigits) then
        .ok (numericText (roundedCost reservation usage))
      else
        .error (.other ("calculate request cost: " ++
          ("amount exceeds NUMERIC(30,12): " ++ errInvalidDecimal))) := by
  obtain ⟨made⟩ := reserveBilling_ok structureDigest ok
  exact made.pricingBound.priceUsage_cost usage

/-! A request that cash of five dollars may pay for, and a million input tokens. -/

def sampleParams : BillingReservationParams where
  requestID := ['r']
  userID := 1
  apiKeyID := 1
  model := ['m']
  inputUSDPerMillion := ['3']
  cachedInputUSDPerMillion := ['1']
  outputUSDPerMillion := ['1']
  pricingRuleVersion := 1
  billingMode := .legacy
  pricingCatalogAsOf := []
  pricingModel := []
  pricingSnapshot := .empty
  cacheWriteMode := []
  requestedServiceTier := []
  upstreamProvider := .codex
  now := 1

def sampleFunds : Db :=
  { Db.empty ⟨10 ^ amountScale, [['m']], true⟩ with
    accounts := ⟨[⟨1, 5 * 10 ^ amountScale, 3, false, 100, none⟩], by decide⟩ }

/-- One tier, where input costs 2 USD for a million tokens and a cache write has its own price. -/
def writesAt (price : Text) : PricingSnapshot where
  schemaVersion := pricingSchemaV2
  fallbackPolicy := ⟨fallbackMaxPublished, fallbackMaxPublished, fallbackAllUncachedAsWrite⟩
  model := ['m']
  rule := {
    inputUSDPerMillion := []
    cachedInputUSDPerMillion := []
    outputUSDPerMillion := []
    cacheWriteMode := cacheWriteSeparate
    maxInputTokens := 4000000
    longContextThresholdTokens := 2000000
    serviceTiers := ⟨[(pricingTierStandard,
      ⟨some ⟨['2'], ['1'], some price, none, none, ['4']⟩, none⟩)], List.nodup_singleton _⟩ }

def publishedParams : BillingReservationParams :=
  { sampleParams with
    inputUSDPerMillion := []
    cachedInputUSDPerMillion := []
    outputUSDPerMillion := []
    pricingRuleVersion := pricingSchemaV2
    billingMode := .openAIAPIEquivalent
    pricingCatalogAsOf := "2026-01-01".toList
    pricingModel := ['m']
    pricingSnapshot := .document ⟨writesAt ['3'], v2Fields⟩
    cacheWriteMode := cacheWriteSeparate }

/-- Nobody reported what was written to the cache, so that the whole million is billed as written,
also when the request is bound to a group in the end. -/
theorem priceUsage_of_publishedParams : ∃ db' reservation layers,
    reserveBilling (fun _ => []) sampleFunds publishedParams ⟨fun _ => 0, fun _ => 0⟩ =
      .ok (db', reservation, layers) ∧
    (priceUsage { reservation with groupID := some 5, groupPeriodID := some 6 } sampleUsage).map
        PricedUsage.cost = .ok (numericText (3 * 10 ^ amountScale)) := by
  have reserves : (reserveBilling (fun _ => []) sampleFunds publishedParams
      ⟨fun _ => 0, fun _ => 0⟩).toOption.map (roundedCost ·.2.1 sampleUsage) =
        some (3 * 10 ^ amountScale) := by
    decide +kernel
  obtain ⟨⟨db', reservation, layers⟩, made, cost⟩ := Option.map_eq_some_iff.mp reserves
  have ok := Except.toOption_eq_some.mp made
  dsimp only at cost
  refine ⟨db', reservation, layers, ok, ?_⟩
  rw [priceUsage_of_reserveBilling ok (some 5) (some 6) sampleUsage, cost, if_pos (by decide)]

end Store
