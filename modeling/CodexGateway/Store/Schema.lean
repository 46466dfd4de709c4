import CodexGateway.Config.ModelPrices

/-! # The tables of the store

The rows of the PostgreSQL schema that admission, settlement, recovery and group
administration read or write, and the database that holds them. A `NUMERIC(30,12)`
column is an integer in units of 10⁻¹² USD. UUIDs are numbers in the order of
their texts, and points in time are nanoseconds. Where a `CHECK` ties columns
together, the row type has only the allowed combinations.
-/

namespace Store

abbrev UserID := Nat
abbrev KeyID := Nat
abbrev GroupID := Nat
abbrev PeriodID := Nat
abbrev SubscriptionID := Nat
abbrev EntitlementID := Nat
abbrev PlanID := Nat
abbrev DeviceID := Nat
abbrev OperationID := Nat

/-- Nanoseconds since the Unix epoch. -/
abbrev Time := Int

/-- The sentinel errors of `store.go` with the text of the wrapping error. An
`other` error wraps none of the sentinels. -/
inductive StoreError where
  | notFound (text : String)
  | conflict (text : String)
  | invalid (text : String)
  | quotaExceeded (scope dimension : String)
  | insufficientFunds (retryAfter : Time)
  | noUpstreamAccount
  | modelNotAllowed
  | modelAccessUnavailable
  | other (text : String)
  deriving Repr, DecidableEq

/-! ## Cash -/

structure BillingAccount where
  userID : UserID
  balanceUSD : Int
  nextCashLotSequence : Int
  cashSourceDisabled : Bool
  cashPriority : Int
  groupID : Option GroupID
  deriving Repr, DecidableEq

structure CashLot where
  id : Nat
  userID : UserID
  lotSequence : Int
  originalUSD : Int
  remainingUSD : Int
  deriving Repr, DecidableEq

/-- The one row of `billing_settings`. -/
structure BillingSettings where
  usdPerCNY : Int
  modelIDs : List Text
  modelsInitialized : Bool
  deriving Repr, DecidableEq

/-! ## Subscriptions -/

inductive BillingTier where
  | day
  | week
  | month
  | custom
  deriving Repr, DecidableEq

structure BillingPlan where
  id : PlanID
  name : Text
  tier : BillingTier
  periodDays : Int
  allowanceUSD : Int
  priceUSD : Int
  modelIDs : List Text
  minPeriodCount : Int
  active : Bool
  version : Int
  deletedAt : Option Time
  deriving Repr, DecidableEq

structure Subscription where
  id : SubscriptionID
  userID : UserID
  name : Text
  tier : BillingTier
  enabled : Bool
  allowanceUSD : Int
  currentPeriodID : Option PeriodID
  periodCount : Int
  currentPeriodNumber : Int
  expiresAt : Option Time
  disabledAt : Option Time
  periodDays : Int
  modelIDs : List Text
  modelsInitialized : Bool
  chargeEnabled : Bool
  priority : Int
  planID : Option PlanID
  planVersion : Option Int
  configVersion : Int
  deriving Repr, DecidableEq

structure Entitlement where
  id : EntitlementID
  subscriptionID : SubscriptionID
  userID : UserID
  startsAt : Time
  endsAt : Option Time
  tier : BillingTier
  periodDays : Int
  allowanceUSD : Int
  modelIDs : List Text
  periodCount : Int
  firstPeriodNumber : Int
  supersededAt : Option Time
  deriving Repr, DecidableEq

structure SubscriptionPeriod where
  id : PeriodID
  subscriptionID : SubscriptionID
  userID : UserID
  tier : BillingTier
  startsAt : Time
  endsAt : Time
  allowanceUSD : Int
  remainingUSD : Int
  periodNumber : Int
  periodCount : Int
  entitlementID : Option EntitlementID
  periodDays : Int
  closedAt : Option Time
  deriving Repr, DecidableEq

/-! ## Groups -/

inductive GroupPeriodKind where
  | day
  | week
  | month
  | custom
  deriving Repr, DecidableEq

structure Group where
  id : GroupID
  name : Text
  limitUSD : Int
  memberLimitUSD : Option Int
  period : GroupPeriodKind
  customDays : Int
  startsAt : Time
  currentPeriodID : Option PeriodID
  archivedAt : Option Time
  periodCount : Int
  currentPeriodNumber : Int
  expiresAt : Option Time
  modelIDs : List Text
  modelsInitialized : Bool
  deriving Repr, DecidableEq

structure GroupPeriod where
  id : PeriodID
  groupID : GroupID
  startsAt : Time
  endsAt : Time
  limitUSD : Int
  usedUSD : Int
  memberLimitUSD : Option Int
  closedAt : Option Time
  deriving Repr, DecidableEq

structure GroupMemberUsage where
  periodID : PeriodID
  userID : UserID
  usedUSD : Int
  deriving Repr, DecidableEq

abbrev GroupMemberUsage.key (row : GroupMemberUsage) : PeriodID × UserID := (row.periodID, row.userID)

structure GroupMembership where
  groupID : GroupID
  userID : UserID
  priority : Int
  deriving Repr, DecidableEq

abbrev GroupMembership.key (row : GroupMembership) : GroupID × UserID := (row.groupID, row.userID)

/-- A group joined with its current period, amounts as texts. -/
structure GroupSummary where
  id : GroupID
  name : Text
  limitUSD : Text
  memberLimitUSD : Option Text
  usedUSD : Text
  remainingUSD : Text
  period : GroupPeriodKind
  customDays : Int
  startsAt : Time
  periodID : PeriodID
  periodStartsAt : Time
  periodEndsAt : Time
  periodCount : Int
  currentPeriodNumber : Int
  expiresAt : Option Time
  memberCount : Nat
  archivedAt : Option Time
  modelIDs : List Text
  deriving Repr, DecidableEq

structure GroupMember where
  userID : UserID
  username : Text
  usedUSD : Text
  remainingUSD : Option Text
  deriving Repr, DecidableEq

structure GroupDetail where
  summary : GroupSummary
  members : List GroupMember
  deriving Repr, DecidableEq

/-! ## Upstream accounts -/

inductive UpstreamProvider where
  | codex
  | antigravity
  | anthropic
  deriving Repr, DecidableEq

/-- The `CHECK` on account ids: `^[a-f0-9]{16}$`. -/
def IsAccountID (text : Text) : Prop :=
  text.length = 16 ∧ ∀ c ∈ text, '0' ≤ c ∧ c ≤ '9' ∨ 'a' ≤ c ∧ c ≤ 'f'

/-- The digits of an account id by their codes, which the kernel compares as numbers. -/
def isAccountDigit (c : Char) : Bool :=
  (48 ≤ c.toNat && c.toNat ≤ 57) || (97 ≤ c.toNat && c.toNat ≤ 102)

theorem isAccountDigit_iff (c : Char) :
    isAccountDigit c = true ↔ '0' ≤ c ∧ c ≤ '9' ∨ 'a' ≤ c ∧ c ≤ 'f' := by
  simp [isAccountDigit, Char.le_def, UInt32.le_iff_toNat_le]

instance : DecidablePred IsAccountID := fun text =>
  decidable_of_iff (text.length = 16 ∧ text.all isAccountDigit = true) (by
    simp only [IsAccountID, List.all_eq_true, isAccountDigit_iff])

abbrev AccountID := { text : Text // IsAccountID text }

/-- A row of `upstream_accounts`; `shared` is its access mode. -/
structure UpstreamAccount where
  id : AccountID
  provider : UpstreamProvider
  shared : Bool
  deriving Repr, DecidableEq

/-- Which users may use which accounts, and which accounts a group has selected. -/
structure UpstreamAccess where
  /-- Rows of `upstream_account_users`. -/
  granted : List (AccountID × UserID)
  /-- Rows of `user_upstream_access` whose mode is `selected`. -/
  restricted : List (UserID × UpstreamProvider)
  /-- Rows of `user_upstream_access_accounts`. -/
  allowed : List (UserID × UpstreamProvider × AccountID)
  /-- Rows of `group_upstream_account_policies` whose strategy is `selected`. -/
  selected : List (GroupID × UpstreamProvider)
  /-- Rows of `group_upstream_accounts`. -/
  pooled : List (GroupID × UpstreamProvider × AccountID)
  deriving Repr, DecidableEq

inductive PoolStrategy where
  | all
  | selected
  deriving Repr, DecidableEq

structure GroupUpstreamAccountPolicy where
  groupID : GroupID
  provider : UpstreamProvider
  strategy : PoolStrategy
  accountIDs : List AccountID
  updatedAt : Time
  deriving Repr, DecidableEq

structure GroupMembershipPreference where
  groupID : GroupID
  userID : UserID
  priority : Int
  deriving Repr, DecidableEq

/-- The response that a group write stores; its action tells which kind it is. -/
inductive GroupResponse where
  | group (detail : GroupDetail)
  | policy (policy : GroupUpstreamAccountPolicy)
  | preference (preference : GroupMembershipPreference)
  deriving Repr, DecidableEq

/-- A claimed group write with the response it stored. Its fingerprint is the list of
values whose digest the source stores. -/
structure GroupOperation where
  operationID : Text
  actorUserID : UserID
  action : Text
  fingerprint : List Text
  response : Option GroupResponse
  deriving Repr, DecidableEq

instance UpstreamAccess.lawfulGranted : LawfulBEq (AccountID × UserID) := inferInstance

instance UpstreamAccess.lawfulRestricted : LawfulBEq (UserID × UpstreamProvider) := inferInstance

instance UpstreamAccess.lawfulAllowed : LawfulBEq (UserID × UpstreamProvider × AccountID) :=
  inferInstance

/-! ## Billed requests -/

inductive BillingMode where
  | unset
  | legacy
  | openAIAPIEquivalent
  | geminiAPIEquivalent
  | anthropicAPIEquivalent
  | internalZero
  | unknown (name : Text)
  deriving Repr, DecidableEq

inductive SourceType where
  | subscription
  | cash
  | day
  | week
  | month
  | unknown (name : Text)
  deriving Repr, DecidableEq

/-- `BillingFundingSource`: an admission-time position. Absent ids are the empty
strings of the source. -/
structure FundingSource where
  sourceType : SourceType
  subscriptionID : Option SubscriptionID
  periodID : Option PeriodID
  cashLotCutoff : Int
  priority : Int
  periodDays : Int
  remainingUSD : Text
  deriving Repr, DecidableEq

/-- A group with its period and the accounts it may pay for. -/
structure GroupLayer where
  position : Nat
  groupID : GroupID
  groupPeriodID : PeriodID
  accountIDs : List Text
  deriving Repr, DecidableEq

/-- `fundingLayer`: a group layer, or the personal layer, which pays for all accounts. -/
inductive FundingLayer where
  | group (layer : GroupLayer)
  | personal (position : Nat)
  deriving Repr, DecidableEq

/-- The `group_id`, `group_period_id`, `all_accounts` and `account_ids` of a layer row. -/
inductive LayerPool where
  | group (groupID : GroupID) (groupPeriodID : PeriodID) (accountIDs : List AccountID)
  | personal
  deriving Repr, DecidableEq

structure LayerRow where
  requestID : Text
  position : Nat
  userID : UserID
  pool : LayerPool
  deriving Repr, DecidableEq

abbrev LayerRow.key (row : LayerRow) : Text × Nat := (row.requestID, row.position)

structure UsageMetrics where
  inputTokens : Int
  cachedInputTokens : Int
  cacheWriteTokens : Int
  cacheWriteTokensPresent : Bool
  cacheWrite5mTokens : Int
  cacheWrite1hTokens : Int
  cacheWriteTTLPresent : Bool
  outputTokens : Int
  reasoningTokens : Int
  deriving Repr, DecidableEq

/-- The `CHECK` constraints on the token columns of a usage row. -/
structure UsageMetrics.Valid (m : UsageMetrics) : Prop where
  cached_nonneg : 0 ≤ m.cachedInputTokens
  cacheWrite_nonneg : 0 ≤ m.cacheWriteTokens
  output_nonneg : 0 ≤ m.outputTokens
  reasoning_nonneg : 0 ≤ m.reasoningTokens
  within_input : m.cachedInputTokens + m.cacheWriteTokens ≤ m.inputTokens
  ttl_nonneg : 0 ≤ m.cacheWrite5mTokens ∧ 0 ≤ m.cacheWrite1hTokens
  ttl_total : m.cacheWriteTTLPresent = true → m.cacheWriteTokensPresent = true ∧
    m.cacheWrite5mTokens + m.cacheWrite1hTokens = m.cacheWriteTokens
  ttl_absent : m.cacheWriteTTLPresent = false →
    m.cacheWrite5mTokens = 0 ∧ m.cacheWrite1hTokens = 0

instance : DecidablePred UsageMetrics.Valid := fun m =>
  decidable_of_iff
    (0 ≤ m.cachedInputTokens ∧ 0 ≤ m.cacheWriteTokens ∧ 0 ≤ m.outputTokens ∧
      0 ≤ m.reasoningTokens ∧ m.cachedInputTokens + m.cacheWriteTokens ≤ m.inputTokens ∧
      (0 ≤ m.cacheWrite5mTokens ∧ 0 ≤ m.cacheWrite1hTokens) ∧
      (m.cacheWriteTTLPresent = true → m.cacheWriteTokensPresent = true ∧
        m.cacheWrite5mTokens + m.cacheWrite1hTokens = m.cacheWriteTokens) ∧
      (m.cacheWriteTTLPresent = false → m.cacheWrite5mTokens = 0 ∧ m.cacheWrite1hTokens = 0))
    ⟨fun ⟨a, b, c, d, e, f, g, h⟩ => ⟨a, b, c, d, e, f, g, h⟩,
      fun ⟨a, b, c, d, e, f, g, h⟩ => ⟨a, b, c, d, e, f, g, h⟩⟩

inductive UsageState where
  | inProgress
  | completed
  | degraded
  | failed
  | cancelled
  deriving Repr, DecidableEq

inductive Endpoint where
  | responses
  | responsesCompact
  | models
  | geminiGenerateContent
  | geminiStreamGenerateContent
  | messages
  | messagesCountTokens
  deriving Repr, DecidableEq

/-- Every endpoint but the two listings reserves money. -/
def Endpoint.billed : Endpoint → Bool
  | .models => false
  | .messagesCountTokens => false
  | _ => true

structure UsageRequest where
  requestID : Text
  userID : UserID
  deviceID : DeviceID
  apiKeyID : KeyID
  model : Text
  endpoint : Endpoint
  requestedAt : Time
  firstTokenAt : Option Time
  completedAt : Option Time
  state : UsageState
  httpStatus : Option Int
  errorCode : Option Text
  metrics : { m : UsageMetrics // m.Valid }
  requestBytes : Int
  responseBytes : Int
  upstreamRequestID : Option Text
  upstreamAccountID : Option AccountID
  actualServiceTier : Option Text
  conversationHash : Option Text
  pricingServiceTier : Option Text
  contextClass : Option Config.ContextClass
  pricingFallbackReason : Option Text
  deriving DecidableEq

/-- The settlement columns that only version 2 pricing fills. -/
structure AppliedPricing where
  decision : Config.PricingDecision
  cacheWriteTokens : Int
  actualServiceTier : Option Text
  actualModel : Text
  deriving Repr, DecidableEq

structure UsageCharge where
  inputTokens : Int
  cachedInputTokens : Int
  outputTokens : Int
  actualCostUSD : Int
  chargedUSD : Int
  uncoveredUSD : Int
  groupChargedUSD : Int
  personalChargedUSD : Int
  applied : Option AppliedPricing
  deriving Repr, DecidableEq

inductive BillingState where
  | reserved
  | settled (charge : UsageCharge) (settledAt : Time)
  | released (settledAt : Time)
  deriving Repr, DecidableEq

structure BillingReservation where
  requestID : Text
  userID : UserID
  apiKeyID : KeyID
  model : Text
  inputUSDPerMillion : Option Int
  cachedInputUSDPerMillion : Option Int
  outputUSDPerMillion : Option Int
  pricingRuleVersion : Int
  billingMode : BillingMode
  pricingSnapshot : Config.RawSnapshot
  pricingMultiplier : Int
  fundingRuleVersion : Int
  groupID : Option GroupID
  groupPeriodID : Option PeriodID
  dayPeriodID : Option PeriodID
  weekPeriodID : Option PeriodID
  monthPeriodID : Option PeriodID
  cashLotCutoff : Option Int
  orderedFundingSources : List FundingSource
  createdAt : Time
  state : BillingState
  deriving DecidableEq

inductive AllocationSource where
  | group (periodID : PeriodID)
  | subscription (sourceType : SourceType) (periodID : PeriodID)
  | cash (lotID : Nat)
  deriving Repr, DecidableEq

structure Allocation where
  requestID : Text
  order : Nat
  source : AllocationSource
  amountUSD : Int
  deriving Repr, DecidableEq

abbrev Allocation.key (row : Allocation) : Text × Nat := (row.requestID, row.order)

inductive LedgerKind where
  | recharge
  | adjustment
  | subscriptionRenewal (periodID : PeriodID)
  | planPurchase
  | planRenewal
  | usageCharge (requestID : Text) (charge : UsageCharge)
  deriving Repr, DecidableEq

structure LedgerEntry where
  id : Nat
  userID : UserID
  operationID : Option OperationID
  kind : LedgerKind
  amountUSD : Int
  cashDeltaUSD : Int
  balanceAfterUSD : Option Int
  deriving Repr, DecidableEq

/-- A claimed billing operation. Its fingerprint is the list of values whose
digest the source stores. -/
structure BillingOperation where
  operationID : OperationID
  operationType : Text
  actorUserID : UserID
  targetUserID : Option UserID
  fingerprint : List Text
  resultLedgerEntryID : Option Nat
  deriving Repr, DecidableEq

/-! ## Quota -/

inductive QuotaScope where
  | key (id : KeyID)
  | user (id : UserID)
  deriving Repr, DecidableEq

structure QuotaCounter where
  day : Int
  scope : QuotaScope
  requestsReserved : Int
  requestsCompleted : Int
  tokensReserved : Int
  tokensUsed : Int
  deriving Repr, DecidableEq

abbrev QuotaCounter.key (row : QuotaCounter) : Int × QuotaScope := (row.day, row.scope)

inductive QuotaState where
  | reserved
  | settled (actualTokens : Int) (settledAt : Time)
  | released (settledAt : Time)
  deriving Repr, DecidableEq

structure QuotaReservation where
  requestID : Text
  day : Int
  userID : UserID
  apiKeyID : KeyID
  reservedTokens : Int
  createdAt : Time
  state : QuotaState
  deriving Repr, DecidableEq

structure RateWindow where
  windowStart : Time
  scope : QuotaScope
  requestCount : Int
  deriving Repr, DecidableEq

abbrev RateWindow.key (row : RateWindow) : Time × QuotaScope := (row.windowStart, row.scope)

structure ConcurrencyLease where
  requestID : Text
  userID : UserID
  apiKeyID : KeyID
  expiresAt : Time
  deriving Repr, DecidableEq

/-! ## Users and models -/

inductive UserStatus where
  | pending
  | active
  | disabled
  deriving Repr, DecidableEq

structure User where
  id : UserID
  username : Text
  status : UserStatus
  deriving Repr, DecidableEq

/-- A row of `api_key_history`. -/
structure APIKey where
  id : KeyID
  userID : UserID
  deviceID : DeviceID
  deriving Repr, DecidableEq

/-- A row of `user_model_access`. -/
structure ModelAccess where
  userID : UserID
  model : Text
  enabled : Bool
  deriving Repr, DecidableEq

abbrev ModelAccess.key (row : ModelAccess) : UserID × Text := (row.userID, row.model)

/-- The bytes of `override_price`: none, a text that the decoder rejects, or a rule. -/
inductive StoredPrice where
  | empty
  | malformed
  | rule (value : Config.ModelPricing)
  deriving DecidableEq

structure ModelPrice where
  model : Text
  price : StoredPrice
  structureID : Text
  deriving DecidableEq

/-- A row of `billing_model_multipliers` with its `CHECK`. -/
structure ModelMultiplier where
  model : Text
  multiplier : Int
  positive : 0 < multiplier
  bounded : multiplier < 10 ^ 30
  deriving Repr, DecidableEq

structure Db where
  users : Table User.id
  apiKeys : Table APIKey.id
  accounts : Table BillingAccount.userID
  cashLots : Serial CashLot.id
  settings : BillingSettings
  plans : Table BillingPlan.id
  subscriptions : Table Subscription.id
  entitlements : Table Entitlement.id
  subscriptionPeriods : Table SubscriptionPeriod.id
  groups : Table Group.id
  groupPeriods : Table GroupPeriod.id
  memberUsage : Table GroupMemberUsage.key
  memberships : Table GroupMembership.key
  groupOperations : Table GroupOperation.operationID
  upstreamAccounts : Table UpstreamAccount.id
  upstreamAccess : UpstreamAccess
  activeModels : List Text
  modelAccess : Table ModelAccess.key
  modelPrices : Table ModelPrice.model
  modelMultipliers : Table ModelMultiplier.model
  reservations : Table BillingReservation.requestID
  layers : Table LayerRow.key
  allocations : Table Allocation.key
  ledger : Serial LedgerEntry.id
  operations : Table BillingOperation.operationID
  cleanedOperations : List OperationID
  usage : Table UsageRequest.requestID
  quotaReservations : Table QuotaReservation.requestID
  quotaCounters : Table QuotaCounter.key
  rateWindows : Table RateWindow.key
  leases : Table ConcurrencyLease.requestID

/-- The tables of a new store, which has its settings and no rows. -/
def Db.empty (settings : BillingSettings) : Db where
  users := .empty
  apiKeys := .empty
  accounts := .empty
  cashLots := .empty
  settings := settings
  plans := .empty
  subscriptions := .empty
  entitlements := .empty
  subscriptionPeriods := .empty
  groups := .empty
  groupPeriods := .empty
  memberUsage := .empty
  memberships := .empty
  groupOperations := .empty
  upstreamAccounts := .empty
  upstreamAccess := ⟨[], [], [], [], []⟩
  activeModels := []
  modelAccess := .empty
  modelPrices := .empty
  modelMultipliers := .empty
  reservations := .empty
  layers := .empty
  allocations := .empty
  ledger := .empty
  operations := .empty
  cleanedOperations := []
  usage := .empty
  quotaReservations := .empty
  quotaCounters := .empty
  rateWindows := .empty
  leases := .empty

end Store
