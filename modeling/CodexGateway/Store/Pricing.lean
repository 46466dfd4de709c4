import CodexGateway.Store.Funds

/-! # Pricing a request

Admission binds a pricing snapshot to a request: `reserveBillingTx` validates
what the caller passes, a stored override may replace its prices, and the
model's multiplier is read. Settlement prices terminal usage from what was
bound. The last section shows that a bound request can always be priced.
-/

namespace Store

open Billing Config
open Except (bind_eq_ok refuse_eq_ok throw_eq_error ok_bind error_bind)

variable {reservation : BillingReservation} {pricing : UsagePricing} {model : Text}
  {rule effective : ModelPricing} {stored : ModelPrice}

structure BillingReservationParams where
  requestID : Text
  userID : UserID
  apiKeyID : KeyID
  model : Text
  inputUSDPerMillion : Text
  cachedInputUSDPerMillion : Text
  outputUSDPerMillion : Text
  pricingRuleVersion : Int
  billingMode : BillingMode
  pricingCatalogAsOf : Text
  pricingModel : Text
  pricingSnapshot : RawSnapshot
  cacheWriteMode : Text
  requestedServiceTier : Text
  upstreamProvider : UpstreamProvider
  now : Time
  deriving DecidableEq

/-! ## Admission -/

def isLeapYear (year : Nat) : Bool :=
  year % 4 = 0 ∧ (year % 100 ≠ 0 ∨ year % 400 = 0)

def daysInMonth (year month : Nat) : Nat :=
  if month = 2 then if isLeapYear year then 29 else 28
  else if month ∈ [4, 6, 9, 11] then 30
  else 31

/-- Whether `time.Parse("2006-01-02", value)` succeeds. -/
def isCalendarDate : Text → Bool
  | [y₁, y₂, y₃, y₄, '-', m₁, m₂, '-', d₁, d₂] =>
    let number (digits : Text) := Nat.ofDigitChars 10 digits 0
    let year := number [y₁, y₂, y₃, y₄]
    let month := number [m₁, m₂]
    let day := number [d₁, d₂]
    [y₁, y₂, y₃, y₄, m₁, m₂, d₁, d₂].all Char.isDigit && 1 ≤ month && month ≤ 12 &&
      1 ≤ day && day ≤ daysInMonth year month
  | _ => false

def pricingRuleIsZero (rule : ModelPricing) : Bool :=
  let zero (value : Text) : Bool :=
    match parsePrice value with
    | .ok canonical => canonical = ['0']
    | .error _ => false
  let zeroPrice (price : TokenPricing) : Bool :=
    zero price.inputUSDPerMillion && zero price.cachedInputUSDPerMillion &&
      zero price.outputUSDPerMillion && price.cacheWriteUSDPerMillion.all zero &&
      price.cacheWrite5mUSDPerMillion.all zero && price.cacheWrite1hUSDPerMillion.all zero
  rule.serviceTiers.rows.all fun entry => entry.2.short.all zeroPrice && entry.2.long.all zeroPrice

/-- The price snapshot of a version 1 request: three canonical prices. -/
def normalizeV1Pricing (params : BillingReservationParams) :
    Except StoreError BillingReservationParams := do
  let params :=
    if params.billingMode = .unset then { params with billingMode := .legacy } else params
  if params.billingMode ≠ .legacy ∨ params.pricingCatalogAsOf ≠ [] ∨ params.pricingModel ≠ [] ∨
      params.pricingSnapshot ≠ .empty ∨ params.cacheWriteMode ≠ [] then
    throw (.invalid "invalid v1 pricing snapshot")
  match parsePrice params.inputUSDPerMillion, parsePrice params.cachedInputUSDPerMillion,
      parsePrice params.outputUSDPerMillion with
  | .ok input, .ok cachedInput, .ok output =>
    return { params with
      inputUSDPerMillion := input
      cachedInputUSDPerMillion := cachedInput
      outputUSDPerMillion := output }
  | _, _, _ => throw (.invalid "invalid price snapshot")

/-- The price snapshot of a version 2 request: a document for this very model. -/
def normalizeV2Pricing (params : BillingReservationParams) :
    Except StoreError BillingReservationParams := do
  if params.billingMode ≠ .openAIAPIEquivalent ∧ params.billingMode ≠ .geminiAPIEquivalent ∧
      params.billingMode ≠ .anthropicAPIEquivalent ∧ params.billingMode ≠ .internalZero then
    throw (.invalid "invalid v2 billing mode")
  if params.inputUSDPerMillion ≠ [] ∨ params.cachedInputUSDPerMillion ≠ [] ∨
      params.outputUSDPerMillion ≠ [] ∨ params.pricingCatalogAsOf = [] ∨ params.pricingModel = [] ∨
      params.pricingSnapshot = .empty then
    throw (.invalid "invalid v2 pricing snapshot")
  if isCalendarDate params.pricingCatalogAsOf = false then
    throw (.invalid "invalid pricing catalog date")
  match parsePricingSnapshot params.pricingSnapshot with
  | .error _ => throw (.invalid "inconsistent v2 pricing snapshot")
  | .ok snapshot =>
    if snapshot.model ≠ params.pricingModel ∨ params.pricingModel ≠ params.model ∨
        snapshot.rule.cacheWriteMode ≠ params.cacheWriteMode then
      throw (.invalid "inconsistent v2 pricing snapshot")
    if params.billingMode = .internalZero ∧ pricingRuleIsZero snapshot.rule = false then
      throw (.invalid "internal zero pricing must contain only zero prices")
    return params

def normalizePricing (params : BillingReservationParams) :
    Except StoreError BillingReservationParams :=
  if params.pricingRuleVersion = pricingSchemaV1 then normalizeV1Pricing params
  else if params.pricingRuleVersion = pricingSchemaV2 then normalizeV2Pricing params
  else .error (.invalid "unsupported pricing rule version")

/-- The part of `reserveBillingTx` before it reads the account. -/
def normalizeReservation (params : BillingReservationParams) :
    Except StoreError BillingReservationParams := do
  let params := { params with
    model := Text.trimSpace params.model
    pricingModel := Text.trimSpace params.pricingModel
    requestedServiceTier := Text.trimSpace params.requestedServiceTier
    pricingRuleVersion :=
      if params.pricingRuleVersion = 0 then pricingSchemaV1 else params.pricingRuleVersion }
  if params.requestID = [] ∨ params.model = [] then
    throw (.invalid "invalid billing reservation")
  let params ← normalizePricing params
  if Text.byteLength params.requestedServiceTier > 32 then
    throw (.invalid "invalid requested service tier")
  return params

/-- A field with `omitempty`. -/
def spelled (omitted : Prop) [Decidable omitted] (field : Text) : List Text :=
  if omitted then [] else [field]

theorem mem_spelled {omitted : Prop} [Decidable omitted] {field name : Text} :
    name ∈ spelled omitted field ↔ ¬ omitted ∧ name = field := by
  unfold spelled
  split <;> simp [*]

/-- The field names that encoding a rule spells out. -/
def encodedRuleFields (rule : ModelPricing) : List Text :=
  spelled (rule.inputUSDPerMillion = []) "input_usd_per_million".toList ++
    spelled (rule.cachedInputUSDPerMillion = []) "cached_input_usd_per_million".toList ++
    spelled (rule.outputUSDPerMillion = []) "output_usd_per_million".toList ++
    spelled (rule.cacheWriteMode = []) "cache_write_mode".toList ++
    spelled (rule.maxInputTokens = 0) "max_input_tokens".toList ++
    spelled (rule.longContextThresholdTokens = 0) "long_context_threshold_tokens".toList ++
    spelled (rule.serviceTiers.rows = []) "service_tiers".toList

/-- The document of `UsagePricing.ModelSnapshot`. -/
def encodeSnapshot (snapshot : PricingSnapshot) : RawSnapshot :=
  .document ⟨snapshot, encodedRuleFields snapshot.rule⟩

/-- What a failed step of the pricing package becomes: an error without a sentinel. -/
def liftConfig {α : Type} (context : String) : Except String α → Except StoreError α
  | .ok value => .ok value
  | .error err => .error (.other (context ++ err))

variable {α : Type} {context : String} {units : Int} {mode : Text} {metrics : UsageMetrics}
  {decision : PricingDecision} {normalized params : BillingReservationParams} {db : Db}

@[simp] theorem liftConfig_ok (context : String) (value : α) :
    liftConfig context (.ok value) = .ok value := rfl

theorem liftConfig_eq_ok {result : Except String α} {value : α} :
    liftConfig context result = .ok value ↔ result = .ok value := by
  cases result <;> simp [liftConfig]

section Overrides

variable (structureDigest : ModelPriceStructure → Text)

/-- The effective rule of `modelPriceValue` for a model that is configured; none
when the stored override belongs to another structure. -/
def modelPriceValue (pricing : UsagePricing) (model : Text) (rule : ModelPricing)
    (stored : ModelPrice) : Except StoreError (Option ModelPricing) := do
  let structureID ← liftConfig "" (pricing.modelPriceStructureID structureDigest model)
  let configured ← liftConfig "validate configured model prices: "
    (normalizeModelPrice pricing.schemaVersion model rule)
  if model = internalGovernanceModel then
    if pricing.schemaVersion = pricingSchemaV1 then
      return some { configured with
        inputUSDPerMillion := ['0']
        cachedInputUSDPerMillion := ['0']
        outputUSDPerMillion := ['0'] }
    else return some (configured.mapPrices fun _ => ['0'])
  else if stored.price = .empty then return some configured
  else if stored.structureID ≠ structureID then return none
  else
    match stored.price with
    | .rule price =>
      let normalized ← liftConfig "validate stored model price: "
        (pricing.validateModelPriceOverride structureDigest model price)
      return some normalized
    | _ => throw (.other "decode stored model price")

def snapshotModelPrice (db : Db) (params : BillingReservationParams) :
    Except StoreError BillingReservationParams := do
  match db.modelPrices.find? params.model with
  | none => return params
  | some stored =>
    if stored.price = .empty then return params
    let conflict : StoreError :=
      .conflict "configured model price structure conflicts with stored override"
    if params.pricingRuleVersion = pricingSchemaV2 then
      let snapshot ← liftConfig "" (parsePricingSnapshot params.pricingSnapshot)
      let pricing : UsagePricing :=
        ⟨params.pricingRuleVersion, snapshot.fallbackPolicy,
          ⟨[(params.model, snapshot.rule)], List.nodup_singleton _⟩⟩
      match ← modelPriceValue structureDigest pricing params.model snapshot.rule stored with
      | none => throw conflict
      | some effective =>
        return { params with
          pricingSnapshot := encodeSnapshot
            ⟨pricingSchemaV2, snapshot.fallbackPolicy, params.model, effective⟩ }
    else
      let rule : ModelPricing :=
        ⟨params.inputUSDPerMillion, params.cachedInputUSDPerMillion, params.outputUSDPerMillion,
          [], 0, 0, Table.empty⟩
      let pricing : UsagePricing :=
        ⟨params.pricingRuleVersion, ⟨[], [], []⟩,
          ⟨[(params.model, rule)], List.nodup_singleton _⟩⟩
      match ← modelPriceValue structureDigest pricing params.model rule stored with
      | none => throw conflict
      | some effective =>
        return { params with
          inputUSDPerMillion := effective.inputUSDPerMillion
          cachedInputUSDPerMillion := effective.cachedInputUSDPerMillion
          outputUSDPerMillion := effective.outputUSDPerMillion }

end Overrides

def snapshotModelMultiplier (db : Db) (model : Text) : Text :=
  match db.modelMultipliers.find? model with
  | none => ['1']
  | some row => numericText row.multiplier

/-- The price column that a text fills; the empty text is `NULL`. -/
def priceColumn (value : Text) : Option Int :=
  if value = [] then none else some (numeric value)

/-! ## Settlement -/

/-- A price column as text; a missing price is the empty string. -/
def priceText (column : Option Int) : Text :=
  (column.map numericText).getD []

structure PricedUsage where
  cost : Text
  cacheWriteTokens : Int
  decision : Option PricingDecision
  deriving Repr, DecidableEq

/-- The pricing step of `settleBillingTx`. -/
def priceUsage (reservation : BillingReservation) (usage : UsageRequest) :
    Except StoreError PricedUsage := do
  let metrics := usage.metrics.val
  let multiplier := numericText reservation.pricingMultiplier
  if reservation.pricingRuleVersion = pricingSchemaV1 then
    let cost ← liftConfig "calculate request cost: "
      (calculateCostWithMultiplier metrics.inputTokens metrics.cachedInputTokens
        metrics.outputTokens (priceText reservation.inputUSDPerMillion)
        (priceText reservation.cachedInputUSDPerMillion)
        (priceText reservation.outputUSDPerMillion) multiplier)
    return ⟨cost, metrics.cacheWriteTokens, none⟩
  else
    let snapshot ← liftConfig "parse request pricing snapshot: "
      (parsePricingSnapshot reservation.pricingSnapshot)
    let selectionTier :=
      if reservation.billingMode = .internalZero then "default".toList
      else usage.actualServiceTier.getD []
    let decision ← liftConfig "calculate request cost: "
      (snapshot.select selectionTier metrics.inputTokens)
    let mode := snapshot.rule.cacheWriteMode
    -- Unreported cache writes are billed as if all uncached input were written.
    let missing := (mode = cacheWriteSeparate ∨ mode = cacheWriteSeparateByTTL) ∧
      metrics.cacheWriteTokensPresent = false
    let cacheWriteTokens :=
      if missing then metrics.inputTokens - metrics.cachedInputTokens else metrics.cacheWriteTokens
    let decision :=
      if missing then
        { decision with
          fallbackReason :=
            appendFallbackReason decision.fallbackReason fallbackMissingCacheWriteTokens }
      else decision
    if mode = cacheWriteSeparateByTTL then
      let decision :=
        if metrics.cacheWriteTTLPresent = false ∧ cacheWriteTokens > 0 then
          { decision with
            fallbackReason :=
              appendFallbackReason decision.fallbackReason fallbackMissingCacheWriteTTL }
        else decision
      let cost ← liftConfig "calculate request cost: "
        (calculateCostV2TTLWithMultiplier metrics.inputTokens metrics.cachedInputTokens
          cacheWriteTokens metrics.cacheWrite5mTokens metrics.cacheWrite1hTokens
          metrics.outputTokens metrics.cacheWriteTTLPresent decision.inputUSDPerMillion
          decision.cachedInputUSDPerMillion decision.cacheWrite5mUSDPerMillion
          decision.cacheWrite1hUSDPerMillion decision.outputUSDPerMillion multiplier)
      return ⟨cost, cacheWriteTokens, some decision⟩
    else
      let cost ← liftConfig "calculate request cost: "
        (calculateCostV2WithMultiplier metrics.inputTokens metrics.cachedInputTokens
          cacheWriteTokens metrics.outputTokens mode decision.inputUSDPerMillion
          decision.cachedInputUSDPerMillion decision.cacheWriteUSDPerMillion
          decision.outputUSDPerMillion multiplier)
      return ⟨cost, cacheWriteTokens, some decision⟩

/-! ## The exact cost

What a request costs before the one rounding, as a sum of token counts times
prices.
-/

/-- The tokens that are billed as cache writes: without a report, all input that
was not read from the cache. -/
def billedCacheWrites (mode : Text) (metrics : UsageMetrics) : Int :=
  if (mode = cacheWriteSeparate ∨ mode = cacheWriteSeparateByTTL) ∧
      metrics.cacheWriteTokensPresent = false then
    metrics.inputTokens - metrics.cachedInputTokens
  else metrics.cacheWriteTokens

/-- The price of the input that was not read from the cache. -/
def uncachedInputCost (mode : Text) (metrics : UsageMetrics) (decision : PricingDecision) : ℚ :=
  let uncached := metrics.inputTokens - metrics.cachedInputTokens
  let writes := billedCacheWrites mode metrics
  let input := ratOf decision.inputUSDPerMillion
  if mode = cacheWriteSeparateByTTL then
    (uncached - writes : Int) * input +
      if metrics.cacheWriteTTLPresent then
        metrics.cacheWrite5mTokens * ratOf decision.cacheWrite5mUSDPerMillion +
          metrics.cacheWrite1hTokens * ratOf decision.cacheWrite1hUSDPerMillion
      else
        writes * max (ratOf decision.cacheWrite5mUSDPerMillion)
          (ratOf decision.cacheWrite1hUSDPerMillion)
  else if mode = cacheWriteSeparate then
    (uncached - writes : Int) * input + writes * ratOf decision.cacheWriteUSDPerMillion
  else (uncached : Int) * input

def exactCost (reservation : BillingReservation) (usage : UsageRequest) : ℚ :=
  let metrics := usage.metrics.val
  let perMillion : ℚ :=
    if reservation.pricingRuleVersion = pricingSchemaV1 then
      (metrics.inputTokens - metrics.cachedInputTokens : Int) *
          ratOf (priceText reservation.inputUSDPerMillion) +
        metrics.cachedInputTokens * ratOf (priceText reservation.cachedInputUSDPerMillion) +
        metrics.outputTokens * ratOf (priceText reservation.outputUSDPerMillion)
    else
      match parsePricingSnapshot reservation.pricingSnapshot with
      | .error _ => 0
      | .ok snapshot =>
        let tier :=
          if reservation.billingMode = .internalZero then "default".toList
          else usage.actualServiceTier.getD []
        match snapshot.select tier metrics.inputTokens with
        | .error _ => 0
        | .ok decision =>
          uncachedInputCost snapshot.rule.cacheWriteMode metrics decision +
            metrics.cachedInputTokens * ratOf decision.cachedInputUSDPerMillion +
            metrics.outputTokens * ratOf decision.outputUSDPerMillion
  perMillion / 1000000 * ratOf (numericText reservation.pricingMultiplier)

/-- The exact cost in stored units, rounded once. -/
def roundedCost (reservation : BillingReservation) (usage : UsageRequest) : Int :=
  Decimal.roundHalfAway (exactCost reservation usage * 10 ^ amountScale)

/-! ## Bound requests can be priced -/

/-- What admission leaves in a reservation: a positive multiplier, and three
prices or a document that parses. -/
structure PricingBound (reservation : BillingReservation) : Prop where
  multiplier : 0 < reservation.pricingMultiplier ∧ NumericRange reservation.pricingMultiplier
  prices : reservation.pricingRuleVersion = pricingSchemaV1 →
    IsPrice (priceText reservation.inputUSDPerMillion) ∧
      IsPrice (priceText reservation.cachedInputUSDPerMillion) ∧
      IsPrice (priceText reservation.outputUSDPerMillion)
  document : reservation.pricingRuleVersion ≠ pricingSchemaV1 →
    ∃ snapshot, parsePricingSnapshot reservation.pricingSnapshot = .ok snapshot

theorem isMultiplier_numericText (positive : 0 < units)
    (range : NumericRange units) : IsMultiplier (numericText units) :=
  parseBounded_fixedText_unsigned positive.le range fun zero => absurd zero positive.ne'

theorem isPrice_numericText (nonneg : 0 ≤ units) (range : NumericRange units) :
    IsPrice (numericText units) :=
  parseBounded_fixedText_unsigned nonneg range fun _ => rfl

theorem ratOf_numericText (units : Int) :
    ratOf (numericText units) = (units : ℚ) / 10 ^ amountScale := by
  rw [ratOf, numericText, Decimal.value?_fixedText, Option.getD_some]

private theorem liftConfig_roundAmount (value : ℚ) (nonneg : 0 ≤ value)
    (f : Text → PricedUsage) (cost : ∀ text, (f text).cost = text) :
    (liftConfig context (roundAmount value) >>= fun text => .ok (f text)).map PricedUsage.cost =
      if Decimal.roundHalfAway (value * 10 ^ amountScale) <
          10 ^ (amountScale + maxIntegerDigits) then
        .ok (numericText (Decimal.roundHalfAway (value * 10 ^ amountScale)))
      else
        .error (.other (context ++ ("amount exceeds NUMERIC(30,12): " ++ errInvalidDecimal))) := by
  have units : 0 ≤ Decimal.roundHalfAway (value * 10 ^ amountScale) :=
    Decimal.roundHalfAway_nonneg (mul_nonneg nonneg (by positivity))
  rw [roundAmount_eq]
  by_cases range : Decimal.roundHalfAway (value * 10 ^ amountScale) <
      10 ^ (amountScale + maxIntegerDigits)
  · have inside : (Decimal.roundHalfAway (value * 10 ^ amountScale)).natAbs <
        10 ^ (amountScale + maxIntegerDigits) := (numericRange_iff units).mpr range
    rw [if_pos inside, if_pos range]
    simp only [liftConfig, ok_bind, Except.map, cost, numericText]
  · have outside : ¬ (Decimal.roundHalfAway (value * 10 ^ amountScale)).natAbs <
        10 ^ (amountScale + maxIntegerDigits) :=
      fun inside => range ((numericRange_iff units).mp inside)
    rw [if_neg outside, if_neg range]
    rfl

private theorem uncachedInputCost_nonneg (counts : metrics.Valid)
    (valid : ValidDecision mode decision) : 0 ≤ uncachedInputCost mode metrics decision := by
  have uncached := counts.within_input
  have cacheWrites := counts.cacheWrite_nonneg
  have writes : 0 ≤ billedCacheWrites mode metrics ∧
      0 ≤ metrics.inputTokens - metrics.cachedInputTokens - billedCacheWrites mode metrics := by
    unfold billedCacheWrites
    split <;> omega
  have input := valid.input.nonneg
  have ordinary : (0 : ℚ) ≤ ((metrics.inputTokens - metrics.cachedInputTokens -
      billedCacheWrites mode metrics : Int) : ℚ) := Int.cast_nonneg writes.2
  have written : (0 : ℚ) ≤ (billedCacheWrites mode metrics : ℚ) := Int.cast_nonneg writes.1
  unfold uncachedInputCost
  dsimp only
  split
  · rename_i byTTL
    obtain ⟨fiveMinutes, oneHour⟩ := valid.cacheWriteTTL byTTL
    apply add_nonneg (mul_nonneg ordinary input)
    split
    · exact add_nonneg
        (mul_nonneg (Int.cast_nonneg counts.ttl_nonneg.1) fiveMinutes.nonneg)
        (mul_nonneg (Int.cast_nonneg counts.ttl_nonneg.2) oneHour.nonneg)
    · exact mul_nonneg written (le_max_of_le_left fiveMinutes.nonneg)
  · split
    · exact add_nonneg (mul_nonneg ordinary input) (mul_nonneg written valid.cacheWrite.nonneg)
    · exact mul_nonneg (Int.cast_nonneg (by omega)) input

private theorem v2_cost_eq (counts : metrics.Valid) (valid : ValidDecision mode decision)
    (known : mode = cacheWriteSeparate ∨ mode = cacheWriteSeparateByTTL ∨
      mode = cacheWriteIncludedInInput) {multiplier : Text} (factor : IsMultiplier multiplier) :
    (if mode = cacheWriteSeparateByTTL then
      calculateCostV2TTLWithMultiplier metrics.inputTokens metrics.cachedInputTokens
        (billedCacheWrites mode metrics) metrics.cacheWrite5mTokens metrics.cacheWrite1hTokens
        metrics.outputTokens metrics.cacheWriteTTLPresent decision.inputUSDPerMillion
        decision.cachedInputUSDPerMillion decision.cacheWrite5mUSDPerMillion
        decision.cacheWrite1hUSDPerMillion decision.outputUSDPerMillion multiplier
    else
      calculateCostV2WithMultiplier metrics.inputTokens metrics.cachedInputTokens
        (billedCacheWrites mode metrics) metrics.outputTokens mode decision.inputUSDPerMillion
        decision.cachedInputUSDPerMillion decision.cacheWriteUSDPerMillion
        decision.outputUSDPerMillion multiplier) =
      roundAmount ((uncachedInputCost mode metrics decision +
        metrics.cachedInputTokens * ratOf decision.cachedInputUSDPerMillion +
        metrics.outputTokens * ratOf decision.outputUSDPerMillion) / 1000000 *
          ratOf multiplier) := by
  have within := counts.within_input
  have cachedCount := counts.cached_nonneg
  have cacheWrites := counts.cacheWrite_nonneg
  have outputCount := counts.output_nonneg
  have writes : 0 ≤ billedCacheWrites mode metrics ∧
      billedCacheWrites mode metrics ≤ metrics.inputTokens - metrics.cachedInputTokens := by
    unfold billedCacheWrites
    split <;> omega
  split
  · rename_i byTTL
    obtain ⟨fiveMinutes, oneHour⟩ := valid.cacheWriteTTL byTTL
    have lifetimes : if metrics.cacheWriteTTLPresent then
        0 ≤ metrics.cacheWrite5mTokens ∧
          metrics.cacheWrite5mTokens ≤ billedCacheWrites mode metrics ∧
          metrics.cacheWrite1hTokens = billedCacheWrites mode metrics - metrics.cacheWrite5mTokens
        else metrics.cacheWrite5mTokens = 0 ∧ metrics.cacheWrite1hTokens = 0 := by
      split
      · rename_i present
        obtain ⟨reported, total⟩ := counts.ttl_total present
        have nonneg := counts.ttl_nonneg
        have same : billedCacheWrites mode metrics = metrics.cacheWriteTokens := by
          rw [billedCacheWrites, if_neg (by simp [reported])]
        omega
      · rename_i absent
        exact counts.ttl_absent (by simpa using absent)
    rw [calculateCostV2TTLWithMultiplier_eq ⟨cachedCount, by omega, writes.1, writes.2, outputCount⟩
      lifetimes valid.input valid.cachedInput fiveMinutes oneHour valid.output factor,
      uncachedInputCost, if_pos byTTL]
    congr 3
    ring
  · rename_i notTTL
    have mode' : mode = cacheWriteSeparate ∨ mode = cacheWriteIncludedInInput := by
      rcases known with separate | byTTL | included
      · exact Or.inl separate
      · exact absurd byTTL notTTL
      · exact Or.inr included
    rw [calculateCostV2WithMultiplier_eq ⟨cachedCount, by omega, writes.1, outputCount⟩ mode'
      (fun _ => writes.2) valid.input valid.cachedInput valid.cacheWrite valid.output factor,
      uncachedInputCost, if_neg notTTL]
    congr 3
    split <;> ring

/-- A bound request is priced at its exact cost, rounded once. The only failure
left is a cost that rounds to 10¹⁸ USD or more. -/
theorem PricingBound.priceUsage_cost (bound : PricingBound reservation) (usage : UsageRequest) :
    (priceUsage reservation usage).map PricedUsage.cost =
      if roundedCost reservation usage < 10 ^ (amountScale + maxIntegerDigits) then
        .ok (numericText (roundedCost reservation usage))
      else
        .error (.other ("calculate request cost: " ++
          ("amount exceeds NUMERIC(30,12): " ++ errInvalidDecimal))) := by
  have factor := isMultiplier_numericText bound.multiplier.1 bound.multiplier.2
  have multiplierNonneg : 0 ≤ ratOf (numericText reservation.pricingMultiplier) := by
    rw [ratOf_numericText]
    exact div_nonneg (Int.cast_nonneg bound.multiplier.1.le) (by positivity)
  have within := usage.metrics.property.within_input
  have cacheWrites := usage.metrics.property.cacheWrite_nonneg
  have cachedCount := usage.metrics.property.cached_nonneg
  have outputCount := usage.metrics.property.output_nonneg
  by_cases version : reservation.pricingRuleVersion = pricingSchemaV1
  · obtain ⟨input, cached, output⟩ := bound.prices version
    have exact : exactCost reservation usage =
        ((usage.metrics.val.inputTokens - usage.metrics.val.cachedInputTokens : Int) *
          ratOf (priceText reservation.inputUSDPerMillion) +
        usage.metrics.val.cachedInputTokens *
          ratOf (priceText reservation.cachedInputUSDPerMillion) +
        usage.metrics.val.outputTokens * ratOf (priceText reservation.outputUSDPerMillion)) /
          1000000 * ratOf (numericText reservation.pricingMultiplier) := by
      simp only [exactCost, if_pos version]
    have nonneg : 0 ≤ exactCost reservation usage := by
      rw [exact]
      refine mul_nonneg (div_nonneg (add_nonneg (add_nonneg ?_ ?_) ?_) (by norm_num))
        multiplierNonneg
      · exact mul_nonneg (Int.cast_nonneg (by omega)) input.nonneg
      · exact mul_nonneg (Int.cast_nonneg cachedCount) cached.nonneg
      · exact mul_nonneg (Int.cast_nonneg outputCount) output.nonneg
    rw [priceUsage, if_pos version, calculateCostWithMultiplier_eq
      ⟨cachedCount, by omega, outputCount⟩ input cached output factor, ← exact]
    exact liftConfig_roundAmount _ nonneg _ fun _ => rfl
  · obtain ⟨snapshot, parsed⟩ := bound.document version
    obtain ⟨-, -, -, -, -, -, -, rule⟩ := parsePricingSnapshot_ok.mp parsed
    have inputCount : 0 ≤ usage.metrics.val.inputTokens := by omega
    obtain ⟨decision, selected, valid⟩ := snapshot.select_valid rule
      (if reservation.billingMode = .internalZero then "default".toList
        else usage.actualServiceTier.getD []) inputCount
    have exact : exactCost reservation usage =
        (uncachedInputCost snapshot.rule.cacheWriteMode usage.metrics.val decision +
          usage.metrics.val.cachedInputTokens * ratOf decision.cachedInputUSDPerMillion +
          usage.metrics.val.outputTokens * ratOf decision.outputUSDPerMillion) / 1000000 *
          ratOf (numericText reservation.pricingMultiplier) := by
      simp only [exactCost, if_neg version, parsed, selected]
    have nonneg : 0 ≤ exactCost reservation usage := by
      rw [exact]
      refine mul_nonneg (div_nonneg (add_nonneg (add_nonneg ?_ ?_) ?_) (by norm_num))
        multiplierNonneg
      · exact uncachedInputCost_nonneg usage.metrics.property valid
      · exact mul_nonneg (Int.cast_nonneg cachedCount) valid.cachedInput.nonneg
      · exact mul_nonneg (Int.cast_nonneg outputCount) valid.output.nonneg
    have cost := v2_cost_eq usage.metrics.property valid rule.mode factor
    rw [← exact] at cost
    simp only [billedCacheWrites] at cost
    simp only [priceUsage, if_neg version, parsed, liftConfig_ok, ok_bind, selected,
      apply_ite PricingDecision.inputUSDPerMillion,
      apply_ite PricingDecision.cachedInputUSDPerMillion,
      apply_ite PricingDecision.cacheWriteUSDPerMillion,
      apply_ite PricingDecision.cacheWrite5mUSDPerMillion,
      apply_ite PricingDecision.cacheWrite1hUSDPerMillion,
      apply_ite PricingDecision.outputUSDPerMillion, ite_self]
    split
    · rename_i byTTL
      rw [if_pos byTTL] at cost
      rw [cost]
      exact liftConfig_roundAmount _ nonneg _ fun _ => rfl
    · rename_i notTTL
      rw [if_neg notTTL] at cost
      rw [cost]
      exact liftConfig_roundAmount _ nonneg _ fun _ => rfl


/-! ## Admission binds a pricing -/

/-- Parameters that carry what their version is priced from. -/
def PricedParams (params : BillingReservationParams) : Prop :=
  params.pricingRuleVersion = pricingSchemaV1 ∧ IsPrice params.inputUSDPerMillion ∧
      IsPrice params.cachedInputUSDPerMillion ∧ IsPrice params.outputUSDPerMillion ∨
    params.pricingRuleVersion = pricingSchemaV2 ∧
      ∃ snapshot, parsePricingSnapshot params.pricingSnapshot = .ok snapshot ∧
        snapshot.model = params.model

private theorem normalizeV1Pricing_priced (version : params.pricingRuleVersion = pricingSchemaV1)
    (accepted : normalizeV1Pricing params = .ok normalized) : PricedParams normalized := by
  unfold normalizeV1Pricing at accepted
  simp only [throw_eq_error, error_bind, refuse_eq_ok] at accepted
  obtain ⟨-, accepted⟩ := accepted
  split at accepted
  · rename_i input cachedInput output inputOk cachedOk outputOk
    cases accepted
    refine Or.inl ⟨?_, ⟨_, (parseBounded_unsigned_value inputOk).2.2⟩,
      ⟨_, (parseBounded_unsigned_value cachedOk).2.2⟩,
      ⟨_, (parseBounded_unsigned_value outputOk).2.2⟩⟩
    dsimp only
    split <;> exact version
  · cases accepted

private theorem normalizeV2Pricing_priced (version : params.pricingRuleVersion = pricingSchemaV2)
    (accepted : normalizeV2Pricing params = .ok normalized) : PricedParams normalized := by
  unfold normalizeV2Pricing at accepted
  simp only [throw_eq_error, error_bind, refuse_eq_ok] at accepted
  obtain ⟨-, -, -, accepted⟩ := accepted
  split at accepted
  · cases accepted
  · rename_i snapshot parsed
    simp only [refuse_eq_ok, not_or, not_not] at accepted
    obtain ⟨⟨sameModel, model, -⟩, -, same⟩ := accepted
    cases same
    exact Or.inr ⟨version, snapshot, parsed, sameModel.trans model⟩

private theorem normalizePricing_priced
    (accepted : normalizePricing params = .ok normalized) : PricedParams normalized := by
  unfold normalizePricing at accepted
  split at accepted
  · exact normalizeV1Pricing_priced ‹_› accepted
  · split at accepted
    · exact normalizeV2Pricing_priced ‹_› accepted
    · cases accepted

theorem normalizeReservation_priced
    (accepted : normalizeReservation params = .ok normalized) : PricedParams normalized := by
  unfold normalizeReservation at accepted
  simp only [throw_eq_error, error_bind, refuse_eq_ok, bind_eq_ok,
    Except.pure_eq, Except.ok.injEq] at accepted
  obtain ⟨-, chosen, selected, -, rfl⟩ := accepted
  exact normalizePricing_priced selected

section Overrides

variable {structureDigest : ModelPriceStructure → Text}

/-- The effective rule of a version is what normalization makes of some rule, up
to its prices all being zero. -/
private theorem modelPriceValue_effective
    (chosen : modelPriceValue structureDigest pricing model rule stored = .ok (some effective)) :
    ∃ source normalized, normalizeModelPrice pricing.schemaVersion model source = .ok normalized ∧
      (effective = normalized ∨
        (pricing.schemaVersion = pricingSchemaV1 ∧ effective =
          { normalized with
            inputUSDPerMillion := ['0'], cachedInputUSDPerMillion := ['0'],
            outputUSDPerMillion := ['0'] }) ∨
        (pricing.schemaVersion ≠ pricingSchemaV1 ∧
          effective = normalized.mapPrices fun _ => ['0'])) := by
  simp only [modelPriceValue, bind_eq_ok, liftConfig_eq_ok, Except.pure_eq] at chosen
  obtain ⟨structureID, -, configured, normal, chosen⟩ := chosen
  split at chosen
  · split at chosen
    · cases chosen
      exact ⟨rule, configured, normal, Or.inr (Or.inl ⟨‹_›, rfl⟩)⟩
    · cases chosen
      exact ⟨rule, configured, normal, Or.inr (Or.inr ⟨‹_›, rfl⟩)⟩
  · split at chosen
    · cases chosen
      exact ⟨rule, _, normal, Or.inl rfl⟩
    · split at chosen
      · cases chosen
      · split at chosen
        · rename_i price _
          simp only [bind_eq_ok, liftConfig_eq_ok, Except.ok.injEq, Option.some.injEq,
            UsagePricing.validateModelPriceOverride, throw_eq_error, error_bind,
            refuse_eq_ok] at chosen
          obtain ⟨normalized, ⟨-, expected, -, found, override, actual, -, -, same⟩, rfl⟩ := chosen
          cases same
          exact ⟨price, _, override, Or.inl rfl⟩
        · cases chosen

theorem parsePricingSnapshot_encodeSnapshot {snapshot : PricingSnapshot}
    (version : snapshot.schemaVersion = pricingSchemaV2)
    (model : usagePricingModelPattern snapshot.model = true)
    (fallback : validateV2FallbackPolicy snapshot.fallbackPolicy = .ok ())
    (rule : ValidV2ModelPricing snapshot.rule) :
    parsePricingSnapshot (encodeSnapshot snapshot) = .ok snapshot := by
  have fields : ∀ field ∈ v1Fields, field ∉ encodedRuleFields snapshot.rule := by
    intro field member encoded
    simp only [encodedRuleFields, List.mem_append, mem_spelled, rule.noInput, rule.noCachedInput,
      rule.noOutput, not_true_eq_false, false_and, false_or] at encoded
    have disjoint : ∀ field ∈ v1Fields, field ∉ v2Fields := by decide
    apply disjoint field member
    rcases encoded with ((⟨-, rfl⟩ | ⟨-, rfl⟩) | ⟨-, rfl⟩) | ⟨-, rfl⟩ <;> decide
  exact parsePricingSnapshot_ok.mpr ⟨_, rfl, rfl, version, model,
    validateModelPricingFieldPresence_v2 fields _, fallback, rule⟩

private theorem effective_v2 (version : pricing.schemaVersion = pricingSchemaV2)
    (chosen : modelPriceValue structureDigest pricing model rule stored = .ok (some effective)) :
    ValidV2ModelPricing effective := by
  obtain ⟨source, normalized, normal, shape⟩ := modelPriceValue_effective chosen
  rw [version] at normal shape
  have valid := normalizeModelPrice_v2 normal
  rcases shape with rfl | ⟨legacy, -⟩ | ⟨-, rfl⟩
  · exact valid
  · exact absurd legacy (by decide)
  · exact valid.mapPrices fun _ _ => isPrice_zero

private theorem effective_v1 (version : pricing.schemaVersion = pricingSchemaV1)
    (chosen : modelPriceValue structureDigest pricing model rule stored = .ok (some effective)) :
    IsPrice effective.inputUSDPerMillion ∧ IsPrice effective.cachedInputUSDPerMillion ∧
      IsPrice effective.outputUSDPerMillion := by
  obtain ⟨source, normalized, normal, shape⟩ := modelPriceValue_effective chosen
  rw [version] at normal shape
  rcases shape with rfl | ⟨-, rfl⟩ | ⟨other, -⟩
  · exact normalizeModelPrice_v1 normal
  · exact ⟨isPrice_zero, isPrice_zero, isPrice_zero⟩
  · exact absurd rfl other

theorem snapshotModelPrice_priced {priced : BillingReservationParams} (before : PricedParams params)
    (accepted : snapshotModelPrice structureDigest db params = .ok priced) :
    PricedParams priced := by
  unfold snapshotModelPrice at accepted
  split at accepted
  · cases accepted
    exact before
  · split at accepted
    · cases accepted
      exact before
    · split at accepted
      · rename_i version
        simp only [bind_eq_ok, liftConfig_eq_ok] at accepted
        obtain ⟨snapshot, parsed, effective, chosen, accepted⟩ := accepted
        split at accepted
        · cases accepted
        · cases accepted
          obtain ⟨-, -, -, -, pattern, -, fallback, -⟩ := parsePricingSnapshot_ok.mp parsed
          rcases before with ⟨legacy, -⟩ | ⟨-, bound, parsed', model⟩
          · rw [version] at legacy
            exact absurd legacy (by decide)
          · rw [parsed] at parsed'
            cases parsed'
            rw [model] at pattern
            exact Or.inr ⟨version, _, parsePricingSnapshot_encodeSnapshot rfl pattern fallback
              (effective_v2 version chosen), rfl⟩
      · rename_i version
        simp only [bind_eq_ok] at accepted
        obtain ⟨effective, chosen, accepted⟩ := accepted
        split at accepted
        · cases accepted
        · cases accepted
          rcases before with ⟨legacy, -⟩ | ⟨current, -⟩
          · exact Or.inl ⟨legacy, effective_v1 legacy chosen⟩
          · exact absurd current version

end Overrides

private theorem isPrice_priceColumn {value : Text} (price : IsPrice value) :
    IsPrice (priceText (priceColumn value)) := by
  obtain ⟨canonical, accepted⟩ := price
  obtain ⟨units, denotes, range, nonneg, -⟩ := parseBounded_units accepted le_rfl
  have stored : numeric value = units := by
    have same := (parseBounded_unsigned_value accepted).2.1
    rw [numeric, ← same]
    exact Denotes.numeric_eq denotes
  have present : value ≠ [] := by
    rintro rfl
    simp [parsePrice, parseBounded] at accepted
  rw [priceColumn, if_neg present, stored]
  exact isPrice_numericText (nonneg rfl) range

theorem numeric_snapshotModelMultiplier (db : Db) (model : Text) :
    0 < numeric (snapshotModelMultiplier db model) ∧
      NumericRange (numeric (snapshotModelMultiplier db model)) := by
  unfold snapshotModelMultiplier
  split
  · decide +kernel
  · rename_i row _
    rw [numeric_numericText]
    exact ⟨row.positive, (numericRange_iff row.positive.le).mpr row.bounded⟩

theorem PricedParams.pricingBound (priced : PricedParams params)
    (version : reservation.pricingRuleVersion = params.pricingRuleVersion)
    (input : reservation.inputUSDPerMillion = priceColumn params.inputUSDPerMillion) (cachedInput :
      reservation.cachedInputUSDPerMillion = priceColumn params.cachedInputUSDPerMillion)
    (output : reservation.outputUSDPerMillion = priceColumn params.outputUSDPerMillion)
    (snapshot : reservation.pricingSnapshot = params.pricingSnapshot)
    (multiplier : reservation.pricingMultiplier = numeric (snapshotModelMultiplier db model)) :
    PricingBound reservation := by
  refine ⟨?_, ?_, ?_⟩
  · rw [multiplier]
    exact numeric_snapshotModelMultiplier db model
  · intro legacy
    rw [input, cachedInput, output]
    rcases priced with ⟨-, inputPrice, cachedPrice, outputPrice⟩ | ⟨current, -⟩
    · exact ⟨isPrice_priceColumn inputPrice, isPrice_priceColumn cachedPrice,
        isPrice_priceColumn outputPrice⟩
    · rw [version, current] at legacy
      exact absurd legacy (by decide)
  · intro current
    rw [snapshot]
    rcases priced with ⟨legacy, -⟩ | ⟨-, document, parsed, -⟩
    · exact absurd (version.trans legacy) current
    · exact ⟨document, parsed⟩

/-! ## What pricing returns -/

theorem priceUsage_isCost {usage : UsageRequest} {priced : PricedUsage}
    (computed : priceUsage reservation usage = .ok priced) : IsCost priced.cost := by
  unfold priceUsage at computed
  dsimp only at computed
  split at computed
  · simp only [bind_eq_ok, liftConfig_eq_ok, Except.pure_eq, Except.ok.injEq] at computed
    obtain ⟨cost, cost', rfl⟩ := computed
    exact isCost_calculateCostWithMultiplier cost'
  · simp only [bind_eq_ok, liftConfig_eq_ok] at computed
    obtain ⟨snapshot, -, decision, -, computed⟩ := computed
    split at computed
    · simp only [bind_eq_ok, liftConfig_eq_ok, Except.pure_eq, Except.ok.injEq] at computed
      obtain ⟨cost, cost', rfl⟩ := computed
      exact isCost_calculateCostV2TTLWithMultiplier cost'
    · simp only [bind_eq_ok, liftConfig_eq_ok, Except.pure_eq, Except.ok.injEq] at computed
      obtain ⟨cost, cost', rfl⟩ := computed
      exact isCost_calculateCostV2WithMultiplier cost'

end Store
