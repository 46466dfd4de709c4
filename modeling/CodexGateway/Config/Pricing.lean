import CodexGateway.Billing.Amount
import CodexGateway.Library.Table
import CodexGateway.Library.Transaction

/-! # Pricing snapshots

The pricing rules of `internal/config/pricing.go`. A version 2 snapshot holds a
model's complete service tier and context matrix with its fallback policy, so
that settlement never depends on the configuration of the running process. A Go
map is a table keyed by its first component; its rows stand in the order in
which an iteration visits them, which is arbitrary.
-/

namespace Config

open Billing

variable {context : String} {cacheWriteMode : Text}

def pricingSchemaV1 : Int := 1
def pricingSchemaV2 : Int := 2

def pricingTierStandard : Text := "standard".toList
def pricingTierFlex : Text := "flex".toList
def pricingTierFast : Text := "fast".toList
def pricingTierMaxPublished : Text := "max_published".toList

def fallbackUnknownServiceTier : Text := "unknown_service_tier".toList
def fallbackMissingServiceTier : Text := "missing_service_tier".toList
def fallbackMissingPriceCombination : Text := "missing_price_combination".toList
def fallbackMissingCacheWriteTokens : Text := "missing_cache_write_tokens".toList
def fallbackMissingCacheWriteTTL : Text := "missing_cache_write_ttl".toList

def fallbackMaxPublished : Text := "max_published".toList
def fallbackAllUncachedAsWrite : Text := "all_uncached_as_write".toList

inductive ContextClass where
  | short
  | long
  deriving Repr, DecidableEq

def ContextClass.name : ContextClass → Text
  | .short => "short".toList
  | .long => "long".toList

structure PricingFallbackPolicy where
  unknownServiceTier : Text
  missingPriceCombination : Text
  missingCacheWriteTokens : Text
  deriving Repr, DecidableEq

structure TokenPricing where
  inputUSDPerMillion : Text
  cachedInputUSDPerMillion : Text
  cacheWriteUSDPerMillion : Option Text
  cacheWrite5mUSDPerMillion : Option Text
  cacheWrite1hUSDPerMillion : Option Text
  outputUSDPerMillion : Text
  deriving Repr, DecidableEq

structure ServiceTierPricing where
  short : Option TokenPricing
  long : Option TokenPricing
  deriving Repr, DecidableEq

abbrev ServiceTiers := Table (Prod.fst : Text × ServiceTierPricing → Text)

/-- The three top-level prices belong to schema version 1, the remaining fields
to version 2. -/
structure ModelPricing where
  inputUSDPerMillion : Text
  cachedInputUSDPerMillion : Text
  outputUSDPerMillion : Text
  cacheWriteMode : Text
  maxInputTokens : Int
  longContextThresholdTokens : Int
  serviceTiers : ServiceTiers
  deriving DecidableEq

structure PricingSnapshot where
  schemaVersion : Int
  fallbackPolicy : PricingFallbackPolicy
  model : Text
  rule : ModelPricing
  deriving DecidableEq

/-- A snapshot document as the JSON decoder hands it over: the decoded record,
and the field names that its `rule` object spells out. -/
structure SnapshotDocument where
  snapshot : PricingSnapshot
  ruleFields : List Text
  deriving DecidableEq

/-- The bytes of a snapshot: none, a text that the decoder rejects, or a
document. -/
inductive RawSnapshot where
  | empty
  | malformed
  | document (value : SnapshotDocument)
  deriving DecidableEq

structure PricingDecision where
  pricingServiceTier : Text
  contextClass : ContextClass
  inputUSDPerMillion : Text
  cachedInputUSDPerMillion : Text
  cacheWriteUSDPerMillion : Text
  cacheWrite5mUSDPerMillion : Text
  cacheWrite1hUSDPerMillion : Text
  outputUSDPerMillion : Text
  fallbackReason : Text
  deriving Repr, DecidableEq

/-! ## Validation -/

/-- The `%q` verb on a text without characters that need escaping. -/
def quoted (text : Text) : String :=
  "\"" ++ String.ofList text ++ "\""

/-- `^[A-Za-z0-9._:-]{1,128}$`. -/
def usagePricingModelPattern (model : Text) : Bool :=
  1 ≤ model.length && model.length ≤ 128 &&
    model.all fun c => c.isAlphanum || c == '.' || c == '_' || c == ':' || c == '-'

def validateV2FallbackPolicy (policy : PricingFallbackPolicy) : Except String Unit := do
  if policy.unknownServiceTier ≠ fallbackMaxPublished then
    throw ("pricing v2 fallback_policy.unknown_service_tier must be " ++ quoted fallbackMaxPublished)
  if policy.missingPriceCombination ≠ fallbackMaxPublished then
    throw ("pricing v2 fallback_policy.missing_price_combination must be " ++
      quoted fallbackMaxPublished)
  if policy.missingCacheWriteTokens ≠ fallbackAllUncachedAsWrite then
    throw ("pricing v2 fallback_policy.missing_cache_write_tokens must be " ++
      quoted fallbackAllUncachedAsWrite)

def v1Fields : List Text :=
  ["input_usd_per_million".toList, "cached_input_usd_per_million".toList,
    "output_usd_per_million".toList]

def v2Fields : List Text :=
  ["cache_write_mode".toList, "max_input_tokens".toList, "long_context_threshold_tokens".toList,
    "service_tiers".toList]

def validateModelPricingFieldPresence (schemaVersion : Int) (model : Text) (fields : List Text) :
    Except String Unit :=
  match v1Fields.find? fun field => field ∈ fields ∧ schemaVersion = pricingSchemaV2 with
  | some field =>
    .error ("pricing v2 model " ++ quoted model ++ " must not define v1 field " ++ quoted field)
  | none =>
    match v2Fields.find? fun field => field ∈ fields ∧ schemaVersion = pricingSchemaV1 with
    | some field =>
      .error ("pricing v1 model " ++ quoted model ++ " must not define v2 field " ++ quoted field)
    | none => .ok ()

theorem validateModelPricingFieldPresence_v2 {fields : List Text}
    (absent : ∀ field ∈ v1Fields, field ∉ fields) (model : Text) :
    validateModelPricingFieldPresence pricingSchemaV2 model fields = .ok () := by
  have mixed : v1Fields.find? (fun field => field ∈ fields ∧ pricingSchemaV2 = pricingSchemaV2) =
      none := by
    rw [List.find?_eq_none]
    intro field member
    simpa using absent field member
  have legacy : v2Fields.find? (fun field => field ∈ fields ∧ pricingSchemaV2 = pricingSchemaV1) =
      none := by
    rw [List.find?_eq_none]
    intro field _ both
    exact absurd (of_decide_eq_true both).2 (by decide)
  rw [validateModelPricingFieldPresence, mixed, legacy]

/-- A price that must parse, with the place its error names. -/
def requirePrice (place : String) (value : Text) : Except String Unit :=
  match parsePrice value with
  | .ok _ => .ok ()
  | .error err => .error (place ++ ": " ++ err)

def requireOptionalPrice (context field : String) : Option Text → Except String Unit
  | none => .error (context ++ " requires " ++ field)
  | some value => requirePrice (context ++ " " ++ field) value

def validateV1ModelPricing (model : Text) (price : ModelPricing) : Except String Unit := do
  if price.cacheWriteMode ≠ [] ∨ price.maxInputTokens ≠ 0 ∨
      price.longContextThresholdTokens ≠ 0 ∨ price.serviceTiers.rows.length ≠ 0 then
    throw ("pricing v1 model " ++ quoted model ++ " must not mix v2 fields")
  let context := "pricing model " ++ quoted model
  requirePrice (context ++ " input_usd_per_million") price.inputUSDPerMillion
  requirePrice (context ++ " cached_input_usd_per_million") price.cachedInputUSDPerMillion
  requirePrice (context ++ " output_usd_per_million") price.outputUSDPerMillion

/-- The aggregate cache write price belongs to separate mode only. -/
def validateCacheWritePrice (context : String) (cacheWriteMode : Text) (price : TokenPricing) :
    Except String Unit :=
  if cacheWriteMode = cacheWriteSeparate then
    requireOptionalPrice context "cache_write_usd_per_million" price.cacheWriteUSDPerMillion
  else if price.cacheWriteUSDPerMillion.isSome then
    .error (context ++ " must omit cache_write_usd_per_million")
  else .ok ()

/-- The two cache write prices by lifetime belong to that mode only. -/
def validateCacheWriteTTLPrices (context : String) (cacheWriteMode : Text) (price : TokenPricing) :
    Except String Unit :=
  if cacheWriteMode = cacheWriteSeparateByTTL then do
    requireOptionalPrice context "cache_write_5m_usd_per_million" price.cacheWrite5mUSDPerMillion
    requireOptionalPrice context "cache_write_1h_usd_per_million" price.cacheWrite1hUSDPerMillion
  else if price.cacheWrite5mUSDPerMillion.isSome ∨ price.cacheWrite1hUSDPerMillion.isSome then
    .error (context ++ " must omit TTL cache write prices")
  else .ok ()

def validateTokenPricing (model tier : Text) (contextClass : ContextClass) (cacheWriteMode : Text)
    (price : TokenPricing) : Except String Unit := do
  let context := "pricing v2 model " ++ quoted model ++ " tier " ++ quoted tier ++ " context " ++
    quoted contextClass.name
  requirePrice (context ++ " input_usd_per_million") price.inputUSDPerMillion
  requirePrice (context ++ " cached_input_usd_per_million") price.cachedInputUSDPerMillion
  requirePrice (context ++ " output_usd_per_million") price.outputUSDPerMillion
  validateCacheWritePrice context cacheWriteMode price
  validateCacheWriteTTLPrices context cacheWriteMode price

/-- One service tier of `validateV2ModelPricing`. -/
def validateServiceTier (model cacheWriteMode : Text) (entry : Text × ServiceTierPricing) :
    Except String Unit := do
  let (tier, contexts) := entry
  if tier ≠ pricingTierStandard ∧ tier ≠ pricingTierFlex ∧ tier ≠ pricingTierFast then
    throw ("pricing v2 model " ++ quoted model ++ " has invalid service tier " ++ quoted tier)
  if contexts.short = none ∧ contexts.long = none then
    throw ("pricing v2 model " ++ quoted model ++ " tier " ++ quoted tier ++
      " has no published context price")
  contexts.short.forM (validateTokenPricing model tier .short cacheWriteMode)
  contexts.long.forM (validateTokenPricing model tier .long cacheWriteMode)

def validateV2ModelPricing (model : Text) (price : ModelPricing) : Except String Unit := do
  if price.inputUSDPerMillion ≠ [] ∨ price.cachedInputUSDPerMillion ≠ [] ∨
      price.outputUSDPerMillion ≠ [] then
    throw ("pricing v2 model " ++ quoted model ++ " must not mix v1 price fields")
  if price.cacheWriteMode ≠ cacheWriteSeparate ∧ price.cacheWriteMode ≠ cacheWriteSeparateByTTL ∧
      price.cacheWriteMode ≠ cacheWriteIncludedInInput then
    throw ("pricing v2 model " ++ quoted model ++ " has invalid cache_write_mode")
  if price.maxInputTokens ≤ 0 ∨ price.longContextThresholdTokens ≤ 0 ∨
      price.longContextThresholdTokens > price.maxInputTokens then
    throw ("pricing v2 model " ++ quoted model ++ " has invalid input-token boundaries")
  if price.serviceTiers.rows.length = 0 then
    throw ("pricing v2 model " ++ quoted model ++ " must define service_tiers")
  price.serviceTiers.rows.forM (validateServiceTier model price.cacheWriteMode)

/-- The decoding half of `ParsePricingSnapshot`. -/
def RawSnapshot.decode : RawSnapshot → Except String SnapshotDocument
  | .document value => .ok value
  | _ => .error "decode pricing snapshot"

def parsePricingSnapshot (raw : RawSnapshot) : Except String PricingSnapshot := do
  let document ← raw.decode
  let snapshot := document.snapshot
  if snapshot.schemaVersion ≠ pricingSchemaV2 ∨ usagePricingModelPattern snapshot.model = false then
    throw "invalid pricing snapshot header"
  validateModelPricingFieldPresence pricingSchemaV2 snapshot.model document.ruleFields
  validateV2FallbackPolicy snapshot.fallbackPolicy
  validateV2ModelPricing snapshot.model snapshot.rule
  return snapshot

/-! ## Selection -/

def normalizeServiceTier (value : Text) : Option Text :=
  let lowered := Text.toLower (Text.trimSpace value)
  if lowered = "default".toList ∨ lowered = "standard".toList then some pricingTierStandard
  else if lowered = "flex".toList then some pricingTierFlex
  else if lowered = "priority".toList ∨ lowered = "fast".toList then some pricingTierFast
  else none

/-- The reasons form a set; the text lists it in order, separated by commas. -/
def appendFallbackReason (existing reason : Text) : Text :=
  if reason = [] then existing
  else
    let values := (((existing.splitOn ',').filter (· ≠ [])).dedup).insert reason
    [','].intercalate (values.insertionSort (· ≤ ·))

def contextPrice (value : ServiceTierPricing) : ContextClass → Option TokenPricing
  | .long => value.long
  | .short => value.short

/-- `%018s%-012s` of the two pieces around the point. -/
def decimalSortKey (value : Text) : Text :=
  let integer := value.takeWhile (· != '.')
  let fraction := (value.dropWhile (· != '.')).tail
  (List.replicate (18 - integer.length) '0' ++ integer) ++
    (fraction ++ List.replicate (12 - fraction.length) ' ')

def maxDecimal (left right : Text) : Text :=
  let l := (parsePrice left).toOption.getD []
  let r := (parsePrice right).toOption.getD []
  if decimalSortKey l < decimalSortKey r then r else l

/-- The running maxima of `componentMaximum`. -/
structure ComponentMaxima where
  input : Text
  cachedInput : Text
  output : Text
  cacheWrite : Text
  cacheWrite5m : Text
  cacheWrite1h : Text
  deriving Repr, DecidableEq

def ComponentMaxima.zero : ComponentMaxima :=
  ⟨['0'], ['0'], ['0'], ['0'], ['0'], ['0']⟩

def maxOptionalDecimal (current : Text) : Option Text → Text
  | none => current
  | some value => maxDecimal current value

def ComponentMaxima.include (maxima : ComponentMaxima) (value : TokenPricing) : ComponentMaxima where
  input := maxDecimal maxima.input value.inputUSDPerMillion
  cachedInput := maxDecimal maxima.cachedInput value.cachedInputUSDPerMillion
  output := maxDecimal maxima.output value.outputUSDPerMillion
  cacheWrite := maxOptionalDecimal maxima.cacheWrite value.cacheWriteUSDPerMillion
  cacheWrite5m := maxOptionalDecimal maxima.cacheWrite5m value.cacheWrite5mUSDPerMillion
  cacheWrite1h := maxOptionalDecimal maxima.cacheWrite1h value.cacheWrite1hUSDPerMillion

def componentMaximum (values : List TokenPricing) (cacheWriteMode : Text) : Option TokenPricing :=
  if values.length = 0 then none
  else
    let maxima := values.foldl ComponentMaxima.include .zero
    some {
      inputUSDPerMillion := maxima.input
      cachedInputUSDPerMillion := maxima.cachedInput
      cacheWriteUSDPerMillion :=
        if cacheWriteMode = cacheWriteSeparate then some maxima.cacheWrite else none
      cacheWrite5mUSDPerMillion :=
        if cacheWriteMode = cacheWriteSeparateByTTL then some maxima.cacheWrite5m else none
      cacheWrite1hUSDPerMillion :=
        if cacheWriteMode = cacheWriteSeparateByTTL then some maxima.cacheWrite1h else none
      outputUSDPerMillion := maxima.output }

def maxPublishedForContext (rule : ModelPricing) (contextClass : ContextClass) :
    Option TokenPricing :=
  componentMaximum (rule.serviceTiers.rows.filterMap fun tier => contextPrice tier.2 contextClass)
    rule.cacheWriteMode

def maxPublished (rule : ModelPricing) : Option TokenPricing :=
  componentMaximum (rule.serviceTiers.rows.flatMap fun tier =>
    tier.2.short.toList ++ tier.2.long.toList) rule.cacheWriteMode

/-- The decision that `Select` makes before it copies the prices: the tier it
reports, the chosen prices and the reasons. -/
structure PriceChoice where
  pricingServiceTier : Text
  selected : TokenPricing
  fallbackReason : Text
  deriving Repr, DecidableEq

/-- The price of the configured tier, and the reasons for leaving it. -/
def configuredPrice (rule : ModelPricing) (tier : Text) (contextClass : ContextClass)
    (reason : Text) : Option TokenPricing × Text :=
  match (rule.serviceTiers.find? tier).bind fun entry => contextPrice entry.2 contextClass with
  | some price => (some price, reason)
  | none => (none, appendFallbackReason reason fallbackMissingPriceCombination)

/-- The conservative price when no configured one applies. -/
def fallbackPrice (rule : ModelPricing) (contextClass : ContextClass)
    (overMaximum tierKnown : Bool) (reason : Text) : Option (TokenPricing × Text) :=
  let context :=
    if !overMaximum && !tierKnown then maxPublishedForContext rule contextClass else none
  match context with
  | some price => some (price, reason)
  | none =>
    (maxPublished rule).map fun price =>
      (price, appendFallbackReason reason fallbackMissingPriceCombination)

def choosePrice (rule : ModelPricing) (actualServiceTier : Text) (inputTokens : Int)
    (contextClass : ContextClass) : Option PriceChoice :=
  let overMaximum : Bool := inputTokens > rule.maxInputTokens
  let reason := if overMaximum then appendFallbackReason [] fallbackMissingPriceCombination else []
  let missingTier : Bool := Text.trimSpace actualServiceTier = []
  let tier := if missingTier then none else normalizeServiceTier actualServiceTier
  let reason :=
    if missingTier then appendFallbackReason reason fallbackMissingServiceTier
    else if tier = none then appendFallbackReason reason fallbackUnknownServiceTier
    else reason
  let configured :=
    match tier with
    | some tier => if overMaximum then (none, reason) else configuredPrice rule tier contextClass reason
    | none => (none, reason)
  match configured with
  | (some price, reason) => some ⟨tier.getD [], price, reason⟩
  | (none, reason) =>
    (fallbackPrice rule contextClass overMaximum tier.isSome reason).map fun found =>
      ⟨pricingTierMaxPublished, found.1, found.2⟩

def nilDereference : String := "runtime error: invalid memory address or nil pointer dereference"

/-- `PricingSnapshot.Select`. -/
def PricingSnapshot.select (s : PricingSnapshot) (actualServiceTier : Text) (inputTokens : Int) :
    Except String PricingDecision :=
  if inputTokens < 0 then .error "negative input tokens"
  else
    let contextClass :=
      if inputTokens > s.rule.longContextThresholdTokens then ContextClass.long else .short
    match choosePrice s.rule actualServiceTier inputTokens contextClass with
    | none => .error "pricing snapshot contains no published prices"
    | some ⟨tier, selected, reason⟩ =>
      let decision : PricingDecision := {
        pricingServiceTier := tier
        contextClass
        inputUSDPerMillion := selected.inputUSDPerMillion
        cachedInputUSDPerMillion := selected.cachedInputUSDPerMillion
        cacheWriteUSDPerMillion := selected.cacheWriteUSDPerMillion.getD ['0']
        cacheWrite5mUSDPerMillion := []
        cacheWrite1hUSDPerMillion := []
        outputUSDPerMillion := selected.outputUSDPerMillion
        fallbackReason := reason }
      if s.rule.cacheWriteMode = cacheWriteSeparateByTTL then
        match selected.cacheWrite5mUSDPerMillion, selected.cacheWrite1hUSDPerMillion with
        | some cacheWrite5m, some cacheWrite1h =>
          .ok { decision with
            cacheWrite5mUSDPerMillion := cacheWrite5m
            cacheWrite1hUSDPerMillion := cacheWrite1h
            cacheWriteUSDPerMillion := maxDecimal cacheWrite5m cacheWrite1h }
        | _, _ => .error nilDereference
      else .ok decision

/-! ## What validation accepts -/

/-- The prices that a context must publish under a cache write mode. -/
structure ValidTokenPricing (cacheWriteMode : Text) (price : TokenPricing) : Prop where
  input : IsPrice price.inputUSDPerMillion
  cachedInput : IsPrice price.cachedInputUSDPerMillion
  output : IsPrice price.outputUSDPerMillion
  cacheWrite : if cacheWriteMode = cacheWriteSeparate then
      ∃ value, price.cacheWriteUSDPerMillion = some value ∧ IsPrice value
    else price.cacheWriteUSDPerMillion = none
  cacheWriteTTL : if cacheWriteMode = cacheWriteSeparateByTTL then
      (∃ value, price.cacheWrite5mUSDPerMillion = some value ∧ IsPrice value) ∧
        ∃ value, price.cacheWrite1hUSDPerMillion = some value ∧ IsPrice value
    else price.cacheWrite5mUSDPerMillion = none ∧ price.cacheWrite1hUSDPerMillion = none

theorem requirePrice_ok {place : String} {value : Text} :
    requirePrice place value = .ok () ↔ IsPrice value := by
  unfold requirePrice IsPrice
  cases parsePrice value <;> simp

variable {value : Option Text} {price : TokenPricing} {mode model tier : Text}
  {contextClass : ContextClass} {entry : Text × ServiceTierPricing} {maxima : ComponentMaxima}
  {values : List TokenPricing}

theorem requireOptionalPrice_ok {field : String} :
    requireOptionalPrice context field value = .ok () ↔
      ∃ price, value = some price ∧ IsPrice price := by
  cases value with
  | none => simp [requireOptionalPrice]
  | some price => simp [requireOptionalPrice, requirePrice_ok]

theorem validateCacheWritePrice_ok :
    validateCacheWritePrice context cacheWriteMode price = .ok () ↔
      if cacheWriteMode = cacheWriteSeparate then
        ∃ value, price.cacheWriteUSDPerMillion = some value ∧ IsPrice value
      else price.cacheWriteUSDPerMillion = none := by
  unfold validateCacheWritePrice
  split
  · exact requireOptionalPrice_ok
  · cases price.cacheWriteUSDPerMillion <;> simp

theorem validateCacheWriteTTLPrices_ok :
    validateCacheWriteTTLPrices context cacheWriteMode price = .ok () ↔
      if cacheWriteMode = cacheWriteSeparateByTTL then
        (∃ value, price.cacheWrite5mUSDPerMillion = some value ∧ IsPrice value) ∧
          ∃ value, price.cacheWrite1hUSDPerMillion = some value ∧ IsPrice value
      else price.cacheWrite5mUSDPerMillion = none ∧ price.cacheWrite1hUSDPerMillion = none := by
  unfold validateCacheWriteTTLPrices
  split
  · rw [Except.check_bind_eq_ok, requireOptionalPrice_ok, requireOptionalPrice_ok]
  · cases price.cacheWrite5mUSDPerMillion <;> cases price.cacheWrite1hUSDPerMillion <;> simp

theorem validateTokenPricing_ok :
    validateTokenPricing model tier contextClass cacheWriteMode price = .ok () ↔
      ValidTokenPricing cacheWriteMode price := by
  simp only [validateTokenPricing, Except.check_bind_eq_ok, requirePrice_ok,
    validateCacheWritePrice_ok, validateCacheWriteTTLPrices_ok]
  constructor
  · rintro ⟨input, cachedInput, output, cacheWrite, cacheWriteTTL⟩
    exact ⟨input, cachedInput, output, cacheWrite, cacheWriteTTL⟩
  · rintro ⟨input, cachedInput, output, cacheWrite, cacheWriteTTL⟩
    exact ⟨input, cachedInput, output, cacheWrite, cacheWriteTTL⟩

structure ValidServiceTier (cacheWriteMode : Text) (entry : Text × ServiceTierPricing) : Prop where
  name : entry.1 = pricingTierStandard ∨ entry.1 = pricingTierFlex ∨ entry.1 = pricingTierFast
  published : entry.2.short ≠ none ∨ entry.2.long ≠ none
  short : ∀ price, entry.2.short = some price → ValidTokenPricing cacheWriteMode price
  long : ∀ price, entry.2.long = some price → ValidTokenPricing cacheWriteMode price

/-- The rules that a version 2 snapshot may carry. -/
structure ValidV2ModelPricing (rule : ModelPricing) : Prop where
  noInput : rule.inputUSDPerMillion = []
  noCachedInput : rule.cachedInputUSDPerMillion = []
  noOutput : rule.outputUSDPerMillion = []
  mode : rule.cacheWriteMode = cacheWriteSeparate ∨
    rule.cacheWriteMode = cacheWriteSeparateByTTL ∨ rule.cacheWriteMode = cacheWriteIncludedInInput
  threshold : 0 < rule.longContextThresholdTokens
  maximum : rule.longContextThresholdTokens ≤ rule.maxInputTokens
  nonempty : rule.serviceTiers.rows ≠ []
  tiers : ∀ entry ∈ rule.serviceTiers.rows, ValidServiceTier rule.cacheWriteMode entry

theorem validateServiceTier_ok :
    validateServiceTier model cacheWriteMode entry = .ok () ↔
      ValidServiceTier cacheWriteMode entry := by
  have context : ∀ (tier : Text) (contextClass : ContextClass) (price : Option TokenPricing),
      price.forM (validateTokenPricing model tier contextClass cacheWriteMode) = .ok () ↔
        ∀ value, price = some value → ValidTokenPricing cacheWriteMode value := by
    intro tier contextClass price
    cases price with
    | none => simp [Option.forM]
    | some value => simp [Option.forM, validateTokenPricing_ok]
  obtain ⟨tier, contexts⟩ := entry
  simp only [validateServiceTier, Except.throw_eq_error, Except.error_bind, Except.refuse_eq_ok,
    Except.check_bind_eq_ok, context, ne_eq, not_and_or, not_not]
  constructor
  · rintro ⟨name, published, short, long⟩
    exact ⟨name, published, short, long⟩
  · rintro ⟨name, published, short, long⟩
    exact ⟨name, published, short, long⟩

theorem validateV2ModelPricing_ok {rule : ModelPricing} :
    validateV2ModelPricing model rule = .ok () ↔ ValidV2ModelPricing rule := by
  simp only [validateV2ModelPricing, Except.throw_eq_error, Except.error_bind, Except.refuse_eq_ok,
    Except.forM_eq_ok, validateServiceTier_ok, List.length_eq_zero_iff, ne_eq, not_or, not_and_or,
    not_not, not_le, gt_iff_lt, not_lt]
  constructor
  · rintro ⟨⟨noInput, noCachedInput, noOutput⟩, mode, ⟨-, threshold, maximum⟩, nonempty, tiers⟩
    exact ⟨noInput, noCachedInput, noOutput, mode, threshold, maximum, nonempty, tiers⟩
  · rintro ⟨noInput, noCachedInput, noOutput, mode, threshold, maximum, nonempty, tiers⟩
    exact ⟨⟨noInput, noCachedInput, noOutput⟩, mode,
      ⟨lt_of_lt_of_le threshold maximum, threshold, maximum⟩, nonempty, tiers⟩

/-- A document parses exactly when its header is in order, it spells out no
version 1 field and it carries the fallback policy and a valid rule. -/
theorem parsePricingSnapshot_ok {raw : RawSnapshot} {snapshot : PricingSnapshot} :
    parsePricingSnapshot raw = .ok snapshot ↔
      ∃ document, raw = .document document ∧ document.snapshot = snapshot ∧
        snapshot.schemaVersion = pricingSchemaV2 ∧ usagePricingModelPattern snapshot.model = true ∧
        validateModelPricingFieldPresence pricingSchemaV2 snapshot.model document.ruleFields =
          .ok () ∧
        validateV2FallbackPolicy snapshot.fallbackPolicy = .ok () ∧
        ValidV2ModelPricing snapshot.rule := by
  cases raw with
  | empty | malformed =>
    simp only [parsePricingSnapshot, RawSnapshot.decode, Except.error_bind]
    simp
  | document value =>
    simp only [parsePricingSnapshot, RawSnapshot.decode, Except.pure_eq, Except.ok_bind,
      Except.throw_eq_error, Except.error_bind, Except.refuse_eq_ok, Except.check_bind_eq_ok,
      validateV2ModelPricing_ok, Except.ok.injEq, not_or, not_not, Bool.not_eq_false]
    constructor
    · rintro ⟨⟨schema, name⟩, fields, policy, rule, rfl⟩
      exact ⟨value, rfl, rfl, schema, name, fields, policy, rule⟩
    · rintro ⟨_, ⟨⟩, rfl, schema, name, fields, policy, rule⟩
      exact ⟨⟨schema, name⟩, fields, policy, rule, rfl⟩

/-! ## Selection always finds a price -/

theorem isPrice_zero : IsPrice ['0'] := ⟨['0'], by decide⟩

theorem isPrice_maxDecimal {left right : Text} (l : IsPrice left) (r : IsPrice right) :
    IsPrice (maxDecimal left right) := by
  obtain ⟨left', leftOk⟩ := l
  obtain ⟨right', rightOk⟩ := r
  simp only [maxDecimal, leftOk, rightOk, Except.toOption, Option.getD_some]
  split
  · exact ⟨right', (parseBounded_unsigned_value rightOk).2.2⟩
  · exact ⟨left', (parseBounded_unsigned_value leftOk).2.2⟩

theorem isPrice_maxOptionalDecimal {current : Text} (price : IsPrice current)
    (other : ∀ text, value = some text → IsPrice text) :
    IsPrice (maxOptionalDecimal current value) := by
  cases value with
  | none => exact price
  | some text => exact isPrice_maxDecimal price (other text rfl)

/-- Maxima whose every component is a price. -/
structure ValidMaxima (maxima : ComponentMaxima) : Prop where
  input : IsPrice maxima.input
  cachedInput : IsPrice maxima.cachedInput
  output : IsPrice maxima.output
  cacheWrite : IsPrice maxima.cacheWrite
  cacheWrite5m : IsPrice maxima.cacheWrite5m
  cacheWrite1h : IsPrice maxima.cacheWrite1h

theorem ValidTokenPricing.optional (valid : ValidTokenPricing mode price) :
    (∀ text, price.cacheWriteUSDPerMillion = some text → IsPrice text) ∧
      (∀ text, price.cacheWrite5mUSDPerMillion = some text → IsPrice text) ∧
      ∀ text, price.cacheWrite1hUSDPerMillion = some text → IsPrice text := by
  have cacheWrite := valid.cacheWrite
  have cacheWriteTTL := valid.cacheWriteTTL
  refine ⟨fun text present => ?_, fun text present => ?_, fun text present => ?_⟩
  · split at cacheWrite
    · obtain ⟨value, same, price⟩ := cacheWrite
      cases present.symm.trans same
      exact price
    · cases present.symm.trans cacheWrite
  · split at cacheWriteTTL
    · obtain ⟨⟨value, same, price⟩, -⟩ := cacheWriteTTL
      cases present.symm.trans same
      exact price
    · cases present.symm.trans cacheWriteTTL.1
  · split at cacheWriteTTL
    · obtain ⟨-, value, same, price⟩ := cacheWriteTTL
      cases present.symm.trans same
      exact price
    · cases present.symm.trans cacheWriteTTL.2

theorem ValidMaxima.include (valid : ValidMaxima maxima) (priced : ValidTokenPricing mode price) :
    ValidMaxima (maxima.include price) := by
  obtain ⟨cacheWrite, cacheWrite5m, cacheWrite1h⟩ := priced.optional
  exact {
    input := isPrice_maxDecimal valid.input priced.input
    cachedInput := isPrice_maxDecimal valid.cachedInput priced.cachedInput
    output := isPrice_maxDecimal valid.output priced.output
    cacheWrite := isPrice_maxOptionalDecimal valid.cacheWrite cacheWrite
    cacheWrite5m := isPrice_maxOptionalDecimal valid.cacheWrite5m cacheWrite5m
    cacheWrite1h := isPrice_maxOptionalDecimal valid.cacheWrite1h cacheWrite1h }

theorem ValidMaxima.foldl
    (valid : ValidMaxima maxima) (priced : ∀ price ∈ values, ValidTokenPricing mode price) :
    ValidMaxima (values.foldl ComponentMaxima.include maxima) := by
  induction values generalizing maxima with
  | nil => exact valid
  | cons price rest ih =>
    exact ih (valid.include (priced price List.mem_cons_self))
      fun other member => priced other (List.mem_cons_of_mem _ member)

theorem componentMaximum_valid (priced : ∀ price ∈ values, ValidTokenPricing mode price)
    (found : componentMaximum values mode = some price) : ValidTokenPricing mode price := by
  have zero : ValidMaxima .zero :=
    ⟨isPrice_zero, isPrice_zero, isPrice_zero, isPrice_zero, isPrice_zero, isPrice_zero⟩
  have maxima := zero.foldl priced
  simp only [componentMaximum] at found
  split at found
  · cases found
  · cases found
    refine ⟨maxima.input, maxima.cachedInput, maxima.output, ?_, ?_⟩
    · split
      · exact ⟨_, rfl, maxima.cacheWrite⟩
      · rfl
    · split
      · exact ⟨⟨_, rfl, maxima.cacheWrite5m⟩, _, rfl, maxima.cacheWrite1h⟩
      · exact ⟨rfl, rfl⟩

section Selection

variable {rule : ModelPricing} (valid : ValidV2ModelPricing rule)
include valid

theorem contextPrice_valid (member : entry ∈ rule.serviceTiers.rows)
    (found : contextPrice entry.2 contextClass = some price) :
    ValidTokenPricing rule.cacheWriteMode price := by
  cases contextClass with
  | short => exact (valid.tiers entry member).short price found
  | long => exact (valid.tiers entry member).long price found

theorem maxPublishedForContext_valid
    (found : maxPublishedForContext rule contextClass = some price) :
    ValidTokenPricing rule.cacheWriteMode price := by
  apply componentMaximum_valid _ found
  intro published member
  obtain ⟨entry, entryMember, entryPrice⟩ := List.mem_filterMap.mp member
  exact contextPrice_valid valid entryMember entryPrice

/-- A valid rule publishes at least one price, so the overall maximum exists. -/
theorem maxPublished_valid :
    ∃ price, maxPublished rule = some price ∧ ValidTokenPricing rule.cacheWriteMode price := by
  have priced : ∀ price ∈ rule.serviceTiers.rows.flatMap (fun tier =>
      tier.2.short.toList ++ tier.2.long.toList), ValidTokenPricing rule.cacheWriteMode price := by
    intro price member
    obtain ⟨entry, entryMember, inside⟩ := List.mem_flatMap.mp member
    rcases List.mem_append.mp inside with short | long
    · exact (valid.tiers entry entryMember).short price (Option.mem_toList.mp short)
    · exact (valid.tiers entry entryMember).long price (Option.mem_toList.mp long)
  have nonempty : (rule.serviceTiers.rows.flatMap fun tier =>
      tier.2.short.toList ++ tier.2.long.toList) ≠ [] := by
    obtain ⟨entry, member⟩ := List.exists_mem_of_ne_nil _ valid.nonempty
    intro empty
    have none := List.flatMap_eq_nil_iff.mp empty entry member
    rw [List.append_eq_nil_iff, Option.toList_eq_nil_iff, Option.toList_eq_nil_iff] at none
    rcases (valid.tiers entry member).published with short | long
    · exact short none.1
    · exact long none.2
  cases found : maxPublished rule with
  | none =>
    simp only [maxPublished, componentMaximum, List.length_eq_zero_iff, nonempty, if_false,
      reduceCtorEq] at found
  | some price => exact ⟨price, rfl, componentMaximum_valid priced found⟩

theorem fallbackPrice_valid (contextClass : ContextClass) (overMaximum tierKnown : Bool)
    (reason : Text) :
    ∃ price reason', fallbackPrice rule contextClass overMaximum tierKnown reason =
      some (price, reason') ∧ ValidTokenPricing rule.cacheWriteMode price := by
  obtain ⟨maximum, published, maximumValid⟩ := maxPublished_valid valid
  simp only [fallbackPrice]
  split
  · rename_i price context
    refine ⟨price, reason, rfl, ?_⟩
    split at context
    · exact maxPublishedForContext_valid valid context
    · cases context
  · exact ⟨maximum, _, by rw [published]; rfl, maximumValid⟩

theorem configuredPrice_valid {reason reason' : Text}
    (found : configuredPrice rule tier contextClass reason = (some price, reason')) :
    ValidTokenPricing rule.cacheWriteMode price := by
  simp only [configuredPrice] at found
  split at found
  · rename_i value present
    cases found
    obtain ⟨entry, looked, context⟩ := Option.bind_eq_some_iff.mp present
    exact contextPrice_valid valid (Table.mem_of_find? looked) context
  · cases found

theorem choosePrice_valid (actualServiceTier : Text) (inputTokens : Int)
    (contextClass : ContextClass) :
    ∃ choice, choosePrice rule actualServiceTier inputTokens contextClass = some choice ∧
      ValidTokenPricing rule.cacheWriteMode choice.selected := by
  simp only [choosePrice]
  split
  · rename_i price reason configured
    refine ⟨_, rfl, ?_⟩
    split at configured
    · split at configured
      · cases configured
      · exact configuredPrice_valid valid configured
    · cases configured
  · rename_i reason configured
    obtain ⟨price, reason', found, priced⟩ := fallbackPrice_valid valid contextClass
      (decide (inputTokens > rule.maxInputTokens)) _ reason
    exact ⟨_, by rw [found]; rfl, priced⟩

end Selection

/-- The prices of a decision, all of them parseable where the mode uses them. -/
structure ValidDecision (cacheWriteMode : Text) (decision : PricingDecision) : Prop where
  input : IsPrice decision.inputUSDPerMillion
  cachedInput : IsPrice decision.cachedInputUSDPerMillion
  output : IsPrice decision.outputUSDPerMillion
  cacheWrite : IsPrice decision.cacheWriteUSDPerMillion
  cacheWriteTTL : cacheWriteMode = cacheWriteSeparateByTTL →
    IsPrice decision.cacheWrite5mUSDPerMillion ∧ IsPrice decision.cacheWrite1hUSDPerMillion

theorem PricingSnapshot.select_valid {s : PricingSnapshot} (valid : ValidV2ModelPricing s.rule)
    (actualServiceTier : Text) {inputTokens : Int} (nonneg : 0 ≤ inputTokens) :
    ∃ decision, s.select actualServiceTier inputTokens = .ok decision ∧
      ValidDecision s.rule.cacheWriteMode decision := by
  simp only [PricingSnapshot.select, if_neg (not_lt.mpr nonneg)]
  obtain ⟨⟨tier, selected, reason⟩, chosen, priced⟩ := choosePrice_valid valid actualServiceTier
    inputTokens (if inputTokens > s.rule.longContextThresholdTokens then .long else .short)
  obtain ⟨cacheWrite, -, -⟩ := priced.optional
  rw [chosen]
  dsimp only at priced cacheWrite ⊢
  by_cases mode : s.rule.cacheWriteMode = cacheWriteSeparateByTTL
  · have lifetimes := priced.cacheWriteTTL
    rw [if_pos mode] at lifetimes
    obtain ⟨⟨cacheWrite5m, some5m, price5m⟩, cacheWrite1h, some1h, price1h⟩ := lifetimes
    simp only [if_pos mode, some5m, some1h]
    exact ⟨_, rfl, priced.input, priced.cachedInput, priced.output,
      isPrice_maxDecimal price5m price1h, fun _ => ⟨price5m, price1h⟩⟩
  · simp only [if_neg mode]
    refine ⟨_, rfl, priced.input, priced.cachedInput, priced.output, ?_, fun same =>
      absurd same mode⟩
    cases present : selected.cacheWriteUSDPerMillion with
    | none => exact isPrice_zero
    | some text => exact cacheWrite text present

end Config
