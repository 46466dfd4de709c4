import CodexGateway.Config.Pricing

/-! # Administrator price overrides

The functions of `internal/config/model_prices.go`. An override may change
prices but not the structure of a rule; the structure is compared through a
digest, which stays a parameter here.
-/

namespace Config

open Billing

/-- `InternalGovernanceModel`. -/
def internalGovernanceModel : Text := "codex-auto-review".toList

structure UsagePricing where
  schemaVersion : Int
  fallbackPolicy : PricingFallbackPolicy
  models : Table (Prod.fst : Text × ModelPricing → Text)
  deriving DecidableEq

def UsagePricing.rule? (p : UsagePricing) (model : Text) : Option ModelPricing :=
  (p.models.find? model).map Prod.snd

/-- Apply a function to every price of a context that is present. -/
def TokenPricing.map (f : Text → Text) (price : TokenPricing) : TokenPricing where
  inputUSDPerMillion := f price.inputUSDPerMillion
  cachedInputUSDPerMillion := f price.cachedInputUSDPerMillion
  cacheWriteUSDPerMillion := price.cacheWriteUSDPerMillion.map f
  cacheWrite5mUSDPerMillion := price.cacheWrite5mUSDPerMillion.map f
  cacheWrite1hUSDPerMillion := price.cacheWrite1hUSDPerMillion.map f
  outputUSDPerMillion := f price.outputUSDPerMillion

/-- Apply a function to every price of every published context of a rule. -/
def ModelPricing.mapPrices (rule : ModelPricing) (f : Text → Text) : ModelPricing :=
  { rule with
    serviceTiers := rule.serviceTiers.update (fun _ => true)
      (fun entry =>
        (entry.1, ⟨entry.2.short.map (TokenPricing.map f), entry.2.long.map (TokenPricing.map f)⟩))
      (fun _ => rfl) }

/-- What the digest covers: everything an administrator cannot edit. Of a price
only its presence remains, and encoding a map to JSON sorts its keys. -/
structure ModelPriceStructure where
  schema : Int
  fallback : PricingFallbackPolicy
  cacheWriteMode : Text
  maxInputTokens : Int
  longContextThresholdTokens : Int
  serviceTiers : List (Text × ServiceTierPricing)
  deriving Repr, DecidableEq

def modelPriceStructure (schema : Int) (fallback : PricingFallbackPolicy) (rule : ModelPricing) :
    ModelPriceStructure where
  schema
  fallback
  cacheWriteMode := rule.cacheWriteMode
  maxInputTokens := rule.maxInputTokens
  longContextThresholdTokens := rule.longContextThresholdTokens
  serviceTiers :=
    (rule.mapPrices fun _ => []).serviceTiers.rows.insertionSort fun a b => a.1 ≤ b.1

section Digest

-- The hexadecimal SHA-256 digest of the encoded structure.
variable (structureDigest : ModelPriceStructure → Text)

def UsagePricing.modelPriceStructureID (p : UsagePricing) (model : Text) : Except String Text :=
  match p.rule? model with
  | none => .error ("pricing model " ++ quoted model ++ " is not configured")
  | some rule =>
    let schema := if p.schemaVersion = 0 then pricingSchemaV1 else p.schemaVersion
    .ok (structureDigest (modelPriceStructure schema p.fallbackPolicy rule))

/-- The canonical text of a price that has been validated. -/
def canonicalPrice (value : Text) : Text :=
  (parsePrice value).toOption.getD []

def normalizeModelPrice (schema : Int) (model : Text) (rule : ModelPricing) :
    Except String ModelPricing := do
  if schema = 0 ∨ schema = pricingSchemaV1 then
    validateV1ModelPricing model rule
    return { rule with
      inputUSDPerMillion := canonicalPrice rule.inputUSDPerMillion
      cachedInputUSDPerMillion := canonicalPrice rule.cachedInputUSDPerMillion
      outputUSDPerMillion := canonicalPrice rule.outputUSDPerMillion }
  else if schema = pricingSchemaV2 then
    validateV2ModelPricing model rule
    return rule.mapPrices canonicalPrice
  else throw "unsupported pricing schema"

def UsagePricing.validateModelPriceOverride (p : UsagePricing) (model : Text)
    (rule : ModelPricing) : Except String ModelPricing := do
  if model = internalGovernanceModel then throw "internal pricing is fixed"
  let expected ← p.modelPriceStructureID structureDigest model
  let normalized ← normalizeModelPrice p.schemaVersion model rule
  let candidate := { p with models := ⟨[(model, normalized)], List.nodup_singleton _⟩ }
  let actual ← candidate.modelPriceStructureID structureDigest model
  if expected ≠ actual then throw "model pricing structure is read-only"
  return normalized

end Digest

/-! ## Normalized rules are valid -/

theorem isPrice_canonicalPrice {value : Text} (price : IsPrice value) :
    IsPrice (canonicalPrice value) := by
  obtain ⟨canonical, accepted⟩ := price
  simp only [canonicalPrice, accepted, Except.toOption, Option.getD_some]
  exact ⟨canonical, (parseBounded_unsigned_value accepted).2.2⟩

variable {f : Text → Text} {normalized rule : ModelPricing} {model : Text}

theorem ValidTokenPricing.map {mode : Text} {price : TokenPricing}
    (valid : ValidTokenPricing mode price) (keep : ∀ text, IsPrice text → IsPrice (f text)) :
    ValidTokenPricing mode (price.map f) := by
  have present : ∀ {value : Option Text}, (∃ text, value = some text ∧ IsPrice text) →
      ∃ text, value.map f = some text ∧ IsPrice text := by
    rintro _ ⟨text, rfl, price⟩
    exact ⟨_, rfl, keep text price⟩
  have cacheWrite := valid.cacheWrite
  have cacheWriteTTL := valid.cacheWriteTTL
  refine ⟨keep _ valid.input, keep _ valid.cachedInput, keep _ valid.output, ?_, ?_⟩
  · split at cacheWrite
    · rw [if_pos ‹_›]
      exact present cacheWrite
    · rw [if_neg ‹_›, TokenPricing.map, cacheWrite]
      rfl
  · split at cacheWriteTTL
    · rw [if_pos ‹_›]
      exact ⟨present cacheWriteTTL.1, present cacheWriteTTL.2⟩
    · rw [if_neg ‹_›, TokenPricing.map, cacheWriteTTL.1, cacheWriteTTL.2]
      exact ⟨rfl, rfl⟩

/-- Changing the texts of prices keeps a rule valid if prices stay prices. -/
theorem ValidV2ModelPricing.mapPrices (valid : ValidV2ModelPricing rule)
    (keep : ∀ text, IsPrice text → IsPrice (f text)) : ValidV2ModelPricing (rule.mapPrices f) := by
  refine ⟨valid.noInput, valid.noCachedInput, valid.noOutput, valid.mode, valid.threshold,
    valid.maximum, ?_, ?_⟩
  · simpa [ModelPricing.mapPrices, Table.update] using valid.nonempty
  · intro entry member
    obtain ⟨original, originalMember, rfl⟩ := List.mem_map.mp member
    have tier := valid.tiers original originalMember
    refine ⟨tier.name, ?_, ?_, ?_⟩
    · simpa using tier.published
    · intro price present
      obtain ⟨before, found, rfl⟩ := Option.map_eq_some_iff.mp present
      exact (tier.short before found).map keep
    · intro price present
      obtain ⟨before, found, rfl⟩ := Option.map_eq_some_iff.mp present
      exact (tier.long before found).map keep

theorem normalizeModelPrice_v2
    (accepted : normalizeModelPrice pricingSchemaV2 model rule = .ok normalized) :
    ValidV2ModelPricing normalized := by
  have schema : ¬ (pricingSchemaV2 = 0 ∨ pricingSchemaV2 = pricingSchemaV1) := by decide
  simp only [normalizeModelPrice, if_neg schema, if_true, Except.check_bind_eq_ok,
    validateV2ModelPricing_ok, Except.pure_eq, Except.ok.injEq] at accepted
  obtain ⟨valid, rfl⟩ := accepted
  exact valid.mapPrices fun _ => isPrice_canonicalPrice

theorem normalizeModelPrice_v1
    (accepted : normalizeModelPrice pricingSchemaV1 model rule = .ok normalized) :
    IsPrice normalized.inputUSDPerMillion ∧ IsPrice normalized.cachedInputUSDPerMillion ∧
      IsPrice normalized.outputUSDPerMillion := by
  simp only [normalizeModelPrice, or_true, if_true, Except.check_bind_eq_ok, validateV1ModelPricing,
    Except.throw_eq_error, Except.error_bind, Except.refuse_eq_ok, requirePrice_ok, Except.pure_eq,
    Except.ok.injEq] at accepted
  obtain ⟨⟨-, input, cachedInput, output⟩, rfl⟩ := accepted
  exact ⟨isPrice_canonicalPrice input, isPrice_canonicalPrice cachedInput,
    isPrice_canonicalPrice output⟩

end Config
