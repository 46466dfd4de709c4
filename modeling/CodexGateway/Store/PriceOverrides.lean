import CodexGateway.Config.Dominance
import CodexGateway.Store.Pricing

/-! # What an override of prices changes

An override is compared with the configuration through a digest of everything but the numbers.
What the digest covers decides every branch of `Select`, so an override that is applied changes
prices and nothing else.
-/

namespace Config

open Billing
open Except (bind_eq_ok throw_eq_error error_bind refuse_eq_ok check_bind_eq_ok)

variable {rule rule' : ModelPricing} {digest : ModelPriceStructure → Text} {p : UsagePricing}
  {model : Text}

/-! ## Branches -/

/-- The price that a rule publishes for a tier and a context class. -/
def priceFor (rule : ModelPricing) (tier : Text) (contextClass : ContextClass) :
    Option TokenPricing :=
  (rule.serviceTiers.find? tier).bind fun entry => contextPrice entry.2 contextClass

/-- Two rules with the same limits that publish prices for the same tiers and classes. -/
structure SameShape (rule rule' : ModelPricing) : Prop where
  maximum : rule'.maxInputTokens = rule.maxInputTokens
  threshold : rule'.longContextThresholdTokens = rule.longContextThresholdTokens
  publishes : ∀ tier contextClass,
    priceFor rule' tier contextClass = none ↔ priceFor rule tier contextClass = none

theorem priceFor_mapPrices (f : Text → Text) (tier : Text) (contextClass : ContextClass) :
    priceFor (rule.mapPrices f) tier contextClass =
      (priceFor rule tier contextClass).map (TokenPricing.map f) := by
  simp only [priceFor, ModelPricing.mapPrices, Table.find?_update]
  cases rule.serviceTiers.find? tier with
  | none => rfl
  | some entry => cases contextClass <;> rfl

theorem publishedFor_eq_nil {contextClass : ContextClass} :
    publishedFor rule contextClass = [] ↔ ∀ tier, priceFor rule tier contextClass = none := by
  simp only [publishedFor, List.filterMap_eq_nil_iff, priceFor]
  constructor
  · intro none tier
    cases found : rule.serviceTiers.find? tier with
    | none => rfl
    | some entry => exact none entry (Table.mem_of_find? found)
  · intro none entry member
    have priced := none entry.1
    rwa [Table.find?_of_mem member] at priced

theorem SameShape.of_structure {schema schema' fallback fallback'}
    (same : modelPriceStructure schema fallback rule = modelPriceStructure schema' fallback' rule') :
    SameShape rule rule' := by
  have perm : (rule.mapPrices fun _ => []).serviceTiers.rows.Perm
      (rule'.mapPrices fun _ => []).serviceTiers.rows := by
    have sorted := congrArg ModelPriceStructure.serviceTiers same
    exact (List.perm_insertionSort _ _).symm.trans
      ((List.Perm.of_eq sorted).trans (List.perm_insertionSort _ _))
  refine ⟨(congrArg ModelPriceStructure.maxInputTokens same).symm,
    (congrArg ModelPriceStructure.longContextThresholdTokens same).symm, ?_⟩
  intro tier contextClass
  have lookup : (rule.mapPrices fun _ => []).serviceTiers.find? tier =
      (rule'.mapPrices fun _ => []).serviceTiers.find? tier := by
    ext entry
    simp only [Table.find?_eq_some, perm.mem_iff]
  have blank : priceFor (rule.mapPrices fun _ => []) tier contextClass =
      priceFor (rule'.mapPrices fun _ => []) tier contextClass := by
    rw [priceFor, lookup, priceFor]
  simp only [priceFor_mapPrices] at blank
  rw [← Option.map_eq_none_iff, ← blank, Option.map_eq_none_iff]

namespace SameShape

theorem contextOf_eq (shape : SameShape rule rule') (n : Int) :
    contextOf rule' n = contextOf rule n := by
  rw [contextOf, shape.threshold, contextOf]

theorem configuredFor_eq_none (shape : SameShape rule rule') (tier : Text) (n : Int) :
    configuredFor rule' tier n = none ↔ configuredFor rule tier n = none := by
  simp only [configuredFor, shape.maximum, shape.contextOf_eq]
  split
  · cases knownTier tier with
    | none => exact Iff.rfl
    | some name => exact shape.publishes name (contextOf rule n)
  · exact Iff.rfl

theorem fallbackReasons_eq (shape : SameShape rule rule') (tier : Text) (n : Int) :
    fallbackReasons rule' tier n = fallbackReasons rule tier n := by
  have misses : missesCombination rule' tier n ↔ missesCombination rule tier n := by
    simp only [missesCombination, shape.maximum, shape.configuredFor_eq_none, shape.contextOf_eq,
      publishedFor_eq_nil, shape.publishes]
  simp only [fallbackReasons, misses]

theorem choosePrice {tier : Text} {n : Int} {choice choice' : PriceChoice}
    (shape : SameShape rule rule')
    (chosen : choosePrice rule tier n (contextOf rule n) = some choice)
    (chosen' : Config.choosePrice rule' tier n (contextOf rule' n) = some choice') :
    choice'.pricingServiceTier = choice.pricingServiceTier ∧
      choice'.fallbackReason = choice.fallbackReason := by
  rw [choosePrice_eq] at chosen chosen'
  have same := shape.configuredFor_eq_none tier n
  cases configured : configuredFor rule tier n with
  | none =>
    rw [configured] at chosen
    rw [same.mpr configured] at chosen'
    obtain ⟨price, -, rfl⟩ := Option.map_eq_some_iff.mp chosen
    obtain ⟨price', -, rfl⟩ := Option.map_eq_some_iff.mp chosen'
    exact ⟨rfl, congrArg joinReasons (shape.fallbackReasons_eq tier n)⟩
  | some price =>
    obtain ⟨price', configured'⟩ := Option.ne_none_iff_exists'.mp fun none =>
      Option.some_ne_none price (configured.symm.trans (same.mp none))
    rw [configured] at chosen
    rw [configured'] at chosen'
    cases chosen
    cases chosen'
    exact ⟨rfl, rfl⟩

end SameShape

/-- What `Select` decides besides the prices. -/
def PricingDecision.branch (decision : PricingDecision) : Text × ContextClass × Text :=
  (decision.pricingServiceTier, decision.contextClass, decision.fallbackReason)

/-- `Select` decides alike under both rules, and fails alike. -/
def SameBranches (fallback : PricingFallbackPolicy) (model : Text) (rule rule' : ModelPricing) :
    Prop :=
  ∀ tier n,
    ((⟨pricingSchemaV2, fallback, model, rule'⟩ : PricingSnapshot).select tier n).map
        PricingDecision.branch =
      ((⟨pricingSchemaV2, fallback, model, rule⟩ : PricingSnapshot).select tier n).map
        PricingDecision.branch

theorem SameShape.sameBranches (shape : SameShape rule rule') (valid : ValidV2ModelPricing rule)
    (valid' : ValidV2ModelPricing rule') (fallback : PricingFallbackPolicy) :
    SameBranches fallback model rule rule' := by
  intro tier n
  by_cases negative : n < 0
  · simp only [PricingSnapshot.select, if_pos negative]
  · have nonneg := not_lt.mp negative
    obtain ⟨choice, chosen, price⟩ := choosePrice_valid valid tier n (contextOf rule n)
    obtain ⟨choice', chosen', price'⟩ := choosePrice_valid valid' tier n (contextOf rule' n)
    obtain ⟨sameTier, sameReason⟩ := shape.choosePrice chosen chosen'
    obtain ⟨decision, selects, atTier, inContext, reason, -⟩ :=
      @PricingSnapshot.select_choice ⟨pricingSchemaV2, fallback, model, rule⟩ tier n nonneg choice
        chosen price
    obtain ⟨decision', selects', atTier', inContext', reason', -⟩ :=
      @PricingSnapshot.select_choice ⟨pricingSchemaV2, fallback, model, rule'⟩ tier n nonneg choice'
        chosen' price'
    rw [selects, selects']
    simp only [Except.map, PricingDecision.branch, atTier, atTier', inContext, inContext', reason,
      reason', sameTier, sameReason, shape.contextOf_eq]

/-! ## Overrides -/

def UsagePricing.schema (p : UsagePricing) : Int :=
  if p.schemaVersion = 0 then pricingSchemaV1 else p.schemaVersion

theorem UsagePricing.schema_v2 (version : p.schemaVersion = pricingSchemaV2) :
    p.schema = pricingSchemaV2 := by
  rw [UsagePricing.schema, version]
  decide

theorem modelPriceStructureID_eq_ok {id : Text} :
    p.modelPriceStructureID digest model = .ok id ↔ ∃ rule, p.rule? model = some rule ∧
      id = digest (modelPriceStructure p.schema p.fallbackPolicy rule) := by
  unfold UsagePricing.modelPriceStructureID
  cases p.rule? model with
  | none => simp
  | some rule =>
    simp only [Except.ok.injEq, Option.some.injEq, exists_eq_left']
    exact eq_comm

theorem validateModelPriceOverride_ok {price applied : ModelPricing}
    (ok : p.validateModelPriceOverride digest model price = .ok applied) :
    normalizeModelPrice p.schemaVersion model price = .ok applied ∧
      ∃ rule, p.rule? model = some rule ∧
        digest (modelPriceStructure p.schema p.fallbackPolicy rule) =
          digest (modelPriceStructure p.schema p.fallbackPolicy applied) := by
  simp only [UsagePricing.validateModelPriceOverride, throw_eq_error, error_bind, refuse_eq_ok,
    bind_eq_ok, modelPriceStructureID_eq_ok, not_not] at ok
  obtain ⟨-, expected, ⟨rule, configured, rfl⟩, normalized, normal, actual, ⟨candidate, known, rfl⟩,
    same, ok⟩ := ok
  cases ok
  have only : candidate = applied := by
    simpa [UsagePricing.rule?, Table.find?] using known.symm
  subst only
  exact ⟨normal, rule, configured, same⟩

theorem normalizeModelPrice_canonical {price applied : ModelPricing}
    (ok : normalizeModelPrice pricingSchemaV2 model price = .ok applied) :
    applied = price.mapPrices canonicalPrice := by
  have schema : ¬ (pricingSchemaV2 = 0 ∨ pricingSchemaV2 = pricingSchemaV1) := by decide
  simp only [normalizeModelPrice, if_neg schema, if_true, check_bind_eq_ok] at ok
  exact (Except.ok.inj ok.2).symm

/-- An override that is accepted for a valid rule keeps its branches. -/
theorem validateModelPriceOverride_sameBranches (collisionFree : Function.Injective digest)
    (version : p.schemaVersion = pricingSchemaV2) (configured : p.rule? model = some rule)
    (valid : ValidV2ModelPricing rule) {price applied : ModelPricing}
    (ok : p.validateModelPriceOverride digest model price = .ok applied) :
    applied = price.mapPrices canonicalPrice ∧ ValidV2ModelPricing applied ∧
      SameBranches p.fallbackPolicy model rule applied := by
  obtain ⟨normal, rule₀, configured₀, same⟩ := validateModelPriceOverride_ok ok
  cases configured.symm.trans configured₀
  rw [version] at normal
  have valid' := normalizeModelPrice_v2 normal
  exact ⟨normalizeModelPrice_canonical normal, valid',
    (SameShape.of_structure (collisionFree same)).sameBranches valid valid' _⟩

end Config

namespace Store

open Billing Config
open Except (bind_eq_ok throw_eq_error error_bind refuse_eq_ok)

variable {digest : ModelPriceStructure → Text} {p : UsagePricing} {model : Text}
  {rule price : ModelPricing} {stored : ModelPrice}

/-- The row was written by saving an override under a configuration, which accepted it. -/
structure SavedUnder (digest : ModelPriceStructure → Text) (p : UsagePricing) (stored : ModelPrice)
    (price applied : ModelPricing) : Prop where
  holds : stored.price = .rule price
  accepted : p.validateModelPriceOverride digest stored.model price = .ok applied
  structureID : p.modelPriceStructureID digest stored.model = .ok stored.structureID

/-- A request whose price snapshot is of version 2 and for its model, which an override is stored
for. -/
structure Overridden (db : Db) (params : BillingReservationParams) (snapshot : PricingSnapshot)
    (stored : ModelPrice) (price : ModelPricing) : Prop where
  version : params.pricingRuleVersion = pricingSchemaV2
  parsed : parsePricingSnapshot params.pricingSnapshot = .ok snapshot
  model : snapshot.model = params.model
  editable : params.model ≠ internalGovernanceModel
  found : db.modelPrices.find? params.model = some stored
  holds : stored.price = .rule price

theorem modelPriceValue_rule (version : p.schemaVersion = pricingSchemaV2)
    (configured : p.rule? model = some rule) (valid : ValidV2ModelPricing rule)
    (editable : model ≠ internalGovernanceModel) (overridden : stored.price = .rule price) :
    modelPriceValue digest p model rule stored =
      if stored.structureID ≠ digest (modelPriceStructure pricingSchemaV2 p.fallbackPolicy rule) then
        .ok none
      else (liftConfig "validate stored model price: "
        (p.validateModelPriceOverride digest model price)).map some := by
  have id : p.modelPriceStructureID digest model = .ok
      (digest (modelPriceStructure p.schema p.fallbackPolicy rule)) :=
    modelPriceStructureID_eq_ok.mpr ⟨rule, configured, rfl⟩
  have schema : ¬ (pricingSchemaV2 = 0 ∨ pricingSchemaV2 = pricingSchemaV1) := by decide
  have normal : normalizeModelPrice p.schemaVersion model rule =
      .ok (rule.mapPrices canonicalPrice) := by
    simp only [version, normalizeModelPrice, if_neg schema, if_true,
      validateV2ModelPricing_ok.mpr valid]
    rfl
  unfold modelPriceValue
  rw [id, normal, UsagePricing.schema_v2 version]
  simp only [liftConfig_ok, Except.ok_bind, if_neg editable, overridden, reduceCtorEq, if_false]
  split
  · rfl
  · cases p.validateModelPriceOverride digest model price <;> rfl

/-- The configuration that `snapshotModelPriceTx` makes of a snapshot. -/
def PricingSnapshot.pricing (snapshot : PricingSnapshot) : UsagePricing :=
  ⟨pricingSchemaV2, snapshot.fallbackPolicy, ⟨[(snapshot.model, snapshot.rule)], List.nodup_singleton _⟩⟩

theorem PricingSnapshot.pricing_rule? (snapshot : PricingSnapshot) :
    (PricingSnapshot.pricing snapshot).rule? snapshot.model = some snapshot.rule := by
  simp [PricingSnapshot.pricing, UsagePricing.rule?, Table.find?]

theorem snapshotModelPrice_overridden {db : Db} {params : BillingReservationParams}
    {snapshot : PricingSnapshot} (o : Overridden db params snapshot stored price) :
    snapshotModelPrice digest db params =
      (modelPriceValue digest (PricingSnapshot.pricing snapshot) snapshot.model snapshot.rule
        stored).bind fun
      | none => .error (.conflict "configured model price structure conflicts with stored override")
      | some effective => .ok { params with
          pricingSnapshot := encodeSnapshot { snapshot with
            schemaVersion := pricingSchemaV2, rule := effective } } := by
  unfold snapshotModelPrice PricingSnapshot.pricing
  rw [o.found]
  simp only [o.holds, reduceCtorEq, if_false, if_pos o.version, o.parsed, liftConfig_ok,
    Except.ok_bind, ← o.model]
  rw [o.version]
  rfl

/-- An override that is applied from storage was accepted for the configuration. -/
theorem validate_of_modelPriceValue {applied : ModelPricing}
    (version : p.schemaVersion = pricingSchemaV2) (configured : p.rule? model = some rule)
    (valid : ValidV2ModelPricing rule) (editable : model ≠ internalGovernanceModel)
    (holds : stored.price = .rule price)
    (chosen : modelPriceValue digest p model rule stored = .ok (some applied)) :
    p.validateModelPriceOverride digest model price = .ok applied := by
  rw [modelPriceValue_rule version configured valid editable holds] at chosen
  split at chosen
  · cases chosen
  · obtain ⟨override, lifted, same⟩ := Except.map_eq_ok.mp chosen
    cases same
    exact liftConfig_eq_ok.mp lifted

structure ChangesOnlyPrices (digest : ModelPriceStructure → Text) : Prop where
  /-- Accepted for a configuration, it keeps all branches. -/
  accepted : ∀ (p : UsagePricing) model rule price applied, p.schemaVersion = pricingSchemaV2 →
    p.rule? model = some rule → ValidV2ModelPricing rule →
    p.validateModelPriceOverride digest model price = .ok applied →
      SameBranches p.fallbackPolicy model rule applied
  /-- Applied from storage, it has its canonical prices and keeps all branches. -/
  applied : ∀ (p : UsagePricing) model rule (stored : ModelPrice) price applied,
    p.schemaVersion = pricingSchemaV2 → p.rule? model = some rule → ValidV2ModelPricing rule →
    model ≠ internalGovernanceModel → stored.price = .rule price →
    modelPriceValue digest p model rule stored = .ok (some applied) →
      applied = price.mapPrices canonicalPrice ∧ SameBranches p.fallbackPolicy model rule applied
  /-- The snapshot of a request with an override parses again. -/
  parses : ∀ db params snapshot stored price priced, Overridden db params snapshot stored price →
    snapshotModelPrice digest db params = .ok priced →
      parsePricingSnapshot priced.pricingSnapshot =
          .ok { snapshot with rule := price.mapPrices canonicalPrice } ∧
        SameBranches snapshot.fallbackPolicy snapshot.model snapshot.rule
          (price.mapPrices canonicalPrice)
  /-- An override with another structure is a conflict. -/
  conflicts : ∀ db params snapshot stored price (saved : UsagePricing) applied,
    Overridden db params snapshot stored price →
    SavedUnder digest saved stored price applied →
    modelPriceStructure saved.schema saved.fallbackPolicy applied ≠
      modelPriceStructure pricingSchemaV2 snapshot.fallbackPolicy snapshot.rule →
      modelPriceValue digest (PricingSnapshot.pricing snapshot) snapshot.model snapshot.rule stored =
          .ok none ∧
        snapshotModelPrice digest db params =
          .error (.conflict "configured model price structure conflicts with stored override")

theorem overrides_change_only_prices (collisionFree : Function.Injective digest) :
    ChangesOnlyPrices digest := by
  refine ⟨?_, ?_, ?_, ?_⟩
  · intro p model rule price applied version configured valid ok
    exact (validateModelPriceOverride_sameBranches collisionFree version configured valid ok).2.2
  · intro p model rule stored price applied version configured valid editable holds chosen
    have ok := validate_of_modelPriceValue version configured valid editable holds chosen
    obtain ⟨canonical, -, branches⟩ :=
      validateModelPriceOverride_sameBranches collisionFree version configured valid ok
    exact ⟨canonical, branches⟩
  · intro db params snapshot stored price priced o ok
    obtain ⟨_, _, -, version, pattern, -, fallback, valid⟩ := parsePricingSnapshot_ok.mp o.parsed
    rw [snapshotModelPrice_overridden o] at ok
    obtain ⟨value, chosen, ok⟩ := bind_eq_ok.mp ok
    cases value with
    | none => cases ok
    | some effective =>
      cases ok
      have configured := PricingSnapshot.pricing_rule? snapshot
      have accepted := validate_of_modelPriceValue rfl configured valid (o.model ▸ o.editable)
        o.holds chosen
      obtain ⟨rfl, valid', branches⟩ :=
        validateModelPriceOverride_sameBranches collisionFree rfl configured valid accepted
      refine ⟨?_, branches⟩
      rw [@parsePricingSnapshot_encodeSnapshot { snapshot with
        schemaVersion := pricingSchemaV2, rule := price.mapPrices canonicalPrice } rfl pattern
        fallback valid', ← version]
  · intro db params snapshot stored price saved applied o s differs
    obtain ⟨_, _, -, -, -, -, -, valid⟩ := parsePricingSnapshot_ok.mp o.parsed
    obtain ⟨rule₀, configured₀, id⟩ := modelPriceStructureID_eq_ok.mp s.structureID
    obtain ⟨-, rule₁, configured₁, same⟩ := validateModelPriceOverride_ok s.accepted
    cases configured₀.symm.trans configured₁
    have none : modelPriceValue digest (PricingSnapshot.pricing snapshot) snapshot.model
        snapshot.rule stored = .ok none := by
      rw [modelPriceValue_rule rfl (PricingSnapshot.pricing_rule? snapshot) valid
        (o.model ▸ o.editable) o.holds, if_pos]
      rw [id, same]
      exact fun equal => differs (collisionFree equal)
    exact ⟨none, by rw [snapshotModelPrice_overridden o, none]; rfl⟩

/-- Digests without collisions exist: there are no more structures than texts. -/
theorem exists_collisionFree : ∃ digest : ModelPriceStructure → Text, Function.Injective digest := by
  have : Countable Char :=
    Function.Injective.countable (f := Char.toNat) fun _ _ same => Char.toNat_inj.mp same
  have : Countable TokenPricing := Function.Injective.countable
    (f := fun t => (t.inputUSDPerMillion, t.cachedInputUSDPerMillion, t.cacheWriteUSDPerMillion,
      t.cacheWrite5mUSDPerMillion, t.cacheWrite1hUSDPerMillion, t.outputUSDPerMillion))
    (by rintro ⟨⟩ ⟨⟩ same; simp_all)
  have : Countable ServiceTierPricing := Function.Injective.countable
    (f := fun t => (t.short, t.long)) (by rintro ⟨⟩ ⟨⟩ same; simp_all)
  have : Countable PricingFallbackPolicy := Function.Injective.countable
    (f := fun t => (t.unknownServiceTier, t.missingPriceCombination, t.missingCacheWriteTokens))
    (by rintro ⟨⟩ ⟨⟩ same; simp_all)
  have : Countable ModelPriceStructure := Function.Injective.countable
    (f := fun t => (t.schema, t.fallback, t.cacheWriteMode, t.maxInputTokens,
      t.longContextThresholdTokens, t.serviceTiers))
    (by rintro ⟨⟩ ⟨⟩ same; simp_all)
  obtain ⟨code, injective⟩ := Countable.exists_injective_nat ModelPriceStructure
  exact ⟨fun s => List.replicate (code s) '0', fun a b same =>
    injective (by simpa using congrArg List.length same)⟩

/-- Raising every price of a rule with two tiers to 7.50 is accepted, and keeps its branches. -/
theorem overrides_change_only_prices_twoTiers : ∃ digest applied,
    ChangesOnlyPrices digest ∧
    (PricingSnapshot.pricing twoTiers).validateModelPriceOverride digest twoTiers.model
      (twoTiers.rule.mapPrices fun _ => "7.50".toList) = .ok applied ∧
    SameBranches twoTiers.fallbackPolicy twoTiers.model twoTiers.rule applied := by
  obtain ⟨digest, collisionFree⟩ := exists_collisionFree
  have only := overrides_change_only_prices collisionFree
  have valid : ValidV2ModelPricing twoTiers.rule :=
    (@validateV2ModelPricing_ok [] _).mp (by decide +kernel)
  have normal : normalizeModelPrice pricingSchemaV2 twoTiers.model
      (twoTiers.rule.mapPrices fun _ => "7.50".toList) =
        .ok (twoTiers.rule.mapPrices fun _ => "7.5".toList) := by decide +kernel
  have same : modelPriceStructure pricingSchemaV2 twoTiers.fallbackPolicy twoTiers.rule =
      modelPriceStructure pricingSchemaV2 twoTiers.fallbackPolicy
        (twoTiers.rule.mapPrices fun _ => "7.5".toList) := by decide +kernel
  have accepted : (PricingSnapshot.pricing twoTiers).validateModelPriceOverride digest
      twoTiers.model (twoTiers.rule.mapPrices fun _ => "7.50".toList) =
        .ok (twoTiers.rule.mapPrices fun _ => "7.5".toList) := by
    simp only [UsagePricing.validateModelPriceOverride, throw_eq_error, error_bind, refuse_eq_ok,
      bind_eq_ok, modelPriceStructureID_eq_ok, not_not]
    exact ⟨by decide, _, ⟨_, PricingSnapshot.pricing_rule? twoTiers, rfl⟩, _, normal, _,
      ⟨_, rfl, rfl⟩, congrArg digest same, rfl⟩
  exact ⟨digest, _, only, accepted, only.accepted _ _ _ _ _ rfl
    (PricingSnapshot.pricing_rule? twoTiers) valid accepted⟩

end Store
