import CodexGateway.Billing.Canonical
import CodexGateway.Config.Pricing

/-! # Fallback prices dominate

Where no configured price applies, each component of the decision is the largest published one.
The maxima are taken on texts, padded so that their order is that of the numbers.
-/

namespace Config

open Billing

variable {left right : Text} {rule : ModelPricing}

/-! ## The order of prices -/

theorem decimalSortKey_joinGroups {integer fraction : Text}
    (whole : ∀ c ∈ integer, c.isDigit = true) :
    decimalSortKey (joinGroups integer fraction) =
      (List.replicate (18 - integer.length) '0' ++ integer) ++
        (fraction ++ List.replicate (12 - fraction.length) ' ') := by
  have before : ∀ c ∈ integer, (c != '.') = true := by
    intro c member
    rw [bne_iff_ne]
    rintro rfl
    exact absurd (whole _ member) (by decide)
  unfold joinGroups
  split
  · rename_i empty
    simp [decimalSortKey, List.takeWhile_eq_self_iff.mpr before,
      List.dropWhile_eq_nil_iff.mpr before, empty]
  · simp [decimalSortKey, List.takeWhile_append_of_pos before, List.dropWhile_append_of_pos before]

theorem getLast?_trimRight (text : Text) : (Text.trimRight '0' text).getLast? ≠ some '0' := by
  intro zero
  unfold Text.trimRight at zero
  have nonempty : text.rdropWhile (· == '0') ≠ [] := by
    intro empty
    rw [empty] at zero
    cases zero
  have last := List.rdropWhile_last_not (· == '0') text nonempty
  rw [List.getLast?_eq_some_getLast nonempty, Option.some.injEq] at zero
  simp [zero] at last

/-- A canonical price as its groups, and the units that it denotes. -/
theorem parsePrice_groups {value canonical : Text} (accepted : parsePrice value = .ok canonical) :
    ∃ integer fraction, canonical = joinGroups integer fraction ∧
      (∀ c ∈ integer, c.isDigit = true) ∧ (∀ c ∈ fraction, c.isDigit = true) ∧
      fraction.getLast? ≠ some '0' ∧ integer.length ≤ 18 ∧ fraction.length ≤ 12 ∧
      ratOf value = ((Nat.ofDigitChars 10 integer 0 * 10 ^ 12 +
        Nat.ofDigitChars 10 fraction 0 * 10 ^ (12 - fraction.length) : Nat) : ℚ) / 10 ^ 12 := by
  obtain ⟨-, same, again⟩ := parseBounded_unsigned_value accepted
  obtain ⟨integer, fraction, -, whole, part, -, -, text, -⟩ := parseBounded_unsigned_ok.mp accepted
  have first := integerDigits_significantInteger whole.2.1
  have digits : ∀ c ∈ Text.trimRight '0' fraction, c.isDigit = true := fun c member =>
    part c ((List.rdropWhile_prefix (· == '0') fraction).subset member)
  obtain ⟨integer', fraction', groups, whole', part', short, fits, -, -⟩ :=
    parseBounded_unsigned_ok.mp again
  -- the groups of the canonical text are the ones the parser found in it
  have unique : (significantInteger integer, Text.trimRight '0' fraction) = (integer', fraction') := by
    have left := decimalPattern_joinGroups first digits
    have right := decimalPattern_joinGroups whole' part'
    rw [← groups, text, canonicalText, left, Option.some.injEq] at right
    exact right
  obtain ⟨rfl, rfl⟩ := Prod.mk.injEq _ _ _ _ ▸ unique
  refine ⟨_, _, text, first.2.1, digits, getLast?_trimRight fraction, short, fits, ?_⟩
  have value := value?_joinGroups first.1 first.2.1 digits
  have power : (10 : Nat) ^ 12 = 10 ^ (Text.trimRight '0' fraction).length *
      10 ^ (12 - (Text.trimRight '0' fraction).length) := by
    rw [← pow_add, Nat.add_sub_cancel' (show (Text.trimRight '0' fraction).length ≤ 12 from fits)]
  have joined : Nat.ofDigitChars 10 (significantInteger integer ++ Text.trimRight '0' fraction) 0 =
      Nat.ofDigitChars 10 (significantInteger integer) 0 * 10 ^ (Text.trimRight '0' fraction).length +
        Nat.ofDigitChars 10 (Text.trimRight '0' fraction) 0 := by
    rw [Nat.ofDigitChars_append, Nat.ofDigitChars_eq_ofDigitChars_zero, Nat.mul_comm]
  have number : Nat.ofDigitChars 10 (significantInteger integer) 0 * 10 ^ 12 +
      Nat.ofDigitChars 10 (Text.trimRight '0' fraction) 0 *
        10 ^ (12 - (Text.trimRight '0' fraction).length) =
      Nat.ofDigitChars 10 (significantInteger integer ++ Text.trimRight '0' fraction) 0 *
        10 ^ (12 - (Text.trimRight '0' fraction).length) := by
    rw [power, joined, Nat.add_mul, Nat.mul_assoc]
  have shift : (10 : ℚ) ^ (12 - (Text.trimRight '0' fraction).length) ≠ 0 :=
    pow_ne_zero _ (by norm_num)
  have powers : (10 : ℚ) ^ 12 = 10 ^ (Text.trimRight '0' fraction).length *
      10 ^ (12 - (Text.trimRight '0' fraction).length) := by exact_mod_cast power
  rw [← same, text, canonicalText, ratOf, value, Option.getD_some, number, powers, Nat.cast_mul,
    Nat.cast_pow, Nat.cast_ofNat, mul_div_mul_right _ _ shift]

/-- The padded texts of canonical prices are ordered as the prices. -/
theorem decimalSortKey_lt {l r : Text} (leftOk : parsePrice left = .ok l)
    (rightOk : parsePrice right = .ok r) :
    decimalSortKey l < decimalSortKey r ↔ ratOf left < ratOf right := by
  obtain ⟨integer, fraction, rfl, whole, part, trimmed, short, fits, value⟩ :=
    parsePrice_groups leftOk
  obtain ⟨integer', fraction', rfl, whole', part', trimmed', short', fits', value'⟩ :=
    parsePrice_groups rightOk
  have padded : ∀ {digits : Text}, (∀ c ∈ digits, c.isDigit = true) →
      ∀ c ∈ List.replicate (18 - digits.length) '0' ++ digits, c.isDigit = true := by
    intro digits whole c member
    rcases List.mem_append.mp member with zero | old
    · rw [List.eq_of_mem_replicate zero]
      rfl
    · exact whole c old
  have number : ∀ (digits : Text),
      Nat.ofDigitChars 10 (List.replicate (18 - digits.length) '0' ++ digits) 0 =
        Nat.ofDigitChars 10 digits 0 := by
    intro digits
    rw [Nat.ofDigitChars_append, Nat.ofDigitChars_replicate_zero, Nat.mul_zero]
  have inside : ∀ {digits : Text}, (∀ c ∈ digits, c.isDigit = true) → digits.length ≤ 12 →
      Nat.ofDigitChars 10 digits 0 * 10 ^ (12 - digits.length) < 10 ^ 12 := by
    intro digits whole short
    have bound := Decimal.ofDigitChars_lt whole 0
    rw [Nat.zero_add, Nat.one_mul] at bound
    calc
      _ < 10 ^ digits.length * 10 ^ (12 - digits.length) :=
        Nat.mul_lt_mul_of_pos_right bound (by positivity)
      _ = _ := by rw [← pow_add, Nat.add_sub_cancel' short]
  have order := Decimal.append_lt_append (padded whole) (padded whole')
    (by simp only [List.length_append, List.length_replicate]; omega)
    (inside part fits) (inside part' fits')
    (Decimal.blanks_lt_blanks part part' trimmed trimmed' fits fits')
  rw [number, number] at order
  rw [decimalSortKey_joinGroups whole, decimalSortKey_joinGroups whole', order, value, value',
    div_lt_div_iff_of_pos_right (by positivity), Nat.cast_lt]

theorem maxDecimal_spec (l : IsPrice left) (r : IsPrice right) :
    parsePrice (maxDecimal left right) = .ok (maxDecimal left right) ∧
      ratOf (maxDecimal left right) = max (ratOf left) (ratOf right) := by
  obtain ⟨left', leftOk⟩ := l
  obtain ⟨right', rightOk⟩ := r
  obtain ⟨-, sameLeft, againLeft⟩ := parseBounded_unsigned_value leftOk
  obtain ⟨-, sameRight, againRight⟩ := parseBounded_unsigned_value rightOk
  simp only [maxDecimal, leftOk, rightOk, Except.toOption, Option.getD_some,
    decimalSortKey_lt leftOk rightOk]
  split
  · rename_i less
    exact ⟨againRight, by rw [sameRight, max_eq_right less.le]⟩
  · rename_i least
    exact ⟨againLeft, by rw [sameLeft, max_eq_left (not_lt.mp least)]⟩

theorem canonicalPrice_unique (l : parsePrice left = .ok left) (r : parsePrice right = .ok right)
    (same : ratOf left = ratOf right) : left = right := by
  obtain ⟨number, denoted, -⟩ := value?_parseBounded l
  obtain ⟨number', denoted', -⟩ := value?_parseBounded r
  rw [ratOf, ratOf, denoted, denoted', Option.getD_some, Option.getD_some] at same
  exact (parseBounded_unique l r).mp (by rw [denoted, denoted', same])

/-! ## Maxima of components -/

/-- A price that no listed one exceeds and that one of them equals. -/
def IsLargest (values : List Text) (largest : Text) : Prop :=
  (∃ value ∈ values, ratOf value = ratOf largest) ∧ ∀ value ∈ values, ratOf value ≤ ratOf largest

variable {values : List Text} {mode : Text} {price : TokenPricing} {s : PricingSnapshot}
  {rule' : ModelPricing}

theorem foldl_maxDecimal {start : Text}
    (canonical : parsePrice start = .ok start) (prices : ∀ value ∈ values, IsPrice value) :
    parsePrice (values.foldl maxDecimal start) = .ok (values.foldl maxDecimal start) ∧
      IsLargest (start :: values) (values.foldl maxDecimal start) := by
  induction values generalizing start with
  | nil => exact ⟨canonical, ⟨start, List.mem_cons_self, rfl⟩, by simp⟩
  | cons value values ih =>
    obtain ⟨text, larger⟩ := maxDecimal_spec ⟨start, canonical⟩ (prices value List.mem_cons_self)
    obtain ⟨again, ⟨attained, listed, same⟩, bound⟩ := ih text
      fun other member => prices other (List.mem_cons_of_mem _ member)
    refine ⟨again, ?_, ?_⟩
    · rcases List.mem_cons.mp listed with rfl | later
      · rcases max_choice (ratOf start) (ratOf value) with first | second
        · exact ⟨start, List.mem_cons_self, first.symm.trans (larger.symm.trans same)⟩
        · exact ⟨value, List.mem_cons_of_mem _ List.mem_cons_self,
            second.symm.trans (larger.symm.trans same)⟩
      · exact ⟨attained, List.mem_cons_of_mem _ (List.mem_cons_of_mem _ later), same⟩
    · have top := bound _ List.mem_cons_self
      rw [larger] at top
      intro other member
      rcases List.mem_cons.mp member with rfl | member
      · exact (le_max_left _ _).trans top
      rcases List.mem_cons.mp member with rfl | member
      · exact (le_max_right _ _).trans top
      · exact bound other (List.mem_cons_of_mem _ member)

theorem ratOf_zero : ratOf ['0'] = 0 := by
  rw [ratOf, show Decimal.value? ['0'] = some 0 by decide +kernel, Option.getD_some]

theorem isLargest_foldl (prices : ∀ value ∈ values, IsPrice value)
    (nonempty : values ≠ []) : IsLargest values (values.foldl maxDecimal ['0']) := by
  obtain ⟨-, ⟨attained, listed, same⟩, bound⟩ :=
    @foldl_maxDecimal values ['0'] (by decide) prices
  refine ⟨?_, fun value member => bound value (List.mem_cons_of_mem _ member)⟩
  rcases List.mem_cons.mp listed with rfl | member
  · -- nothing exceeds zero, so every price is zero
    obtain ⟨value, member⟩ := List.exists_mem_of_ne_nil _ nonempty
    have top := bound value (List.mem_cons_of_mem _ member)
    rw [← same, ratOf_zero] at top ⊢
    exact ⟨value, member, le_antisymm top (prices value member).nonneg⟩
  · exact ⟨attained, member, same⟩

theorem foldl_maxDecimal_perm {values' : List Text} (perm : values.Perm values')
    (prices : ∀ value ∈ values, IsPrice value) :
    values.foldl maxDecimal ['0'] = values'.foldl maxDecimal ['0'] := by
  have prices' : ∀ value ∈ values', IsPrice value := fun value member =>
    prices value (perm.mem_iff.mpr member)
  obtain ⟨text, ⟨top, listed, same⟩, bound⟩ :=
    @foldl_maxDecimal values ['0'] (by decide) prices
  obtain ⟨text', ⟨top', listed', same'⟩, bound'⟩ :=
    @foldl_maxDecimal values' ['0'] (by decide) prices'
  have both := perm.cons ['0']
  refine canonicalPrice_unique text text' (le_antisymm ?_ ?_)
  · rw [← same]
    exact bound' top (both.mem_iff.mp listed)
  · rw [← same']
    exact bound top' (both.mem_iff.mpr listed')

inductive Component where
  | input
  | cachedInput
  | output
  | cacheWrite
  | cacheWrite5m
  | cacheWrite1h
  deriving DecidableEq, Repr

def TokenPricing.component (price : TokenPricing) : Component → Option Text
  | .input => some price.inputUSDPerMillion
  | .cachedInput => some price.cachedInputUSDPerMillion
  | .output => some price.outputUSDPerMillion
  | .cacheWrite => price.cacheWriteUSDPerMillion
  | .cacheWrite5m => price.cacheWrite5mUSDPerMillion
  | .cacheWrite1h => price.cacheWrite1hUSDPerMillion

def ComponentMaxima.component (maxima : ComponentMaxima) : Component → Text
  | .input => maxima.input
  | .cachedInput => maxima.cachedInput
  | .output => maxima.output
  | .cacheWrite => maxima.cacheWrite
  | .cacheWrite5m => maxima.cacheWrite5m
  | .cacheWrite1h => maxima.cacheWrite1h

def PricingDecision.component (decision : PricingDecision) : Component → Text
  | .input => decision.inputUSDPerMillion
  | .cachedInput => decision.cachedInputUSDPerMillion
  | .output => decision.outputUSDPerMillion
  | .cacheWrite => decision.cacheWriteUSDPerMillion
  | .cacheWrite5m => decision.cacheWrite5mUSDPerMillion
  | .cacheWrite1h => decision.cacheWrite1hUSDPerMillion

/-- The components that are published under a cache write mode. -/
def publishes (cacheWriteMode : Text) : Component → Bool
  | .input | .cachedInput | .output => true
  | .cacheWrite => cacheWriteMode = cacheWriteSeparate
  | .cacheWrite5m | .cacheWrite1h => cacheWriteMode = cacheWriteSeparateByTTL

theorem ComponentMaxima.include_component (maxima : ComponentMaxima) (price : TokenPricing)
    (component : Component) :
    (maxima.include price).component component =
      maxOptionalDecimal (maxima.component component) (price.component component) := by
  cases component <;> rfl

theorem foldl_include_component (values : List TokenPricing) (maxima : ComponentMaxima)
    (component : Component) :
    (values.foldl ComponentMaxima.include maxima).component component =
      (values.filterMap (·.component component)).foldl maxDecimal (maxima.component component) := by
  induction values generalizing maxima with
  | nil => rfl
  | cons price values ih =>
    rw [List.foldl_cons, ih, ComponentMaxima.include_component]
    cases published : price.component component with
    | none => simp [published, maxOptionalDecimal]
    | some value => simp [published, maxOptionalDecimal]

theorem ComponentMaxima.zero_component (component : Component) :
    ComponentMaxima.zero.component component = ['0'] := by
  cases component <;> rfl

theorem componentMaximum_component {values : List TokenPricing}
    (found : componentMaximum values mode = some price) (component : Component) :
    price.component component = if publishes mode component then
      some ((values.filterMap (·.component component)).foldl maxDecimal ['0']) else none := by
  have folded := foldl_include_component values .zero component
  rw [ComponentMaxima.zero_component] at folded
  rw [← folded]
  unfold componentMaximum at found
  split at found
  · cases found
  · cases found
    cases component <;> simp only [TokenPricing.component, publishes, if_true] <;>
      simp only [ComponentMaxima.component, decide_eq_true_eq]

theorem TokenPricing.ext_component {price' : TokenPricing}
    (same : ∀ component, price.component component = price'.component component) :
    price = price' := by
  obtain ⟨input, cached, write, write5m, write1h, output⟩ := price
  obtain ⟨input', cached', write', write5m', write1h', output'⟩ := price'
  have input := same .input
  have cached := same .cachedInput
  have output := same .output
  have write := same .cacheWrite
  have write5m := same .cacheWrite5m
  have write1h := same .cacheWrite1h
  simp_all [TokenPricing.component]

/-- A valid price has the components of its mode, and they are prices. -/
theorem ValidTokenPricing.component {mode : Text} {price : TokenPricing}
    (valid : ValidTokenPricing mode price) (component : Component) :
    if publishes mode component then
      ∃ value, price.component component = some value ∧ IsPrice value
    else price.component component = none := by
  have cacheWrite := valid.cacheWrite
  have cacheWriteTTL := valid.cacheWriteTTL
  cases component with
  | input => exact ⟨_, rfl, valid.input⟩
  | cachedInput => exact ⟨_, rfl, valid.cachedInput⟩
  | output => exact ⟨_, rfl, valid.output⟩
  | cacheWrite => simpa [publishes, TokenPricing.component] using cacheWrite
  | cacheWrite5m =>
    simp only [publishes, decide_eq_true_eq, TokenPricing.component]
    split at cacheWriteTTL
    · rename_i lifetimes
      simpa [lifetimes] using cacheWriteTTL.1
    · rename_i other
      simpa [other] using cacheWriteTTL.1
  | cacheWrite1h =>
    simp only [publishes, decide_eq_true_eq, TokenPricing.component]
    split at cacheWriteTTL
    · rename_i lifetimes
      simpa [lifetimes] using cacheWriteTTL.2
    · rename_i other
      simpa [other] using cacheWriteTTL.2

theorem isPrice_of_component {values : List TokenPricing}
    (valid : ∀ price ∈ values, ValidTokenPricing mode price) (component : Component) :
    ∀ value ∈ values.filterMap (·.component component), IsPrice value := by
  intro value member
  obtain ⟨price, listed, published⟩ := List.mem_filterMap.mp member
  have known := (valid price listed).component component
  split at known
  · obtain ⟨value', same, priced⟩ := known
    cases published.symm.trans same
    exact priced
  · cases published.symm.trans known

theorem componentMaximum_perm {values values' : List TokenPricing}
    (perm : values.Perm values') (valid : ∀ price ∈ values, ValidTokenPricing mode price) :
    componentMaximum values mode = componentMaximum values' mode := by
  cases found : componentMaximum values mode with
  | none =>
    unfold componentMaximum at found ⊢
    split at found
    · rename_i empty
      rw [if_pos (perm.length_eq ▸ empty)]
    · cases found
  | some price =>
    cases found' : componentMaximum values' mode with
    | none =>
      unfold componentMaximum at found found'
      split at found'
      · rename_i empty
        rw [if_pos (perm.length_eq.trans empty)] at found
        cases found
      · cases found'
    | some price' =>
      congr 1
      apply TokenPricing.ext_component
      intro component
      rw [componentMaximum_component found, componentMaximum_component found',
        foldl_maxDecimal_perm (perm.filterMap _) (isPrice_of_component valid component)]

/-! ## Selection -/

def contextOf (rule : ModelPricing) (inputTokens : Int) : ContextClass :=
  if inputTokens > rule.longContextThresholdTokens then .long else .short

def knownTier (actualServiceTier : Text) : Option Text :=
  if Text.trimSpace actualServiceTier = [] then none else normalizeServiceTier actualServiceTier

/-- How a reported tier may be spelled, apart from its case and blanks around it. -/
def tierSpellings : List (Text × Text) :=
  [("default".toList, pricingTierStandard), ("standard".toList, pricingTierStandard),
    ("flex".toList, pricingTierFlex), ("priority".toList, pricingTierFast),
    ("fast".toList, pricingTierFast)]

theorem knownTier_eq_some {value tier : Text} : knownTier value = some tier ↔
    (Text.toLower (Text.trimSpace value), tier) ∈ tierSpellings := by
  unfold knownTier
  split
  · rename_i blank
    simp [blank, Text.toLower, tierSpellings]
  · unfold normalizeServiceTier
    generalize Text.toLower (Text.trimSpace value) = lowered
    constructor
    · intro known
      dsimp only at known
      split_ifs at known with standard flex fast <;> cases known
      · rcases standard with rfl | rfl <;> simp [tierSpellings]
      · simp [tierSpellings, flex]
      · rcases fast with rfl | rfl <;> simp [tierSpellings]
    · intro listed
      simp only [tierSpellings, List.mem_cons, Prod.mk.injEq, List.not_mem_nil, or_false] at listed
      rcases listed with ⟨rfl, rfl⟩ | ⟨rfl, rfl⟩ | ⟨rfl, rfl⟩ | ⟨rfl, rfl⟩ | ⟨rfl, rfl⟩ <;>
        simp

def publishedFor (rule : ModelPricing) (contextClass : ContextClass) : List TokenPricing :=
  rule.serviceTiers.rows.filterMap fun tier => contextPrice tier.2 contextClass

def published (rule : ModelPricing) : List TokenPricing :=
  rule.serviceTiers.rows.flatMap fun tier => tier.2.short.toList ++ tier.2.long.toList

/-- The price that is configured for the tier and the context class, within the maximum. -/
def configuredFor (rule : ModelPricing) (actualServiceTier : Text) (inputTokens : Int) :
    Option TokenPricing :=
  if inputTokens ≤ rule.maxInputTokens then
    (knownTier actualServiceTier).bind fun tier => (rule.serviceTiers.find? tier).bind fun entry =>
      contextPrice entry.2 (contextOf rule inputTokens)
  else none

/-- The prices that a fallback stands for. -/
def replacedPrices (rule : ModelPricing) (actualServiceTier : Text) (inputTokens : Int) :
    List TokenPricing :=
  if inputTokens ≤ rule.maxInputTokens ∧ knownTier actualServiceTier = none ∧
      publishedFor rule (contextOf rule inputTokens) ≠ [] then
    publishedFor rule (contextOf rule inputTokens)
  else published rule

/-- No price is published for what was asked: the input is too long, the tier has no price for
the context class, or there is no tier and nothing is published for the class. -/
def missesCombination (rule : ModelPricing) (actualServiceTier : Text) (inputTokens : Int) : Prop :=
  rule.maxInputTokens < inputTokens ∨
    (knownTier actualServiceTier ≠ none ∧ configuredFor rule actualServiceTier inputTokens = none) ∨
    (knownTier actualServiceTier = none ∧ publishedFor rule (contextOf rule inputTokens) = [])

instance (rule : ModelPricing) (actualServiceTier : Text) (inputTokens : Int) :
    Decidable (missesCombination rule actualServiceTier inputTokens) :=
  inferInstanceAs (Decidable (_ ∨ _ ∨ _))

/-- The conditions that applied, in order. -/
def fallbackReasons (rule : ModelPricing) (actualServiceTier : Text) (inputTokens : Int) :
    List Text :=
  (if missesCombination rule actualServiceTier inputTokens then [fallbackMissingPriceCombination]
    else []) ++
  (if Text.trimSpace actualServiceTier = [] then [fallbackMissingServiceTier]
    else if normalizeServiceTier actualServiceTier = none then [fallbackUnknownServiceTier]
    else [])

def joinReasons (reasons : List Text) : Text := [','].intercalate reasons

theorem appendFallbackReason_combination :
    appendFallbackReason [] fallbackMissingPriceCombination =
        joinReasons [fallbackMissingPriceCombination] ∧
      appendFallbackReason (joinReasons [fallbackMissingPriceCombination])
        fallbackMissingPriceCombination = joinReasons [fallbackMissingPriceCombination] := by
  decide +kernel

/-- A reason of the tier, and what a missing combination adds before it or after it. -/
theorem appendFallbackReason_tier {reason : Text}
    (known : reason = fallbackMissingServiceTier ∨ reason = fallbackUnknownServiceTier) :
    appendFallbackReason [] reason = joinReasons [reason] ∧
      appendFallbackReason (joinReasons [fallbackMissingPriceCombination]) reason =
        joinReasons [fallbackMissingPriceCombination, reason] ∧
      appendFallbackReason (joinReasons [reason]) fallbackMissingPriceCombination =
        joinReasons [fallbackMissingPriceCombination, reason] ∧
      appendFallbackReason (joinReasons [fallbackMissingPriceCombination, reason])
        fallbackMissingPriceCombination = joinReasons [fallbackMissingPriceCombination, reason] := by
  rcases known with rfl | rfl <;> decide +kernel

theorem fallbackPrice_eq (rule : ModelPricing) (contextClass : ContextClass)
    (exceeded tierKnown : Bool) (reason : Text) :
    fallbackPrice rule contextClass exceeded tierKnown reason =
      if exceeded = false ∧ tierKnown = false ∧ publishedFor rule contextClass ≠ [] then
        (componentMaximum (publishedFor rule contextClass) rule.cacheWriteMode).map (·, reason)
      else (componentMaximum (published rule) rule.cacheWriteMode).map
        (·, appendFallbackReason reason fallbackMissingPriceCombination) := by
  have context : maxPublishedForContext rule contextClass =
      componentMaximum (publishedFor rule contextClass) rule.cacheWriteMode := rfl
  have whole : maxPublished rule = componentMaximum (published rule) rule.cacheWriteMode := rfl
  unfold fallbackPrice
  rw [context, whole]
  by_cases none : publishedFor rule contextClass = []
  · simp [none]
    cases exceeded <;> cases tierKnown <;> simp [componentMaximum]
  · obtain ⟨price, found⟩ : ∃ price,
        componentMaximum (publishedFor rule contextClass) rule.cacheWriteMode = some price := by
      simp [componentMaximum, none]
    cases exceeded <;> cases tierKnown <;> simp [none, found]

/-- The choice of `Select`: the configured price without a reason, or the largest of the prices
that it stands for with the reasons that applied. -/
theorem choosePrice_eq (rule : ModelPricing) (actualServiceTier : Text) (inputTokens : Int) :
    choosePrice rule actualServiceTier inputTokens (contextOf rule inputTokens) =
      match configuredFor rule actualServiceTier inputTokens with
      | some price => some ⟨(knownTier actualServiceTier).getD [], price, []⟩
      | none => (componentMaximum (replacedPrices rule actualServiceTier inputTokens)
          rule.cacheWriteMode).map fun price => ⟨pricingTierMaxPublished, price,
            joinReasons (fallbackReasons rule actualServiceTier inputTokens)⟩ := by
  obtain ⟨alone, again⟩ := appendFallbackReason_combination
  cases tier : knownTier actualServiceTier with
  | some name =>
    have nonblank : Text.trimSpace actualServiceTier ≠ [] := by
      intro blank
      rw [knownTier, if_pos blank] at tier
      cases tier
    have normalized : normalizeServiceTier actualServiceTier = some name := by
      rwa [knownTier, if_neg nonblank] at tier
    by_cases exceeded : rule.maxInputTokens < inputTokens
    · have none : configuredFor rule actualServiceTier inputTokens = .none :=
        if_neg (not_le.mpr exceeded)
      simp [choosePrice, nonblank, normalized, exceeded, none, fallbackPrice_eq, replacedPrices,
        tier, fallbackReasons, missesCombination, alone, again, Option.map_map,
        Function.comp_def]
    · cases priced : (rule.serviceTiers.find? name).bind fun entry =>
          contextPrice entry.2 (contextOf rule inputTokens) with
      | some price =>
        have some : configuredFor rule actualServiceTier inputTokens = .some price := by
          rw [configuredFor, if_pos (not_lt.mp exceeded), tier]
          exact priced
        simp [choosePrice, nonblank, normalized, exceeded, some, configuredPrice, priced]
      | none =>
        have none : configuredFor rule actualServiceTier inputTokens = .none := by
          rw [configuredFor, if_pos (not_lt.mp exceeded), tier]
          exact priced
        simp [choosePrice, nonblank, normalized, exceeded, none, configuredPrice, priced,
          fallbackPrice_eq, replacedPrices, tier, fallbackReasons, missesCombination, alone,
          again, Option.map_map, Function.comp_def]
  | none =>
    have none : configuredFor rule actualServiceTier inputTokens = .none := by
      rw [configuredFor, tier]
      split <;> rfl
    -- the two ways to name no tier differ only in their reason
    obtain ⟨reason, known, blank, reasons⟩ : ∃ reason,
        (reason = fallbackMissingServiceTier ∨ reason = fallbackUnknownServiceTier) ∧
        (∀ held, (if Text.trimSpace actualServiceTier = [] then
            appendFallbackReason held fallbackMissingServiceTier
          else appendFallbackReason held fallbackUnknownServiceTier) =
            appendFallbackReason held reason) ∧
        (if Text.trimSpace actualServiceTier = [] then [fallbackMissingServiceTier]
          else if normalizeServiceTier actualServiceTier = .none then [fallbackUnknownServiceTier]
          else []) = [reason] := by
      by_cases blank : Text.trimSpace actualServiceTier = []
      · exact ⟨_, .inl rfl, by simp [blank], by simp [blank]⟩
      · rw [knownTier, if_neg blank] at tier
        exact ⟨_, .inr rfl, by simp [blank], by simp [blank, tier]⟩
    obtain ⟨first, second, before, after⟩ := appendFallbackReason_tier known
    have named : (if Text.trimSpace actualServiceTier = [] then .none
        else normalizeServiceTier actualServiceTier) = .none := tier
    simp only [choosePrice, decide_eq_true_eq, named, if_true, blank, none, fallbackPrice_eq,
      replacedPrices, tier, fallbackReasons, missesCombination, reasons, gt_iff_lt]
    by_cases exceeded : rule.maxInputTokens < inputTokens
    · simp [exceeded, not_le.mpr exceeded, alone, second, after, Option.map_map, Function.comp_def]
    · by_cases empty : publishedFor rule (contextOf rule inputTokens) = []
      · simp [exceeded, empty, first, before, Option.map_map, Function.comp_def]
      · simp [exceeded, not_lt.mp exceeded, empty, first, Option.map_map, Function.comp_def]

/-! ## The decision -/

theorem PricingSnapshot.select_choice {actualServiceTier : Text}
    {inputTokens : Int} (nonneg : 0 ≤ inputTokens) {choice : PriceChoice}
    (chosen : choosePrice s.rule actualServiceTier inputTokens (contextOf s.rule inputTokens) =
      some choice)
    (valid : ValidTokenPricing s.rule.cacheWriteMode choice.selected) :
    ∃ decision, s.select actualServiceTier inputTokens = .ok decision ∧
      decision.pricingServiceTier = choice.pricingServiceTier ∧
      decision.contextClass = contextOf s.rule inputTokens ∧
      decision.fallbackReason = choice.fallbackReason ∧
      (∀ component value, choice.selected.component component = some value →
        decision.component component = value) ∧
      (s.rule.cacheWriteMode = cacheWriteSeparateByTTL →
        ratOf decision.cacheWriteUSDPerMillion =
          max (ratOf decision.cacheWrite5mUSDPerMillion)
            (ratOf decision.cacheWrite1hUSDPerMillion)) := by
  obtain ⟨tier, selected, reason⟩ := choice
  have lifetimes := valid.cacheWriteTTL
  have aggregate := valid.cacheWrite
  have chosen' : choosePrice s.rule actualServiceTier inputTokens
      (if inputTokens > s.rule.longContextThresholdTokens then .long else .short) =
      some ⟨tier, selected, reason⟩ := chosen
  unfold PricingSnapshot.select
  simp only [if_neg (not_lt.mpr nonneg), chosen']
  by_cases mode : s.rule.cacheWriteMode = cacheWriteSeparateByTTL
  · have apart : ¬ cacheWriteSeparateByTTL = cacheWriteSeparate := by decide
    rw [if_pos mode] at lifetimes
    rw [mode, if_neg apart] at aggregate
    obtain ⟨⟨cacheWrite5m, some5m, price5m⟩, cacheWrite1h, some1h, price1h⟩ := lifetimes
    simp only [if_pos mode]
    dsimp only at some5m some1h aggregate
    simp only [some5m, some1h]
    refine ⟨_, rfl, rfl, rfl, rfl, ?_, fun _ => (maxDecimal_spec price5m price1h).2⟩
    intro component value published
    cases component <;>
      simp_all [TokenPricing.component, PricingDecision.component]
  · simp only [if_neg mode]
    rw [if_neg mode] at lifetimes
    refine ⟨_, rfl, rfl, rfl, rfl, ?_, fun same => absurd same mode⟩
    intro component value published
    cases component <;>
      simp_all [TokenPricing.component, PricingDecision.component]

theorem published_valid (valid : ValidV2ModelPricing rule) :
    ∀ price ∈ published rule, ValidTokenPricing rule.cacheWriteMode price := by
  intro price member
  obtain ⟨entry, entryMember, inside⟩ := List.mem_flatMap.mp member
  rcases List.mem_append.mp inside with short | long
  · exact (valid.tiers entry entryMember).short price (Option.mem_toList.mp short)
  · exact (valid.tiers entry entryMember).long price (Option.mem_toList.mp long)

theorem publishedFor_valid (valid : ValidV2ModelPricing rule) (contextClass : ContextClass) :
    ∀ price ∈ publishedFor rule contextClass, ValidTokenPricing rule.cacheWriteMode price := by
  intro price member
  obtain ⟨entry, entryMember, entryPrice⟩ := List.mem_filterMap.mp member
  exact contextPrice_valid valid entryMember entryPrice

theorem replacedPrices_valid (valid : ValidV2ModelPricing rule) (actualServiceTier : Text)
    (inputTokens : Int) :
    ∀ price ∈ replacedPrices rule actualServiceTier inputTokens,
      ValidTokenPricing rule.cacheWriteMode price := by
  unfold replacedPrices
  split
  · exact publishedFor_valid valid _
  · exact published_valid valid

/-- A rule that differs only in the order of its tiers. -/
structure SameTiers (rule rule' : ModelPricing) : Prop where
  tiers : rule.serviceTiers.rows.Perm rule'.serviceTiers.rows
  others : rule' = { rule with serviceTiers := rule'.serviceTiers }

theorem choosePrice_sameTiers (valid : ValidV2ModelPricing rule)
    (same : SameTiers rule rule') (actualServiceTier : Text) (inputTokens : Int) :
    choosePrice rule actualServiceTier inputTokens (contextOf rule inputTokens) =
      choosePrice rule' actualServiceTier inputTokens (contextOf rule' inputTokens) := by
  obtain ⟨perm, others⟩ := same
  have lookup : ∀ tier, rule.serviceTiers.find? tier = rule'.serviceTiers.find? tier := by
    intro tier
    ext entry
    simp only [Table.find?_eq_some, perm.mem_iff]
  generalize rule'.serviceTiers = tiers at *
  subst others
  have context : ∀ contextClass, (publishedFor rule contextClass).Perm
      (publishedFor { rule with serviceTiers := tiers } contextClass) := fun contextClass =>
    perm.filterMap _
  have whole : (published rule).Perm (published { rule with serviceTiers := tiers }) :=
    perm.flatMap_right _
  have empty : ∀ contextClass, publishedFor rule contextClass = [] ↔
      publishedFor { rule with serviceTiers := tiers } contextClass = [] := fun contextClass =>
    ⟨fun none => List.nil_perm.mp (none ▸ context contextClass),
      fun none => List.perm_nil.mp (none ▸ context contextClass)⟩
  have contexts : contextOf { rule with serviceTiers := tiers } inputTokens =
      contextOf rule inputTokens := rfl
  have configured : configuredFor { rule with serviceTiers := tiers } actualServiceTier inputTokens =
      configuredFor rule actualServiceTier inputTokens := by
    simp only [configuredFor, ← lookup, contexts]
  have replaced : componentMaximum (replacedPrices rule actualServiceTier inputTokens)
      rule.cacheWriteMode = componentMaximum
        (replacedPrices { rule with serviceTiers := tiers } actualServiceTier inputTokens)
        rule.cacheWriteMode := by
    refine componentMaximum_perm ?_ (replacedPrices_valid valid actualServiceTier inputTokens)
    simp only [replacedPrices, contexts, ne_eq, ← empty]
    split
    · exact context _
    · exact whole
  have reasons : fallbackReasons { rule with serviceTiers := tiers } actualServiceTier inputTokens =
      fallbackReasons rule actualServiceTier inputTokens := by
    have misses : missesCombination { rule with serviceTiers := tiers } actualServiceTier
        inputTokens ↔ missesCombination rule actualServiceTier inputTokens := by
      simp only [missesCombination, configured, contexts, empty]
    simp only [fallbackReasons, misses]
  rw [choosePrice_eq, choosePrice_eq, configured, replaced, reasons]

theorem PricingSnapshot.select_sameTiers (valid : ValidV2ModelPricing s.rule)
    (same : SameTiers s.rule rule') (actualServiceTier : Text) (inputTokens : Int) :
    PricingSnapshot.select { s with rule := rule' } actualServiceTier inputTokens =
      s.select actualServiceTier inputTokens := by
  have choice := choosePrice_sameTiers valid same actualServiceTier inputTokens
  rw [same.others] at choice ⊢
  simp only [contextOf] at choice
  simp only [PricingSnapshot.select, choice]

/-- A configured price is returned as it is and without a reason. Otherwise each component is the
largest of the prices that it stands for, and the reasons are the conditions that applied. The
order of the tiers does not matter, and by lifetime the aggregate write price is the larger one. -/
theorem PricingSnapshot.select_dominates {s : PricingSnapshot}
    (valid : ValidV2ModelPricing s.rule) (actualServiceTier : Text) {inputTokens : Int}
    (nonneg : 0 ≤ inputTokens) :
    ∃ decision, s.select actualServiceTier inputTokens = .ok decision ∧
      decision.contextClass = contextOf s.rule inputTokens ∧
      (∀ price, configuredFor s.rule actualServiceTier inputTokens = some price →
        decision.fallbackReason = [] ∧
        knownTier actualServiceTier = some decision.pricingServiceTier ∧
        ∀ component value, price.component component = some value →
          decision.component component = value) ∧
      (configuredFor s.rule actualServiceTier inputTokens = none →
        decision.fallbackReason =
          joinReasons (fallbackReasons s.rule actualServiceTier inputTokens) ∧
        decision.pricingServiceTier = pricingTierMaxPublished ∧
        ∀ component, publishes s.rule.cacheWriteMode component = true →
          IsLargest ((replacedPrices s.rule actualServiceTier inputTokens).filterMap
            (·.component component)) (decision.component component)) ∧
      (s.rule.cacheWriteMode = cacheWriteSeparateByTTL →
        ratOf decision.cacheWriteUSDPerMillion =
          max (ratOf decision.cacheWrite5mUSDPerMillion)
            (ratOf decision.cacheWrite1hUSDPerMillion)) ∧
      ∀ rule', SameTiers s.rule rule' →
        PricingSnapshot.select { s with rule := rule' } actualServiceTier inputTokens =
          .ok decision := by
  obtain ⟨choice, chosen, priced⟩ := choosePrice_valid valid actualServiceTier inputTokens
    (contextOf s.rule inputTokens)
  obtain ⟨decision, selected, tier, context, reason, components, aggregate⟩ :=
    PricingSnapshot.select_choice nonneg chosen priced
  refine ⟨decision, selected, context, ?_, ?_, aggregate, ?_⟩
  · intro price configured
    rw [choosePrice_eq, configured] at chosen
    cases chosen
    refine ⟨reason, ?_, components⟩
    cases known : knownTier actualServiceTier with
    | none => simp [configuredFor, known] at configured
    | some name => simpa [known] using tier.symm
  · intro unconfigured
    rw [choosePrice_eq, unconfigured] at chosen
    obtain ⟨price, found, rfl⟩ := Option.map_eq_some_iff.mp chosen
    have prices := replacedPrices_valid valid actualServiceTier inputTokens
    have some : replacedPrices s.rule actualServiceTier inputTokens ≠ [] := by
      intro empty
      simp [empty, componentMaximum] at found
    refine ⟨reason, tier, fun component listed => ?_⟩
    have largest := componentMaximum_component found component
    rw [if_pos listed] at largest
    rw [components component _ largest]
    refine isLargest_foldl (isPrice_of_component prices component) ?_
    obtain ⟨first, member⟩ := List.exists_mem_of_ne_nil _ some
    have value := (prices first member).component component
    rw [if_pos listed] at value
    obtain ⟨text, present, -⟩ := value
    exact List.ne_nil_of_mem (List.mem_filterMap.mpr ⟨first, member, present⟩)
  · intro rule' same
    rw [← selected]
    exact PricingSnapshot.select_sameTiers valid same actualServiceTier inputTokens

/-- Two tiers with spellings that differ: the larger output price has fewer digits. -/
def twoTiers : PricingSnapshot where
  schemaVersion := pricingSchemaV2
  fallbackPolicy := ⟨[], [], []⟩
  model := []
  rule := {
    inputUSDPerMillion := []
    cachedInputUSDPerMillion := []
    outputUSDPerMillion := []
    cacheWriteMode := cacheWriteIncludedInInput
    maxInputTokens := 400
    longContextThresholdTokens := 200
    serviceTiers := ⟨[(pricingTierStandard, ⟨some ⟨['2'], ['1'], none, none, none, "9.50".toList⟩,
        none⟩),
      (pricingTierFast, ⟨some ⟨"1.75".toList, ['1'], none, none, none, "10".toList⟩, none⟩)],
      by decide⟩ }

theorem twoTiers_select_dominates :
    (∃ decision, twoTiers.select " Priority".toList 100 = .ok decision ∧
      decision.fallbackReason = [] ∧ decision.pricingServiceTier = pricingTierFast ∧
      decision.outputUSDPerMillion = "10".toList) ∧
    ∃ decision, twoTiers.select "priority-9".toList 100 = .ok decision ∧
      decision.fallbackReason = fallbackUnknownServiceTier ∧
      IsLargest ["9.50".toList, "10".toList] decision.outputUSDPerMillion := by
  have valid : ValidV2ModelPricing twoTiers.rule :=
    (@validateV2ModelPricing_ok [] _).mp (by decide +kernel)
  have nonneg : (0 : Int) ≤ 100 := by decide
  constructor
  · obtain ⟨decision, selected, -, configured, -⟩ :=
      PricingSnapshot.select_dominates valid " Priority".toList nonneg
    obtain ⟨reason, tier, prices⟩ :=
      configured ⟨"1.75".toList, ['1'], none, none, none, "10".toList⟩ (by decide +kernel)
    have fast : knownTier " Priority".toList = some pricingTierFast :=
      knownTier_eq_some.mpr (by decide +kernel)
    exact ⟨decision, selected, reason, Option.some.inj (tier.symm.trans fast), prices .output _ rfl⟩
  · obtain ⟨decision, selected, -, -, replaced, -⟩ :=
      PricingSnapshot.select_dominates valid "priority-9".toList nonneg
    obtain ⟨reason, -, largest⟩ := replaced (by decide +kernel)
    exact ⟨decision, selected, reason.trans (by decide +kernel), largest .output rfl⟩

end Config
