import CodexGateway.Store.Reservation

/-! # Cache writes that nobody reported

An upstream may leave out how many input tokens it wrote to the cache, or only for how long it
keeps them. Settlement then bills all uncached input as written, at the larger of the two
lifetimes' prices. Whether that is never less than what a report would have cost is decided by
one comparison: nothing in the validation of a price table keeps the price of a cache write from
lying below the price of ordinary input.
-/

namespace Store

open Billing Config

/-- Two rows of one request: they differ at most in what they say about cache writes. -/
structure AlikeButWrites (usage reported : UsageRequest) : Prop where
  input : reported.metrics.val.inputTokens = usage.metrics.val.inputTokens
  cached : reported.metrics.val.cachedInputTokens = usage.metrics.val.cachedInputTokens
  output : reported.metrics.val.outputTokens = usage.metrics.val.outputTokens
  tier : reported.actualServiceTier = usage.actualServiceTier

/-- One row leaves out what the other tells: the number of cache writes, or only its split. -/
def LeavesOut (usage reported : UsageMetrics) : Prop :=
  usage.cacheWriteTokensPresent = false ∧ reported.cacheWriteTokensPresent = true ∨
    usage.cacheWriteTokensPresent = true ∧ usage.cacheWriteTTLPresent = false ∧
      reported.cacheWriteTTLPresent = true ∧ reported.cacheWriteTokens = usage.cacheWriteTokens

/-- Where settlement arrives at a cost, every report would have cost at most as much. -/
def ChargedConservatively (reservation : BillingReservation) (usage : UsageRequest) : Prop :=
  ∀ reported, AlikeButWrites usage reported → LeavesOut usage.metrics.val reported.metrics.val →
    ∀ priced, priceUsage reservation usage = .ok priced →
      ∃ priced', priceUsage reservation reported = .ok priced' ∧
        ratOf priced'.cost ≤ ratOf priced.cost

/-- The price of a token that counts as written for want of a report. -/
def unreportedWritePrice (mode : Text) (decision : PricingDecision) : ℚ :=
  if mode = cacheWriteSeparateByTTL then
    max (ratOf decision.cacheWrite5mUSDPerMillion) (ratOf decision.cacheWrite1hUSDPerMillion)
  else ratOf decision.cacheWriteUSDPerMillion

/-- The units that a request costs if all its uncached input has one price. -/
def unitsAt (reservation : BillingReservation) (metrics : UsageMetrics)
    (decision : PricingDecision) (price : ℚ) : Int :=
  Decimal.roundHalfAway
    (((metrics.inputTokens - metrics.cachedInputTokens : Int) * price +
      metrics.cachedInputTokens * ratOf decision.cachedInputUSDPerMillion +
      metrics.outputTokens * ratOf decision.outputUSDPerMillion) / 1000000 *
        ratOf (numericText reservation.pricingMultiplier) * 10 ^ amountScale)

/-- The price of ordinary input is too little above the price of a write to be seen in the stored
amount, or the amount is out of range either way. -/
def RoundedAway (reservation : BillingReservation) (metrics : UsageMetrics)
    (decision : PricingDecision) (mode : Text) : Prop :=
  unitsAt reservation metrics decision (ratOf decision.inputUSDPerMillion) ≤
      unitsAt reservation metrics decision (unreportedWritePrice mode decision) ∨
    10 ^ (amountScale + maxIntegerDigits) ≤
      unitsAt reservation metrics decision (unreportedWritePrice mode decision)

def selectionTier (reservation : BillingReservation) (usage : UsageRequest) : Text :=
  if reservation.billingMode = .internalZero then "default".toList
  else usage.actualServiceTier.getD []

/-! ## What uncached input costs -/

section Uncached

variable {mode : Text} {decision : PricingDecision} {metrics reported : UsageMetrics}

theorem uncachedInputCost_of_missing
    (separate : mode = cacheWriteSeparate ∨ mode = cacheWriteSeparateByTTL)
    (valid : metrics.Valid) (missing : metrics.cacheWriteTokensPresent = false) :
    uncachedInputCost mode metrics decision =
      (metrics.inputTokens - metrics.cachedInputTokens : Int) *
        unreportedWritePrice mode decision := by
  have writes : billedCacheWrites mode metrics =
      metrics.inputTokens - metrics.cachedInputTokens := if_pos ⟨separate, missing⟩
  have unsplit : metrics.cacheWriteTTLPresent = false := by
    by_contra split
    have reported := (valid.ttl_total (by simpa using split)).1
    simp [missing] at reported
  rcases separate with rfl | rfl
  · simp [uncachedInputCost, unreportedWritePrice, writes,
      show cacheWriteSeparate ≠ cacheWriteSeparateByTTL by decide]
  · simp [uncachedInputCost, unreportedWritePrice, writes, unsplit]

theorem uncachedInputCost_of_included (included : mode = cacheWriteIncludedInInput) :
    uncachedInputCost mode metrics decision =
      (metrics.inputTokens - metrics.cachedInputTokens : Int) *
        ratOf decision.inputUSDPerMillion := by
  subst included
  rw [uncachedInputCost, if_neg (by decide), if_neg (by decide)]

/-- A reported count costs at most what its tokens cost at the prices of ordinary input and of
unreported writes. -/
theorem uncachedInputCost_le_of_reported
    (separate : mode = cacheWriteSeparate ∨ mode = cacheWriteSeparateByTTL)
    (valid : metrics.Valid) (reports : metrics.cacheWriteTokensPresent = true) :
    uncachedInputCost mode metrics decision ≤
      (metrics.inputTokens - metrics.cachedInputTokens - metrics.cacheWriteTokens : Int) *
          ratOf decision.inputUSDPerMillion +
        metrics.cacheWriteTokens * unreportedWritePrice mode decision := by
  have writes : billedCacheWrites mode metrics = metrics.cacheWriteTokens :=
    if_neg (by simp [reports])
  rcases separate with rfl | rfl
  · rw [uncachedInputCost, if_neg (by decide), if_pos rfl, writes, unreportedWritePrice,
      if_neg (by decide)]
  · rw [uncachedInputCost, if_pos rfl, writes, unreportedWritePrice, if_pos rfl]
    gcongr
    split
    · rename_i split
      obtain ⟨fiveMinutes, oneHour⟩ := valid.ttl_nonneg
      have total : (metrics.cacheWriteTokens : ℚ) =
          metrics.cacheWrite5mTokens + metrics.cacheWrite1hTokens := by
        exact_mod_cast (valid.ttl_total split).2.symm
      rw [total, add_mul]
      have first : (0 : ℚ) ≤ metrics.cacheWrite5mTokens := by exact_mod_cast fiveMinutes
      have second : (0 : ℚ) ≤ metrics.cacheWrite1hTokens := by exact_mod_cast oneHour
      gcongr
      · exact le_max_left _ _
      · exact le_max_right _ _
    · exact le_rfl

theorem uncachedInputCost_of_unsplit
    (separate : mode = cacheWriteSeparate ∨ mode = cacheWriteSeparateByTTL)
    (reports : metrics.cacheWriteTokensPresent = true)
    (unsplit : metrics.cacheWriteTTLPresent = false) :
    uncachedInputCost mode metrics decision =
      (metrics.inputTokens - metrics.cachedInputTokens - metrics.cacheWriteTokens : Int) *
          ratOf decision.inputUSDPerMillion +
        metrics.cacheWriteTokens * unreportedWritePrice mode decision := by
  have writes : billedCacheWrites mode metrics = metrics.cacheWriteTokens :=
    if_neg (by simp [reports])
  rcases separate with rfl | rfl
  · rw [uncachedInputCost, if_neg (by decide), if_pos rfl, writes, unreportedWritePrice,
      if_neg (by decide)]
  · rw [uncachedInputCost, if_pos rfl, writes, unreportedWritePrice, if_pos rfl,
      if_neg (by simp [unsplit])]

end Uncached

/-! ## What settlement charges -/

section Charged

variable {reservation : BillingReservation} {snapshot : PricingSnapshot}
  {usage reported : UsageRequest} {decision : PricingDecision}

theorem exactCost_of_selected (version : reservation.pricingRuleVersion = pricingSchemaV2)
    (parsed : parsePricingSnapshot reservation.pricingSnapshot = .ok snapshot)
    (selected : snapshot.select (selectionTier reservation usage)
      usage.metrics.val.inputTokens = .ok decision) :
    exactCost reservation usage =
      (uncachedInputCost snapshot.rule.cacheWriteMode usage.metrics.val decision +
        usage.metrics.val.cachedInputTokens * ratOf decision.cachedInputUSDPerMillion +
        usage.metrics.val.outputTokens * ratOf decision.outputUSDPerMillion) / 1000000 *
        ratOf (numericText reservation.pricingMultiplier) := by
  have newer : reservation.pricingRuleVersion ≠ pricingSchemaV1 := by
    rw [version]
    decide
  rw [selectionTier] at selected
  simp only [exactCost, if_neg newer, parsed, selected]

theorem roundedCost_eq_unitsAt (version : reservation.pricingRuleVersion = pricingSchemaV2)
    (parsed : parsePricingSnapshot reservation.pricingSnapshot = .ok snapshot)
    (selected : snapshot.select (selectionTier reservation usage)
      usage.metrics.val.inputTokens = .ok decision) {price : ℚ}
    (uniform : uncachedInputCost snapshot.rule.cacheWriteMode usage.metrics.val decision =
      (usage.metrics.val.inputTokens - usage.metrics.val.cachedInputTokens : Int) * price) :
    roundedCost reservation usage = unitsAt reservation usage.metrics.val decision price := by
  rw [roundedCost, exactCost_of_selected version parsed selected, uniform, unitsAt]

theorem roundedCost_le (bound : PricingBound reservation)
    (version : reservation.pricingRuleVersion = pricingSchemaV2)
    (parsed : parsePricingSnapshot reservation.pricingSnapshot = .ok snapshot)
    (selected : snapshot.select (selectionTier reservation usage)
      usage.metrics.val.inputTokens = .ok decision) (same : AlikeButWrites usage reported) {most : ℚ}
    (le : uncachedInputCost snapshot.rule.cacheWriteMode reported.metrics.val decision ≤ most) :
    roundedCost reservation reported ≤ Decimal.roundHalfAway
      ((most + usage.metrics.val.cachedInputTokens * ratOf decision.cachedInputUSDPerMillion +
        usage.metrics.val.outputTokens * ratOf decision.outputUSDPerMillion) / 1000000 *
        ratOf (numericText reservation.pricingMultiplier) * 10 ^ amountScale) := by
  have selected' : snapshot.select (selectionTier reservation reported)
      reported.metrics.val.inputTokens = .ok decision := by
    rw [← selected, selectionTier, selectionTier, same.tier, same.input]
  have multiplier : 0 ≤ ratOf (numericText reservation.pricingMultiplier) := by
    rw [ratOf_numericText]
    exact div_nonneg (Int.cast_nonneg bound.multiplier.1.le) (by positivity)
  rw [roundedCost, exactCost_of_selected version parsed selected', same.cached, same.output]
  apply Decimal.roundHalfAway_mono
  gcongr

theorem ratOf_numericText_le {units units' : Int} :
    ratOf (numericText units) ≤ ratOf (numericText units') ↔ units ≤ units' := by
  rw [ratOf_numericText, ratOf_numericText, div_le_div_iff_of_pos_right (by positivity),
    Int.cast_le]

/-- Settled costs compare as their units do, up to the range of a stored amount. -/
theorem PricingBound.charged_le_iff (bound : PricingBound reservation) :
    (∀ priced, priceUsage reservation usage = .ok priced →
      ∃ priced', priceUsage reservation reported = .ok priced' ∧
        ratOf priced'.cost ≤ ratOf priced.cost) ↔
      (roundedCost reservation usage < 10 ^ (amountScale + maxIntegerDigits) →
        roundedCost reservation reported ≤ roundedCost reservation usage) := by
  have cost := bound.priceUsage_cost usage
  have cost' := bound.priceUsage_cost reported
  constructor
  · intro ordered inside
    rw [if_pos inside] at cost
    obtain ⟨priced, settled, text⟩ := Except.map_eq_ok.mp cost
    obtain ⟨priced', settled', le⟩ := ordered priced settled
    rw [settled', Except.map] at cost'
    split at cost'
    · injection cost' with text'
      rw [text, text'] at le
      exact ratOf_numericText_le.mp le
    · cases cost'
  · intro ordered priced settled
    rw [settled, Except.map] at cost
    split at cost
    · rename_i inside
      have le := ordered inside
      rw [if_pos (lt_of_le_of_lt le inside)] at cost'
      obtain ⟨priced', settled', text'⟩ := Except.map_eq_ok.mp cost'
      refine ⟨priced', settled', ?_⟩
      injection cost with text
      rw [text, text']
      exact ratOf_numericText_le.mpr le
    · cases cost

/-- A table whose prices are validated has one of three modes; two of them bill cache writes. -/
theorem separate_of_not_included {rule : ModelPricing} (valid : ValidV2ModelPricing rule)
    (billed : rule.cacheWriteMode ≠ cacheWriteIncludedInInput) :
    rule.cacheWriteMode = cacheWriteSeparate ∨ rule.cacheWriteMode = cacheWriteSeparateByTTL := by
  rcases valid.mode with separate | byTTL | included
  · exact Or.inl separate
  · exact Or.inr byTTL
  · exact absurd included billed

/-- The row of a request that reports that nothing was written to the cache. -/
def UsageRequest.withoutWrites (usage : UsageRequest) : UsageRequest :=
  { usage with
    metrics := ⟨{ usage.metrics.val with
        cacheWriteTokens := 0
        cacheWriteTokensPresent := true
        cacheWrite5mTokens := 0
        cacheWrite1hTokens := 0
        cacheWriteTTLPresent := true },
      { cached_nonneg := usage.metrics.property.cached_nonneg
        cacheWrite_nonneg := le_rfl
        output_nonneg := usage.metrics.property.output_nonneg
        reasoning_nonneg := usage.metrics.property.reasoning_nonneg
        within_input := by
          have within := usage.metrics.property.within_input
          have writes := usage.metrics.property.cacheWrite_nonneg
          dsimp only
          omega
        ttl_nonneg := ⟨le_rfl, le_rfl⟩
        ttl_total := fun _ => ⟨rfl, rfl⟩
        ttl_absent := fun absent => by cases absent }⟩ }

theorem uncachedInputCost_withoutWrites (valid : ValidV2ModelPricing snapshot.rule) :
    uncachedInputCost snapshot.rule.cacheWriteMode usage.withoutWrites.metrics.val decision =
      (usage.metrics.val.inputTokens - usage.metrics.val.cachedInputTokens : Int) *
        ratOf decision.inputUSDPerMillion := by
  have writes : billedCacheWrites snapshot.rule.cacheWriteMode
      usage.withoutWrites.metrics.val = 0 :=
    if_neg (by simp [UsageRequest.withoutWrites])
  rcases valid.mode with mode | mode | mode
  · rw [uncachedInputCost, writes, mode, if_neg (by decide), if_pos rfl]
    simp [UsageRequest.withoutWrites]
  · rw [uncachedInputCost, writes, mode, if_pos rfl]
    simp [UsageRequest.withoutWrites]
  · exact uncachedInputCost_of_included mode

/-- A missing split alone is billed at the larger price, so no split would have cost more. -/
theorem uncachedInputCost_le_of_unsplit (valid : ValidV2ModelPricing snapshot.rule)
    (same : AlikeButWrites usage reported)
    (reports : usage.metrics.val.cacheWriteTokensPresent = true)
    (unsplit : usage.metrics.val.cacheWriteTTLPresent = false)
    (split : reported.metrics.val.cacheWriteTTLPresent = true)
    (count : reported.metrics.val.cacheWriteTokens = usage.metrics.val.cacheWriteTokens) :
    uncachedInputCost snapshot.rule.cacheWriteMode reported.metrics.val decision ≤
      uncachedInputCost snapshot.rule.cacheWriteMode usage.metrics.val decision := by
  by_cases included : snapshot.rule.cacheWriteMode = cacheWriteIncludedInInput
  · rw [uncachedInputCost_of_included included, uncachedInputCost_of_included included, same.input,
      same.cached]
  · have separate := separate_of_not_included valid included
    rw [uncachedInputCost_of_unsplit separate reports unsplit, ← same.input, ← same.cached, ← count]
    exact uncachedInputCost_le_of_reported separate reported.metrics.property
      (reported.metrics.property.ttl_total split).1

/-- No count costs more than all uncached input at the larger of the two prices. -/
theorem uncachedInputCost_le_max (separate : snapshot.rule.cacheWriteMode = cacheWriteSeparate ∨
      snapshot.rule.cacheWriteMode = cacheWriteSeparateByTTL) (same : AlikeButWrites usage reported)
    (reports : reported.metrics.val.cacheWriteTokensPresent = true) :
    uncachedInputCost snapshot.rule.cacheWriteMode reported.metrics.val decision ≤
      (usage.metrics.val.inputTokens - usage.metrics.val.cachedInputTokens : Int) *
        max (ratOf decision.inputUSDPerMillion)
          (unreportedWritePrice snapshot.rule.cacheWriteMode decision) := by
  have within := reported.metrics.property.within_input
  have ordinary : (0 : ℚ) ≤ ((reported.metrics.val.inputTokens -
      reported.metrics.val.cachedInputTokens - reported.metrics.val.cacheWriteTokens : Int) : ℚ) :=
    Int.cast_nonneg (by omega)
  have written : (0 : ℚ) ≤ reported.metrics.val.cacheWriteTokens :=
    Int.cast_nonneg reported.metrics.property.cacheWrite_nonneg
  refine (uncachedInputCost_le_of_reported separate reported.metrics.property reports).trans ?_
  rw [← same.input, ← same.cached]
  calc _ ≤ ((reported.metrics.val.inputTokens - reported.metrics.val.cachedInputTokens -
          reported.metrics.val.cacheWriteTokens : Int) : ℚ) *
            max (ratOf decision.inputUSDPerMillion)
              (unreportedWritePrice snapshot.rule.cacheWriteMode decision) +
          reported.metrics.val.cacheWriteTokens * max (ratOf decision.inputUSDPerMillion)
              (unreportedWritePrice snapshot.rule.cacheWriteMode decision) := by
        gcongr
        · exact le_max_left _ _
        · exact le_max_right _ _
    _ = _ := by
        push_cast
        ring

/-- Unreported cache writes are charged conservatively exactly if the count is there after all,
writes are not billed, nothing was uncached, or a write costs no less than ordinary input; what
is left are rows where the difference is lost in the one rounding or in the range of an amount. -/
theorem chargedConservatively_iff (bound : PricingBound reservation)
    (version : reservation.pricingRuleVersion = pricingSchemaV2)
    (parsed : parsePricingSnapshot reservation.pricingSnapshot = .ok snapshot)
    (selected : snapshot.select (selectionTier reservation usage)
      usage.metrics.val.inputTokens = .ok decision) :
    ChargedConservatively reservation usage ↔
      usage.metrics.val.cacheWriteTokensPresent = true ∨
        snapshot.rule.cacheWriteMode = cacheWriteIncludedInInput ∨
        usage.metrics.val.cachedInputTokens = usage.metrics.val.inputTokens ∨
        ratOf decision.inputUSDPerMillion ≤
          unreportedWritePrice snapshot.rule.cacheWriteMode decision ∨
        RoundedAway reservation usage.metrics.val decision snapshot.rule.cacheWriteMode := by
  obtain ⟨-, -, -, -, -, -, -, valid⟩ := parsePricingSnapshot_ok.mp parsed
  simp only [ChargedConservatively, bound.charged_le_iff]
  by_cases reports : usage.metrics.val.cacheWriteTokensPresent = true
  · refine iff_of_true (fun reported same leaves _ => ?_) (Or.inl reports)
    rcases leaves with ⟨missing, -⟩ | ⟨-, unsplit, split, count⟩
    · simp [reports] at missing
    · refine (roundedCost_le bound version parsed selected same
        (uncachedInputCost_le_of_unsplit valid same reports unsplit split count)).trans ?_
      rw [roundedCost, exactCost_of_selected version parsed selected]
  have missing : usage.metrics.val.cacheWriteTokensPresent = false := by simpa using reports
  by_cases included : snapshot.rule.cacheWriteMode = cacheWriteIncludedInInput
  · refine iff_of_true (fun reported same _ _ => ?_) (Or.inr (Or.inl included))
    have alike : uncachedInputCost snapshot.rule.cacheWriteMode reported.metrics.val decision =
        uncachedInputCost snapshot.rule.cacheWriteMode usage.metrics.val decision := by
      rw [uncachedInputCost_of_included included, uncachedInputCost_of_included included,
        same.input, same.cached]
    refine (roundedCost_le bound version parsed selected same alike.le).trans ?_
    rw [roundedCost, exactCost_of_selected version parsed selected]
  have separate := separate_of_not_included valid included
  have charged := roundedCost_eq_unitsAt version parsed selected
    (uncachedInputCost_of_missing separate usage.metrics.property missing)
  constructor
  · intro conservative
    -- The report of no writes at all decides.
    have most := conservative usage.withoutWrites ⟨rfl, rfl, rfl, rfl⟩ (Or.inl ⟨missing, rfl⟩)
    have free := @roundedCost_eq_unitsAt reservation snapshot usage.withoutWrites decision version
      parsed selected _ (uncachedInputCost_withoutWrites valid)
    rw [charged, free] at most
    refine Or.inr (Or.inr (Or.inr (Or.inr ?_)))
    by_cases inside : unitsAt reservation usage.metrics.val decision
        (unreportedWritePrice snapshot.rule.cacheWriteMode decision) <
          10 ^ (amountScale + maxIntegerDigits)
    · exact Or.inl (most inside)
    · exact Or.inr (not_lt.mp inside)
  · intro covered reported same leaves inside
    have present : reported.metrics.val.cacheWriteTokensPresent = true := by
      rcases leaves with ⟨-, present⟩ | ⟨present, -⟩
      · exact present
      · exact absurd present reports
    have most : roundedCost reservation reported ≤ unitsAt reservation usage.metrics.val decision
        (max (ratOf decision.inputUSDPerMillion)
          (unreportedWritePrice snapshot.rule.cacheWriteMode decision)) :=
      roundedCost_le bound version parsed selected same
        (uncachedInputCost_le_max separate same present)
    rw [charged] at inside ⊢
    refine most.trans ?_
    rcases covered with count | mode | cached | dearer | rounded
    · exact absurd count reports
    · exact absurd mode included
    · simp [unitsAt, cached]
    · rw [max_eq_right dearer]
    · rcases le_total (ratOf decision.inputUSDPerMillion)
        (unreportedWritePrice snapshot.rule.cacheWriteMode decision) with dearer | cheaper
      · rw [max_eq_right dearer]
      · rw [max_eq_left cheaper]
        exact rounded.resolve_right (not_le.mpr inside)

end Charged

def boundTo (snapshot : PricingSnapshot) : BillingReservation :=
  { sampleReservation with
    pricingRuleVersion := pricingSchemaV2
    pricingSnapshot := .document ⟨snapshot, v2Fields⟩ }

theorem boundTo_pricingBound {snapshot : PricingSnapshot}
    (parsed : parsePricingSnapshot (.document ⟨snapshot, v2Fields⟩) = .ok snapshot) :
    PricingBound (boundTo snapshot) where
  multiplier := show 0 < sampleReservation.pricingMultiplier ∧
    NumericRange sampleReservation.pricingMultiplier by decide
  prices := fun older => absurd older (show pricingSchemaV2 ≠ pricingSchemaV1 by decide)
  document := fun _ => ⟨snapshot, parsed⟩

/-- With writes at 3 USD a million unreported tokens cost at least what any report would. -/
theorem chargedConservatively_writesAt_three :
    ChargedConservatively (boundTo (writesAt ['3'])) sampleUsage := by
  have parsed : parsePricingSnapshot (boundTo (writesAt ['3'])).pricingSnapshot =
      .ok (writesAt ['3']) := by decide +kernel
  obtain ⟨decision, selected⟩ := Except.exists_of_isOk
    (by decide +kernel : ((writesAt ['3']).select
      (selectionTier (boundTo (writesAt ['3'])) sampleUsage)
      sampleUsage.metrics.val.inputTokens).isOk = true)
  have dearer : ratOf decision.inputUSDPerMillion ≤
      unreportedWritePrice (writesAt ['3']).rule.cacheWriteMode decision := by
    have chosen : (writesAt ['3']).select (selectionTier (boundTo (writesAt ['3'])) sampleUsage)
        sampleUsage.metrics.val.inputTokens =
          .ok ⟨pricingTierMaxPublished, .short, ['2'], ['1'], ['3'], [], [], ['4'],
            fallbackMissingServiceTier⟩ := by decide +kernel
    cases selected.symm.trans chosen
    decide +kernel
  exact (chargedConservatively_iff (boundTo_pricingBound parsed) rfl parsed selected).mpr
    (Or.inr (Or.inr (Or.inr (Or.inl dearer))))

/-- With writes at 1 USD a million unreported tokens cost 1 USD; reported as not written they
cost 2 USD. -/
theorem not_chargedConservatively_writesAt_one :
    parsePricingSnapshot (boundTo (writesAt ['1'])).pricingSnapshot = .ok (writesAt ['1']) ∧
      PricingBound (boundTo (writesAt ['1'])) ∧
      (priceUsage (boundTo (writesAt ['1'])) sampleUsage).map PricedUsage.cost =
        .ok "1.000000000000".toList ∧
      (priceUsage (boundTo (writesAt ['1'])) sampleUsage.withoutWrites).map PricedUsage.cost =
        .ok "2.000000000000".toList ∧
      ¬ ChargedConservatively (boundTo (writesAt ['1'])) sampleUsage := by
  have parsed : parsePricingSnapshot (boundTo (writesAt ['1'])).pricingSnapshot =
      .ok (writesAt ['1']) := by decide +kernel
  have unreported : (priceUsage (boundTo (writesAt ['1'])) sampleUsage).map PricedUsage.cost =
      .ok "1.000000000000".toList := by decide +kernel
  have reported : (priceUsage (boundTo (writesAt ['1'])) sampleUsage.withoutWrites).map
      PricedUsage.cost = .ok "2.000000000000".toList := by decide +kernel
  refine ⟨parsed, boundTo_pricingBound parsed, unreported, reported, fun conservative => ?_⟩
  obtain ⟨priced, settled, cost⟩ := Except.map_eq_ok.mp unreported
  obtain ⟨priced', settled', cost'⟩ := Except.map_eq_ok.mp reported
  obtain ⟨again, same, le⟩ := conservative sampleUsage.withoutWrites ⟨rfl, rfl, rfl, rfl⟩
    (Or.inl ⟨rfl, rfl⟩) priced settled
  cases settled'.symm.trans same
  rw [cost, cost'] at le
  revert le
  decide +kernel

end Store
