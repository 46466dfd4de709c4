import CodexGateway.Billing.Canonical
import CodexGateway.Store.Funds

/-! # Texts of stored amounts

The store adds, subtracts and compares amounts as exact rationals and writes them with twelve
fractional digits, through `big.Rat` and not through the rounding of `internal/billing`.
-/

namespace Store

open Billing

variable {amount : ℚ}

/-! ## Reading a result back -/

/-- A number inside `NUMERIC(30,12)`. -/
def IsAmount (amount : ℚ) : Prop :=
  ∃ units : Int, amount * 10 ^ amountScale = units ∧
    units.natAbs < 10 ^ (amountScale + maxIntegerDigits)

/-- The text is read back as the number: always as a rational, and by the parser of amounts
where the number is inside `NUMERIC(30,12)`. -/
structure ReadsBack (text : Text) (amount : ℚ) : Prop where
  rational : billingRat text = .ok amount
  parsed : IsAmount amount → ∃ canonical, parseBounded text amountScale true true = .ok canonical ∧
    billingRat canonical = .ok amount

theorem readsBack_fixedText {units : Int} (exact : amount * 10 ^ amountScale = units) :
    ReadsBack (Decimal.fixedText amountScale units) amount := by
  have value : Decimal.value? (Decimal.fixedText amountScale units) = some amount := by
    rw [Decimal.value?_fixedText, ← exact, mul_div_cancel_right₀ _ (pow_ne_zero _ (by norm_num))]
  refine ⟨by rw [billingRat, value], fun ⟨units', exact', range⟩ => ?_⟩
  have same : units' = units := by exact_mod_cast exact'.symm.trans exact
  obtain ⟨canonical, parsed⟩ := (parseBounded_fixedText units).mpr (same ▸ range)
  obtain ⟨number, denoted, result⟩ := value?_parseBounded parsed
  rw [value, Option.some.injEq] at denoted
  exact ⟨canonical, parsed, by rw [billingRat, result, denoted]⟩

theorem readsBack_floatString {units : Int} (exact : amount * 10 ^ amountScale = units) :
    ReadsBack (floatString amount amountScale) amount := by
  have quotient : amount = (units : ℚ) / 10 ^ amountScale := by
    rw [← exact, mul_div_cancel_right₀ _ (pow_ne_zero _ (by norm_num))]
  have text : floatString amount amountScale = Decimal.fixedText amountScale units := by
    rw [quotient, floatString_units, numericText]
  rw [text]
  exact readsBack_fixedText exact

/-- Amounts that a computation returns without rounding are read back exactly. -/
theorem roundAmount_readsBack (inside : IsAmount amount) :
    ∃ text, roundAmount amount = .ok text ∧ ReadsBack text amount := by
  obtain ⟨units, exact, range⟩ := inside
  have rounded : Decimal.roundHalfAway (amount * 10 ^ amountScale) = units := by
    rw [exact, Decimal.roundHalfAway_intCast]
  refine ⟨_, ?_, readsBack_fixedText exact⟩
  rw [roundAmount_eq, rounded, if_pos range]

/-- The parsers accept exactly the decimals within their limits, the result is the one text of
the number, and amounts that were computed from amounts are read back exactly. -/
theorem decimalTexts_canonical :
    (∀ (value : Text) (scale : Nat) (signed allowZero : Bool),
      ((∃ canonical, parseBounded value scale signed allowZero = .ok canonical) ↔
        IsDecimal scale signed allowZero value) ∧
      ∀ canonical, parseBounded value scale signed allowZero = .ok canonical →
        (∃ number, Decimal.value? value = some number ∧ Decimal.value? canonical = some number) ∧
        parseBounded canonical scale signed allowZero = .ok canonical ∧
        ∀ value' scale' signed' allowZero' canonical',
          parseBounded value' scale' signed' allowZero' = .ok canonical' →
          (Decimal.value? value = Decimal.value? value' ↔ canonical = canonical')) ∧
    (∀ amount, IsAmount amount → ∃ text, roundAmount amount = .ok text ∧ ReadsBack text amount) ∧
    (∀ left right l r, billingRat left = .ok l → billingRat right = .ok r → IsAmount l →
      IsAmount r →
      (∃ text, billingAdd left right = .ok text ∧ ReadsBack text (l + r)) ∧
      (∃ text, billingSubtract left right = .ok text ∧ ReadsBack text (l - r)) ∧
      ∃ text, billingMin left right = .ok text ∧ ReadsBack text (min l r) ∧
        IsAmount (min l r)) := by
  refine ⟨fun value scale signed allowZero => ⟨parseBounded_accepts value scale signed allowZero,
    fun canonical accepted => ⟨value?_parseBounded accepted, parseBounded_again accepted,
      fun _ _ _ _ _ accepted' => parseBounded_unique accepted accepted'⟩⟩,
    fun amount => roundAmount_readsBack, ?_⟩
  intro left right l r readLeft readRight insideLeft insideRight
  have least : IsAmount (min l r) := by
    rcases min_choice l r with same | same <;> rw [same] <;> assumption
  obtain ⟨a, exactLeft, -⟩ := insideLeft
  obtain ⟨b, exactRight, -⟩ := insideRight
  refine ⟨⟨_, ?_, readsBack_floatString (show (l + r) * 10 ^ amountScale = ((a + b : Int) : ℚ) from ?_)⟩,
    ⟨_, ?_, readsBack_floatString (show (l - r) * 10 ^ amountScale = ((a - b : Int) : ℚ) from ?_)⟩, ?_⟩
  · simp [billingAdd, readLeft, readRight]
  · rw [add_mul, exactLeft, exactRight, Int.cast_add]
  · simp [billingSubtract, readLeft, readRight]
  · rw [sub_mul, exactLeft, exactRight, Int.cast_sub]
  · obtain ⟨c, exact, range⟩ := least
    refine ⟨_, ?_, readsBack_floatString exact, c, exact, range⟩
    simp [billingMin, readLeft, readRight, min_def_lt']

end Store
