import CodexGateway.Store.Schema

/-! # Stored amounts

How `billing.go` computes with money: a column of type `NUMERIC(30,12)` is read
as its text, the text is taken as an exact rational, and the result is written
back with twelve decimals. On stored amounts this is integer arithmetic in
units of 10⁻¹² USD.
-/

namespace Store

open Billing

variable {units : Int}

/-- The text of a `NUMERIC(30,12)` column. -/
def numericText (units : Int) : Text :=
  Decimal.fixedText amountScale units

/-- The value a `NUMERIC(30,12)` column takes from `$n::numeric`. -/
def numeric (text : Text) : Int :=
  Decimal.roundHalfAway (ratOf text * 10 ^ amountScale)

/-- The amounts that fit `NUMERIC(30,12)`; others are error 22003. -/
def NumericRange (units : Int) : Prop :=
  units.natAbs < 10 ^ (amountScale + maxIntegerDigits)

instance (units : Int) : Decidable (NumericRange units) :=
  inferInstanceAs (Decidable (_ < _))

theorem numericRange_iff (nonneg : 0 ≤ units) :
    NumericRange units ↔ units < 10 ^ (amountScale + maxIntegerDigits) := by
  lift units to ℕ using nonneg
  rw [NumericRange, Int.natAbs_natCast]
  norm_cast

/-- The text of `big.Rat.FloatString`. -/
def floatString (value : ℚ) (decimals : Nat) : Text :=
  (if value < 0 then ['-'] else []) ++
    Decimal.fixedText decimals (Decimal.roundHalfAway (|value| * 10 ^ decimals))

def billingRat (value : Text) : Except StoreError ℚ :=
  match Decimal.value? value with
  | some rat => .ok rat
  | none => .error (.invalid "invalid stored billing amount")

def billingMin (left right : Text) : Except StoreError Text := do
  let l ← billingRat left
  let r ← billingRat right
  .ok (floatString (if l > r then r else l) amountScale)

def billingSubtract (left right : Text) : Except StoreError Text := do
  let l ← billingRat left
  let r ← billingRat right
  .ok (floatString (l - r) amountScale)

def billingAdd (left right : Text) : Except StoreError Text := do
  let l ← billingRat left
  let r ← billingRat right
  .ok (floatString (l + r) amountScale)

def billingPositive (value : Text) : Bool :=
  match Decimal.value? value with
  | some rat => 0 < rat
  | none => false

/-! ## Exactness -/

/-- The text is a decimal whose value is a whole number of units. -/
def Denotes (text : Text) (units : Int) : Prop :=
  Decimal.value? text = some ((units : ℚ) / 10 ^ amountScale)

@[simp] theorem denotes_numericText (units : Int) : Denotes (numericText units) units :=
  Decimal.value?_fixedText amountScale units

private theorem scale_pos : (0 : ℚ) < 10 ^ amountScale := by
  positivity

theorem floatString_units (units : Int) :
    floatString ((units : ℚ) / 10 ^ amountScale) amountScale = numericText units := by
  have exact (n : Int) : |(n : ℚ) / 10 ^ amountScale| * 10 ^ amountScale = ((|n| : Int) : ℚ) := by
    rw [abs_div, abs_of_pos scale_pos, div_mul_cancel₀ _ scale_pos.ne', Int.cast_abs]
  rw [floatString, exact, Decimal.roundHalfAway_intCast, numericText]
  have sign : (units : ℚ) / 10 ^ amountScale < 0 ↔ units < 0 := by
    rw [div_lt_iff₀ scale_pos, zero_mul, Int.cast_lt_zero]
  have unsigned : ¬ |units| < 0 := not_lt.mpr (abs_nonneg units)
  simp only [sign, Decimal.fixedText, if_neg unsigned, List.nil_append, Int.natAbs_abs]

theorem Denotes.numeric_eq {text : Text} (value : Denotes text units) : numeric text = units := by
  have found : Decimal.value? text = some ((units : ℚ) / 10 ^ amountScale) := value
  rw [numeric, ratOf, found, Option.getD_some, div_mul_cancel₀ _ scale_pos.ne',
    Decimal.roundHalfAway_intCast]

@[simp] theorem numeric_numericText (units : Int) : numeric (numericText units) = units :=
  (denotes_numericText units).numeric_eq

theorem Denotes.billingRat_eq {text : Text} (value : Denotes text units) :
    billingRat text = .ok ((units : ℚ) / 10 ^ amountScale) := by
  have found : Decimal.value? text = some ((units : ℚ) / 10 ^ amountScale) := value
  rw [billingRat, found]

section Arithmetic

variable {left right : Text} {a b : Int}

theorem Denotes.billingMin_eq (l : Denotes left a) (r : Denotes right b) :
    billingMin left right = .ok (numericText (min a b)) := by
  rw [billingMin, l.billingRat_eq, r.billingRat_eq]
  simp only [Except.ok_bind, ← floatString_units]
  congr 2
  by_cases larger : b < a
  · have rationals : (b : ℚ) / 10 ^ amountScale < (a : ℚ) / 10 ^ amountScale :=
      div_lt_div_of_pos_right (Int.cast_lt.mpr larger) scale_pos
    rw [if_pos rationals, min_eq_right (le_of_lt larger)]
  · have rationals : ¬ (b : ℚ) / 10 ^ amountScale < (a : ℚ) / 10 ^ amountScale := by
      rw [not_lt]
      exact div_le_div_of_nonneg_right (Int.cast_le.mpr (not_lt.mp larger)) (le_of_lt scale_pos)
    rw [if_neg rationals, min_eq_left (not_lt.mp larger)]

theorem Denotes.billingSubtract_eq (l : Denotes left a) (r : Denotes right b) :
    billingSubtract left right = .ok (numericText (a - b)) := by
  rw [billingSubtract, l.billingRat_eq, r.billingRat_eq]
  simp only [Except.ok_bind, ← floatString_units, Int.cast_sub, sub_div]

theorem Denotes.billingAdd_eq (l : Denotes left a) (r : Denotes right b) :
    billingAdd left right = .ok (numericText (a + b)) := by
  rw [billingAdd, l.billingRat_eq, r.billingRat_eq]
  simp only [Except.ok_bind, ← floatString_units, Int.cast_add, add_div]

theorem Denotes.billingPositive_eq (l : Denotes left a) :
    billingPositive left = decide (0 < a) := by
  have found : Decimal.value? left = some ((a : ℚ) / 10 ^ amountScale) := l
  have sign : 0 < (a : ℚ) / 10 ^ amountScale ↔ 0 < a := by
    rw [div_pos_iff_of_pos_right scale_pos, Int.cast_pos]
  rw [billingPositive, found]
  exact decide_eq_decide.mpr sign

end Arithmetic

@[simp] theorem billingMin_numericText (a b : Int) :
    billingMin (numericText a) (numericText b) = .ok (numericText (min a b)) :=
  (denotes_numericText a).billingMin_eq (denotes_numericText b)

@[simp] theorem billingSubtract_numericText (a b : Int) :
    billingSubtract (numericText a) (numericText b) = .ok (numericText (a - b)) :=
  (denotes_numericText a).billingSubtract_eq (denotes_numericText b)

@[simp] theorem billingAdd_numericText (a b : Int) :
    billingAdd (numericText a) (numericText b) = .ok (numericText (a + b)) :=
  (denotes_numericText a).billingAdd_eq (denotes_numericText b)

@[simp] theorem billingPositive_numericText (a : Int) :
    billingPositive (numericText a) = decide (0 < a) :=
  (denotes_numericText a).billingPositive_eq

end Store
