import Mathlib

/-! # Fixed-point decimal texts

A decimal text is an optional sign, digits, and optionally a point followed by
more digits. This file gives such texts their rational value, renders scaled
integers with a fixed number of fractional digits, and shows that reading a
rendering back gives the scaled integer. Rounding is half away from zero.
-/

namespace Decimal

variable {width n : Nat} {c : Char} {digits : List Char}

/-- The last `width` decimal digits of a number, most significant first. -/
def fixedDigits : Nat → Nat → List Char
  | 0, _ => []
  | width + 1, n => fixedDigits width (n / 10) ++ [Nat.digitChar (n % 10)]

@[simp] theorem length_fixedDigits (width n : Nat) : (fixedDigits width n).length = width := by
  induction width generalizing n with
  | zero => rfl
  | succ width ih => simp only [fixedDigits, List.length_append, ih, List.length_singleton]

theorem isDigit_of_mem_fixedDigits (member : c ∈ fixedDigits width n) : c.isDigit = true := by
  induction width generalizing n with
  | zero => simp only [fixedDigits, List.not_mem_nil] at member
  | succ width ih =>
    rcases List.mem_append.mp member with earlier | last
    · exact ih earlier
    · have small : n % 10 < 10 := Nat.mod_lt _ (by decide)
      have only : c ∈ Nat.toDigits 10 (n % 10) := by
        rwa [Nat.toDigits_of_lt_base small]
      exact Nat.isDigit_of_mem_toDigits (by decide) (by decide) only

theorem ofDigitChars_fixedDigits (width n : Nat) :
    Nat.ofDigitChars 10 (fixedDigits width n) 0 = n % 10 ^ width := by
  induction width generalizing n with
  | zero => simp only [fixedDigits, Nat.ofDigitChars_nil, pow_zero, Nat.mod_one]
  | succ width ih =>
    have small : n % 10 < 10 := Nat.mod_lt _ (by decide)
    rw [fixedDigits, Nat.ofDigitChars_append, ih,
      Nat.ofDigitChars_cons_digitChar_of_lt_ten small, Nat.ofDigitChars_nil, pow_succ',
      Nat.mod_mul]
    omega

/-- A number of more than `width` digits is its leading part followed by its
last `width` digits. -/
theorem toDigits_eq_append_fixedDigits (large : 10 ^ width ≤ n) :
    Nat.toDigits 10 n = Nat.toDigits 10 (n / 10 ^ width) ++ fixedDigits width n := by
  induction width generalizing n with
  | zero => simp only [pow_zero, Nat.div_one, fixedDigits, List.append_nil]
  | succ width ih =>
    have tenth : 10 ^ width ≤ n / 10 := by
      rw [Nat.le_div_iff_mul_le (by decide)]
      simpa only [pow_succ] using large
    have base : 10 ≤ n := by
      have := Nat.one_le_pow width 10 (by decide)
      omega
    rw [Nat.toDigits_of_base_le (by decide) base, ih tenth, Nat.div_div_eq_div_mul, pow_succ',
      fixedDigits, List.append_assoc]

theorem head?_toDigits_ne_zero (positive : 0 < n) : (Nat.toDigits 10 n).head? ≠ some '0' := by
  induction n using Nat.strong_induction_on with
  | _ n ih =>
    rcases Nat.lt_or_ge n 10 with digit | base
    · rw [Nat.toDigits_of_lt_base digit]
      interval_cases n <;> decide
    · rw [Nat.toDigits_of_base_le (by decide) base,
        List.head?_append_of_ne_nil _ Nat.toDigits_ne_nil]
      exact ih (n / 10) (by omega) (by omega)

theorem length_toDigits_le_iff (positive : 0 < width) :
    (Nat.toDigits 10 n).length ≤ width ↔ n < 10 ^ width := by
  constructor
  · intro short
    by_contra large
    rw [toDigits_eq_append_fixedDigits (not_lt.mp large), List.length_append,
      length_fixedDigits] at short
    have := Nat.length_toDigits_pos (b := 10) (n := n / 10 ^ width)
    omega
  · exact Nat.toDigits_length 10 n width positive

theorem replicate_append_toDigits (small : n < 10 ^ (width + 1)) :
    List.replicate (width + 1 - (Nat.toDigits 10 n).length) '0' ++ Nat.toDigits 10 n =
      fixedDigits (width + 1) n := by
  induction width generalizing n with
  | zero =>
    have digit : n < 10 := by simpa only [zero_add, pow_one] using small
    rw [Nat.toDigits_of_lt_base digit]
    simp only [fixedDigits, Nat.mod_eq_of_lt digit]
    rfl
  | succ width ih =>
    rcases Nat.lt_or_ge n 10 with digit | base
    · have zero : n / 10 = 0 := Nat.div_eq_of_lt digit
      have rest := ih (n := 0) (by positivity)
      rw [fixedDigits, zero, ← rest, Nat.toDigits_of_lt_base digit, Nat.mod_eq_of_lt digit,
        Nat.toDigits_of_lt_base (show 0 < 10 by decide)]
      simp only [List.length_singleton, Nat.add_sub_cancel, List.replicate_succ', List.append_assoc]
      rfl
    · have tenth : n / 10 < 10 ^ (width + 1) := by
        rw [Nat.div_lt_iff_lt_mul (by decide)]
        simpa only [pow_succ] using small
      rw [fixedDigits, ← ih tenth, Nat.toDigits_of_base_le (by decide) base]
      simp only [List.length_append, List.length_singleton, Nat.add_sub_add_right,
        List.append_assoc]

/-- The decimal rendering of `n / 10 ^ scale` with exactly `scale` fractional
digits and no superfluous leading zero. -/
def fixedText (scale : Nat) (n : Int) : List Char :=
  (if n < 0 then ['-'] else []) ++
    (Nat.toDigits 10 (n.natAbs / 10 ^ scale) ++ '.' :: fixedDigits scale n.natAbs)

private theorem digit_lt (digit : c.isDigit = true) :
    '0'.toNat ≤ c.toNat ∧ c.toNat - '0'.toNat < 10 := by
  simp only [Char.isDigit, Bool.and_eq_true, decide_eq_true_eq] at digit
  have low : 48 ≤ c.toNat := digit.1
  have high : c.toNat ≤ 57 := digit.2
  have zero : '0'.toNat = 48 := rfl
  omega

theorem ofDigitChars_lt (whole : ∀ c ∈ digits, c.isDigit = true) (init : Nat) :
    Nat.ofDigitChars 10 digits init < (init + 1) * 10 ^ digits.length := by
  induction digits generalizing init with
  | nil => simp
  | cons c rest ih =>
    obtain ⟨-, digit⟩ := digit_lt (whole c List.mem_cons_self)
    have later := ih (fun c member => whole c (List.mem_cons_of_mem _ member))
      (10 * init + (c.toNat - '0'.toNat))
    rw [Nat.ofDigitChars_cons, List.length_cons, pow_succ]
    calc
      _ < _ := later
      _ ≤ (10 * (init + 1)) * 10 ^ rest.length := Nat.mul_le_mul_right _ (by omega)
      _ = _ := by ring

theorem eq_zero_of_ofDigitChars (whole : ∀ c ∈ digits, c.isDigit = true) {init : Nat}
    (zero : Nat.ofDigitChars 10 digits init = 0) : init = 0 ∧ ∀ c ∈ digits, c = '0' := by
  induction digits generalizing init with
  | nil => exact ⟨zero, by simp⟩
  | cons c rest ih =>
    rw [Nat.ofDigitChars_cons] at zero
    obtain ⟨first, later⟩ := ih (fun c member => whole c (List.mem_cons_of_mem _ member)) zero
    obtain ⟨low, -⟩ := digit_lt (whole c List.mem_cons_self)
    refine ⟨by omega, ?_⟩
    intro d member
    rcases List.mem_cons.mp member with rfl | old
    · exact Char.toNat_inj.mp (by omega)
    · exact later d old

theorem digitChar_toNat_sub (digit : c.isDigit = true) :
    Nat.digitChar (c.toNat - '0'.toNat) = c := by
  obtain ⟨low, small⟩ := digit_lt digit
  have zero : '0'.toNat = 48 := rfl
  obtain ⟨n, value⟩ : ∃ n, c.toNat - '0'.toNat = n := ⟨_, rfl⟩
  have same : c = Char.ofNat (48 + n) := by
    rw [← Char.ofNat_toNat c]
    congr 1
    omega
  rw [value] at small ⊢
  rw [same]
  interval_cases n <;> rfl

theorem ofDigitChars_snoc (digits : List Char) (c : Char) :
    Nat.ofDigitChars 10 (digits ++ [c]) 0 =
      10 * Nat.ofDigitChars 10 digits 0 + (c.toNat - '0'.toNat) := by
  simp [Nat.ofDigitChars_append, Nat.ofDigitChars_cons]

theorem fixedDigits_ofDigitChars (whole : ∀ c ∈ digits, c.isDigit = true) :
    fixedDigits digits.length (Nat.ofDigitChars 10 digits 0) = digits := by
  induction digits using List.reverseRecOn with
  | nil => rfl
  | append_singleton digits c ih =>
    have digit := whole c (by simp)
    have small := (digit_lt digit).2
    rw [List.length_append, List.length_singleton, fixedDigits, ofDigitChars_snoc,
      show (10 * Nat.ofDigitChars 10 digits 0 + (c.toNat - '0'.toNat)) / 10 =
        Nat.ofDigitChars 10 digits 0 by omega,
      show (10 * Nat.ofDigitChars 10 digits 0 + (c.toNat - '0'.toNat)) % 10 =
        c.toNat - '0'.toNat by omega,
      ih fun d member => whole d (List.mem_append_left _ member), digitChar_toNat_sub digit]

/-- Digits that do not start with a superfluous zero are the digits of their number. -/
theorem toDigits_ofDigitChars (whole : ∀ c ∈ digits, c.isDigit = true) (nonempty : digits ≠ [])
    (leading : digits.head? = some '0' → digits.length ≤ 1) :
    Nat.toDigits 10 (Nat.ofDigitChars 10 digits 0) = digits := by
  induction digits using List.reverseRecOn with
  | nil => exact absurd rfl nonempty
  | append_singleton digits c ih =>
    have digit := whole c (by simp)
    have small := (digit_lt digit).2
    rw [ofDigitChars_snoc]
    by_cases single : digits = []
    · subst single
      simp only [List.nil_append, Nat.ofDigitChars_nil, Nat.mul_zero, Nat.zero_add]
      rw [Nat.toDigits_of_lt_base small, digitChar_toNat_sub digit]
    · have headed : (digits ++ [c]).head? = digits.head? := List.head?_append_of_ne_nil _ single
      have first : digits.head? ≠ some '0' := by
        intro zero
        have short := leading (headed.trans zero)
        have long := List.length_pos_iff.mpr single
        rw [List.length_append, List.length_singleton] at short
        omega
      have before : ∀ d ∈ digits, d.isDigit = true := fun d member =>
        whole d (List.mem_append_left _ member)
      have positive : Nat.ofDigitChars 10 digits 0 ≠ 0 := by
        intro zero
        obtain ⟨-, zeroes⟩ := eq_zero_of_ofDigitChars before zero
        obtain ⟨d, rest, rfl⟩ := List.exists_cons_of_ne_nil single
        exact first (congrArg some (zeroes d List.mem_cons_self))
      rw [Nat.toDigits_of_base_le (by decide) (by omega),
        show (10 * Nat.ofDigitChars 10 digits 0 + (c.toNat - '0'.toNat)) / 10 =
          Nat.ofDigitChars 10 digits 0 by omega,
        show (10 * Nat.ofDigitChars 10 digits 0 + (c.toNat - '0'.toNat)) % 10 =
          c.toNat - '0'.toNat by omega,
        ih before single fun zero => absurd zero first, digitChar_toNat_sub digit]

/-- The value of an unsigned decimal text: digits with at most one point. -/
def unsignedValue? (text : List Char) : Option ℚ :=
  let integer := text.takeWhile (· != '.')
  let fraction := (text.dropWhile (· != '.')).tail
  if integer ++ fraction ≠ [] ∧ (integer ++ fraction).all Char.isDigit then
    some ((Nat.ofDigitChars 10 (integer ++ fraction) 0 : ℚ) / 10 ^ fraction.length)
  else none

/-- The value of a decimal text with an optional sign. -/
def value? : List Char → Option ℚ
  | '-' :: rest => (unsignedValue? rest).map (- ·)
  | '+' :: rest => unsignedValue? rest
  | text => unsignedValue? text

private theorem before_point (whole : ∀ c ∈ digits, c.isDigit = true) :
    ∀ c ∈ digits, (c != '.') = true := by
  intro c member
  rw [bne_iff_ne]
  rintro rfl
  exact absurd (whole _ member) (by decide)

/-- Two groups of digits around a point denote the digits read together,
divided by ten for each digit after the point. -/
theorem unsignedValue?_point {integer fraction : List Char}
    (whole : ∀ c ∈ integer, c.isDigit = true) (part : ∀ c ∈ fraction, c.isDigit = true)
    (nonempty : integer ≠ []) :
    unsignedValue? (integer ++ '.' :: fraction) =
      some ((Nat.ofDigitChars 10 (integer ++ fraction) 0 : ℚ) / 10 ^ fraction.length) := by
  have before := before_point whole
  have taken : (integer ++ '.' :: fraction).takeWhile (· != '.') = integer := by
    rw [List.takeWhile_append_of_pos before]
    simp
  have dropped : (integer ++ '.' :: fraction).dropWhile (· != '.') = '.' :: fraction := by
    rw [List.dropWhile_append_of_pos before]
    simp
  have digits : (integer ++ fraction).all Char.isDigit = true := by
    rw [List.all_eq_true]
    intro c member
    exact (List.mem_append.mp member).elim (whole c) (part c)
  have present : integer ++ fraction ≠ [] := List.append_ne_nil_of_left_ne_nil nonempty fraction
  simp only [unsignedValue?, taken, dropped, List.tail_cons, ne_eq, present, not_false_eq_true,
    digits, and_self, if_true]

theorem unsignedValue?_digits (whole : ∀ c ∈ digits, c.isDigit = true) (nonempty : digits ≠ []) :
    unsignedValue? digits = some (Nat.ofDigitChars 10 digits 0 : ℚ) := by
  have before := before_point whole
  have taken : digits.takeWhile (· != '.') = digits := List.takeWhile_eq_self_iff.mpr before
  have dropped : digits.dropWhile (· != '.') = [] := List.dropWhile_eq_nil_iff.mpr before
  have all : digits.all Char.isDigit = true := List.all_eq_true.mpr whole
  simp only [unsignedValue?, taken, dropped, List.tail_nil, List.append_nil, ne_eq, nonempty,
    not_false_eq_true, all, and_self, if_true, List.length_nil, pow_zero, div_one]

private theorem isDigit_of_mem_toDigits :
    ∀ c ∈ Nat.toDigits 10 n, c.isDigit = true := fun _ member =>
  Nat.isDigit_of_mem_toDigits (by decide) (by decide) member

theorem ofDigitChars_parts (scale n : Nat) :
    Nat.ofDigitChars 10 (Nat.toDigits 10 (n / 10 ^ scale) ++ fixedDigits scale n) 0 = n := by
  rw [Nat.ofDigitChars_append, Nat.ofDigitChars_eq_ofDigitChars_zero, ofDigitChars_fixedDigits,
    Nat.ofDigitChars_ten_toDigits, length_fixedDigits]
  exact Nat.div_add_mod n (10 ^ scale)

theorem value?_of_digit {rest : List Char} (digit : c.isDigit = true) :
    value? (c :: rest) = unsignedValue? (c :: rest) := by
  unfold value?
  split
  · rename_i same
    cases same
    exact absurd digit (by decide)
  · rename_i same
    cases same
    exact absurd digit (by decide)
  · rfl

@[simp] theorem value?_fixedText (scale : Nat) (n : Int) :
    value? (fixedText scale n) = some (n / 10 ^ scale : ℚ) := by
  have unsigned : unsignedValue? (Nat.toDigits 10 (n.natAbs / 10 ^ scale) ++
      '.' :: fixedDigits scale n.natAbs) = some (n.natAbs / 10 ^ scale : ℚ) := by
    rw [unsignedValue?_point isDigit_of_mem_toDigits
      (fun _ member => isDigit_of_mem_fixedDigits member) Nat.toDigits_ne_nil,
      ofDigitChars_parts, length_fixedDigits]
  rcases lt_or_ge n 0 with negative | nonneg
  · have size : (n.natAbs : ℚ) = -n := by
      rw [Nat.cast_natAbs, abs_of_neg negative, Int.cast_neg]
    rw [fixedText, if_pos negative, List.singleton_append, value?, unsigned, size]
    simp only [Option.map_some, Option.some.injEq]
    ring
  · have size : (n.natAbs : ℚ) = n := by
      rw [Nat.cast_natAbs, abs_of_nonneg nonneg]
    rw [fixedText, if_neg (not_lt.mpr nonneg), List.nil_append]
    cases digits : Nat.toDigits 10 (n.natAbs / 10 ^ scale) with
    | nil => exact absurd digits Nat.toDigits_ne_nil
    | cons c rest =>
      have first : c.isDigit = true :=
        isDigit_of_mem_toDigits c (digits ▸ List.mem_cons_self)
      rw [List.cons_append, value?_of_digit first, ← List.cons_append, ← digits, unsigned, size]

/-- Rounding to the nearest integer, halves away from zero. -/
def roundHalfAway (q : ℚ) : Int :=
  if q < 0 then -round (-q) else round q

@[simp] theorem roundHalfAway_intCast (n : Int) : roundHalfAway n = n := by
  unfold roundHalfAway
  split
  · rw [← Int.cast_neg, round_intCast, neg_neg]
  · exact round_intCast n

theorem roundHalfAway_neg (q : ℚ) : roundHalfAway (-q) = -roundHalfAway q := by
  unfold roundHalfAway
  rcases lt_trichotomy q 0 with negative | rfl | positive
  · rw [if_neg (by linarith), if_pos negative, neg_neg]
  · simp
  · rw [if_pos (by linarith), if_neg (by linarith), neg_neg]

theorem roundHalfAway_nonneg {q : ℚ} (nonneg : 0 ≤ q) : 0 ≤ roundHalfAway q := by
  rw [roundHalfAway, if_neg (not_lt.mpr nonneg), round_eq]
  exact Int.floor_nonneg.mpr (by linarith)

theorem roundHalfAway_mono {p q : ℚ} (le : p ≤ q) : roundHalfAway p ≤ roundHalfAway q := by
  have rounds : ∀ {x y : ℚ}, x ≤ y → round x ≤ round y := fun le => by
    rw [round_eq, round_eq]
    exact Int.floor_mono (by linarith)
  unfold roundHalfAway
  split
  · rename_i negative
    split
    · exact neg_le_neg (rounds (neg_le_neg le))
    · rename_i nonneg
      have left : 0 ≤ round (-p) := by
        rw [round_eq]
        exact Int.floor_nonneg.mpr (by linarith)
      have right : 0 ≤ round q := by
        rw [round_eq]
        exact Int.floor_nonneg.mpr (by linarith)
      omega
  · rename_i nonneg
    rw [if_neg (by linarith)]
    exact rounds le

/-- Rounding a quotient of naturals: the truncated quotient, one more when the
remainder is at least half the divisor. -/
theorem roundHalfAway_div (n d : Nat) (positive : 0 < d) :
    roundHalfAway (n / d : ℚ) = (n / d + if d ≤ 2 * (n % d) then 1 else 0 : Nat) := by
  have nonneg : (0 : ℚ) ≤ n / d := by positivity
  have scaled : (n / d + 1 / 2 : ℚ) = ((2 * n + d : Nat) : ℚ) / ((2 * d : Nat) : ℚ) := by
    have : (d : ℚ) ≠ 0 := by positivity
    push_cast
    field_simp
  rw [roundHalfAway, if_neg (not_lt.mpr nonneg), round_eq, scaled,
    Rat.floor_natCast_div_natCast, ← Int.natCast_div, Int.natCast_inj]
  have division := Nat.div_add_mod n d
  have remainder := Nat.mod_lt n positive
  generalize n / d = quotient at *
  generalize n % d = rest at *
  subst division
  split
  · exact Nat.div_eq_of_lt_le (by nlinarith) (by nlinarith)
  · exact Nat.div_eq_of_lt_le (by nlinarith) (by nlinarith)

/-- Rounding a quotient with truncated division, as integer arithmetic does it:
one further from zero when the remainder is at least half the divisor. -/
theorem roundHalfAway_tdiv (n : Int) (d : Nat) (positive : 0 < d) :
    roundHalfAway (n / d : ℚ) =
      if n.tmod d ≠ 0 ∧ d ≤ 2 * (n.tmod d).natAbs then
        if n < 0 then n.tdiv d - 1 else n.tdiv d + 1
      else n.tdiv d := by
  have half : ∀ m : Nat, ((m % d : Nat) : Int) ≠ 0 ∧ d ≤ 2 * (m % d) ↔ d ≤ 2 * (m % d) := by
    intro m
    constructor
    · exact And.right
    · exact fun above => ⟨by omega, above⟩
  rcases le_or_gt 0 n with nonneg | negative
  · obtain ⟨m, rfl⟩ := Int.eq_ofNat_of_zero_le nonneg
    rw [Int.cast_natCast, roundHalfAway_div m d positive, ← Int.ofNat_tmod, ← Int.ofNat_tdiv,
      Int.natAbs_natCast, if_neg (not_lt.mpr nonneg)]
    simp only [half]
    split <;> push_cast <;> rfl
  · obtain ⟨m, opposite⟩ := Int.eq_ofNat_of_zero_le (Int.neg_nonneg_of_nonpos negative.le)
    obtain rfl : n = -(m : Int) := by omega
    rw [Int.cast_neg, Int.cast_natCast, neg_div, roundHalfAway_neg, roundHalfAway_div m d positive,
      Int.neg_tmod, Int.neg_tdiv, ← Int.ofNat_tmod, ← Int.ofNat_tdiv, Int.natAbs_neg,
      Int.natAbs_natCast, if_pos negative]
    simp only [neg_ne_zero, half]
    split <;> push_cast <;> ring

/-! ## The order of digit texts -/

theorem place_lt {a b x y place : Nat} (small : x < place) (small' : y < place) :
    a * place + x < b * place + y ↔ a < b ∨ a = b ∧ x < y := by
  rcases lt_trichotomy a b with less | rfl | greater
  · have := Nat.mul_le_mul_right place (Nat.succ_le_of_lt less)
    rw [Nat.succ_mul] at this
    simp only [less, true_or, iff_true]
    omega
  · simp
  · have := Nat.mul_le_mul_right place (Nat.succ_le_of_lt greater)
    rw [Nat.succ_mul] at this
    constructor
    · intro below
      omega
    · rintro (less | ⟨same, -⟩) <;> omega

theorem digit_lt_digit {d : Char} (digit : c.isDigit = true) (digit' : d.isDigit = true) :
    (c < d ↔ c.toNat - '0'.toNat < d.toNat - '0'.toNat) ∧
      (c = d ↔ c.toNat - '0'.toNat = d.toNat - '0'.toNat) := by
  obtain ⟨low, -⟩ := digit_lt digit
  obtain ⟨low', -⟩ := digit_lt digit'
  have less : c < d ↔ c.toNat < d.toNat := Char.lt_def.trans UInt32.lt_iff_toNat_lt
  rw [less, ← Char.toNat_inj]
  omega

theorem ofDigitChars_cons_zero (c : Char) (digits : List Char) :
    Nat.ofDigitChars 10 (c :: digits) 0 =
      (c.toNat - '0'.toNat) * 10 ^ digits.length + Nat.ofDigitChars 10 digits 0 := by
  rw [Nat.ofDigitChars_cons, Nat.ofDigitChars_eq_ofDigitChars_zero, Nat.mul_zero, Nat.zero_add,
    Nat.mul_comm]

/-- Digit texts of one length before texts that are ordered as numbers. -/
theorem append_lt_append {digits' rest rest' : List Char} {x y place : Nat}
    (whole : ∀ c ∈ digits, c.isDigit = true) (whole' : ∀ c ∈ digits', c.isDigit = true)
    (length : digits.length = digits'.length) (small : x < place) (small' : y < place)
    (order : rest < rest' ↔ x < y) :
    digits ++ rest < digits' ++ rest' ↔
      Nat.ofDigitChars 10 digits 0 * place + x < Nat.ofDigitChars 10 digits' 0 * place + y := by
  induction digits generalizing digits' with
  | nil =>
    obtain rfl : digits' = [] := List.eq_nil_of_length_eq_zero length.symm
    simpa using order
  | cons c digits ih =>
    cases digits' with
    | nil => cases length
    | cons d digits' =>
      have tails : digits.length = digits'.length := Nat.succ_inj.mp length
      have before := fun e member => whole e (List.mem_cons_of_mem _ member)
      have before' := fun e member => whole' e (List.mem_cons_of_mem _ member)
      obtain ⟨less, same⟩ :=
        digit_lt_digit (whole c List.mem_cons_self) (whole' d List.mem_cons_self)
      have bound := ofDigitChars_lt before 0
      have bound' := ofDigitChars_lt before' 0
      rw [Nat.zero_add, Nat.one_mul] at bound bound'
      have inside : ∀ {n z : Nat}, n < 10 ^ digits.length → z < place →
          n * place + z < 10 ^ digits.length * place := fun {n z} below within => by
        have := Nat.mul_le_mul_right place (Nat.succ_le_of_lt below)
        rw [Nat.succ_mul] at this
        omega
      rw [List.cons_append, List.cons_append, List.cons_lt_cons_iff, ih before before' tails,
        less, same, ofDigitChars_cons_zero, ofDigitChars_cons_zero, Nat.add_mul, Nat.add_mul,
        Nat.mul_assoc, Nat.mul_assoc, ← tails, Nat.add_assoc, Nat.add_assoc]
      exact (place_lt (inside bound small) (inside (tails ▸ bound') small')).symm

/-- Fractions without a zero at the end, filled up with blanks, are ordered as numbers. -/
theorem blanks_lt_blanks {fraction fraction' : List Char}
    (part : ∀ c ∈ fraction, c.isDigit = true) (part' : ∀ c ∈ fraction', c.isDigit = true)
    (trimmed : fraction.getLast? ≠ some '0') (trimmed' : fraction'.getLast? ≠ some '0')
    (fits : fraction.length ≤ width) (fits' : fraction'.length ≤ width) :
    fraction ++ List.replicate (width - fraction.length) ' ' <
        fraction' ++ List.replicate (width - fraction'.length) ' ' ↔
      Nat.ofDigitChars 10 fraction 0 * 10 ^ (width - fraction.length) <
        Nat.ofDigitChars 10 fraction' 0 * 10 ^ (width - fraction'.length) := by
  have positive : ∀ {d : Char} {digits : List Char}, (∀ e ∈ d :: digits, e.isDigit = true) →
      (d :: digits).getLast? ≠ some '0' → 0 < Nat.ofDigitChars 10 (d :: digits) 0 := by
    intro d digits whole last
    by_contra none
    obtain ⟨-, zeroes⟩ := eq_zero_of_ofDigitChars whole (Nat.eq_zero_of_not_pos none)
    have ends := List.getLast_mem (List.cons_ne_nil d digits)
    exact last (by rw [List.getLast?_eq_some_getLast (List.cons_ne_nil d digits), zeroes _ ends])
  have blank : ∀ {d : Char}, d.isDigit = true → ' ' < d := by
    intro d digit
    have low := (digit_lt digit).1
    exact Char.lt_def.mpr (UInt32.lt_iff_toNat_lt.mpr (lt_of_lt_of_le (by decide) low))
  induction fraction generalizing fraction' width with
  | nil =>
    cases fraction' with
    | nil => simp
    | cons d fraction' =>
      obtain ⟨width, rfl⟩ : ∃ n, width = n + 1 := ⟨width - 1, by simp at fits'; omega⟩
      have first : ' ' < d := blank (part' d List.mem_cons_self)
      have some := positive part' trimmed'
      simp only [List.nil_append, List.length_nil, Nat.sub_zero, List.replicate_succ,
        List.cons_append, List.cons_lt_cons_iff, first, true_or, Nat.ofDigitChars_nil,
        Nat.zero_mul, true_iff]
      positivity
  | cons c fraction ih =>
    cases fraction' with
    | nil =>
      obtain ⟨width, rfl⟩ : ∃ n, width = n + 1 := ⟨width - 1, by simp at fits; omega⟩
      have first : ' ' < c := blank (part c List.mem_cons_self)
      simp only [List.nil_append, List.length_nil, Nat.sub_zero, List.replicate_succ,
        List.cons_append, List.cons_lt_cons_iff, Nat.ofDigitChars_nil, Nat.zero_mul,
        Nat.not_lt_zero, iff_false, not_or, not_and]
      exact ⟨not_lt.mpr first.le, fun same => absurd same first.ne'⟩
    | cons d fraction' =>
      obtain ⟨width, rfl⟩ : ∃ n, width = n + 1 := ⟨width - 1, by simp at fits; omega⟩
      have before := fun e member => part e (List.mem_cons_of_mem _ member)
      have before' := fun e member => part' e (List.mem_cons_of_mem _ member)
      have later : ∀ {e : Char} {digits : List Char}, (e :: digits).getLast? ≠ some '0' →
          digits.getLast? ≠ some '0' := by
        intro e digits last zero
        cases digits with
        | nil => cases zero
        | cons f digits => exact last (by rw [List.getLast?_cons_cons, zero])
      have shorter : fraction.length ≤ width := Nat.succ_le_succ_iff.mp fits
      have shorter' : fraction'.length ≤ width := Nat.succ_le_succ_iff.mp fits'
      obtain ⟨less, same⟩ :=
        digit_lt_digit (part c List.mem_cons_self) (part' d List.mem_cons_self)
      have shifted : ∀ (e : Char) {digits : List Char}, digits.length ≤ width →
          Nat.ofDigitChars 10 (e :: digits) 0 * 10 ^ (width - digits.length) =
            (e.toNat - '0'.toNat) * 10 ^ width +
              Nat.ofDigitChars 10 digits 0 * 10 ^ (width - digits.length) := by
        intro e digits short
        rw [ofDigitChars_cons_zero, Nat.add_mul, Nat.mul_assoc, ← pow_add,
          Nat.add_sub_cancel' short]
      have inside : ∀ {digits : List Char}, (∀ e ∈ digits, e.isDigit = true) →
          digits.length ≤ width →
          Nat.ofDigitChars 10 digits 0 * 10 ^ (width - digits.length) < 10 ^ width := by
        intro digits whole short
        have bound := ofDigitChars_lt whole 0
        rw [Nat.zero_add, Nat.one_mul] at bound
        calc
          _ < 10 ^ digits.length * 10 ^ (width - digits.length) :=
            Nat.mul_lt_mul_of_pos_right bound (by positivity)
          _ = _ := by rw [← pow_add, Nat.add_sub_cancel' short]
      have tails := ih before before' (later trimmed) (later trimmed') shorter shorter'
      simp only [List.cons_append, List.length_cons, Nat.add_sub_add_right,
        List.cons_lt_cons_iff, less, same, tails, shifted c shorter, shifted d shorter']
      exact (place_lt (inside before shorter) (inside before' shorter')).symm

end Decimal
