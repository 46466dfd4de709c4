import CodexGateway.Billing.Amount

/-! # Canonical decimal texts

What a parser accepts, and that its result is the one text of the number: accepted texts
denote the same number exactly if their results are equal.
-/

namespace Billing

variable {integer fraction canonical : Text} {signed allowZero : Bool} {scale : Nat}

/-! ## The text of a number -/

theorem fixedDigits_add_mul (width a n : Nat) :
    Decimal.fixedDigits width (a * 10 ^ width + n) = Decimal.fixedDigits width n := by
  induction width generalizing n with
  | zero => rfl
  | succ width ih =>
    have split : a * 10 ^ (width + 1) + n = 10 * (a * 10 ^ width) + n := by ring
    have tenth : (a * 10 ^ (width + 1) + n) / 10 = a * 10 ^ width + n / 10 := by omega
    have last : (a * 10 ^ (width + 1) + n) % 10 = n % 10 := by omega
    simp only [Decimal.fixedDigits, tenth, last, ih]

theorem significantInteger_eq (whole : ∀ c ∈ integer, c.isDigit = true) :
    significantInteger integer = Nat.toDigits 10 (Nat.ofDigitChars 10 integer 0) := by
  obtain ⟨present, digits, leading⟩ := integerDigits_significantInteger whole
  obtain ⟨zeroes, split⟩ := replicate_append_trimLeft integer
  have number : Nat.ofDigitChars 10 (significantInteger integer) 0 =
      Nat.ofDigitChars 10 integer 0 := by
    conv_rhs => rw [split, Nat.ofDigitChars_append, Nat.ofDigitChars_replicate_zero, Nat.mul_zero]
    unfold significantInteger
    split
    · rename_i empty
      rw [empty]
      rfl
    · rfl
  rw [← number]
  refine (Decimal.toDigits_ofDigitChars digits present fun zero => ?_).symm
  by_contra long
  exact leading ⟨by omega, zero⟩

theorem canonicalText_eq (whole : ∀ c ∈ integer, c.isDigit = true)
    (part : ∀ c ∈ fraction, c.isDigit = true) :
    canonicalText integer fraction =
      joinGroups (Nat.toDigits 10
          (Nat.ofDigitChars 10 (integer ++ fraction) 0 / 10 ^ fraction.length))
        (Text.trimRight '0' (Decimal.fixedDigits fraction.length
          (Nat.ofDigitChars 10 (integer ++ fraction) 0))) := by
  have small := Decimal.ofDigitChars_lt part 0
  rw [Nat.zero_add, Nat.one_mul] at small
  have number : Nat.ofDigitChars 10 (integer ++ fraction) 0 =
      Nat.ofDigitChars 10 integer 0 * 10 ^ fraction.length + Nat.ofDigitChars 10 fraction 0 := by
    rw [Nat.ofDigitChars_append, Nat.ofDigitChars_eq_ofDigitChars_zero, Nat.mul_comm]
  rw [canonicalText, significantInteger_eq whole, number, fixedDigits_add_mul,
    Decimal.fixedDigits_ofDigitChars part, Nat.mul_comm, Nat.mul_add_div (by positivity),
    Nat.div_eq_of_lt small, Nat.add_zero]

theorem trimRight_append_zeroes (text : Text) (count : Nat) :
    Text.trimRight '0' (text ++ List.replicate count '0') = Text.trimRight '0' text := by
  induction count with
  | zero => rw [List.replicate_zero, List.append_nil]
  | succ count ih =>
    rw [List.replicate_succ', ← List.append_assoc, Text.trimRight,
      List.rdropWhile_concat_pos _ _ _ (by simp)]
    exact ih

theorem canonicalText_unique {integer' fraction' : Text} (whole : ∀ c ∈ integer, c.isDigit = true)
    (part : ∀ c ∈ fraction, c.isDigit = true) (whole' : ∀ c ∈ integer', c.isDigit = true)
    (part' : ∀ c ∈ fraction', c.isDigit = true)
    (same : (Nat.ofDigitChars 10 (integer ++ fraction) 0 : ℚ) / 10 ^ fraction.length =
      (Nat.ofDigitChars 10 (integer' ++ fraction') 0 : ℚ) / 10 ^ fraction'.length) :
    canonicalText integer fraction = canonicalText integer' fraction' := by
  wlog shorter : fraction.length ≤ fraction'.length generalizing integer fraction integer' fraction'
  · exact (this whole' part' whole part same.symm (by omega)).symm
  -- zeroes at the end make the fractions equally long without a change of the text
  obtain ⟨zeroes, longer⟩ := Nat.exists_eq_add_of_le shorter
  have padded : ∀ c ∈ fraction ++ List.replicate zeroes '0', c.isDigit = true := by
    intro c member
    rcases List.mem_append.mp member with old | new
    · exact part c old
    · rw [List.eq_of_mem_replicate new]
      rfl
  have number : Nat.ofDigitChars 10 (integer ++ (fraction ++ List.replicate zeroes '0')) 0 =
      Nat.ofDigitChars 10 (integer' ++ fraction') 0 := by
    rw [← List.append_assoc, ofDigitChars_append_zeroes]
    have power : (10 : ℚ) ^ fraction.length ≠ 0 := pow_ne_zero _ (by norm_num)
    have power' : (10 : ℚ) ^ zeroes ≠ 0 := pow_ne_zero _ (by norm_num)
    rw [longer, pow_add, div_eq_div_iff power (mul_ne_zero power power')] at same
    have cancelled : (Nat.ofDigitChars 10 (integer ++ fraction) 0 : ℚ) * 10 ^ zeroes =
        Nat.ofDigitChars 10 (integer' ++ fraction') 0 :=
      mul_right_cancel₀ power (by linarith)
    exact_mod_cast cancelled
  have length : (fraction ++ List.replicate zeroes '0').length = fraction'.length := by
    rw [List.length_append, List.length_replicate, longer]
  calc canonicalText integer fraction
    _ = canonicalText integer (fraction ++ List.replicate zeroes '0') := by
      rw [canonicalText, canonicalText, trimRight_append_zeroes]
    _ = canonicalText integer' fraction' := by
      rw [canonicalText_eq whole padded, canonicalText_eq whole' part', number, length]

theorem canonicalText_eq_zero (whole : ∀ c ∈ integer, c.isDigit = true)
    (part : ∀ c ∈ fraction, c.isDigit = true) :
    canonicalText integer fraction = ['0'] ↔ ∀ c ∈ integer ++ fraction, c = '0' := by
  constructor
  · intro zero
    have value := value?_canonicalText whole part
    rw [zero, show Decimal.value? ['0'] = some 0 by decide +kernel, Option.some.injEq, eq_comm,
      div_eq_zero_iff] at value
    have none : Nat.ofDigitChars 10 (integer ++ fraction) 0 = 0 := by simpa using value
    exact (Decimal.eq_zero_of_ofDigitChars (fun c member =>
      (List.mem_append.mp member).elim (whole c) (part c)) none).2
  · exact canonicalText_zeroes

/-! ## Signs -/

inductive Sign where
  | none
  | plus
  | minus
  deriving DecidableEq, Repr

def Sign.text : Sign → Text
  | .none => []
  | .plus => ['+']
  | .minus => ['-']

/-- An optionally signed decimal within the limits of a parser. -/
def IsDecimal (scale : Nat) (signed allowZero : Bool) (value : Text) : Prop :=
  ∃ (sign : Sign) (integer fraction : Text), value = sign.text ++ joinGroups integer fraction ∧
    (sign ≠ .none → signed = true) ∧ IntegerDigits integer ∧
    (∀ c ∈ fraction, c.isDigit = true) ∧ integer.length ≤ maxIntegerDigits ∧
    fraction.length ≤ scale ∧ (allowZero = false → ∃ c ∈ integer ++ fraction, c ≠ '0')

theorem parseBounded_sign (sign : Sign) (whole : IntegerDigits integer)
    (part : ∀ c ∈ fraction, c.isDigit = true) (scale : Nat) (allowZero : Bool)
    (allowed : sign ≠ .none → signed = true) :
    parseBounded (sign.text ++ joinGroups integer fraction) scale signed allowZero =
      parseUnsigned (joinGroups integer fraction) scale (sign = .minus) allowZero := by
  cases sign with
  | none => exact parseBounded_joinGroups whole part scale signed allowZero
  | minus =>
    rw [allowed (by decide)]
    exact parseBounded_minus whole part scale allowZero
  | plus =>
    rw [allowed (by decide)]
    obtain ⟨c, tail, same, -⟩ := joinGroups_cons whole.1 whole.2.1 fraction
    have trimmed : Text.trimSpace ('+' :: joinGroups integer fraction) =
        '+' :: joinGroups integer fraction := by
      apply Text.trimSpace_eq_self
      · rintro first ⟨⟩
        rfl
      · intro last member
        rw [same, List.getLast?_cons_cons, ← same] at member
        exact Text.isSpace_digit (getLast?_joinGroups whole.2.1 part last member)
    simp [Sign.text, parseBounded, trimmed]

theorem parseBounded_signed {value : Text}
    (accepted : parseBounded value scale signed allowZero = .ok canonical) :
    ∃ (sign : Sign) (unsigned : Text), value = sign.text ++ unsigned ∧
      (sign ≠ .none → signed = true) ∧
      parseUnsigned unsigned scale (sign = .minus) allowZero = .ok canonical := by
  unfold parseBounded at accepted
  split at accepted
  · cases accepted
  · split at accepted
    · rename_i unsigned _
      split at accepted
      · rename_i allowed
        exact ⟨.minus, unsigned, rfl, fun _ => allowed, accepted⟩
      · cases accepted
    · rename_i unsigned _
      split at accepted
      · rename_i allowed
        exact ⟨.plus, unsigned, rfl, fun _ => allowed, accepted⟩
      · cases accepted
    · exact ⟨.none, _, rfl, fun none => absurd rfl none, accepted⟩

/-- The canonical text behind its sign. -/
def signedText (sign : Sign) (canonical : Text) : Text :=
  if sign = .minus ∧ canonical ≠ ['0'] then '-' :: canonical else canonical

theorem parseBounded_ok {value : Text} :
    parseBounded value scale signed allowZero = .ok canonical ↔
      ∃ (sign : Sign) (integer fraction : Text), value = sign.text ++ joinGroups integer fraction ∧
        (sign ≠ .none → signed = true) ∧ IntegerDigits integer ∧
        (∀ c ∈ fraction, c.isDigit = true) ∧ integer.length ≤ maxIntegerDigits ∧
        fraction.length ≤ scale ∧ (allowZero = false → ∃ c ∈ integer ++ fraction, c ≠ '0') ∧
        canonical = signedText sign (canonicalText integer fraction) := by
  constructor
  · intro accepted
    obtain ⟨sign, unsigned, rfl, allowed, parsed⟩ := parseBounded_signed accepted
    obtain ⟨integer, fraction, rfl, whole, part, short, fits, result⟩ := parseUnsigned_ok.mp parsed
    refine ⟨sign, integer, fraction, rfl, allowed, whole, part, short, fits, ?_⟩
    rcases result with ⟨zero, zeroAllowed, rfl⟩ | ⟨significant, rfl⟩
    · refine ⟨fun refused => by simp [zeroAllowed] at refused, ?_⟩
      simp [signedText, zero]
    · refine ⟨fun _ => ?_, by simp [signedText, significant]⟩
      by_contra zeroes
      push Not at zeroes
      exact significant ((canonicalText_eq_zero whole.2.1 part).mpr zeroes)
  · rintro ⟨sign, integer, fraction, rfl, allowed, whole, part, short, fits, nonzero, rfl⟩
    rw [parseBounded_sign sign whole part scale allowZero allowed]
    refine parseUnsigned_ok.mpr ⟨integer, fraction, rfl, whole, part, short, fits, ?_⟩
    by_cases zero : canonicalText integer fraction = ['0']
    · refine .inl ⟨zero, ?_, by simp [signedText, zero]⟩
      by_contra refused
      obtain ⟨c, member, other⟩ := nonzero (by simpa using refused)
      exact other ((canonicalText_eq_zero whole.2.1 part).mp zero c member)
    · exact .inr ⟨zero, by simp [signedText, zero]⟩

/-- A parser accepts exactly the decimals within its limits. -/
theorem parseBounded_accepts (value : Text) (scale : Nat) (signed allowZero : Bool) :
    (∃ canonical, parseBounded value scale signed allowZero = .ok canonical) ↔
      IsDecimal scale signed allowZero value := by
  constructor
  · rintro ⟨canonical, accepted⟩
    obtain ⟨sign, integer, fraction, same, allowed, whole, part, short, fits, nonzero, -⟩ :=
      parseBounded_ok.mp accepted
    exact ⟨sign, integer, fraction, same, allowed, whole, part, short, fits, nonzero⟩
  · rintro ⟨sign, integer, fraction, same, allowed, whole, part, short, fits, nonzero⟩
    exact ⟨_, parseBounded_ok.mpr
      ⟨sign, integer, fraction, same, allowed, whole, part, short, fits, nonzero, rfl⟩⟩

/-! ## What an accepted text denotes -/

def Sign.factor : Sign → ℚ
  | .minus => -1
  | _ => 1

theorem value?_sign (sign : Sign) (whole : IntegerDigits integer)
    (part : ∀ c ∈ fraction, c.isDigit = true) :
    Decimal.value? (sign.text ++ joinGroups integer fraction) =
      some (sign.factor * ((Nat.ofDigitChars 10 (integer ++ fraction) 0 : ℚ) /
        10 ^ fraction.length)) := by
  have value := value?_joinGroups whole.1 whole.2.1 part
  obtain ⟨c, tail, same, digit⟩ := joinGroups_cons whole.1 whole.2.1 fraction
  rw [same, Decimal.value?_of_digit digit, ← same] at value
  cases sign with
  | none =>
    rw [Sign.text, List.nil_append, same, Decimal.value?_of_digit digit, ← same, value]
    simp [Sign.factor]
  | plus =>
    rw [Sign.text, List.singleton_append, Decimal.value?, value]
    simp [Sign.factor]
  | minus =>
    rw [Sign.text, List.singleton_append, Decimal.value?, value]
    simp [Sign.factor]

theorem value?_signedText (sign : Sign) (whole : IntegerDigits integer)
    (part : ∀ c ∈ fraction, c.isDigit = true) :
    Decimal.value? (signedText sign (canonicalText integer fraction)) =
      some (sign.factor * ((Nat.ofDigitChars 10 (integer ++ fraction) 0 : ℚ) /
        10 ^ fraction.length)) := by
  have value := value?_canonicalText whole.2.1 part
  unfold signedText
  split
  · rename_i negative
    rw [value?_minus_canonicalText whole.2.1, value, negative.1]
    simp [Sign.factor]
  · rename_i unsigned
    by_cases minus : sign = .minus
    · have zero : canonicalText integer fraction = ['0'] := by
        by_contra other
        exact unsigned ⟨minus, other⟩
      rw [zero, show Decimal.value? ['0'] = some 0 by decide +kernel, Option.some.injEq] at value
      rw [zero, ← value, mul_zero]
      decide +kernel
    · have one : sign.factor = 1 := by
        cases sign with
        | minus => exact absurd rfl minus
        | none | plus => rfl
      rw [value, one, one_mul]

theorem value?_parseBounded {value : Text}
    (accepted : parseBounded value scale signed allowZero = .ok canonical) :
    ∃ number, Decimal.value? value = some number ∧ Decimal.value? canonical = some number := by
  obtain ⟨sign, integer, fraction, rfl, -, whole, part, -, -, -, rfl⟩ := parseBounded_ok.mp accepted
  exact ⟨_, value?_sign sign whole part, value?_signedText sign whole part⟩

theorem parseBounded_unique {value value' canonical' : Text} {scale' : Nat}
    {signed' allowZero' : Bool}
    (accepted : parseBounded value scale signed allowZero = .ok canonical)
    (accepted' : parseBounded value' scale' signed' allowZero' = .ok canonical') :
    Decimal.value? value = Decimal.value? value' ↔ canonical = canonical' := by
  obtain ⟨number, denoted, result⟩ := value?_parseBounded accepted
  obtain ⟨number', denoted', result'⟩ := value?_parseBounded accepted'
  constructor
  · intro same
    obtain ⟨sign, integer, fraction, rfl, -, whole, part, -, -, -, rfl⟩ := parseBounded_ok.mp accepted
    obtain ⟨sign', integer', fraction', rfl, -, whole', part', -, -, -, rfl⟩ :=
      parseBounded_ok.mp accepted'
    rw [value?_sign sign whole part, value?_sign sign' whole' part', Option.some.injEq] at same
    have size : (Nat.ofDigitChars 10 (integer ++ fraction) 0 : ℚ) / 10 ^ fraction.length =
        (Nat.ofDigitChars 10 (integer' ++ fraction') 0 : ℚ) / 10 ^ fraction'.length := by
      have positive : (0 : ℚ) ≤ (Nat.ofDigitChars 10 (integer ++ fraction) 0 : ℚ) /
        10 ^ fraction.length := by positivity
      have positive' : (0 : ℚ) ≤ (Nat.ofDigitChars 10 (integer' ++ fraction') 0 : ℚ) /
        10 ^ fraction'.length := by positivity
      cases sign <;> cases sign' <;> simp only [Sign.factor] at same <;> linarith
    have text := canonicalText_unique whole.2.1 part whole'.2.1 part' size
    rw [text]
    by_cases zero : canonicalText integer' fraction' = ['0']
    · simp [signedText, zero]
    · have significant : (Nat.ofDigitChars 10 (integer' ++ fraction') 0 : ℚ) /
          10 ^ fraction'.length ≠ 0 := by
        intro none
        have digits : ∀ c ∈ integer' ++ fraction', c.isDigit = true := fun c member =>
          (List.mem_append.mp member).elim (whole'.2.1 c) (part' c)
        rw [div_eq_zero_iff] at none
        exact zero ((canonicalText_eq_zero whole'.2.1 part').mpr
          (Decimal.eq_zero_of_ofDigitChars digits (by simpa using none)).2)
      rw [size] at same
      have factors := mul_right_cancel₀ significant same
      have signs : sign = .minus ↔ sign' = .minus := by
        cases sign <;> cases sign' <;> simp [Sign.factor] at factors ⊢ <;> norm_num at factors
      simp only [signedText, signs]
  · intro same
    rw [denoted, denoted', ← result, ← result', same]

theorem parseBounded_again {value : Text}
    (accepted : parseBounded value scale signed allowZero = .ok canonical) :
    parseBounded canonical scale signed allowZero = .ok canonical := by
  obtain ⟨sign, integer, fraction, -, allowed, whole, part, short, fits, nonzero, rfl⟩ :=
    parseBounded_ok.mp accepted
  have unsigned : parseBounded (canonicalText integer fraction) scale false allowZero =
      .ok (canonicalText integer fraction) := by
    have zeroAllowed : canonicalText integer fraction = ['0'] → allowZero = true := by
      intro zero
      by_contra refused
      obtain ⟨c, member, other⟩ := nonzero (by simpa using refused)
      exact other ((canonicalText_eq_zero whole.2.1 part).mp zero c member)
    have digits := parseBounded_unsigned_ok.mpr
      ⟨integer, fraction, rfl, whole, part, short, fits, rfl, zeroAllowed⟩
    exact (parseBounded_unsigned_value digits).2.2
  obtain ⟨integer', fraction', same, whole', part', short', fits', again, zeroAllowed⟩ :=
    parseBounded_unsigned_ok.mp unsigned
  have minus : ∃ sign' : Sign, (sign' ≠ .none → signed = true) ∧
      signedText sign (canonicalText integer fraction) =
        sign'.text ++ canonicalText integer fraction ∧
      signedText sign (canonicalText integer fraction) =
        signedText sign' (canonicalText integer fraction) := by
    by_cases negative : sign = .minus ∧ canonicalText integer fraction ≠ ['0']
    · refine ⟨.minus, fun _ => allowed (by simp [negative.1]), ?_, ?_⟩
      · simp [signedText, negative, Sign.text]
      · simp [signedText, negative]
    · refine ⟨.none, fun none => absurd rfl none, ?_, ?_⟩
      · simp only [signedText, if_neg negative, Sign.text, List.nil_append]
      · simp [signedText, if_neg negative]
  obtain ⟨sign', allowed', text, result⟩ := minus
  refine parseBounded_ok.mpr ⟨sign', integer', fraction', ?_, allowed', whole', part', short', fits',
    ?_, ?_⟩
  · rw [text, ← same]
  · intro refused
    by_contra zeroes
    push Not at zeroes
    have zero := (canonicalText_eq_zero whole'.2.1 part').mpr zeroes
    exact absurd (zeroAllowed (again.trans zero)) (by simp [refused])
  · rw [result, ← again]

end Billing
