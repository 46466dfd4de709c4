import CodexGateway.Library.Decimal
import CodexGateway.Library.Strings
import CodexGateway.Library.Transaction

/-! # Exact decimal arithmetic for gateway billing

The functions of `internal/billing/amount.go`. Monetary values are decimal
texts; between texts they are exact rationals, and the only rounding is the
final one to twelve fractional digits.
-/

namespace Billing

open Except (bind_eq_ok refuse_eq_ok throw_eq_error error_bind mapError_eq_ok)

variable {integer fraction canonical multiplier : Text} {scale : Nat} {allowZero : Bool}

def amountScale : Nat := 12
def inputScale : Nat := 6
def rateScale : Nat := 12
def maxIntegerDigits : Nat := 18

def errInvalidDecimal : String := "billing: invalid decimal"

/-- The match of `^(0|[1-9][0-9]*)(?:\.([0-9]+))?$`, as its two groups. The
second group is empty when the text has no point. -/
def decimalPattern (value : Text) : Option (Text × Text) :=
  let integer := value.takeWhile Char.isDigit
  if integer = [] ∨ (1 < integer.length ∧ integer.head? = some '0') then none
  else
    match value.dropWhile Char.isDigit with
    | [] => some (integer, [])
    | '.' :: fraction =>
      if fraction ≠ [] ∧ fraction.all Char.isDigit then some (integer, fraction) else none
    | _ => none

/-- Two groups of digits with a point between them when the second is present. -/
def joinGroups (integer fraction : Text) : Text :=
  if fraction = [] then integer else integer ++ '.' :: fraction

/-- The first group without leading zeroes, but never empty. -/
def significantInteger (integer : Text) : Text :=
  if Text.trimLeft '0' integer = [] then ['0'] else Text.trimLeft '0' integer

/-- The groups of a match without superfluous zeroes. -/
def canonicalText (integer fraction : Text) : Text :=
  joinGroups (significantInteger integer) (Text.trimRight '0' fraction)

/-- The part of `parseBounded` after the sign has been taken off. -/
def parseUnsigned (unsigned : Text) (scale : Nat) (negative allowZero : Bool) :
    Except String Text :=
  match decimalPattern unsigned with
  | none => .error errInvalidDecimal
  | some (integer, fraction) =>
    if maxIntegerDigits < integer.length ∨ scale < fraction.length then
      .error errInvalidDecimal
    else
      let canonical := canonicalText integer fraction
      if canonical = ['0'] then
        if allowZero then .ok canonical else .error errInvalidDecimal
      else .ok (if negative then '-' :: canonical else canonical)

def parseBounded (value : Text) (scale : Nat) (signed allowZero : Bool) : Except String Text :=
  if value = [] ∨ Text.trimSpace value ≠ value then .error errInvalidDecimal
  else
    match value with
    | '-' :: unsigned =>
      if signed then parseUnsigned unsigned scale true allowZero else .error errInvalidDecimal
    | '+' :: unsigned =>
      if signed then parseUnsigned unsigned scale false allowZero else .error errInvalidDecimal
    | unsigned => parseUnsigned unsigned scale false allowZero

def parseInput (value : Text) (signed allowZero : Bool) : Except String Text :=
  parseBounded value inputScale signed allowZero

def parseRate (value : Text) : Except String Text :=
  parseBounded value rateScale false false

def parseMultiplier (value : Text) : Except String Text :=
  parseBounded value amountScale false false

def parsePrice (value : Text) : Except String Text :=
  parseBounded value amountScale false true

/-- `new(big.Rat).SetString` on a text that has passed one of the parsers. -/
def ratOf (canonical : Text) : ℚ :=
  (Decimal.value? canonical).getD 0

def scaledIntegerString (value : Int) (scale : Nat) : Text :=
  let digits := Nat.toDigits 10 value.natAbs
  let digits :=
    if digits.length ≤ scale then List.replicate (scale - digits.length + 1) '0' ++ digits
    else digits
  let formatted := digits.take (digits.length - scale) ++ '.' :: digits.drop (digits.length - scale)
  if value < 0 then '-' :: formatted else formatted

def roundFixed (value : ℚ) (scale : Nat) : Text :=
  let scaledNumerator := value.num * 10 ^ scale
  let quotient := scaledNumerator.tdiv value.den
  let remainder := scaledNumerator.tmod value.den
  let quotient :=
    if remainder ≠ 0 ∧ value.den ≤ 2 * remainder.natAbs then
      if value < 0 then quotient - 1 else quotient + 1
    else quotient
  scaledIntegerString quotient scale

def roundAmount (value : ℚ) : Except String Text :=
  let result := roundFixed value amountScale
  match parseBounded result amountScale true true with
  | .ok _ => .ok result
  | .error _ => .error ("amount exceeds NUMERIC(30,12): " ++ errInvalidDecimal)

def multiplyToAmount (left right : Text) : Except String Text := do
  let left ← (parseInput left false false).mapError ("invalid amount: " ++ ·)
  let right ← (parseRate right).mapError ("invalid rate: " ++ ·)
  roundAmount (ratOf left * ratOf right)

def multiplyCostAndRound (total : ℚ) (multiplier : Text) : Except String Text := do
  let canonical ← (parseMultiplier multiplier).mapError ("invalid pricing multiplier: " ++ ·)
  roundAmount (total * ratOf canonical)

/-- One entry of the price slice that each cost function parses. -/
def parsedPrice (value : Text) : Except String ℚ := do
  let canonical ← (parsePrice value).mapError ("invalid price: " ++ ·)
  return ratOf canonical

def calculateCostWithMultiplier (inputTokens cachedInputTokens outputTokens : Int)
    (inputPrice cachedPrice outputPrice multiplier : Text) : Except String Text := do
  if inputTokens < 0 ∨ cachedInputTokens < 0 ∨ outputTokens < 0 ∨
      cachedInputTokens > inputTokens then
    throw ("invalid token counts: " ++ errInvalidDecimal)
  let input ← parsedPrice inputPrice
  let cached ← parsedPrice cachedPrice
  let output ← parsedPrice outputPrice
  let uncached := inputTokens - cachedInputTokens
  let total := uncached * input + cachedInputTokens * cached + outputTokens * output
  multiplyCostAndRound (total / 1000000) multiplier

def calculateCost (inputTokens cachedInputTokens outputTokens : Int)
    (inputPrice cachedPrice outputPrice : Text) : Except String Text :=
  calculateCostWithMultiplier inputTokens cachedInputTokens outputTokens
    inputPrice cachedPrice outputPrice ['1']

/-- The cache write modes as the pricing catalogue spells them. -/
def cacheWriteSeparate : Text := "separate".toList
def cacheWriteSeparateByTTL : Text := "separate_by_ttl".toList
def cacheWriteIncludedInInput : Text := "included_in_input".toList

def calculateCostV2WithMultiplier
    (inputTokens cachedInputTokens cacheWriteTokens outputTokens : Int) (cacheWriteMode : Text)
    (inputPrice cachedPrice cacheWritePrice outputPrice multiplier : Text) :
    Except String Text := do
  if inputTokens < 0 ∨ cachedInputTokens < 0 ∨ cacheWriteTokens < 0 ∨ outputTokens < 0 ∨
      cachedInputTokens > inputTokens then
    throw ("invalid token counts: " ++ errInvalidDecimal)
  if cacheWriteMode ≠ cacheWriteSeparate ∧ cacheWriteMode ≠ cacheWriteIncludedInInput then
    throw ("invalid cache write mode: " ++ errInvalidDecimal)
  if cacheWriteMode = cacheWriteSeparate ∧ cacheWriteTokens > inputTokens - cachedInputTokens then
    throw ("invalid cache write token counts: " ++ errInvalidDecimal)
  let input ← parsedPrice inputPrice
  let cached ← parsedPrice cachedPrice
  let cacheWrite ← parsedPrice cacheWritePrice
  let output ← parsedPrice outputPrice
  let ordinary :=
    if cacheWriteMode = cacheWriteSeparate then inputTokens - cachedInputTokens - cacheWriteTokens
    else inputTokens - cachedInputTokens
  let total := ordinary * input + cachedInputTokens * cached
  let total :=
    if cacheWriteMode = cacheWriteSeparate then total + cacheWriteTokens * cacheWrite else total
  let total := total + outputTokens * output
  multiplyCostAndRound (total / 1000000) multiplier

def calculateCostV2TTLWithMultiplier
    (inputTokens cachedInputTokens cacheWriteTokens cacheWrite5mTokens cacheWrite1hTokens
      outputTokens : Int) (cacheWriteTTLPresent : Bool)
    (inputPrice cachedPrice cacheWrite5mPrice cacheWrite1hPrice outputPrice multiplier : Text) :
    Except String Text := do
  if inputTokens < 0 ∨ cachedInputTokens < 0 ∨ cacheWriteTokens < 0 ∨
      cacheWrite5mTokens < 0 ∨ cacheWrite1hTokens < 0 ∨ outputTokens < 0 ∨
      cachedInputTokens > inputTokens ∨ cacheWriteTokens > inputTokens - cachedInputTokens then
    throw ("invalid token counts: " ++ errInvalidDecimal)
  if cacheWriteTTLPresent then
    if cacheWrite5mTokens > cacheWriteTokens ∨
        cacheWrite1hTokens ≠ cacheWriteTokens - cacheWrite5mTokens then
      throw ("invalid cache write TTL totals: " ++ errInvalidDecimal)
  else if cacheWrite5mTokens ≠ 0 ∨ cacheWrite1hTokens ≠ 0 then
    throw ("unobserved cache write TTL counts: " ++ errInvalidDecimal)
  let input ← parsedPrice inputPrice
  let cached ← parsedPrice cachedPrice
  let cacheWrite5m ← parsedPrice cacheWrite5mPrice
  let cacheWrite1h ← parsedPrice cacheWrite1hPrice
  let output ← parsedPrice outputPrice
  let total := (inputTokens - cachedInputTokens - cacheWriteTokens) * input +
    cachedInputTokens * cached
  let total :=
    if cacheWriteTTLPresent then
      total + cacheWrite5mTokens * cacheWrite5m + cacheWrite1hTokens * cacheWrite1h
    else
      total + cacheWriteTokens *
        (if cacheWrite1h > cacheWrite5m then cacheWrite1h else cacheWrite5m)
  let total := total + outputTokens * output
  multiplyCostAndRound (total / 1000000) multiplier

/-! ## What the parsers accept -/

/-- A group of digits without a superfluous leading zero. -/
def IntegerDigits (integer : Text) : Prop :=
  integer ≠ [] ∧ (∀ c ∈ integer, c.isDigit = true) ∧
    ¬ (1 < integer.length ∧ integer.head? = some '0')

private theorem takeWhile_digits {digits : Text} (whole : ∀ c ∈ digits, c.isDigit = true)
    (rest : Text) (stop : ∀ c ∈ rest.head?, c.isDigit = false) :
    (digits ++ rest).takeWhile Char.isDigit = digits ∧
      (digits ++ rest).dropWhile Char.isDigit = rest := by
  rw [List.takeWhile_append_of_pos whole, List.dropWhile_append_of_pos whole]
  cases rest with
  | nil => exact ⟨List.append_nil digits, rfl⟩
  | cons c rest =>
    have blocked : ¬ c.isDigit = true := by simp [stop c rfl]
    rw [List.takeWhile_cons_of_neg blocked, List.dropWhile_cons_of_neg blocked]
    exact ⟨List.append_nil digits, rfl⟩

theorem decimalPattern_joinGroups (whole : IntegerDigits integer)
    (part : ∀ c ∈ fraction, c.isDigit = true) :
    decimalPattern (joinGroups integer fraction) = some (integer, fraction) := by
  obtain ⟨nonempty, digits, canonical⟩ := whole
  have shape : ¬ (integer = [] ∨ (1 < integer.length ∧ integer.head? = some '0')) := by
    rintro (empty | leading)
    · exact nonempty empty
    · exact canonical leading
  unfold joinGroups
  split
  · rename_i empty
    obtain ⟨taken, dropped⟩ := takeWhile_digits digits [] (by simp)
    rw [List.append_nil] at taken dropped
    simp only [decimalPattern, taken, dropped, if_neg shape, empty]
  · rename_i present
    obtain ⟨taken, dropped⟩ := takeWhile_digits digits ('.' :: fraction)
      (by rintro c ⟨⟩; rfl)
    have all : fraction.all Char.isDigit = true := List.all_eq_true.mpr part
    simp only [decimalPattern, taken, dropped, if_neg shape, ne_eq, present, not_false_eq_true,
      all, and_self, if_true]

variable {cost value : Text} {negative : Bool} {total : ℚ}

/-- The pattern matches exactly the texts put together from two groups of
digits, the first without a superfluous leading zero. -/
theorem decimalPattern_eq_some :
    decimalPattern value = some (integer, fraction) ↔
      value = joinGroups integer fraction ∧ IntegerDigits integer ∧
        ∀ c ∈ fraction, c.isDigit = true := by
  constructor
  · intro found
    have parts := List.takeWhile_append_dropWhile (p := Char.isDigit) (l := value)
    have digits : ∀ c ∈ value.takeWhile Char.isDigit, c.isDigit = true := fun _ member =>
      List.mem_takeWhile_imp member
    simp only [decimalPattern] at found
    split at found
    · cases found
    · rename_i shape
      rw [not_or] at shape
      split at found
      · rename_i rest
        cases found
        rw [rest, List.append_nil] at parts
        exact ⟨parts.symm, ⟨shape.1, digits, shape.2⟩, by simp⟩
      · rename_i tail rest
        split at found
        · rename_i accepted
          cases found
          rw [rest] at parts
          refine ⟨?_, ⟨shape.1, digits, shape.2⟩, List.all_eq_true.mp accepted.2⟩
          rw [joinGroups, if_neg accepted.1, parts]
        · cases found
      · cases found
  · rintro ⟨rfl, whole, part⟩
    exact decimalPattern_joinGroups whole part

theorem replicate_append_trimLeft (text : Text) :
    ∃ count, text = List.replicate count '0' ++ Text.trimLeft '0' text := by
  refine ⟨(text.takeWhile (· == '0')).length, ?_⟩
  have zeroes : text.takeWhile (· == '0') = List.replicate (text.takeWhile (· == '0')).length '0' :=
    List.eq_replicate_iff.mpr
      ⟨rfl, fun c member => by simpa using List.mem_takeWhile_imp member⟩
  rw [← zeroes]
  exact List.takeWhile_append_dropWhile.symm

theorem trimRight_append_replicate (text : Text) :
    ∃ count, text = Text.trimRight '0' text ++ List.replicate count '0' := by
  obtain ⟨count, same⟩ := replicate_append_trimLeft text.reverse
  refine ⟨count, ?_⟩
  have flipped := congrArg List.reverse same
  rwa [List.reverse_reverse, List.reverse_append, List.reverse_replicate] at flipped

theorem ofDigitChars_append_zeroes (digits : Text) (count : Nat) :
    Nat.ofDigitChars 10 (digits ++ List.replicate count '0') 0 =
      Nat.ofDigitChars 10 digits 0 * 10 ^ count := by
  rw [Nat.ofDigitChars_append, Nat.ofDigitChars_replicate_zero, Nat.mul_comm]

theorem joinGroups_cons (nonempty : integer ≠ []) (whole : ∀ c ∈ integer, c.isDigit = true)
    (fraction : Text) : ∃ c tail, joinGroups integer fraction = c :: tail ∧ c.isDigit = true := by
  cases integer with
  | nil => exact absurd rfl nonempty
  | cons c rest =>
    unfold joinGroups
    split
    · exact ⟨c, rest, rfl, whole c List.mem_cons_self⟩
    · exact ⟨c, rest ++ '.' :: fraction, rfl, whole c List.mem_cons_self⟩

/-- Joined groups denote their digits, read together, with the point in place. -/
theorem value?_joinGroups (nonempty : integer ≠ []) (whole : ∀ c ∈ integer, c.isDigit = true)
    (part : ∀ c ∈ fraction, c.isDigit = true) :
    Decimal.value? (joinGroups integer fraction) =
      some ((Nat.ofDigitChars 10 (integer ++ fraction) 0 : ℚ) / 10 ^ fraction.length) := by
  have unsigned : Decimal.unsignedValue? (joinGroups integer fraction) =
      some ((Nat.ofDigitChars 10 (integer ++ fraction) 0 : ℚ) / 10 ^ fraction.length) := by
    unfold joinGroups
    split
    · rename_i empty
      rw [Decimal.unsignedValue?_digits whole nonempty, empty, List.append_nil, List.length_nil,
        pow_zero, div_one]
    · exact Decimal.unsignedValue?_point whole part nonempty
  obtain ⟨c, tail, same, first⟩ := joinGroups_cons nonempty whole fraction
  rw [same] at unsigned ⊢
  rw [Decimal.value?_of_digit first, unsigned]

theorem value?_canonicalText (whole : ∀ c ∈ integer, c.isDigit = true)
    (part : ∀ c ∈ fraction, c.isDigit = true) :
    Decimal.value? (canonicalText integer fraction) =
      some ((Nat.ofDigitChars 10 (integer ++ fraction) 0 : ℚ) / 10 ^ fraction.length) := by
  obtain ⟨leading, sameInteger⟩ := replicate_append_trimLeft integer
  obtain ⟨trailing, sameFraction⟩ := trimRight_append_replicate fraction
  rw [canonicalText, significantInteger]
  generalize Text.trimLeft '0' integer = kept at *
  generalize Text.trimRight '0' fraction = significant at *
  subst sameInteger sameFraction
  have wholeKept : ∀ c ∈ kept, c.isDigit = true := fun c member =>
    whole c (List.mem_append_right _ member)
  have partKept : ∀ c ∈ significant, c.isDigit = true := fun c member =>
    part c (List.mem_append_left _ member)
  have chosen : ∀ c ∈ (if kept = [] then ['0'] else kept), c.isDigit = true := by
    split
    · simp
    · exact wholeKept
  have digits : Nat.ofDigitChars 10 ((if kept = [] then ['0'] else kept) ++ significant) 0 =
      Nat.ofDigitChars 10 (kept ++ significant) 0 := by
    split
    · rename_i empty
      rw [empty, List.singleton_append, List.nil_append, Nat.ofDigitChars_cons, Nat.sub_self]
    · rfl
  have all : Nat.ofDigitChars 10 (List.replicate leading '0' ++ kept ++
      (significant ++ List.replicate trailing '0')) 0 =
      Nat.ofDigitChars 10 (kept ++ significant) 0 * 10 ^ trailing := by
    rw [← List.append_assoc, ofDigitChars_append_zeroes, List.append_assoc,
      Nat.ofDigitChars_append, Nat.ofDigitChars_replicate_zero, Nat.mul_zero]
  rw [value?_joinGroups (by split <;> simp_all) chosen partKept, digits, all, List.length_append,
    List.length_replicate, pow_add, Nat.cast_mul, Nat.cast_pow, Nat.cast_ofNat,
    mul_div_mul_right _ _ (pow_ne_zero _ (by norm_num))]

theorem getLast?_joinGroups (whole : ∀ c ∈ integer, c.isDigit = true)
    (part : ∀ c ∈ fraction, c.isDigit = true) :
    ∀ c ∈ (joinGroups integer fraction).getLast?, c.isDigit = true := by
  intro c last
  unfold joinGroups at last
  split at last
  · exact whole c (List.mem_of_mem_getLast? last)
  · rename_i present
    rw [← List.singleton_append, ← List.append_assoc,
      List.getLast?_append_of_ne_nil _ present] at last
    exact part c (List.mem_of_mem_getLast? last)

theorem parseBounded_joinGroups (whole : IntegerDigits integer)
    (part : ∀ c ∈ fraction, c.isDigit = true) (scale : Nat) (signed allowZero : Bool) :
    parseBounded (joinGroups integer fraction) scale signed allowZero =
      parseUnsigned (joinGroups integer fraction) scale false allowZero := by
  obtain ⟨c, tail, same, digit⟩ := joinGroups_cons whole.1 whole.2.1 fraction
  have trimmed : Text.trimSpace (joinGroups integer fraction) = joinGroups integer fraction := by
    apply Text.trimSpace_eq_self
    · rw [same]
      rintro first ⟨⟩
      exact Text.isSpace_digit digit
    · exact fun last member => Text.isSpace_digit (getLast?_joinGroups whole.2.1 part last member)
  rw [same] at trimmed ⊢
  unfold parseBounded
  rw [if_neg (by simp [trimmed])]
  split
  · rename_i sign
    cases sign
    exact absurd digit (by decide)
  · rename_i sign
    cases sign
    exact absurd digit (by decide)
  · rfl

theorem parseBounded_minus (whole : IntegerDigits integer)
    (part : ∀ c ∈ fraction, c.isDigit = true) (scale : Nat) (allowZero : Bool) :
    parseBounded ('-' :: joinGroups integer fraction) scale true allowZero =
      parseUnsigned (joinGroups integer fraction) scale true allowZero := by
  obtain ⟨c, tail, same, -⟩ := joinGroups_cons whole.1 whole.2.1 fraction
  have trimmed : Text.trimSpace ('-' :: joinGroups integer fraction) =
      '-' :: joinGroups integer fraction := by
    apply Text.trimSpace_eq_self
    · rintro first ⟨⟩
      rfl
    · intro last member
      rw [same, List.getLast?_cons_cons, ← same] at member
      exact Text.isSpace_digit (getLast?_joinGroups whole.2.1 part last member)
  simp [parseBounded, trimmed]

theorem parseUnsigned_joinGroups (whole : IntegerDigits integer)
    (part : ∀ c ∈ fraction, c.isDigit = true)
    (short : integer.length ≤ maxIntegerDigits) (fits : fraction.length ≤ scale) :
    ∃ canonical, parseUnsigned (joinGroups integer fraction) scale negative true =
      .ok canonical := by
  have bounded : ¬ (maxIntegerDigits < integer.length ∨ scale < fraction.length) := by omega
  simp only [parseUnsigned, decimalPattern_joinGroups whole part, if_neg bounded, if_true]
  split
  · exact ⟨_, rfl⟩
  · exact ⟨_, rfl⟩

/-- The digits are accepted exactly when they are two groups within the limits.
Zero has one text, and only where it is allowed. -/
theorem parseUnsigned_ok {unsigned : Text} :
    parseUnsigned unsigned scale negative allowZero = .ok canonical ↔
      ∃ integer fraction, unsigned = joinGroups integer fraction ∧ IntegerDigits integer ∧
        (∀ c ∈ fraction, c.isDigit = true) ∧ integer.length ≤ maxIntegerDigits ∧
        fraction.length ≤ scale ∧
        (canonicalText integer fraction = ['0'] ∧ allowZero = true ∧ canonical = ['0'] ∨
          canonicalText integer fraction ≠ ['0'] ∧
            canonical = if negative then '-' :: canonicalText integer fraction
              else canonicalText integer fraction) := by
  constructor
  · intro accepted
    unfold parseUnsigned at accepted
    split at accepted
    · cases accepted
    · rename_i integer fraction found
      obtain ⟨same, whole, part⟩ := decimalPattern_eq_some.mp found
      split at accepted
      · cases accepted
      · rename_i bounded
        rw [not_or, not_lt, not_lt] at bounded
        refine ⟨integer, fraction, same, whole, part, bounded.1, bounded.2, ?_⟩
        dsimp only at accepted
        by_cases zero : canonicalText integer fraction = ['0']
        · rw [if_pos zero] at accepted
          cases allowZero with
          | false => simp at accepted
          | true =>
            cases accepted
            exact Or.inl ⟨zero, rfl, zero⟩
        · rw [if_neg zero] at accepted
          cases accepted
          exact Or.inr ⟨zero, rfl⟩
  · rintro ⟨integer, fraction, rfl, whole, part, short, fits, result⟩
    have bounded : ¬ (maxIntegerDigits < integer.length ∨ scale < fraction.length) := by omega
    simp only [parseUnsigned, decimalPattern_joinGroups whole part, if_neg bounded]
    rcases result with ⟨zero, allowed, rfl⟩ | ⟨nonzero, rfl⟩
    · rw [if_pos zero, if_pos allowed, zero]
    · rw [if_neg nonzero]

/-- An unsigned text is accepted exactly when it is two groups of digits within
the limits, and non-zero unless zero is allowed; the result is canonical. -/
theorem parseBounded_unsigned_ok :
    parseBounded value scale false allowZero = .ok canonical ↔
      ∃ integer fraction, value = joinGroups integer fraction ∧ IntegerDigits integer ∧
        (∀ c ∈ fraction, c.isDigit = true) ∧ integer.length ≤ maxIntegerDigits ∧
        fraction.length ≤ scale ∧ canonical = canonicalText integer fraction ∧
        (canonical = ['0'] → allowZero = true) := by
  constructor
  · intro accepted
    have unsigned : parseUnsigned value scale false allowZero = .ok canonical := by
      unfold parseBounded at accepted
      split at accepted
      · cases accepted
      · split at accepted
        · simp at accepted
        · simp at accepted
        · exact accepted
    obtain ⟨integer, fraction, same, whole, part, short, fits, result⟩ :=
      parseUnsigned_ok.mp unsigned
    refine ⟨integer, fraction, same, whole, part, short, fits, ?_⟩
    rcases result with ⟨zero, allowed, rfl⟩ | ⟨nonzero, rfl⟩
    · exact ⟨zero.symm, fun _ => allowed⟩
    · exact ⟨rfl, fun zero => absurd zero nonzero⟩
  · rintro ⟨integer, fraction, rfl, whole, part, short, fits, rfl, allowed⟩
    rw [parseBounded_joinGroups whole part]
    refine parseUnsigned_ok.mpr ⟨integer, fraction, rfl, whole, part, short, fits, ?_⟩
    by_cases zero : canonicalText integer fraction = ['0']
    · exact Or.inl ⟨zero, allowed zero, zero⟩
    · exact Or.inr ⟨zero, rfl⟩

/-! ## Prices -/

theorem integerDigits_significantInteger (whole : ∀ c ∈ integer, c.isDigit = true) :
    IntegerDigits (significantInteger integer) := by
  unfold significantInteger
  split
  · exact ⟨by simp, by simp, by simp⟩
  · rename_i present
    refine ⟨present, fun c member => whole c ((List.dropWhile_sublist _).mem member), ?_⟩
    rintro ⟨-, leading⟩
    have stopped := List.head?_dropWhile_not (· == '0') integer
    rw [Text.trimLeft] at leading
    rw [leading] at stopped
    simp at stopped

private theorem significantInteger_significantInteger (integer : Text) :
    significantInteger (significantInteger integer) = significantInteger integer := by
  by_cases empty : Text.trimLeft '0' integer = []
  · simp only [significantInteger, empty, if_true]
    rfl
  · have again : Text.trimLeft '0' (Text.trimLeft '0' integer) = Text.trimLeft '0' integer :=
      List.dropWhile_idempotent _ integer
    simp only [significantInteger, empty, if_false, again]

theorem canonicalText_groups (integer fraction : Text) :
    canonicalText (significantInteger integer) (Text.trimRight '0' fraction) =
      canonicalText integer fraction := by
  simp only [canonicalText, significantInteger_significantInteger, Text.trimRight,
    List.rdropWhile_idempotent]

/-- An accepted unsigned text denotes a non-negative number; its canonical text
denotes the same number and is accepted as it stands. -/
theorem parseBounded_unsigned_value
    (accepted : parseBounded value scale false allowZero = .ok canonical) :
    0 ≤ ratOf value ∧ ratOf canonical = ratOf value ∧
      parseBounded canonical scale false allowZero = .ok canonical := by
  obtain ⟨integer, fraction, rfl, whole, part, short, fits, rfl, allowed⟩ :=
    parseBounded_unsigned_ok.mp accepted
  have value := value?_joinGroups whole.1 whole.2.1 part
  refine ⟨?_, ?_, ?_⟩
  · rw [ratOf, value, Option.getD_some]
    positivity
  · rw [ratOf, ratOf, value, value?_canonicalText whole.2.1 part]
  · refine parseBounded_unsigned_ok.mpr ⟨_, _, rfl, integerDigits_significantInteger whole.2.1,
      fun c member => part c ?_, ?_, ?_, (canonicalText_groups _ _).symm, allowed⟩
    · exact (List.rdropWhile_prefix (· == '0') fraction).subset member
    · unfold significantInteger
      split
      · decide
      · exact (List.dropWhile_sublist _).length_le.trans short
    · exact (List.rdropWhile_prefix (· == '0') fraction).length_le.trans fits

/-- The texts that may stand for a per-million-token price. -/
def IsPrice (value : Text) : Prop := ∃ canonical, parsePrice value = .ok canonical

/-- The texts that may stand for a model multiplier. -/
def IsMultiplier (value : Text) : Prop := ∃ canonical, parseMultiplier value = .ok canonical

theorem IsPrice.nonneg (price : IsPrice value) : 0 ≤ ratOf value := by
  obtain ⟨canonical, accepted⟩ := price
  exact (parseBounded_unsigned_value accepted).1

theorem parsedPrice_eq (price : IsPrice value) : parsedPrice value = .ok (ratOf value) := by
  obtain ⟨canonical, accepted⟩ := price
  simp only [parsedPrice, accepted, Except.mapError]
  exact congrArg Except.ok (parseBounded_unsigned_value accepted).2.1

theorem multiplyCostAndRound_eq (factor : IsMultiplier multiplier) (total : ℚ) :
    multiplyCostAndRound total multiplier = roundAmount (total * ratOf multiplier) := by
  obtain ⟨canonical, accepted⟩ := factor
  simp only [multiplyCostAndRound, accepted, Except.mapError]
  exact congrArg (fun value => roundAmount (total * value)) (parseBounded_unsigned_value accepted).2.1

/-! ## Rounding -/

theorem scaledIntegerString_eq (value : Int) (scale : Nat) :
    scaledIntegerString value scale = Decimal.fixedText scale value := by
  have digits : ∀ n : Nat,
      (if (Nat.toDigits 10 n).length ≤ scale then
        List.replicate (scale - (Nat.toDigits 10 n).length + 1) '0' ++ Nat.toDigits 10 n
      else Nat.toDigits 10 n) =
        Nat.toDigits 10 (n / 10 ^ scale) ++ Decimal.fixedDigits scale n := by
    intro n
    have positive := Nat.length_toDigits_pos (b := 10) (n := n)
    split
    · rename_i short
      have small : n < 10 ^ scale := (Decimal.length_toDigits_le_iff (by omega)).mp short
      obtain ⟨width, rfl⟩ : ∃ width, scale = width + 1 := ⟨scale - 1, by omega⟩
      rw [Nat.div_eq_of_lt small, ← Decimal.replicate_append_toDigits small, List.replicate_succ]
      rfl
    · rename_i long
      rcases Nat.eq_zero_or_pos scale with rfl | scaled
      · simp [Decimal.fixedDigits]
      · exact Decimal.toDigits_eq_append_fixedDigits
          (not_lt.mp fun small => long ((Decimal.length_toDigits_le_iff scaled).mpr small))
  have cut : (Nat.toDigits 10 (value.natAbs / 10 ^ scale) ++
      Decimal.fixedDigits scale value.natAbs).length - scale =
      (Nat.toDigits 10 (value.natAbs / 10 ^ scale)).length := by
    rw [List.length_append, Decimal.length_fixedDigits, Nat.add_sub_cancel]
  simp only [scaledIntegerString, digits, cut, List.take_left, List.drop_left, Decimal.fixedText]
  split
  · rfl
  · rfl

/-- `roundFixed` renders the exact rational, rounded once half away from zero. -/
theorem roundFixed_eq (value : ℚ) (scale : Nat) :
    roundFixed value scale =
      Decimal.fixedText scale (Decimal.roundHalfAway (value * 10 ^ scale)) := by
  have scaled : value * 10 ^ scale = ((value.num * 10 ^ scale : Int) : ℚ) / (value.den : ℚ) := by
    conv_lhs => rw [← Rat.num_div_den value]
    push_cast
    ring
  have sign : value.num * 10 ^ scale < 0 ↔ value < 0 := by
    rw [← Rat.num_neg, mul_neg_iff]
    have : (0 : Int) < 10 ^ scale := by positivity
    constructor
    · rintro (⟨-, impossible⟩ | ⟨negative, -⟩)
      · omega
      · exact negative
    · exact fun negative => Or.inr ⟨negative, this⟩
  rw [scaled, Decimal.roundHalfAway_tdiv _ _ value.den_pos, roundFixed, scaledIntegerString_eq]
  simp only [sign]

theorem fixedText_groups (n : Int) : ∃ integer fraction, IntegerDigits integer ∧
    (∀ c ∈ fraction, c.isDigit = true) ∧ fraction.length = amountScale ∧
    Decimal.fixedText amountScale n = (if n < 0 then ['-'] else []) ++ joinGroups integer fraction ∧
    (integer.length ≤ maxIntegerDigits ↔ n.natAbs < 10 ^ (amountScale + maxIntegerDigits)) := by
  refine ⟨Nat.toDigits 10 (n.natAbs / 10 ^ amountScale), Decimal.fixedDigits amountScale n.natAbs,
    ⟨Nat.toDigits_ne_nil, ?_, ?_⟩, ?_, Decimal.length_fixedDigits _ _, ?_, ?_⟩
  · intro c member
    exact Nat.isDigit_of_mem_toDigits (by decide) (by decide) member
  · rintro ⟨long, leading⟩
    rcases Nat.eq_zero_or_pos (n.natAbs / 10 ^ amountScale) with zero | positive
    · rw [zero] at long
      exact absurd long (by decide)
    · exact Decimal.head?_toDigits_ne_zero positive leading
  · intro c member
    exact Decimal.isDigit_of_mem_fixedDigits member
  · have present : Decimal.fixedDigits amountScale n.natAbs ≠ [] :=
      List.ne_nil_of_length_eq_add_one (Decimal.length_fixedDigits _ _)
    rw [joinGroups, if_neg present, Decimal.fixedText]
  · rw [Decimal.length_toDigits_le_iff (by decide), pow_add,
      Nat.div_lt_iff_lt_mul (by positivity), Nat.mul_comm]

theorem parseBounded_fixedText (n : Int) :
    (∃ canonical, parseBounded (Decimal.fixedText amountScale n) amountScale true true =
      .ok canonical) ↔ n.natAbs < 10 ^ (amountScale + maxIntegerDigits) := by
  obtain ⟨integer, fraction, whole, part, length, text, range⟩ := fixedText_groups n
  have signed : parseBounded (Decimal.fixedText amountScale n) amountScale true true =
      parseUnsigned (joinGroups integer fraction) amountScale (decide (n < 0)) true := by
    rw [text]
    by_cases negative : n < 0
    · rw [if_pos negative, List.singleton_append, parseBounded_minus whole part]
      simp [negative]
    · rw [if_neg negative, List.nil_append, parseBounded_joinGroups whole part]
      simp [negative]
  rw [signed, ← range]
  constructor
  · rintro ⟨canonical, accepted⟩
    by_contra long
    simp only [parseUnsigned, decimalPattern_joinGroups whole part,
      if_pos (Or.inl (not_le.mp long))] at accepted
    cases accepted
  · intro short
    exact parseUnsigned_joinGroups whole part short length.le

theorem parseBounded_fixedText_unsigned {n : Int} (nonneg : 0 ≤ n)
    (range : n.natAbs < 10 ^ (amountScale + maxIntegerDigits))
    (allowed : n = 0 → allowZero = true) :
    ∃ canonical, parseBounded (Decimal.fixedText amountScale n) amountScale false allowZero =
      .ok canonical := by
  obtain ⟨integer, fraction, whole, part, length, text, short⟩ := fixedText_groups n
  rw [if_neg (not_lt.mpr nonneg), List.nil_append] at text
  refine ⟨canonicalText integer fraction, parseBounded_unsigned_ok.mpr ⟨integer, fraction, text,
    whole, part, short.mpr range, length.le, rfl, ?_⟩⟩
  intro zero
  apply allowed
  have value := Decimal.value?_fixedText amountScale n
  rw [text, value?_joinGroups whole.1 whole.2.1 part, ← value?_canonicalText whole.2.1 part, zero,
    show Decimal.value? ['0'] = some 0 by decide +kernel, Option.some.injEq, eq_comm,
    div_eq_zero_iff] at value
  simpa using value

theorem canonicalText_zeroes (zeroes : ∀ c ∈ integer ++ fraction, c = '0') :
    canonicalText integer fraction = ['0'] := by
  have leading : Text.trimLeft '0' integer = [] := by
    apply List.dropWhile_eq_nil_iff.mpr
    intro c member
    simp [zeroes c (List.mem_append_left _ member)]
  have trailing : Text.trimRight '0' fraction = [] := by
    apply List.rdropWhile_eq_nil_iff.mpr
    intro c member
    simp [zeroes c (List.mem_append_right _ member)]
  rw [canonicalText, significantInteger, if_pos leading, trailing]
  rfl

theorem value?_minus_canonicalText (whole : ∀ c ∈ integer, c.isDigit = true) :
    Decimal.value? ('-' :: canonicalText integer fraction) =
      (Decimal.value? (canonicalText integer fraction)).map fun x => -x := by
  have first := integerDigits_significantInteger whole
  obtain ⟨c, tail, same, digit⟩ :=
    joinGroups_cons first.1 first.2.1 (Text.trimRight '0' fraction)
  rw [canonicalText, same, Decimal.value?_of_digit digit]
  rfl

/-- What an accepted text denotes: a whole number of units within the range of
the column, not negative without a sign and not zero where zero is refused. -/
theorem parseBounded_units {signed : Bool}
    (accepted : parseBounded value scale signed allowZero = .ok canonical)
    (fits : scale ≤ amountScale) :
    ∃ n : Int, Decimal.value? canonical = some ((n : ℚ) / 10 ^ amountScale) ∧
      n.natAbs < 10 ^ (amountScale + maxIntegerDigits) ∧ (signed = false → 0 ≤ n) ∧
      (allowZero = false → n ≠ 0) := by
  obtain ⟨unsigned, negative, sign, parsed⟩ : ∃ unsigned negative, (signed = false → negative = false) ∧
      parseUnsigned unsigned scale negative allowZero = .ok canonical := by
    unfold parseBounded at accepted
    split at accepted
    · cases accepted
    · split at accepted
      · split at accepted
        · exact ⟨_, true, by simp_all, accepted⟩
        · cases accepted
      · split at accepted
        · exact ⟨_, false, by simp_all, accepted⟩
        · cases accepted
      · exact ⟨_, false, fun _ => rfl, accepted⟩
  obtain ⟨integer, fraction, -, whole, part, short, length, result⟩ := parseUnsigned_ok.mp parsed
  have digits : ∀ c ∈ integer ++ fraction, c.isDigit = true := by
    intro c member
    rcases List.mem_append.mp member with before | after
    · exact whole.2.1 c before
    · exact part c after
  have bound := Decimal.ofDigitChars_lt digits 0
  have unsignedValue := value?_canonicalText whole.2.1 part
  set read := Nat.ofDigitChars 10 (integer ++ fraction) 0 with readEq
  -- shifting the point to the last stored decimal makes the digits whole units
  have shift : (read : ℚ) / 10 ^ fraction.length =
      ((read * 10 ^ (amountScale - fraction.length) : Nat) : ℚ) / 10 ^ amountScale := by
    rw [Nat.cast_mul, Nat.cast_pow, Nat.cast_ofNat,
      ← Nat.sub_add_cancel (length.trans fits), pow_add, Nat.add_sub_cancel,
      mul_comm (10 ^ (amountScale - fraction.length)),
      mul_div_mul_right _ _ (pow_ne_zero _ (by norm_num))]
  have range : read * 10 ^ (amountScale - fraction.length) <
      10 ^ (amountScale + maxIntegerDigits) := by
    calc
      _ < 10 ^ (integer.length + fraction.length) * 10 ^ (amountScale - fraction.length) := by
        apply Nat.mul_lt_mul_of_pos_right _ (by positivity)
        simpa using bound
      _ = 10 ^ (integer.length + fraction.length + (amountScale - fraction.length)) := by
        rw [← pow_add]
      _ ≤ _ := Nat.pow_le_pow_right (by decide) (by omega)
  have nonzero : canonicalText integer fraction ≠ ['0'] →
      read * 10 ^ (amountScale - fraction.length) ≠ 0 := by
    intro significant zero
    apply significant
    have none : read = 0 := by
      rcases Nat.mul_eq_zero.mp zero with none | power
      · exact none
      · exact absurd power (by positivity)
    obtain ⟨-, zeroes⟩ := Decimal.eq_zero_of_ofDigitChars digits none
    exact canonicalText_zeroes fun c member => zeroes c member
  rw [shift] at unsignedValue
  rcases result with ⟨zero, allowed, rfl⟩ | ⟨significant, rfl⟩
  · refine ⟨0, by decide +kernel, by decide, fun _ => le_rfl, ?_⟩
    intro refused
    simp [allowed] at refused
  · cases negative with
    | false =>
      refine ⟨(read * 10 ^ (amountScale - fraction.length) : Nat), ?_, ?_,
        fun _ => Int.natCast_nonneg _, fun _ => Int.natCast_ne_zero.mpr (nonzero significant)⟩
      · rw [if_neg Bool.false_ne_true, unsignedValue, Int.cast_natCast]
      · rw [Int.natAbs_natCast]
        exact range
    | true =>
      refine ⟨-((read * 10 ^ (amountScale - fraction.length) : Nat) : Int), ?_, ?_,
        fun unsigned => absurd (sign unsigned) (by simp),
        fun _ => neg_ne_zero.mpr (Int.natCast_ne_zero.mpr (nonzero significant))⟩
      · rw [if_pos rfl, value?_minus_canonicalText whole.2.1, unsignedValue, Option.map_some,
          Int.cast_neg, Int.cast_natCast, neg_div]
      · rw [Int.natAbs_neg, Int.natAbs_natCast]
        exact range

/-- Rounding an amount fails exactly when the rounded amount has more than
eighteen integral digits. -/
theorem roundAmount_eq (value : ℚ) :
    roundAmount value =
      if (Decimal.roundHalfAway (value * 10 ^ amountScale)).natAbs <
          10 ^ (amountScale + maxIntegerDigits) then
        .ok (Decimal.fixedText amountScale (Decimal.roundHalfAway (value * 10 ^ amountScale)))
      else .error ("amount exceeds NUMERIC(30,12): " ++ errInvalidDecimal) := by
  have range := parseBounded_fixedText (Decimal.roundHalfAway (value * 10 ^ amountScale))
  simp only [roundAmount, roundFixed_eq]
  split
  · rename_i accepted
    rw [if_pos (range.mp ⟨_, accepted⟩)]
  · rename_i rejected
    rw [if_neg fun inside => ?_]
    obtain ⟨canonical, accepted⟩ := range.mpr inside
    rw [accepted] at rejected
    cases rejected

/-! ## Costs -/

section Costs

variable {inputTokens cachedInputTokens cacheWriteTokens cacheWrite5mTokens cacheWrite1hTokens
  outputTokens : Int}
variable {inputPrice cachedPrice cacheWritePrice cacheWrite5mPrice cacheWrite1hPrice outputPrice
  multiplier : Text}

/-- With valid counts and prices the three-price cost is the exact sum, times
the multiplier, rounded once. -/
theorem calculateCostWithMultiplier_eq
    (counts : 0 ≤ cachedInputTokens ∧ cachedInputTokens ≤ inputTokens ∧ 0 ≤ outputTokens)
    (input : IsPrice inputPrice) (cached : IsPrice cachedPrice) (output : IsPrice outputPrice)
    (factor : IsMultiplier multiplier) :
    calculateCostWithMultiplier inputTokens cachedInputTokens outputTokens inputPrice cachedPrice
        outputPrice multiplier =
      roundAmount (((inputTokens - cachedInputTokens : Int) * ratOf inputPrice +
        cachedInputTokens * ratOf cachedPrice + outputTokens * ratOf outputPrice) / 1000000 *
          ratOf multiplier) := by
  have valid : ¬ (inputTokens < 0 ∨ cachedInputTokens < 0 ∨ outputTokens < 0 ∨
      cachedInputTokens > inputTokens) := by omega
  simp only [calculateCostWithMultiplier, if_neg valid, parsedPrice_eq input, parsedPrice_eq cached,
    parsedPrice_eq output]
  exact multiplyCostAndRound_eq factor _

/-- With valid counts and prices the four-price cost is the exact sum, times
the multiplier, rounded once. Cache writes are a category of their own only
in separate mode. -/
theorem calculateCostV2WithMultiplier_eq {cacheWriteMode : Text}
    (counts : 0 ≤ cachedInputTokens ∧ cachedInputTokens ≤ inputTokens ∧ 0 ≤ cacheWriteTokens ∧
      0 ≤ outputTokens)
    (mode : cacheWriteMode = cacheWriteSeparate ∨ cacheWriteMode = cacheWriteIncludedInInput)
    (writes : cacheWriteMode = cacheWriteSeparate →
      cacheWriteTokens ≤ inputTokens - cachedInputTokens)
    (input : IsPrice inputPrice) (cached : IsPrice cachedPrice)
    (cacheWrite : IsPrice cacheWritePrice) (output : IsPrice outputPrice)
    (factor : IsMultiplier multiplier) :
    calculateCostV2WithMultiplier inputTokens cachedInputTokens cacheWriteTokens outputTokens
        cacheWriteMode inputPrice cachedPrice cacheWritePrice outputPrice multiplier =
      roundAmount (((if cacheWriteMode = cacheWriteSeparate then
          (inputTokens - cachedInputTokens - cacheWriteTokens : Int) * ratOf inputPrice +
            cachedInputTokens * ratOf cachedPrice + cacheWriteTokens * ratOf cacheWritePrice
        else
          (inputTokens - cachedInputTokens : Int) * ratOf inputPrice +
            cachedInputTokens * ratOf cachedPrice) + outputTokens * ratOf outputPrice) / 1000000 *
          ratOf multiplier) := by
  have valid : ¬ (inputTokens < 0 ∨ cachedInputTokens < 0 ∨ cacheWriteTokens < 0 ∨
      outputTokens < 0 ∨ cachedInputTokens > inputTokens) := by omega
  have known : ¬ (cacheWriteMode ≠ cacheWriteSeparate ∧
      cacheWriteMode ≠ cacheWriteIncludedInInput) := by tauto
  have fits : ¬ (cacheWriteMode = cacheWriteSeparate ∧
      cacheWriteTokens > inputTokens - cachedInputTokens) := fun both => by
    have := writes both.1
    omega
  simp only [calculateCostV2WithMultiplier, if_neg valid, if_neg known, if_neg fits,
    parsedPrice_eq input, parsedPrice_eq cached, parsedPrice_eq cacheWrite, parsedPrice_eq output]
  refine (multiplyCostAndRound_eq factor _).trans ?_
  split <;> rfl

/-- With valid counts and prices the cost by cache lifetime is the exact sum,
times the multiplier, rounded once. Without the split all cache writes take
the higher of the two write prices. -/
theorem calculateCostV2TTLWithMultiplier_eq {cacheWriteTTLPresent : Bool}
    (counts : 0 ≤ cachedInputTokens ∧ cachedInputTokens ≤ inputTokens ∧ 0 ≤ cacheWriteTokens ∧
      cacheWriteTokens ≤ inputTokens - cachedInputTokens ∧ 0 ≤ outputTokens)
    (lifetimes : if cacheWriteTTLPresent then
        0 ≤ cacheWrite5mTokens ∧ cacheWrite5mTokens ≤ cacheWriteTokens ∧
          cacheWrite1hTokens = cacheWriteTokens - cacheWrite5mTokens
      else cacheWrite5mTokens = 0 ∧ cacheWrite1hTokens = 0)
    (input : IsPrice inputPrice) (cached : IsPrice cachedPrice)
    (cacheWrite5m : IsPrice cacheWrite5mPrice) (cacheWrite1h : IsPrice cacheWrite1hPrice)
    (output : IsPrice outputPrice) (factor : IsMultiplier multiplier) :
    calculateCostV2TTLWithMultiplier inputTokens cachedInputTokens cacheWriteTokens
        cacheWrite5mTokens cacheWrite1hTokens outputTokens cacheWriteTTLPresent inputPrice
        cachedPrice cacheWrite5mPrice cacheWrite1hPrice outputPrice multiplier =
      roundAmount (((inputTokens - cachedInputTokens - cacheWriteTokens : Int) * ratOf inputPrice +
        cachedInputTokens * ratOf cachedPrice +
        (if cacheWriteTTLPresent then
          cacheWrite5mTokens * ratOf cacheWrite5mPrice + cacheWrite1hTokens * ratOf cacheWrite1hPrice
        else cacheWriteTokens * max (ratOf cacheWrite5mPrice) (ratOf cacheWrite1hPrice)) +
        outputTokens * ratOf outputPrice) / 1000000 * ratOf multiplier) := by
  have valid : ¬ (inputTokens < 0 ∨ cachedInputTokens < 0 ∨ cacheWriteTokens < 0 ∨
      cacheWrite5mTokens < 0 ∨ cacheWrite1hTokens < 0 ∨ outputTokens < 0 ∨
      cachedInputTokens > inputTokens ∨ cacheWriteTokens > inputTokens - cachedInputTokens) := by
    cases cacheWriteTTLPresent <;> simp only [Bool.false_eq_true, if_false, if_true] at lifetimes <;>
      omega
  cases cacheWriteTTLPresent with
  | true =>
    simp only [if_true] at lifetimes ⊢
    have totals : ¬ (cacheWrite5mTokens > cacheWriteTokens ∨
        cacheWrite1hTokens ≠ cacheWriteTokens - cacheWrite5mTokens) := by omega
    simp only [calculateCostV2TTLWithMultiplier, if_neg valid, if_true, if_neg totals,
      parsedPrice_eq input, parsedPrice_eq cached, parsedPrice_eq cacheWrite5m,
      parsedPrice_eq cacheWrite1h, parsedPrice_eq output]
    refine (multiplyCostAndRound_eq factor _).trans ?_
    congr 1
    push_cast
    ring
  | false =>
    simp only [Bool.false_eq_true, if_false] at lifetimes ⊢
    have unobserved : ¬ (cacheWrite5mTokens ≠ 0 ∨ cacheWrite1hTokens ≠ 0) := by omega
    simp only [calculateCostV2TTLWithMultiplier, if_neg valid, Bool.false_eq_true, if_false,
      if_neg unobserved, parsedPrice_eq input, parsedPrice_eq cached,
      parsedPrice_eq cacheWrite5m, parsedPrice_eq cacheWrite1h, parsedPrice_eq output]
    refine (multiplyCostAndRound_eq factor _).trans ?_
    push_cast
    rw [max_def_lt]

end Costs


/-! ## What a computed cost looks like -/

/-- A stored amount that is not negative and fits its column. -/
def IsCost (cost : Text) : Prop :=
  ∃ units : Int, 0 ≤ units ∧ units.natAbs < 10 ^ (amountScale + maxIntegerDigits) ∧
    cost = Decimal.fixedText amountScale units

private theorem parsedPrice_nonneg {price : ℚ}
    (accepted : parsedPrice value = .ok price) : 0 ≤ price := by
  simp only [parsedPrice, bind_eq_ok, mapError_eq_ok, Except.pure_eq, Except.ok.injEq] at accepted
  obtain ⟨canonical, parsed, rfl⟩ := accepted
  obtain ⟨nonneg, same, -⟩ := parseBounded_unsigned_value parsed
  rw [same]
  exact nonneg

theorem roundAmount_ok {value : ℚ} {text : Text} (rounded : roundAmount value = .ok text) :
    (Decimal.roundHalfAway (value * 10 ^ amountScale)).natAbs <
        10 ^ (amountScale + maxIntegerDigits) ∧
      text = Decimal.fixedText amountScale (Decimal.roundHalfAway (value * 10 ^ amountScale)) := by
  rw [roundAmount_eq] at rounded
  split at rounded
  · cases rounded
    exact ⟨‹_›, rfl⟩
  · cases rounded

private theorem isCost_multiplyCostAndRound (nonneg : 0 ≤ total)
    (computed : multiplyCostAndRound total multiplier = .ok cost) : IsCost cost := by
  simp only [multiplyCostAndRound, bind_eq_ok, mapError_eq_ok] at computed
  obtain ⟨canonical, parsed, rounded⟩ := computed
  obtain ⟨range, text⟩ := roundAmount_ok rounded
  obtain ⟨factor, same, -⟩ := parseBounded_unsigned_value parsed
  rw [← same] at factor
  exact ⟨_, Decimal.roundHalfAway_nonneg (mul_nonneg (mul_nonneg nonneg factor) (by positivity)),
    range, text⟩

private theorem isCost_perMillion (nonneg : 0 ≤ total)
    (computed : multiplyCostAndRound (total / 1000000) multiplier = .ok cost) : IsCost cost :=
  isCost_multiplyCostAndRound (div_nonneg nonneg (by norm_num)) computed

section Shape

variable {inputTokens cachedInputTokens cacheWriteTokens cacheWrite5mTokens cacheWrite1hTokens
  outputTokens : Int} {cacheWriteTTLPresent : Bool}
variable {inputPrice cachedPrice cacheWritePrice cacheWrite5mPrice cacheWrite1hPrice outputPrice
  multiplier cacheWriteMode cost : Text}

theorem isCost_calculateCostWithMultiplier
    (computed : calculateCostWithMultiplier inputTokens cachedInputTokens outputTokens inputPrice
      cachedPrice outputPrice multiplier = .ok cost) : IsCost cost := by
  simp only [calculateCostWithMultiplier, throw_eq_error, error_bind,
    refuse_eq_ok, bind_eq_ok] at computed
  obtain ⟨counts, input, inputOk, cached, cachedOk, output, outputOk, computed⟩ := computed
  refine isCost_perMillion (add_nonneg (add_nonneg ?_ ?_) ?_) computed
  · exact mul_nonneg (Int.cast_nonneg (by omega)) (parsedPrice_nonneg inputOk)
  · exact mul_nonneg (Int.cast_nonneg (by omega)) (parsedPrice_nonneg cachedOk)
  · exact mul_nonneg (Int.cast_nonneg (by omega)) (parsedPrice_nonneg outputOk)

theorem isCost_calculateCostV2WithMultiplier
    (computed : calculateCostV2WithMultiplier inputTokens cachedInputTokens cacheWriteTokens
      outputTokens cacheWriteMode inputPrice cachedPrice cacheWritePrice outputPrice multiplier =
        .ok cost) : IsCost cost := by
  simp only [calculateCostV2WithMultiplier, throw_eq_error, error_bind,
    refuse_eq_ok, bind_eq_ok] at computed
  obtain ⟨counts, -, writes, input, inputOk, cached, cachedOk, cacheWrite, cacheWriteOk, output,
    outputOk, computed⟩ := computed
  have cachedPart : (0 : ℚ) ≤ cachedInputTokens * cached :=
    mul_nonneg (Int.cast_nonneg (by omega)) (parsedPrice_nonneg cachedOk)
  have outputPart : (0 : ℚ) ≤ outputTokens * output :=
    mul_nonneg (Int.cast_nonneg (by omega)) (parsedPrice_nonneg outputOk)
  by_cases separate : cacheWriteMode = cacheWriteSeparate
  · have fits : ¬ cacheWriteTokens > inputTokens - cachedInputTokens :=
      fun exceeds => writes ⟨separate, exceeds⟩
    simp only [if_pos separate] at computed
    refine isCost_perMillion (add_nonneg (add_nonneg (add_nonneg ?_ cachedPart) ?_) outputPart)
      computed
    · exact mul_nonneg (Int.cast_nonneg (by omega)) (parsedPrice_nonneg inputOk)
    · exact mul_nonneg (Int.cast_nonneg (by omega)) (parsedPrice_nonneg cacheWriteOk)
  · simp only [if_neg separate] at computed
    refine isCost_perMillion (add_nonneg (add_nonneg ?_ cachedPart) outputPart) computed
    exact mul_nonneg (Int.cast_nonneg (by omega)) (parsedPrice_nonneg inputOk)

theorem isCost_calculateCostV2TTLWithMultiplier
    (computed : calculateCostV2TTLWithMultiplier inputTokens cachedInputTokens cacheWriteTokens
      cacheWrite5mTokens cacheWrite1hTokens outputTokens cacheWriteTTLPresent inputPrice cachedPrice
      cacheWrite5mPrice cacheWrite1hPrice outputPrice multiplier = .ok cost) : IsCost cost := by
  unfold calculateCostV2TTLWithMultiplier at computed
  cases cacheWriteTTLPresent with
  | true =>
    simp only [throw_eq_error, error_bind, refuse_eq_ok, if_true, bind_eq_ok] at computed
    obtain ⟨counts, -, input, inputOk, cached, cachedOk, fiveMinutes, fiveMinutesOk, oneHour,
      oneHourOk, output, outputOk, computed⟩ := computed
    refine isCost_perMillion (add_nonneg (add_nonneg (add_nonneg (add_nonneg ?_ ?_) ?_) ?_) ?_)
      computed
    · have uncached : (0 : ℚ) ≤ (inputTokens - cachedInputTokens - cacheWriteTokens : Int) :=
        Int.cast_nonneg (by omega)
      push_cast at uncached
      exact mul_nonneg uncached (parsedPrice_nonneg inputOk)
    · exact mul_nonneg (Int.cast_nonneg (by omega)) (parsedPrice_nonneg cachedOk)
    · exact mul_nonneg (Int.cast_nonneg (by omega)) (parsedPrice_nonneg fiveMinutesOk)
    · exact mul_nonneg (Int.cast_nonneg (by omega)) (parsedPrice_nonneg oneHourOk)
    · exact mul_nonneg (Int.cast_nonneg (by omega)) (parsedPrice_nonneg outputOk)
  | false =>
    simp only [throw_eq_error, error_bind, refuse_eq_ok, Bool.false_eq_true,
      if_false, bind_eq_ok] at computed
    obtain ⟨counts, -, input, inputOk, cached, cachedOk, fiveMinutes, fiveMinutesOk, oneHour,
      oneHourOk, output, outputOk, computed⟩ := computed
    refine isCost_perMillion (add_nonneg (add_nonneg (add_nonneg ?_ ?_) ?_) ?_) computed
    · have uncached : (0 : ℚ) ≤ (inputTokens - cachedInputTokens - cacheWriteTokens : Int) :=
        Int.cast_nonneg (by omega)
      push_cast at uncached
      exact mul_nonneg uncached (parsedPrice_nonneg inputOk)
    · exact mul_nonneg (Int.cast_nonneg (by omega)) (parsedPrice_nonneg cachedOk)
    · refine mul_nonneg (Int.cast_nonneg (by omega)) ?_
      split
      · exact parsedPrice_nonneg oneHourOk
      · exact parsedPrice_nonneg fiveMinutesOk
    · exact mul_nonneg (Int.cast_nonneg (by omega)) (parsedPrice_nonneg outputOk)

end Shape

end Billing
