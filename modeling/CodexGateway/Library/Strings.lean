import Mathlib

/-! # Go string functions

Texts are lists of code points. The functions follow the documented behaviour
of Go's `strings` and `unicode` packages, as far as callers can observe it.
-/

/-- A string of valid UTF-8, as its code points. -/
abbrev Text := List Char

instance Text.lawfulBEq : LawfulBEq Text := inferInstance

namespace Text

/-- `unicode.IsSpace`. -/
def isSpace (c : Char) : Bool :=
  c.toNat ∈ [0x09, 0x0A, 0x0B, 0x0C, 0x0D, 0x20, 0x85, 0xA0, 0x1680, 0x2028, 0x2029, 0x202F,
    0x205F, 0x3000] || (0x2000 ≤ c.toNat && c.toNat ≤ 0x200A)

/-- `strings.TrimSpace`. -/
def trimSpace (text : Text) : Text :=
  (text.dropWhile isSpace).rdropWhile isSpace

/-- `strings.TrimLeft` with one cut character. -/
def trimLeft (cut : Char) (text : Text) : Text :=
  text.dropWhile (· == cut)

/-- `strings.TrimRight` with one cut character. -/
def trimRight (cut : Char) (text : Text) : Text :=
  text.rdropWhile (· == cut)

/-- `unicode.ToLower` as far as it can produce an ASCII letter: the Kelvin sign
and the dotted capital I are the only other code points that do. -/
def lowerRune (c : Char) : Char :=
  if c.toNat = 0x212A then 'k' else if c.toNat = 0x0130 then 'i' else c.toLower

/-- `strings.ToLower`, for comparison with ASCII words. -/
def toLower (text : Text) : Text :=
  text.map lowerRune

/-- The length in bytes of the UTF-8 encoding, which is Go's `len`. -/
def byteLength (text : Text) : Nat :=
  (text.map Char.utf8Size).sum

/-- `strconv.FormatInt` in base ten. -/
def ofInt (n : Int) : Text :=
  if n < 0 then '-' :: Nat.toDigits 10 n.natAbs else Nat.toDigits 10 n.natAbs

theorem mem_ofInt {n : Int} {c : Char} (member : c ∈ ofInt n) : c = '-' ∨ c.isDigit = true := by
  unfold ofInt at member
  split at member
  · rcases List.mem_cons.mp member with rfl | digit
    · exact .inl rfl
    · exact .inr (Nat.isDigit_of_mem_toDigits (by decide) (by decide) digit)
  · exact .inr (Nat.isDigit_of_mem_toDigits (by decide) (by decide) member)

theorem ofInt_injective : Function.Injective ofInt := by
  have digits : ∀ {m n : Nat}, Nat.toDigits 10 m = Nat.toDigits 10 n → m = n := by
    intro m n same
    have value := congrArg (Nat.ofDigitChars 10 · 0) same
    simpa only [Nat.ofDigitChars_toDigits (b := 10) (by decide) (by decide)] using value
  have unsigned : ∀ {m n : Nat}, Nat.toDigits 10 m ≠ '-' :: Nat.toDigits 10 n := by
    intro m n same
    have digit := Nat.isDigit_of_mem_toDigits (b := 10) (n := m) (c := '-') (by decide) (by decide)
      (by rw [same]; exact List.mem_cons_self)
    exact absurd digit (by decide)
  intro m n same
  unfold ofInt at same
  split at same <;> split at same
  · have := digits (List.cons.inj same).2
    omega
  · exact absurd same.symm unsigned
  · exact absurd same unsigned
  · have := digits same
    omega

/-- The first separator of a text tells the part before it from the rest. -/
theorem split_unique {separator : Char} {left left' right right' : Text}
    (absent : separator ∉ left) (absent' : separator ∉ left')
    (same : left ++ separator :: right = left' ++ separator :: right') :
    left = left' ∧ right = right' := by
  induction left generalizing left' with
  | nil =>
    cases left' with
    | nil => exact ⟨rfl, (List.cons.inj same).2⟩
    | cons c rest =>
      obtain ⟨rfl, -⟩ := List.cons.inj same
      exact absurd List.mem_cons_self absent'
  | cons c rest ih =>
    cases left' with
    | nil =>
      obtain ⟨rfl, -⟩ := List.cons.inj same
      exact absurd List.mem_cons_self absent
    | cons d rest' =>
      obtain ⟨rfl, tails⟩ := List.cons.inj same
      obtain ⟨rfl, rights⟩ := ih (fun member => absent (List.mem_cons_of_mem _ member))
        (fun member => absent' (List.mem_cons_of_mem _ member)) tails
      exact ⟨rfl, rights⟩

theorem trimSpace_eq_self {text : Text} (first : ∀ c ∈ text.head?, isSpace c = false)
    (last : ∀ c ∈ text.getLast?, isSpace c = false) : trimSpace text = text := by
  have front : text.dropWhile isSpace = text := by
    cases text with
    | nil => rfl
    | cons c rest => exact List.dropWhile_cons_of_neg (by simp [first c rfl])
  have back : text.rdropWhile isSpace = text := by
    rw [List.rdropWhile_eq_self_iff]
    intro nonempty
    simp [last _ (List.getLast_mem_getLast? nonempty)]
  rw [trimSpace, front, back]

theorem isSpace_digit {c : Char} (digit : c.isDigit = true) : isSpace c = false := by
  have bounds : 48 ≤ c.toNat ∧ c.toNat ≤ 57 := by
    simpa [Char.isDigit, UInt32.le_iff_toNat_le, ← Char.toNat_val] using digit
  have outside : c.toNat ∉ [0x09, 0x0A, 0x0B, 0x0C, 0x0D, 0x20, 0x85, 0xA0, 0x1680, 0x2028,
      0x2029, 0x202F, 0x205F, 0x3000] := by
    simp only [List.mem_cons, List.not_mem_nil, or_false, not_or]
    omega
  simp only [isSpace, outside, decide_false, Bool.false_or, Bool.and_eq_false_imp,
    decide_eq_true_eq, decide_eq_false_iff_not]
  omega

end Text
