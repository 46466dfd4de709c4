import CodexGateway.Library.Strings

/-! # UTF-8

Byte sequences and the texts that they spell. A byte that begins no code point is read as
the replacement character, as Go's `range` over a string does.
-/

abbrev Bytes := List UInt8

namespace Utf8

def encode (text : Text) : Bytes := text.flatMap String.utf8EncodeChar

/-- The code point that the bytes begin with. -/
def rune? (bytes : Bytes) : Option Char := bytes.toByteArray.utf8DecodeChar? 0

/-- The code points after the bytes still to be skipped. -/
def runesFrom : Nat → Bytes → Text
  | _, [] => []
  | skip + 1, _ :: rest => runesFrom skip rest
  | 0, byte :: rest =>
    match rune? (byte :: rest) with
    | some c => c :: runesFrom (c.utf8Size - 1) rest
    | none => '�' :: runesFrom 0 rest

def runes (bytes : Bytes) : Text := runesFrom 0 bytes

/-- `utf8.Valid`: reading the bytes loses nothing. -/
def valid (bytes : Bytes) : Bool := encode (runes bytes) = bytes

@[simp] theorem encode_nil : encode [] = [] := rfl

@[simp] theorem encode_cons (c : Char) (text : Text) :
    encode (c :: text) = String.utf8EncodeChar c ++ encode text := rfl

@[simp] theorem encode_append (text text' : Text) :
    encode (text ++ text') = encode text ++ encode text' :=
  List.flatMap_append

theorem length_encode (text : Text) : (encode text).length = text.byteLength := by
  induction text with
  | nil => rfl
  | cons c text ih =>
    simp only [encode_cons, List.length_append, String.length_utf8EncodeChar, ih]
    rfl

theorem rune?_encode (c : Char) (rest : Bytes) :
    rune? (String.utf8EncodeChar c ++ rest) = some c := by
  rw [rune?, List.toByteArray_append]
  exact ByteArray.utf8DecodeChar?_utf8EncodeChar_append

variable {bytes : Bytes} {c : Char} {byte : UInt8} {text : Text}

/-- What is read as a code point begins with its encoding. -/
theorem eq_of_rune? (read : rune? bytes = some c) :
    ∃ rest, bytes = String.utf8EncodeChar c ++ rest := by
  obtain ⟨rest, split⟩ := ByteArray.exists_of_utf8DecodeChar?_eq_some read
  refine ⟨rest.data.toList, ?_⟩
  have lists := congrArg (fun array => array.data.toList) split
  simpa [List.utf8Encode_singleton] using lists

theorem runesFrom_eq_drop (skip : Nat) (bytes : Bytes) :
    runesFrom skip bytes = runes (bytes.drop skip) := by
  induction bytes generalizing skip with
  | nil => cases skip <;> rfl
  | cons byte rest ih =>
    cases skip with
    | zero => rfl
    | succ skip => exact ih skip

theorem runes_encodeChar (c : Char) (rest : Bytes) :
    runes (String.utf8EncodeChar c ++ rest) = c :: runes rest := by
  have positive : 0 < (String.utf8EncodeChar c).length := by
    rw [String.length_utf8EncodeChar]
    exact c.utf8Size_pos
  obtain ⟨byte, tail, split⟩ := List.exists_cons_of_length_pos positive
  have size : tail.length = c.utf8Size - 1 := by
    have := congrArg List.length split
    simp at this
    omega
  have read := rune?_encode c rest
  rw [split, List.cons_append] at read ⊢
  rw [runes, runesFrom, read]
  simp only [runesFrom_eq_drop, ← size, List.drop_left]

@[simp] theorem runes_encode (text : Text) : runes (encode text) = text := by
  induction text with
  | nil => rfl
  | cons c text ih => rw [encode_cons, runes_encodeChar, ih]

/-! ## ASCII -/

theorem encodeChar_ascii (ascii : byte < 128) :
    String.utf8EncodeChar (Char.ofUInt8 byte) = [byte] := by
  have size : (Char.ofUInt8 byte).utf8Size = 1 := by
    rw [Char.utf8Size_eq_one_iff]
    have small : byte.toNat ≤ 127 := Nat.lt_succ_iff.mp (UInt8.lt_iff_toNat_lt.mp ascii)
    exact UInt32.le_iff_toNat_le.mpr (by simpa [Char.ofUInt8] using small)
  rw [String.utf8EncodeChar_eq_singleton size]
  simp [Char.ofUInt8]

theorem le_of_mem_encodeChar (wide : c.utf8Size ≠ 1)
    (member : byte ∈ String.utf8EncodeChar c) : 128 ≤ byte := by
  have marked : ∀ x y : UInt8, 128 ≤ y → 128 ≤ x ||| y := by
    intro x y high
    rw [UInt8.le_iff_toNat_le] at high ⊢
    rw [UInt8.toNat_or]
    exact high.trans Nat.right_le_or
  rcases Char.utf8Size_eq c with one | two | three | four
  · exact absurd one wide
  · rw [String.utf8EncodeChar_eq_cons_cons two] at member
    simp only [List.mem_cons, List.not_mem_nil, or_false] at member
    rcases member with rfl | rfl <;> exact marked _ _ (by decide)
  · rw [String.utf8EncodeChar_eq_cons_cons_cons three] at member
    simp only [List.mem_cons, List.not_mem_nil, or_false] at member
    rcases member with rfl | rfl | rfl <;> exact marked _ _ (by decide)
  · rw [String.utf8EncodeChar_eq_cons_cons_cons_cons four] at member
    simp only [List.mem_cons, List.not_mem_nil, or_false] at member
    rcases member with rfl | rfl | rfl | rfl <;> exact marked _ _ (by decide)

theorem runes_ascii (ascii : byte < 128) (rest : Bytes) :
    runes (byte :: rest) = Char.ofUInt8 byte :: runes rest := by
  rw [← runes_encodeChar, encodeChar_ascii ascii, List.singleton_append]

/-- An ASCII byte ends whatever stands before it. -/
theorem rune?_append_ascii (ascii : byte < 128) (rest : Bytes)
    (none : rune? bytes = none) (nonempty : bytes ≠ []) : rune? (bytes ++ byte :: rest) = .none := by
  rw [Option.eq_none_iff_forall_ne_some]
  intro c read
  obtain ⟨tail, split⟩ := eq_of_rune? read
  rcases List.append_eq_append_iff.mp split with ⟨inside, encoded, after⟩ | ⟨tail', within, -⟩
  · cases inside with
    | nil =>
      have whole := rune?_encode c []
      rw [List.append_nil, encoded, List.append_nil, none] at whole
      cases whole
    | cons first others =>
      -- the code point would reach the ASCII byte
      obtain rfl : byte = first := (List.cons.inj after).1
      have size := congrArg List.length encoded
      have positive := List.length_pos_of_ne_nil nonempty
      simp only [String.length_utf8EncodeChar, List.length_append, List.length_cons] at size
      have high := le_of_mem_encodeChar (by omega) (encoded ▸ List.mem_append_right bytes
        List.mem_cons_self : byte ∈ String.utf8EncodeChar c)
      exact absurd ascii (UInt8.not_lt.mpr high)
  · rw [within, rune?_encode] at none
    cases none

theorem runes_append_ascii (ascii : byte < 128) (bytes rest : Bytes) :
    runes (bytes ++ byte :: rest) = runes bytes ++ Char.ofUInt8 byte :: runes rest := by
  induction length : bytes.length using Nat.strong_induction_on generalizing bytes with
  | _ n ih =>
    cases bytes with
    | nil => exact runes_ascii ascii rest
    | cons first others =>
      cases read : rune? (first :: others) with
      | some c =>
        obtain ⟨tail, split⟩ := eq_of_rune? read
        have shorter : tail.length < n := by
          have := congrArg List.length split
          have := c.utf8Size_pos
          simp at *
          omega
        rw [split, List.append_assoc, runes_encodeChar, runes_encodeChar,
          ih tail.length shorter tail rfl, List.cons_append]
      | none =>
        have read' := rune?_append_ascii ascii rest read (List.cons_ne_nil _ _)
        rw [List.cons_append] at read'
        rw [List.cons_append, runes, runesFrom, read', runes, runesFrom, read]
        exact congrArg _ (ih others.length (by simp at length; omega) others rfl)

theorem printable_encode (printable : ∀ c ∈ text, 0x20 ≤ c.toNat)
    (member : byte ∈ encode text) : 0x20 ≤ byte := by
  obtain ⟨c, listed, inside⟩ := List.mem_flatMap.mp member
  by_cases narrow : c.utf8Size = 1
  · rw [String.utf8EncodeChar_eq_singleton narrow, List.mem_singleton] at inside
    have small : c.val.toNat ≤ 127 := UInt32.le_iff_toNat_le.mp (Char.utf8Size_eq_one_iff.mp narrow)
    have value : 0x20 ≤ c.val.toNat := printable c listed
    rw [inside, UInt8.le_iff_toNat_le, UInt32.toNat_toUInt8, Nat.mod_eq_of_lt (by omega)]
    exact value
  · exact UInt8.le_trans (by decide) (le_of_mem_encodeChar narrow inside)

/-! ## Blanks around a text -/

/-- `bytes.TrimSpace`. -/
def trimSpace (bytes : Bytes) : Bytes :=
  let front := Text.byteLength ((runes bytes).takeWhile Text.isSpace)
  let back := Text.byteLength (((runes bytes).dropWhile Text.isSpace).rtakeWhile Text.isSpace)
  (bytes.drop front).rdrop back

/-- Code points at the front, none of them a replacement, are there with their encodings. -/
theorem split_front {front : Text} (read : '�' ∉ front) (spelled : runes bytes = front ++ text) :
    ∃ rest, bytes = encode front ++ rest ∧ runes rest = text := by
  induction front generalizing bytes with
  | nil => exact ⟨bytes, rfl, spelled⟩
  | cons c front ih =>
    obtain ⟨other, others⟩ := List.ne_and_not_mem_of_not_mem_cons read
    cases bytes with
    | nil => cases spelled
    | cons byte more =>
      cases begun : rune? (byte :: more) with
      | none =>
        rw [runes, runesFrom, begun] at spelled
        exact absurd (List.cons.inj spelled).1 other
      | some d =>
        obtain ⟨tail, split⟩ := eq_of_rune? begun
        rw [split, runes_encodeChar, List.cons_append] at spelled
        obtain ⟨rfl, remaining⟩ := List.cons.inj spelled
        obtain ⟨rest, rfl, value⟩ := ih others remaining
        exact ⟨rest, by rw [split, encode_cons, List.append_assoc], value⟩

theorem split_back {back : Text} (read : '�' ∉ back) (spelled : runes bytes = text ++ back) :
    ∃ rest, bytes = rest ++ encode back ∧ runes rest = text := by
  induction text generalizing bytes with
  | nil =>
    obtain ⟨rest, rfl, none⟩ := split_front read (show runes bytes = back ++ [] by simpa using spelled)
    cases rest with
    | nil => exact ⟨[], by simp, rfl⟩
    | cons byte more =>
      rw [runes, runesFrom] at none
      split at none <;> cases none
  | cons c text ih =>
    cases bytes with
    | nil => cases spelled
    | cons byte more =>
      cases begun : rune? (byte :: more) with
      | some d =>
        obtain ⟨tail, split⟩ := eq_of_rune? begun
        rw [split, runes_encodeChar, List.cons_append] at spelled
        obtain ⟨rfl, remaining⟩ := List.cons.inj spelled
        obtain ⟨rest, rfl, value⟩ := ih remaining
        exact ⟨String.utf8EncodeChar d ++ rest, by rw [split, List.append_assoc],
          by rw [runes_encodeChar, value]⟩
      | none =>
        rw [runes, runesFrom, begun] at spelled
        obtain ⟨rfl, remaining⟩ := List.cons.inj spelled
        obtain ⟨rest, rfl, value⟩ := ih remaining
        -- what begins no code point with more behind it begins none without
        have alone : rune? (byte :: rest) = none := by
          rw [Option.eq_none_iff_forall_ne_some]
          intro d begun'
          obtain ⟨tail, split⟩ := eq_of_rune? begun'
          rw [← List.cons_append, split, List.append_assoc, rune?_encode] at begun
          cases begun
        refine ⟨byte :: rest, rfl, ?_⟩
        rw [runes, runesFrom, alone]
        exact congrArg _ value

theorem rdropWhile_append_rtakeWhile {α : Type} (p : α → Bool) (list : List α) :
    list.rdropWhile p ++ list.rtakeWhile p = list := by
  rw [List.rdropWhile, List.rtakeWhile, ← List.reverse_append, List.takeWhile_append_dropWhile,
    List.reverse_reverse]

theorem runes_trimSpace (bytes : Bytes) : runes (trimSpace bytes) = Text.trimSpace (runes bytes) := by
  have spaces : ∀ {text : Text}, (∀ c ∈ text, Text.isSpace c = true) → '�' ∉ text := by
    intro text all member
    exact absurd (all _ member) (by decide)
  generalize spelled : runes bytes = text
  have front := List.takeWhile_append_dropWhile (p := Text.isSpace) (l := text)
  have back := rdropWhile_append_rtakeWhile Text.isSpace (text.dropWhile Text.isSpace)
  obtain ⟨rest, rfl, value⟩ := split_front (spaces fun c => List.mem_takeWhile_imp)
    (spelled.trans front.symm)
  obtain ⟨middle, rfl, trimmed⟩ := split_back
    (spaces fun c member => List.mem_takeWhile_imp (List.mem_reverse.mp member))
    (value.trans back.symm)
  rw [trimSpace, spelled, ← length_encode, List.drop_left, ← length_encode, List.rtakeWhile,
    List.rdrop, List.length_append, Nat.add_sub_cancel, List.take_left]
  exact trimmed

theorem trimSpace_encode (text : Text) : trimSpace (encode text) = encode (Text.trimSpace text) := by
  have front := List.takeWhile_append_dropWhile (p := Text.isSpace) (l := text)
  have back := rdropWhile_append_rtakeWhile Text.isSpace (text.dropWhile Text.isSpace)
  have split : encode text = encode (text.takeWhile Text.isSpace) ++
      (encode ((text.dropWhile Text.isSpace).rdropWhile Text.isSpace) ++
        encode ((text.dropWhile Text.isSpace).rtakeWhile Text.isSpace)) := by
    rw [← encode_append, back, ← encode_append, front]
  rw [trimSpace, runes_encode, ← length_encode, ← length_encode]
  conv_lhs => rw [split, List.drop_left, List.rdrop, List.length_append, Nat.add_sub_cancel, List.take_left]
  rfl

end Utf8
