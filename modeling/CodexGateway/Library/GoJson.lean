import CodexGateway.Library.JsonText

/-! # Decoding JSON as `encoding/json` does

A decoder stores a value into what a variable already holds. A struct takes a member whose
key differs from the name of a field only in case, and a later member is stored over, or
into, what an earlier one left.
-/

/-- `none` is an error; what the variable then holds is of no use. -/
abbrev Decoder (α : Type) := α → Json → Option α

namespace Json

/-- `strconv.ParseInt` of a number's literal. -/
def int? (number : JsonNumber) : Option Int :=
  match number.literal with
  | '-' :: digits => if digits.all Char.isDigit then some (-Nat.ofDigitChars 10 digits 0) else none
  | digits => if digits.all Char.isDigit then some (Nat.ofDigitChars 10 digits 0) else none

theorem unsigned_of_digits {first : Char} {rest : Text} (digit : first.isDigit = true)
    (digits : ∀ c ∈ rest, c.isDigit = true) (leading : first = '0' → rest = []) :
    unsigned (first :: rest) = true := by
  have none : rest.dropWhile Char.isDigit = [] := List.dropWhile_eq_nil_iff.mpr digits
  by_cases zero : first = '0'
  · rw [zero, leading zero]
    rfl
  · unfold unsigned
    split
    · rename_i same
      cases same
      exact absurd rfl zero
    · rename_i same
      cases same
      simp [digit, none, fractionPart, exponentPart]
    · rename_i impossible
      cases impossible

theorem toDigits_cons (n : Nat) :
    ∃ first rest, Nat.toDigits 10 n = first :: rest ∧ (first = '0' → rest = []) ∧
      (first = '0' → n = 0) := by
  induction n using Nat.strong_induction_on with
  | _ n ih =>
    by_cases small : n < 10
    · refine ⟨n.digitChar, [], Nat.toDigits_of_lt_base small, fun _ => rfl, fun zero => ?_⟩
      revert zero
      interval_cases n <;> decide
    · obtain ⟨first, rest, split, -, leading⟩ := ih (n / 10) (by omega)
      have nonzero : first ≠ '0' := fun zero => by
        have := leading zero
        omega
      refine ⟨first, rest ++ [(n % 10).digitChar], ?_, fun zero => absurd zero nonzero,
        fun zero => absurd zero nonzero⟩
      rw [Nat.toDigits_of_base_le (by decide) (by omega), split, List.cons_append]

theorem isDigit_of_mem_toDigits {n : Nat} {c : Char} (member : c ∈ Nat.toDigits 10 n) :
    c.isDigit = true :=
  Nat.isDigit_of_mem_toDigits (by decide) (by decide) member

theorem unsigned_toDigits (n : Nat) : unsigned (Nat.toDigits 10 n) = true := by
  obtain ⟨first, rest, split, leading, -⟩ := toDigits_cons n
  have digits : ∀ c ∈ first :: rest, c.isDigit = true := fun c member =>
    isDigit_of_mem_toDigits (n := n) (split ▸ member)
  rw [split]
  exact unsigned_of_digits (digits first List.mem_cons_self)
    (fun c member => digits c (.tail _ member)) leading

theorem isNumber_ofInt (n : Int) : isNumber (Text.ofInt n) = true := by
  unfold Text.ofInt
  split
  · exact unsigned_toDigits _
  · obtain ⟨first, rest, split, -⟩ := toDigits_cons n.natAbs
    have digit : first.isDigit = true :=
      isDigit_of_mem_toDigits (n := n.natAbs) (split ▸ List.mem_cons_self)
    have spelled := unsigned_toDigits n.natAbs
    rw [split] at spelled ⊢
    unfold isNumber
    split
    · rename_i same
      cases same
      exact absurd digit (by decide)
    · exact spelled

/-- The number of an integer, spelled in base ten. -/
def ofInt (n : Int) : Json := .number ⟨Text.ofInt n, isNumber_ofInt n⟩

theorem int?_ofInt (n : Int) : int? ⟨Text.ofInt n, isNumber_ofInt n⟩ = some n := by
  have digits : (Nat.toDigits 10 n.natAbs).all Char.isDigit = true :=
    List.all_eq_true.mpr fun c => isDigit_of_mem_toDigits
  have value : Nat.ofDigitChars 10 (Nat.toDigits 10 n.natAbs) 0 = n.natAbs :=
    Nat.ofDigitChars_toDigits (by decide) (by decide)
  unfold int? Text.ofInt
  by_cases negative : n < 0
  · simp [negative, digits, value, abs_of_neg negative]
  · obtain ⟨first, rest, split, -⟩ := toDigits_cons n.natAbs
    have digit : first.isDigit = true :=
      isDigit_of_mem_toDigits (n := n.natAbs) (split ▸ List.mem_cons_self)
    rw [split] at digits value
    simp only [negative, if_false, split]
    split
    · rename_i same
      cases same
      exact absurd digit (by decide)
    · rw [if_pos digits, value]
      congr 1
      omega

def minInt64 : Int := -9223372036854775808

def maxInt64 : Int := 9223372036854775807

/-- The value of the last member with a key, as a map keeps it. -/
def get? (key : Text) (members : List (Text × Json)) : Option Json :=
  (members.reverse.find? fun member => member.1 = key).map (·.2)

end Json

namespace Decoder

def string : Decoder Text
  | held, .null => some held
  | _, .string value => some value
  | _, _ => none

def bool : Decoder Bool
  | held, .null => some held
  | _, .bool value => some value
  | _, _ => none

def int64 : Decoder Int
  | held, .null => some held
  | _, .number value =>
    (Json.int? value).filter fun n => Json.minInt64 ≤ n && n ≤ Json.maxInt64
  | _, _ => none

/-- `json.RawMessage`: any value, the null too. -/
def raw : Decoder (Option Json) := fun _ value => some (some value)

variable {α : Type}

/-- A pointer, to a new variable if it held none. -/
def pointer (zero : α) (decoder : Decoder α) : Decoder (Option α)
  | _, .null => some none
  | held, value => (decoder (held.getD zero) value).map some

/-- `map[string]json.RawMessage`: members are added to what the map holds. -/
def map : Decoder (Option (List (Text × Json)))
  | _, .null => some none
  | held, .object members => some (some (held.getD [] ++ members))
  | _, _ => none

end Decoder

/-- A slice, and what its array still holds after the items. -/
structure GoSlice (α : Type) where
  items : List α
  spare : List α
  deriving DecidableEq, Repr

namespace Decoder

variable {α σ : Type}

/-- Items are stored into what the array holds at their place. -/
def items (zero : α) (decoder : Decoder α) : List α → List Json → Option (List α)
  | _, [] => some []
  | [], value :: values => do
    let item ← decoder zero value
    let rest ← items zero decoder [] values
    pure (item :: rest)
  | held :: backing, value :: values => do
    let item ← decoder held value
    let rest ← items zero decoder backing values
    pure (item :: rest)

def slice (zero : α) (decoder : Decoder α) : Decoder (Option (GoSlice α))
  | _, .null => some none
  | _, .array [] => some (some ⟨[], []⟩)
  | held, .array values =>
    let backing := (held.map fun slice => slice.items ++ slice.spare).getD []
    (items zero decoder backing values).map fun stored =>
      some ⟨stored, backing.drop values.length⟩
  | _, _ => none

/-- The upper case of a letter of ASCII, and of the two other runes that fold to one. -/
def foldRune (c : Char) : Char :=
  if c.toNat = 0x017F then 'S' else if c.toNat = 0x212A then 'K' else c.toUpper

def foldName (name : Text) : Text := name.map foldRune

end Decoder

/-- A field of a struct and how a member is stored in it. -/
structure GoField (σ : Type) where
  name : Text
  decode : Decoder σ

def GoField.of {α σ : Type} (name : String) (get : σ → α) (set : σ → α → σ)
    (decoder : Decoder α) : GoField σ where
  name := name.toList
  decode held value := (decoder (get held) value).map (set held)

namespace Decoder

variable {σ : Type}

/-- The field of the very name, else one whose name differs only in case. -/
def findField (fields : List (GoField σ)) (key : Text) : Option (GoField σ) :=
  (fields.find? fun field => field.name = key).or
    (fields.find? fun field => foldName field.name = foldName key)

/-- One member; without a field for it, it is an error only where unknown fields are. -/
def storeMember (strict : Bool) (fields : List (GoField σ)) (held : σ) (member : Text × Json) :
    Option σ :=
  match findField fields member.1 with
  | some field => field.decode held member.2
  | none => if strict then none else some held

def struct (strict : Bool) (fields : List (GoField σ)) : Decoder σ
  | held, .null => some held
  | held, .object members => members.foldlM (storeMember strict fields) held
  | _, _ => none

end Decoder

namespace Json

/-! ## Checks of a whole value -/

mutual

/-- How many containers a value is inside of at its deepest point. -/
def depth : Json → Nat
  | .array items => depthItems items
  | .object members => depthMembers members
  | _ => 0

def depthItems : List Json → Nat
  | [] => 0
  | item :: items => max (depth item + 1) (depthItems items)

def depthMembers : List (Text × Json) → Nat
  | [] => 0
  | (_, value) :: members => max (depth value + 1) (depthMembers members)

end

mutual

/-- How many containers are open at once while a value is read. -/
def nesting : Json → Nat
  | .array items => nestingItems items + 1
  | .object members => nestingMembers members + 1
  | _ => 0

def nestingItems : List Json → Nat
  | [] => 0
  | item :: items => max (nesting item) (nestingItems items)

def nestingMembers : List (Text × Json) → Nat
  | [] => 0
  | (_, value) :: members => max (nesting value) (nestingMembers members)

end

/-- The value that `json.Unmarshal` stores; its scanner refuses more than 10000 open
containers. -/
def scan? (bytes : Bytes) : Option Json := (ofBytes bytes).filter fun value => nesting value ≤ 10000

mutual

def unique : Json → Bool
  | .array items => uniqueItems items
  | .object members => decide (members.map (·.1)).Nodup && uniqueMembers members
  | _ => true

def uniqueItems : List Json → Bool
  | [] => true
  | item :: items => unique item && uniqueItems items

def uniqueMembers : List (Text × Json) → Bool
  | [] => true
  | (_, value) :: members => unique value && uniqueMembers members

end

end Json

namespace Decoder

/-! ## Plain spellings

Where no key differs from the name of a field in case only, the struct holds what a map would
give under that name.
-/

variable {α σ : Type}

/-- No key is another spelling of the name. -/
def PlainIn (name : Text) (members : List (Text × Json)) : Prop :=
  ∀ member ∈ members, foldName member.1 = foldName name → member.1 = name

theorem PlainIn.tail {name : Text} {member : Text × Json} {members : List (Text × Json)}
    (plain : PlainIn name (member :: members)) : PlainIn name members :=
  fun other listed => plain other (.tail _ listed)

end Decoder

namespace Json

/-! ## Marshalling -/

/-- The order of strings by code points, which is that of their bytes. -/
def keyLE : Text → Text → Bool
  | [], _ => true
  | _ :: _, [] => false
  | c :: key, d :: key' => if c = d then keyLE key key' else c.toNat < d.toNat

mutual

/-- The members of every object in the order of their keys, as a map is written. -/
def sortKeys : Json → Json
  | .array items => .array (sortItems items)
  | .object members => .object ((sortMembers members).insertionSort fun a b => keyLE a.1 b.1)
  | value => value

def sortItems : List Json → List Json
  | [] => []
  | item :: items => sortKeys item :: sortItems items

def sortMembers : List (Text × Json) → List (Text × Json)
  | [] => []
  | (key, value) :: members => (key, sortKeys value) :: sortMembers members

end

/-- `json.Marshal`. -/
def marshal (value : Json) : Bytes := Utf8.encode (render (sortKeys value))

/-- The same value, whatever the order of its members. -/
def Same (value value' : Json) : Prop := sortKeys value = sortKeys value'

theorem keyLE_total (key key' : Text) : keyLE key key' = true ∨ keyLE key' key = true := by
  induction key generalizing key' with
  | nil => simp [keyLE]
  | cons c key ih =>
    cases key' with
    | nil => simp [keyLE]
    | cons d key' =>
      by_cases same : c = d
      · simp [keyLE, same, ih]
      · have : c.toNat ≠ d.toNat := fun equal => same (Char.toNat_inj.mp equal)
        simp only [keyLE, same, Ne.symm same, if_false, decide_eq_true_eq]
        omega

theorem keyLE_trans {key key' key'' : Text} (first : keyLE key key' = true)
    (second : keyLE key' key'' = true) : keyLE key key'' = true := by
  induction key generalizing key' key'' with
  | nil => rfl
  | cons c key ih =>
    cases key' with
    | nil => cases first
    | cons d key' =>
      cases key'' with
      | nil => cases second
      | cons e key'' =>
        by_cases front : c = d
        · by_cases back : d = e
          · simp only [keyLE, front, back, if_true] at first second ⊢
            exact ih first second
          · simpa [keyLE, front, back] using second
        · by_cases back : d = e
          · simpa [keyLE, front, ← back] using first
          · simp only [keyLE, front, back, if_false, decide_eq_true_eq] at first second
            have apart : c ≠ e := by
              rintro rfl
              omega
            simp only [keyLE, apart, if_false, decide_eq_true_eq]
            omega

/-- Members by their keys. -/
instance : Std.Total fun a b : Text × Json => keyLE a.1 b.1 = true :=
  ⟨fun a b => keyLE_total a.1 b.1⟩

instance : IsTrans (Text × Json) fun a b => keyLE a.1 b.1 = true :=
  ⟨fun _ _ _ => keyLE_trans⟩

theorem sortMembers_eq_map (members : List (Text × Json)) :
    sortMembers members = members.map fun member => (member.1, sortKeys member.2) := by
  induction members with
  | nil => rfl
  | cons member members ih => simp [sortMembers, ih]

theorem sortItems_eq_map (items : List Json) : sortItems items = items.map sortKeys := by
  induction items with
  | nil => rfl
  | cons item items ih => simp [sortItems, ih]

theorem sortKeys_sortKeys (value : Json) : sortKeys (sortKeys value) = sortKeys value := by
  induction value using Json.induct with
  | null => rfl
  | bool value => rfl
  | number value => rfl
  | string value => rfl
  | array items ih =>
    simp only [sortKeys, sortItems_eq_map, List.map_map, array.injEq]
    exact List.map_congr_left ih
  | object members ih =>
    have kept : sortMembers ((sortMembers members).insertionSort fun a b => keyLE a.1 b.1) =
        (sortMembers members).insertionSort fun a b => keyLE a.1 b.1 := by
      rw [sortMembers_eq_map]
      conv_rhs => rw [← List.map_id (List.insertionSort _ _)]
      refine List.map_congr_left fun member listed => ?_
      rw [List.mem_insertionSort, sortMembers_eq_map, List.mem_map] at listed
      obtain ⟨before, listed, rfl⟩ := listed
      simp [ih before listed]
    rw [sortKeys, sortKeys, kept, (List.pairwise_insertionSort _ _).insertionSort_eq]

theorem ofBytes_marshal (value : Json) : ofBytes (marshal value) = some (sortKeys value) :=
  ofBytes_encode (sortKeys value)

end Json
