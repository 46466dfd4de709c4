import CodexGateway.Library.GoJson

/-! # Values that survive being written again

A document store keeps the members of an object in an order of its own. What a decoder makes of
a value must then not depend on that order: `Reads` says so for one decoder, what it holds and
one value, and the rules below go through the decoders. A struct is read field by field in
whatever order its members come; `mix` is the struct some of whose fields have been read.
-/

namespace Json

variable {stored : Json}

/-! ## Values that differ in the order of members -/

theorem Same.string {text : Text} (same : Same (.string text) stored) : stored = .string text := by
  cases stored <;> simp_all [Same, sortKeys]

theorem Same.number {number : JsonNumber} (same : Same (.number number) stored) :
    stored = .number number := by
  cases stored <;> simp_all [Same, sortKeys]

theorem Same.array {items : List Json} (same : Same (.array items) stored) :
    ∃ items', stored = .array items' ∧ List.Forall₂ Same items items' := by
  cases stored with
  | array items' =>
    refine ⟨items', rfl, ?_⟩
    simp only [Same, sortKeys, sortItems_eq_map, array.injEq] at same
    rw [← List.forall₂_eq_eq_eq, List.forall₂_map_left_iff, List.forall₂_map_right_iff] at same
    exact same
  | _ => simp [Same, sortKeys] at same

/-- An object comes back with the same keys, each before the same value. -/
theorem Same.object {members : List (Text × Json)} (same : Same (.object members) stored) :
    ∃ members', stored = .object members' ∧
      (members'.map Prod.fst).Perm (members.map Prod.fst) ∧
      ∀ member' ∈ members', ∃ member ∈ members, member.1 = member'.1 ∧ Same member.2 member'.2 := by
  cases stored with
  | object members' =>
    refine ⟨members', rfl, ?_⟩
    simp only [Same, sortKeys, sortMembers_eq_map, object.injEq] at same
    have perm := ((List.perm_insertionSort _ _).symm.trans (List.Perm.of_eq same)).trans
      (List.perm_insertionSort _ _)
    constructor
    · have keys := perm.symm.map Prod.fst
      simpa [List.map_map, Function.comp_def] using keys
    · intro member' listed
      have written := perm.symm.subset (List.mem_map_of_mem listed)
      obtain ⟨member, known, equal⟩ := List.mem_map.mp written
      simp only [Prod.mk.injEq] at equal
      exact ⟨member, known, equal.1, equal.2⟩
  | _ => simp [Same, sortKeys] at same

variable {n : Nat} {value : Json} {empty : Prop} {name : String}

theorem nestingItems_le {items : List Json} :
    nestingItems items ≤ n ↔ ∀ item ∈ items, nesting item ≤ n := by
  induction items with
  | nil => simp [nestingItems]
  | cons item items ih => simp [nestingItems, ih]

theorem nestingMembers_le {members : List (Text × Json)} :
    nestingMembers members ≤ n ↔ ∀ member ∈ members, nesting member.2 ≤ n := by
  induction members with
  | nil => simp [nestingMembers]
  | cons member members ih => simp [nestingMembers, ih]

theorem nesting_sortKeys_le (value : Json) (n : Nat) :
    nesting (sortKeys value) ≤ n ↔ nesting value ≤ n := by
  induction value using Json.induct generalizing n with
  | null | bool | number | string => rfl
  | array items ih =>
    cases n with
    | zero => simp [sortKeys, nesting]
    | succ n =>
      simp only [sortKeys, nesting, Nat.add_le_add_iff_right, nestingItems_le,
        sortItems_eq_map, List.forall_mem_map]
      exact forall₂_congr fun item listed => ih item listed n
  | object members ih =>
    cases n with
    | zero => simp [sortKeys, nesting]
    | succ n =>
      simp only [sortKeys, nesting, Nat.add_le_add_iff_right, nestingMembers_le,
        List.mem_insertionSort, sortMembers_eq_map, List.forall_mem_map]
      exact forall₂_congr fun member listed => ih member listed n

/-- A value that was written again is as deep as before, so it is scanned. -/
theorem scan?_of_same {bytes : Bytes} (same : Same value stored)
    (parsed : ofBytes bytes = some stored) (shallow : nesting value ≤ 10000) :
    scan? bytes = some stored := by
  have deep : nesting stored ≤ 10000 := by
    rw [← nesting_sortKeys_le, ← show sortKeys value = sortKeys stored from same,
      nesting_sortKeys_le]
    exact shallow
  simp [scan?, parsed, deep]

/-- A member that is left out if its value is the zero of its type. -/
def omitEmpty (empty : Prop) [Decidable empty] (name : String) (value : Json) :
    List (Text × Json) :=
  if empty then [] else [(name.toList, value)]

theorem mem_omitEmpty [Decidable empty] {member : Text × Json} :
    member ∈ omitEmpty empty name value ↔ ¬ empty ∧ member = (name.toList, value) := by
  unfold omitEmpty
  split <;> simp [*]

theorem mem_keys_omitEmpty [Decidable empty] {key : Text} :
    key ∈ (omitEmpty empty name value).map Prod.fst ↔ ¬ empty ∧ key = name.toList := by
  unfold omitEmpty
  split <;> simp [*]

theorem keys_omitEmpty_sublist (empty : Prop) [Decidable empty] (name : String) (value : Json) :
    ((omitEmpty empty name value).map Prod.fst).Sublist [name.toList] := by
  unfold omitEmpty
  split <;> simp

end Json

namespace Decoder

open Json

variable {α σ : Type}

/-- The decoder makes the same of a value however its members are ordered. -/
def Reads (decoder : Decoder α) (held : α) (value : Json) (result : α) : Prop :=
  ∀ stored, Same value stored → decoder held stored = some result

theorem reads_string (held text : Text) : Reads string held (.string text) text := by
  intro stored same
  rw [same.string]
  rfl

theorem reads_int64 (held : Int) {n : Int} (range : minInt64 ≤ n ∧ n ≤ maxInt64) :
    Reads int64 held (ofInt n) n := by
  intro stored same
  rw [Same.number same, int64, int?_ofInt]
  simp [range]

variable {decoder : Decoder α} {strict : Bool} {fields : List (GoField σ)} {mix : (Text → Bool) → σ}
  {members : List (Text × Json)}

theorem reads_slice {zero : α} {values : List Json} {results : List α}
    (reads : List.Forall₂ (Reads decoder zero) values results) :
    Reads (slice zero decoder) none (.array values) (some ⟨results, []⟩) := by
  intro stored same
  obtain ⟨values', rfl, alike⟩ := Same.array same
  have decoded : items zero decoder [] values' = some results := by
    clear same
    induction reads generalizing values' with
    | nil =>
      cases alike
      rfl
    | cons first rest ih =>
      cases alike with
      | cons one more => simp [items, first _ one, ih _ more]
  cases values' with
  | nil =>
    simp only [items, Option.some.injEq] at decoded
    simp [slice, ← decoded]
  | cons value values' => simp [slice, decoded]

/-! ## Structs -/

/-- Members with different keys are read in any order, each into a struct that does not have
its field yet. -/
theorem foldlM_storeMember (seen : Text → Bool)
    (nodup : (members.map Prod.fst).Nodup) (unseen : ∀ member ∈ members, seen member.1 = false)
    (step : ∀ member ∈ members, ∀ seen : Text → Bool, seen member.1 = false →
      storeMember strict fields (mix seen) member =
        some (mix fun name => seen name || name = member.1)) :
    members.foldlM (storeMember strict fields) (mix seen) =
      some (mix fun name => seen name || name ∈ members.map Prod.fst) := by
  induction members generalizing seen with
  | nil => simp
  | cons member members ih =>
    rw [List.map_cons, List.nodup_cons] at nodup
    rw [List.foldlM_cons, step member (by simp) seen (unseen member (by simp))]
    have later : ∀ other ∈ members, (seen other.1 || decide (other.1 = member.1)) = false := by
      intro other listed
      have apart : other.1 ≠ member.1 :=
        fun equal => nodup.1 (equal ▸ List.mem_map_of_mem listed)
      simp [unseen other (by simp [listed]), apart]
    refine (ih _ nodup.2 later fun other listed => step other (by simp [listed])).trans ?_
    congr 2
    funext name
    simp only [List.map_cons, List.mem_cons, Bool.decide_or, Bool.or_assoc]

theorem reads_struct (nodup : (members.map Prod.fst).Nodup)
    (step : ∀ member ∈ members, ∀ seen : Text → Bool, seen member.1 = false →
      ∀ stored, Same member.2 stored → storeMember strict fields (mix seen) (member.1, stored) =
        some (mix fun name => seen name || name = member.1)) :
    Reads (struct strict fields) (mix fun _ => false) (.object members)
      (mix fun name => name ∈ members.map Prod.fst) := by
  intro stored same
  obtain ⟨members', rfl, keys, values⟩ := Same.object same
  have read := foldlM_storeMember (fun _ => false) (keys.nodup_iff.mpr nodup) (fun _ _ => rfl)
    fun member' listed seen unseen => by
      obtain ⟨member, known, key, alike⟩ := values member' listed
      have stored := step member known seen (key ▸ unseen) member'.2 alike
      rwa [key] at stored
  rw [struct, read]
  congr 2
  funext name
  simp only [Bool.false_or, decide_eq_decide]
  exact keys.mem_iff

theorem storeMember_of {held : σ}
    {member : Text × Json} {name : String} {get : σ → α} {set : σ → α → σ}
    {value : α} (field : findField fields member.1 = some (.of name get set decoder))
    (decoded : decoder (get held) member.2 = some value) :
    storeMember strict fields held member = some (set held value) := by
  simp [storeMember, field, GoField.of, decoded]

end Decoder
