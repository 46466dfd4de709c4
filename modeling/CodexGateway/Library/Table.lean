import Mathlib

/-! # Keyed tables

A table is a list of rows whose keys are pairwise different, in an arbitrary
order. Its operations are the statements of a relational store: lookup by key,
insert, update and delete of the rows that meet a condition. The totals of a
column change by what an operation adds or takes away. A serial table numbers
its rows itself and never hands out a number twice.
-/

variable {ρ κ M : Type}

/-- Rows with pairwise different keys. -/
structure Table (key : ρ → κ) where
  rows : List ρ
  unique : (rows.map key).Nodup

namespace Table

variable {key : ρ → κ}

variable {s t : Table key} {other row : ρ}

@[ext] theorem ext (same : s.rows = t.rows) : s = t := by
  cases s
  cases t
  simp_all

instance [DecidableEq ρ] : DecidableEq (Table key) := fun s t =>
  decidable_of_iff (s.rows = t.rows) ⟨ext, congrArg rows⟩

def empty : Table key := ⟨[], List.nodup_nil⟩

/-- `UPDATE … SET … WHERE`. The assignment leaves the key alone. -/
def update (t : Table key) (condition : ρ → Bool) (assign : ρ → ρ)
    (keeps : ∀ row, key (assign row) = key row) : Table key where
  rows := t.rows.map fun row => if condition row then assign row else row
  unique := by
    have same : (t.rows.map fun row => if condition row then assign row else row).map key =
        t.rows.map key := by
      rw [List.map_map]
      apply List.map_congr_left
      intro row _
      simp only [Function.comp_apply]
      split
      · exact keeps row
      · rfl
    rw [same]
    exact t.unique

/-- `DELETE … WHERE`. -/
def delete (t : Table key) (condition : ρ → Bool) : Table key where
  rows := t.rows.filter fun row => !condition row
  unique := t.unique.sublist ((List.filter_sublist).map key)

variable {k : κ}

section Lookup

variable [DecidableEq κ]

/-- `SELECT … WHERE key = k`. -/
def find? (t : Table key) (k : κ) : Option ρ :=
  t.rows.find? fun row => key row = k

/-- `INSERT`, refused when the key is taken. -/
def insert? (t : Table key) (row : ρ) : Option (Table key) :=
  if fresh : key row ∈ t.rows.map key then none
  else some ⟨row :: t.rows, List.nodup_cons.mpr ⟨fresh, t.unique⟩⟩

/-- `INSERT … ON CONFLICT DO NOTHING`. -/
def insertIfAbsent (t : Table key) (row : ρ) : Table key :=
  (t.insert? row).getD t

/-- `UPDATE … WHERE key = k`. -/
def modify (t : Table key) (k : κ) (assign : ρ → ρ) (keeps : ∀ row, key (assign row) = key row) :
    Table key :=
  t.update (fun row => key row = k) assign keeps

theorem find?_eq_some : t.find? k = some row ↔ row ∈ t.rows ∧ key row = k := by
  constructor
  · intro found
    exact ⟨List.mem_of_find?_eq_some found, by simpa using List.find?_some found⟩
  · rintro ⟨member, rfl⟩
    have some' : ∃ other, t.find? (key row) = some other := by
      rw [← Option.isSome_iff_exists, find?, List.find?_isSome]
      exact ⟨row, member, by simp⟩
    obtain ⟨other, found⟩ := some'
    have sameKey : key other = key row := by simpa using List.find?_some found
    have same := List.inj_on_of_nodup_map t.unique (List.mem_of_find?_eq_some found) member sameKey
    rw [found, same]

theorem find?_eq_none : t.find? k = none ↔ ∀ row ∈ t.rows, key row ≠ k := by
  simp [find?]

theorem find?_of_mem (member : row ∈ t.rows) : t.find? (key row) = some row :=
  find?_eq_some.mpr ⟨member, rfl⟩

theorem mem_of_find? (found : t.find? k = some row) : row ∈ t.rows :=
  (find?_eq_some.mp found).1

theorem key_of_find? (found : t.find? k = some row) : key row = k :=
  (find?_eq_some.mp found).2

@[simp] theorem find?_empty (k : κ) : (empty : Table key).find? k = none := rfl

@[simp] theorem find?_update (t : Table key) (condition : ρ → Bool) (assign : ρ → ρ)
    (keeps : ∀ row, key (assign row) = key row) (k : κ) :
    (t.update condition assign keeps).find? k =
      (t.find? k).map fun row => if condition row then assign row else row := by
  rw [find?, update, List.find?_map, find?]
  congr 2
  funext row
  simp only [Function.comp_apply]
  split
  · rw [keeps]
  · rfl

theorem find?_of_rows_map {f : ρ → ρ} (rewritten : s.rows = t.rows.map f)
    (keeps : ∀ row, key (f row) = key row) (k : κ) : s.find? k = (t.find? k).map f := by
  rw [find?, rewritten, List.find?_map, find?]
  congr 2
  funext row
  simp only [Function.comp_apply, keeps]

theorem find?_modify (t : Table key) (k : κ) (assign : ρ → ρ)
    (keeps : ∀ row, key (assign row) = key row) (other : κ) :
    (t.modify k assign keeps).find? other =
      if other = k then (t.find? k).map assign else t.find? other := by
  rw [modify, find?_update]
  split
  · rename_i same
    subst same
    cases found : t.find? other with
    | none => rfl
    | some row => simp [key_of_find? found]
  · rename_i different
    cases found : t.find? other with
    | none => rfl
    | some row => simp [key_of_find? found, different]

theorem insert?_eq_some :
    t.insert? row = some s ↔ t.find? (key row) = none ∧ s.rows = row :: t.rows := by
  unfold insert?
  split
  · rename_i taken
    obtain ⟨other, member, same⟩ := List.mem_map.mp taken
    simp only [reduceCtorEq, find?_eq_none, false_iff, not_and]
    exact fun free => absurd same (free other member)
  · rename_i fresh
    simp only [Option.some.injEq, find?_eq_none]
    constructor
    · rintro rfl
      exact ⟨fun other member same => fresh (List.mem_map.mpr ⟨other, member, same⟩), rfl⟩
    · rintro ⟨-, same⟩
      exact ext same.symm

theorem insert?_eq_none : t.insert? row = none ↔ ∃ other, t.find? (key row) = some other := by
  unfold insert?
  split
  · rename_i taken
    obtain ⟨other, member, same⟩ := List.mem_map.mp taken
    simp only [true_iff]
    exact ⟨other, find?_eq_some.mpr ⟨member, same⟩⟩
  · rename_i fresh
    simp only [reduceCtorEq, false_iff, not_exists]
    intro other found
    obtain ⟨member, same⟩ := find?_eq_some.mp found
    exact fresh (List.mem_map.mpr ⟨other, member, same⟩)

theorem find?_of_rows_cons (rows : s.rows = row :: t.rows) (k : κ) :
    s.find? k = if key row = k then some row else t.find? k := by
  rw [find?, rows, List.find?_cons]
  by_cases same : key row = k <;> simp [same, find?]

theorem find?_insert? (inserted : t.insert? row = some s) (k : κ) :
    s.find? k = if key row = k then some row else t.find? k :=
  find?_of_rows_cons (insert?_eq_some.mp inserted).2 k

theorem find?_insertIfAbsent (t : Table key) (row : ρ) (k : κ) :
    (t.insertIfAbsent row).find? k =
      if k = key row then (t.find? k).or (some row) else t.find? k := by
  unfold insertIfAbsent
  cases inserted : t.insert? row with
  | none =>
    obtain ⟨old, found⟩ := insert?_eq_none.mp inserted
    by_cases same : k = key row
    · rw [if_pos same, same, found]
      exact found
    · rw [if_neg same]
      rfl
  | some s =>
    have absent := (insert?_eq_some.mp inserted).1
    rw [Option.getD_some, find?_insert? inserted]
    by_cases same : k = key row
    · rw [if_pos same.symm, if_pos same, same, absent]
      rfl
    · rw [if_neg (Ne.symm same), if_neg same]

theorem mem_insertIfAbsent
    (member : other ∈ (t.insertIfAbsent row).rows) : other = row ∨ other ∈ t.rows := by
  unfold insertIfAbsent at member
  cases inserted : t.insert? row with
  | none =>
    rw [inserted] at member
    exact .inr member
  | some s =>
    rw [inserted, Option.getD_some, (insert?_eq_some.mp inserted).2] at member
    exact List.mem_cons.mp member

theorem find?_insertIfAbsent_of_some
    (found : t.find? k = some other) : (t.insertIfAbsent row).find? k = some other := by
  rw [find?_insertIfAbsent, found]
  split <;> rfl

theorem mem_insertIfAbsent_of_mem (member : other ∈ t.rows) : other ∈ (t.insertIfAbsent row).rows :=
  mem_of_find? (find?_insertIfAbsent_of_some (find?_of_mem member))

theorem isSome_insertIfAbsent_self (t : Table key) (row : ρ) :
    ((t.insertIfAbsent row).find? (key row)).isSome = true := by
  rw [find?_insertIfAbsent, if_pos rfl, Option.isSome_or]
  exact Bool.or_true _

theorem isSome_insertIfAbsent
    (present : (t.find? k).isSome = true) : ((t.insertIfAbsent row).find? k).isSome = true := by
  obtain ⟨other, found⟩ := Option.isSome_iff_exists.mp present
  rw [find?_insertIfAbsent_of_some found]
  rfl

theorem find?_delete (t : Table key) (condition : ρ → Bool) (k : κ) :
    (t.delete condition).find? k = (t.find? k).filter fun row => !condition row := by
  cases found : t.find? k with
  | none =>
    rw [Option.filter_none, find?_eq_none]
    intro row member
    exact find?_eq_none.mp found row (List.mem_of_mem_filter member)
  | some row =>
    obtain ⟨member, same⟩ := find?_eq_some.mp found
    by_cases dropped : condition row
    · rw [Option.filter_some, if_neg (by simp [dropped]), find?_eq_none]
      intro other kept collide
      obtain ⟨otherMember, otherKept⟩ := List.mem_filter.mp kept
      have twin : other = row :=
        List.inj_on_of_nodup_map t.unique otherMember member (collide.trans same.symm)
      simp [twin, dropped] at otherKept
    · rw [Option.filter_some, if_pos (by simp [dropped]), find?_eq_some]
      exact ⟨List.mem_filter.mpr ⟨member, by simp [dropped]⟩, same⟩

theorem length_filter_pair {j : κ} (different : j ≠ k) (condition : ρ → Bool) :
    (t.rows.filter fun row => (key row = j ∨ key row = k) ∧ condition row).length = 2 ↔
      (∃ row, t.find? j = some row ∧ condition row) ∧
        ∃ row, t.find? k = some row ∧ condition row := by
  set hit := t.rows.filter fun row => (key row = j ∨ key row = k) ∧ condition row with hitEq
  have mem_hit : ∀ {k'}, k' ∈ hit.map key ↔
      (k' = j ∨ k' = k) ∧ ∃ row, t.find? k' = some row ∧ condition row := by
    intro k'
    rw [List.mem_map]
    constructor
    · rintro ⟨row, member, rfl⟩
      obtain ⟨stored, meets⟩ := List.mem_filter.mp member
      have both : (key row = j ∨ key row = k) ∧ condition row = true := by simpa using meets
      exact ⟨both.1, row, find?_of_mem stored, both.2⟩
    · rintro ⟨either, row, found, meets⟩
      obtain ⟨stored, rfl⟩ := find?_eq_some.mp found
      exact ⟨row, List.mem_filter.mpr ⟨stored, by simpa using ⟨either, meets⟩⟩, rfl⟩
  have distinct : (hit.map key).Nodup :=
    t.unique.sublist (List.filter_sublist.map key)
  have within : hit.map key ⊆ [j, k] := by
    intro k' member
    have either := (mem_hit.mp member).1
    simpa using either
  have pair : [j, k].Nodup := by simpa using different
  rw [← List.length_map key]
  constructor
  · intro two
    have same : (hit.map key).Perm [j, k] :=
      (List.subperm_of_subset distinct within).perm_of_length_le (by simp [two])
    exact ⟨(mem_hit.mp (same.mem_iff.mpr (by simp))).2, (mem_hit.mp (same.mem_iff.mpr (by simp))).2⟩
  · rintro ⟨first, second⟩
    have both : [j, k] ⊆ hit.map key := by
      intro k' member
      rcases List.mem_pair.mp member with rfl | rfl
      · exact mem_hit.mpr ⟨.inl rfl, first⟩
      · exact mem_hit.mpr ⟨.inr rfl, second⟩
    have same : (hit.map key).Perm [j, k] :=
      (List.subperm_of_subset distinct within).antisymm (List.subperm_of_subset pair both)
    rw [same.length_eq]
    rfl

end Lookup

/-! ## Column totals -/

def total [AddCommMonoid M] (t : Table key) (column : ρ → M) : M :=
  (t.rows.map column).sum

@[simp] theorem total_empty [AddCommMonoid M] (column : ρ → M) :
    (empty : Table key).total column = 0 := rfl

theorem total_congr [AddCommMonoid M] {f g : ρ → M}
    (same : ∀ row ∈ t.rows, f row = g row) : t.total f = t.total g := by
  rw [total, total, List.map_congr_left same]

theorem total_add [AddCommMonoid M] (t : Table key) (f g : ρ → M) :
    (t.total fun row => f row + g row) = t.total f + t.total g :=
  List.sum_map_add

theorem total_insert? [AddCommMonoid M] [DecidableEq κ] (inserted : t.insert? row = some s)
    (column : ρ → M) : s.total column = column row + t.total column := by
  rw [total, (insert?_eq_some.mp inserted).2, List.map_cons, List.sum_cons, total]

theorem total_update [AddCommMonoid M] (t : Table key) (condition : ρ → Bool) (assign : ρ → ρ)
    (keeps : ∀ row, key (assign row) = key row) (column : ρ → M) :
    (t.update condition assign keeps).total column =
      t.total fun row => if condition row then column (assign row) else column row := by
  rw [total, update, List.map_map, total]
  congr 1
  apply List.map_congr_left
  intro row _
  simp only [Function.comp_apply]
  split <;> rfl

theorem total_delete [AddCommMonoid M] (t : Table key) (condition : ρ → Bool) (column : ρ → M) :
    (t.delete condition).total column =
      t.total fun row => if condition row then 0 else column row := by
  dsimp only [total, delete]
  induction t.rows with
  | nil => rfl
  | cons row rest ih =>
    by_cases dropped : condition row
    · simpa [dropped] using ih
    · simpa [dropped] using congrArg (column row + ·) ih

private theorem sum_single [AddCommMonoid M] [DecidableEq κ] {l : List ρ}
    (unique : (l.map key).Nodup) (member : row ∈ l) (column : ρ → M) :
    (l.map fun other => if key other = key row then column other else 0).sum = column row := by
  induction l with
  | nil => cases member
  | cons head rest ih =>
    rw [List.map_cons, List.nodup_cons] at unique
    rw [List.map_cons, List.sum_cons]
    rcases List.mem_cons.mp member with rfl | later
    · have others : (rest.map fun other => if key other = key row then column other else 0) =
          rest.map fun _ => 0 := by
        apply List.map_congr_left
        intro other otherMember
        rw [if_neg]
        exact fun same => unique.1 (List.mem_map.mpr ⟨other, otherMember, same⟩)
      rw [others]
      simp
    · have different : key head ≠ key row := fun same =>
        unique.1 (List.mem_map.mpr ⟨row, later, same.symm⟩)
      rw [if_neg different, zero_add, ih unique.2 later]

theorem total_single [AddCommMonoid M] [DecidableEq κ]
    (found : t.find? k = some row) (column : ρ → M) :
    (t.total fun other => if key other = k then column other else 0) = column row := by
  obtain ⟨member, rfl⟩ := find?_eq_some.mp found
  exact sum_single t.unique member column

/-- Updating the row of one key moves a total by that row's change. -/
theorem total_modify [AddCommGroup M] [DecidableEq κ] (found : t.find? k = some row)
    (assign : ρ → ρ) (keeps : ∀ row, key (assign row) = key row) (column : ρ → M) :
    (t.modify k assign keeps).total column =
      t.total column + (column (assign row) - column row) := by
  have change := total_single found fun other => column (assign other) - column other
  rw [← change, ← total_add, modify, total_update]
  apply total_congr
  intro other _
  by_cases same : key other = k <;> simp [same]

end Table

/-! ## Identity columns -/

/-- A table whose key is drawn from a counter. -/
structure Serial (key : ρ → Nat) extends Table key where
  next : Nat
  fresh : ∀ row ∈ rows, key row < next

namespace Serial

variable {key : ρ → Nat}

/-- The table without rows; the first row gets number one. -/
def empty : Serial key := { (Table.empty : Table key) with next := 1, fresh := by simp [Table.empty] }

/-- `INSERT … RETURNING id`: the row built from the next number. -/
def insert (t : Serial key) (make : Nat → ρ) (keyed : ∀ id, key (make id) = id) : Serial key where
  rows := make t.next :: t.rows
  unique := by
    rw [List.map_cons, List.nodup_cons]
    refine ⟨?_, t.unique⟩
    intro taken
    obtain ⟨row, member, same⟩ := List.mem_map.mp taken
    have below := t.fresh row member
    rw [keyed] at same
    omega
  next := t.next + 1
  fresh := by
    intro row member
    rcases List.mem_cons.mp member with rfl | old
    · rw [keyed]
      omega
    · exact Nat.lt_succ_of_lt (t.fresh row old)

/-- `UPDATE … WHERE id = k`. -/
def modify (t : Serial key) (k : Nat) (assign : ρ → ρ) (keeps : ∀ row, key (assign row) = key row) :
    Serial key where
  toTable := t.toTable.modify k assign keeps
  next := t.next
  fresh := by
    intro row member
    obtain ⟨old, oldMember, rfl⟩ := List.mem_map.mp member
    have below := t.fresh old oldMember
    split
    · rw [keeps]
      exact below
    · exact below

@[simp] theorem rows_insert (t : Serial key) (make : Nat → ρ) (keyed : ∀ id, key (make id) = id) :
    (t.insert make keyed).rows = make t.next :: t.rows := rfl

theorem find?_insert (t : Serial key) (make : Nat → ρ) (keyed : ∀ id, key (make id) = id)
    (k : Nat) :
    (t.insert make keyed).find? k = if k = t.next then some (make t.next) else t.find? k := by
  rw [Table.find?_of_rows_cons (rows_insert t make keyed), keyed]
  simp only [eq_comm]

theorem lt_next {t : Serial key} {k : Nat} {row : ρ} (found : t.find? k = some row) :
    k < t.next := by
  obtain ⟨member, rfl⟩ := Table.find?_eq_some.mp found
  exact t.fresh row member

end Serial
