import Mathlib

/-! # Transactions and runs

A transaction is a function that returns the next state or an error. Taking it
apart follows its binds; committing it keeps the old state on an error. A run
commits one operation after the other, and an invariant of every step is an
invariant of every run.
-/

variable {ε α β σ ι : Type}

namespace Except

variable {x : Except ε α} {f : α → Except ε β} {b : β} {δ : Type} {a : α} {c : Prop} {err : ε}
  {entries : List ι} {check : ι → Except ε Unit}

@[simp] theorem bind_eq_ok : (x >>= f) = .ok b ↔ ∃ a, x = .ok a ∧ f a = .ok b := by
  cases x with
  | error err =>
    constructor
    · intro impossible
      cases impossible
    · rintro ⟨a, impossible, -⟩
      cases impossible
  | ok a =>
    constructor
    · exact fun rest => ⟨a, rfl, rest⟩
    · rintro ⟨a', same, rest⟩
      cases same
      exact rest

/-- Taking apart a check that returns nothing. -/
theorem check_bind_eq_ok {x : Except ε Unit} {f : Unit → Except ε β} :
    (x >>= f) = .ok b ↔ x = .ok () ∧ f () = .ok b := by
  rw [bind_eq_ok]
  constructor
  · rintro ⟨⟨⟩, accepted, rest⟩
    exact ⟨accepted, rest⟩
  · rintro ⟨accepted, rest⟩
    exact ⟨(), accepted, rest⟩

@[simp] theorem throw_eq_error (err : ε) : (throw err : Except ε α) = .error err := rfl

@[simp] theorem pure_eq (a : α) : (pure a : Except ε α) = .ok a := rfl

@[simp] theorem ok_bind (a : α) (f : α → Except ε β) : ((.ok a : Except ε α) >>= f) = f a := rfl

@[simp] theorem error_bind (err : ε) (f : α → Except ε β) :
    ((.error err : Except ε α) >>= f) = .error err := rfl

@[simp] theorem mapError_eq_ok {f : ε → δ} : x.mapError f = .ok a ↔ x = .ok a := by
  cases x <;> simp [Except.mapError]

@[simp] theorem map_eq_ok {f : α → β} : x.map f = .ok b ↔ ∃ a, x = .ok a ∧ f a = b := by
  cases x <;> simp [Except.map]

theorem toOption_eq_some : x.toOption = some a ↔ x = .ok a := by
  cases x <;> simp [Except.toOption]

theorem exists_of_isOk (ok : x.isOk = true) : ∃ a, x = .ok a := by
  cases x with
  | error err => cases ok
  | ok a => exact ⟨a, rfl⟩

/-- A refused condition does not hold on the way to a result. -/
theorem refuse_eq_ok [Decidable c] : (if c then .error err else x) = .ok a ↔ ¬ c ∧ x = .ok a := by
  split <;> simp_all

theorem forM_eq_ok : entries.forM check = .ok () ↔ ∀ entry ∈ entries, check entry = .ok () := by
  induction entries with
  | nil => simp [List.forM]
  | cons entry rest ih =>
    change (check entry >>= fun _ => rest.forM check) = .ok () ↔ _
    rw [check_bind_eq_ok, ih, List.forall_mem_cons]

/-! ## Errors -/

/-- Every error of a computation satisfies a condition. -/
def FailsWith (P : ε → Prop) (x : Except ε α) : Prop :=
  ∀ err, x = .error err → P err

variable {P : ε → Prop}

theorem failsWith_ok (a : α) : FailsWith P (.ok a) := by
  intro err impossible
  cases impossible

theorem failsWith_error (met : P err) : FailsWith P (.error err : Except ε α) := by
  intro other same
  cases same
  exact met

theorem FailsWith.imp {Q : ε → Prop} (fails : FailsWith P x)
    (weaker : ∀ err, P err → Q err) : FailsWith Q x :=
  fun err same => weaker err (fails err same)

theorem FailsWith.bind (first : FailsWith P x)
    (rest : ∀ a, x = .ok a → FailsWith P (f a)) : FailsWith P (x >>= f) := by
  cases x with
  | error err =>
    intro other same
    cases same
    exact first err rfl
  | ok a => exact rest a rfl

theorem failsWith_refuse [Decidable c] (met : P err)
    (rest : ¬ c → FailsWith P x) : FailsWith P (if c then .error err else x) := by
  split
  · exact failsWith_error met
  · exact rest ‹_›

theorem failsWith_mapError {x : Except δ α} {f : δ → ε} (met : ∀ err, P (f err)) :
    FailsWith P (x.mapError f) := by
  cases x with
  | error err => exact failsWith_error (met err)
  | ok a => exact failsWith_ok a

theorem FailsWith.map (fails : FailsWith P x) (f : α → β) : FailsWith P (x.map f) := by
  cases x with
  | error err =>
    intro other same
    cases same
    exact fails err rfl
  | ok a => exact failsWith_ok (f a)

theorem failsWith_forM
    (each : ∀ entry ∈ entries, FailsWith P (check entry)) : FailsWith P (entries.forM check) := by
  induction entries with
  | nil => exact failsWith_ok ()
  | cons entry rest ih =>
    change FailsWith P (check entry >>= fun _ => rest.forM check)
    apply (each entry List.mem_cons_self).bind
    intro _ _
    exact ih fun other member => each other (List.mem_cons_of_mem _ member)

end Except

/-- Every entry of a list that is mapped as a whole comes from an entry of the first. -/
theorem Option.exists_of_mem_mapM {f : α → Option β} {entries : List α} {results : List β}
    (mapped : entries.mapM f = some results) {b : β} (member : b ∈ results) :
    ∃ a ∈ entries, f a = some b := by
  induction entries generalizing results with
  | nil =>
    cases mapped
    cases member
  | cons a rest ih =>
    rw [List.mapM_cons] at mapped
    obtain ⟨first, here, mapped⟩ := Option.bind_eq_some_iff.mp mapped
    obtain ⟨others, there, mapped⟩ := Option.bind_eq_some_iff.mp mapped
    cases mapped
    rcases List.mem_cons.mp member with rfl | later
    · exact ⟨a, List.mem_cons_self, here⟩
    · obtain ⟨a', member', same⟩ := ih there later
      exact ⟨a', List.mem_cons_of_mem _ member', same⟩

theorem Option.exists_mapM {f : α → Option β} {entries : List α}
    (each : ∀ a ∈ entries, ∃ b, f a = some b) : ∃ results, entries.mapM f = some results := by
  induction entries with
  | nil => exact ⟨[], rfl⟩
  | cons a rest ih =>
    obtain ⟨first, here⟩ := each a List.mem_cons_self
    obtain ⟨others, there⟩ := ih fun other member => each other (List.mem_cons_of_mem _ member)
    exact ⟨first :: others, by simp [List.mapM_cons, here, there]⟩

/-- A column of the results that can be read off the entries. -/
theorem Option.map_of_mapM {γ : Type} {f : α → Option β} {entries : List α} {results : List β}
    (mapped : entries.mapM f = some results) {g : β → γ} {h : α → γ}
    (each : ∀ a ∈ entries, ∀ b, f a = some b → g b = h a) : results.map g = entries.map h := by
  induction entries generalizing results with
  | nil =>
    cases mapped
    rfl
  | cons a rest ih =>
    rw [List.mapM_cons] at mapped
    obtain ⟨first, here, mapped⟩ := Option.bind_eq_some_iff.mp mapped
    obtain ⟨others, there, mapped⟩ := Option.bind_eq_some_iff.mp mapped
    cases mapped
    rw [List.map_cons, List.map_cons, each a List.mem_cons_self first here,
      ih there fun other member => each other (List.mem_cons_of_mem _ member)]

namespace Transaction

/-- A transaction that fails leaves the state as it was. -/
def commit (tx : σ → Except ε σ) (s : σ) : σ :=
  match tx s with
  | .ok s' => s'
  | .error _ => s

variable {tx : σ → Except ε σ} {P : σ → Prop} {step : σ → ι → σ} {ops : List ι}

theorem commit_of_ok {s s' : σ} (ok : tx s = .ok s') : commit tx s = s' := by
  unfold commit
  rw [ok]

theorem commit_preserves {s : σ} (before : P s)
    (keep : ∀ s', tx s = .ok s' → P s') : P (commit tx s) := by
  unfold commit
  split
  · exact keep _ ‹_›
  · exact before

def run (step : σ → ι → σ) (s : σ) (ops : List ι) : σ :=
  ops.foldl step s

theorem run_preserves {s : σ} (start : P s)
    (keep : ∀ s op, P s → P (step s op)) (ops : List ι) : P (run step s ops) := by
  induction ops generalizing s with
  | nil => exact start
  | cons op rest ih => exact ih (keep s op start)

/-- Every operation of the list meets a condition in the state it starts from. -/
def Along (condition : σ → ι → Prop) (step : σ → ι → σ) : σ → List ι → Prop
  | _, [] => True
  | s, op :: rest => condition s op ∧ Along condition step (step s op) rest

theorem Along.and {first second : σ → ι → Prop} {s : σ}
    (left : Along first step s ops) (right : Along second step s ops) :
    Along (fun s op => first s op ∧ second s op) step s ops := by
  induction ops generalizing s with
  | nil => trivial
  | cons op rest ih => exact ⟨⟨left.1, right.1⟩, ih left.2 right.2⟩

theorem run_preserves_along {condition : σ → ι → Prop} {s : σ}
    (start : P s) (keep : ∀ s op, condition s op → P s → P (step s op))
    (along : Along condition step s ops) : P (run step s ops) := by
  induction ops generalizing s with
  | nil => exact start
  | cons op rest ih => exact ih (keep s op along.1 start) along.2

end Transaction
