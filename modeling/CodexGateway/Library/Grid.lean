import Mathlib

/-! # Grids of equal periods

Time is cut into periods of one length from an anchor on. A timeline stands in one of
these periods, which it numbers; it may be limited to a count of periods. Rolling moves
it to the period that contains the present.
-/

namespace Grid

/-- The start of the period that contains a point in time. -/
def start (anchor length t : Int) : Int := anchor + (t - anchor) / length * length

/-- A point at a whole number of periods from the anchor. -/
def On (anchor length t : Int) : Prop := ∃ k, t = anchor + k * length

variable {anchor length s t : Int}

theorem start_on (anchor length t : Int) : On anchor length (start anchor length t) := ⟨_, rfl⟩

theorem On.refl (anchor length : Int) : On anchor length anchor := ⟨0, by simp⟩

theorem On.trans (first : On anchor length s) (second : On s length t) : On anchor length t := by
  obtain ⟨j, rfl⟩ := first
  obtain ⟨k, rfl⟩ := second
  exact ⟨j + k, by ring⟩

theorem start_le (positive : 0 < length) : start anchor length t ≤ t := by
  have := Int.ediv_mul_le (t - anchor) positive.ne'
  unfold start
  omega

theorem lt_start_add (positive : 0 < length) : t < start anchor length t + length := by
  have := Int.lt_ediv_add_one_mul_self (t - anchor) positive
  rw [add_mul, one_mul] at this
  unfold start
  omega

end Grid

/-- A period of a grid, its number, and how many periods there are; zero is no limit. -/
@[ext] structure Timeline where
  anchor : Int
  length : Int
  start : Int
  number : Int
  count : Int
  positive : 0 < length
  onGrid : Grid.On anchor length start

namespace Timeline

variable (T : Timeline) {s t : Int}

def ends : Int := T.start + T.length

def expiry : Option Int :=
  if T.count = 0 then none else some (T.ends + (T.count - T.number) * T.length)

/-- How many periods lie between the current one and a point in time. -/
def steps (t : Int) : Int := (t - T.start) / T.length

def moved (t : Int) : Timeline :=
  { T with
    start := T.start + T.steps t * T.length
    number := T.number + T.steps t
    onGrid := T.onGrid.trans ⟨_, rfl⟩ }

/-- Nothing happens before the current period has ended. -/
def roll (t : Int) : Timeline := if t < T.ends then T else T.moved t

@[simp] theorem moved_length : (T.moved t).length = T.length := rfl

@[simp] theorem moved_count : (T.moved t).count = T.count := rfl

theorem moved_start : (T.moved t).start = Grid.start T.start T.length t := rfl

theorem moved_expiry (t : Int) : (T.moved t).expiry = T.expiry := by
  simp only [expiry, ends, moved]
  congr 2
  ring

theorem roll_expiry (t : Int) : (T.roll t).expiry = T.expiry := by
  unfold roll
  split
  · rfl
  · exact T.moved_expiry t

theorem start_lt_ends : T.start < T.ends := by
  have := T.positive
  unfold ends
  omega

theorem moved_contains (t : Int) : (T.moved t).start ≤ t ∧ t < (T.moved t).ends :=
  ⟨Grid.start_le T.positive, Grid.lt_start_add T.positive⟩

/-- A rolled timeline contains the present, unless the present is before it. -/
theorem roll_contains (started : T.start ≤ t) : (T.roll t).start ≤ t ∧ t < (T.roll t).ends := by
  unfold roll
  split
  · exact ⟨started, ‹_›⟩
  · exact T.moved_contains t

theorem steps_nonneg (ended : T.ends ≤ t) : 0 ≤ T.steps t := by
  have := T.positive
  unfold ends at ended
  exact Int.ediv_nonneg (by omega) (by omega)

theorem steps_moved (s t : Int) : (T.moved s).steps t = T.steps t - T.steps s := by
  have shift : t - (T.start + T.steps s * T.length) = t - T.start + -T.steps s * T.length := by ring
  simp only [steps, moved]
  rw [← steps, shift, Int.add_mul_ediv_right _ _ T.positive.ne']
  unfold steps
  ring

theorem moved_moved (s t : Int) : (T.moved s).moved t = T.moved t := by
  apply Timeline.ext
  · rfl
  · rfl
  · change T.start + T.steps s * T.length + (T.moved s).steps t * T.length =
      T.start + T.steps t * T.length
    rw [steps_moved]
    ring
  · change T.number + T.steps s + (T.moved s).steps t = T.number + T.steps t
    rw [steps_moved]
    ring
  · rfl

theorem moved_of_contains (started : T.start ≤ t) (open' : t < T.ends) : T.moved t = T := by
  have still : T.steps t = 0 := by
    unfold ends at open'
    exact Int.ediv_eq_zero_of_lt (by omega) (by omega)
  apply Timeline.ext <;> simp [moved, still]

/-- Rolling at an earlier time first makes no difference. -/
theorem roll_roll (order : s ≤ t) : (T.roll s).roll t = T.roll t := by
  by_cases early : s < T.ends
  · have still : T.roll s = T := if_pos early
    rw [still]
  · have first : T.roll s = T.moved s := if_neg early
    have second : T.roll t = T.moved t := if_neg (by omega)
    rw [first, second, roll]
    split
    · rename_i within
      have started := Int.le_trans (T.moved_contains s).1 order
      rw [← T.moved_moved s t, (T.moved s).moved_of_contains started within]
    · exact T.moved_moved s t

theorem ends_le_roll (t : Int) : T.ends ≤ (T.roll t).ends := by
  unfold roll
  split
  · exact le_rfl
  · have ended : T.ends ≤ t := not_lt.mp ‹_›
    have := mul_nonneg (T.steps_nonneg ended) T.positive.le
    change T.start + T.length ≤ T.start + T.steps t * T.length + T.length
    omega

/-- Before its expiry a limited timeline stays within its count. -/
theorem roll_number_le (counted : T.count ≠ 0) (within : T.number ≤ T.count)
    (before : ∀ e ∈ T.expiry, t < e) : (T.roll t).number ≤ T.count := by
  have limit := before (T.ends + (T.count - T.number) * T.length) (by simp [expiry, counted])
  unfold roll
  split
  · exact within
  · have bound : T.steps t < T.count - T.number + 1 := by
      refine Int.ediv_lt_of_lt_mul T.positive ?_
      unfold ends at limit
      linarith
    change T.number + T.steps t ≤ T.count
    omega

end Timeline
