import Mathlib.Data.Rat.Defs
import Mathlib.Data.List.Sort
import Mathlib.Order.Lattice

/-! # The leaders of a list

The entries of the largest score, in their order, as a definition and as one pass over the list
that starts again at every larger score.
-/

namespace Leaders

variable {α β : Type} [LinearOrder β] (score : α → β)

/-- The entries that no other surpasses. -/
def leaders (entries : List α) : List α :=
  entries.filter fun entry => entries.all fun other => decide (score other ≤ score entry)

variable {entries seen : List α}

theorem mem_leaders {entry : α} :
    entry ∈ leaders score entries ↔ entry ∈ entries ∧ ∀ other ∈ entries, score other ≤ score entry := by
  simp [leaders]

theorem leaders_perm {entries' : List α} (perm : entries.Perm entries') :
    (leaders score entries).Perm (leaders score entries') := by
  have same : leaders score entries = entries.filter fun entry =>
      entries'.all fun other => decide (score other ≤ score entry) := by
    refine List.filter_congr fun entry _ => ?_
    rw [Bool.eq_iff_iff, List.all_eq_true, List.all_eq_true]
    exact ⟨fun all other member => all other (perm.mem_iff.mpr member),
      fun all other member => all other (perm.mem_iff.mp member)⟩
  rw [same]
  exact perm.filter _

/-- The largest score so far, and the entries that have it. -/
structure Standing (α β : Type) where
  largest : Option β
  ties : List α

def Standing.start : Standing α β := ⟨none, []⟩

def Standing.add (standing : Standing α β) (entry : α) : Standing α β :=
  if standing.largest.any (score entry < ·) then standing
  else if standing.largest.all (· < score entry) then ⟨some (score entry), [entry]⟩
  else ⟨standing.largest, standing.ties ++ [entry]⟩

/-- What a pass knows of the entries that it has seen. -/
def Standing.Of (standing : Standing α β) (seen : List α) : Prop :=
  match standing.largest with
  | none => seen = [] ∧ standing.ties = []
  | some largest => (∃ entry ∈ seen, score entry = largest) ∧
      (∀ entry ∈ seen, score entry ≤ largest) ∧
      standing.ties = seen.filter fun entry => decide (score entry = largest)

variable {standing : Standing α β}

theorem Standing.Of.add (of : standing.Of score seen)
    (entry : α) : (standing.add score entry).Of score (seen ++ [entry]) := by
  obtain ⟨largest, ties⟩ := standing
  cases largest with
  | none =>
    obtain ⟨rfl, rfl⟩ := of
    simp [Standing.add, Standing.Of]
  | some largest =>
    obtain ⟨⟨holder, listed, held⟩, bound, rfl⟩ := of
    rcases lt_trichotomy (score entry) largest with less | same | more
    · have stays : Standing.add score ⟨some largest, seen.filter fun entry =>
          decide (score entry = largest)⟩ entry =
          ⟨some largest, seen.filter fun entry => decide (score entry = largest)⟩ := by
        simp [Standing.add, less]
      rw [stays]
      refine ⟨⟨holder, by simp [listed], held⟩, ?_, by simp [less.ne]⟩
      intro other member
      rcases List.mem_append.mp member with old | new
      · exact bound other old
      · rw [List.mem_singleton.mp new]
        exact less.le
    · have stays : Standing.add score ⟨some largest, seen.filter fun entry =>
          decide (score entry = largest)⟩ entry =
          ⟨some largest, (seen.filter fun entry => decide (score entry = largest)) ++ [entry]⟩ := by
        simp [Standing.add, same]
      rw [stays]
      refine ⟨⟨holder, by simp [listed], held⟩, ?_, by simp [same]⟩
      intro other member
      rcases List.mem_append.mp member with old | new
      · exact bound other old
      · rw [List.mem_singleton.mp new]
        exact same.le
    · have resets : Standing.add score ⟨some largest, seen.filter fun entry =>
          decide (score entry = largest)⟩ entry = ⟨some (score entry), [entry]⟩ := by
        simp [Standing.add, more, more.le]
      rw [resets]
      refine ⟨⟨entry, by simp, rfl⟩, ?_, ?_⟩
      · intro other member
        rcases List.mem_append.mp member with old | new
        · exact (bound other old).trans more.le
        · rw [List.mem_singleton.mp new]
      · have none' : seen.filter (fun other => decide (score other = score entry)) = [] := by
          rw [List.filter_eq_nil_iff]
          intro other member
          simpa using ((bound other member).trans_lt more).ne
        simp [none']

theorem Standing.Of.addAll (of : standing.Of score seen) (entries : List α) :
    (entries.foldl (Standing.add score) standing).Of score (seen ++ entries) := by
  induction entries generalizing standing seen with
  | nil => simpa using of
  | cons entry entries ih => simpa using ih (of.add score entry)

theorem Standing.Of.ties_eq
    (of : standing.Of score entries) : standing.ties = leaders score entries := by
  obtain ⟨largest, ties⟩ := standing
  cases largest with
  | none =>
    obtain ⟨rfl, rfl⟩ := of
    rfl
  | some largest =>
    obtain ⟨⟨holder, listed, held⟩, bound, rfl⟩ := of
    refine List.filter_congr fun entry member => ?_
    rw [Bool.eq_iff_iff]
    simp only [decide_eq_true_eq, List.all_eq_true]
    constructor
    · rintro rfl other there
      exact bound other there
    · intro all
      exact le_antisymm (bound entry member) (held ▸ all holder listed)

theorem leaders_ne_nil (nonempty : entries ≠ []) : leaders score entries ≠ [] := by
  have of := (show Standing.Of score Standing.start ([] : List α) from ⟨rfl, rfl⟩).addAll score entries
  rw [List.nil_append] at of
  rw [← of.ties_eq score]
  generalize entries.foldl (Standing.add score) Standing.start = standing at of
  obtain ⟨largest, ties⟩ := standing
  cases largest with
  | none => exact absurd of.1 nonempty
  | some largest =>
    obtain ⟨⟨holder, listed, held⟩, -, rfl⟩ := of
    exact List.ne_nil_of_mem (List.mem_filter.mpr ⟨listed, by simpa using held⟩)

end Leaders
