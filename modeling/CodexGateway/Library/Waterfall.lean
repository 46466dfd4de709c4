import Mathlib

/-! # Draining sources in order

A need is met from a list of sources, each held up to an amount. Every source
gives what it has, or what is still needed; a source that would give nothing is
passed over. The charges are the sources that gave something, in order.
-/

namespace Waterfall

variable {ι M : Type} [AddCommGroup M] [LinearOrder M]

/-- The sources that give something, each with what it gives. -/
def charges : M → List (ι × M) → List (ι × M)
  | _, [] => []
  | need, (source, held) :: rest =>
    if 0 < min held need then (source, min held need) :: charges (need - min held need) rest
    else charges need rest

def total (charged : List (ι × M)) : M := (charged.map Prod.snd).sum

omit [LinearOrder M] in
@[simp] theorem total_nil : total ([] : List (ι × M)) = 0 := rfl

omit [LinearOrder M] in
@[simp] theorem total_cons (charge : ι × M) (rest : List (ι × M)) :
    total (charge :: rest) = charge.2 + total rest := rfl

omit [LinearOrder M] in
@[simp] theorem total_append (xs ys : List (ι × M)) : total (xs ++ ys) = total xs + total ys := by
  simp [total]

theorem charges_append (need : M) (xs ys : List (ι × M)) :
    charges need (xs ++ ys) = charges need xs ++ charges (need - total (charges need xs)) ys := by
  induction xs generalizing need with
  | nil => simp [charges]
  | cons first rest ih =>
    obtain ⟨source, held⟩ := first
    by_cases gives : 0 < min held need
    · simp only [List.cons_append, charges, if_pos gives, ih, total_cons]
      congr 3
      abel
    · simp only [List.cons_append, charges, if_neg gives, ih]

variable {sources : List (ι × M)} {source : ι} {amount : M}

theorem mem_charges {need : M} (charged : (source, amount) ∈ charges need sources) :
    0 < amount ∧ ∃ held, (source, held) ∈ sources ∧ amount ≤ held := by
  induction sources generalizing need with
  | nil => cases charged
  | cons first rest ih =>
    obtain ⟨other, held⟩ := first
    unfold charges at charged
    split at charged
    · rename_i gives
      rcases List.mem_cons.mp charged with here | later
      · cases here
        exact ⟨gives, held, List.mem_cons_self, min_le_left held need⟩
      · obtain ⟨positive, held', member, bound⟩ := ih later
        exact ⟨positive, held', List.mem_cons_of_mem _ member, bound⟩
    · obtain ⟨positive, held', member, bound⟩ := ih charged
      exact ⟨positive, held', List.mem_cons_of_mem _ member, bound⟩

theorem charges_sublist (need : M) (sources : List (ι × M)) :
    ((charges need sources).map Prod.fst).Sublist (sources.map Prod.fst) := by
  induction sources generalizing need with
  | nil => exact List.Sublist.refl _
  | cons first rest ih =>
    obtain ⟨source, held⟩ := first
    unfold charges
    split
    · exact (ih _).cons_cons source
    · exact (ih _).cons source

variable [IsOrderedAddMonoid M]

variable {charged : List (ι × M)} {held : M}

theorem total_nonneg (positive : ∀ charge ∈ charged, 0 ≤ charge.2) : 0 ≤ total charged := by
  apply List.sum_nonneg
  intro amount member
  obtain ⟨charge, charged', rfl⟩ := List.mem_map.mp member
  exact positive charge charged'

theorem total_charges_nonneg (need : M) (sources : List (ι × M)) :
    0 ≤ total (charges need sources) :=
  total_nonneg fun _ charged => le_of_lt (mem_charges charged).1

theorem total_charges_le {need : M} (nonneg : 0 ≤ need) (sources : List (ι × M)) :
    total (charges need sources) ≤ need := by
  induction sources generalizing need with
  | nil => exact nonneg
  | cons first rest ih =>
    obtain ⟨source, held⟩ := first
    unfold charges
    split
    · have rest' := ih (sub_nonneg.mpr (min_le_right held need))
      rw [total_cons]
      exact le_sub_iff_add_le'.mp rest'
    · exact ih nonneg

theorem charges_of_total_lt {need : M} (unmet : total (charges need sources) < need) :
    charges need sources = sources.filter fun source => 0 < source.2 := by
  induction sources generalizing need with
  | nil => rfl
  | cons first rest ih =>
    obtain ⟨source, held⟩ := first
    unfold charges at unmet ⊢
    split at unmet
    · rename_i gives
      have later : total (charges (need - min held need) rest) < need - min held need := by
        rw [total_cons] at unmet
        exact lt_sub_iff_add_lt'.mpr unmet
      -- Something is still needed after this source, so it gave all it held.
      have whole : min held need = held := by
        have still : 0 < need - min held need :=
          lt_of_le_of_lt (total_charges_nonneg _ _) later
        rcases le_total held need with enough | short
        · exact min_eq_left enough
        · rw [min_eq_right short, sub_self] at still
          exact absurd still (lt_irrefl _)
      rw [whole] at gives later ⊢
      rw [if_pos gives, List.filter_cons_of_pos (by simpa using gives), ih later]
    · rename_i nothing
      have needed : 0 < need := lt_of_le_of_lt (total_charges_nonneg _ _) unmet
      have empty : ¬ 0 < held := fun positive => nothing (lt_min positive needed)
      rw [if_neg nothing, List.filter_cons_of_neg (by simpa using empty), ih unmet]

omit [IsOrderedAddMonoid M] in
theorem charges_of_nonpos {need : M} (met : need ≤ 0) (sources : List (ι × M)) :
    charges need sources = [] := by
  induction sources with
  | nil => rfl
  | cons first rest ih =>
    obtain ⟨source, held⟩ := first
    have nothing : ¬ 0 < min held need :=
      not_lt.mpr (le_trans (min_le_right held need) met)
    unfold charges
    rw [if_neg nothing, ih]

section Given

variable [DecidableEq ι]

def given (source : ι) (charged : List (ι × M)) : M :=
  total (charged.filter fun charge => charge.1 = source)

omit [LinearOrder M] [IsOrderedAddMonoid M] in
theorem given_cons (source : ι) (charge : ι × M) (rest : List (ι × M)) :
    given source (charge :: rest) =
      (if charge.1 = source then charge.2 else 0) + given source rest := by
  unfold given
  by_cases same : charge.1 = source <;> simp [same]

omit [LinearOrder M] [IsOrderedAddMonoid M] in
theorem given_of_not_mem (absent : source ∉ charged.map Prod.fst) : given source charged = 0 := by
  unfold given
  rw [List.filter_eq_nil_iff.mpr]
  · rfl
  · intro charge member
    simp only [decide_eq_true_eq]
    intro same
    exact absent (same ▸ List.mem_map_of_mem member)

omit [LinearOrder M] [IsOrderedAddMonoid M] in
theorem given_of_mem (distinct : (charged.map Prod.fst).Nodup)
    (member : (source, amount) ∈ charged) : given source charged = amount := by
  induction charged with
  | nil => cases member
  | cons charge rest ih =>
    rw [List.map_cons, List.nodup_cons] at distinct
    rw [given_cons]
    rcases List.mem_cons.mp member with rfl | later
    · rw [if_pos rfl, given_of_not_mem distinct.1, add_zero]
    · have other : charge.1 ≠ source := fun same =>
        distinct.1 (same ▸ List.mem_map_of_mem later)
      rw [if_neg other, ih distinct.2 later, zero_add]

theorem given_charges_nonneg (need : M) (source : ι) (sources : List (ι × M)) :
    0 ≤ given source (charges need sources) := by
  apply total_nonneg
  intro charge member
  exact (mem_charges (List.mem_of_mem_filter member)).1.le

omit [IsOrderedAddMonoid M] [DecidableEq ι] in
theorem nodup_charges (distinct : (sources.map Prod.fst).Nodup)
    (need : M) : ((charges need sources).map Prod.fst).Nodup :=
  distinct.sublist (charges_sublist need sources)

omit [IsOrderedAddMonoid M] in
theorem given_charges_le {need : M}
    (distinct : (sources.map Prod.fst).Nodup) (member : (source, held) ∈ sources)
    (nonneg : 0 ≤ held) : given source (charges need sources) ≤ held := by
  by_cases gives : source ∈ (charges need sources).map Prod.fst
  · obtain ⟨⟨_, amount⟩, charged, rfl⟩ := List.mem_map.mp gives
    rw [given_of_mem (nodup_charges distinct need) charged]
    obtain ⟨_, held', member', bound⟩ := mem_charges charged
    have same : held' = held := by
      rw [← given_of_mem distinct member', given_of_mem distinct member]
    exact same ▸ bound
  · rw [given_of_not_mem gives]
    exact nonneg

end Given

end Waterfall
