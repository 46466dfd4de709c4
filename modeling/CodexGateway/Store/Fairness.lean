import CodexGateway.Store.WeightedChoice

/-! # Long-run fairness of the choice

Accounts that are chosen one after another, each choice followed by a cost of the chosen account.
Whatever the costs and the draws, no account is ever charged more than one largest cost above its
share, and none falls further behind than the others together are ahead.
-/

namespace Store.Weighted

variable {candidates : List Candidate} {draw : Int → Option Int}

variable {n : Nat}

/-- The accounts that take part, with their weights. -/
structure Field (n : Nat) where
  id : Fin n → Text
  weight : Fin n → Int
  distinct : Function.Injective id
  positive : ∀ i, 0 < weight i

/-- The rows of the query, in any order, when the accounts have these costs. -/
def Field.Rows (field : Field n) (costs : Fin n → ℚ) (rows : List Candidate) : Prop :=
  ∃ text : Fin n → Text, (∀ i, Decimal.value? (text i) = some (costs i)) ∧
    rows.Perm (List.ofFn fun i => ⟨field.id i, field.weight i, text i⟩)

/-- The costs that are reached by choices, each followed by a cost of at most `largest`. -/
inductive Field.Reaches (field : Field n) (largest : ℚ) : (Fin n → ℚ) → Prop
  | start : field.Reaches largest 0
  | step {costs : Fin n → ℚ} (reached : field.Reaches largest costs) {rows : List Candidate}
      (listed : field.Rows costs rows) {draw : Int → Option Int} {i : Fin n}
      (chosen : selectUpstreamAllocation rows draw = .ok (field.id i)) {cost : ℚ}
      (nonneg : 0 ≤ cost) (bounded : cost ≤ largest) :
      field.Reaches largest (Function.update costs i (costs i + cost))

def Field.share (field : Field n) (i : Fin n) : ℚ := field.weight i / ∑ j, field.weight j

/-- What an account still has to be charged for its share. -/
def Field.behind (field : Field n) (costs : Fin n → ℚ) (i : Fin n) : ℚ :=
  field.share i * ∑ j, costs j - costs i

/-! ## What a successful choice says -/

theorem bounds_of_totals {sums result : Totals} (summed : totals candidates sums = .ok result) :
    ∀ candidate ∈ candidates, candidate.weight ≤ maxUpstreamAllocationWeight := by
  induction candidates generalizing sums with
  | nil => simp
  | cons candidate rest ih =>
    rw [totals] at summed
    split_ifs at summed with outside zero
    · exact List.forall_mem_cons.mpr ⟨by omega, ih summed⟩
    · split at summed
      · cases summed
      · split_ifs at summed
        exact List.forall_mem_cons.mpr ⟨by omega, ih summed⟩

theorem bounds_of_select {id : Text} (chosen : selectUpstreamAllocation candidates draw = .ok id) :
    candidates.length ≤ maxUpstreamAllocationCandidates ∧
      ∀ candidate ∈ candidates, candidate.weight ≤ maxUpstreamAllocationWeight := by
  unfold selectUpstreamAllocation at chosen
  cases found : tied candidates with
  | error e => simp [found] at chosen
  | ok t =>
    unfold tied at found
    split_ifs at found with many
    refine ⟨by omega, ?_⟩
    cases summed : totals candidates ⟨0, 0⟩ with
    | error e => simp [summed] at found
    | ok sums => exact bounds_of_totals summed

/-- Whatever is drawn, an account that is returned is maximal. -/
theorem Choosable.maximal_of_select (choosable : Choosable candidates) {id : Text}
    (chosen : selectUpstreamAllocation candidates draw = .ok id) :
    ∃ candidate ∈ maximal candidates, candidate.id = id := by
  rcases Nat.lt_or_ge (maximal candidates).length 2 with few | several
  · obtain ⟨only, single⟩ : ∃ only, maximal candidates = [only] := by
      refine List.length_eq_one_iff.mp ?_
      have := List.length_pos_of_ne_nil choosable.maximal_ne_nil
      omega
    rw [choosable.select_single single draw] at chosen
    exact ⟨only, by rw [single]; exact List.mem_cons_self, Except.ok.inj chosen⟩
  · obtain ⟨largest, selected⟩ := choosable.select_several several draw
    rw [selected] at chosen
    cases asked : draw (weightSum (maximal candidates)) with
    | none => simp [asked, drawn] at chosen
    | some number =>
      rw [asked] at chosen
      dsimp only [drawn] at chosen
      split_ifs at chosen with outside
      obtain ⟨candidate, member, picked⟩ := pickTie_of_lt (show 0 ≤ number by omega)
        (show number < weightSum (maximal candidates) by omega)
      exact ⟨candidate, member, Except.ok.inj (picked.symm.trans chosen)⟩

variable {field : Field n} {costs : Fin n → ℚ} {rows : List Candidate}

theorem Field.Rows.mem (listed : field.Rows costs rows) {candidate : Candidate}
    (member : candidate ∈ rows) : ∃ i, candidate.id = field.id i ∧
      candidate.weight = field.weight i ∧ Decimal.value? candidate.cost = some (costs i) := by
  obtain ⟨text, read, perm⟩ := listed
  obtain ⟨i, rfl⟩ := List.mem_ofFn.mp (perm.mem_iff.mp member)
  exact ⟨i, rfl, rfl, read i⟩

theorem Field.Rows.choosable (listed : field.Rows costs rows) (nonneg : ∀ i, 0 ≤ costs i)
    {i : Fin n} (chosen : selectUpstreamAllocation rows draw = .ok (field.id i)) :
    Choosable rows := by
  obtain ⟨few, small⟩ := bounds_of_select chosen
  refine ⟨few, ?_, fun candidate member => ?_, ?_⟩
  · obtain ⟨text, -, perm⟩ := listed
    rw [(perm.map Candidate.id).nodup_iff, List.map_ofFn]
    exact List.nodup_ofFn.mpr field.distinct
  · obtain ⟨j, -, weight, cost⟩ := listed.mem member
    exact ⟨by rw [weight]; exact (field.positive j).le, small candidate member, costs j, cost, nonneg j⟩
  · obtain ⟨text, -, perm⟩ := listed
    exact ⟨⟨field.id i, field.weight i, text i⟩,
      perm.mem_iff.mpr (List.mem_ofFn.mpr ⟨i, rfl⟩), field.positive i⟩

theorem Field.Rows.exactTotals (listed : field.Rows costs rows) :
    exactTotals rows = ⟨∑ i, costs i, ∑ i, field.weight i⟩ := by
  obtain ⟨text, read, perm⟩ := listed
  have all : weighted (List.ofFn fun i => (⟨field.id i, field.weight i, text i⟩ : Candidate)) =
      List.ofFn fun i => ⟨field.id i, field.weight i, text i⟩ := by
    refine List.filter_eq_self.mpr fun candidate member => ?_
    obtain ⟨i, rfl⟩ := List.mem_ofFn.mp member
    simpa using (field.positive i).ne'
  rw [exactTotals_perm perm, Weighted.exactTotals, all]
  simp only [weightSum, List.map_ofFn, Totals.mk.injEq]
  constructor
  · rw [List.sum_ofFn]
    simp [Candidate.paid, read]
  · rw [List.sum_ofFn]
    rfl

/-- The deficit of an account among all. -/
def Field.deficit (field : Field n) (costs : Fin n → ℚ) (i : Fin n) : ℚ :=
  (∑ j, costs j) * field.weight i - costs i * ∑ j, (field.weight j : ℚ)

theorem Field.Rows.leads (listed : field.Rows costs rows) (nonneg : ∀ i, 0 ≤ costs i) {i : Fin n}
    (chosen : selectUpstreamAllocation rows draw = .ok (field.id i)) (j : Fin n) :
    field.deficit costs j ≤ field.deficit costs i := by
  have choosable := listed.choosable nonneg chosen
  obtain ⟨candidate, member, named⟩ := choosable.maximal_of_select chosen
  obtain ⟨there, -, leads⟩ := choosable.mem_maximal.mp member
  obtain ⟨k, same, weight, cost⟩ := listed.mem there
  obtain rfl : k = i := field.distinct (same.symm.trans named)
  obtain ⟨text, read, perm⟩ := listed
  have other := leads ⟨field.id j, field.weight j, text j⟩
    (perm.mem_iff.mpr (List.mem_ofFn.mpr ⟨j, rfl⟩)) (field.positive j)
  rw [Field.Rows.exactTotals ⟨text, read, perm⟩] at other
  simpa [Weighted.deficit, Field.deficit, Candidate.paid, read, cost, weight] using other

/-! ## The run -/

theorem Field.total_pos (field : Field n) (i : Fin n) : 0 < ∑ j, (field.weight j : ℚ) := by
  refine Finset.sum_pos (fun j _ => by exact_mod_cast field.positive j) ⟨i, Finset.mem_univ i⟩

theorem Field.sum_deficit (field : Field n) (costs : Fin n → ℚ) :
    ∑ i, field.deficit costs i = 0 := by
  simp only [Field.deficit, Finset.sum_sub_distrib, ← Finset.mul_sum, ← Finset.sum_mul, sub_self]

/-- So the account with the largest is not ahead of its share. -/
theorem Field.deficit_nonneg {i : Fin n} (leads : ∀ j, field.deficit costs j ≤ field.deficit costs i) :
    0 ≤ field.deficit costs i := by
  by_contra negative
  have below : ∑ j, field.deficit costs j < 0 :=
    Finset.sum_neg (fun j _ => (leads j).trans_lt (not_le.mp negative)) ⟨i, Finset.mem_univ i⟩
  exact absurd (field.sum_deficit costs) below.ne

theorem Field.behind_eq (field : Field n) (costs : Fin n → ℚ) (i : Fin n) :
    field.behind costs i = field.deficit costs i / ∑ j, (field.weight j : ℚ) := by
  have total := field.total_pos i
  rw [eq_div_iff total.ne', Field.behind, Field.share, Field.deficit]
  push_cast
  field_simp

theorem Field.share_bounds (field : Field n) (i : Fin n) : 0 ≤ field.share i ∧ field.share i ≤ 1 := by
  have total := field.total_pos i
  have weight : (0 : ℚ) < field.weight i := by exact_mod_cast field.positive i
  have part : (field.weight i : ℚ) ≤ ∑ j, (field.weight j : ℚ) :=
    Finset.single_le_sum (f := fun j => (field.weight j : ℚ))
      (fun j _ => by exact_mod_cast (field.positive j).le) (Finset.mem_univ i)
  unfold Field.share
  push_cast
  exact ⟨by positivity, (div_le_one total).mpr part⟩

theorem Field.sum_behind (field : Field n) (costs : Fin n → ℚ) : ∑ i, field.behind costs i = 0 := by
  simp only [Field.behind_eq, ← Finset.sum_div, Field.sum_deficit, zero_div]

/-- One choice: the chosen account falls behind by less than its cost, the others gain. -/
theorem Field.behind_update (field : Field n) (costs : Fin n → ℚ) (i : Fin n) (cost : ℚ) (j : Fin n) :
    field.behind (Function.update costs i (costs i + cost)) j =
      field.behind costs j + field.share j * cost - if j = i then cost else 0 := by
  have total : ∑ k, Function.update costs i (costs i + cost) k = ∑ k, costs k + cost := by
    rw [Finset.sum_update_of_mem (Finset.mem_univ i), ← Finset.sum_erase_add _ _ (Finset.mem_univ i),
      Finset.sdiff_singleton_eq_erase]
    ring
  unfold Field.behind
  rw [total]
  by_cases same : j = i
  · subst same
    simp
    ring
  · simp [same]
    ring

/-- What every run keeps: no account is further ahead than the largest cost. -/
structure Field.Fair (field : Field n) (largest : ℚ) (costs : Fin n → ℚ) : Prop where
  nonneg : ∀ i, 0 ≤ costs i
  ahead : ∀ i, -largest ≤ field.behind costs i

theorem Field.Fair.step {largest : ℚ} (fair : field.Fair largest costs)
    (listed : field.Rows costs rows) {i : Fin n}
    (chosen : selectUpstreamAllocation rows draw = .ok (field.id i)) {cost : ℚ}
    (nonneg : 0 ≤ cost) (bounded : cost ≤ largest) :
    field.Fair largest (Function.update costs i (costs i + cost)) := by
  have leader := Field.deficit_nonneg (listed.leads fair.nonneg chosen)
  have behind : 0 ≤ field.behind costs i := by
    rw [field.behind_eq]
    exact div_nonneg leader (field.total_pos i).le
  refine ⟨fun j => ?_, fun j => ?_⟩
  · by_cases same : j = i
    · subst same
      simpa using add_nonneg (fair.nonneg j) nonneg
    · simpa [same] using fair.nonneg j
  · have gain := mul_nonneg (field.share_bounds j).1 nonneg
    have held := fair.ahead j
    rw [field.behind_update]
    split_ifs with same
    · subst same
      linarith
    · linarith

theorem Field.Reaches.fair {largest : ℚ} (bound : 0 ≤ largest) (reached : field.Reaches largest costs) :
    field.Fair largest costs := by
  induction reached with
  | start => exact ⟨fun _ => le_rfl, fun i => by simpa [Field.behind] using bound⟩
  | step _ listed chosen nonneg bounded ih => exact ih.step listed chosen nonneg bounded

/-- After any number of choices every account is at most one largest cost above its share, and at
most as many below it as there are other accounts. -/
theorem allocation_is_fair (field : Field n) {largest : ℚ} (bound : 0 ≤ largest) {costs : Fin n → ℚ}
    (reached : field.Reaches largest costs) (i : Fin n) :
    field.share i * ∑ j, costs j - (n - 1) * largest ≤ costs i ∧
      costs i ≤ field.share i * ∑ j, costs j + largest := by
  have fair := reached.fair bound
  have ahead := fair.ahead i
  have others : ∑ j ∈ Finset.univ.erase i, field.behind costs j = -field.behind costs i := by
    have all := field.sum_behind costs
    rw [← Finset.sum_erase_add _ _ (Finset.mem_univ i)] at all
    linarith
  have low : ∑ _j ∈ Finset.univ.erase i, -largest ≤ ∑ j ∈ Finset.univ.erase i, field.behind costs j :=
    Finset.sum_le_sum fun j _ => fair.ahead j
  have count : ((Finset.univ.erase i).card : ℚ) = n - 1 := by
    rw [Finset.card_erase_of_mem (Finset.mem_univ i), Finset.card_univ, Fintype.card_fin,
      Nat.cast_sub (Nat.one_le_iff_ne_zero.mpr (Fin.pos i).ne')]
    simp
  rw [Finset.sum_const, nsmul_eq_mul, count, others] at low
  unfold Field.behind at ahead low
  exact ⟨by linarith, by linarith⟩

/-- Two accounts, of weights one and three. -/
def pair : Field 2 where
  id := !["a".toList, "b".toList]
  weight := ![1, 3]
  distinct := by decide
  positive := by decide

theorem pair_charged {costs costs' : Fin 2 → ℚ} (reached : pair.Reaches 2 costs) (text : Fin 2 → Text)
    (cost : ℚ) (read : ∀ i, Decimal.value? (text i) = some (costs i)) {i : Fin 2}
    (chosen : selectUpstreamAllocation [⟨"a".toList, 1, text 0⟩, ⟨"b".toList, 3, text 1⟩]
      (fun _ => some 0) = .ok (pair.id i)) (nonneg : 0 ≤ cost) (bounded : cost ≤ 2)
    (next : Function.update costs i (costs i + cost) = costs') : pair.Reaches 2 costs' :=
  next ▸ reached.step ⟨text, read, by simp [pair]⟩ chosen nonneg bounded

/-- The draw falls on the first account. From then on the second is behind, twice. -/
theorem pair_reaches : pair.Reaches 2 ![2, 3] := by
  have first : pair.Reaches 2 ![2, 0] :=
    pair_charged .start ![['0'], ['0']] 2 (by decide +kernel) (i := 0) (by decide +kernel)
      (by norm_num) le_rfl (by decide +kernel)
  have second : pair.Reaches 2 ![2, 1] :=
    pair_charged first ![['2'], ['0']] 1 (by decide +kernel) (i := 1) (by decide +kernel)
      (by norm_num) (by norm_num) (by decide +kernel)
  exact pair_charged second ![['2'], ['1']] 2 (by decide +kernel) (i := 1) (by decide +kernel)
    (by norm_num) le_rfl (by decide +kernel)

theorem allocation_is_fair_pair :
    (pair.share 0 * ∑ j, ![2, 3] j - ((2 : Nat) - 1) * 2 ≤ 2 ∧
        2 ≤ pair.share 0 * ∑ j, ![2, 3] j + 2) ∧
      pair.share 1 * ∑ j, ![2, 3] j - ((2 : Nat) - 1) * 2 ≤ 3 ∧
        3 ≤ pair.share 1 * ∑ j, ![2, 3] j + 2 :=
  ⟨allocation_is_fair pair (by norm_num) pair_reaches 0,
    allocation_is_fair pair (by norm_num) pair_reaches 1⟩

end Store.Weighted
