import CodexGateway.Library.Leaders
import CodexGateway.Store.Layers

/-! # The weighted choice on decimal costs

`selectUpstreamAllocation` as it reads the rows of the query: costs are decimal texts that are
compared as exact rationals, and weights are added as 64-bit integers. The account with the largest
deficit is chosen; among several the draw decides, in proportion to their weights.
-/

namespace Store.Weighted

variable {chosen : Int}

structure Candidate where
  id : Text
  weight : Int
  cost : Text
  deriving DecidableEq

def addInt64 (a b : Int) : Int := (a + b).bmod (2 ^ 64)

structure Totals where
  cost : ℚ
  weight : Int

/-- The sums of the costs and of the weights. A candidate of weight zero is passed over. -/
def totals : List Candidate → Totals → Except StoreError Totals
  | [], sums => .ok sums
  | candidate :: rest, sums =>
    if candidate.weight < 0 ∨ candidate.weight > maxUpstreamAllocationWeight then
      .error (.invalid "invalid upstream allocation weight")
    else if candidate.weight = 0 then totals rest sums
    else
      match Decimal.value? candidate.cost with
      | none => .error (.other "invalid upstream allocation cost")
      | some cost =>
        if cost < 0 then .error (.other "invalid upstream allocation cost")
        else totals rest ⟨sums.cost + cost, addInt64 sums.weight candidate.weight⟩

/-- The cost that the first loop has read. -/
def Candidate.paid (candidate : Candidate) : ℚ := (Decimal.value? candidate.cost).getD 0

def deficit (sums : Totals) (candidate : Candidate) : ℚ :=
  sums.cost * candidate.weight - candidate.paid * sums.weight

/-- The candidates with the largest deficit so far, in their order. -/
structure Ties where
  largest : Option ℚ
  ties : List Candidate
  tiedWeight : Int

def Ties.add (sums : Totals) (t : Ties) (candidate : Candidate) : Ties :=
  if candidate.weight = 0 then t
  else if t.largest.any (deficit sums candidate < ·) then t
  else if t.largest.all (· < deficit sums candidate) then
    ⟨some (deficit sums candidate), [candidate], addInt64 0 candidate.weight⟩
  else ⟨t.largest, t.ties ++ [candidate], addInt64 t.tiedWeight candidate.weight⟩

/-- The candidates among which the draw decides. -/
def tied (candidates : List Candidate) : Except StoreError Ties :=
  if candidates.length > maxUpstreamAllocationCandidates then
    .error (.invalid "too many upstream candidates")
  else
    match totals candidates ⟨0, 0⟩ with
    | .error e => .error e
    | .ok sums =>
      if sums.weight = 0 then .error .noUpstreamAccount
      else .ok (candidates.foldl (Ties.add sums) ⟨none, [], 0⟩)

/-- The candidate in whose share of the weights a drawn number falls. -/
def pickTie : List Candidate → Int → Except StoreError Text
  | [], _ => .error .noUpstreamAccount
  | candidate :: rest, chosen =>
    if chosen < candidate.weight then .ok candidate.id
    else pickTie rest (chosen - candidate.weight)

/-- What follows the draw. -/
def drawn (t : Ties) : Option Int → Except StoreError Text
  | none => .error (.other "randomize tied upstream allocations")
  | some chosen =>
    if chosen < 0 ∨ chosen ≥ t.tiedWeight then
      .error (.other "invalid upstream allocation random result")
    else pickTie t.ties chosen

/-- `draw` is asked for a number below the weight of the tied candidates. -/
def selectUpstreamAllocation (candidates : List Candidate) (draw : Int → Option Int) :
    Except StoreError Text :=
  match tied candidates with
  | .error e => .error e
  | .ok t =>
    match t.ties with
    | [only] => .ok only.id
    | _ => drawn t (draw t.tiedWeight)

/-! ## Exact sums -/

/-- A candidate as the query yields it: a weight of the column and a cost that is not negative. -/
structure Candidate.Bounded (candidate : Candidate) : Prop where
  nonneg : 0 ≤ candidate.weight
  small : candidate.weight ≤ maxUpstreamAllocationWeight
  cost : ∃ cost, Decimal.value? candidate.cost = some cost ∧ 0 ≤ cost

def weightSum (candidates : List Candidate) : Int := (candidates.map Candidate.weight).sum

def weighted (candidates : List Candidate) : List Candidate :=
  candidates.filter fun candidate => decide (candidate.weight ≠ 0)

/-- The sums without rounding and without overflow. -/
def exactTotals (candidates : List Candidate) : Totals :=
  ⟨((weighted candidates).map Candidate.paid).sum, weightSum (weighted candidates)⟩

/-- The candidates of positive weight and largest deficit. -/
def maximal (candidates : List Candidate) : List Candidate :=
  Leaders.leaders (deficit (exactTotals candidates)) (weighted candidates)

theorem addInt64_eq {a b : Int} (low : -2 ^ 63 ≤ a + b) (high : a + b < 2 ^ 63) :
    addInt64 a b = a + b := by
  unfold addInt64
  exact Int.bmod_eq_of_le (by norm_num; omega) (by norm_num; omega)

variable {candidates candidates' seen ties : List Candidate} {sums : Totals} {t : Ties}

theorem weightSum_nonneg
    (bounded : ∀ candidate ∈ candidates, candidate.Bounded) : 0 ≤ weightSum candidates := by
  refine List.sum_nonneg fun weight member => ?_
  obtain ⟨candidate, listed, rfl⟩ := List.mem_map.mp member
  exact (bounded candidate listed).nonneg

theorem weightSum_le (bounded : ∀ candidate ∈ candidates, candidate.Bounded) :
    weightSum candidates ≤ candidates.length * maxUpstreamAllocationWeight := by
  induction candidates with
  | nil => simp [weightSum]
  | cons candidate rest ih =>
    have first := (bounded candidate List.mem_cons_self).small
    have others := ih fun other member => bounded other (List.mem_cons_of_mem _ member)
    simp only [weightSum, List.map_cons, List.sum_cons, List.length_cons] at others ⊢
    push_cast
    linarith

/-- Few weights of the column stay far below the range of `int64`. -/
theorem weightSum_lt (bounded : ∀ candidate ∈ candidates, candidate.Bounded)
    (few : candidates.length ≤ maxUpstreamAllocationCandidates) : weightSum candidates < 2 ^ 40 := by
  have bound := weightSum_le bounded
  have size : (candidates.length : Int) ≤ 256 := by exact_mod_cast few
  have large : ((maxUpstreamAllocationWeight : Nat) : Int) = 2147483647 := rfl
  rw [large] at bound
  norm_num
  linarith

theorem totals_eq (bounded : ∀ candidate ∈ candidates, candidate.Bounded) (nonneg : 0 ≤ sums.weight)
    (room : sums.weight + weightSum candidates < 2 ^ 63) :
    totals candidates sums = .ok ⟨sums.cost + (exactTotals candidates).cost,
      sums.weight + (exactTotals candidates).weight⟩ := by
  induction candidates generalizing sums with
  | nil => simp [totals, exactTotals, weighted, weightSum]
  | cons candidate rest ih =>
    obtain ⟨low, small, cost, read, positive⟩ := bounded candidate List.mem_cons_self
    have others := fun other member => bounded other (List.mem_cons_of_mem candidate member)
    have more := weightSum_nonneg others
    simp only [weightSum, List.map_cons, List.sum_cons] at room more
    rw [totals, if_neg (by omega)]
    by_cases zero : candidate.weight = 0
    · rw [if_pos zero, ih others nonneg (by simp only [weightSum]; omega)]
      simp [exactTotals, weighted, zero]
    · have exact' := addInt64_eq (show -2 ^ 63 ≤ sums.weight + candidate.weight by omega)
        (by omega)
      simp only [if_neg zero, read, if_neg (not_lt.mpr positive), exact']
      rw [ih others (show 0 ≤ sums.weight + candidate.weight by omega)
        (by simp only [weightSum]; omega)]
      simp [exactTotals, weighted, zero, weightSum, Candidate.paid, read, add_assoc]

/-! ## The pass over the candidates -/

def Ties.standing (t : Ties) : Leaders.Standing Candidate ℚ := ⟨t.largest, t.ties⟩

/-- What the pass knows of the candidates that it has seen. -/
structure Ties.Of (sums : Totals) (t : Ties) (seen : List Candidate) : Prop where
  standing : t.standing.Of (deficit sums) (weighted seen)
  weight : t.tiedWeight = weightSum t.ties

theorem weighted_append (candidates others : List Candidate) :
    weighted (candidates ++ others) = weighted candidates ++ weighted others :=
  List.filter_append ..

theorem Ties.Of.ties_eq (of : t.Of sums seen) :
    t.ties = Leaders.leaders (deficit sums) (weighted seen) :=
  of.standing.ties_eq

theorem leaders_sublist (sums : Totals) (candidates : List Candidate) :
    (Leaders.leaders (deficit sums) (weighted candidates)).Sublist candidates :=
  List.filter_sublist.trans List.filter_sublist

theorem Ties.add_standing (sums : Totals) (t : Ties) {candidate : Candidate}
    (positive : candidate.weight ≠ 0) :
    (t.add sums candidate).standing = t.standing.add (deficit sums) candidate := by
  unfold Ties.add Leaders.Standing.add Ties.standing
  rw [if_neg positive]
  dsimp only
  split_ifs <;> rfl

theorem Ties.Of.add (of : t.Of sums seen)
    {candidate : Candidate} (bounded : ∀ other ∈ seen ++ [candidate], other.Bounded)
    (few : (seen ++ [candidate]).length ≤ maxUpstreamAllocationCandidates) :
    (t.add sums candidate).Of sums (seen ++ [candidate]) := by
  have sublist := leaders_sublist sums seen
  rw [← of.ties_eq] at sublist
  have tiedBounded : ∀ other ∈ t.ties, other.Bounded := fun other member =>
    bounded other (List.mem_append_left _ (sublist.subset member))
  have low := weightSum_nonneg tiedBounded
  have high := weightSum_lt tiedBounded (by
    have := sublist.length_le
    simp only [List.length_append, List.length_singleton] at few
    omega)
  obtain ⟨nonneg, small, -⟩ := bounded candidate (List.mem_append_right _ List.mem_cons_self)
  have large : ((maxUpstreamAllocationWeight : Nat) : Int) = 2147483647 := rfl
  rw [large] at small
  by_cases zero : candidate.weight = 0
  · have same : t.add sums candidate = t := if_pos zero
    have none' : weighted [candidate] = [] := by simp [weighted, zero]
    rw [same]
    exact ⟨by rw [weighted_append, none', List.append_nil]; exact of.standing, of.weight⟩
  · have one : weighted [candidate] = [candidate] := by simp [weighted, zero]
    refine ⟨?_, ?_⟩
    · rw [weighted_append, one, Ties.add_standing sums t zero]
      exact of.standing.add _ candidate
    · have first := addInt64_eq (show -2 ^ 63 ≤ 0 + candidate.weight by omega) (by omega)
      have more := addInt64_eq (show -2 ^ 63 ≤ t.tiedWeight + candidate.weight by
        rw [of.weight]; omega) (by rw [of.weight]; omega)
      unfold Ties.add
      rw [if_neg zero]
      split_ifs
      · exact of.weight
      · simp [first, weightSum]
      · rw [more, of.weight]
        simp [weightSum]

theorem Ties.Of.addAll (of : t.Of sums seen) (bounded : ∀ other ∈ seen ++ candidates, other.Bounded)
    (few : (seen ++ candidates).length ≤ maxUpstreamAllocationCandidates) :
    (candidates.foldl (Ties.add sums) t).Of sums (seen ++ candidates) := by
  induction candidates generalizing t seen with
  | nil => simpa using of
  | cons candidate rest ih =>
    rw [show seen ++ candidate :: rest = seen ++ [candidate] ++ rest by simp] at bounded few ⊢
    refine ih (of.add (fun other member => bounded other (List.mem_append_left _ member)) ?_)
      bounded few
    simp only [List.length_append] at few ⊢
    omega

/-- The lists on which the choice is specified. -/
structure Choosable (candidates : List Candidate) : Prop where
  few : candidates.length ≤ maxUpstreamAllocationCandidates
  distinct : (candidates.map Candidate.id).Nodup
  bounded : ∀ candidate ∈ candidates, candidate.Bounded
  some' : ∃ candidate ∈ candidates, 0 < candidate.weight

theorem Choosable.weighted_ne_nil (choosable : Choosable candidates) :
    weighted candidates ≠ [] := by
  obtain ⟨candidate, listed, positive⟩ := choosable.some'
  exact List.ne_nil_of_mem (List.mem_filter.mpr ⟨listed, by simpa using positive.ne'⟩)

theorem mem_weighted {candidate : Candidate}
    (bounded : ∀ candidate ∈ candidates, candidate.Bounded) :
    candidate ∈ weighted candidates ↔ candidate ∈ candidates ∧ 0 < candidate.weight := by
  unfold weighted
  rw [List.mem_filter]
  refine and_congr_right fun listed => ?_
  have nonneg := (bounded candidate listed).nonneg
  simp only [ne_eq, decide_eq_true_eq]
  omega

theorem Choosable.total_pos (choosable : Choosable candidates) :
    0 < weightSum (weighted candidates) := by
  refine List.sum_pos _ ?_ (by simpa using choosable.weighted_ne_nil)
  intro weight member
  obtain ⟨candidate, listed, rfl⟩ := List.mem_map.mp member
  exact ((mem_weighted choosable.bounded).mp listed).2

theorem Choosable.totals_eq (choosable : Choosable candidates) :
    totals candidates ⟨0, 0⟩ = .ok (exactTotals candidates) := by
  have room := weightSum_lt choosable.bounded choosable.few
  have sums := @Weighted.totals_eq candidates ⟨0, 0⟩ choosable.bounded le_rfl
    (by norm_num at room ⊢; omega)
  simpa only [zero_add] using sums

/-- The pass finds the candidates of the largest deficit, without overflow. -/
theorem Choosable.tied_eq (choosable : Choosable candidates) :
    ∃ largest, tied candidates =
      .ok ⟨largest, maximal candidates, weightSum (maximal candidates)⟩ := by
  have start : Ties.Of (exactTotals candidates) ⟨none, [], 0⟩ [] := ⟨⟨rfl, rfl⟩, rfl⟩
  have of := start.addAll (by simpa using choosable.bounded) (by simpa using choosable.few)
  rw [List.nil_append] at of
  have positive := choosable.total_pos
  refine ⟨(candidates.foldl (Ties.add (exactTotals candidates)) ⟨none, [], 0⟩).largest, ?_⟩
  unfold tied
  rw [if_neg (by have := choosable.few; omega), choosable.totals_eq]
  change (if weightSum (weighted candidates) = 0 then _ else _) = _
  rw [if_neg positive.ne']
  have ties := of.ties_eq
  have weight := of.weight
  rw [ties] at weight
  have parts : ∀ t : Ties, t.ties = maximal candidates →
      t.tiedWeight = weightSum (maximal candidates) →
      t = ⟨t.largest, maximal candidates, weightSum (maximal candidates)⟩ := by
    rintro ⟨largest, ties, weight⟩ rfl rfl
    rfl
  exact congrArg Except.ok (parts _ ties weight)

theorem Choosable.mem_maximal (choosable : Choosable candidates)
    {candidate : Candidate} : candidate ∈ maximal candidates ↔
      candidate ∈ candidates ∧ 0 < candidate.weight ∧ ∀ other ∈ candidates, 0 < other.weight →
        deficit (exactTotals candidates) other ≤ deficit (exactTotals candidates) candidate := by
  unfold maximal
  rw [Leaders.mem_leaders, mem_weighted choosable.bounded, and_assoc]
  refine and_congr_right fun _ => and_congr_right fun _ => ?_
  exact ⟨fun all other listed positive =>
      all other ((mem_weighted choosable.bounded).mpr ⟨listed, positive⟩),
    fun all other member =>
      all other ((mem_weighted choosable.bounded).mp member).1
        ((mem_weighted choosable.bounded).mp member).2⟩

theorem Choosable.maximal_ne_nil (choosable : Choosable candidates) : maximal candidates ≠ [] :=
  Leaders.leaders_ne_nil _ choosable.weighted_ne_nil

/-! ## The draw -/

theorem pickTie_of_lt (low : 0 ≤ chosen) (high : chosen < weightSum ties) :
    ∃ candidate ∈ ties, pickTie ties chosen = .ok candidate.id := by
  induction ties generalizing chosen with
  | nil => exact absurd high (by simpa [weightSum] using low)
  | cons candidate rest ih =>
    rw [pickTie]
    split
    · exact ⟨candidate, List.mem_cons_self, rfl⟩
    · simp only [weightSum, List.map_cons, List.sum_cons] at high
      obtain ⟨other, member, picked⟩ := ih (show 0 ≤ chosen - candidate.weight by omega)
        (show chosen - candidate.weight < weightSum rest by simp only [weightSum]; omega)
      exact ⟨other, List.mem_cons_of_mem _ member, picked⟩

/-- How many of the first `limit` numbers fall on the account. -/
def hits (ties : List Candidate) (id : Text) (limit : Nat) : Nat :=
  (List.range limit).countP fun chosen : Nat => decide (pickTie ties chosen = .ok id)

theorem hits_cons {candidate : Candidate} {weight : Nat} (exact' : candidate.weight = weight)
    (rest : List Candidate) (id : Text) (limit : Nat) :
    hits (candidate :: rest) id (weight + limit) =
      (if candidate.id = id then weight else 0) + hits rest id limit := by
  unfold hits
  rw [List.range_add, List.countP_append, List.countP_map]
  congr 1
  · have inside : ∀ chosen ∈ List.range weight,
        (decide (pickTie (candidate :: rest) chosen = .ok id) = true ↔
          decide (candidate.id = id) = true) := by
      intro chosen member
      have small := List.mem_range.mp member
      rw [pickTie, if_pos (by omega)]
      simp
    rw [List.countP_congr inside]
    by_cases same : candidate.id = id
    · simp [same]
    · simp [same]
  · refine List.countP_congr fun chosen _ => ?_
    have beyond : ¬((weight + chosen : Nat) : Int) < candidate.weight := by omega
    have rest' : ((weight + chosen : Nat) : Int) - candidate.weight = chosen := by omega
    simp only [Function.comp_apply, pickTie, if_neg beyond, rest']

theorem hits_all {candidate : Candidate} {rest : List Candidate}
    (nonneg : ∀ other ∈ candidate :: rest, 0 ≤ other.weight) (id : Text) :
    hits (candidate :: rest) id (weightSum (candidate :: rest)).toNat =
      (if candidate.id = id then candidate.weight.toNat else 0) +
        hits rest id (weightSum rest).toNat := by
  obtain ⟨low, more⟩ := List.forall_mem_cons.mp nonneg
  have sum : 0 ≤ weightSum rest := List.sum_nonneg fun weight inside => by
    obtain ⟨other, listed, rfl⟩ := List.mem_map.mp inside
    exact more other listed
  have split : (weightSum (candidate :: rest)).toNat =
      candidate.weight.toNat + (weightSum rest).toNat := by
    simp only [weightSum, List.map_cons, List.sum_cons] at sum ⊢
    omega
  rw [split, hits_cons (Int.toNat_of_nonneg low).symm]

theorem hits_absent (nonneg : ∀ candidate ∈ ties, 0 ≤ candidate.weight)
    {id : Text} (absent : id ∉ ties.map Candidate.id) : hits ties id (weightSum ties).toNat = 0 := by
  induction ties with
  | nil => rfl
  | cons candidate rest ih =>
    obtain ⟨different, absent⟩ := not_or.mp (mt List.mem_cons.mpr absent)
    rw [hits_all nonneg, if_neg (Ne.symm different),
      ih (fun other member => nonneg other (List.mem_cons_of_mem _ member)) absent]

theorem hits_eq (nonneg : ∀ candidate ∈ ties, 0 ≤ candidate.weight)
    (distinct : (ties.map Candidate.id).Nodup) {candidate : Candidate} (member : candidate ∈ ties) :
    (hits ties candidate.id (weightSum ties).toNat : Int) = candidate.weight := by
  induction ties with
  | nil => cases member
  | cons first rest ih =>
    have more := fun other inside => nonneg other (List.mem_cons_of_mem first inside)
    obtain ⟨apart, others⟩ := List.nodup_cons.mp distinct
    rw [hits_all nonneg]
    rcases List.mem_cons.mp member with rfl | inside
    · have low := nonneg candidate List.mem_cons_self
      rw [if_pos rfl, hits_absent more apart]
      omega
    · have other : first.id ≠ candidate.id := fun same =>
        apart (same ▸ List.mem_map_of_mem inside)
      rw [if_neg other, Nat.zero_add, ih more others inside]

/-! ## What is chosen -/

/-- The share of the draws below the limit for which the account is returned. -/
def chance (candidates : List Candidate) (limit : Int) (id : Text) : ℚ :=
  ((List.range limit.toNat).countP fun chosen : Nat =>
    decide (selectUpstreamAllocation candidates (fun _ => some chosen) = .ok id) : ℚ) / limit

theorem Choosable.select_single (choosable : Choosable candidates)
    {only : Candidate} (single : maximal candidates = [only]) (draw : Int → Option Int) :
    selectUpstreamAllocation candidates draw = .ok only.id := by
  obtain ⟨largest, found⟩ := choosable.tied_eq
  rw [selectUpstreamAllocation, found, single]

theorem Choosable.select_several (choosable : Choosable candidates)
    (several : 2 ≤ (maximal candidates).length) (draw : Int → Option Int) :
    ∃ largest, selectUpstreamAllocation candidates draw =
      drawn ⟨largest, maximal candidates, weightSum (maximal candidates)⟩
        (draw (weightSum (maximal candidates))) := by
  obtain ⟨largest, found⟩ := choosable.tied_eq
  refine ⟨largest, ?_⟩
  rw [selectUpstreamAllocation, found]
  dsimp only
  split
  · rename_i only single
    rw [single] at several
    simp at several
  · rfl

theorem drawn_of_lt (low : 0 ≤ chosen) (high : chosen < t.tiedWeight) :
    drawn t (some chosen) = pickTie t.ties chosen :=
  if_neg (by omega)

theorem Choosable.maximal_bounded (choosable : Choosable candidates) :
    ∀ candidate ∈ maximal candidates, candidate.Bounded := fun candidate member =>
  choosable.bounded candidate (choosable.mem_maximal.mp member).1

/-- A draw below the limit returns one of the maximal candidates. -/
theorem Choosable.selects (choosable : Choosable candidates) (draw : Int → Option Int)
    (low : 0 ≤ chosen) (high : chosen < weightSum (maximal candidates))
    (asked : draw (weightSum (maximal candidates)) = some chosen) :
    ∃ candidate ∈ maximal candidates, selectUpstreamAllocation candidates draw = .ok candidate.id := by
  rcases Nat.lt_or_ge (maximal candidates).length 2 with few | several
  · obtain ⟨only, single⟩ : ∃ only, maximal candidates = [only] := by
      refine List.length_eq_one_iff.mp ?_
      have := List.length_pos_of_ne_nil choosable.maximal_ne_nil
      omega
    exact ⟨only, by rw [single]; exact List.mem_cons_self, choosable.select_single single draw⟩
  · obtain ⟨largest, selected⟩ := choosable.select_several several draw
    obtain ⟨candidate, member, picked⟩ := pickTie_of_lt low high
    refine ⟨candidate, member, ?_⟩
    rw [selected, asked, drawn_of_lt low high]
    exact picked

theorem Choosable.chance_eq (choosable : Choosable candidates)
    (several : 2 ≤ (maximal candidates).length) {candidate : Candidate}
    (member : candidate ∈ maximal candidates) :
    chance candidates (weightSum (maximal candidates)) candidate.id =
      candidate.weight / weightSum (maximal candidates) := by
  have nonneg := fun other inside => (choosable.maximal_bounded other inside).nonneg
  have distinct : ((maximal candidates).map Candidate.id).Nodup :=
    choosable.distinct.sublist ((leaders_sublist _ candidates).map _)
  have counted := hits_eq nonneg distinct member
  have same : (List.range (weightSum (maximal candidates)).toNat).countP (fun chosen : Nat =>
      decide (selectUpstreamAllocation candidates (fun _ => some (chosen : Int)) =
        .ok candidate.id)) = hits (maximal candidates) candidate.id
          (weightSum (maximal candidates)).toNat := by
    refine List.countP_congr fun chosen inside => ?_
    have small := List.mem_range.mp inside
    obtain ⟨largest, selected⟩ := choosable.select_several several fun _ => some (chosen : Int)
    rw [selected, drawn_of_lt (Int.natCast_nonneg chosen) (by dsimp only; omega)]
  rw [chance, same, ← counted]
  push_cast
  rfl

theorem exactTotals_perm
    (perm : candidates.Perm candidates') : exactTotals candidates = exactTotals candidates' := by
  have parts : (weighted candidates).Perm (weighted candidates') := perm.filter _
  simp only [exactTotals, weightSum, (parts.map _).sum_eq]

theorem maximal_perm
    (perm : candidates.Perm candidates') : (maximal candidates).Perm (maximal candidates') := by
  unfold maximal
  rw [exactTotals_perm perm]
  exact Leaders.leaders_perm _ (perm.filter _)

theorem weighted_weighted (candidates : List Candidate) :
    weighted (weighted candidates) = weighted candidates := by
  simp [weighted]

theorem maximal_weighted (candidates : List Candidate) :
    maximal (weighted candidates) = maximal candidates := by
  simp only [maximal, exactTotals, weighted_weighted]

theorem Choosable.finds (choosable : Choosable candidates) (draw : Int → Option Int) :
    selectUpstreamAllocation candidates draw ≠ .error .noUpstreamAccount := by
  rcases Nat.lt_or_ge (maximal candidates).length 2 with few | several
  · obtain ⟨only, single⟩ : ∃ only, maximal candidates = [only] := by
      refine List.length_eq_one_iff.mp ?_
      have := List.length_pos_of_ne_nil choosable.maximal_ne_nil
      omega
    rw [choosable.select_single single draw]
    simp
  · obtain ⟨largest, selected⟩ := choosable.select_several several draw
    rw [selected]
    cases asked : draw (weightSum (maximal candidates)) with
    | none => simp [drawn]
    | some chosen =>
      by_cases outside : chosen < 0 ∨ chosen ≥ weightSum (maximal candidates)
      · simp [drawn, outside]
      · obtain ⟨candidate, -, picked⟩ := pickTie_of_lt (show 0 ≤ chosen by omega)
          (show chosen < weightSum (maximal candidates) by omega)
        simp [drawn, outside, picked]

theorem Choosable.weightSum_maximal_pos (choosable : Choosable candidates) :
    0 < weightSum (maximal candidates) := by
  refine List.sum_pos _ ?_ (by simpa using choosable.maximal_ne_nil)
  intro weight member
  obtain ⟨candidate, listed, rfl⟩ := List.mem_map.mp member
  exact (choosable.mem_maximal.mp listed).2.1

theorem select_of_unweighted (bounded : ∀ candidate ∈ candidates, candidate.Bounded)
    (few : candidates.length ≤ maxUpstreamAllocationCandidates)
    (zero : ∀ candidate ∈ candidates, candidate.weight = 0) (draw : Int → Option Int) :
    selectUpstreamAllocation candidates draw = .error .noUpstreamAccount := by
  have none' : weighted candidates = [] := by simpa [weighted] using zero
  have room := weightSum_lt bounded few
  have sums := @Weighted.totals_eq candidates ⟨0, 0⟩ bounded le_rfl (by norm_num at room ⊢; omega)
  have nobody : tied candidates = .error .noUpstreamAccount := by
    simp [tied, not_lt.mpr few, sums, exactTotals, none', weightSum]
  rw [selectUpstreamAllocation, nobody]

/-- The choice falls on a candidate of positive weight whose exact deficit no other surpasses; among
several each is returned in proportion to its weight; they depend neither on the order of the list
nor on the candidates without weight; and no sum leaves the range of `int64`. -/
theorem weighted_selection {candidates : List Candidate} (choosable : Choosable candidates) :
    (∀ (draw : Int → Option Int) (chosen : Int), 0 ≤ chosen →
      chosen < weightSum (maximal candidates) →
      draw (weightSum (maximal candidates)) = some chosen →
      ∃ candidate ∈ candidates, selectUpstreamAllocation candidates draw = .ok candidate.id ∧
        0 < candidate.weight ∧ ∀ other ∈ candidates, 0 < other.weight →
          deficit (exactTotals candidates) other ≤ deficit (exactTotals candidates) candidate) ∧
    (2 ≤ (maximal candidates).length → ∀ candidate ∈ maximal candidates,
      chance candidates (weightSum (maximal candidates)) candidate.id =
        candidate.weight / weightSum (maximal candidates)) ∧
    (∀ others, others.Perm candidates → (maximal others).Perm (maximal candidates)) ∧
    maximal (weighted candidates) = maximal candidates ∧
    (∀ draw, selectUpstreamAllocation candidates draw ≠ .error .noUpstreamAccount) ∧
    ∃ largest, totals candidates ⟨0, 0⟩ = .ok (exactTotals candidates) ∧
      tied candidates = .ok ⟨largest, maximal candidates, weightSum (maximal candidates)⟩ ∧
      (exactTotals candidates).weight < 2 ^ 63 := by
  obtain ⟨largest, found⟩ := choosable.tied_eq
  refine ⟨fun draw chosen low high asked => ?_, fun several candidate member =>
    choosable.chance_eq several member, fun others perm => maximal_perm perm,
    maximal_weighted candidates, choosable.finds, largest, choosable.totals_eq, found, ?_⟩
  · obtain ⟨candidate, member, selected⟩ := choosable.selects draw low high asked
    obtain ⟨listed, positive, leads⟩ := choosable.mem_maximal.mp member
    exact ⟨candidate, listed, selected, positive, leads⟩
  · have positive := weightSum_lt (fun candidate member => choosable.bounded candidate
      ((mem_weighted choosable.bounded).mp member).1)
      ((List.filter_sublist.length_le).trans choosable.few)
    exact lt_trans positive (by norm_num)

/-- Two accounts without costs, of weights one and three. -/
def freshPair : List Candidate := [⟨"a".toList, 1, "0".toList⟩, ⟨"b".toList, 3, "0".toList⟩]

theorem freshPair_choosable : Choosable freshPair where
  few := by decide
  distinct := by decide
  bounded := by
    intro candidate member
    have zero : Decimal.value? ['0'] = some 0 := by decide +kernel
    rcases List.mem_pair.mp member with rfl | rfl
    · exact ⟨by decide, by decide, 0, zero, le_rfl⟩
    · exact ⟨by decide, by decide, 0, zero, le_rfl⟩
  some' := ⟨_, List.mem_cons_self, by decide⟩

/-- Both are maximal, and of four draws one falls on the first and three on the second. -/
theorem weighted_selection_freshPair :
    maximal freshPair = freshPair ∧ chance freshPair 4 "a".toList = 1 / 4 ∧
      chance freshPair 4 "b".toList = 3 / 4 := by
  have both : maximal freshPair = freshPair := by decide +kernel
  obtain ⟨-, shares, -⟩ := weighted_selection freshPair_choosable
  rw [both] at shares
  have sum : weightSum freshPair = 4 := by decide
  rw [sum] at shares
  exact ⟨both, by simpa using shares (by decide) ⟨"a".toList, 1, "0".toList⟩ (by decide),
    by simpa using shares (by decide) ⟨"b".toList, 3, "0".toList⟩ (by decide)⟩

end Store.Weighted
