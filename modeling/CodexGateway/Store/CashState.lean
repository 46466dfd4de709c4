import CodexGateway.Store.Charging

/-! # The cash of a user

A user's cash is a balance, the next lot number and the credit lots. It changes in
two ways: a credit adds a lot, a debit takes from lots. Both keep the balance equal
to what the lots hold.
-/

namespace Store

variable {charged : List Charge}

structure Cash where
  balance : Int
  next : Int
  lots : List CashLot
  deriving Repr, DecidableEq

namespace Cash

def held (cash : Cash) : Int := (cash.lots.map CashLot.remainingUSD).sum

/-- The balance is what the lots hold, no lot is overdrawn or overfull, and lots are
numbered apart below the next number. -/
structure Reconciled (cash : Cash) : Prop where
  balance : cash.balance = cash.held
  bounded : ∀ lot ∈ cash.lots, 0 ≤ lot.remainingUSD ∧ lot.remainingUSD ≤ lot.originalUSD
  distinct : (cash.lots.map CashLot.lotSequence).Nodup
  below : ∀ lot ∈ cash.lots, lot.lotSequence < cash.next

/-- A new lot under the next number. -/
def credit (cash : Cash) (id : Nat) (userID : UserID) (amount : Int) : Cash where
  balance := cash.balance + amount
  next := cash.next + 1
  lots := ⟨id, userID, cash.next, amount, amount⟩ :: cash.lots

/-- Charges taken from the lots and from the balance. -/
def debit (cash : Cash) (charged : List Charge) : Cash where
  balance := cash.balance - taken AllocationSource.isCash charged
  next := cash.next
  lots := cash.lots.map (CashLot.debited charged)

/-- The charges name lots of this cash, each once, and leave none overdrawn. -/
structure Covers (cash : Cash) (charged : List Charge) : Prop where
  unique : (cash.lots.map CashLot.id).Nodup
  owned : ∀ charge ∈ charged, ∀ id, charge.1 = .cash id → id ∈ cash.lots.map CashLot.id
  positive : ∀ charge ∈ charged, 0 < charge.2
  covered : ∀ lot ∈ cash.lots, 0 ≤ lot.remainingUSD → 0 ≤ (lot.debited charged).remainingUSD

inductive Step (cash : Cash) : Cash → Prop
  | idle : Step cash cash
  | credit (id : Nat) (userID : UserID) (amount : Int) (positive : 0 < amount) :
      Step cash (cash.credit id userID amount)
  | debit (charged : List Charge) (covers : cash.Covers charged) : Step cash (cash.debit charged)

theorem Reconciled.credit {cash : Cash} (before : cash.Reconciled) (id : Nat) (userID : UserID)
    {amount : Int} (positive : 0 < amount) : (cash.credit id userID amount).Reconciled := by
  have balance := before.balance
  refine ⟨?_, ?_, ?_, ?_⟩
  · simp only [Cash.credit, held, List.map_cons, List.sum_cons] at balance ⊢
    omega
  · intro lot member
    rcases List.mem_cons.mp member with rfl | old
    · exact ⟨positive.le, le_refl amount⟩
    · exact before.bounded lot old
  · simp only [Cash.credit, List.map_cons, List.nodup_cons]
    refine ⟨?_, before.distinct⟩
    intro taken
    obtain ⟨lot, member, same⟩ := List.mem_map.mp taken
    have below := before.below lot member
    omega
  · intro lot member
    rcases List.mem_cons.mp member with rfl | old
    · simp only [Cash.credit]
      omega
    · have below := before.below lot old
      simp only [Cash.credit]
      omega

private theorem sum_single_id {ids : List Nat} (distinct : ids.Nodup) {id : Nat}
    (member : id ∈ ids) (amount : Int) :
    (ids.map fun other => if id = other then amount else 0).sum = amount := by
  induction ids with
  | nil => cases member
  | cons first rest ih =>
    rw [List.nodup_cons] at distinct
    rw [List.map_cons, List.sum_cons]
    rcases List.mem_cons.mp member with rfl | later
    · have others : (rest.map fun other => if id = other then amount else 0) =
          rest.map fun _ => 0 := by
        apply List.map_congr_left
        intro other otherMember
        exact if_neg fun same : id = other => distinct.1 (same ▸ otherMember)
      rw [if_pos rfl, others]
      simp
    · have different : id ≠ first := fun same => distinct.1 (same ▸ later)
      rw [if_neg different, ih distinct.2 later, zero_add]

/-- Each cash charge is found at exactly one of the lots. -/
private theorem sum_taken {ids : List Nat} (distinct : ids.Nodup)
    (owned : ∀ charge ∈ charged, ∀ id, charge.1 = .cash id → id ∈ ids) :
    (ids.map fun id => taken (AllocationSource.isLot id) charged).sum =
      taken AllocationSource.isCash charged := by
  induction charged with
  | nil => simp
  | cons charge rest ih =>
    have later := ih fun other member => owned other (List.mem_cons_of_mem _ member)
    simp only [taken_cons, List.sum_map_add, later]
    congr 1
    cases source : charge.1 with
    | group id => simp [AllocationSource.isLot, AllocationSource.isCash]
    | subscription sourceType id => simp [AllocationSource.isLot, AllocationSource.isCash]
    | cash id =>
      have single := sum_single_id distinct (owned charge List.mem_cons_self id source) charge.2
      simpa [AllocationSource.isLot, AllocationSource.isCash] using single

/-- What the lots give is what the balance loses. -/
theorem held_debit {cash : Cash} (covers : cash.Covers charged) :
    (cash.debit charged).held = cash.held - taken AllocationSource.isCash charged := by
  have given := sum_taken covers.unique covers.owned
  rw [List.map_map] at given
  have parts : cash.held = (cash.debit charged).held +
      (cash.lots.map fun lot => taken (AllocationSource.isLot lot.id) charged).sum := by
    rw [held, held, Cash.debit, List.map_map, ← List.sum_map_add]
    congr 1
    apply List.map_congr_left
    intro lot _
    simp [CashLot.debited]
  change (cash.lots.map fun lot => taken (AllocationSource.isLot lot.id) charged).sum = _ at given
  omega

theorem Reconciled.debit {cash : Cash} (before : cash.Reconciled) (covers : cash.Covers charged) :
    (cash.debit charged).Reconciled := by
  refine ⟨?_, ?_, ?_, ?_⟩
  · rw [held_debit covers, ← before.balance]
    rfl
  · intro lot member
    obtain ⟨old, oldMember, rfl⟩ := List.mem_map.mp member
    obtain ⟨nonneg, within⟩ := before.bounded old oldMember
    refine ⟨covers.covered old oldMember nonneg, ?_⟩
    have positive : 0 ≤ taken (AllocationSource.isLot old.id) charged := by
      apply Waterfall.total_nonneg
      intro charge charged'
      exact (covers.positive charge (List.mem_of_mem_filter charged')).le
    simp only [CashLot.debited]
    omega
  · have same : (cash.debit charged).lots.map CashLot.lotSequence =
        cash.lots.map CashLot.lotSequence := by
      simp only [Cash.debit, List.map_map]
      rfl
    rw [same]
    exact before.distinct
  · intro lot member
    obtain ⟨old, oldMember, rfl⟩ := List.mem_map.mp member
    exact before.below old oldMember

theorem Reconciled.step {cash cash' : Cash} (before : cash.Reconciled) (step : Step cash cash') :
    cash'.Reconciled := by
  cases step with
  | idle => exact before
  | credit id userID amount positive => exact before.credit id userID positive
  | debit charged covers => exact before.debit covers

end Cash

end Store
