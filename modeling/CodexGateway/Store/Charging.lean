import CodexGateway.Library.Waterfall
import CodexGateway.Store.Settlement

/-! # What the draining loops do

The loops of a settlement compute on texts and write one row at a time. Here they
are shown to be a waterfall over what the bound sources hold: `Charged` says what
a list of charges did to the tables, it composes, and each loop is one.
-/

namespace Store

open Billing
open Except (bind_eq_ok check_bind_eq_ok refuse_eq_ok ok_bind)

variable {requestID : Text} {db db' : Db} {context : String} {need cash amount : Int}
  {reservation : BillingReservation} {userID : UserID}

abbrev Charge := AllocationSource × Int

/-- The allocation rows of a list of charges, numbered on from an order. -/
def allocationRows (requestID : Text) : Nat → List Charge → List Allocation
  | _, [] => []
  | order, (source, amount) :: rest =>
    ⟨requestID, order + 1, source, amount⟩ :: allocationRows requestID (order + 1) rest

theorem allocationRows_append (requestID : Text) (order : Nat) (xs ys : List Charge) :
    allocationRows requestID order (xs ++ ys) =
      allocationRows requestID order xs ++ allocationRows requestID (order + xs.length) ys := by
  induction xs generalizing order with
  | nil => rfl
  | cons charge rest ih =>
    obtain ⟨source, amount⟩ := charge
    simp only [List.cons_append, allocationRows, ih, List.length_cons]
    congr 3
    omega

theorem amounts_allocationRows (requestID : Text) (order : Nat) (charged : List Charge) :
    (allocationRows requestID order charged).map (fun row => (row.source, row.amountUSD)) =
      charged := by
  induction charged generalizing order with
  | nil => rfl
  | cons charge rest ih =>
    obtain ⟨source, amount⟩ := charge
    simp only [allocationRows, List.map_cons, ih]

variable {charged xs ys : List Charge} {c c' : Charges} {total : Int} {lots : List CashLot}
  {source : FundingSource} {sources : List FundingSource} {periodID : PeriodID}

theorem requestID_of_mem_allocationRows {order : Nat} {row : Allocation}
    (member : row ∈ allocationRows requestID order charged) : row.requestID = requestID := by
  induction charged generalizing order with
  | nil => cases member
  | cons charge rest ih =>
    obtain ⟨source, amount⟩ := charge
    rcases List.mem_cons.mp member with rfl | later
    · rfl
    · exact ih later

/-- What a list of charges takes from the sources that meet a condition. -/
def taken (meets : AllocationSource → Bool) (charged : List Charge) : Int :=
  Waterfall.total (charged.filter fun charge => meets charge.1)

@[simp] theorem taken_nil (meets : AllocationSource → Bool) : taken meets [] = 0 := rfl

@[simp] theorem taken_cons (meets : AllocationSource → Bool) (charge : Charge)
    (rest : List Charge) :
    taken meets (charge :: rest) = (if meets charge.1 then charge.2 else 0) + taken meets rest := by
  unfold taken
  by_cases hit : meets charge.1 <;> simp [hit]

@[simp] theorem taken_append (meets : AllocationSource → Bool) (xs ys : List Charge) :
    taken meets (xs ++ ys) = taken meets xs + taken meets ys := by
  simp [taken]

theorem taken_eq_zero {meets : AllocationSource → Bool}
    (others : ∀ charge ∈ charged, meets charge.1 = false) : taken meets charged = 0 := by
  unfold taken
  rw [List.filter_eq_nil_iff.mpr (by simpa using others)]
  rfl

def AllocationSource.isCash : AllocationSource → Bool
  | .cash _ => true
  | _ => false

def AllocationSource.isLot (id : Nat) : AllocationSource → Bool
  | .cash lotID => lotID = id
  | _ => false

def AllocationSource.isPeriod (id : PeriodID) : AllocationSource → Bool
  | .subscription _ periodID => periodID = id
  | _ => false

def CashLot.debited (charged : List Charge) (lot : CashLot) : CashLot :=
  { lot with remainingUSD := lot.remainingUSD - taken (AllocationSource.isLot lot.id) charged }

def SubscriptionPeriod.debited (charged : List Charge) (period : SubscriptionPeriod) :
    SubscriptionPeriod :=
  { period with
    remainingUSD := period.remainingUSD - taken (AllocationSource.isPeriod period.id) charged }

@[simp] theorem CashLot.debited_nil : CashLot.debited [] = fun lot => lot := by
  funext lot
  simp [CashLot.debited]

@[simp] theorem SubscriptionPeriod.debited_nil : SubscriptionPeriod.debited [] = fun period => period := by
  funext period
  simp [SubscriptionPeriod.debited]

theorem CashLot.debited_append (xs ys : List Charge) (lot : CashLot) :
    lot.debited (xs ++ ys) = (lot.debited xs).debited ys := by
  simp only [CashLot.debited, taken_append, sub_sub]

theorem rows_debitLot (db : Db) (id : Nat) (amount : Int) :
    (debitLot db id amount).cashLots.rows =
      db.cashLots.rows.map (CashLot.debited [(.cash id, amount)]) := by
  apply List.map_congr_left
  intro lot _
  by_cases same : lot.id = id
  · simp [CashLot.debited, AllocationSource.isLot, same]
  · simp [CashLot.debited, AllocationSource.isLot, same, Ne.symm same]

/-- The amounts that a state of the loops shows. -/
structure Charges.Shows (c : Charges) (need charged cash : Int) : Prop where
  remaining : c.remaining = numericText need
  charged : c.charged = numericText charged
  cashCharged : c.cashCharged = numericText cash

theorem numericText_injective : Function.Injective numericText :=
  Function.LeftInverse.injective numeric_numericText

section

variable {c : Charges} {need need' charged charged' cash cash' : Int}

theorem Charges.Shows.need_eq (first : c.Shows need charged cash)
    (second : c.Shows need' charged' cash') : need' = need :=
  numericText_injective (second.remaining.symm.trans first.remaining)

theorem Charges.Shows.total_eq (first : c.Shows need charged cash)
    (second : c.Shows need' charged' cash') : charged' = charged :=
  numericText_injective (second.charged.symm.trans first.charged)

theorem Charges.Shows.cash_eq (first : c.Shows need charged cash)
    (second : c.Shows need' charged' cash') : cash' = cash :=
  numericText_injective (second.cashCharged.symm.trans first.cashCharged)

end

theorem recordAllocation_ok {allocation : Allocation}
    (recorded : recordAllocation db context allocation = .ok db') :
    ∃ allocations, db.allocations.insert? allocation = some allocations ∧
      db' = { db with allocations } := by
  unfold recordAllocation at recorded
  cases inserted : db.allocations.insert? allocation with
  | none =>
    rw [inserted] at recorded
    cases recorded
  | some allocations =>
    rw [inserted] at recorded
    cases recorded
    exact ⟨allocations, rfl, rfl⟩

/-- The second state is the first after a list of charges to personal sources. -/
structure Charged (requestID : Text) (c c' : Charges) (charged : List Charge) : Prop where
  allocations : c'.db.allocations.rows =
    (allocationRows requestID c.order charged).reverse ++ c.db.allocations.rows
  order : c'.order = c.order + charged.length
  lots : c'.db.cashLots.rows = c.db.cashLots.rows.map (CashLot.debited charged)
  periods : c'.db.subscriptionPeriods.rows =
    c.db.subscriptionPeriods.rows.map (SubscriptionPeriod.debited charged)
  frame : c'.db = { c.db with
    cashLots := c'.db.cashLots
    subscriptionPeriods := c'.db.subscriptionPeriods
    allocations := c'.db.allocations }
  shows : ∀ need total cash, c.Shows need total cash →
    c'.Shows (need - Waterfall.total charged) (total + Waterfall.total charged)
      (cash + taken AllocationSource.isCash charged)

namespace Charged

variable {requestID : Text}

theorem refl (c : Charges) : Charged requestID c c [] where
  allocations := rfl
  order := rfl
  lots := by simp
  periods := by simp
  frame := rfl
  shows := by
    intro need total cash before
    simpa using before

theorem trans {c'' : Charges} (first : Charged requestID c c' xs)
    (second : Charged requestID c' c'' ys) : Charged requestID c c'' (xs ++ ys) where
  allocations := by
    rw [second.allocations, first.allocations, first.order, allocationRows_append,
      List.reverse_append, List.append_assoc]
  order := by
    rw [second.order, first.order, List.length_append]
    omega
  lots := by
    rw [second.lots, first.lots, List.map_map]
    apply List.map_congr_left
    intro lot _
    exact (CashLot.debited_append xs ys lot).symm
  periods := by
    rw [second.periods, first.periods, List.map_map]
    apply List.map_congr_left
    intro period _
    simp only [Function.comp_apply, SubscriptionPeriod.debited, taken_append, sub_sub]
  frame := by
    rw [second.frame, first.frame]
  shows := by
    intro need total cash before
    have middle := first.shows need total cash before
    have after := second.shows _ _ _ middle
    rw [Waterfall.total_append, taken_append, ← sub_sub, ← add_assoc, ← add_assoc]
    exact after

theorem unique (first : Charged requestID c c' xs)
    (second : Charged requestID c c' ys) : xs = ys := by
  have rows : allocationRows requestID c.order xs = allocationRows requestID c.order ys := by
    have same := first.allocations.symm.trans second.allocations
    exact List.reverse_injective (List.append_cancel_right same)
  rw [← amounts_allocationRows requestID c.order xs, rows, amounts_allocationRows]

theorem lot {id : Nat} (before : c.Shows need total cash)
    (recorded : recordAllocation (debitLot c.db id amount) context
      ⟨requestID, c.order + 1, .cash id, amount⟩ = .ok db) :
    Charged requestID c ⟨db, c.order + 1, numericText (need - amount),
      numericText (total + amount), numericText (cash + amount)⟩ [(.cash id, amount)] := by
  obtain ⟨allocations, inserted, rfl⟩ := recordAllocation_ok recorded
  refine ⟨by rw [(Table.insert?_eq_some.mp inserted).2]; rfl, rfl, rows_debitLot c.db id amount,
    ?_, rfl, ?_⟩
  · symm
    apply List.map_id''
    intro period
    simp [SubscriptionPeriod.debited, AllocationSource.isPeriod]
  · intro need' total' cash' before'
    rw [before.need_eq before', before.total_eq before', before.cash_eq before']
    exact ⟨by simp, by simp, by simp [AllocationSource.isCash]⟩

theorem period {c : Charges} {total : Int} {sourceType : SourceType} {id : PeriodID}
    (before : c.Shows need total cash) (recorded : recordAllocation
      { c.db with
        subscriptionPeriods := c.db.subscriptionPeriods.modify id
          (fun row => { row with remainingUSD := row.remainingUSD - amount }) (fun _ => rfl) }
      context ⟨requestID, c.order + 1, .subscription sourceType id, amount⟩ = .ok db) :
    Charged requestID c { c with
      db, order := c.order + 1, remaining := numericText (need - amount),
      charged := numericText (total + amount) } [(.subscription sourceType id, amount)] := by
  obtain ⟨allocations, inserted, rfl⟩ := recordAllocation_ok recorded
  refine ⟨by rw [(Table.insert?_eq_some.mp inserted).2]; rfl, rfl, ?_, ?_, rfl, ?_⟩
  · symm
    apply List.map_id''
    intro lot
    simp [CashLot.debited, AllocationSource.isLot]
  · apply List.map_congr_left
    intro period _
    by_cases same : period.id = id
    · simp [SubscriptionPeriod.debited, AllocationSource.isPeriod, same]
    · simp [SubscriptionPeriod.debited, AllocationSource.isPeriod, same, Ne.symm same]
  · intro need' total' cash' before'
    rw [before.need_eq before', before.total_eq before']
    exact ⟨by simp, by simp, by simpa [AllocationSource.isCash] using before'.cashCharged⟩

end Charged

/-! ## The loops -/

def lotHoldings (lots : List CashLot) : List Charge :=
  lots.map fun lot => (.cash lot.id, lot.remainingUSD)

/-- What a funding source of a reservation holds, in the order it is drained. -/
def sourceHoldings (db : Db) (userID : UserID) (source : FundingSource) : List Charge :=
  if source.sourceType = .cash then
    lotHoldings (openLots db userID fun lot => lot.lotSequence ≤ source.cashLotCutoff)
  else
    match boundPeriod db userID source with
    | .ok period => [(.subscription source.sourceType period.id, period.remainingUSD)]
    | .error _ => []

theorem chargeLots_charged
    (before : c.Shows need total cash) (ok : chargeLots reservation lots c = .ok c') :
    Charged reservation.requestID c c' (Waterfall.charges need (lotHoldings lots)) := by
  induction lots generalizing c need total cash with
  | nil =>
    cases ok
    exact Charged.refl _
  | cons lot rest ih =>
    unfold chargeLots at ok
    rw [before.remaining, billingPositive_numericText, billingMin_numericText] at ok
    by_cases needed : 0 < need
    · rw [if_pos (by simpa using needed), ok_bind, billingPositive_numericText] at ok
      by_cases gives : 0 < min lot.remainingUSD need
      · rw [if_pos (by simpa using gives), numeric_numericText] at ok
        obtain ⟨db, recorded, ok⟩ := bind_eq_ok.mp ok
        rw [before.charged, before.cashCharged, billingSubtract_numericText,
          billingAdd_numericText, billingAdd_numericText] at ok
        have step := Charged.lot before recorded
        have later := ih (step.shows _ _ _ before) ok
        have split : Waterfall.charges need (lotHoldings (lot :: rest)) =
            [(.cash lot.id, min lot.remainingUSD need)] ++
              Waterfall.charges (need - min lot.remainingUSD need) (lotHoldings rest) :=
          if_pos gives
        rw [split]
        exact step.trans (by simpa using later)
      · rw [if_neg (by simpa using gives)] at ok
        have skip : Waterfall.charges need (lotHoldings (lot :: rest)) =
            Waterfall.charges need (lotHoldings rest) := if_neg gives
        rw [skip]
        exact ih before ok
    · rw [if_neg (by simpa using needed)] at ok
      cases ok
      rw [Waterfall.charges_of_nonpos (not_lt.mp needed)]
      exact Charged.refl _

theorem chargeSubscription_charged (before : c.Shows need total cash)
    (noncash : source.sourceType ≠ .cash) (ok : chargeSubscription reservation source c = .ok c') :
    Charged reservation.requestID c c'
      (Waterfall.charges need (sourceHoldings c.db reservation.userID source)) := by
  obtain ⟨period, bound, ok⟩ := bind_eq_ok.mp ok
  have held : sourceHoldings c.db reservation.userID source =
      [(.subscription source.sourceType period.id, period.remainingUSD)] := by
    rw [sourceHoldings, if_neg noncash, bound]
  rw [held]
  rw [before.remaining, billingMin_numericText, ok_bind, billingPositive_numericText] at ok
  unfold Waterfall.charges
  by_cases gives : 0 < min period.remainingUSD need
  · rw [if_pos (by simpa using gives), numeric_numericText] at ok
    obtain ⟨db, recorded, ok⟩ := bind_eq_ok.mp ok
    rw [before.charged, billingSubtract_numericText, billingAdd_numericText] at ok
    cases ok
    rw [if_pos gives]
    exact Charged.period before recorded
  · rw [if_neg (by simpa using gives)] at ok
    cases ok
    rw [if_neg gives]
    exact Charged.refl _

theorem chargeSource_charged
    (before : c.Shows need total cash) (ok : chargeSource reservation source c = .ok c') :
    Charged reservation.requestID c c'
      (Waterfall.charges need (sourceHoldings c.db reservation.userID source)) := by
  unfold chargeSource at ok
  by_cases isCash : source.sourceType = .cash
  · rw [if_pos isCash] at ok
    have lots := chargeLots_charged before ok
    unfold sourceHoldings
    rw [if_pos isCash]
    exact lots
  · rw [if_neg isCash] at ok
    exact chargeSubscription_charged before isCash ok

/-! ## Cash lots -/

theorem mem_openLots {within : CashLot → Bool} {lot : CashLot} :
    lot ∈ openLots db userID within ↔
      lot ∈ db.cashLots.rows ∧ lot.userID = userID ∧ within lot ∧ 0 < lot.remainingUSD := by
  simp [openLots, List.mem_insertionSort]

theorem nodup_lotHoldings_openLots (db : Db) (userID : UserID) (within : CashLot → Bool) :
    ((lotHoldings (openLots db userID within)).map Prod.fst).Nodup := by
  have ids : ((openLots db userID within).map CashLot.id).Nodup := by
    have kept := (db.cashLots.unique.sublist (List.filter_sublist.map CashLot.id)
      : ((db.cashLots.rows.filter fun lot =>
          lot.userID = userID ∧ within lot ∧ 0 < lot.remainingUSD).map CashLot.id).Nodup)
    exact ((List.perm_insertionSort _ _).map CashLot.id).nodup_iff.mpr kept
  have sources : (lotHoldings (openLots db userID within)).map Prod.fst =
      ((openLots db userID within).map CashLot.id).map AllocationSource.cash := by
    simp [lotHoldings]
  rw [sources]
  exact ids.map fun a b same => by simpa using same

theorem taken_isLot (id : Nat) (charged : List Charge) :
    taken (AllocationSource.isLot id) charged = Waterfall.given (.cash id) charged := by
  unfold taken Waterfall.given
  congr 2
  funext charge
  cases charge.1 <;> simp [AllocationSource.isLot]

/-- The lots of one user, of which only some are charged. -/
structure LotsCharged (userID : UserID) (lots : List CashLot) (charged : List Charge) : Prop where
  owned : ∀ charge ∈ charged, ∀ id, charge.1 = .cash id →
    ∃ lot ∈ lots, lot.id = id ∧ lot.userID = userID
  covered : ∀ lot ∈ lots, 0 ≤ lot.remainingUSD → 0 ≤ (lot.debited charged).remainingUSD
  positive : ∀ charge ∈ charged, 0 < charge.2
  personal : ∀ charge ∈ charged, ∀ id, charge.1 ≠ .group id

namespace LotsCharged

variable {userID : UserID}

theorem nil (lots : List CashLot) : LotsCharged userID lots [] :=
  ⟨by simp, by simp, by simp, by simp⟩

theorem append (first : LotsCharged userID lots xs)
    (second : LotsCharged userID (lots.map (CashLot.debited xs)) ys) :
    LotsCharged userID lots (xs ++ ys) := by
  refine ⟨?_, ?_, ?_, ?_⟩
  · intro charge member id isLot
    rcases List.mem_append.mp member with early | late
    · exact first.owned charge early id isLot
    · obtain ⟨_, debited, same, owner⟩ := second.owned charge late id isLot
      obtain ⟨lot, old, rfl⟩ := List.mem_map.mp debited
      exact ⟨lot, old, same, owner⟩
  · intro lot member nonneg
    rw [CashLot.debited_append]
    exact second.covered _ (List.mem_map_of_mem member) (first.covered lot member nonneg)
  · intro charge member
    rcases List.mem_append.mp member with early | late
    · exact first.positive charge early
    · exact second.positive charge late
  · intro charge member
    rcases List.mem_append.mp member with early | late
    · exact first.personal charge early
    · exact second.personal charge late

end LotsCharged

theorem lotsCharged_openLots (db : Db) (userID : UserID) (within : CashLot → Bool) (need : Int) :
    LotsCharged userID db.cashLots.rows
      (Waterfall.charges need (lotHoldings (openLots db userID within))) := by
  refine ⟨?_, ?_, ?_, ?_⟩
  · intro charge member id isLot
    obtain ⟨_, held, holds, _⟩ := Waterfall.mem_charges member
    obtain ⟨lot, opened, same⟩ := List.mem_map.mp holds
    obtain ⟨row, owner, _⟩ := mem_openLots.mp opened
    have source : AllocationSource.cash lot.id = charge.1 := congrArg Prod.fst same
    rw [isLot] at source
    exact ⟨lot, row, by simpa using source, owner⟩
  · intro lot member nonneg
    have bound : taken (AllocationSource.isLot lot.id)
        (Waterfall.charges need (lotHoldings (openLots db userID within))) ≤ lot.remainingUSD := by
      rw [taken_isLot]
      by_cases opened : lot ∈ openLots db userID within
      · exact Waterfall.given_charges_le (nodup_lotHoldings_openLots db userID within)
          (List.mem_map_of_mem opened) nonneg
      · rw [Waterfall.given_of_not_mem]
        · exact nonneg
        · intro charged
          obtain ⟨charge, given, same⟩ := List.mem_map.mp charged
          obtain ⟨_, held, holds, _⟩ := Waterfall.mem_charges given
          obtain ⟨other, otherOpened, source⟩ := List.mem_map.mp holds
          have sameID : other.id = lot.id := by
            have := (congrArg Prod.fst source).trans same
            simpa using this
          have twin := List.inj_on_of_nodup_map db.cashLots.unique
            (mem_openLots.mp otherOpened).1 member sameID
          exact opened (twin ▸ otherOpened)
    show 0 ≤ lot.remainingUSD - _
    omega
  · intro charge member
    exact (Waterfall.mem_charges member).1
  · intro charge member id isGroup
    obtain ⟨_, held, holds, _⟩ := Waterfall.mem_charges member
    obtain ⟨lot, -, same⟩ := List.mem_map.mp holds
    have source : AllocationSource.cash lot.id = charge.1 := congrArg Prod.fst same
    cases source.trans isGroup

theorem lotsCharged_chargeSource :
    LotsCharged reservation.userID c.db.cashLots.rows
      (Waterfall.charges need (sourceHoldings c.db reservation.userID source)) := by
  unfold sourceHoldings
  split
  · exact lotsCharged_openLots _ _ _ _
  · split
    · rename_i period _
      have noLot : ∀ charge ∈ Waterfall.charges need
          [(AllocationSource.subscription source.sourceType period.id, period.remainingUSD)],
          charge.1 = .subscription source.sourceType period.id := by
        intro charge member
        obtain ⟨_, held, holds, _⟩ := Waterfall.mem_charges member
        exact congrArg Prod.fst (List.mem_singleton.mp holds)
      refine ⟨?_, ?_, fun charge member => (Waterfall.mem_charges member).1, ?_⟩
      · intro charge member id isLot
        rw [noLot charge member] at isLot
        cases isLot
      · intro lot _ nonneg
        rw [CashLot.debited, taken_eq_zero]
        · simpa using nonneg
        · intro charge member
          rw [noLot charge member]
          rfl
      · intro charge member id isGroup
        cases (noLot charge member).symm.trans isGroup
    · exact LotsCharged.nil _

/-- Whatever its sources are, a settlement charges lots of its user within what
they hold. -/
theorem chargeSources_lotsCharged
    (before : c.Shows need total cash) (ok : chargeSources reservation sources c = .ok c') :
    ∃ charged, Charged reservation.requestID c c' charged ∧
      LotsCharged reservation.userID c.db.cashLots.rows charged := by
  induction sources generalizing c need total cash with
  | nil =>
    cases ok
    exact ⟨[], Charged.refl _, LotsCharged.nil _⟩
  | cons source rest ih =>
    unfold chargeSources at ok
    rw [before.remaining, billingPositive_numericText] at ok
    by_cases needed : 0 < need
    · rw [if_pos (by simpa using needed)] at ok
      obtain ⟨middle, charged, ok⟩ := bind_eq_ok.mp ok
      have first := chargeSource_charged before charged
      obtain ⟨others, later, lots⟩ := ih (first.shows _ _ _ before) ok
      rw [first.lots] at lots
      exact ⟨_, first.trans later, lotsCharged_chargeSource.append lots⟩
    · rw [if_neg (by simpa using needed)] at ok
      cases ok
      exact ⟨[], Charged.refl _, LotsCharged.nil _⟩

/-! ## All sources as one waterfall -/

/-- The rows that a funding source may be charged to. -/
def FundingSource.pays (source : FundingSource) : AllocationSource → Bool
  | .group _ => false
  | .subscription _ id => source.sourceType ≠ .cash ∧ source.periodID = some id
  | .cash _ => source.sourceType = .cash

theorem boundPeriod_ok {period : SubscriptionPeriod}
    (bound : boundPeriod db userID source = .ok period) :
    source.periodID = some period.id ∧ period ∈ db.subscriptionPeriods.rows ∧
      period.userID = userID := by
  unfold boundPeriod at bound
  dsimp only at bound
  split at bound
  · cases bound
  · rename_i id named
    split at bound
    · cases bound
    · rename_i row found
      split at bound
      · rename_i owned
        cases bound
        rw [named, Table.key_of_find? found]
        exact ⟨rfl, Table.mem_of_find? found, owned.1⟩
      · cases bound

theorem pays_of_mem_sourceHoldings {charge : Charge}
    (held : charge ∈ sourceHoldings db userID source) : source.pays charge.1 := by
  unfold sourceHoldings at held
  split at held
  · rename_i isCash
    obtain ⟨lot, _, rfl⟩ := List.mem_map.mp held
    simpa [FundingSource.pays] using isCash
  · rename_i noncash
    cases bound : boundPeriod db userID source with
    | error err =>
      rw [bound] at held
      cases held
    | ok period =>
      rw [bound] at held
      rw [List.mem_singleton.mp held]
      simpa [FundingSource.pays, (boundPeriod_ok bound).1] using noncash

/-- Charges to other sources leave what a source holds. -/
theorem Charged.sourceHoldings_eq (step : Charged requestID c c' charged)
    (others : ∀ charge ∈ charged, source.pays charge.1 = false) (userID : UserID) :
    sourceHoldings c'.db userID source = sourceHoldings c.db userID source := by
  unfold sourceHoldings
  by_cases isCash : source.sourceType = .cash
  · have lots : c'.db.cashLots.rows = c.db.cashLots.rows := by
      rw [step.lots]
      apply List.map_id''
      intro lot
      have untouched : taken (AllocationSource.isLot lot.id) charged = 0 := by
        apply taken_eq_zero
        intro charge member
        have other := others charge member
        cases sort : charge.1 with
        | cash id => simp [FundingSource.pays, sort, isCash] at other
        | group id => rfl
        | subscription sourceType id => rfl
      simp [CashLot.debited, untouched]
    rw [if_pos isCash, if_pos isCash, openLots, lots, openLots]
  · have bound : boundPeriod c'.db userID source = boundPeriod c.db userID source := by
      unfold boundPeriod
      cases named : source.periodID with
      | none => rfl
      | some id =>
        have untouched : taken (AllocationSource.isPeriod id) charged = 0 := by
          apply taken_eq_zero
          intro charge member
          have other := others charge member
          cases sort : charge.1 with
          | cash id => rfl
          | group id => rfl
          | subscription sourceType paid =>
            rw [sort] at other
            simpa [FundingSource.pays, isCash, named, AllocationSource.isPeriod, eq_comm]
              using other
        dsimp only
        rw [Table.find?_of_rows_map step.periods fun _ => rfl]
        cases found : c.db.subscriptionPeriods.find? id with
        | none => rfl
        | some period =>
          have same : period.debited charged = period := by
            rw [← Table.key_of_find? found] at untouched
            simp [SubscriptionPeriod.debited, untouched]
          rw [Option.map_some, same]
    rw [if_neg isCash, if_neg isCash, bound]

/-- No row is charged through both of two sources. -/
def FundingSource.Apart (a b : FundingSource) : Prop :=
  ∀ source, a.pays source → b.pays source = false

/-- The sources of a reservation, one after the other, are one waterfall. -/
theorem chargeSources_charged
    (before : c.Shows need total cash) (apart : sources.Pairwise FundingSource.Apart)
    (ok : chargeSources reservation sources c = .ok c') :
    Charged reservation.requestID c c'
      (Waterfall.charges need (sources.flatMap (sourceHoldings c.db reservation.userID))) := by
  induction sources generalizing c need total cash with
  | nil =>
    cases ok
    exact Charged.refl _
  | cons source rest ih =>
    obtain ⟨apartHead, apartRest⟩ := List.pairwise_cons.mp apart
    unfold chargeSources at ok
    rw [before.remaining, billingPositive_numericText] at ok
    by_cases needed : 0 < need
    · rw [if_pos (by simpa using needed)] at ok
      obtain ⟨middle, charged, ok⟩ := bind_eq_ok.mp ok
      have first := chargeSource_charged before charged
      have later := ih (first.shows _ _ _ before) apartRest ok
      -- What the first source gave does not show in what the others hold.
      have same : rest.flatMap (sourceHoldings middle.db reservation.userID) =
          rest.flatMap (sourceHoldings c.db reservation.userID) := by
        apply List.flatMap_congr
        intro other member
        apply first.sourceHoldings_eq
        intro charge given
        obtain ⟨_, held, holds, _⟩ := Waterfall.mem_charges given
        have paid := pays_of_mem_sourceHoldings holds
        exact apartHead other member charge.1 paid
      rw [List.flatMap_cons, Waterfall.charges_append]
      rw [same] at later
      exact first.trans later
    · rw [if_neg (by simpa using needed)] at ok
      cases ok
      rw [Waterfall.charges_of_nonpos (not_lt.mp needed)]
      exact Charged.refl _

def AllocationSource.isGroup (id : PeriodID) : AllocationSource → Bool
  | .group periodID => periodID = id
  | _ => false

def GroupPeriod.debited (charged : List Charge) (period : GroupPeriod) : GroupPeriod :=
  { period with
    usedUSD := period.usedUSD + taken (AllocationSource.isGroup period.id) charged }

@[simp] theorem GroupPeriod.debited_nil : GroupPeriod.debited [] = fun period => period := by
  funext period
  simp [GroupPeriod.debited]

/-- What the members of a group have spent in one of its periods. -/
def memberTotal (db : Db) (periodID : PeriodID) : Int :=
  db.memberUsage.total fun row => if row.periodID = periodID then row.usedUSD else 0

/-- What a user may still take from a group period. -/
def groupHeld (db : Db) (userID : UserID) (period : GroupPeriod) : Int :=
  match period.memberLimitUSD with
  | none => period.available
  | some limit => min period.available (max (limit - memberUsed db period.id userID) 0)

/-- What the bound group of a reservation holds. -/
def groupHoldings (db : Db) (reservation : BillingReservation) : List Charge :=
  match reservation.groupID, reservation.groupPeriodID with
  | some groupID, some periodID =>
    if reservation.fundingRuleVersion ≥ 2 then
      match candidatePeriod db "read bound group funding" groupID periodID with
      | .ok period => [(.group periodID, groupHeld db reservation.userID period)]
      | .error _ => []
    else []
  | _, _ => []

/-- The second state is the first after a list of charges to groups. -/
structure GroupCharged (requestID : Text) (userID : UserID) (c c' : Charges)
    (charged : List Charge) : Prop where
  allocations : c'.db.allocations.rows =
    (allocationRows requestID c.order charged).reverse ++ c.db.allocations.rows
  order : c'.order = c.order + charged.length
  periods : c'.db.groupPeriods.rows = c.db.groupPeriods.rows.map (GroupPeriod.debited charged)
  members : ∀ periodID member, memberUsed c'.db periodID member =
    memberUsed c.db periodID member +
      if member = userID then taken (AllocationSource.isGroup periodID) charged else 0
  memberTotals : ∀ periodID, memberTotal c'.db periodID =
    memberTotal c.db periodID + taken (AllocationSource.isGroup periodID) charged
  frame : c'.db = { c.db with
    groupPeriods := c'.db.groupPeriods
    memberUsage := c'.db.memberUsage
    allocations := c'.db.allocations }
  shows : ∀ need, c.Shows need 0 0 →
    c'.Shows (need - Waterfall.total charged) (Waterfall.total charged) 0

theorem GroupCharged.refl (c : Charges) : GroupCharged requestID userID c c [] where
  allocations := rfl
  order := rfl
  periods := by simp
  members := by simp
  memberTotals := by simp
  frame := rfl
  shows := by
    intro need before
    simpa using before

theorem addGroupUsage_ok {period : GroupPeriod}
    (ok : addGroupUsage db context period amount = .ok db') :
    db' = { db with
      groupPeriods := db.groupPeriods.modify period.id
        (fun row => { row with usedUSD := row.usedUSD + amount }) (fun _ => rfl) } := by
  obtain ⟨_, ok⟩ := check_bind_eq_ok.mp ok
  cases ok
  rfl

/-- The upsert adds to one counter, whether its row was there or not. -/
theorem addMemberUsage_ok (ok : addMemberUsage db periodID userID amount = .ok db') :
    db' = { db with memberUsage := db'.memberUsage } ∧
      (∀ period member, memberUsed db' period member = memberUsed db period member +
        if period = periodID ∧ member = userID then amount else 0) ∧
      (∀ period, memberTotal db' period =
        memberTotal db period + if period = periodID then amount else 0) := by
  unfold addMemberUsage at ok
  cases inserted : db.memberUsage.insert? ⟨periodID, userID, amount⟩ with
  | some memberUsage =>
    rw [inserted] at ok
    cases ok
    have missing := (Table.insert?_eq_some.mp inserted).1
    refine ⟨rfl, ?_, ?_⟩
    · intro period member
      by_cases same : period = periodID ∧ member = userID
      · obtain ⟨rfl, rfl⟩ := same
        have none' : db.memberUsage.find? (period, member) = none := missing
        simp [memberUsed, Table.find?_insert? inserted, GroupMemberUsage.key, none']
      · have other : ¬ (periodID = period ∧ userID = member) := fun both =>
          same ⟨both.1.symm, both.2.symm⟩
        simp [memberUsed, Table.find?_insert? inserted, GroupMemberUsage.key, same, other]
    · intro period
      simp only [memberTotal, Table.total_insert? inserted, eq_comm]
      omega
  | none =>
    rw [inserted] at ok
    obtain ⟨_, ok⟩ := check_bind_eq_ok.mp ok
    cases ok
    obtain ⟨row, found⟩ := Table.insert?_eq_none.mp inserted
    have found : db.memberUsage.find? (periodID, userID) = some row := found
    refine ⟨rfl, ?_, ?_⟩
    · intro period member
      by_cases same : period = periodID ∧ member = userID
      · obtain ⟨rfl, rfl⟩ := same
        simp [memberUsed, Table.find?_modify, found]
      · simp [memberUsed, Table.find?_modify, same]
    · intro period
      have inPeriod : row.periodID = periodID := congrArg Prod.fst (Table.key_of_find? found)
      rw [memberTotal, Table.total_modify found, memberTotal, inPeriod]
      by_cases same : period = periodID
      · simp [same]
      · simp [same, Ne.symm same]

/-- One charge to a group period, counted for its member as well. -/
theorem GroupCharged.group {db'' : Db} {period : GroupPeriod}
    {usage record : String} (before : c.Shows need 0 0)
    (counted : addGroupUsage c.db usage period amount = .ok db)
    (upserted : addMemberUsage db period.id userID amount = .ok db')
    (recorded : recordAllocation db' record
      ⟨requestID, c.order + 1, .group period.id, amount⟩ = .ok db'') :
    GroupCharged requestID userID c
      { c with
        db := db'', order := c.order + 1, remaining := numericText (need - amount),
        charged := numericText amount }
      [(.group period.id, amount)] := by
  obtain ⟨allocations, inserted, rfl⟩ := recordAllocation_ok recorded
  obtain ⟨others, members, totals⟩ := addMemberUsage_ok upserted
  have grouped := addGroupUsage_ok counted
  have rows : db'.allocations = c.db.allocations := by rw [others, grouped]
  rw [rows] at inserted
  refine ⟨by rw [(Table.insert?_eq_some.mp inserted).2]; rfl, rfl, ?_, ?_, ?_, ?_, ?_⟩
  · have periods : db'.groupPeriods = db.groupPeriods := by rw [others]
    rw [periods, grouped]
    apply List.map_congr_left
    intro row _
    by_cases same : row.id = period.id
    · simp [GroupPeriod.debited, AllocationSource.isGroup, same]
    · simp [GroupPeriod.debited, AllocationSource.isGroup, same, Ne.symm same]
  · intro periodID member
    have used : memberUsed db periodID member = memberUsed c.db periodID member := by
      rw [grouped]
      rfl
    have step := members periodID member
    rw [used] at step
    refine step.trans ?_
    by_cases samePeriod : periodID = period.id <;> by_cases sameMember : member = userID <;>
      simp [AllocationSource.isGroup, samePeriod, sameMember, eq_comm]
  · intro periodID
    have total : memberTotal db periodID = memberTotal c.db periodID := by
      rw [grouped]
      rfl
    have step := totals periodID
    rw [total] at step
    refine step.trans ?_
    by_cases samePeriod : periodID = period.id <;>
      simp [AllocationSource.isGroup, samePeriod, eq_comm]
  · rw [others, grouped]
  · intro need' before'
    rw [before.need_eq before']
    exact ⟨by simp, by simp, before'.cashCharged⟩

theorem candidatePeriod_ok {groupID : GroupID} {period : GroupPeriod}
    (found : candidatePeriod db context groupID periodID = .ok period) :
    db.groupPeriods.find? periodID = some period ∧ period.groupID = groupID := by
  unfold candidatePeriod at found
  cases row : db.groupPeriods.find? periodID with
  | none =>
    rw [row] at found
    cases found
  | some other =>
    rw [row] at found
    dsimp only at found
    split at found
    · cases found
      exact ⟨rfl, ‹_›⟩
    · cases found

theorem groupAmount_eq (db : Db) (userID : UserID) (period : GroupPeriod) (need : Int) :
    groupAmount db userID period (numericText need) =
      .ok (numericText (min (groupHeld db userID period) need)) := by
  unfold groupAmount groupHeld
  cases period.memberLimitUSD with
  | none => simp [groupMemberRemaining]
  | some limit =>
    simp only [groupMemberRemaining, Option.map_some, billingMin_numericText, ok_bind,
      numeric_numericText]
    rw [min_right_comm]

theorem groupHeld_nonneg (db : Db) (userID : UserID) (period : GroupPeriod) :
    0 ≤ groupHeld db userID period := by
  unfold groupHeld GroupPeriod.available
  split <;> omega

theorem chargeGroup_charged {groupCharged : Text} (before : c.Shows need 0 0)
    (ok : chargeGroup reservation c = .ok (c', groupCharged)) :
    GroupCharged reservation.requestID reservation.userID c c'
        (Waterfall.charges need (groupHoldings c.db reservation)) ∧
      groupCharged =
        numericText (Waterfall.total (Waterfall.charges need (groupHoldings c.db reservation))) := by
  unfold chargeGroup at ok
  unfold groupHoldings
  rcases group : reservation.groupID with _ | groupID
  · rw [group] at ok
    cases ok
    exact ⟨GroupCharged.refl _, rfl⟩
  rcases bound : reservation.groupPeriodID with _ | periodID
  · rw [group, bound] at ok
    cases ok
    exact ⟨GroupCharged.refl _, rfl⟩
  rw [group, bound] at ok
  dsimp only at ok ⊢
  rw [before.remaining, billingPositive_numericText] at ok
  by_cases rule : reservation.fundingRuleVersion ≥ 2
  · rw [if_pos rule]
    by_cases needed : 0 < need
    · rw [if_pos ⟨rule, by simpa using needed⟩] at ok
      obtain ⟨period, found, ok⟩ := bind_eq_ok.mp ok
      have named : period.id = periodID := Table.key_of_find? (candidatePeriod_ok found).1
      subst named
      rw [groupAmount_eq, ok_bind, billingPositive_numericText] at ok
      rw [found]
      by_cases gives : 0 < min (groupHeld c.db reservation.userID period) need
      · rw [if_pos (by simpa using gives), numeric_numericText] at ok
        obtain ⟨db, counted, ok⟩ := bind_eq_ok.mp ok
        obtain ⟨db', upserted, ok⟩ := bind_eq_ok.mp ok
        obtain ⟨db'', recorded, ok⟩ := bind_eq_ok.mp ok
        rw [billingSubtract_numericText] at ok
        cases ok
        simp only [Waterfall.charges, if_pos gives]
        exact ⟨GroupCharged.group before counted upserted recorded, by simp⟩
      · rw [if_neg (by simpa using gives)] at ok
        cases ok
        have nothing : min (groupHeld c.db reservation.userID period) need = 0 := by
          have held := groupHeld_nonneg c.db reservation.userID period
          omega
        simp only [Waterfall.charges, if_neg gives]
        exact ⟨GroupCharged.refl _, by rw [nothing]; rfl⟩
    · rw [if_neg (by simp [needed])] at ok
      cases ok
      rw [Waterfall.charges_of_nonpos (not_lt.mp needed)]
      exact ⟨GroupCharged.refl _, rfl⟩
  · rw [if_neg (by simp [rule])] at ok
    cases ok
    rw [if_neg rule]
    exact ⟨GroupCharged.refl _, rfl⟩

end Store
