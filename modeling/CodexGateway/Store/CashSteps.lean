import CodexGateway.Store.Cash
import CodexGateway.Store.CashState
import CodexGateway.Store.Rolled
import CodexGateway.Store.Settled

/-! # The cash of the database

The cash of a user is read off the account and the lots. Every billing operation
changes it by at most one step of the abstract cash: a credit, a debit that the lots
cover, or nothing.
-/

namespace Store

open Billing

variable {a b c db db' : Db} {userID : UserID} {amount : Int}

def userLots (db : Db) (userID : UserID) : List CashLot :=
  db.cashLots.rows.filter fun lot => lot.userID = userID

def cashOf (db : Db) (userID : UserID) : Option Cash :=
  (db.accounts.find? userID).map fun account =>
    ⟨account.balanceUSD, account.nextCashLotSequence, userLots db userID⟩

/-- The cash of every user made at most one step. -/
def CashStep (db db' : Db) : Prop :=
  ∀ userID cash, cashOf db userID = some cash →
    ∃ cash', cashOf db' userID = some cash' ∧ cash.Step cash'

/-- The tables that hold cash did not change. -/
structure SameCash (db db' : Db) : Prop where
  accounts : db'.accounts = db.accounts
  lots : db'.cashLots = db.cashLots

namespace SameCash

theorem refl (db : Db) : SameCash db db := ⟨rfl, rfl⟩

theorem trans (first : SameCash a b) (second : SameCash b c) : SameCash a c :=
  ⟨second.accounts.trans first.accounts, second.lots.trans first.lots⟩

theorem cashOf_eq (same : SameCash db db') (userID : UserID) :
    cashOf db' userID = cashOf db userID := by
  rw [cashOf, cashOf, userLots, userLots, same.accounts, same.lots]

theorem cashStep (same : SameCash db db') : CashStep db db' := by
  intro userID cash found
  exact ⟨cash, (same.cashOf_eq userID).trans found, .idle⟩

end SameCash

theorem CashStep.after (step : CashStep b c) (same : SameCash a b) : CashStep a c := by
  intro userID cash found
  exact step userID cash ((same.cashOf_eq userID).trans found)

theorem CashStep.before (step : CashStep a b) (same : SameCash b c) : CashStep a c := by
  intro userID cash found
  obtain ⟨cash', found', stepped⟩ := step userID cash found
  exact ⟨cash', (same.cashOf_eq userID).trans found', stepped⟩

theorem cashOf_eq_some {cash : Cash} :
    cashOf db userID = some cash ↔ ∃ account, db.accounts.find? userID = some account ∧
      cash = ⟨account.balanceUSD, account.nextCashLotSequence, userLots db userID⟩ := by
  rw [cashOf, Option.map_eq_some_iff]
  constructor
  · rintro ⟨account, found, rfl⟩
    exact ⟨account, found, rfl⟩
  · rintro ⟨account, found, rfl⟩
    exact ⟨account, found, rfl⟩

variable {account : BillingAccount} {charged : List Charge} {text : Text}

theorem find?_setCash (found : db.accounts.find? userID = some account)
    (balance sequence : Int) (other : UserID) :
    (setCash db userID balance sequence).accounts.find? other =
      if other = userID then
        some { account with balanceUSD := balance, nextCashLotSequence := sequence }
      else db.accounts.find? other := by
  rw [setCash, Table.find?_modify]
  by_cases same : other = userID
  · rw [if_pos same, if_pos same, found]
    rfl
  · rw [if_neg same, if_neg same]

theorem cashStep_credit (found : db.accounts.find? userID = some account) (positive : 0 < amount) :
    CashStep db (createCashLot (setCash db userID (account.balanceUSD + amount)
      (account.nextCashLotSequence + 1)) userID account.nextCashLotSequence amount) := by
  intro other cash before
  obtain ⟨row, rowFound, rfl⟩ := cashOf_eq_some.mp before
  have after := find?_setCash found (account.balanceUSD + amount)
    (account.nextCashLotSequence + 1) other
  by_cases same : other = userID
  · subst same
    cases found.symm.trans rowFound
    rw [if_pos rfl] at after
    refine ⟨_, cashOf_eq_some.mpr ⟨_, after, ?_⟩, .credit db.cashLots.next other amount positive⟩
    simp [Cash.credit, userLots, createCashLot, setCash, Serial.insert]
  · rw [if_neg same, rowFound] at after
    refine ⟨_, cashOf_eq_some.mpr ⟨row, after, ?_⟩, .idle⟩
    simp [userLots, createCashLot, setCash, Serial.insert, Ne.symm same]

theorem LotsCharged.covers (lots : LotsCharged userID db.cashLots.rows charged)
    (balance next : Int) : Cash.Covers ⟨balance, next, userLots db userID⟩ charged := by
  refine ⟨?_, ?_, lots.positive, ?_⟩
  · exact db.cashLots.unique.sublist (List.filter_sublist.map CashLot.id)
  · intro charge member id isLot
    obtain ⟨lot, lotMember, rfl, owner⟩ := lots.owned charge member id isLot
    exact List.mem_map_of_mem (List.mem_filter.mpr ⟨lotMember, by simpa using owner⟩)
  · intro lot member
    exact lots.covered lot (List.mem_of_mem_filter member)

theorem cashStep_debit (lots : db'.cashLots.rows = db.cashLots.rows.map (CashLot.debited charged))
    (covers : LotsCharged userID db.cashLots.rows charged)
    (own : ∀ account, db.accounts.find? userID = some account →
      ∃ account', db'.accounts.find? userID = some account' ∧
        account'.balanceUSD = account.balanceUSD - taken AllocationSource.isCash charged ∧
        account'.nextCashLotSequence = account.nextCashLotSequence)
    (others : ∀ other, other ≠ userID → db'.accounts.find? other = db.accounts.find? other) :
    CashStep db db' := by
  intro other cash before
  obtain ⟨row, rowFound, rfl⟩ := cashOf_eq_some.mp before
  have otherLots : userLots db' other = (userLots db other).map (CashLot.debited charged) := by
    rw [userLots, lots, List.filter_map]
    rfl
  by_cases same : other = userID
  · subst same
    obtain ⟨account', found', balance, next⟩ := own row rowFound
    refine ⟨_, cashOf_eq_some.mpr ⟨account', found', ?_⟩, .debit charged (covers.covers _ _)⟩
    rw [balance, next, otherLots]
    rfl
  · refine ⟨_, cashOf_eq_some.mpr ⟨row, (others other same).trans rowFound, ?_⟩, .idle⟩
    -- The charges name lots of the user alone, so the other's lots keep what they hold.
    have untouched : ∀ lot ∈ userLots db other, CashLot.debited charged lot = lot := by
      intro lot member
      obtain ⟨lotMember, owner⟩ := List.mem_filter.mp member
      rw [CashLot.debited, taken_eq_zero, sub_zero]
      intro charge charging
      cases source : charge.1 with
      | group id => rfl
      | subscription sourceType id => rfl
      | cash id =>
        obtain ⟨named, namedMember, rfl, namedOwner⟩ := covers.owned charge charging id source
        apply decide_eq_false
        intro sameID
        have twin := List.inj_on_of_nodup_map db.cashLots.unique namedMember lotMember sameID
        rw [twin] at namedOwner
        exact same ((by simpa using owner : lot.userID = other).symm.trans namedOwner)
    rw [otherLots, List.map_congr_left untouched, List.map_id']

/-! ## Debits -/

/-- The loop over the lots of a debit is a waterfall. -/
theorem debitLots_eq {lots : List CashLot} (opened : ∀ lot ∈ lots, 0 < lot.remainingUSD) (db : Db)
    {needed : Text} {need : Int} (value : Denotes needed need) :
    ∃ db' left, debitLots lots db needed = .ok (db', left) ∧
      Denotes left (need - Waterfall.total (Waterfall.charges need (lotHoldings lots))) ∧
      db'.cashLots.rows =
        db.cashLots.rows.map (CashLot.debited (Waterfall.charges need (lotHoldings lots))) ∧
      db' = { db with cashLots := db'.cashLots } := by
  induction lots generalizing db needed need with
  | nil =>
    refine ⟨db, needed, rfl, ?_, ?_, rfl⟩
    · simpa [Waterfall.charges, lotHoldings] using value
    · simp [Waterfall.charges, lotHoldings]
  | cons lot rest ih =>
    have held := opened lot List.mem_cons_self
    unfold debitLots
    rw [value.billingPositive_eq, (denotes_numericText lot.remainingUSD).billingMin_eq value]
    by_cases wanted : 0 < need
    · have gives : 0 < min lot.remainingUSD need := lt_min held wanted
      have step : Waterfall.charges need (lotHoldings (lot :: rest)) =
          [(.cash lot.id, min lot.remainingUSD need)] ++
            Waterfall.charges (need - min lot.remainingUSD need) (lotHoldings rest) :=
        if_pos gives
      rw [if_pos (by simpa using wanted), Except.ok_bind,
        value.billingSubtract_eq (denotes_numericText _), Except.ok_bind, numeric_numericText]
      obtain ⟨db', left, ok, leftValue, rows, frame⟩ :=
        ih (fun other member => opened other (List.mem_cons_of_mem _ member))
          (debitLot db lot.id (min lot.remainingUSD need))
          (denotes_numericText (need - min lot.remainingUSD need))
      refine ⟨db', left, ok, ?_, ?_, ?_⟩
      · rw [step, Waterfall.total_append, Waterfall.total_cons, Waterfall.total_nil]
        rwa [add_zero, ← sub_sub]
      · rw [rows, rows_debitLot, List.map_map, step]
        apply List.map_congr_left
        intro other _
        exact (CashLot.debited_append _ _ other).symm
      · rw [frame]
        rfl
    · refine ⟨db, needed, ?_, ?_, ?_, rfl⟩
      · rw [if_neg (by simpa using wanted)]
      · rw [Waterfall.charges_of_nonpos (not_lt.mp wanted)]
        simpa using value
      · rw [Waterfall.charges_of_nonpos (not_lt.mp wanted)]
        simp

/-- The lots of a user were debited by an amount. -/
structure LotsDebited (db : Db) (userID : UserID) (amount : Int) (charged : List Charge)
    (db' : Db) : Prop where
  rows : db'.cashLots.rows = db.cashLots.rows.map (CashLot.debited charged)
  covers : LotsCharged userID db.cashLots.rows charged
  total : taken AllocationSource.isCash charged = amount
  frame : db' = { db with cashLots := db'.cashLots }

/-- The error of an account whose lots do not hold what it owes. -/
def unreconciled : StoreError :=
  .conflict "cash lots do not reconcile with account"

/-- What the open lots of a user hold. -/
def openFunds (db : Db) (userID : UserID) : Int :=
  Waterfall.total (lotHoldings (openLots db userID fun _ => true))

theorem taken_isCash_charges (need : Int) (lots : List CashLot) :
    taken AllocationSource.isCash (Waterfall.charges need (lotHoldings lots)) =
      Waterfall.total (Waterfall.charges need (lotHoldings lots)) := by
  rw [taken, List.filter_eq_self.mpr]
  intro charge member
  obtain ⟨_, held, holds, _⟩ := Waterfall.mem_charges member
  obtain ⟨lot, _, same⟩ := List.mem_map.mp holds
  rw [← congrArg Prod.fst same]
  rfl

/-- A debit takes exactly its amount from the lots, or they do not hold it. -/
theorem debitCashLots_eq (db : Db) (userID : UserID) (value : Denotes text amount)
    (nonneg : 0 ≤ amount) :
    (debitCashLots db userID text = .error unreconciled ∧ openFunds db userID < amount) ∨
      ∃ db' charged, debitCashLots db userID text = .ok db' ∧
        LotsDebited db userID amount charged db' := by
  have opened : ∀ lot ∈ openLots db userID fun _ => true, 0 < lot.remainingUSD :=
    fun lot member => (mem_openLots.mp member).2.2.2
  obtain ⟨db', left, ok, leftValue, rows, frame⟩ := debitLots_eq opened db value
  have within := Waterfall.total_charges_le nonneg (lotHoldings (openLots db userID fun _ => true))
  unfold debitCashLots
  rw [ok, Except.ok_bind]
  dsimp only
  rw [leftValue.billingPositive_eq]
  by_cases short : 0 < amount -
      Waterfall.total (Waterfall.charges amount (lotHoldings (openLots db userID fun _ => true)))
  · left
    rw [if_pos (by simpa using short)]
    refine ⟨rfl, ?_⟩
    -- A need that is left over has drained every open lot.
    have drained := Waterfall.charges_of_total_lt (sub_pos.mp short)
    have all : (lotHoldings (openLots db userID fun _ => true)).filter (fun source => 0 < source.2) =
        lotHoldings (openLots db userID fun _ => true) := by
      apply List.filter_eq_self.mpr
      intro source member
      obtain ⟨lot, lotMember, rfl⟩ := List.mem_map.mp member
      exact decide_eq_true (opened lot lotMember)
    rw [drained, all] at short
    exact sub_pos.mp short
  · right
    rw [if_neg (by simpa using short)]
    refine ⟨db', _, rfl, rows, lotsCharged_openLots db userID _ amount, ?_, frame⟩
    rw [taken_isCash_charges]
    omega

theorem debitCashLots_ok (value : Denotes text amount) (nonneg : 0 ≤ amount)
    (ok : debitCashLots db userID text = .ok db') :
    ∃ charged, LotsDebited db userID amount charged db' := by
  rcases debitCashLots_eq db userID value nonneg with ⟨failed, -⟩ | ⟨other, charged, done, debited⟩
  · rw [failed] at ok
    cases ok
  · cases done.symm.trans ok
    exact ⟨charged, debited⟩

theorem held_le_openFunds (db : Db) (userID : UserID) :
    ((userLots db userID).map CashLot.remainingUSD).sum ≤ openFunds db userID := by
  have sorted : openFunds db userID = ((db.cashLots.rows.filter fun lot =>
      lot.userID = userID ∧ 0 < lot.remainingUSD).map CashLot.remainingUSD).sum := by
    rw [openFunds, Waterfall.total, lotHoldings, List.map_map]
    simp only [openLots, true_and]
    exact ((List.perm_insertionSort _ _).map _).sum_eq
  rw [sorted, userLots]
  induction db.cashLots.rows with
  | nil => exact le_rfl
  | cons lot rest ih =>
    by_cases owner : lot.userID = userID
    · by_cases positive : 0 < lot.remainingUSD
      · simp only [List.filter_cons, owner, positive, decide_true, and_self, if_true,
          List.map_cons, List.sum_cons]
        omega
      · simp only [List.filter_cons, owner, positive, decide_true, and_false, decide_false,
          Bool.false_eq_true, if_true, if_false, List.map_cons, List.sum_cons]
        omega
    · simpa only [List.filter_cons, owner, decide_false, false_and, Bool.false_eq_true, if_false]
        using ih

end Store
