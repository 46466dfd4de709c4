import CodexGateway.Store.CashSteps
import CodexGateway.Store.Reservation

/-! # Billing operations are cash steps

Recharges and positive adjustments credit a lot; negative adjustments, plan
transactions and settlements debit lots; a reservation leaves cash alone.
-/

namespace Store

open Billing
open Except (bind_eq_ok check_bind_eq_ok refuse_eq_ok ok_bind mapError_eq_ok)

variable {db db' : Db} {params : PlanTransactionParams} {operationType : Text}
  {target : Option UserID} {fingerprint : List Text} {entry : LedgerEntry} {userID : UserID}
  {id : SubscriptionID}

/-! ## Claims -/

theorem claimBillingOperation_created {claimed : Db} {params : BillingWriteParams}
    (ok : claimBillingOperation db params operationType target fingerprint =
      .ok (.created claimed)) : ∃ operations, claimed = { db with operations } := by
  unfold claimBillingOperation at ok
  obtain ⟨_, ok⟩ := refuse_eq_ok.mp ok
  dsimp only at ok
  split at ok
  · cases ok
    exact ⟨_, rfl⟩
  · split at ok
    · cases ok
    · split at ok
      · cases ok
      · split at ok
        · cases ok
        · cases ok

variable {operation : Db → Except StoreError (Db × LedgerEntry)} {count units : Int}
  {fresh : FreshSubscription} {plan : BillingPlan} {reservation settled : BillingReservation}
  {now : Time}

/-- A claimed operation changes nothing on a replay, and otherwise what it does itself
besides the claim. -/
theorem withClaim_ok {params : BillingWriteParams}
    (ok : withClaim db params operationType target fingerprint operation = .ok (db', entry)) :
    db' = db ∨ ∃ operations done, operation { db with operations } = .ok (done, entry) ∧
      db' = { done with operations := db'.operations } := by
  obtain ⟨claim, claims, ok⟩ := bind_eq_ok.mp ok
  cases claim with
  | replay id =>
    obtain ⟨replayed, _, ok⟩ := bind_eq_ok.mp ok
    cases ok
    exact .inl rfl
  | created claimed =>
    obtain ⟨⟨done, made⟩, ran, ok⟩ := bind_eq_ok.mp ok
    obtain ⟨finished, finishes, ok⟩ := bind_eq_ok.mp ok
    cases ok
    obtain ⟨operations, rfl⟩ := claimBillingOperation_created claims
    unfold finishBillingOperation at finishes
    split at finishes
    · cases finishes
      exact .inr ⟨operations, done, ran, rfl⟩
    · cases finishes

theorem withClaim_cashStep {params : BillingWriteParams}
    (steps : ∀ claimed done, operation claimed = .ok (done, entry) → CashStep claimed done)
    (ok : withClaim db params operationType target fingerprint operation = .ok (db', entry)) :
    CashStep db db' := by
  rcases withClaim_ok ok with rfl | ⟨operations, done, ran, finished⟩
  · exact (SameCash.refl _).cashStep
  · have step : CashStep db done := (steps _ done ran).after ⟨rfl, rfl⟩
    apply step.before
    exact ⟨by rw [finished], by rw [finished]⟩

/-! ## Credits and adjustments -/

theorem multiplyToAmount_ok {left right text : Text} (ok : multiplyToAmount left right = .ok text) :
    ∃ units, text = numericText units := by
  obtain ⟨_, _, ok⟩ := bind_eq_ok.mp ok
  obtain ⟨_, _, ok⟩ := bind_eq_ok.mp ok
  exact ⟨_, (roundAmount_ok ok).2⟩

theorem creditRecharge_cashStep {params : RechargeUserParams} {cny : Text}
    (ok : creditRecharge params cny db = .ok (db', entry)) : CashStep db db' := by
  unfold creditRecharge at ok
  obtain ⟨usd, converted, ok⟩ := bind_eq_ok.mp ok
  obtain ⟨units, rfl⟩ := multiplyToAmount_ok (mapError_eq_ok.mp converted)
  obtain ⟨positive, ok⟩ := refuse_eq_ok.mp ok
  rw [billingPositive_numericText, decide_eq_false_iff_not, not_not] at positive
  cases found : db.accounts.find? params.userID with
  | none =>
    rw [found] at ok
    cases ok
  | some account =>
    rw [found] at ok
    dsimp only at ok
    rw [numeric_numericText] at ok
    obtain ⟨_, ok⟩ := check_bind_eq_ok.mp ok
    cases ok
    exact (cashStep_credit found positive).before ⟨rfl, rfl⟩

theorem rechargeUser_cashStep {params : RechargeUserParams}
    (ok : rechargeUser db params = .ok (db', entry)) : CashStep db db' := by
  obtain ⟨_, ok⟩ := check_bind_eq_ok.mp ok
  obtain ⟨cny, _, ok⟩ := bind_eq_ok.mp ok
  obtain ⟨_, ok⟩ := check_bind_eq_ok.mp ok
  exact withClaim_cashStep (fun _ _ => creditRecharge_cashStep) ok

/-- A debit of the lots, and the same amount off the balance. -/
theorem LotsDebited.cashStep {debited : Db} {amount : Int} {charged : List Charge}
    {account : BillingAccount} (lots : LotsDebited db userID amount charged debited)
    (found : db.accounts.find? userID = some account) :
    CashStep db (setCash debited userID (account.balanceUSD - amount)
      account.nextCashLotSequence) := by
  have same : debited.accounts = db.accounts := by rw [lots.frame]
  have after := find?_setCash (same ▸ found) (account.balanceUSD - amount)
    account.nextCashLotSequence
  refine cashStep_debit lots.rows lots.covers ?_ ?_
  · intro row rowFound
    cases found.symm.trans rowFound
    refine ⟨_, (after userID).trans (if_pos rfl), ?_, rfl⟩
    rw [lots.total]
  · intro other different
    rw [after other, if_neg different, same]

theorem parseInput_denotes {value canonical : Text} {signed : Bool}
    (accepted : parseInput value signed false = .ok canonical) :
    ∃ units : Int, Denotes canonical units := by
  obtain ⟨units, value, -⟩ := parseBounded_units accepted (by decide)
  exact ⟨units, value⟩

theorem denotes_zero : Denotes ['0'] 0 := by
  have zero : Decimal.value? ['0'] = some 0 := by decide +kernel
  rw [Denotes, zero, Int.cast_zero, zero_div]

theorem applyAdjustment_cashStep {params : AdjustUserBalanceParams} {amount : Text}
    (value : Denotes amount units) (ok : applyAdjustment params amount db = .ok (db', entry)) :
    CashStep db db' := by
  unfold applyAdjustment at ok
  cases found : db.accounts.find? params.userID with
  | none =>
    rw [found] at ok
    cases ok
  | some account =>
    rw [found] at ok
    dsimp only at ok
    rw [(denotes_numericText account.balanceUSD).billingAdd_eq value, ok_bind,
      (denotes_numericText _).billingRat_eq, ok_bind] at ok
    obtain ⟨_, ok⟩ := refuse_eq_ok.mp ok
    obtain ⟨debited, debits, ok⟩ := bind_eq_ok.mp ok
    obtain ⟨_, ok⟩ := check_bind_eq_ok.mp ok
    rw [numeric_numericText, value.numeric_eq, value.billingPositive_eq] at ok
    unfold debitAdjustment at debits
    rw [value.billingPositive_eq] at debits
    by_cases positive : 0 < units
    · rw [if_pos (by simpa using positive)] at debits
      cases debits
      simp only [positive, decide_true, if_true] at ok
      cases ok
      exact (cashStep_credit found positive).before ⟨rfl, rfl⟩
    · rw [if_neg (by simpa using positive), denotes_zero.billingSubtract_eq value,
        ok_bind] at debits
      obtain ⟨charged, lots⟩ := debitCashLots_ok (denotes_numericText _) (by omega) debits
      simp only [positive, decide_false, Bool.false_eq_true, if_false] at ok
      cases ok
      have step := lots.cashStep found
      rw [zero_sub, sub_neg_eq_add] at step
      exact step.before ⟨rfl, rfl⟩

theorem adjustUserBalance_cashStep {params : AdjustUserBalanceParams}
    (ok : adjustUserBalance db params = .ok (db', entry)) : CashStep db db' := by
  obtain ⟨_, ok⟩ := check_bind_eq_ok.mp ok
  obtain ⟨amount, accepted, ok⟩ := bind_eq_ok.mp ok
  obtain ⟨_, ok⟩ := check_bind_eq_ok.mp ok
  obtain ⟨units, value⟩ := parseInput_denotes (mapError_eq_ok.mp accepted)
  exact withClaim_cashStep (fun _ _ => applyAdjustment_cashStep value) ok

/-! ## Plan transactions -/

theorem insertBillingEntitlement_sameCash {start : Time} {terms : EntitlementTerms}
    {first : Int} {newID : EntitlementID} {ends : Option Time}
    (ok : insertBillingEntitlement db userID id start terms count first newID = .ok (db', ends)) :
    SameCash db db' := by
  obtain ⟨_, _, ok⟩ := bind_eq_ok.mp ok
  dsimp only at ok
  split at ok
  · cases ok
  · cases ok
    exact ⟨rfl, rfl⟩

theorem prepareSubscription_sameCash {params : PutSubscriptionParams}
    (ok : prepareSubscription db params = .ok db') : SameCash db db' := by
  unfold prepareSubscription at ok
  split at ok
  · cases ok
    exact SameCash.refl _
  · unfold retireSubscription at ok
    split at ok
    · cases ok
    · dsimp only at ok
      obtain ⟨_, ok⟩ := refuse_eq_ok.mp ok
      obtain ⟨_, ok⟩ := refuse_eq_ok.mp ok
      cases ok
      exact ⟨rfl, rfl⟩

theorem insertSubscription_sameCash {params : PutSubscriptionParams} {expiresAt : Option Time}
    (ok : insertSubscription db params expiresAt fresh = .ok db') :
    SameCash db db' := by
  unfold insertSubscription at ok
  split at ok
  · unfold createSubscription at ok
    dsimp only at ok
    split at ok
    · cases ok
    · cases ok
      exact ⟨rfl, rfl⟩
  · cases ok
    exact SameCash.refl _

theorem reopenBillingSubscription_sameCash {params : PutSubscriptionParams}
    {plan : Option BillingPlan}
    (ok : reopenBillingSubscription db params plan fresh = .ok (db', id)) : SameCash db db' := by
  obtain ⟨_, ok⟩ := check_bind_eq_ok.mp ok
  obtain ⟨prepared, prepares, ok⟩ := bind_eq_ok.mp ok
  obtain ⟨_, _, ok⟩ := bind_eq_ok.mp ok
  obtain ⟨inserted, inserts, ok⟩ := bind_eq_ok.mp ok
  obtain ⟨⟨entitled, _⟩, entitles, ok⟩ := bind_eq_ok.mp ok
  obtain ⟨_, _, ok⟩ := bind_eq_ok.mp ok
  have before : SameCash db entitled := (prepareSubscription_sameCash prepares).trans
    ((insertSubscription_sameCash inserts).trans (insertBillingEntitlement_sameCash entitles))
  dsimp only at ok
  split at ok
  · cases ok
  · cases ok
    exact before.trans ⟨rfl, rfl⟩

theorem SubscriptionsRolled.sameCash (rolled : SubscriptionsRolled db db') : SameCash db db' :=
  ⟨by rw [rolled.frame], by rw [rolled.frame]⟩

theorem extendSubscription_sameCash {s : Subscription}
    (ok : extendSubscription db params s plan = .ok db') : SameCash db db' := by
  unfold extendSubscription at ok
  split at ok
  · cases ok
  · obtain ⟨_, ok⟩ := refuse_eq_ok.mp ok
    obtain ⟨⟨inserted, _⟩, inserts, ok⟩ := bind_eq_ok.mp ok
    cases ok
    exact (insertBillingEntitlement_sameCash inserts).trans ⟨rfl, rfl⟩

theorem billingPlanTotal_ok {price : Int} {total : Text}
    (ok : billingPlanTotal (numericText price) count = .ok total) :
    ∃ units, total = numericText units ∧ 0 ≤ units := by
  unfold billingPlanTotal at ok
  rw [(denotes_numericText price).billingRat_eq, ok_bind] at ok
  have exact' : floatString ((price : ℚ) / 10 ^ amountScale * count) amountScale =
      numericText (price * count) := by
    rw [← floatString_units, Int.cast_mul, div_mul_eq_mul_div]
  dsimp only at ok
  rw [exact'] at ok
  split at ok
  · cases ok
  · rename_i canonical accepted
    cases ok
    refine ⟨price * count, rfl, ?_⟩
    have nonneg := (parseBounded_unsigned_value accepted).1
    have found : Decimal.value? (numericText (price * count)) = _ := denotes_numericText _
    rw [ratOf, found, Option.getD_some, le_div_iff₀ (by positivity), zero_mul] at nonneg
    exact_mod_cast nonneg

theorem debitBillingPlanCash_cashStep {balance : Text} (nonneg : 0 ≤ units)
    (ok : debitBillingPlanCash db userID (numericText units) = .ok (db', balance)) :
    CashStep db db' := by
  unfold debitBillingPlanCash at ok
  cases found : db.accounts.find? userID with
  | none =>
    rw [found] at ok
    cases ok
  | some account =>
    rw [found] at ok
    dsimp only at ok
    rw [billingSubtract_numericText, ok_bind, (denotes_numericText _).billingRat_eq, ok_bind] at ok
    obtain ⟨_, ok⟩ := refuse_eq_ok.mp ok
    obtain ⟨debited, debits, ok⟩ := bind_eq_ok.mp ok
    obtain ⟨charged, lots⟩ := debitCashLots_ok (denotes_numericText units) nonneg debits
    rw [numeric_numericText] at ok
    cases ok
    exact lots.cashStep found

theorem payPlan_cashStep {kind : LedgerKind}
    (ok : payPlan db params plan kind = .ok (db', entry)) : CashStep db db' := by
  obtain ⟨total, computed, ok⟩ := bind_eq_ok.mp ok
  obtain ⟨units, rfl, nonneg⟩ := billingPlanTotal_ok computed
  obtain ⟨⟨debited, balance⟩, debits, ok⟩ := bind_eq_ok.mp ok
  cases ok
  exact (debitBillingPlanCash_cashStep nonneg debits).before ⟨rfl, rfl⟩

theorem purchasePlan_cashStep {planID : PlanID}
    (ok : purchasePlan params planID db = .ok (db', entry)) : CashStep db db' := by
  obtain ⟨plan, _, ok⟩ := bind_eq_ok.mp ok
  obtain ⟨⟨opened, _⟩, opens, ok⟩ := bind_eq_ok.mp ok
  exact (payPlan_cashStep ok).after (reopenBillingSubscription_sameCash opens)

theorem renewPlan_cashStep (ok : renewPlan params id db = .ok (db', entry)) : CashStep db db' := by
  unfold renewPlan at ok
  split at ok
  · cases ok
  · split at ok
    · cases ok
    · obtain ⟨plan, _, ok⟩ := bind_eq_ok.mp ok
      obtain ⟨_, ok⟩ := refuse_eq_ok.mp ok
      obtain ⟨rolled, rolls, ok⟩ := bind_eq_ok.mp ok
      split at ok
      · cases ok
      · obtain ⟨_, ok⟩ := refuse_eq_ok.mp ok
        obtain ⟨extended, extends', ok⟩ := bind_eq_ok.mp ok
        exact (payPlan_cashStep ok).after ((rollBillingSubscriptions_ok rolls).sameCash.trans
          (extendSubscription_sameCash extends'))

theorem transactBillingPlan_cashStep {transaction : PlanTransaction}
    (ok : transactBillingPlan db params transaction = .ok (db', entry)) : CashStep db db' := by
  obtain ⟨_, ok⟩ := check_bind_eq_ok.mp ok
  obtain ⟨_, ok⟩ := refuse_eq_ok.mp ok
  obtain ⟨_, ok⟩ := check_bind_eq_ok.mp ok
  cases transaction with
  | purchase planID => exact withClaim_cashStep (fun _ _ => purchasePlan_cashStep) ok
  | renewal subscriptionID => exact withClaim_cashStep (fun _ _ => renewPlan_cashStep) ok

/-! ## Requests -/

theorem reserveBilling_cashStep {structureDigest : Config.ModelPriceStructure → Text}
    {params : BillingReservationParams} {fresh : FreshPeriods} {layers : List FundingLayer}
    (ok : reserveBilling structureDigest db params fresh = .ok (db', reservation, layers)) :
    CashStep db db' := by
  obtain ⟨reserved⟩ := reserveBilling_ok structureDigest ok
  have frame : ReservesOnly db db' := reserved.made.frame
  have same : SameCash db db' := by
    unfold ReservesOnly at frame
    exact ⟨by rw [frame], by rw [frame]⟩
  exact same.cashStep

theorem UsageCharged.cashStep {cost : Int} {group personal : List Charge} {charge : UsageCharge}
    (charged : UsageCharged db reservation now db' settled cost group personal charge) :
    CashStep db db' := by
  obtain ⟨account, found, -, accounts⟩ := charged.account
  refine cashStep_debit charged.lots charged.lotsCharged ?_ ?_
  · intro row rowFound
    rw [accounts, Table.find?_modify, if_pos rfl, rowFound]
    exact ⟨_, rfl, rfl, rfl⟩
  · intro other different
    rw [accounts, Table.find?_modify, if_neg different]

theorem settleBilling_cashStep {requestID : Text}
    (ok : settleBilling db requestID now = .ok (db', settled)) : CashStep db db' := by
  obtain ⟨reservation, _, ⟨_, _, _, rfl, _⟩ | charged⟩ := settleBilling_ok ok
  · exact (SameCash.refl _).cashStep
  · obtain ⟨charged⟩ := charged
    exact charged.charged.cashStep.after ⟨rfl, rfl⟩

end Store
