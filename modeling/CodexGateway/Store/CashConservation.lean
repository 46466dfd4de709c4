import CodexGateway.Store.CashOperations
import CodexGateway.Store.SettlementErrors

/-! # Cash is conserved

From a fresh account on, whatever billing operations run, the balance is the sum of
what the lots hold. The checks that the code makes against a mismatch never fire.
-/

namespace Store

open Billing Except

variable {db db' : Db} {userID : UserID} {params : PlanTransactionParams}

/-- The cash of a user is reconciled. -/
def Solvent (db : Db) (userID : UserID) : Prop :=
  ∃ cash, cashOf db userID = some cash ∧ cash.Reconciled

theorem Solvent.step (before : Solvent db userID) (step : CashStep db db') :
    Solvent db' userID := by
  obtain ⟨cash, found, reconciled⟩ := before
  obtain ⟨cash', found', stepped⟩ := step userID cash found
  exact ⟨cash', found', reconciled.step stepped⟩

theorem Solvent.same (before : Solvent db userID) (same : SameCash db db') : Solvent db' userID :=
  before.step same.cashStep

variable {account : BillingAccount} {reservation : BillingReservation}

theorem Solvent.balance_le (solvent : Solvent db userID)
    (found : db.accounts.find? userID = some account) :
    account.balanceUSD ≤ openFunds db userID := by
  obtain ⟨cash, cashFound, reconciled⟩ := solvent
  obtain ⟨row, rowFound, rfl⟩ := cashOf_eq_some.mp cashFound
  cases found.symm.trans rowFound
  exact reconciled.balance.le.trans (held_le_openFunds db userID)

/-! ## Debits of a solvent user -/

/-- The errors other than the one of lots that do not reconcile. -/
def Reconciles (err : StoreError) : Prop := err ≠ unreconciled

instance (err : StoreError) : Decidable (Reconciles err) :=
  inferInstanceAs (Decidable (err ≠ unreconciled))

theorem Solvent.debitCashLots (solvent : Solvent db userID)
    (found : db.accounts.find? userID = some account) {text : Text} {amount : Int}
    (value : Denotes text amount) (nonneg : 0 ≤ amount) (within : amount ≤ account.balanceUSD) :
    FailsWith Reconciles (debitCashLots db userID text) := by
  rcases debitCashLots_eq db userID value nonneg with ⟨-, short⟩ | ⟨db', charged, done, -⟩
  · have funds := solvent.balance_le found
    omega
  · rw [done]
    exact failsWith_ok _

theorem reconciles_withClaim {params : BillingWriteParams} {operationType : Text}
    {target : Option UserID} {fingerprint : List Text}
    {operation : Db → Except StoreError (Db × LedgerEntry)}
    (fails : ∀ operations, FailsWith Reconciles (operation { db with operations })) :
    FailsWith Reconciles (withClaim db params operationType target fingerprint operation) := by
  unfold withClaim
  have claims : FailsWith Reconciles
      (claimBillingOperation db params operationType target fingerprint) := by
    unfold claimBillingOperation
    split
    · exact failsWith_error (by decide)
    · dsimp only
      split
      · exact failsWith_ok _
      · split
        · exact failsWith_error (by decide)
        · split
          · exact failsWith_error (by decide)
          · split
            · exact failsWith_error (by decide)
            · exact failsWith_ok _
  apply claims.bind
  intro claim claimed
  cases claim with
  | replay id =>
    have replays : FailsWith Reconciles (replayBillingLedger db id) := by
      unfold replayBillingLedger
      split
      · exact failsWith_error (by decide)
      · exact failsWith_ok _
    exact replays.bind fun _ _ => failsWith_ok _
  | created claimed' =>
    obtain ⟨operations, rfl⟩ := claimBillingOperation_created claimed
    apply (fails operations).bind
    rintro ⟨done, entry⟩ _
    have finishes : FailsWith Reconciles
        (finishBillingOperation done params.operationID entry.id) := by
      unfold finishBillingOperation
      split
      · exact failsWith_ok _
      · exact failsWith_error (by decide)
    exact finishes.bind fun _ _ => failsWith_ok _

theorem reconciles_validateBillingWrite (params : BillingWriteParams) :
    FailsWith Reconciles (validateBillingWrite params) := by
  unfold validateBillingWrite
  dsimp only
  split
  · exact failsWith_error (by decide)
  · exact failsWith_ok _

theorem reconciles_lockBillingAccount (db : Db) (userID : UserID) :
    FailsWith Reconciles (lockBillingAccount db userID) := by
  unfold lockBillingAccount
  split
  · unfold lockNonPendingUser
    split
    · exact failsWith_error (by decide)
    · split
      · exact failsWith_error (by decide)
      · exact failsWith_ok _
  · exact failsWith_error (by decide)

/-- An adjustment that leaves a balance finds the lots to take it from. -/
theorem reconciles_applyAdjustment {params : AdjustUserBalanceParams} {amount : Text}
    {units : Int} (value : Denotes amount units) (solvent : Solvent db params.userID) :
    FailsWith Reconciles (applyAdjustment params amount db) := by
  unfold applyAdjustment
  cases found : db.accounts.find? params.userID with
  | none => exact failsWith_error (by decide)
  | some account =>
    dsimp only
    rw [(denotes_numericText account.balanceUSD).billingAdd_eq value, ok_bind,
      (denotes_numericText _).billingRat_eq, ok_bind]
    split
    · exact failsWith_error (by decide)
    · rename_i balance
      rw [div_lt_iff₀ (by positivity), zero_mul, Int.cast_lt_zero, not_lt] at balance
      have debits : FailsWith Reconciles (debitAdjustment db params.userID amount) := by
        unfold debitAdjustment
        rw [value.billingPositive_eq]
        split
        · exact failsWith_ok _
        · rename_i negative
          rw [denotes_zero.billingSubtract_eq value, ok_bind]
          have nonpos : ¬ 0 < units := by simpa using negative
          exact solvent.debitCashLots found (denotes_numericText _) (by omega) (by omega)
      apply debits.bind
      intro debited _
      apply FailsWith.bind
      · unfold checkNumeric
        split
        · exact failsWith_ok _
        · exact failsWith_error (by decide)
      · intro _ _
        exact failsWith_ok _

theorem adjustUserBalance_reconciles {params : AdjustUserBalanceParams}
    (solvent : Solvent db params.userID) : FailsWith Reconciles (adjustUserBalance db params) := by
  unfold adjustUserBalance
  apply (reconciles_validateBillingWrite _).bind
  intro _ _
  apply FailsWith.bind
  · cases parseInput params.usdAmount true false with
    | ok _ => exact failsWith_ok _
    | error _ =>
      exact failsWith_error (by decide : Reconciles (.invalid "invalid adjustment amount"))
  · intro amount accepted
    obtain ⟨units, value⟩ := parseInput_denotes (mapError_eq_ok.mp accepted)
    apply (reconciles_lockBillingAccount _ _).bind
    intro _ _
    apply reconciles_withClaim
    intro operations
    exact reconciles_applyAdjustment value (solvent.same ⟨rfl, rfl⟩)

/-! ## Plan transactions of a solvent user -/

theorem reconciles_billingExpiryDays (start : Time) (days count : Int) :
    FailsWith Reconciles (billingExpiryDays start days count) := by
  unfold billingExpiryDays
  split
  · exact failsWith_error (by decide)
  · dsimp only
    split
    · exact failsWith_error (by decide)
    · exact failsWith_ok _

theorem reconciles_entitlementEnd (start : Time) (days count : Int) :
    FailsWith Reconciles (entitlementEnd start days count) := by
  unfold entitlementEnd
  split
  · have expiry := reconciles_billingExpiryDays start days count
    cases ends : billingExpiryDays start days count with
    | ok _ => exact failsWith_ok _
    | error err => exact failsWith_error (expiry err ends)
  · exact failsWith_ok _

theorem reconciles_insertBillingEntitlement (db : Db) (userID : UserID) (id : SubscriptionID)
    (start : Time) (terms : EntitlementTerms) (count first : Int) (newID : EntitlementID) :
    FailsWith Reconciles (insertBillingEntitlement db userID id start terms count first newID) := by
  unfold insertBillingEntitlement
  apply (reconciles_entitlementEnd _ _ _).bind
  intro _ _
  dsimp only
  split
  · exact failsWith_error (by decide)
  · exact failsWith_ok _

theorem reconciles_reopenBillingSubscription (db : Db) (params : PutSubscriptionParams)
    (plan : Option BillingPlan) (fresh : FreshSubscription) :
    FailsWith Reconciles (reopenBillingSubscription db params plan fresh) := by
  have models : FailsWith Reconciles (validateBillingModels db params.terms.modelIDs) := by
    unfold validateBillingModels
    split
    · exact failsWith_ok _
    · exact failsWith_error (by decide)
  have prepares : FailsWith Reconciles (prepareSubscription db params) := by
    unfold prepareSubscription
    split
    · exact failsWith_ok _
    · unfold retireSubscription
      split
      · exact failsWith_error (by decide)
      · dsimp only
        split
        · exact failsWith_error (by decide)
        · split
          · exact failsWith_error (by decide)
          · exact failsWith_ok _
  unfold reopenBillingSubscription
  apply models.bind
  intro _ _
  apply prepares.bind
  intro prepared _
  apply (reconciles_entitlementEnd _ _ _).bind
  intro expiresAt _
  have inserts : FailsWith Reconciles (insertSubscription prepared params expiresAt fresh) := by
    unfold insertSubscription
    split
    · unfold createSubscription
      dsimp only
      split
      · exact failsWith_error (by decide)
      · exact failsWith_ok _
    · exact failsWith_ok _
  apply inserts.bind
  intro _ _
  apply (reconciles_insertBillingEntitlement _ _ _ _ _ _ _ _).bind
  intro _ _
  apply (reconciles_billingExpiryDays _ _ _).bind
  intro _ _
  dsimp only
  split
  · exact failsWith_error (by decide)
  · exact failsWith_ok _

theorem reconciles_rollSubscription (db : Db) (userID : UserID) (at' : Time) (newID : PeriodID)
    (stale : StaleSubscription) :
    FailsWith Reconciles (rollSubscription db userID at' newID stale) := by
  unfold rollSubscription
  dsimp only
  split
  · exact failsWith_ok _
  · split
    · exact failsWith_error (by decide)
    · have current (db : Db) : FailsWith Reconciles (currentEntitlement db stale.id at') := by
        unfold currentEntitlement
        dsimp only
        split
        · exact failsWith_error (by decide)
        · exact failsWith_ok _
      apply (current _).bind
      intro e _
      refine failsWith_refuse (by decide) ?_
      intro _
      have advances (elapsed : Int) :
          FailsWith Reconciles (advancedStart e.startsAt e.periodDays elapsed) := by
        unfold advancedStart
        split
        · exact reconciles_billingExpiryDays _ _ _
        · exact failsWith_ok _
      apply (advances _).bind
      intro _ _
      apply (reconciles_billingExpiryDays _ _ _).bind
      intro _ _
      unfold openEntitlementPeriod
      dsimp only
      split
      · exact failsWith_error (by decide)
      · exact failsWith_ok _

theorem reconciles_rollStale (userID : UserID) (at' : Time) (newID : SubscriptionID → PeriodID)
    (stale : List StaleSubscription) (db : Db) :
    FailsWith Reconciles (rollStale userID at' newID stale db) := by
  induction stale generalizing db with
  | nil => exact failsWith_ok _
  | cons first rest ih =>
    unfold rollStale
    apply (reconciles_rollSubscription _ _ _ _ _).bind
    intro rolled _
    exact ih rolled

theorem reconciles_readTransactionPlan (db : Db) (params : PlanTransactionParams) (id : PlanID)
    (mustBeActive : Bool) : FailsWith Reconciles (readTransactionPlan db params id mustBeActive) := by
  unfold readTransactionPlan
  split
  · exact failsWith_error (by decide)
  · split
    · exact failsWith_error (by decide)
    · split
      · exact failsWith_error (by decide)
      · exact failsWith_ok _

theorem reconciles_payPlan (plan : BillingPlan) (kind : LedgerKind)
    (solvent : Solvent db params.userID) : FailsWith Reconciles (payPlan db params plan kind) := by
  unfold payPlan
  apply FailsWith.bind
  · unfold billingPlanTotal
    rw [(denotes_numericText plan.priceUSD).billingRat_eq, ok_bind]
    dsimp only
    split
    · exact failsWith_error (by decide)
    · exact failsWith_ok _
  · intro total computed
    obtain ⟨units, rfl, nonneg⟩ := billingPlanTotal_ok computed
    apply FailsWith.bind
    · unfold debitBillingPlanCash
      cases found : db.accounts.find? params.userID with
      | none => exact failsWith_error (by decide)
      | some account =>
        dsimp only
        rw [billingSubtract_numericText, ok_bind, (denotes_numericText _).billingRat_eq, ok_bind]
        split
        · exact failsWith_error (by decide)
        · rename_i balance
          rw [div_lt_iff₀ (by positivity), zero_mul, Int.cast_lt_zero, not_lt] at balance
          apply (solvent.debitCashLots found (denotes_numericText units) nonneg (by omega)).bind
          intro _ _
          exact failsWith_ok _
    · intro _ _
      exact failsWith_ok _

theorem reconciles_purchasePlan (planID : PlanID) (solvent : Solvent db params.userID) :
    FailsWith Reconciles (purchasePlan params planID db) := by
  unfold purchasePlan
  apply (reconciles_readTransactionPlan _ _ _ _).bind
  intro plan _
  apply (reconciles_reopenBillingSubscription _ _ _ _).bind
  rintro ⟨opened, _⟩ opens
  exact reconciles_payPlan plan _ (solvent.same (reopenBillingSubscription_sameCash opens))

theorem reconciles_renewPlan (id : SubscriptionID) (solvent : Solvent db params.userID) :
    FailsWith Reconciles (renewPlan params id db) := by
  unfold renewPlan
  split
  · exact failsWith_error (by decide)
  · split
    · exact failsWith_error (by decide)
    · apply (reconciles_readTransactionPlan _ _ _ _).bind
      intro plan _
      split
      · exact failsWith_error (by decide)
      · apply (reconciles_rollStale _ _ _ _ _).bind
        intro rolled rolls
        have rolled := solvent.same (rollBillingSubscriptions_ok rolls).sameCash
        split
        · exact failsWith_error (by decide)
        · rename_i current _
          split
          · exact failsWith_error (by decide)
          · apply FailsWith.bind
            · unfold extendSubscription
              split
              · exact failsWith_error (by decide)
              · split
                · exact failsWith_error (by decide)
                · apply (reconciles_insertBillingEntitlement _ _ _ _ _ _ _ _).bind
                  intro _ _
                  exact failsWith_ok _
            · intro extended extends'
              exact reconciles_payPlan plan _ (rolled.same (extendSubscription_sameCash extends'))

theorem transactBillingPlan_reconciles (transaction : PlanTransaction)
    (solvent : Solvent db params.userID) :
    FailsWith Reconciles (transactBillingPlan db params transaction) := by
  cases transaction with
  | purchase planID =>
    apply (reconciles_validateBillingWrite _).bind
    intro _ _
    refine failsWith_refuse (by decide) ?_
    intro _
    apply (reconciles_lockBillingAccount _ _).bind
    intro _ _
    apply reconciles_withClaim
    intro operations
    exact reconciles_purchasePlan _ (solvent.same ⟨rfl, rfl⟩)
  | renewal subscriptionID =>
    apply (reconciles_validateBillingWrite _).bind
    intro _ _
    refine failsWith_refuse (by decide) ?_
    intro _
    apply (reconciles_lockBillingAccount _ _).bind
    intro _ _
    apply reconciles_withClaim
    intro operations
    exact reconciles_renewPlan _ (solvent.same ⟨rfl, rfl⟩)

/-! ## Settlements of a solvent user -/

theorem Solvent.not_overdrawn (solvent : Solvent db userID) : ¬ Overdrawn db userID := by
  rintro ⟨charged, lots, short⟩
  obtain ⟨cash, found, reconciled⟩ := solvent
  obtain ⟨account, owner, rfl⟩ := cashOf_eq_some.mp found
  have covers := lots.covers account.balanceUSD account.nextCashLotSequence
  have after := reconciled.debit covers
  have left : 0 ≤ (Cash.debit ⟨account.balanceUSD, account.nextCashLotSequence,
      userLots db userID⟩ charged).held := by
    apply List.sum_nonneg
    intro amount member
    obtain ⟨lot, lotMember, rfl⟩ := List.mem_map.mp member
    exact (after.bounded lot lotMember).1
  rw [Cash.held_debit covers, ← reconciled.balance] at left
  have less := short account owner
  dsimp only at left
  omega

/-- The errors other than the one of an account that cannot pay its cash charges. -/
def Affords (err : StoreError) : Prop := err ≠ .notFound "debit billing account"

instance (err : StoreError) : Decidable (Affords err) :=
  inferInstanceAs (Decidable (err ≠ _))

theorem affords_of_chargeError {α : Type} {x : Except StoreError α}
    (fails : FailsWith ChargeError x) : FailsWith Affords x := by
  refine fails.imp ?_
  rintro err charging rfl
  exact charging rfl

theorem affords_chargeUsage (usage : UsageRequest) (now : Time)
    (solvent : Solvent db reservation.userID) :
    FailsWith Affords (chargeUsage db reservation usage now) := by
  refine (chargeUsage_failsWith usage now).imp ?_
  rintro err (charging | ⟨-, overdrawn⟩)
  · rintro rfl
    exact charging rfl
  · exact absurd overdrawn solvent.not_overdrawn

theorem affords_lockLayerCandidates (db : Db) (requestID : Text) :
    FailsWith Affords (lockLayerCandidates db requestID) := by
  unfold lockLayerCandidates
  apply FailsWith.bind
  · unfold readFundingLayers
    dsimp only
    split
    · exact failsWith_error (by decide)
    · exact failsWith_ok _
  · intro layers _
    apply (affords_of_chargeError (chargeError_terminalUsage (by decide) _)).bind
    intro usage _
    apply (failsWith_forM fun layer _ =>
      affords_of_chargeError (chargeError_lockBoundGroupPeriod _ _)).bind
    intro _ _
    exact failsWith_ok _

theorem affords_bindSettlementLayer (db : Db) (reservation : BillingReservation)
    (candidates : List GroupLayer) (personal : Bool) :
    FailsWith Affords (bindSettlementLayer db reservation candidates personal) := by
  unfold bindSettlementLayer
  apply (affords_of_chargeError (chargeError_fundedCandidate _ _)).bind
  intro funded _
  refine failsWith_refuse (by decide) fun _ => ?_
  refine failsWith_refuse (by decide) fun _ => ?_
  exact failsWith_ok _

theorem settleBilling_affords {requestID : Text} (now : Time)
    (found : db.reservations.find? requestID = some reservation)
    (solvent : Solvent db reservation.userID) :
    FailsWith Affords (settleBilling db requestID now) := by
  unfold settleBilling
  refine failsWith_refuse (by decide) fun _ => ?_
  rw [found]
  dsimp only
  have locks : FailsWith Affords
      (lockBoundGroupPeriod db reservation.groupID reservation.groupPeriodID) :=
    affords_of_chargeError (chargeError_lockBoundGroupPeriod _ _)
  have usages : FailsWith Affords (terminalUsage db "read terminal usage for billing" requestID) :=
    affords_of_chargeError (chargeError_terminalUsage (by decide) _)
  split
  · split
    · apply (affords_lockLayerCandidates db requestID).bind
      intro candidates _
      apply usages.bind
      intro usage _
      apply (affords_bindSettlementLayer _ _ _ _).bind
      rintro ⟨bound, row⟩ binds
      obtain ⟨funded, -, -, rowEq, boundEq⟩ := bindSettlementLayer_ok binds
      have sameUser : row.userID = reservation.userID := by rw [rowEq]
      have sameCash : SameCash db bound := ⟨by rw [boundEq], by rw [boundEq]⟩
      exact affords_chargeUsage usage now (sameUser ▸ solvent.same sameCash)
    · apply locks.bind
      intro _ _
      apply usages.bind
      intro usage _
      exact affords_chargeUsage usage now solvent
  · exact locks.bind fun _ _ => failsWith_ok _
  · apply locks.bind
    intro _ _
    exact failsWith_error (by decide)

/-! ## Runs -/

/-- The operations on cash, and every other write, which leaves cash alone. -/
inductive CashOp where
  | recharge (params : RechargeUserParams)
  | adjust (params : AdjustUserBalanceParams)
  | purchase (params : PlanTransactionParams) (planID : PlanID)
  | renew (params : PlanTransactionParams) (subscriptionID : SubscriptionID)
  | reserve (params : BillingReservationParams) (fresh : FreshPeriods)
  | settle (requestID : Text) (now : Time)
  | elsewhere (write : Db → Db) (keeps : ∀ db userID, cashOf (write db) userID = cashOf db userID)

section Run

variable (structureDigest : Config.ModelPriceStructure → Text)

def CashOp.apply (op : CashOp) (db : Db) : Except StoreError Db :=
  match op with
  | .recharge params => (rechargeUser db params).map Prod.fst
  | .adjust params => (adjustUserBalance db params).map Prod.fst
  | .purchase params planID => (purchaseBillingPlan db params planID).map Prod.fst
  | .renew params subscriptionID =>
    (renewBillingSubscription db params subscriptionID).map Prod.fst
  | .reserve params fresh => (reserveBilling structureDigest db params fresh).map Prod.fst
  | .settle requestID now => (settleBilling db requestID now).map Prod.fst
  | .elsewhere write _ => .ok (write db)

/-- The database after a list of operations; those that fail change nothing. -/
def cashRun (db : Db) (ops : List CashOp) : Db :=
  Transaction.run (fun db op => Transaction.commit (op.apply structureDigest) db) db ops

theorem CashOp.cashStep {op : CashOp} (ok : op.apply structureDigest db = .ok db') :
    CashStep db db' := by
  cases op with
  | recharge params =>
    obtain ⟨⟨_, entry⟩, done, rfl⟩ := Except.map_eq_ok.mp ok
    exact rechargeUser_cashStep done
  | adjust params =>
    obtain ⟨⟨_, entry⟩, done, rfl⟩ := Except.map_eq_ok.mp ok
    exact adjustUserBalance_cashStep done
  | purchase params planID =>
    obtain ⟨⟨_, entry⟩, done, rfl⟩ := Except.map_eq_ok.mp ok
    exact transactBillingPlan_cashStep done
  | renew params subscriptionID =>
    obtain ⟨⟨_, entry⟩, done, rfl⟩ := Except.map_eq_ok.mp ok
    exact transactBillingPlan_cashStep done
  | reserve params fresh =>
    obtain ⟨⟨_, reservation, layers⟩, done, rfl⟩ := Except.map_eq_ok.mp ok
    exact reserveBilling_cashStep done
  | settle requestID now =>
    obtain ⟨⟨_, settled⟩, done, rfl⟩ := Except.map_eq_ok.mp ok
    exact settleBilling_cashStep done
  | elsewhere write keeps =>
    cases ok
    intro userID cash found
    exact ⟨cash, (keeps db userID).trans found, .idle⟩

theorem Solvent.cashRun (start : Solvent db userID) (ops : List CashOp) :
    Solvent (cashRun structureDigest db ops) userID := by
  apply Transaction.run_preserves (P := fun db => Solvent db userID) start
  intro db op before
  apply Transaction.commit_preserves (P := fun db => Solvent db userID) before
  intro db' ok
  exact before.step (CashOp.cashStep structureDigest ok)

theorem solvent_of_fresh
    (found : db.accounts.find? userID = some account) (balance : account.balanceUSD = 0)
    (noLots : ∀ lot ∈ db.cashLots.rows, lot.userID ≠ userID) : Solvent db userID := by
  have none' : userLots db userID = [] := by
    apply List.filter_eq_nil_iff.mpr
    intro lot member
    simpa using noLots lot member
  refine ⟨_, cashOf_eq_some.mpr ⟨account, found, rfl⟩, ?_⟩
  rw [none', balance]
  exact ⟨rfl, by simp, by simp, by simp⟩

/-- From a fresh account on, the cash of a user is reconciled after every run, and no
operation on it fails for want of lots or of balance. -/
theorem cashRun_reconciled {db : Db} {userID : UserID} {account : BillingAccount}
    (found : db.accounts.find? userID = some account) (balance : account.balanceUSD = 0)
    (noLots : ∀ lot ∈ db.cashLots.rows, lot.userID ≠ userID) (ops : List CashOp) :
    (∃ cash, cashOf (cashRun structureDigest db ops) userID = some cash ∧ cash.Reconciled) ∧
      (∀ params : AdjustUserBalanceParams, params.userID = userID →
        adjustUserBalance (cashRun structureDigest db ops) params ≠
          .error (.conflict "cash lots do not reconcile with account")) ∧
      (∀ (params : PlanTransactionParams) (planID : PlanID), params.userID = userID →
        purchaseBillingPlan (cashRun structureDigest db ops) params planID ≠
          .error (.conflict "cash lots do not reconcile with account")) ∧
      (∀ (params : PlanTransactionParams) (id : SubscriptionID), params.userID = userID →
        renewBillingSubscription (cashRun structureDigest db ops) params id ≠
          .error (.conflict "cash lots do not reconcile with account")) ∧
      ∀ requestID now reservation,
        (cashRun structureDigest db ops).reservations.find? requestID = some reservation →
        reservation.userID = userID →
        settleBilling (cashRun structureDigest db ops) requestID now ≠
          .error (.notFound "debit billing account") := by
  have solvent := (solvent_of_fresh found balance noLots).cashRun structureDigest ops
  refine ⟨solvent, ?_, ?_, ?_, ?_⟩
  · rintro params rfl failed
    exact adjustUserBalance_reconciles solvent _ failed rfl
  · rintro params planID rfl failed
    have fails : FailsWith Reconciles
        (purchaseBillingPlan (cashRun structureDigest db ops) params planID) :=
      transactBillingPlan_reconciles _ solvent
    exact fails _ failed rfl
  · rintro params id rfl failed
    exact transactBillingPlan_reconciles _ solvent _ failed rfl
  · rintro requestID now reservation owned rfl failed
    exact settleBilling_affords now owned solvent _ failed rfl

end Run

/-! A user without funds, then a recharge of ten dollars and a debit of five. -/

def freshFunds : Db :=
  { Db.empty ⟨10 ^ amountScale, [['m']], true⟩ with
    users := ⟨[⟨1, ['u'], .active⟩], by decide⟩
    accounts := ⟨[⟨1, 0, 1, false, 100, none⟩], by decide⟩ }

def freshOps : List CashOp :=
  [.recharge ⟨⟨1, 9, ['r'], 1⟩, 1, ['1', '0']⟩, .adjust ⟨⟨2, 9, ['r'], 1⟩, 1, ['-', '5']⟩]

theorem cashRun_freshFunds :
    cashOf (cashRun (fun _ => []) freshFunds freshOps) 1 =
        some ⟨5 * 10 ^ amountScale, 2, [⟨1, 1, 1, 10 * 10 ^ amountScale, 5 * 10 ^ amountScale⟩]⟩ ∧
      ∃ cash, cashOf (cashRun (fun _ => []) freshFunds freshOps) 1 = some cash ∧
        cash.Reconciled := by
  refine ⟨by decide +kernel, ?_⟩
  have found : freshFunds.accounts.find? 1 = some ⟨1, 0, 1, false, 100, none⟩ := rfl
  exact (cashRun_reconciled (fun _ => []) found rfl (by decide) freshOps).1

end Store
