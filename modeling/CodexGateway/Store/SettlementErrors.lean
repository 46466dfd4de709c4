import CodexGateway.Store.Settled

/-! # How a settlement can fail

The errors of a settlement, function by function. Conflicts are few and known by
their texts, and the account is only refused when the lots hold more than its
balance.
-/

namespace Store

open Billing

variable {context : String}

/-- The conflicts that charging a locked reservation can end in. -/
def chargeConflicts : List String :=
  ["record group charge allocation", "record subscription charge allocation",
    "record cash charge allocation", "record usage billing ledger",
    "invalid subscription funding snapshot", "invalid cash funding snapshot",
    "duplicate funding source", "unknown funding source", "unknown funding rule version"]

/-- The errors of charging a locked reservation, up to the debit of the account. -/
def ChargeError : StoreError → Prop
  | .invalid _ => True
  | .notFound text => text ≠ "debit billing account"
  | .other _ => True
  | .conflict text => text ∈ chargeConflicts
  | _ => False

section Errors

open Except

variable {db : Db} {reservation : BillingReservation} {c : Charges}

theorem chargeError_conflict {α : Type} {text : String} (listed : text ∈ chargeConflicts) :
    FailsWith ChargeError (.error (.conflict text) : Except StoreError α) :=
  failsWith_error listed

theorem chargeError_billingRat (value : Text) : FailsWith ChargeError (billingRat value) := by
  unfold billingRat
  split
  · exact failsWith_ok _
  · exact failsWith_error trivial

theorem chargeError_billingMin (left right : Text) :
    FailsWith ChargeError (billingMin left right) :=
  (chargeError_billingRat left).bind fun _ _ => (chargeError_billingRat right).bind fun _ _ =>
    failsWith_ok _

theorem chargeError_billingSubtract (left right : Text) :
    FailsWith ChargeError (billingSubtract left right) :=
  (chargeError_billingRat left).bind fun _ _ => (chargeError_billingRat right).bind fun _ _ =>
    failsWith_ok _

theorem chargeError_billingAdd (left right : Text) :
    FailsWith ChargeError (billingAdd left right) :=
  (chargeError_billingRat left).bind fun _ _ => (chargeError_billingRat right).bind fun _ _ =>
    failsWith_ok _

theorem chargeError_checkNumeric (context : String) (units : Int) :
    FailsWith ChargeError (checkNumeric context units) := by
  unfold checkNumeric
  split
  · exact failsWith_ok _
  · exact failsWith_error trivial

theorem chargeError_liftConfig {α : Type} (context : String) (x : Except String α) :
    FailsWith ChargeError (liftConfig context x) := by
  cases x with
  | ok value => exact failsWith_ok _
  | error err => exact failsWith_error trivial

theorem chargeError_priceUsage (usage : UsageRequest) :
    FailsWith ChargeError (priceUsage reservation usage) := by
  unfold priceUsage
  dsimp only
  split
  · exact (chargeError_liftConfig _ _).bind fun _ _ => failsWith_ok _
  · apply (chargeError_liftConfig _ _).bind
    intro snapshot _
    apply (chargeError_liftConfig _ _).bind
    intro decision _
    split
    · exact (chargeError_liftConfig _ _).bind fun _ _ => failsWith_ok _
    · exact (chargeError_liftConfig _ _).bind fun _ _ => failsWith_ok _

theorem chargeError_recordAllocation (listed : context ∈ chargeConflicts) (row : Allocation) :
    FailsWith ChargeError (recordAllocation db context row) := by
  unfold recordAllocation
  split
  · exact chargeError_conflict listed
  · exact failsWith_ok _

theorem chargeError_candidatePeriod (other : context ≠ "debit billing account")
    (groupID : GroupID) (id : PeriodID) :
    FailsWith ChargeError (candidatePeriod db context groupID id) := by
  unfold candidatePeriod
  split
  · exact failsWith_error other
  · split
    · exact failsWith_ok _
    · exact failsWith_error other

theorem chargeError_addGroupUsage (context : String) (period : GroupPeriod) (amount : Int) :
    FailsWith ChargeError (addGroupUsage db context period amount) :=
  (chargeError_checkNumeric _ _).bind fun _ _ => failsWith_ok _

theorem chargeError_addMemberUsage (id : PeriodID) (userID : UserID) (amount : Int) :
    FailsWith ChargeError (addMemberUsage db id userID amount) := by
  unfold addMemberUsage
  split
  · exact failsWith_ok _
  · exact (chargeError_checkNumeric _ _).bind fun _ _ => failsWith_ok _

theorem chargeError_groupAmount (userID : UserID) (period : GroupPeriod) (remaining : Text) :
    FailsWith ChargeError (groupAmount db userID period remaining) := by
  unfold groupAmount
  apply (chargeError_billingMin _ _).bind
  intro _ _
  split
  · exact failsWith_ok _
  · exact chargeError_billingMin _ _

theorem chargeError_chargeGroup : FailsWith ChargeError (chargeGroup reservation c) := by
  unfold chargeGroup
  split
  · split
    · apply (chargeError_candidatePeriod (by decide) _ _).bind
      intro period _
      apply (chargeError_groupAmount _ _ _).bind
      intro amount _
      split
      · apply (chargeError_addGroupUsage _ _ _).bind
        intro _ _
        apply (chargeError_addMemberUsage _ _ _).bind
        intro _ _
        apply (chargeError_recordAllocation (by decide) _).bind
        intro _ _
        exact (chargeError_billingSubtract _ _).bind fun _ _ => failsWith_ok _
      · exact failsWith_ok _
    · exact failsWith_ok _
  · exact failsWith_ok _

theorem chargeError_chargeSubscription (source : FundingSource) :
    FailsWith ChargeError (chargeSubscription reservation source c) := by
  unfold chargeSubscription
  have bound : FailsWith ChargeError (boundPeriod c.db reservation.userID source) := by
    unfold boundPeriod
    dsimp only
    split
    · exact failsWith_error trivial
    · split
      · exact failsWith_error (by decide : "lock bound subscription period" ≠ _)
      · split
        · exact failsWith_ok _
        · exact failsWith_error (by decide : "lock bound subscription period" ≠ _)
  apply bound.bind
  intro period _
  apply (chargeError_billingMin _ _).bind
  intro amount _
  split
  · apply (chargeError_recordAllocation (by decide) _).bind
    intro _ _
    apply (chargeError_billingSubtract _ _).bind
    intro _ _
    exact (chargeError_billingAdd _ _).bind fun _ _ => failsWith_ok _
  · exact failsWith_ok _

theorem chargeError_chargeLots (lots : List CashLot) :
    FailsWith ChargeError (chargeLots reservation lots c) := by
  induction lots generalizing c with
  | nil => exact failsWith_ok _
  | cons lot rest ih =>
    unfold chargeLots
    split
    · apply (chargeError_billingMin _ _).bind
      intro amount _
      split
      · apply (chargeError_recordAllocation (by decide) _).bind
        intro _ _
        apply (chargeError_billingSubtract _ _).bind
        intro _ _
        apply (chargeError_billingAdd _ _).bind
        intro _ _
        exact (chargeError_billingAdd _ _).bind fun _ _ => ih
      · exact ih
    · exact failsWith_ok _

theorem chargeError_chargeSources (sources : List FundingSource) :
    FailsWith ChargeError (chargeSources reservation sources c) := by
  induction sources generalizing c with
  | nil => exact failsWith_ok _
  | cons source rest ih =>
    unfold chargeSources
    split
    · have one : FailsWith ChargeError (chargeSource reservation source c) := by
        unfold chargeSource
        split
        · exact chargeError_chargeLots _
        · exact chargeError_chargeSubscription _
      exact one.bind fun _ _ => ih
    · exact failsWith_ok _

theorem chargeError_validateFundingSnapshot (sources : List FundingSource)
    (seen : List (Option PeriodID)) :
    FailsWith ChargeError (validateFundingSnapshot sources seen) := by
  induction sources generalizing seen with
  | nil => exact failsWith_ok _
  | cons source rest ih =>
    unfold validateFundingSnapshot
    split
    · split
      · exact chargeError_conflict (by decide)
      · split
        · exact chargeError_conflict (by decide)
        · exact ih _
    · split
      · exact chargeError_conflict (by decide)
      · split
        · exact chargeError_conflict (by decide)
        · exact ih _
    · exact chargeError_conflict (by decide)

theorem chargeError_billingSettlementSources :
    FailsWith ChargeError (billingSettlementSources reservation) := by
  unfold billingSettlementSources
  split
  · exact (chargeError_validateFundingSnapshot _ _).bind fun _ _ => failsWith_ok _
  · split
    · exact chargeError_conflict (by decide)
    · exact failsWith_ok _

theorem chargeError_recordPricingDecision (requestID : Text) (priced : PricedUsage) :
    FailsWith ChargeError (recordPricingDecision db requestID priced) := by
  unfold recordPricingDecision
  split
  · exact failsWith_ok _
  · split
    · exact failsWith_ok _
    · dsimp only
      split
      · exact failsWith_ok _
      · exact failsWith_error trivial

theorem chargeError_countLegacyGroupUsage (cost : Int) :
    FailsWith ChargeError (countLegacyGroupUsage db reservation cost) := by
  unfold countLegacyGroupUsage
  split
  · exact failsWith_ok _
  · split
    · split
      · exact failsWith_ok _
      · exact chargeError_addGroupUsage _ _ _
    · exact failsWith_ok _

/-- Some charges to the lots of a user are more than the balance of the account. -/
def Overdrawn (db : Db) (userID : UserID) : Prop :=
  ∃ charged, LotsCharged userID db.cashLots.rows charged ∧
    ∀ account, db.accounts.find? userID = some account →
      account.balanceUSD < taken AllocationSource.isCash charged

/-- The errors of a settlement for a user: the account is refused only if it is
overdrawn. -/
def SettleError (db : Db) (userID : UserID) (err : StoreError) : Prop :=
  ChargeError err ∨ err = .notFound "debit billing account" ∧ Overdrawn db userID

theorem settleError_of_chargeError {α : Type} {userID : UserID} {x : Except StoreError α}
    (fails : FailsWith ChargeError x) : FailsWith (SettleError db userID) x :=
  fails.imp fun _ => .inl

theorem settleError_debitAccount (db : Db) (userID : UserID) (cash : Int) :
    FailsWith (fun err => err = .notFound "debit billing account" ∧
      ∀ account, db.accounts.find? userID = some account → account.balanceUSD < cash)
      (debitAccount db userID cash) := by
  unfold debitAccount
  split
  · rename_i missing
    apply failsWith_error
    refine ⟨rfl, ?_⟩
    intro account found
    rw [missing] at found
    cases found
  · rename_i account found
    split
    · exact failsWith_ok _
    · rename_i short
      apply failsWith_error
      refine ⟨rfl, ?_⟩
      intro other otherFound
      cases found.symm.trans otherFound
      exact not_le.mp short

/-- Everything that can go wrong once the reservation is locked and bound. -/
theorem chargeUsage_failsWith (usage : UsageRequest) (now : Time) :
    FailsWith (SettleError db reservation.userID) (chargeUsage db reservation usage now) := by
  unfold chargeUsage
  apply (settleError_of_chargeError (chargeError_priceUsage _)).bind
  intro priced computed
  apply (settleError_of_chargeError (chargeError_recordPricingDecision _ _)).bind
  intro priceDb decided
  apply (settleError_of_chargeError chargeError_chargeGroup).bind
  rintro ⟨c₁, groupCharged⟩ paid
  apply (settleError_of_chargeError chargeError_billingSettlementSources).bind
  intro sources _
  apply (settleError_of_chargeError (chargeError_chargeSources _)).bind
  intro c₂ drained
  apply (settleError_of_chargeError (chargeError_billingSubtract _ _)).bind
  intro _ _
  have account : FailsWith (SettleError db reservation.userID)
      (debitAccount c₂.db reservation.userID (numeric c₂.cashCharged)) := by
    refine (settleError_debitAccount _ _ _).imp ?_
    rintro err ⟨rfl, short⟩
    obtain ⟨cost, -, -, costText⟩ := priceUsage_isCost computed
    have repriced := (recordPricingDecision_ok decided).1
    have start : Charges.Shows ⟨priceDb, 0, priced.cost, numericText 0, numericText 0⟩ cost 0 0 :=
      ⟨costText, rfl, rfl⟩
    have groupStep := (chargeGroup_charged start paid).1
    have afterGroup := groupStep.shows cost start
    obtain ⟨personal, step, lots⟩ := chargeSources_lotsCharged afterGroup drained
    have afterAll := step.shows _ _ _ afterGroup
    rw [congrArg Db.cashLots groupStep.frame, congrArg Db.cashLots repriced] at lots
    rw [congrArg Db.accounts step.frame, congrArg Db.accounts groupStep.frame,
      congrArg Db.accounts repriced, afterAll.cashCharged, numeric_numericText, zero_add] at short
    exact .inr ⟨rfl, personal, lots, short⟩
  apply account.bind
  intro _ _
  have ledger (db : Db) (charge : UsageCharge) (cash balance : Int) :
      FailsWith ChargeError (recordUsageCharge db reservation charge cash balance) := by
    unfold recordUsageCharge
    split
    · exact chargeError_conflict (by decide)
    · exact failsWith_ok _
  apply (settleError_of_chargeError (ledger _ _ _ _)).bind
  intro _ _
  apply (settleError_of_chargeError (chargeError_countLegacyGroupUsage _)).bind
  intro _ _
  apply settleError_of_chargeError
  unfold settleReservation
  split
  · exact failsWith_error (by decide : "settle billing reservation" ≠ _)
  · exact failsWith_ok _

/-! ## Before charging -/

theorem chargeError_lockGroup (groupID : GroupID) :
    FailsWith ChargeError (lockGroup db groupID) := by
  unfold lockGroup
  split
  · exact failsWith_ok _
  · exact failsWith_error (by decide : "lock group" ≠ _)

theorem chargeError_lockBoundGroupPeriod (groupID : Option GroupID) (periodID : Option PeriodID) :
    FailsWith ChargeError (lockBoundGroupPeriod db groupID periodID) := by
  unfold lockBoundGroupPeriod
  split
  · exact failsWith_ok _
  · apply (chargeError_lockGroup _).bind
    intro _ _
    split
    · exact failsWith_error (by decide : "lock bound group period" ≠ _)
    · split
      · exact failsWith_ok _
      · exact failsWith_error (by decide : "lock bound group period" ≠ _)
  · exact failsWith_error trivial

theorem chargeError_terminalUsage (other : context ≠ "debit billing account") (requestID : Text) :
    FailsWith ChargeError (terminalUsage db context requestID) := by
  unfold terminalUsage
  split
  · exact failsWith_error other
  · split
    · exact failsWith_error other
    · exact failsWith_ok _

theorem chargeError_fundedCandidate (userID : UserID) (candidates : List GroupLayer) :
    FailsWith ChargeError (fundedCandidate db userID candidates) := by
  induction candidates with
  | nil => exact failsWith_ok _
  | cons layer rest ih =>
    unfold fundedCandidate
    apply (chargeError_candidatePeriod (by decide) _ _).bind
    intro period _
    dsimp only
    split
    · exact failsWith_ok _
    · exact ih

end Errors

end Store
