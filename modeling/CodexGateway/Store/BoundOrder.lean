import CodexGateway.Store.Settled

/-! # The settlement waterfall

The sources that a reservation binds, in the order in which they pay: the chosen
group, then the subscription periods and cash lots in admission order. A
settlement drains them in this order and touches nothing else.
-/

namespace Store

section Holdings

variable {db : Db} {reservation : BillingReservation} {charge : Charge}

theorem groupHoldings_spec (member : charge ∈ groupHoldings db reservation) :
    ∃ id period, charge = (.group id, groupHeld db reservation.userID period) ∧
      reservation.groupPeriodID = some id ∧ db.groupPeriods.find? id = some period := by
  unfold groupHoldings at member
  split at member
  · rename_i groupID periodID _ bound
    split at member
    · split at member
      · rename_i period found
        exact ⟨periodID, period, List.mem_singleton.mp member, bound, (candidatePeriod_ok found).1⟩
      · cases member
    · cases member
  · cases member

end Holdings

/-! ## One waterfall -/

section Settlement

variable {db db' : Db} {reservation settled : BillingReservation} {now : Time} {cost : Int}
  {group personal : List Charge} {charge : UsageCharge}

theorem taken_isGroup (id : PeriodID) (charged : List Charge) :
    taken (AllocationSource.isGroup id) charged = Waterfall.given (.group id) charged := by
  unfold taken Waterfall.given
  congr 2
  funext charge
  cases charge.1 <;> simp [AllocationSource.isGroup]

variable (charged : UsageCharged db reservation now db' settled cost group personal charge)
include charged

variable (rule : reservation.fundingRuleVersion = 3 ∨ reservation.fundingRuleVersion = 4)
include rule

end Settlement

/-! ## The outcome -/

section Outcome

variable {db db' : Db} {reservation settled : BillingReservation} {now : Time} {cost : Int}
  {group personal : List Charge} {charge : UsageCharge}
  (charged : UsageCharged db reservation now db' settled cost group personal charge)
  (rule : reservation.fundingRuleVersion = 3 ∨ reservation.fundingRuleVersion = 4)

include charged rule

end Outcome

private def usd (dollars : Int) : Int := dollars * 10 ^ Billing.amountScale

def sampleUsage : UsageRequest where
  requestID := ['r']
  userID := 1
  deviceID := 1
  apiKeyID := 1
  model := ['m']
  endpoint := .responses
  requestedAt := 0
  firstTokenAt := none
  completedAt := some 1
  state := .completed
  httpStatus := some 200
  errorCode := none
  metrics := ⟨⟨1000000, 0, 0, false, 0, 0, false, 0, 0⟩, by decide⟩
  requestBytes := 0
  responseBytes := 0
  upstreamRequestID := none
  upstreamAccountID := none
  actualServiceTier := none
  conversationHash := none
  pricingServiceTier := none
  contextClass := none
  pricingFallbackReason := none

def sampleReservation : BillingReservation where
  requestID := ['r']
  userID := 1
  apiKeyID := 1
  model := ['m']
  inputUSDPerMillion := some (usd 3)
  cachedInputUSDPerMillion := some (usd 1)
  outputUSDPerMillion := some (usd 1)
  pricingRuleVersion := 1
  billingMode := .legacy
  pricingSnapshot := .empty
  pricingMultiplier := usd 1
  fundingRuleVersion := 3
  groupID := some 5
  groupPeriodID := some 6
  dayPeriodID := none
  weekPeriodID := none
  monthPeriodID := none
  cashLotCutoff := none
  orderedFundingSources := [⟨.cash, none, none, 1, 0, 0, []⟩]
  createdAt := 0
  state := .reserved

def sampleDb : Db :=
  { Db.empty ⟨usd 1, [], true⟩ with
    accounts := ⟨[⟨1, usd 5, 3, false, 0, none⟩, ⟨2, usd 5, 3, false, 0, none⟩], by decide⟩
    cashLots := {
      rows := [⟨1, 1, 1, usd 1, usd 1⟩, ⟨2, 1, 2, usd 4, usd 4⟩]
      unique := by decide
      next := 3
      fresh := by decide }
    groups := ⟨[⟨5, ['g'], usd 10, none, .day, 0, 0, some 6, none, 0, 1, none, [], false⟩],
      List.nodup_singleton 5⟩
    groupPeriods := ⟨[⟨6, 5, 0, day, usd 10, 0, some (usd 1), none⟩], List.nodup_singleton 6⟩
    usage := ⟨[sampleUsage, { sampleUsage with requestID := ['s'], userID := 2 }], by decide⟩
    reservations := ⟨[sampleReservation,
      { sampleReservation with requestID := ['s'], userID := 2 }], by decide⟩ }

end Store
