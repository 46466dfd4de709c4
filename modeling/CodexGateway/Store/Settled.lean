import CodexGateway.Store.Charging

/-! # What a settlement does

The transaction of a settlement taken apart once: `UsageCharged` lists what it
charges, what it writes and what it leaves alone. Everything said about settled
requests is derived from it.
-/

namespace Store

open Billing
open Except (bind_eq_ok check_bind_eq_ok refuse_eq_ok ok_bind)

variable {db db' : Db} {requestID : Text} {reservation settled : BillingReservation} {now : Time}

structure UsageRequest.Repriced (row row' : UsageRequest) : Prop where
  tokens : row'.metrics.val.inputTokens = row.metrics.val.inputTokens ∧
    row'.metrics.val.outputTokens = row.metrics.val.outputTokens
  rest : { row' with
    metrics := row.metrics
    pricingServiceTier := row.pricingServiceTier
    contextClass := row.contextClass
    pricingFallbackReason := row.pricingFallbackReason } = row

theorem UsageRequest.Repriced.refl (row : UsageRequest) : row.Repriced row := ⟨⟨rfl, rfl⟩, rfl⟩

/-- At most the pricing columns of one request changed. -/
structure UsageRepriced (requestID : Text) (t t' : Table UsageRequest.requestID) : Prop where
  own : ∀ row, t.find? requestID = some row → ∃ row', t'.find? requestID = some row' ∧
    row.Repriced row'
  others : ∀ id, id ≠ requestID → t'.find? id = t.find? id

theorem UsageRepriced.refl (requestID : Text) (t : Table UsageRequest.requestID) :
    UsageRepriced requestID t t :=
  ⟨fun row found => ⟨row, found, .refl row⟩, fun _ _ => rfl⟩

theorem recordPricingDecision_ok {priced : PricedUsage}
    (ok : recordPricingDecision db requestID priced = .ok db') :
    db' = { db with usage := db'.usage } ∧ UsageRepriced requestID db.usage db'.usage := by
  unfold recordPricingDecision at ok
  split at ok
  · cases ok
    exact ⟨rfl, .refl _ _⟩
  · split at ok
    · cases ok
      exact ⟨rfl, .refl _ _⟩
    · rename_i usage found
      dsimp only at ok
      split at ok
      · cases ok
        refine ⟨rfl, ?_, ?_⟩
        · intro row rowFound
          cases found.symm.trans rowFound
          rw [Table.find?_modify, if_pos rfl, found, Option.map_some]
          exact ⟨_, rfl, ⟨rfl, rfl⟩, rfl⟩
        · intro id other
          rw [Table.find?_modify, if_neg other]
      · cases ok

variable {balanceAfter cashCharged : Int} {charge : UsageCharge} {usage : UsageRequest}

theorem debitAccount_ok {userID : UserID}
    (ok : debitAccount db userID cashCharged = .ok (db', balanceAfter)) :
    ∃ account, db.accounts.find? userID = some account ∧ cashCharged ≤ account.balanceUSD ∧
      balanceAfter = account.balanceUSD - cashCharged ∧
      db' = { db with
        accounts := db.accounts.modify userID
          (fun row => { row with balanceUSD := row.balanceUSD - cashCharged }) (fun _ => rfl) } := by
  unfold debitAccount at ok
  split at ok
  · cases ok
  · rename_i account found
    split at ok
    · cases ok
      exact ⟨account, found, ‹_›, rfl, rfl⟩
    · cases ok

theorem recordUsageCharge_ok
    (ok : recordUsageCharge db reservation charge cashCharged balanceAfter = .ok db') :
    db.ledger.rows.any (·.charges reservation.requestID) = false ∧
      db' = { db with
        ledger := db.ledger.insert
          (fun id => ⟨id, reservation.userID, none, .usageCharge reservation.requestID charge,
            charge.actualCostUSD, -cashCharged, some balanceAfter⟩) (fun _ => rfl) } := by
  unfold recordUsageCharge at ok
  obtain ⟨fresh, ok⟩ := refuse_eq_ok.mp ok
  cases ok
  exact ⟨by simpa using fresh, rfl⟩

theorem countLegacyGroupUsage_ok {cost : Int}
    (ok : countLegacyGroupUsage db reservation cost = .ok db') :
    db' = { db with groupPeriods := db'.groupPeriods } ∧
      (reservation.fundingRuleVersion ≠ 1 → db' = db) := by
  unfold countLegacyGroupUsage at ok
  split at ok
  · cases ok
    exact ⟨rfl, fun _ => rfl⟩
  · split at ok
    · rename_i legacy
      split at ok
      · cases ok
        exact ⟨rfl, fun _ => rfl⟩
      · rw [addGroupUsage_ok ok]
        exact ⟨rfl, fun later => absurd legacy later⟩
    · cases ok
      exact ⟨rfl, fun _ => rfl⟩

theorem settleReservation_ok (ok : settleReservation db requestID charge now = .ok (db', settled)) :
    ∃ row, db.reservations.find? requestID = some row ∧
      settled = { row with state := .settled charge now } ∧
      db' = { db with
        reservations := db.reservations.modify requestID
          (fun row => { row with state := .settled charge now }) (fun _ => rfl) } := by
  unfold settleReservation at ok
  split at ok
  · cases ok
  · rename_i row found
    cases ok
    exact ⟨row, found, rfl, rfl⟩

/-! ## Charging the usage of a request -/

/-- The second database differs from the first in the tables that a settlement
writes. -/
def SettlesOnly (db db' : Db) : Prop :=
  db' = { db with
    allocations := db'.allocations
    cashLots := db'.cashLots
    subscriptionPeriods := db'.subscriptionPeriods
    groupPeriods := db'.groupPeriods
    memberUsage := db'.memberUsage
    accounts := db'.accounts
    ledger := db'.ledger
    reservations := db'.reservations
    usage := db'.usage }

/-- What settling a reservation for a cost does: the charges to its group and to
its personal sources, and the rows they end up in. -/
structure UsageCharged (db : Db) (reservation : BillingReservation) (now : Time) (db' : Db)
    (settled : BillingReservation) (cost : Int) (group personal : List Charge)
    (charge : UsageCharge) : Prop where
  cost_nonneg : 0 ≤ cost
  group_eq : group = Waterfall.charges cost (groupHoldings db reservation)
  personal_eq : ∀ sources, billingSettlementSources reservation = .ok sources →
    sources.Pairwise FundingSource.Apart →
    personal = Waterfall.charges (cost - Waterfall.total group)
      (sources.flatMap (sourceHoldings db reservation.userID))
  sources : ∃ sources, billingSettlementSources reservation = .ok sources
  lotsCharged : LotsCharged reservation.userID db.cashLots.rows personal
  actual : charge.actualCostUSD = cost
  charged : charge.chargedUSD = Waterfall.total group + Waterfall.total personal
  uncovered : charge.uncoveredUSD = cost - Waterfall.total group - Waterfall.total personal
  groupCharged : charge.groupChargedUSD = Waterfall.total group
  personalCharged : charge.personalChargedUSD = Waterfall.total personal
  allocations : db'.allocations.rows =
    (allocationRows reservation.requestID 0 (group ++ personal)).reverse ++ db.allocations.rows
  lots : db'.cashLots.rows = db.cashLots.rows.map (CashLot.debited personal)
  periods : db'.subscriptionPeriods.rows =
    db.subscriptionPeriods.rows.map (SubscriptionPeriod.debited personal)
  groupPeriods : reservation.fundingRuleVersion ≠ 1 →
    db'.groupPeriods.rows = db.groupPeriods.rows.map (GroupPeriod.debited group)
  members : ∀ periodID member, memberUsed db' periodID member =
    memberUsed db periodID member +
      if member = reservation.userID then taken (AllocationSource.isGroup periodID) group else 0
  memberTotals : ∀ periodID, memberTotal db' periodID =
    memberTotal db periodID + taken (AllocationSource.isGroup periodID) group
  account : ∃ account, db.accounts.find? reservation.userID = some account ∧
    taken AllocationSource.isCash personal ≤ account.balanceUSD ∧
    db'.accounts = db.accounts.modify reservation.userID
      (fun row => { row with
        balanceUSD := row.balanceUSD - taken AllocationSource.isCash personal }) (fun _ => rfl)
  uncharged : db.ledger.rows.any (·.charges reservation.requestID) = false
  ledger : ∃ entry, db'.ledger.rows = entry :: db.ledger.rows ∧
    entry.userID = reservation.userID ∧
    entry.kind = .usageCharge reservation.requestID charge ∧
    entry.cashDeltaUSD = -taken AllocationSource.isCash personal
  reservations : ∃ row, db.reservations.find? reservation.requestID = some row ∧
    settled = { row with state := .settled charge now } ∧
    db'.reservations = db.reservations.modify reservation.requestID
      (fun row => { row with state := .settled charge now }) (fun _ => rfl)
  usage : UsageRepriced reservation.requestID db.usage db'.usage
  frame : SettlesOnly db db'

theorem chargeUsage_ok (ok : chargeUsage db reservation usage now = .ok (db', settled)) :
    ∃ priced cost group personal charge, priceUsage reservation usage = .ok priced ∧
      priced.cost = numericText cost ∧
      UsageCharged db reservation now db' settled cost group personal charge ∧
      recordPricingDecision db reservation.requestID priced = .ok { db with usage := db'.usage } := by
  obtain ⟨priced, computed, ok⟩ := bind_eq_ok.mp ok
  obtain ⟨priceDb, decided, ok⟩ := bind_eq_ok.mp ok
  obtain ⟨⟨⟨groupDb, order₁, remaining₁, charged₁, cash₁⟩, groupCharged⟩, paid, ok⟩ :=
    bind_eq_ok.mp ok
  obtain ⟨sources, bound, ok⟩ := bind_eq_ok.mp ok
  obtain ⟨⟨sourcesDb, order₂, remaining₂, charged₂, cash₂⟩, drained, ok⟩ := bind_eq_ok.mp ok
  obtain ⟨personalCharged, subtracted, ok⟩ := bind_eq_ok.mp ok
  obtain ⟨⟨accountDb, balanceAfter⟩, debited, ok⟩ := bind_eq_ok.mp ok
  obtain ⟨ledgerDb, entered, ok⟩ := bind_eq_ok.mp ok
  obtain ⟨countedDb, counted, ok⟩ := bind_eq_ok.mp ok
  obtain ⟨cost, nonneg, -, costText⟩ := priceUsage_isCost computed
  obtain ⟨repriced, usageRows⟩ := recordPricingDecision_ok decided
  have start : Charges.Shows ⟨priceDb, 0, priced.cost, numericText 0, numericText 0⟩ cost 0 0 :=
    ⟨costText, rfl, rfl⟩
  obtain ⟨groupStep, groupText⟩ := chargeGroup_charged start paid
  have afterGroup := groupStep.shows cost start
  obtain ⟨personal, step, lots⟩ := chargeSources_lotsCharged afterGroup drained
  obtain ⟨remainingEq, chargedEq, cashEq⟩ := step.shows _ _ _ afterGroup
  dsimp only at remainingEq chargedEq cashEq
  have unique apart := step.unique (chargeSources_charged afterGroup apart drained)
  obtain ⟨account, owner, enough, -, accountEq⟩ := debitAccount_ok debited
  obtain ⟨uncharged, ledgerEq⟩ := recordUsageCharge_ok entered
  obtain ⟨countedEq, notLegacy⟩ := countLegacyGroupUsage_ok counted
  obtain ⟨row, reserved, settledEq, settledDb⟩ := settleReservation_ok ok
  have cash : numeric cash₂ = taken AllocationSource.isCash personal := by
    rw [cashEq, numeric_numericText, zero_add]
  dsimp only at enough accountEq
  rw [cash] at enough accountEq
  -- every database is the one before it but for the tables that its step writes
  rw [repriced] at decided
  clear paid drained debited entered counted ok
  obtain ⟨repricedUsage, rfl⟩ : ∃ rows, priceDb = { db with usage := rows } := ⟨_, repriced⟩
  obtain ⟨groupPeriods, memberUsage, groupAllocations, rfl⟩ : ∃ periods members allocations,
      groupDb = { db with
        usage := repricedUsage, groupPeriods := periods, memberUsage := members, allocations } :=
    ⟨_, _, _, groupStep.frame⟩
  obtain ⟨cashLots, periods, allocations, rfl⟩ : ∃ cashLots periods allocations,
      sourcesDb = { db with
        usage := repricedUsage, groupPeriods, memberUsage, cashLots, allocations
        subscriptionPeriods := periods } :=
    ⟨_, _, _, step.frame⟩
  obtain ⟨countedPeriods, rfl⟩ : ∃ periods, countedDb = { ledgerDb with groupPeriods := periods } :=
    ⟨_, countedEq⟩
  subst accountEq ledgerEq settledDb
  refine ⟨priced, cost, Waterfall.charges cost (groupHoldings db reservation), personal,
    usageCharge usage priced ⟨db, order₂, remaining₂, charged₂, cash₂⟩ groupCharged personalCharged,
    computed, costText, ?_, decided⟩
  exact {
    cost_nonneg := nonneg
    group_eq := rfl
    personal_eq := by
      intro sources' bound' apart
      cases bound.symm.trans bound'
      exact unique apart
    sources := ⟨sources, bound⟩
    lotsCharged := lots
    actual := by rw [usageCharge, costText]; exact numeric_numericText cost
    charged := by rw [usageCharge, chargedEq]; exact numeric_numericText _
    uncovered := by rw [usageCharge, remainingEq]; exact numeric_numericText _
    groupCharged := by rw [usageCharge, groupText]; exact numeric_numericText _
    personalCharged := by
      rw [chargedEq, groupText, billingSubtract_numericText, add_sub_cancel_left]
        at subtracted
      rw [usageCharge, ← Except.ok.inj subtracted]
      exact numeric_numericText _
    allocations := by
      rw [step.allocations, groupStep.allocations, groupStep.order, allocationRows_append,
        List.reverse_append, List.append_assoc]
      rfl
    lots := step.lots
    periods := step.periods
    groupPeriods := fun modern =>
      (congrArg (·.groupPeriods.rows) (notLegacy modern)).trans groupStep.periods
    members := groupStep.members
    memberTotals := groupStep.memberTotals
    account := ⟨account, owner, enough, rfl⟩
    uncharged := uncharged
    ledger := ⟨_, rfl, rfl, rfl, congrArg Neg.neg cash⟩
    reservations := ⟨row, reserved, settledEq, rfl⟩
    usage := usageRows
    frame := rfl }

/-! ## The transaction -/

/-- The layer that a rule 4 settlement binds, among the candidates of the serving
account. -/
def boundLayer (db : Db) (requestID : Text) (userID : UserID) :
    Except StoreError (Option GroupLayer) := do
  let candidates ← lockLayerCandidates db requestID
  let funded ← fundedCandidate db userID candidates.groups
  return funded.or candidates.groups.head?

/-- Settling a request that was still reserved: the group that pays is bound, and
the terminal usage is charged. -/
structure SettledNow (db : Db) (reservation : BillingReservation) (now : Time) (db' : Db)
    (settled : BillingReservation) where
  bound : BillingReservation
  reservations : Table BillingReservation.requestID
  usage : UsageRequest
  priced : PricedUsage
  cost : Int
  group : List Charge
  personal : List Charge
  charge : UsageCharge
  reserved : reservation.state = .reserved
  binds : bound = { reservation with
    groupID := bound.groupID, groupPeriodID := bound.groupPeriodID }
  layer : reservation.fundingRuleVersion = 4 →
    ∃ layer, boundLayer db reservation.requestID reservation.userID = .ok layer ∧
      bound.groupID = layer.map GroupLayer.groupID ∧
      bound.groupPeriodID = layer.map GroupLayer.groupPeriodID
  unbound : reservation.fundingRuleVersion ≠ 4 → bound = reservation
  found : ∀ id, reservations.find? id =
    if id = reservation.requestID then some bound else db.reservations.find? id
  terminal : db.usage.find? reservation.requestID = some usage
  complete : usage.state ≠ .inProgress
  price : priceUsage bound usage = .ok priced
  costs : priced.cost = numericText cost
  charged : UsageCharged { db with reservations } bound now db' settled cost group personal charge

theorem terminalUsage_ok {context : String} (ok : terminalUsage db context requestID = .ok usage) :
    db.usage.find? requestID = some usage ∧ usage.state ≠ .inProgress := by
  unfold terminalUsage at ok
  cases found : db.usage.find? requestID with
  | none =>
    rw [found] at ok
    cases ok
  | some row =>
    rw [found] at ok
    dsimp only at ok
    split at ok
    · cases ok
    · cases ok
      exact ⟨rfl, ‹_›⟩

theorem bindSettlementLayer_ok {bound : BillingReservation} {candidates : List GroupLayer}
    {personal : Bool}
    (ok : bindSettlementLayer db reservation candidates personal = .ok (db', bound)) :
    ∃ funded, fundedCandidate db reservation.userID candidates = .ok funded ∧
      ¬ (funded.or candidates.head? = none ∧ personal = false) ∧
      bound = { reservation with
        groupID := (funded.or candidates.head?).map GroupLayer.groupID
        groupPeriodID := (funded.or candidates.head?).map GroupLayer.groupPeriodID } ∧
      db' = { db with
        reservations := db.reservations.modify reservation.requestID
          (fun row => { row with groupID := bound.groupID, groupPeriodID := bound.groupPeriodID })
          (fun _ => rfl) } := by
  obtain ⟨funded, chosen, ok⟩ := bind_eq_ok.mp ok
  dsimp only at ok
  obtain ⟨payable, ok⟩ := refuse_eq_ok.mp ok
  obtain ⟨_, ok⟩ := refuse_eq_ok.mp ok
  cases ok
  exact ⟨funded, chosen, payable, rfl, rfl⟩

/-- A settlement either replays, and changes nothing, or charges the request now. -/
theorem settleBilling_ok (ok : settleBilling db requestID now = .ok (db', settled)) :
    ∃ reservation, db.reservations.find? requestID = some reservation ∧
      ((∃ charge at', reservation.state = .settled charge at' ∧ db' = db ∧ settled = reservation) ∨
        Nonempty (SettledNow db reservation now db' settled)) := by
  unfold settleBilling at ok
  obtain ⟨-, ok⟩ := refuse_eq_ok.mp ok
  cases found : db.reservations.find? requestID with
  | none =>
    rw [found] at ok
    cases ok
  | some reservation =>
    have named : reservation.requestID = requestID := Table.key_of_find? found
    refine ⟨reservation, rfl, ?_⟩
    rw [found] at ok
    dsimp only at ok
    split at ok
    · rename_i reserved
      right
      split at ok
      · rename_i rule
        obtain ⟨candidates, locked, ok⟩ := bind_eq_ok.mp ok
        obtain ⟨usage, terminal, ok⟩ := bind_eq_ok.mp ok
        obtain ⟨⟨boundDb, bound⟩, binding, ok⟩ := bind_eq_ok.mp ok
        obtain ⟨row, complete⟩ := terminalUsage_ok terminal
        obtain ⟨funded, chosen, -, boundEq, dbEq⟩ := bindSettlementLayer_ok binding
        obtain ⟨priced, cost, group, personal, charge, price, costs, charged, -⟩ :=
          chargeUsage_ok ok
        rw [dbEq] at charged
        refine ⟨⟨bound, _, usage, priced, cost, group, personal, charge, reserved,
          by rw [boundEq], fun _ => ⟨funded.or candidates.groups.head?, ?_, by rw [boundEq],
            by rw [boundEq]⟩, fun other => absurd rule other, ?_, by rw [named]; exact row,
          complete, price, costs, charged⟩⟩
        · rw [named, boundLayer, locked, ok_bind, chosen, ok_bind]
          rfl
        · intro id
          rw [Table.find?_modify, named, found, boundEq]
          rfl
      · rename_i rule
        obtain ⟨_, ok⟩ := check_bind_eq_ok.mp ok
        obtain ⟨usage, terminal, ok⟩ := bind_eq_ok.mp ok
        obtain ⟨row, complete⟩ := terminalUsage_ok terminal
        obtain ⟨priced, cost, group, personal, charge, price, costs, charged, -⟩ :=
          chargeUsage_ok ok
        refine ⟨⟨reservation, db.reservations, usage, priced, cost, group, personal, charge,
          reserved, rfl, fun other => absurd other rule, fun _ => rfl, ?_,
          by rw [named]; exact row, complete, price, costs, charged⟩⟩
        intro id
        by_cases same : id = reservation.requestID
        · rw [if_pos same, same, named, found]
        · rw [if_neg same]
    · rename_i charge at' state
      obtain ⟨_, ok⟩ := check_bind_eq_ok.mp ok
      cases ok
      exact .inl ⟨charge, at', state, rfl, rfl⟩
    · obtain ⟨_, ok⟩ := check_bind_eq_ok.mp ok
      cases ok

end Store
