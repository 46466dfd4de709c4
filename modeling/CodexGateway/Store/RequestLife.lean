import CodexGateway.Store.RequestSteps

/-! # The life of one request

What the store holds about one request, and how it changes. A billed request is
reserved, and then either settled or released; every transaction moves it at most one
step along, and never out of its final stage.
-/

namespace Store

open Billing

variable {db db' : Db} {id requestID : Text} {at' now : Time}

inductive Stage where
  | reserved
  | settled
  | released
  deriving Repr, DecidableEq

/-- Everything that the store holds about one request. -/
structure RequestView where
  quota : Option QuotaReservation
  billing : Option BillingReservation
  usage : Option UsageRequest
  charges : List LedgerEntry
  deductions : List Allocation

def viewOf (db : Db) (id : Text) : RequestView where
  quota := db.quotaReservations.find? id
  billing := db.reservations.find? id
  usage := db.usage.find? id
  charges := db.ledger.rows.filter (·.charges id)
  deductions := db.allocations.rows.filter (·.requestID = id)

namespace RequestView

def absent : RequestView := ⟨none, none, none, [], []⟩

/-- One ledger entry and one set of deductions for a charge. -/
structure Charged (id : Text) (v : RequestView) (charge : UsageCharge) : Prop where
  entry : ∃ entry, v.charges = [entry] ∧ entry.kind = .usageCharge id charge
  deductions : ∃ charged, v.deductions = (allocationRows id 0 charged).reverse ∧
    Waterfall.total charged = charge.chargedUSD

end RequestView

/-- The row that a release leaves: cancelled, and without usage. -/
structure UsageRequest.Cancelled (usage : UsageRequest) : Prop where
  state : usage.state = .cancelled
  httpStatus : usage.httpStatus = some 499
  errorCode : usage.errorCode = some reservationReleased
  metrics : usage.metrics.val = noMetrics

namespace RequestView

/-- A billed request stands in a stage: quota and billing agree on it, and the ledger,
the deductions and the usage row are what the stage allows. -/
inductive Stands (id : Text) : RequestView → Stage → Prop
  | reserved {quota : QuotaReservation} {billing : BillingReservation} {usage : UsageRequest}
      (quota_eq : quota.state = .reserved) (billing_eq : billing.state = .reserved)
      (billed : usage.endpoint.billed = true)
      (empty : usage.state = .inProgress → usage.metrics.val = noMetrics) :
      Stands id ⟨some quota, some billing, some usage, [], []⟩ .reserved
  | settled {v : RequestView} {quota : QuotaReservation} {billing : BillingReservation}
      {usage : UsageRequest} {charge : UsageCharge} {quotaAt billingAt : Time} {tokens : Int}
      (hasQuota : v.quota = some quota) (hasBilling : v.billing = some billing)
      (hasUsage : v.usage = some usage)
      (quota_eq : quota.state = .settled tokens quotaAt)
      (billing_eq : billing.state = .settled charge billingAt)
      (billed : usage.endpoint.billed = true) (terminal : usage.state ≠ .inProgress)
      (charged : v.Charged id charge) : Stands id v .settled
  | released {quota : QuotaReservation} {billing : BillingReservation} {usage : UsageRequest}
      {quotaAt billingAt : Time} (quota_eq : quota.state = .released quotaAt)
      (billing_eq : billing.state = .released billingAt)
      (billed : usage.endpoint.billed = true) (cancelled : usage.Cancelled) :
      Stands id ⟨some quota, some billing, some usage, [], []⟩ .released

inductive Unbilled : RequestView → Prop
  | mk {quota : QuotaReservation} {usage : UsageRequest}
      (unbilled : usage.endpoint.billed = false) :
      Unbilled ⟨some quota, none, some usage, [], []⟩

/-- What a request looks like at any time. -/
inductive Lawful (id : Text) (v : RequestView) : Prop
  | absent (nothing : v = .absent)
  | unbilled (free : v.Unbilled)
  | billed {stage : Stage} (stands : v.Stands id stage)

inductive Follows (id : Text) : RequestView → RequestView → Prop
  | same (v : RequestView) : Follows id v v
  | admitted {v : RequestView} (opens : v.Unbilled ∨ v.Stands id .reserved) :
      Follows id .absent v
  | completed {v : RequestView} {usage usage' : UsageRequest} (recorded : v.usage = some usage)
      (progress : usage.state = .inProgress) (terminal : usage'.state ≠ .inProgress)
      (endpoint : usage'.endpoint = usage.endpoint) :
      Follows id v { v with usage := some usage' }
  | settled {v v' : RequestView} {usage : UsageRequest} (before : v.Stands id .reserved)
      (recorded : v.usage = some usage) (terminal : usage.state ≠ .inProgress)
      (after : v'.Stands id .settled) : Follows id v v'
  | released {v v' : RequestView} {usage : UsageRequest} (before : v.Stands id .reserved)
      (recorded : v.usage = some usage) (progress : usage.state = .inProgress)
      (after : v'.Stands id .released) : Follows id v v'
  | unbilled {v v' : RequestView} (before : v.Unbilled) (after : v'.Unbilled) : Follows id v v'

variable {id : Text} {v v' : RequestView} {stage : Stage}

theorem Lawful.follows (lawful : v.Lawful id) (step : v.Follows id v') : v'.Lawful id := by
  cases step with
  | same => exact lawful
  | admitted opens =>
    rcases opens with free | stands
    · exact .unbilled free
    · exact .billed stands
  | completed recorded progress terminal endpoint =>
    cases lawful with
    | absent nothing =>
      rw [nothing] at recorded
      cases recorded
    | unbilled free =>
      cases free with
      | mk unbilled =>
        cases recorded
        exact .unbilled (.mk (by rw [endpoint]; exact unbilled))
    | billed stands =>
      cases stands with
      | reserved quota billing billed empty =>
        cases recorded
        exact .billed (.reserved quota billing (by rw [endpoint]; exact billed)
          fun again => absurd again terminal)
      | settled _ _ hasUsage _ _ _ done _ =>
        cases hasUsage.symm.trans recorded
        exact absurd progress done
      | released _ _ _ cancelled =>
        cases recorded
        rw [cancelled.state] at progress
        cases progress
  | settled _ _ _ after => exact .billed after
  | released _ _ _ after => exact .billed after
  | unbilled _ after => exact .unbilled after

theorem Stands.usage_eq (stands : v.Stands id stage) :
    ∃ usage, v.usage = some usage ∧ usage.endpoint.billed = true := by
  cases stands with
  | reserved _ _ billed _ => exact ⟨_, rfl, billed⟩
  | settled _ _ hasUsage _ _ billed _ _ => exact ⟨_, hasUsage, billed⟩
  | released _ _ billed _ => exact ⟨_, rfl, billed⟩

/-- A final stage stays as it is, down to the last row. -/
theorem Stands.final (stands : v.Stands id stage) (final : stage ≠ .reserved)
    (step : v.Follows id v') : v' = v := by
  obtain ⟨usage', hasUsage', billed'⟩ := stands.usage_eq
  cases step with
  | same => rfl
  | admitted => cases hasUsage'
  | completed recorded progress terminal endpoint =>
    cases stands with
    | reserved => exact absurd rfl final
    | settled _ _ hasUsage _ _ _ done _ =>
      cases hasUsage.symm.trans recorded
      exact absurd progress done
    | released _ _ _ cancelled =>
      cases recorded
      rw [cancelled.state] at progress
      cases progress
  | settled before | released before =>
    cases before with
    | reserved reserved billing =>
      cases stands with
      | reserved => exact absurd rfl final
      | settled hasQuota _ _ quota =>
        cases hasQuota
        rw [reserved] at quota
        cases quota
      | released quota =>
        rw [reserved] at quota
        cases quota
  | unbilled before =>
    cases before with
    | mk unbilled =>
      cases hasUsage'
      rw [unbilled] at billed'
      cases billed'

/-- Usage was recorded for the request and it was not released. -/
def Delivered (id : Text) (v : RequestView) : Prop :=
  v.Stands id .settled ∨ v.Stands id .reserved ∧
    ∃ usage, v.usage = some usage ∧ usage.state ≠ .inProgress

theorem Delivered.follows (delivered : v.Delivered id) (step : v.Follows id v') :
    v'.Delivered id := by
  rcases delivered with settled | ⟨reserved, usage, hasUsage, terminal⟩
  · rw [settled.final (by simp) step]
    exact .inl settled
  · cases step with
    | same => exact .inr ⟨reserved, usage, hasUsage, terminal⟩
    | admitted => cases hasUsage
    | completed recorded progress =>
      cases hasUsage.symm.trans recorded
      exact absurd progress terminal
    | settled _ _ _ after => exact .inl after
    | released _ recorded progress =>
      cases hasUsage.symm.trans recorded
      exact absurd progress terminal
    | unbilled before =>
      cases before
      cases reserved

theorem Delivered.not_released (delivered : v.Delivered id) : ¬ v.Stands id .released := by
  intro released
  rcases delivered with settled | ⟨reserved, -⟩
  · cases released with
    | released state =>
      cases settled with
      | settled hasQuota _ _ quota =>
        cases hasQuota
        rw [state] at quota
        cases quota
  · cases released with
    | released state =>
      cases reserved with
      | reserved quota =>
        rw [state] at quota
        cases quota

end RequestView

/-! ## What transactions do to a request -/

theorem viewOf_usage (db : Db) (requestID : Text) (assign : UsageRequest → UsageRequest)
    (keeps : ∀ row, (assign row).requestID = row.requestID) (id : Text) :
    viewOf { db with usage := db.usage.modify requestID assign keeps } id =
      { viewOf db id with
        usage := if id = requestID then (db.usage.find? requestID).map assign
          else db.usage.find? id } :=
  congrArg (fun usage => { viewOf db id with usage }) (Table.find?_modify _ _ _ keeps id)

theorem viewOf_reservations (db : Db) (reservations : Table BillingReservation.requestID)
    (id : Text) :
    viewOf { db with reservations } id =
      { viewOf db id with billing := reservations.find? id } := rfl

theorem viewOf_quotaOnly (only : QuotaOnly db db') (id : Text) :
    viewOf db' id = { viewOf db id with quota := db'.quotaReservations.find? id } := by
  unfold viewOf
  rw [only]

theorem QuotaClosed.view {row : QuotaReservation} {state : QuotaState}
    (closed : QuotaClosed db row state db') (id : Text) :
    viewOf db' id = if id = row.requestID then
        { viewOf db id with quota := some { row with state } } else viewOf db id := by
  rw [viewOf_quotaOnly closed.frame, closed.reservations, Table.find?_modify, closed.found]
  split
  · rfl
  · rfl

section Settled

variable {db db' : Db} {reservation settled : BillingReservation} {now : Time}
  (settles : SettledNow db reservation now db' settled)

include settles

theorem SettledNow.boundID : settles.bound.requestID = reservation.requestID := by
  rw [settles.binds]

theorem SettledNow.view_others (other : id ≠ reservation.requestID) :
    viewOf db' id = viewOf db id := by
  have charged := settles.charged
  obtain ⟨row, -, -, reservations⟩ := charged.reservations
  obtain ⟨entry, ledger, -, kind, -⟩ := charged.ledger
  have allocations := charged.allocations
  rw [settles.boundID] at reservations kind allocations
  have quota : db'.quotaReservations = db.quotaReservations := by rw [charged.frame]
  have billing : db'.reservations.find? id = db.reservations.find? id := by
    rw [reservations, Table.find?_modify, if_neg other, settles.found, if_neg other]
  have usage : db'.usage.find? id = db.usage.find? id :=
    charged.usage.others id (by rw [settles.boundID]; exact other)
  have charges : db'.ledger.rows.filter (·.charges id) = db.ledger.rows.filter (·.charges id) := by
    rw [ledger, List.filter_cons_of_neg]
    simp [LedgerEntry.charges, kind, Ne.symm other]
  have deductions : db'.allocations.rows.filter (·.requestID = id) =
      db.allocations.rows.filter (·.requestID = id) := by
    rw [allocations, List.filter_append, List.append_left_eq_self, List.filter_eq_nil_iff]
    intro allocation member
    rw [requestID_of_mem_allocationRows (List.mem_reverse.mp member)]
    simpa using Ne.symm other
  unfold viewOf
  rw [quota, billing, usage, charges, deductions]

theorem SettledNow.view_own : ∃ usage entry, settles.usage.Repriced usage ∧
    entry.kind = .usageCharge reservation.requestID settles.charge ∧
    viewOf db' reservation.requestID =
      ⟨(viewOf db reservation.requestID).quota, some settled, some usage, [entry],
        (allocationRows reservation.requestID 0 (settles.group ++ settles.personal)).reverse ++
          (viewOf db reservation.requestID).deductions⟩ := by
  have charged := settles.charged
  obtain ⟨row, found, settledEq, reservations⟩ := charged.reservations
  obtain ⟨entry, ledger, -, kind, -⟩ := charged.ledger
  have allocations := charged.allocations
  have uncharged := charged.uncharged
  obtain ⟨usage, hasUsage, repriced⟩ := charged.usage.own settles.usage
    (by rw [settles.boundID]; exact settles.terminal)
  rw [settles.boundID] at found reservations kind allocations uncharged hasUsage
  refine ⟨usage, entry, repriced, kind, ?_⟩
  have quota : db'.quotaReservations = db.quotaReservations := by rw [charged.frame]
  have billing : db'.reservations.find? reservation.requestID = some settled := by
    rw [reservations, Table.find?_modify, if_pos rfl, found]
    exact congrArg some settledEq.symm
  have none' : db.ledger.rows.filter (·.charges reservation.requestID) = [] := by
    rw [List.filter_eq_nil_iff]
    intro other member
    simpa using List.any_eq_false.mp uncharged other member
  have charges : db'.ledger.rows.filter (·.charges reservation.requestID) = [entry] := by
    rw [ledger, List.filter_cons_of_pos (by simp [LedgerEntry.charges, kind]), none']
  have own : (allocationRows reservation.requestID 0
      (settles.group ++ settles.personal)).reverse.filter
        (·.requestID = reservation.requestID) =
      (allocationRows reservation.requestID 0 (settles.group ++ settles.personal)).reverse := by
    rw [List.filter_eq_self]
    intro allocation member
    simpa using requestID_of_mem_allocationRows (List.mem_reverse.mp member)
  have deductions : db'.allocations.rows.filter (·.requestID = reservation.requestID) =
      (allocationRows reservation.requestID 0 (settles.group ++ settles.personal)).reverse ++
        db.allocations.rows.filter (·.requestID = reservation.requestID) := by
    rw [allocations, List.filter_append, own]
  unfold viewOf
  rw [quota, billing, hasUsage, charges, deductions]

end Settled

/-! ## Settling -/

theorem settleQuota_view_others {tokens : Int}
    (ok : settleQuota db requestID tokens at' = .ok db') (other : id ≠ requestID) :
    viewOf db' id = viewOf db id := by
  obtain ⟨row, found, ⟨-, -, rfl⟩ | closed⟩ := settleQuota_ok ok
  · rfl
  · have keyEq : row.requestID = requestID := Table.key_of_find? found
    rw [closed.view, keyEq, if_neg other]

theorem settleBilling_view_others {settled : BillingReservation}
    (ok : settleBilling db requestID now = .ok (db', settled)) (other : id ≠ requestID) :
    viewOf db' id = viewOf db id := by
  obtain ⟨reservation, found, ⟨-, -, -, rfl, -⟩ | now'⟩ := settleBilling_ok ok
  · rfl
  · obtain ⟨settles⟩ := now'
    have keyEq : reservation.requestID = requestID := Table.key_of_find? found
    exact settles.view_others (by rw [keyEq]; exact other)

theorem settleRequest_view_others (ok : settleRequest db requestID at' = .ok db')
    (other : id ≠ requestID) : viewOf db' id = viewOf db id := by
  obtain ⟨usage, settled, -, -, settles, ⟨-, billing, charges⟩ | ⟨-, rfl⟩⟩ := settleRequest_ok ok
  · rw [settleBilling_view_others charges other, settleQuota_view_others settles other]
  · exact settleQuota_view_others settles other

theorem settleReserved_stands {settled : Db} {quota : QuotaReservation}
    {billing : BillingReservation} {usage : UsageRequest} {tokens : Int} {quotaAt : Time}
    (view : viewOf db id = ⟨some quota, some billing, some usage, [], []⟩)
    (reserved : billing.state = .reserved) (billed : usage.endpoint.billed = true)
    (terminal : usage.state ≠ .inProgress)
    (closed : QuotaClosed db quota (.settled tokens quotaAt) settled) {row : BillingReservation}
    (charges : settleBilling settled id now = .ok (db', row)) :
    (viewOf db' id).Stands id .settled := by
  have keyEq : quota.requestID = id := Table.key_of_find? (congrArg RequestView.quota view)
  have settledView := closed.view id
  rw [if_pos keyEq.symm, view] at settledView
  obtain ⟨reservation, found, ⟨charge, at', state, -⟩ | now'⟩ := settleBilling_ok charges
  · have same := found.symm.trans (congrArg RequestView.billing settledView)
    cases same
    rw [reserved] at state
    cases state
  · obtain ⟨settles⟩ := now'
    have same := found.symm.trans (congrArg RequestView.billing settledView)
    cases same
    have named : billing.requestID = id := Table.key_of_find? found
    obtain ⟨usage', entry, repriced, kind, ownView⟩ := settles.view_own
    have sameUsage : settles.usage = usage := by
      have found := settles.terminal
      rw [named] at found
      exact Option.some.inj (found.symm.trans (congrArg RequestView.usage settledView))
    rw [sameUsage] at repriced
    rw [named, settledView] at ownView
    rw [named] at kind
    obtain ⟨_, -, settledEq, -⟩ := settles.charged.reservations
    have rest := repriced.rest
    rw [ownView]
    refine .settled rfl rfl rfl rfl (congrArg BillingReservation.state settledEq) ?_ ?_
      ⟨⟨entry, rfl, kind⟩, ?_⟩
    · rw [← billed, ← rest]
    · rw [← rest] at terminal
      exact terminal
    · refine ⟨settles.group ++ settles.personal, List.append_nil _, ?_⟩
      rw [Waterfall.total_append, settles.charged.charged]

/-- Settling a billed request replays once it is settled, and charges it while it is
reserved. -/
theorem settleRequest_of_stands {stage : Stage} (stands : (viewOf db id).Stands id stage)
    (ok : settleRequest db id at' = .ok db') :
    stage = .settled ∧ db' = db ∨
      stage = .reserved ∧ (viewOf db' id).Stands id .settled ∧
        (∃ usage, (viewOf db id).usage = some usage ∧ usage.state ≠ .inProgress) ∧
        ∃ counted reservation row, QuotaOnly db counted ∧ reservation.requestID = id ∧
          Nonempty (SettledNow counted reservation at' db' row) := by
  obtain ⟨usage, counted, found, terminal, settles, rest⟩ := settleRequest_ok ok
  obtain ⟨quota, hasQuota, replays⟩ := settleQuota_ok settles
  obtain ⟨_, recorded, billed⟩ := stands.usage_eq
  cases recorded.symm.trans found
  obtain ⟨-, row, charges⟩ | ⟨unbilled, -⟩ := rest
  · obtain ⟨reservation, hasBilling, replayed⟩ := settleBilling_ok charges
    generalize viewEq : viewOf db id = before at stands
    have hasQuota' := (congrArg RequestView.quota viewEq).symm.trans hasQuota
    cases stands with
    | reserved quotaState billingState _ empty =>
      cases hasQuota'
      rcases replays with ⟨at'', state, -⟩ | closed
      · rw [quotaState] at state
        cases state
      · cases (congrArg RequestView.usage viewEq).symm.trans found
        have settled := settleReserved_stands viewEq billingState billed terminal closed charges
        have kept : counted.reservations = db.reservations := by rw [closed.frame]
        rw [kept] at hasBilling
        cases (congrArg RequestView.billing viewEq).symm.trans hasBilling
        rcases replayed with ⟨charge, at'', state, -⟩ | now'
        · rw [billingState] at state
          cases state
        · exact .inr ⟨rfl, settled, ⟨_, rfl, terminal⟩, counted, _, row, closed.frame,
            Table.key_of_find? hasBilling, now'⟩
    | settled hasQuota'' hasBilling' _ quotaState billingState =>
      cases hasQuota''.symm.trans hasQuota'
      rcases replays with ⟨-, -, rfl⟩ | closed
      · rw [← viewEq] at hasBilling'
        cases hasBilling.symm.trans hasBilling'
        rcases replayed with ⟨-, -, -, rfl, -⟩ | now'
        · exact .inl ⟨rfl, rfl⟩
        · obtain ⟨settles⟩ := now'
          have state := settles.reserved
          rw [billingState] at state
          cases state
      · have state := closed.reserved
        rw [quotaState] at state
        cases state
    | released quotaState =>
      cases hasQuota'
      rcases replays with ⟨at'', state, -⟩ | closed
      · rw [quotaState] at state
        cases state
      · have state := closed.reserved
        rw [quotaState] at state
        cases state
  · rw [billed] at unbilled
    cases unbilled

theorem settleRequest_of_unbilled (free : (viewOf db id).Unbilled)
    (ok : settleRequest db id at' = .ok db') : (viewOf db' id).Unbilled := by
  obtain ⟨usage, settled, found, -, settles, rest⟩ := settleRequest_ok ok
  obtain ⟨quota, hasQuota, replays⟩ := settleQuota_ok settles
  have after : (viewOf settled id).Unbilled := by
    rcases replays with ⟨-, -, rfl⟩ | closed
    · exact free
    · rw [closed.view id, if_pos (Table.key_of_find? hasQuota).symm]
      generalize viewOf db id = before at free
      cases free with
      | mk unbilled => exact .mk unbilled
  change (viewOf db id).usage = some usage at found
  generalize viewOf db id = before at free found
  cases free with
  | mk unbilled =>
    cases found
    rcases rest with ⟨billed, -⟩ | ⟨-, rfl⟩
    · rw [unbilled] at billed
      cases billed
    · exact after

theorem settleRequest_follows (lawful : (viewOf db id).Lawful id)
    (ok : settleRequest db requestID at' = .ok db') :
    (viewOf db id).Follows id (viewOf db' id) := by
  by_cases same : id = requestID
  · subst same
    cases lawful with
    | absent nothing =>
      obtain ⟨usage, -, found, -⟩ := settleRequest_ok ok
      cases (congrArg RequestView.usage nothing).symm.trans found
    | unbilled free => exact .unbilled free (settleRequest_of_unbilled free ok)
    | billed stands =>
      rcases settleRequest_of_stands stands ok with
        ⟨-, rfl⟩ | ⟨rfl, settled, ⟨usage, recorded, terminal⟩, -⟩
      · exact .same _
      · exact .settled stands recorded terminal settled
  · rw [settleRequest_view_others ok same]
    exact .same _

/-! ## Releasing -/

theorem releaseQuotaReservation_view_others
    (ok : releaseQuotaReservation db requestID at' = .ok db') (other : id ≠ requestID) :
    viewOf db' id = viewOf db id := by
  obtain ⟨row, found, ⟨-, -, rfl⟩ | closed⟩ := releaseQuotaReservation_ok ok
  · rfl
  · have keyEq : row.requestID = requestID := Table.key_of_find? found
    rw [closed.view, keyEq, if_neg other]

theorem releaseBilling_view_others (ok : releaseBilling db requestID now = .ok db')
    (other : id ≠ requestID) : viewOf db' id = viewOf db id := by
  obtain ⟨reservation, -, ⟨-, -, rfl⟩ | ⟨-, rfl⟩⟩ := releaseBilling_ok ok
  · rfl
  · rw [viewOf_reservations, Table.find?_modify, if_neg other]
    rfl

/-- A release that does not replay leaves the cancelled request in the given view before
billing is released. -/
theorem releaseRequest_view (ok : releaseRequest db id at' = .ok db') :
    ∃ quota, (viewOf db id).quota = some quota ∧
      ((∃ releasedAt, quota.state = .released releasedAt) ∧ db' = db ∨
        quota.state = .reserved ∧ ∃ usage released now, (viewOf db id).usage = some usage ∧
          usage.state = .inProgress ∧
          viewOf released id = { viewOf db id with
            quota := some { quota with state := .released now }
            usage := some (usage.cancel now) } ∧
          (usage.endpoint.billed = true ∧ releaseBilling released id now = .ok db' ∨
            usage.endpoint.billed = false ∧ db' = released)) := by
  obtain ⟨quota, hasQuota, ⟨releasedAt, state, rfl⟩ | ⟨quotaState, usage, cancelled, released,
    found, progress, rfl, releases, rest⟩⟩ := releaseRequest_ok ok
  · exact ⟨quota, hasQuota, .inl ⟨⟨releasedAt, state⟩, rfl⟩⟩
  · refine ⟨quota, hasQuota, .inr ⟨quotaState, usage, released, _, found, progress, ?_, rest⟩⟩
    have cancelView := viewOf_usage db id (fun row => row.cancel (max at' usage.requestedAt))
      (fun _ => rfl) id
    rw [if_pos rfl, found] at cancelView
    obtain ⟨quota', hasQuota', ⟨at'', state, -⟩ | closed⟩ := releaseQuotaReservation_ok releases
    · cases hasQuota.symm.trans hasQuota'
      rw [quotaState] at state
      cases state
    · cases hasQuota.symm.trans hasQuota'
      rw [closed.view id, if_pos (Table.key_of_find? hasQuota).symm, cancelView]
      rfl

/-- Releasing a billed request replays once it is released, and cancels it while it is
reserved and has no usage. -/
theorem releaseRequest_of_stands {stage : Stage} (stands : (viewOf db id).Stands id stage)
    (ok : releaseRequest db id at' = .ok db') :
    stage = .released ∧ db' = db ∨
      stage = .reserved ∧ (viewOf db' id).Stands id .released ∧
        ∃ usage, (viewOf db id).usage = some usage ∧ usage.state = .inProgress := by
  obtain ⟨quota, hasQuota, ⟨⟨releasedAt, state⟩, rfl⟩ | ⟨quotaState, usage, released, now, found,
    progress, releasedView, rest⟩⟩ := releaseRequest_view ok
  · generalize viewOf db' id = before at stands hasQuota
    cases stands with
    | reserved quotaState =>
      cases hasQuota
      rw [quotaState] at state
      cases state
    | settled hasQuota' _ _ quotaState =>
      cases hasQuota'.symm.trans hasQuota
      rw [quotaState] at state
      cases state
    | released => exact .inl ⟨rfl, rfl⟩
  · obtain ⟨_, recorded, billed⟩ := stands.usage_eq
    cases recorded.symm.trans found
    obtain ⟨-, unbills⟩ | ⟨unbilled, -⟩ := rest
    · generalize viewOf db id = before at *
      cases stands with
      | reserved _ billingState _ empty =>
        cases found
        cases hasQuota
        obtain ⟨billing, reserved, ⟨at'', state, -⟩ | ⟨-, rfl⟩⟩ := releaseBilling_ok unbills
        · cases reserved.symm.trans (congrArg RequestView.billing releasedView)
          rw [billingState] at state
          cases state
        · cases reserved.symm.trans (congrArg RequestView.billing releasedView)
          refine .inr ⟨rfl, ?_, usage, rfl, progress⟩
          rw [viewOf_reservations, Table.find?_modify, if_pos rfl, reserved, releasedView]
          exact .released rfl rfl billed ⟨rfl, rfl, rfl, empty progress⟩
      | settled hasQuota' _ _ state =>
        cases hasQuota'.symm.trans hasQuota
        rw [quotaState] at state
        cases state
      | released state =>
        cases hasQuota
        rw [quotaState] at state
        cases state
    · rw [billed] at unbilled
      cases unbilled

theorem releaseRequest_of_unbilled (free : (viewOf db id).Unbilled)
    (ok : releaseRequest db id at' = .ok db') : (viewOf db' id).Unbilled := by
  obtain ⟨quota, hasQuota, ⟨-, rfl⟩ | ⟨-, usage, released, now, found, -, releasedView, rest⟩⟩ :=
    releaseRequest_view ok
  · exact free
  · generalize viewOf db id = before at *
    cases free with
    | mk unbilled =>
      cases found
      rcases rest with ⟨billed, -⟩ | ⟨-, rfl⟩
      · rw [unbilled] at billed
        cases billed
      · rw [releasedView]
        exact .mk unbilled

theorem releaseRequest_view_others (ok : releaseRequest db requestID at' = .ok db')
    (other : id ≠ requestID) : viewOf db' id = viewOf db id := by
  obtain ⟨-, -, ⟨-, -, rfl⟩ | ⟨-, usage, -, released, -, -, rfl, releases, rest⟩⟩ :=
    releaseRequest_ok ok
  · rfl
  · have cancelView := viewOf_usage db requestID
      (fun row => row.cancel (max at' usage.requestedAt)) (fun _ => rfl) id
    rw [if_neg other] at cancelView
    have quotaView := releaseQuotaReservation_view_others releases other
    rcases rest with ⟨-, unbills⟩ | ⟨-, rfl⟩
    · rw [releaseBilling_view_others unbills other, quotaView, cancelView]
      rfl
    · rw [quotaView, cancelView]
      rfl

theorem releaseRequest_follows (lawful : (viewOf db id).Lawful id)
    (ok : releaseRequest db requestID at' = .ok db') :
    (viewOf db id).Follows id (viewOf db' id) := by
  by_cases same : id = requestID
  · subst same
    cases lawful with
    | absent nothing =>
      obtain ⟨quota, hasQuota, -⟩ := releaseRequest_ok ok
      cases (congrArg RequestView.quota nothing).symm.trans hasQuota
    | unbilled free => exact .unbilled free (releaseRequest_of_unbilled free ok)
    | billed stands =>
      rcases releaseRequest_of_stands stands ok with
        ⟨-, rfl⟩ | ⟨rfl, released, usage, recorded, progress⟩
      · exact .same _
      · exact .released stands recorded progress released
  · rw [releaseRequest_view_others ok same]
    exact .same _

/-! ## Admission and completion -/

theorem reserveAdmittedBilling_view {structureDigest : Config.ModelPriceStructure → Text}
    {fresh : FreshPeriods} {billing : Option BillingReservationParams}
    {reservation : Option BillingReservation}
    (named : ∀ params, billing = some params → params.requestID = requestID)
    (ok : reserveAdmittedBilling structureDigest db fresh billing = .ok (db', reservation))
    (id : Text) :
    viewOf db' id = { viewOf db id with
      billing := if id = requestID then reservation.or (db.reservations.find? id)
        else db.reservations.find? id } := by
  rcases reserveAdmittedBilling_ok ok with ⟨-, rfl, rfl⟩ | ⟨params, row, layers, rfl, rfl, made⟩
  · rw [Option.none_or, ite_self]
    rfl
  · have rowID : row.requestID = requestID := made.requestID.trans (named params rfl)
    have frame : ReservesOnly db db' := made.frame
    obtain ⟨renewals, ledger, renews⟩ := made.ledger
    have quota : db'.quotaReservations = db.quotaReservations := by rw [frame]
    have usage : db'.usage = db.usage := by rw [frame]
    have allocations : db'.allocations = db.allocations := by rw [frame]
    have charges : db'.ledger.rows.filter (·.charges id) =
        db.ledger.rows.filter (·.charges id) := by
      rw [ledger, List.filter_append, List.append_left_eq_self, List.filter_eq_nil_iff]
      intro entry member
      obtain ⟨period, kind⟩ := renews entry member
      simp [LedgerEntry.charges, kind]
    have inserted := Table.find?_of_rows_cons made.reservations id
    unfold viewOf
    rw [quota, usage, allocations, charges, inserted, rowID, Option.some_or]
    simp only [eq_comm]

theorem QuotaReserved.view {params : ReserveQuotaParams} {row : QuotaReservation}
    (reserved : QuotaReserved db params db' row) (id : Text) :
    viewOf db' id = if id = params.requestID then { viewOf db id with quota := some row }
      else viewOf db id := by
  have rowID : row.requestID = params.requestID := by rw [reserved.row_eq]
  rw [viewOf_quotaOnly reserved.frame, Table.find?_of_rows_cons reserved.reservations id, rowID]
  by_cases same : id = params.requestID
  · rw [if_pos same, if_pos same.symm]
  · rw [if_neg same, if_neg (Ne.symm same)]
    rfl

theorem beginUsageRequest_view {params : BeginUsageRequestParams} {endpoint : Endpoint}
    {row : UsageRequest} (ok : beginUsageRequest db params endpoint = .ok (db', row)) (id : Text) :
    viewOf db' id = if id = params.requestID then { viewOf db id with usage := some row }
      else viewOf db id := by
  obtain ⟨rowEq, -, rows, frame⟩ := beginUsageRequest_ok ok
  have rowID : row.requestID = params.requestID := by
    rw [rowEq]
    rfl
  have view : viewOf db' id = { viewOf db id with usage := db'.usage.find? id } := by
    unfold viewOf
    rw [frame]
  rw [view, Table.find?_of_rows_cons rows id, rowID]
  by_cases same : id = params.requestID
  · rw [if_pos same, if_pos same.symm]
  · rw [if_neg same, if_neg (Ne.symm same)]
    rfl

theorem RequestView.Lawful.eq_absent {v : RequestView} (lawful : v.Lawful id)
    (none' : v.quota = none) : v = .absent := by
  cases lawful with
  | absent nothing => exact nothing
  | unbilled free =>
    cases free
    cases none'
  | billed stands =>
    cases stands with
    | reserved => cases none'
    | settled hasQuota => cases hasQuota.symm.trans none'
    | released => cases none'

theorem admitRequest_follows (structureDigest : Config.ModelPriceStructure → Text)
    (lawful : (viewOf db id).Lawful id) (params : AdmitRequestParams) (fresh : FreshPeriods) :
    (viewOf db id).Follows id
      (viewOf (admitRequest structureDigest db params fresh).1 id) := by
  rcases admitRequest_cases structureDigest db params fresh with
    ⟨checked, admission, checks, admits⟩ | only
  · obtain ⟨billed, reserved, bills, reserves, begins⟩ := admitChecked_ok admits
    obtain ⟨-, -, usageID, endpoint, billingID⟩ := checkAdmission_ok checks
    have quota := reserveQuota_ok reserves
    have billedView := reserveAdmittedBilling_view billingID bills id
    have reservedView := quota.view id
    have begunView := beginUsageRequest_view begins id
    rw [usageID] at begunView
    by_cases same : id = checked.quota.requestID
    · rw [if_pos same] at billedView reservedView begunView
      have quotaAbsent : (viewOf db id).quota = none := by
        have absent := quota.absent
        rw [← same] at absent
        exact (congrArg RequestView.quota billedView).symm.trans absent
      have nothing := lawful.eq_absent quotaAbsent
      have noBilling : db.reservations.find? id = none := congrArg RequestView.billing nothing
      obtain ⟨usageEq, -⟩ := beginUsageRequest_ok begins
      have quotaState : admission.quota.state = .reserved := by rw [quota.row_eq]
      rw [begunView, reservedView, billedView, nothing, noBilling, Option.or_none]
      refine .admitted ?_
      rcases reserveAdmittedBilling_ok bills with ⟨none', -, noRow⟩ | ⟨_, row, _, some', hasRow, made⟩
      · rw [none'] at endpoint
        rw [noRow, usageEq]
        exact .inl (.mk endpoint)
      · rw [some'] at endpoint
        rw [hasRow, usageEq]
        exact .inr (.reserved quotaState made.reserved endpoint fun _ => rfl)
    · rw [if_neg same] at billedView reservedView begunView
      rw [begunView, reservedView, billedView]
      exact .same _
  · have same : viewOf (admitRequest structureDigest db params fresh).1 id = viewOf db id := by
      unfold viewOf
      rw [only]
    rw [same]
    exact .same _

theorem completeUsageRequest_follows (provider : Option UpstreamProvider) (db : Db)
    (params : CompleteUsageRequestParams) (id : Text) :
    (viewOf db id).Follows id (viewOf (completeUsageRequest provider db params).1 id) := by
  obtain ⟨only, cases'⟩ := completeUsageRequest_cases provider db params
  have view : viewOf (completeUsageRequest provider db params).1 id =
      { viewOf db id with usage := (completeUsageRequest provider db params).1.usage.find? id } := by
    unfold viewOf
    rw [only]
  rw [view]
  rcases cases' with same | ⟨row, completion, valid, found, progress, terminal, updated⟩
  · rw [same]
    exact .same _
  · have lookup := Table.find?_modify db.usage params.requestID
      (fun row => row.complete completion valid) (fun _ => rfl) id
    rw [updated, lookup]
    by_cases own : id = params.requestID
    · subst own
      rw [if_pos rfl, found]
      exact .completed found progress terminal rfl
    · rw [if_neg own]
      exact .same _

end Store
