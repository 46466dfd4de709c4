import CodexGateway.Store.BoundOrder
import CodexGateway.Store.Reservation
import CodexGateway.Store.GroupTimeline

/-! # Spending of groups

What a group period and its members have spent is counted in columns. The counters are
shown to be the sums of the charge allocations, and to stay within the limits of the period
as long as no limit is lowered.
-/

namespace Store

open Billing Except

variable {db db' : Db} {id newID : PeriodID} {period' : GroupPeriod} {current : Option PeriodID}
  {now : Time} {reservation : BillingReservation}

/-! ## Counters and allocations -/

/-- What the allocations charge to a group period. -/
def groupSpent (db : Db) (periodID : PeriodID) : Int :=
  db.allocations.total fun a => if a.source.isGroup periodID then a.amountUSD else 0

/-- What the allocations for the requests of one user charge to a group period. -/
def memberSpent (db : Db) (periodID : PeriodID) (userID : UserID) : Int :=
  db.allocations.total fun a =>
    if a.source.isGroup periodID ∧
        (db.reservations.find? a.requestID).map BillingReservation.userID = some userID then
      a.amountUSD
    else 0

/-- The counters are the sums of the allocations, which name rows that exist. -/
structure Counted (db : Db) : Prop where
  used : ∀ id period, db.groupPeriods.find? id = some period → period.usedUSD = groupSpent db id
  totals : ∀ id, memberTotal db id = groupSpent db id
  members : ∀ id userID, memberUsed db id userID = memberSpent db id userID
  known : ∀ a ∈ db.allocations.rows, ∀ id, a.source.isGroup id = true →
    (db.groupPeriods.find? id).isSome = true
  reserved : ∀ a ∈ db.allocations.rows, (db.reservations.find? a.requestID).isSome = true

section Unknown

variable {db : Db} {id : PeriodID} (counted : Counted db)
  (unknown : db.groupPeriods.find? id = none)

include counted unknown

theorem Counted.not_charged_of_unknown {a : Allocation} (member : a ∈ db.allocations.rows) :
    ¬ a.source.isGroup id = true := by
  intro charged
  have exists' := counted.known a member id charged
  simp [unknown] at exists'

theorem Counted.groupSpent_of_unknown : groupSpent db id = 0 := by
  rw [groupSpent, Table.total_congr (g := fun _ => 0)]
  · simp [Table.total]
  · intro a member
    exact if_neg (counted.not_charged_of_unknown unknown member)

theorem Counted.memberUsed_of_unknown (userID : UserID) : memberUsed db id userID = 0 := by
  rw [counted.members, memberSpent, Table.total_congr (g := fun _ => 0)]
  · simp [Table.total]
  · intro a member
    exact if_neg fun both => counted.not_charged_of_unknown unknown member both.1

end Unknown

/-! ## Operations that spend nothing -/

/-- The second database has the same allocations, counters and users of requests, and each
period with what was spent of it. New periods are unspent. -/
structure SpendingKept (db db' : Db) : Prop where
  allocations : db'.allocations = db.allocations
  memberUsage : db'.memberUsage = db.memberUsage
  reservations : ∀ id row, db.reservations.find? id = some row →
    ∃ row', db'.reservations.find? id = some row' ∧ row'.userID = row.userID
  kept : ∀ id period, db.groupPeriods.find? id = some period →
    ∃ period', db'.groupPeriods.find? id = some period' ∧ period'.usedUSD = period.usedUSD
  fresh : ∀ id period', db.groupPeriods.find? id = none →
    db'.groupPeriods.find? id = some period' → period'.usedUSD = 0

theorem SpendingKept.trans {a b c : Db} (first : SpendingKept a b) (second : SpendingKept b c) :
    SpendingKept a c where
  allocations := second.allocations.trans first.allocations
  memberUsage := second.memberUsage.trans first.memberUsage
  reservations := by
    intro id row found
    obtain ⟨middle, found', same⟩ := first.reservations id row found
    obtain ⟨last, found'', same'⟩ := second.reservations id middle found'
    exact ⟨last, found'', same'.trans same⟩
  kept := by
    intro id period found
    obtain ⟨middle, found', same⟩ := first.kept id period found
    obtain ⟨last, found'', same'⟩ := second.kept id middle found'
    exact ⟨last, found'', same'.trans same⟩
  fresh := by
    intro id last absent found
    cases between : b.groupPeriods.find? id with
    | none => exact second.fresh id last between found
    | some middle =>
      obtain ⟨other, found', same⟩ := second.kept id middle between
      cases found.symm.trans found'
      exact same.trans (first.fresh id middle absent between)

theorem Counted.kept (counted : Counted db) (step : SpendingKept db db') : Counted db' := by
  have spent : ∀ id, groupSpent db' id = groupSpent db id := by
    intro id
    rw [groupSpent, step.allocations, groupSpent]
  have memberSpent_eq : ∀ id userID, memberSpent db' id userID = memberSpent db id userID := by
    intro id userID
    rw [memberSpent, step.allocations, memberSpent]
    refine Table.total_congr fun a member => ?_
    obtain ⟨row, found⟩ := Option.isSome_iff_exists.mp (counted.reserved a member)
    obtain ⟨row', found', same⟩ := step.reservations _ row found
    simp only [found, found', Option.map_some, same]
  refine ⟨?_, ?_, ?_, ?_, ?_⟩
  · intro id period' found'
    rw [spent]
    cases found : db.groupPeriods.find? id with
    | none => rw [step.fresh id period' found found', counted.groupSpent_of_unknown found]
    | some period =>
      obtain ⟨other, found'', same⟩ := step.kept id period found
      cases found'.symm.trans found''
      rw [same, counted.used id period found]
  · intro id
    rw [memberTotal, step.memberUsage, spent]
    exact counted.totals id
  · intro id userID
    rw [memberUsed, step.memberUsage, memberSpent_eq]
    exact counted.members id userID
  · intro a member id source
    rw [step.allocations] at member
    obtain ⟨period, found⟩ := Option.isSome_iff_exists.mp (counted.known a member id source)
    obtain ⟨period', found', -⟩ := step.kept id period found
    rw [found']
    rfl
  · intro a member
    rw [step.allocations] at member
    obtain ⟨row, found⟩ := Option.isSome_iff_exists.mp (counted.reserved a member)
    obtain ⟨row', found', -⟩ := step.reservations _ row found
    rw [found']
    rfl

/-! ## Settlements -/

section Settlement

variable {db db' : Db} {reservation settled : BillingReservation} {now : Time} {cost : Int}
  {group personal : List Charge} {charge : UsageCharge}

theorem total_allocationRows (requestID : Text) (order : Nat) (charged : List Charge)
    (id : PeriodID) :
    ((allocationRows requestID order charged).map fun a =>
      if a.source.isGroup id then a.amountUSD else 0).sum =
      taken (AllocationSource.isGroup id) charged := by
  induction charged generalizing order with
  | nil => rfl
  | cons charge rest ih =>
    simp only [allocationRows, List.map_cons, List.sum_cons, ih, taken_cons]

theorem UsageCharged.taken_isGroup_all
    (charged : UsageCharged db reservation now db' settled cost group personal charge)
    (id : PeriodID) :
    taken (AllocationSource.isGroup id) (group ++ personal) =
      taken (AllocationSource.isGroup id) group := by
  have none : taken (AllocationSource.isGroup id) personal = 0 := by
    apply taken_eq_zero
    intro paid member
    have other := charged.lotsCharged.personal paid member
    cases source : paid.1 with
    | group period => exact absurd source (other period)
    | subscription kind period => rfl
    | cash lot => rfl
  rw [taken_append, none, add_zero]

theorem UsageCharged.groupSpent_eq
    (charged : UsageCharged db reservation now db' settled cost group personal charge)
    (id : PeriodID) :
    groupSpent db' id = groupSpent db id + taken (AllocationSource.isGroup id) group := by
  rw [groupSpent, Table.total, charged.allocations, List.map_append, List.sum_append,
    List.map_reverse, List.sum_reverse, total_allocationRows, charged.taken_isGroup_all, add_comm]
  rfl

theorem UsageCharged.taken_le
    (charged : UsageCharged db reservation now db' settled cost group personal charge)
    {period : GroupPeriod} (found : db.groupPeriods.find? id = some period) :
    0 ≤ taken (AllocationSource.isGroup id) group ∧
      taken (AllocationSource.isGroup id) group ≤ groupHeld db reservation.userID period := by
  rw [taken_isGroup, charged.group_eq]
  refine ⟨Waterfall.given_charges_nonneg _ _ _, ?_⟩
  by_cases gives : AllocationSource.group id ∈
      (Waterfall.charges cost (groupHoldings db reservation)).map Prod.fst
  · obtain ⟨⟨_, paid⟩, member, rfl⟩ := List.mem_map.mp gives
    obtain ⟨-, held, holds, -⟩ := Waterfall.mem_charges member
    obtain ⟨id', period', same, -, found'⟩ := groupHoldings_spec holds
    cases same
    cases found.symm.trans found'
    have distinct : ((groupHoldings db reservation).map Prod.fst).Nodup := by
      unfold groupHoldings
      split
      · split
        · split
          · exact List.nodup_singleton _
          · exact List.nodup_nil
        · exact List.nodup_nil
      · exact List.nodup_nil
    exact Waterfall.given_charges_le distinct holds (groupHeld_nonneg _ _ _)
  · rw [Waterfall.given_of_not_mem gives]
    exact groupHeld_nonneg _ _ _

theorem SettledNow.users (now' : SettledNow db reservation now db' settled)
    (found : db.reservations.find? reservation.requestID = some reservation) (id : Text) :
    (db'.reservations.find? id).map BillingReservation.userID =
      (db.reservations.find? id).map BillingReservation.userID := by
  obtain ⟨row, -, -, rewritten⟩ := now'.charged.reservations
  have sameID : now'.bound.requestID = reservation.requestID := by rw [now'.binds]
  have sameUser : now'.bound.userID = reservation.userID := by rw [now'.binds]
  rw [rewritten, Table.find?_modify]
  by_cases own : id = reservation.requestID
  · subst own
    simp [now'.found, sameID, sameUser, found]
  · simp [now'.found, sameID, own]

theorem SettledNow.memberSpent_eq (now' : SettledNow db reservation now db' settled)
    (found : db.reservations.find? reservation.requestID = some reservation) (id : PeriodID)
    (userID : UserID) :
    memberSpent db' id userID = memberSpent db id userID +
      if userID = reservation.userID then taken (AllocationSource.isGroup id) now'.group else 0 := by
  have sameID : now'.bound.requestID = reservation.requestID := by rw [now'.binds]
  have users := now'.users found
  have new : ((allocationRows now'.bound.requestID 0 (now'.group ++ now'.personal)).map fun a =>
      if a.source.isGroup id ∧
          (db.reservations.find? a.requestID).map BillingReservation.userID = some userID then
        a.amountUSD else 0).sum =
      if userID = reservation.userID then taken (AllocationSource.isGroup id) now'.group else 0 := by
    have named : ∀ a ∈ allocationRows now'.bound.requestID 0 (now'.group ++ now'.personal),
        (db.reservations.find? a.requestID).map BillingReservation.userID =
          some reservation.userID := by
      intro a member
      rw [requestID_of_mem_allocationRows member, sameID, found]
      rfl
    by_cases own : userID = reservation.userID
    · rw [if_pos own, ← now'.charged.taken_isGroup_all, ← total_allocationRows, own]
      congr 1
      refine List.map_congr_left fun a member => ?_
      simp [named a member]
    · rw [if_neg own, List.sum_eq_zero]
      intro amount member
      obtain ⟨a, row, rfl⟩ := List.mem_map.mp member
      refine if_neg fun both => own ?_
      exact (Option.some.inj ((named a row).symm.trans both.2)).symm
  rw [memberSpent, Table.total, now'.charged.allocations, List.map_append, List.sum_append,
    List.map_reverse, List.sum_reverse]
  simp only [users]
  rw [new, add_comm]
  rfl

theorem Counted.settle (counted : Counted db) (now' : SettledNow db reservation now db' settled)
    (found : db.reservations.find? reservation.requestID = some reservation)
    (rule : 2 ≤ reservation.fundingRuleVersion) : Counted db' := by
  have modern : now'.bound.fundingRuleVersion ≠ 1 := by
    rw [now'.binds]
    dsimp only
    omega
  have sameUser : now'.bound.userID = reservation.userID := by rw [now'.binds]
  have periods := now'.charged.groupPeriods modern
  have users := now'.users found
  have after : ∀ id, db'.groupPeriods.find? id =
      (db.groupPeriods.find? id).map (GroupPeriod.debited now'.group) := fun id =>
    Table.find?_of_rows_map periods (fun _ => rfl) id
  have spent : ∀ id, groupSpent db' id =
      groupSpent db id + taken (AllocationSource.isGroup id) now'.group :=
    now'.charged.groupSpent_eq
  refine ⟨?_, ?_, ?_, ?_, ?_⟩
  · intro id period' found'
    rw [after] at found'
    obtain ⟨period, before, rfl⟩ := Option.map_eq_some_iff.mp found'
    have key : period.id = id := Table.key_of_find? before
    rw [spent, ← counted.used id period before, GroupPeriod.debited, key]
  · intro id
    rw [spent, ← counted.totals]
    exact now'.charged.memberTotals id
  · intro id userID
    rw [now'.memberSpent_eq found, ← counted.members, ← sameUser]
    exact now'.charged.members id userID
  · intro a member id source
    rw [now'.charged.allocations] at member
    rw [after, Option.isSome_map]
    rcases List.mem_append.mp member with new | old
    · -- a new row is a charge, and a charge to a group is held by a stored period
      obtain ⟨charge, paid, rows⟩ : ∃ charge ∈ now'.group ++ now'.personal,
          (a.source, a.amountUSD) = charge := by
        have mapped := List.mem_map_of_mem (f := fun row : Allocation => (row.source, row.amountUSD))
          (List.mem_reverse.mp new)
        rw [amounts_allocationRows] at mapped
        exact ⟨_, mapped, rfl⟩
      rcases List.mem_append.mp paid with fromGroup | fromPersonal
      · rw [now'.charged.group_eq, ← rows] at fromGroup
        obtain ⟨-, held, holds, -⟩ := Waterfall.mem_charges fromGroup
        obtain ⟨id', period, same, -, stored⟩ := groupHoldings_spec holds
        have paidID : a.source = .group id' := congrArg Prod.fst same
        have sameID : id' = id := by simpa [paidID, AllocationSource.isGroup] using source
        subst sameID
        exact Option.isSome_iff_exists.mpr ⟨period, stored⟩
      · have other := now'.charged.lotsCharged.personal charge fromPersonal
        rw [← rows] at other
        cases kind : a.source with
        | group period => exact absurd kind (other period)
        | subscription type period => simp [kind, AllocationSource.isGroup] at source
        | cash lot => simp [kind, AllocationSource.isGroup] at source
    · exact counted.known a old id source
  · intro a member
    have same := users a.requestID
    rw [now'.charged.allocations] at member
    have stored : (db.reservations.find? a.requestID).isSome = true := by
      rcases List.mem_append.mp member with new | old
      · rw [requestID_of_mem_allocationRows (List.mem_reverse.mp new), now'.binds]
        exact Option.isSome_iff_exists.mpr ⟨_, found⟩
      · exact counted.reserved a old
    rw [← Option.isSome_map (f := BillingReservation.userID), same, Option.isSome_map]
    exact stored

/-- A settlement leaves every limit and charges within what the period holds. -/
theorem SettledNow.period (now' : SettledNow db reservation now db' settled)
    (rule : 2 ≤ reservation.fundingRuleVersion)
    (found' : db'.groupPeriods.find? id = some period') :
    ∃ period, db.groupPeriods.find? id = some period ∧ period.id = id ∧
      period' = { period with
        usedUSD := period.usedUSD + taken (AllocationSource.isGroup id) now'.group } ∧
      0 ≤ taken (AllocationSource.isGroup id) now'.group ∧
      taken (AllocationSource.isGroup id) now'.group ≤ groupHeld db reservation.userID period := by
  have modern : now'.bound.fundingRuleVersion ≠ 1 := by
    rw [now'.binds]
    dsimp only
    omega
  rw [Table.find?_of_rows_map (now'.charged.groupPeriods modern) (fun _ => rfl) id] at found'
  obtain ⟨period, before, rfl⟩ := Option.map_eq_some_iff.mp found'
  have key : period.id = id := Table.key_of_find? before
  have bounds := now'.charged.taken_le before
  have held : groupHeld { db with reservations := now'.reservations } now'.bound.userID period =
      groupHeld db reservation.userID period := by
    rw [now'.binds]
    rfl
  rw [held] at bounds
  exact ⟨period, before, key, by rw [GroupPeriod.debited, key], bounds⟩

end Settlement

/-! ## Limits -/

/-- The limits of groups and periods are not negative. -/
structure NonnegLimits (db : Db) : Prop where
  groups : ∀ id group, db.groups.find? id = some group →
    0 ≤ group.limitUSD ∧ ∀ limit ∈ group.memberLimitUSD, 0 ≤ limit
  periods : ∀ id period, db.groupPeriods.find? id = some period →
    0 ≤ period.limitUSD ∧ ∀ limit ∈ period.memberLimitUSD, 0 ≤ limit

def GroupSummary.NonnegLimits (g : GroupSummary) : Prop :=
  0 ≤ numeric g.limitUSD ∧ ∀ text ∈ g.memberLimitUSD, 0 ≤ numeric text

variable {g : GroupSummary} {periods periods' : Table GroupPeriod.id}
  {params : BillingReservationParams} {layers : List FundingLayer} {reset : Bool} {start : Time}

theorem NonnegLimits.summary (nonneg : NonnegLimits db) {id : GroupID}
    (read : readGroupSummary db id = .ok g) : g.NonnegLimits := by
  obtain ⟨group, period, found, -, -, rfl⟩ := readGroupSummary_eq_ok.mp read
  obtain ⟨limit, members⟩ := nonneg.groups id group found
  refine ⟨by simpa using limit, ?_⟩
  intro text shown
  obtain ⟨value, stored, rfl⟩ := Option.map_eq_some_iff.mp shown
  simpa using members value stored

theorem PeriodsExtended.find? (extended : PeriodsExtended periods periods') {period : GroupPeriod}
    (found : periods.find? id = some period) :
    ∃ period', periods'.find? id = some period' ∧ period.SameFunds period' := by
  obtain ⟨member, rfl⟩ := Table.find?_eq_some.mp found
  obtain ⟨period', member', same⟩ := extended.kept period member
  exact ⟨period', Table.find?_eq_some.mpr ⟨member', same.id_eq⟩, same⟩

theorem PeriodsExtended.unspent
    (extended : PeriodsExtended periods periods') (absent : periods.find? id = none)
    (found : periods'.find? id = some period') : period'.usedUSD = 0 := by
  obtain ⟨member', rfl⟩ := Table.find?_eq_some.mp found
  rcases extended.fresh period' member' with ⟨period, member, same⟩ | ⟨-, unused⟩
  · exact absurd same.id_eq.symm (Table.find?_eq_none.mp absent period member)
  · exact unused

theorem GroupPeriod.SameFunds.limits {period : GroupPeriod} (same : period.SameFunds period') :
    period'.limitUSD = period.limitUSD ∧ period'.memberLimitUSD = period.memberLimitUSD := by
  unfold GroupPeriod.SameFunds at same
  rw [← same]
  exact ⟨rfl, rfl⟩

theorem NonnegLimits.replace (nonneg : NonnegLimits db)
    {starts ends closedAt : Time} (limits : g.NonnegLimits)
    (ok : replaceGroupPeriod db g current starts ends closedAt newID = .ok db') :
    NonnegLimits db' := by
  have replaced := replaceGroupPeriod_replaced ok
  have extended := (replaceGroupPeriod_ok ok).2
  refine ⟨?_, ?_⟩
  · intro id group found
    rw [replaced.groups] at found
    split at found
    · obtain ⟨old, stored, rfl⟩ := Option.map_eq_some_iff.mp found
      exact nonneg.groups g.id old stored
    · exact nonneg.groups id group found
  · intro id period found
    by_cases new : id = newID
    · subst new
      cases replaced.opened.symm.trans found
      refine ⟨limits.1, fun limit given => ?_⟩
      obtain ⟨text, shown, rfl⟩ := Option.map_eq_some_iff.mp given
      exact limits.2 text shown
    · cases before : db.groupPeriods.find? id with
      | none => cases (replaced.ids id new before).symm.trans found
      | some old =>
        obtain ⟨period', found', same⟩ := extended.find? before
        cases found.symm.trans found'
        rw [same.limits.1, same.limits.2]
        exact nonneg.periods id old before

theorem NonnegLimits.roll (nonneg : NonnegLimits db) {id : GroupID}
    (ok : rollGroup db id now newID = .ok (db', g)) : NonnegLimits db' := by
  obtain ⟨read, reads, -, rfl | ⟨number, starts, ends, replacing⟩⟩ := rollGroup_cases ok
  · exact nonneg
  · have limits := nonneg.summary reads
    refine nonneg.replace ?_ replacing
    exact ⟨limits.1, limits.2⟩

theorem NonnegLimits.rollAll {newID : GroupID → PeriodID} {ids : List GroupID}
    (nonneg : NonnegLimits db) {summaries : List GroupSummary}
    (ok : rollGroups now newID ids db = .ok (db', summaries)) : NonnegLimits db' := by
  induction ids generalizing db summaries with
  | nil =>
    cases ok
    exact nonneg
  | cons id rest ih =>
    obtain ⟨⟨middle, g⟩, roll, ok⟩ := bind_eq_ok.mp ok
    obtain ⟨⟨last, others⟩, rolled, ok⟩ := bind_eq_ok.mp ok
    cases ok
    exact ih (nonneg.roll roll) rolled

theorem NonnegLimits.congr (nonneg : NonnegLimits db) (groups : db'.groups = db.groups)
    (periods : db'.groupPeriods = db.groupPeriods) : NonnegLimits db' :=
  ⟨groups ▸ nonneg.groups, periods ▸ nonneg.periods⟩

theorem NonnegLimits.reserve {structureDigest : Config.ModelPriceStructure → Text}
    {fresh : FreshPeriods}
    (nonneg : NonnegLimits db)
    (reserved : Reserved structureDigest db params fresh db' reservation layers) :
    NonnegLimits db' := by
  obtain ⟨members, -, funding⟩ := bind_eq_ok.mp reserved.funding
  obtain ⟨-, funding⟩ := check_bind_eq_ok.mp funding
  obtain ⟨⟨rolled, summaries⟩, rolls, funding⟩ := bind_eq_ok.mp funding
  have same : rolled = reserved.grouped := congrArg Prod.fst (Except.ok.inj funding)
  have grouped : NonnegLimits reserved.grouped := same ▸ nonneg.rollAll rolls
  have rolling := rollBillingSubscriptions_ok reserved.rolls
  obtain ⟨-, -, inserted⟩ := insertReservation_ok reserved.insertion
  obtain ⟨-, -, -, -, -, recorded⟩ := recordFundingLayers_ok reserved.recording
  refine grouped.congr ?_ ?_
  · rw [congrArg Db.groups recorded, congrArg Db.groups inserted, congrArg Db.groups rolling.frame]
  · rw [congrArg Db.groupPeriods recorded, congrArg Db.groupPeriods inserted,
      congrArg Db.groupPeriods rolling.frame]

/-! ## Writing a group -/

theorem SpendingKept.of_extended (allocations : db'.allocations = db.allocations)
    (memberUsage : db'.memberUsage = db.memberUsage)
    (reservations : db'.reservations = db.reservations)
    (extended : PeriodsExtended db.groupPeriods db'.groupPeriods) : SpendingKept db db' where
  allocations := allocations
  memberUsage := memberUsage
  reservations := fun _ row found => ⟨row, by rw [reservations]; exact found, rfl⟩
  kept := by
    intro id period found
    obtain ⟨period', found', same⟩ := extended.find? found
    exact ⟨period', found', same.usedUSD_eq⟩
  fresh := fun _ _ absent found => extended.unspent absent found

theorem SpendingKept.of_same (allocations : db'.allocations = db.allocations)
    (memberUsage : db'.memberUsage = db.memberUsage)
    (reservations : db'.reservations = db.reservations)
    (periods : db'.groupPeriods = db.groupPeriods) : SpendingKept db db' :=
  .of_extended allocations memberUsage reservations (periods ▸ PeriodsExtended.refl _)

theorem GroupsRolled.spendingKept (rolled : GroupsRolled db db') : SpendingKept db db' :=
  .of_extended (by rw [rolled.frame]) (by rw [rolled.frame]) (by rw [rolled.frame]) rolled.periods

theorem find?_limitPeriod (db : Db) (s : GroupSettings) (g : GroupSummary) (id : PeriodID) :
    (limitPeriod db s g).groupPeriods.find? id =
      if id = g.periodID then (db.groupPeriods.find? id).map fun period =>
        { period with
          limitUSD := numeric s.amount, memberLimitUSD := g.memberLimitUSD.map numeric }
      else db.groupPeriods.find? id := by
  rw [limitPeriod, Table.find?_modify]
  split
  · rename_i own
    rw [own]
  · rfl

theorem spendingKept_limitPeriod (db : Db) (s : GroupSettings) (g : GroupSummary) :
    SpendingKept db (limitPeriod db s g) where
  allocations := rfl
  memberUsage := rfl
  reservations := fun _ row found => ⟨row, found, rfl⟩
  kept := by
    intro id period found
    rw [find?_limitPeriod, found]
    split
    · exact ⟨_, rfl, rfl⟩
    · exact ⟨_, rfl, rfl⟩
  fresh := by
    intro id period' absent found
    rw [find?_limitPeriod, absent] at found
    split at found <;> cases found

/-- The amounts of accepted settings are not negative. -/
structure GroupSettings.Nonneg (s : GroupSettings) : Prop where
  amount : 0 ≤ numeric s.amount
  memberLimit : ∀ text, s.memberLimit = some (some text) → 0 ≤ numeric text

theorem numeric_nonneg_of_parseInput {value canonical : Text}
    (parsed : parseInput value false true = .ok canonical) : 0 ≤ numeric canonical := by
  obtain ⟨units, value, -, nonneg, -⟩ := parseBounded_units parsed (by decide)
  rw [Denotes.numeric_eq value]
  exact nonneg rfl

theorem putGroupSettings_nonneg {params : PutGroupParams} {s : GroupSettings}
    (ok : putGroupSettings params = .ok s) : s.Nonneg := by
  obtain ⟨-, ok⟩ := refuse_eq_ok.mp ok
  obtain ⟨amount, parsed, ok⟩ := bind_eq_ok.mp ok
  obtain ⟨memberLimit, limited, ok⟩ := bind_eq_ok.mp ok
  obtain ⟨⟨period, duration⟩, -, ok⟩ := bind_eq_ok.mp ok
  obtain ⟨-, ok⟩ := check_bind_eq_ok.mp ok
  obtain ⟨-, ok⟩ := check_bind_eq_ok.mp ok
  obtain ⟨models, -, ok⟩ := bind_eq_ok.mp ok
  obtain ⟨-, ok⟩ := check_bind_eq_ok.mp ok
  cases ok
  refine ⟨numeric_nonneg_of_parseInput (mapError_eq_ok.mp parsed), ?_⟩
  intro text given
  dsimp only at given
  subst given
  unfold memberLimitInput at limited
  split at limited
  · obtain ⟨canonical, member, same⟩ := map_eq_ok.mp (mapError_eq_ok.mp limited)
    cases same
    exact numeric_nonneg_of_parseInput member
  · split at limited <;> cases limited

section Put

variable {db db' : Db} {s : GroupSettings} {now : Time} {ids : PutGroupIDs}

theorem draftGroup_limits {old : GroupSummary} (settings : s.Nonneg) (nonneg : NonnegLimits db)
    (ok : draftGroup db s now ids = .ok (db', old, current)) :
    SpendingKept db db' ∧ NonnegLimits db' ∧ ∀ text ∈ old.memberLimitUSD, 0 ≤ numeric text := by
  unfold draftGroup at ok
  split at ok
  · obtain ⟨models, -, ok⟩ := bind_eq_ok.mp ok
    cases ok
    refine ⟨.of_same rfl rfl rfl rfl, nonneg, ?_⟩
    intro text given
    cases limit : s.memberLimit with
    | none => simp [limit] at given
    | some value =>
      cases value with
      | none => simp [limit] at given
      | some amount =>
        have same : amount = text := by simpa [limit] using given
        exact settings.memberLimit text (same ▸ limit)
  · obtain ⟨-, ok⟩ := check_bind_eq_ok.mp ok
    obtain ⟨⟨rolled, g⟩, roll, ok⟩ := bind_eq_ok.mp ok
    obtain ⟨-, ok⟩ := check_bind_eq_ok.mp ok
    obtain ⟨models, -, ok⟩ := bind_eq_ok.mp ok
    have kept := (rollGroup_ok roll).spendingKept
    have limits := nonneg.roll roll
    have summary := limits.summary (rollGroup_read roll).2
    cases ok
    exact ⟨kept, limits, summary.2⟩

theorem placePeriod_limits {placed : GroupSummary} {duration : Int}
    (ok : placePeriod reset g start now duration = .ok placed) :
    placed.limitUSD = g.limitUSD ∧ placed.memberLimitUSD = g.memberLimitUSD := by
  unfold placePeriod at ok
  split at ok
  · obtain ⟨ends, -, ok⟩ := bind_eq_ok.mp ok
    cases ok
    exact ⟨rfl, rfl⟩
  · cases ok
    exact ⟨rfl, rfl⟩

theorem saveGroup_limits {expires : Option Time}
    (settings : s.Nonneg) (members : ∀ text ∈ g.memberLimitUSD, 0 ≤ numeric text)
    (nonneg : NonnegLimits db) (ok : saveGroup db s g start expires current = .ok db') :
    SpendingKept db db' ∧ NonnegLimits db' := by
  have row : ∀ limit ∈ g.memberLimitUSD.map numeric, 0 ≤ limit := by
    intro limit given
    obtain ⟨text, shown, rfl⟩ := Option.map_eq_some_iff.mp given
    exact members text shown
  unfold saveGroup at ok
  split at ok
  · split at ok
    · cases ok
    · rename_i groups inserted
      cases ok
      refine ⟨.of_same rfl rfl rfl rfl, ?_, nonneg.periods⟩
      intro id group found
      rw [Table.find?_insert? inserted] at found
      split at found
      · cases found
        exact ⟨settings.amount, row⟩
      · exact nonneg.groups id group found
  · cases ok
    refine ⟨.of_same rfl rfl rfl rfl, ?_, nonneg.periods⟩
    intro id group found
    rw [Table.find?_modify] at found
    split at found
    · obtain ⟨old, -, rfl⟩ := Option.map_eq_some_iff.mp found
      exact ⟨settings.amount, row⟩
    · exact nonneg.groups id group found

theorem savePeriod_limits (settings : s.Nonneg) (limits : g.NonnegLimits) (nonneg : NonnegLimits db)
    (ok : savePeriod db reset s g current now newID = .ok db') :
    SpendingKept db db' ∧ NonnegLimits db' := by
  unfold savePeriod at ok
  split at ok
  · obtain ⟨frame, extended⟩ := replaceGroupPeriod_ok ok
    have rolled : GroupsRolled db db' := ⟨frame, extended⟩
    exact ⟨rolled.spendingKept, nonneg.replace limits ok⟩
  · obtain ⟨⟨rolled, g'⟩, roll, ok⟩ := bind_eq_ok.mp ok
    have limited : NonnegLimits (limitPeriod db s g) := by
      refine ⟨nonneg.groups, ?_⟩
      intro id period found
      rw [limitPeriod, Table.find?_modify] at found
      split at found
      · obtain ⟨old, -, rfl⟩ := Option.map_eq_some_iff.mp found
        refine ⟨settings.amount, fun limit given => ?_⟩
        obtain ⟨text, shown, rfl⟩ := Option.map_eq_some_iff.mp given
        exact limits.2 text shown
      · exact nonneg.periods id period found
    have kept := (spendingKept_limitPeriod db s g).trans (rollGroup_ok roll).spendingKept
    have after := limited.roll roll
    cases ok
    exact ⟨kept, after⟩

theorem applyPutGroup_limits {detail : GroupDetail} (settings : s.Nonneg)
    (nonneg : NonnegLimits db) (ok : applyPutGroup s now ids db = .ok (db', detail)) :
    SpendingKept db db' ∧ NonnegLimits db' := by
  obtain ⟨⟨drafted, old, current⟩, draft, ok⟩ := bind_eq_ok.mp ok
  obtain ⟨g, place, ok⟩ := bind_eq_ok.mp ok
  obtain ⟨expires, -, ok⟩ := bind_eq_ok.mp ok
  obtain ⟨saved, save, ok⟩ := bind_eq_ok.mp ok
  obtain ⟨last, period, ok⟩ := bind_eq_ok.mp ok
  obtain ⟨read, -, ok⟩ := bind_eq_ok.mp ok
  obtain ⟨draftKept, draftLimits, members⟩ := draftGroup_limits settings nonneg draft
  obtain ⟨limit, memberLimit⟩ := placePeriod_limits place
  have placed : g.NonnegLimits := by
    refine ⟨limit ▸ settings.amount, ?_⟩
    intro text given
    rw [memberLimit] at given
    cases set : s.memberLimit with
    | none => exact members text (by simpa [set] using given)
    | some value => exact settings.memberLimit text (by simpa [set] using given)
  obtain ⟨saveKept, saveLimits⟩ := saveGroup_limits settings placed.2 draftLimits save
  obtain ⟨periodKept, periodLimits⟩ := savePeriod_limits settings placed saveLimits period
  cases ok
  exact ⟨draftKept.trans (saveKept.trans periodKept), periodLimits⟩

end Put

theorem putGroup_limits {params : PutGroupParams} {ids : PutGroupIDs} {response : GroupResponse}
    (nonneg : NonnegLimits db) (ok : putGroup db params ids = .ok (db', response)) :
    SpendingKept db db' ∧ NonnegLimits db' := by
  obtain ⟨settings, checked, ok⟩ := bind_eq_ok.mp ok
  rcases groupWrite_ok ok with rfl | ⟨operations, done, detail, applied, rfl⟩
  · exact ⟨.of_same rfl rfl rfl rfl, nonneg⟩
  · have start : NonnegLimits { db with groupOperations := operations } := nonneg.congr rfl rfl
    obtain ⟨kept, limits⟩ := applyPutGroup_limits (putGroupSettings_nonneg checked) start applied
    have claimed : SpendingKept db { db with groupOperations := operations } :=
      .of_same rfl rfl rfl rfl
    exact ⟨claimed.trans (kept.trans (.of_same rfl rfl rfl rfl)), limits.congr rfl rfl⟩

theorem ReservationMade.spendingKept (made : ReservationMade db params db' reservation layers) :
    SpendingKept db db' where
  allocations := by rw [made.frame]
  memberUsage := by rw [made.frame]
  reservations := by
    intro id row found
    refine ⟨row, ?_, rfl⟩
    rw [Table.find?_of_rows_cons made.reservations, if_neg]
    · exact found
    · intro same
      cases (same ▸ made.fresh).symm.trans found
  kept := by
    intro id period found
    obtain ⟨period', found', same⟩ := made.groupPeriods.find? found
    exact ⟨period', found', same.usedUSD_eq⟩
  fresh := fun _ _ absent found => made.groupPeriods.unspent absent found

/-! ## Staying within the limits -/

def Within (id : PeriodID) (db : Db) : Prop :=
  ∀ period, db.groupPeriods.find? id = some period → period.usedUSD ≤ period.limitUSD

def MembersWithin (id : PeriodID) (db : Db) : Prop :=
  ∀ period limit, db.groupPeriods.find? id = some period → period.memberLimitUSD = some limit →
    ∀ userID, memberUsed db id userID ≤ limit

section Bounds

variable {db db' : Db} {id : PeriodID}

theorem Within.kept (within : Within id db) (step : SpendingKept db db') (nonneg : NonnegLimits db')
    (raised : ∀ period period', db.groupPeriods.find? id = some period →
      db'.groupPeriods.find? id = some period' → period.limitUSD ≤ period'.limitUSD) :
    Within id db' := by
  intro period' found'
  cases found : db.groupPeriods.find? id with
  | none =>
    rw [step.fresh id period' found found']
    exact (nonneg.periods id period' found').1
  | some period =>
    obtain ⟨other, found'', used⟩ := step.kept id period found
    cases found'.symm.trans found''
    rw [used]
    exact (within period found).trans (raised period period' found found')

theorem MembersWithin.kept (within : MembersWithin id db) (counted : Counted db)
    (step : SpendingKept db db') (nonneg : NonnegLimits db')
    (raised : ∀ period period' limit', db.groupPeriods.find? id = some period →
      db'.groupPeriods.find? id = some period' → period'.memberLimitUSD = some limit' →
      ∃ limit, period.memberLimitUSD = some limit ∧ limit ≤ limit') :
    MembersWithin id db' := by
  intro period' limit' found' limited userID
  have same : memberUsed db' id userID = memberUsed db id userID := by
    rw [memberUsed, step.memberUsage, memberUsed]
  rw [same]
  cases found : db.groupPeriods.find? id with
  | none =>
    rw [counted.memberUsed_of_unknown found]
    exact (nonneg.periods id period' found').2 limit' limited
  | some period =>
    obtain ⟨limit, before, le⟩ := raised period period' limit' found found' limited
    exact (within period limit found before userID).trans le

variable {reservation settled : BillingReservation} {now : Time}

theorem Within.settle (within : Within id db) (now' : SettledNow db reservation now db' settled)
    (rule : 2 ≤ reservation.fundingRuleVersion) : Within id db' := by
  intro period' found'
  obtain ⟨period, found, -, rfl, -, le⟩ := now'.period rule found'
  have before := within period found
  have available : groupHeld db reservation.userID period ≤ period.available := by
    unfold groupHeld
    split
    · exact le_refl _
    · exact min_le_left _ _
  unfold GroupPeriod.available at available
  dsimp only
  omega

theorem MembersWithin.settle (within : MembersWithin id db)
    (now' : SettledNow db reservation now db' settled)
    (rule : 2 ≤ reservation.fundingRuleVersion) : MembersWithin id db' := by
  intro period' limit found' limited userID
  obtain ⟨period, found, key, rfl, -, le⟩ := now'.period rule found'
  have before := within period limit found limited userID
  have sameUser : now'.bound.userID = reservation.userID := by rw [now'.binds]
  have used := now'.charged.members id userID
  rw [sameUser] at used
  have unspent : memberUsed { db with reservations := now'.reservations } id userID =
      memberUsed db id userID := rfl
  rw [used, unspent]
  split
  · rename_i own
    subst own
    have held : groupHeld db reservation.userID period ≤
        max (limit - memberUsed db id reservation.userID) 0 := by
      have stored : period.memberLimitUSD = some limit := limited
      rw [groupHeld, stored, key]
      exact min_le_right _ _
    omega
  · omega

end Bounds

/-! ## Runs -/

inductive SpendingOp where
  | settle (requestID : Text) (now : Time)
  | reserve (params : BillingReservationParams) (fresh : FreshPeriods)
  | roll (id : GroupID) (now : Time) (newID : PeriodID)
  | put (params : PutGroupParams) (ids : PutGroupIDs)

section Runs

variable (structureDigest : Config.ModelPriceStructure → Text)

def SpendingOp.result (db : Db) : SpendingOp → Except StoreError Db
  | .settle requestID now => (settleBilling db requestID now).map Prod.fst
  | .reserve params fresh => (reserveBilling structureDigest db params fresh).map Prod.fst
  | .roll id now newID => (rollGroup db id now newID).map Prod.fst
  | .put params ids => (putGroup db params ids).map Prod.fst

def SpendingOp.apply (db : Db) (op : SpendingOp) : Db :=
  Transaction.commit (fun db => op.result structureDigest db) db

def spendingRun (db : Db) (ops : List SpendingOp) : Db :=
  Transaction.run (SpendingOp.apply structureDigest) db ops

/-- A settled reservation follows a funding rule under which groups pay. -/
def SpendingOp.Modern (db : Db) : SpendingOp → Prop
  | .settle requestID _ => ∀ reservation, db.reservations.find? requestID = some reservation →
      2 ≤ reservation.fundingRuleVersion
  | _ => True

/-- The operation writes a group and lowers the limit of the period. -/
def SpendingOp.LowersLimit (id : PeriodID) (db : Db) (op : SpendingOp) : Prop :=
  (∃ params ids, op = .put params ids) ∧
    ∃ period period', db.groupPeriods.find? id = some period ∧
      (op.apply structureDigest db).groupPeriods.find? id = some period' ∧
      period'.limitUSD < period.limitUSD

/-- The operation writes a group and lowers the member limit of the period. -/
def SpendingOp.LowersMemberLimit (id : PeriodID) (db : Db) (op : SpendingOp) : Prop :=
  (∃ params ids, op = .put params ids) ∧
    ∃ period period' limit limit', db.groupPeriods.find? id = some period ∧
      (op.apply structureDigest db).groupPeriods.find? id = some period' ∧
      period.memberLimitUSD = some limit ∧ period'.memberLimitUSD = some limit' ∧ limit' < limit

/-- If the period exists, it has a member limit. -/
def MemberLimited (id : PeriodID) (db : Db) : Prop :=
  ∀ period, db.groupPeriods.find? id = some period → period.memberLimitUSD.isSome = true

variable {structureDigest}

/-- What an operation does: it settles a request, or spends nothing. Only a write of a group
changes the limits of a period that exists. -/
theorem SpendingOp.ok {op : SpendingOp} (nonneg : NonnegLimits db)
    (ok : op.result structureDigest db = .ok db') :
    (∃ requestID now reservation settled, op = .settle requestID now ∧
      db.reservations.find? requestID = some reservation ∧
      Nonempty (SettledNow db reservation now db' settled)) ∨
    (SpendingKept db db' ∧ NonnegLimits db' ∧
      ((∃ params ids, op = .put params ids) ∨
        PeriodsExtended db.groupPeriods db'.groupPeriods)) := by
  cases op with
  | settle requestID now =>
    obtain ⟨⟨last, settled⟩, result, rfl⟩ := map_eq_ok.mp ok
    obtain ⟨reservation, found, ⟨charge, at', -, same, -⟩ | now'⟩ := settleBilling_ok result
    · dsimp only at same ⊢
      subst same
      exact .inr ⟨.of_same rfl rfl rfl rfl, nonneg, .inr (PeriodsExtended.refl _)⟩
    · exact .inl ⟨requestID, now, reservation, settled, rfl, found, now'⟩
  | reserve params fresh =>
    obtain ⟨⟨last, reservation, layers⟩, result, rfl⟩ := map_eq_ok.mp ok
    obtain ⟨reserved⟩ := reserveBilling_ok structureDigest result
    have made := reserved.made
    exact .inr ⟨made.spendingKept, nonneg.reserve reserved, .inr made.groupPeriods⟩
  | roll id now newID =>
    obtain ⟨⟨last, g⟩, result, rfl⟩ := map_eq_ok.mp ok
    have rolled := rollGroup_ok result
    exact .inr ⟨rolled.spendingKept, nonneg.roll result, .inr rolled.periods⟩
  | put params ids =>
    obtain ⟨⟨last, response⟩, result, rfl⟩ := map_eq_ok.mp ok
    obtain ⟨kept, limits⟩ := putGroup_limits nonneg result
    exact .inr ⟨kept, limits, .inl ⟨params, ids, rfl⟩⟩

theorem NonnegLimits.settle {settled : BillingReservation} (nonneg : NonnegLimits db)
    (now' : SettledNow db reservation now db' settled) (rule : 2 ≤ reservation.fundingRuleVersion) :
    NonnegLimits db' := by
  refine ⟨?_, ?_⟩
  · intro id group found
    rw [now'.charged.frame] at found
    exact nonneg.groups id group found
  · intro id period' found'
    obtain ⟨period, found, -, rfl, -⟩ := now'.period rule found'
    exact nonneg.periods id period found

structure Spending (db : Db) : Prop where
  counted : Counted db
  nonneg : NonnegLimits db

section Step

variable {op : SpendingOp} {db db' : Db} (spending : Spending db) (modern : op.Modern db)
  (ok : op.result structureDigest db = .ok db')

include spending modern ok

theorem Spending.step : Spending db' := by
  rcases op.ok spending.nonneg ok with
    ⟨requestID, now, reservation, settled, rfl, found, ⟨now'⟩⟩ | ⟨kept, nonneg, -⟩
  · have key : reservation.requestID = requestID := Table.key_of_find? found
    have rule := modern reservation found
    exact ⟨spending.counted.settle now' (key ▸ found) rule, spending.nonneg.settle now' rule⟩
  · exact ⟨spending.counted.kept kept, nonneg⟩

theorem Spending.within (within : Within id db) (raised : ¬ op.LowersLimit structureDigest id db) :
    Within id db' := by
  rcases op.ok spending.nonneg ok with
    ⟨requestID, now, reservation, settled, rfl, found, ⟨now'⟩⟩ | ⟨kept, nonneg, puts⟩
  · exact within.settle now' (modern reservation found)
  · refine within.kept kept nonneg fun period period' found found' => ?_
    rcases puts with put | extended
    · by_contra lower
      refine raised ⟨put, period, period', found, ?_, not_le.mp lower⟩
      rw [SpendingOp.apply, Transaction.commit_of_ok ok]
      exact found'
    · obtain ⟨other, found'', same⟩ := extended.find? found
      cases found'.symm.trans found''
      rw [same.limits.1]

theorem Spending.membersWithin (within : MembersWithin id db) (limited : MemberLimited id db)
    (raised : ¬ op.LowersMemberLimit structureDigest id db) : MembersWithin id db' := by
  rcases op.ok spending.nonneg ok with
    ⟨requestID, now, reservation, settled, rfl, found, ⟨now'⟩⟩ | ⟨kept, nonneg, puts⟩
  · exact within.settle now' (modern reservation found)
  · refine within.kept spending.counted kept nonneg fun period period' limit' found found' after => ?_
    obtain ⟨limit, before⟩ := Option.isSome_iff_exists.mp (limited period found)
    refine ⟨limit, before, ?_⟩
    rcases puts with put | extended
    · by_contra lower
      refine raised ⟨put, period, period', limit, limit', found, ?_, before, after, not_le.mp lower⟩
      rw [SpendingOp.apply, Transaction.commit_of_ok ok]
      exact found'
    · obtain ⟨other, found'', same⟩ := extended.find? found
      cases found'.symm.trans found''
      rw [same.limits.2, before] at after
      exact (Option.some.inj after).le

end Step

/-- No group has spent anything yet, and no limit is negative. -/
structure Unspent (db : Db) : Prop where
  allocations : db.allocations = .empty
  memberUsage : db.memberUsage = .empty
  periods : ∀ id period, db.groupPeriods.find? id = some period → period.usedUSD = 0
  nonneg : NonnegLimits db

theorem Unspent.spending (unspent : Unspent db) : Spending db := by
  refine ⟨⟨?_, ?_, ?_, ?_, ?_⟩, unspent.nonneg⟩
  · intro id period found
    rw [unspent.periods id period found, groupSpent, unspent.allocations, Table.total_empty]
  · intro id
    rw [memberTotal, unspent.memberUsage, groupSpent, unspent.allocations]
    rfl
  · intro id userID
    rw [memberUsed, unspent.memberUsage, memberSpent, unspent.allocations]
    rfl
  · intro a member
    rw [unspent.allocations] at member
    cases member
  · intro a member
    rw [unspent.allocations] at member
    cases member

theorem Unspent.within (unspent : Unspent db) (id : PeriodID) : Within id db := by
  intro period found
  rw [unspent.periods id period found]
  exact (unspent.nonneg.periods id period found).1

theorem Unspent.membersWithin (unspent : Unspent db) (id : PeriodID) : MembersWithin id db := by
  intro period limit found limited userID
  rw [memberUsed, unspent.memberUsage]
  exact (unspent.nonneg.periods id period found).2 limit limited

variable (structureDigest)

/-- After every run of settlements, reservations, rolls and writes of groups, the counters of
a period and of its members are the sums of the charge allocations. A period stays within
its limit as long as no write lowers it; its members stay within the member limit if it
has had one all the time and no write lowers it. -/
theorem spendingRun_counted {db : Db} {ops : List SpendingOp} (unspent : Unspent db)
    (modern : Transaction.Along (fun db op => op.Modern db) (SpendingOp.apply structureDigest)
      db ops) :
    (∀ period ∈ (spendingRun structureDigest db ops).groupPeriods.rows,
      period.usedUSD = memberTotal (spendingRun structureDigest db ops) period.id ∧
      period.usedUSD = groupSpent (spendingRun structureDigest db ops) period.id) ∧
    (∀ id userID, memberUsed (spendingRun structureDigest db ops) id userID =
      memberSpent (spendingRun structureDigest db ops) id userID) ∧
    (∀ id, Transaction.Along (fun db op => ¬ op.LowersLimit structureDigest id db)
        (SpendingOp.apply structureDigest) db ops →
      Within id (spendingRun structureDigest db ops)) ∧
    ∀ id, Transaction.Along
        (fun db op => MemberLimited id db ∧ ¬ op.LowersMemberLimit structureDigest id db)
        (SpendingOp.apply structureDigest) db ops →
      MembersWithin id (spendingRun structureDigest db ops) := by
  have spending : Spending (spendingRun structureDigest db ops) :=
    Transaction.run_preserves_along unspent.spending (fun db op modern before =>
      Transaction.commit_preserves before fun db' ok => before.step modern ok) modern
  have counted := spending.counted
  refine ⟨fun period member => ?_, counted.members, fun id raised => ?_, fun id limited => ?_⟩
  · have used := counted.used period.id period (Table.find?_of_mem member)
    exact ⟨used.trans (counted.totals period.id).symm, used⟩
  · let Kept (db : Db) : Prop := Spending db ∧ Within id db
    have kept : Kept (spendingRun structureDigest db ops) := by
      refine Transaction.run_preserves_along ⟨unspent.spending, unspent.within id⟩
        (fun db op conditions before => ?_) (modern.and raised)
      exact Transaction.commit_preserves (P := Kept) before fun db' ok =>
        ⟨before.1.step conditions.1 ok, before.1.within conditions.1 ok before.2 conditions.2⟩
    exact kept.2
  · let Kept (db : Db) : Prop := Spending db ∧ MembersWithin id db
    have kept : Kept (spendingRun structureDigest db ops) := by
      refine Transaction.run_preserves_along ⟨unspent.spending, unspent.membersWithin id⟩
        (fun db op conditions before => ?_) (modern.and limited)
      exact Transaction.commit_preserves (P := Kept) before fun db' ok =>
        ⟨before.1.step conditions.1 ok,
          before.1.membersWithin conditions.1 ok before.2 conditions.2.1 conditions.2.2⟩
    exact kept.2

end Runs

/-! A group pays for each of two members up to the member limit, for the second one when the
period is long over. -/

theorem unspent_sampleDb : Unspent sampleDb := by
  have groups : ∀ group ∈ sampleDb.groups.rows,
      0 ≤ group.limitUSD ∧ ∀ limit ∈ group.memberLimitUSD, 0 ≤ limit := by decide
  have periods : ∀ period ∈ sampleDb.groupPeriods.rows, period.usedUSD = 0 ∧
      0 ≤ period.limitUSD ∧ ∀ limit ∈ period.memberLimitUSD, 0 ≤ limit := by decide
  exact {
    allocations := rfl
    memberUsage := rfl
    periods := fun _ period found => (periods period (Table.find?_eq_some.mp found).1).1
    nonneg := ⟨fun _ group found => groups group (Table.find?_eq_some.mp found).1,
      fun _ period found => (periods period (Table.find?_eq_some.mp found).1).2⟩ }

def twoSettlements : List SpendingOp := [.settle ['r'] 2, .settle ['s'] (2 * day)]

theorem spendingRun_twoMembers :
    (memberUsed (spendingRun (fun _ => []) sampleDb twoSettlements) 6 1 = 10 ^ 12 ∧
      memberUsed (spendingRun (fun _ => []) sampleDb twoSettlements) 6 2 = 10 ^ 12 ∧
      groupSpent (spendingRun (fun _ => []) sampleDb twoSettlements) 6 = 2 * 10 ^ 12) ∧
    Within 6 (spendingRun (fun _ => []) sampleDb twoSettlements) ∧
    MembersWithin 6 (spendingRun (fun _ => []) sampleDb twoSettlements) := by
  let first : Db := SpendingOp.apply (fun _ => []) sampleDb (.settle ['r'] 2)
  have modern : Transaction.Along (fun db op => op.Modern db) (SpendingOp.apply fun _ => [])
      sampleDb twoSettlements := by
    refine ⟨?_, ?_, trivial⟩
    · show ∀ row ∈ sampleDb.reservations.find? ['r'], 2 ≤ row.fundingRuleVersion
      decide
    · show ∀ row ∈ first.reservations.find? ['s'], 2 ≤ row.fundingRuleVersion
      decide +kernel
  have limited : MemberLimited 6 sampleDb ∧ MemberLimited 6 first := by
    show (∀ period ∈ sampleDb.groupPeriods.find? 6, period.memberLimitUSD.isSome = true) ∧
      ∀ period ∈ first.groupPeriods.find? 6, period.memberLimitUSD.isSome = true
    decide +kernel
  obtain ⟨-, -, within, members⟩ := spendingRun_counted (fun _ => []) unspent_sampleDb modern
  refine ⟨by decide +kernel, within 6 ⟨?_, ?_, trivial⟩,
    members 6 ⟨⟨limited.1, ?_⟩, ⟨limited.2, ?_⟩, trivial⟩⟩
  all_goals
    rintro ⟨⟨params, ids, impossible⟩, -⟩
    cases impossible

end Store
