import CodexGateway.Store.Subscriptions

/-! # What rolling changes

Rolling groups and subscriptions opens and closes periods. It leaves all other
tables, and the funds of every period that existed before.
-/

namespace Store

open Except (bind_eq_ok check_bind_eq_ok refuse_eq_ok)

variable {db db' : Db} {newID : PeriodID} {now at' : Time} {userID : UserID}

/-! ## Groups -/

/-- Two group periods that differ at most in when they were closed. -/
def GroupPeriod.SameFunds (period period' : GroupPeriod) : Prop :=
  { period' with closedAt := period.closedAt } = period

/-- Period tables of which the second has every period of the first, with the same
funds, and new periods that nothing has been charged to. -/
structure PeriodsExtended (periods periods' : Table GroupPeriod.id) : Prop where
  kept : ∀ period ∈ periods.rows, ∃ period' ∈ periods'.rows, period.SameFunds period'
  fresh : ∀ period' ∈ periods'.rows,
    (∃ period ∈ periods.rows, period.SameFunds period') ∨
      (periods.find? period'.id = none ∧ period'.usedUSD = 0)

variable {a b : GroupPeriod} {c : Db} {g : GroupSummary} {ends : Time} {groups : List GroupSummary}

theorem GroupPeriod.SameFunds.trans {c : GroupPeriod} (first : a.SameFunds b)
    (second : b.SameFunds c) : a.SameFunds c := by
  unfold GroupPeriod.SameFunds at first second ⊢
  rw [← first, ← second]

theorem GroupPeriod.SameFunds.id_eq (same : a.SameFunds b) : b.id = a.id := by
  unfold GroupPeriod.SameFunds at same
  rw [← same]

theorem GroupPeriod.SameFunds.usedUSD_eq (same : a.SameFunds b) : b.usedUSD = a.usedUSD := by
  unfold GroupPeriod.SameFunds at same
  rw [← same]

theorem PeriodsExtended.refl (periods : Table GroupPeriod.id) : PeriodsExtended periods periods :=
  ⟨fun period member => ⟨period, member, rfl⟩, fun period member => .inl ⟨period, member, rfl⟩⟩

theorem PeriodsExtended.trans {a b c : Table GroupPeriod.id} (first : PeriodsExtended a b)
    (second : PeriodsExtended b c) : PeriodsExtended a c := by
  refine ⟨?_, ?_⟩
  · intro period member
    obtain ⟨middle, middleMember, same⟩ := first.kept period member
    obtain ⟨last, lastMember, same'⟩ := second.kept middle middleMember
    exact ⟨last, lastMember, same.trans same'⟩
  · intro last lastMember
    rcases second.fresh last lastMember with ⟨middle, middleMember, same'⟩ | ⟨absent, unused⟩
    · rcases first.fresh middle middleMember with ⟨period, member, same⟩ | ⟨absent, unused⟩
      · exact .inl ⟨period, member, same.trans same'⟩
      · exact .inr ⟨same'.id_eq ▸ absent, same'.usedUSD_eq.trans unused⟩
    · refine .inr ⟨Table.find?_eq_none.mpr ?_, unused⟩
      intro period member sameID
      obtain ⟨middle, middleMember, same⟩ := first.kept period member
      exact Table.find?_eq_none.mp absent middle middleMember (same.id_eq.trans sameID)

theorem PeriodsExtended.closing (periods : Table GroupPeriod.id) (id : PeriodID)
    (close : GroupPeriod → Option Time) :
    PeriodsExtended periods
      (periods.modify id (fun period => { period with closedAt := close period })
        (fun _ => rfl)) := by
  have same (period : GroupPeriod) : period.SameFunds
      (if decide (period.id = id) = true then { period with closedAt := close period }
        else period) := by
    split <;> rfl
  refine ⟨?_, ?_⟩
  · intro period member
    exact ⟨_, List.mem_map_of_mem member, same period⟩
  · intro period' member'
    obtain ⟨period, member, rfl⟩ := List.mem_map.mp member'
    exact .inl ⟨period, member, same period⟩

theorem PeriodsExtended.opening {periods periods' : Table GroupPeriod.id} {row : GroupPeriod}
    (inserted : periods.insert? row = some periods') (unused : row.usedUSD = 0) :
    PeriodsExtended periods periods' := by
  obtain ⟨absent, rows⟩ := Table.insert?_eq_some.mp inserted
  refine ⟨?_, ?_⟩
  · intro period member
    exact ⟨period, rows ▸ List.mem_cons_of_mem _ member, rfl⟩
  · intro period' member'
    rw [rows] at member'
    rcases List.mem_cons.mp member' with rfl | old
    · exact .inr ⟨absent, unused⟩
    · exact .inl ⟨period', old, rfl⟩

theorem replaceGroupPeriod_ok {current : Option PeriodID} {starts closedAt : Time}
    (ok : replaceGroupPeriod db g current starts ends closedAt newID = .ok db') :
    db' = { db with groups := db'.groups, groupPeriods := db'.groupPeriods } ∧
      PeriodsExtended db.groupPeriods db'.groupPeriods := by
  unfold replaceGroupPeriod at ok
  dsimp only at ok
  split at ok
  · cases ok
  · rename_i periods inserted
    cases ok
    refine ⟨rfl, ?_⟩
    cases current with
    | none => exact PeriodsExtended.opening inserted rfl
    | some id =>
      exact (PeriodsExtended.closing db.groupPeriods id _).trans
        (PeriodsExtended.opening inserted rfl)

/-- The second database is the first after rolling groups. -/
structure GroupsRolled (db db' : Db) : Prop where
  frame : db' = { db with groups := db'.groups, groupPeriods := db'.groupPeriods }
  periods : PeriodsExtended db.groupPeriods db'.groupPeriods

theorem GroupsRolled.refl (db : Db) : GroupsRolled db db := ⟨rfl, PeriodsExtended.refl _⟩

theorem GroupsRolled.trans {a b : Db} (first : GroupsRolled a b) (second : GroupsRolled b c) :
    GroupsRolled a c :=
  ⟨by rw [second.frame, first.frame], first.periods.trans second.periods⟩

theorem rollGroup_ok {id : GroupID}
    (ok : rollGroup db id now newID = .ok (db', g)) : GroupsRolled db db' := by
  unfold rollGroup at ok
  obtain ⟨summary, _, ok⟩ := bind_eq_ok.mp ok
  split at ok
  · cases ok
    exact GroupsRolled.refl db
  · obtain ⟨duration, _, ok⟩ := bind_eq_ok.mp ok
    dsimp only at ok
    split at ok
    · cases ok
      exact GroupsRolled.refl db
    · obtain ⟨_, ok⟩ := refuse_eq_ok.mp ok
      obtain ⟨replaced, opened, ok⟩ := bind_eq_ok.mp ok
      obtain ⟨_, _, ok⟩ := bind_eq_ok.mp ok
      cases ok
      obtain ⟨frame, periods⟩ := replaceGroupPeriod_ok opened
      exact ⟨frame, periods⟩

theorem rollGroups_ok {newID : GroupID → PeriodID} {ids : List GroupID}
    (ok : rollGroups now newID ids db = .ok (db', groups)) :
    GroupsRolled db db' := by
  induction ids generalizing db db' groups with
  | nil =>
    cases ok
    exact GroupsRolled.refl _
  | cons id rest ih =>
    obtain ⟨⟨middle, g⟩, first, ok⟩ := bind_eq_ok.mp ok
    obtain ⟨⟨last, others⟩, later, ok⟩ := bind_eq_ok.mp ok
    cases ok
    exact (rollGroup_ok first).trans (ih later)

theorem userFundingGroups_ok {model : Text} {newID : GroupID → PeriodID}
    {fallback : Option GroupSummary}
    (ok : userFundingGroups db userID now model newID = .ok (db', groups, fallback)) :
    GroupsRolled db db' := by
  obtain ⟨members, _, ok⟩ := bind_eq_ok.mp ok
  obtain ⟨_, ok⟩ := check_bind_eq_ok.mp ok
  obtain ⟨⟨rolled, summaries⟩, rolls, ok⟩ := bind_eq_ok.mp ok
  cases ok
  exact rollGroups_ok rolls

/-! ## Subscriptions -/

/-- The second database is the first after rolling subscriptions: renewals are all
that the ledger gains. -/
structure SubscriptionsRolled (db db' : Db) : Prop where
  frame : db' = { db with
    subscriptions := db'.subscriptions
    subscriptionPeriods := db'.subscriptionPeriods
    ledger := db'.ledger }
  ledger : ∃ renewals, db'.ledger.rows = renewals ++ db.ledger.rows ∧
    ∀ entry ∈ renewals, ∃ id, entry.kind = .subscriptionRenewal id

theorem SubscriptionsRolled.refl (db : Db) : SubscriptionsRolled db db :=
  ⟨rfl, [], rfl, by simp⟩

theorem SubscriptionsRolled.trans {a b : Db} (first : SubscriptionsRolled a b)
    (second : SubscriptionsRolled b c) : SubscriptionsRolled a c := by
  obtain ⟨frame, early, earlyRows, earlyKinds⟩ := first
  obtain ⟨frame', late, lateRows, lateKinds⟩ := second
  refine ⟨by rw [frame', frame], late ++ early, ?_, ?_⟩
  · rw [lateRows, earlyRows, List.append_assoc]
  · intro entry member
    rcases List.mem_append.mp member with isLate | isEarly
    · exact lateKinds entry isLate
    · exact earlyKinds entry isEarly

theorem openEntitlementPeriod_ok {s : Subscription} {e : Entitlement} {start : Time}
    {number : Int} (ok : openEntitlementPeriod db userID s e start ends number newID = .ok db') :
    SubscriptionsRolled db db' := by
  unfold openEntitlementPeriod at ok
  dsimp only at ok
  split at ok
  · cases ok
  · cases ok
    exact ⟨rfl, [_], rfl, by simp⟩

theorem rollSubscription_ok {stale : StaleSubscription}
    (ok : rollSubscription db userID at' newID stale = .ok db') : SubscriptionsRolled db db' := by
  have closed : SubscriptionsRolled db (closeElapsedPeriod db stale.periodID) :=
    ⟨rfl, [], rfl, by simp⟩
  unfold rollSubscription at ok
  dsimp only at ok
  split at ok
  · cases ok
    exact closed.trans ⟨rfl, [], rfl, by simp⟩
  · split at ok
    · cases ok
    · obtain ⟨e, _, ok⟩ := bind_eq_ok.mp ok
      obtain ⟨_, ok⟩ := refuse_eq_ok.mp ok
      obtain ⟨start, _, ok⟩ := bind_eq_ok.mp ok
      obtain ⟨ends, _, ok⟩ := bind_eq_ok.mp ok
      exact closed.trans (openEntitlementPeriod_ok ok)

theorem rollStale_ok {newID : SubscriptionID → PeriodID} {stale : List StaleSubscription}
    (ok : rollStale userID at' newID stale db = .ok db') : SubscriptionsRolled db db' := by
  induction stale generalizing db with
  | nil =>
    cases ok
    exact SubscriptionsRolled.refl _
  | cons first rest ih =>
    obtain ⟨middle, rolled, ok⟩ := bind_eq_ok.mp ok
    exact (rollSubscription_ok rolled).trans (ih ok)

theorem rollBillingSubscriptions_ok {newID : SubscriptionID → PeriodID}
    (ok : rollBillingSubscriptions db userID at' newID = .ok db') : SubscriptionsRolled db db' :=
  rollStale_ok ok

end Store
