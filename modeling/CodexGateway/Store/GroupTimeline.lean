import CodexGateway.Library.Grid
import CodexGateway.Store.GroupAdmin
import CodexGateway.Store.Rolled

/-! # The timeline of a group

The row of a group, its current period and the stored expiry show one timeline: the
period lies on the grid of the anchor, and the expiry follows from the count. Writing a
group keeps this, and rolling it is rolling the timeline.
-/

namespace Store

open Billing Except

variable {duration : Int} {T : Timeline} {db db' drafted : Db} {id : GroupID} {g old : GroupSummary}
  {t now : Time} {current : Option PeriodID} {newID : PeriodID} {expires : Option Time}
  {ids : PutGroupIDs}

/-! ## Arithmetic -/

theorem unix_add_seconds (t : Time) (n : Int) : unix (t + n * second) = unix t + n := by
  unfold unix second
  omega

theorem timeUnix_add (t : Time) (n : Int) :
    timeUnix (unix t + n) (nanosecond t) = t + n * second := by
  have split := Int.mul_ediv_add_emod t second
  unfold timeUnix unix nanosecond
  linarith [mul_comm second (t / second), add_mul (t / second) n second]

theorem groupPeriodDuration_seconds {period : GroupPeriodKind} {customDays : Int}
    (ok : groupPeriodDuration period customDays = .ok duration) :
    ∃ seconds, 0 < seconds ∧ duration = seconds * second := by
  have days : ∀ n : Int, 0 < n → ∃ seconds, 0 < seconds ∧ n * day = seconds * second :=
    fun n positive => ⟨n * (24 * 3600), by omega, by unfold day; ring⟩
  unfold groupPeriodDuration at ok
  split at ok
  · obtain ⟨bounds, ok⟩ := refuse_eq_ok.mp ok
    cases ok
    exact days customDays (by omega)
  · obtain ⟨-, ok⟩ := refuse_eq_ok.mp ok
    split at ok <;> cases ok
    · simpa using days 1 (by decide)
    · exact days 7 (by decide)
    · exact days 31 (by decide)

variable {other period : GroupPeriod} {closedAt ends start : Time} {group : Group}
  {s : GroupSettings} {seconds : Int}

section Seconds

variable {anchor now : Time} {seconds : Int}

theorem groupPeriodStart_eq :
    groupPeriodStart anchor now (seconds * second) =
      if now < anchor then anchor else Grid.start anchor (seconds * second) now := by
  have whole : seconds * second / second = seconds := Int.mul_ediv_cancel _ (by decide)
  unfold groupPeriodStart
  split
  · rfl
  · -- The borrow makes the seconds elapsed those of the difference.
    have elapsed : (if nanosecond now < nanosecond anchor then unix now - unix anchor - 1
        else unix now - unix anchor) = (now - anchor) / second := by
      unfold unix nanosecond second
      split <;> omega
    dsimp only
    rw [whole, elapsed, timeUnix_add, Int.ediv_ediv_of_nonneg (by decide), Grid.start,
      mul_comm second seconds]
    ring

theorem addGroupPeriods_eq_ok (positive : 0 < seconds) {count : Int} :
    addGroupPeriods anchor (seconds * second) count = .ok ends ↔
      InCalendar anchor ∧ 0 ≤ count ∧ unix ends ≤ lastCalendarSecond ∧
        ends = anchor + count * (seconds * second) := by
  have whole : seconds * second / second = seconds := Int.mul_ediv_cancel _ (by decide)
  have fits : count ≤ (lastCalendarSecond - unix anchor) / seconds ↔
      unix anchor + count * seconds ≤ lastCalendarSecond := by
    rw [Int.le_ediv_iff_mul_le positive]
    omega
  unfold addGroupPeriods validateGroupTime
  rw [check_bind_eq_ok, whole]
  dsimp only
  rw [throw_eq_error, error_bind, refuse_eq_ok, timeUnix_add]
  constructor
  · rintro ⟨calendar, bounds, ok⟩
    cases ok
    rw [ite_eq_left_iff] at calendar
    refine ⟨?_, by omega, ?_, by ring⟩
    · by_contra outside
      cases calendar outside
    · rw [unix_add_seconds]
      exact fits.mp (by omega)
  · rintro ⟨calendar, nonneg, last, rfl⟩
    have same : anchor + count * (seconds * second) = anchor + count * seconds * second := by ring
    rw [same, unix_add_seconds] at last
    refine ⟨if_pos calendar, ?_, by rw [same]; rfl⟩
    have := fits.mpr last
    omega

end Seconds

/-! ## What a group shows -/

/-- The row of a group and its current period show a timeline. -/
structure Group.Shows (group : Group) (period : GroupPeriod) (T : Timeline) : Prop where
  active : group.archivedAt = none
  current : group.currentPeriodID = some period.id
  owner : period.groupID = group.id
  duration : groupPeriodDuration group.period group.customDays = .ok T.length
  anchor : group.startsAt = T.anchor
  starts : period.startsAt = T.start
  ends : period.endsAt = T.ends
  number : group.currentPeriodNumber = T.number
  count : group.periodCount = T.count
  expiry : group.expiresAt = T.expiry
  within : T.count ≠ 0 → T.number ≤ T.count
  nonneg : 0 ≤ T.count
  calendar : InCalendar T.start

/-- The group with a given row shows a timeline through a stored period. -/
def Timed (db : Db) (group : Group) : Prop :=
  ∃ period T, db.groupPeriods.find? period.id = some period ∧ group.Shows period T

/-- Every group shows a timeline. -/
def AllTimed (db : Db) : Prop := ∀ id group, db.groups.find? id = some group → Timed db group

/-- Two rows of the same period, whose funds may differ. -/
def GroupPeriod.SameSpan (period period' : GroupPeriod) : Prop :=
  period'.id = period.id ∧ period'.groupID = period.groupID ∧
    period'.startsAt = period.startsAt ∧ period'.endsAt = period.endsAt

/-- Every stored period keeps its span. -/
def SpansKept (db db' : Db) : Prop :=
  ∀ id period, db.groupPeriods.find? id = some period →
    ∃ period', db'.groupPeriods.find? id = some period' ∧ period.SameSpan period'

theorem Group.Shows.of_sameSpan {period' : GroupPeriod}
    (shows' : group.Shows period T) (same : period.SameSpan period') : group.Shows period' T := by
  obtain ⟨id, owner, starts, ends⟩ := same
  exact { shows' with
    current := by rw [id, shows'.current]
    owner := by rw [owner, shows'.owner]
    starts := by rw [starts, shows'.starts]
    ends := by rw [ends, shows'.ends] }

theorem Timed.of_spansKept (timed : Timed db group) (kept : SpansKept db db') :
    Timed db' group := by
  obtain ⟨period, T, found, shows'⟩ := timed
  obtain ⟨period', found', same⟩ := kept _ _ found
  exact ⟨period', T, by rw [same.1]; exact found', shows'.of_sameSpan same⟩

theorem SpansKept.refl (db : Db) : SpansKept db db :=
  fun _ period found => ⟨period, found, rfl, rfl, rfl, rfl⟩

theorem SpansKept.trans {a b c : Db} (first : SpansKept a b) (second : SpansKept b c) :
    SpansKept a c := by
  intro id period found
  obtain ⟨middle, found', same⟩ := first id period found
  obtain ⟨last, found'', same'⟩ := second id middle found'
  exact ⟨last, found'', same'.1.trans same.1, same'.2.1.trans same.2.1,
    same'.2.2.1.trans same.2.2.1, same'.2.2.2.trans same.2.2.2⟩

theorem spansKept_of_extended (extended : PeriodsExtended db.groupPeriods db'.groupPeriods) :
    SpansKept db db' := by
  intro id period found
  obtain ⟨member, rfl⟩ := Table.find?_eq_some.mp found
  obtain ⟨period', member', same⟩ := extended.kept period member
  have row : { period' with closedAt := period.closedAt } = period := same
  refine ⟨period', Table.find?_eq_some.mpr ⟨member', same.id_eq⟩, same.id_eq, ?_, ?_, ?_⟩ <;>
    rw [← row]

theorem AllTimed.step (timed : AllTimed db) (id : GroupID) (kept : SpansKept db db')
    (others : ∀ other, other ≠ id → db'.groups.find? other = db.groups.find? other)
    (here : ∀ group, db'.groups.find? id = some group → Timed db' group) : AllTimed db' := by
  intro other group found
  by_cases same : other = id
  · exact here group (same ▸ found)
  · rw [others other same] at found
    exact (timed other group found).of_spansKept kept

/-- The summary that is read from a row and its current period. -/
@[simps] def summaryOf (db : Db) (group : Group) (period : GroupPeriod) : GroupSummary where
  id := group.id
  name := group.name
  limitUSD := numericText group.limitUSD
  memberLimitUSD := group.memberLimitUSD.map numericText
  usedUSD := numericText period.usedUSD
  remainingUSD := numericText (max (group.limitUSD - period.usedUSD) 0)
  period := group.period
  customDays := group.customDays
  startsAt := group.startsAt
  periodID := period.id
  periodStartsAt := period.startsAt
  periodEndsAt := period.endsAt
  periodCount := group.periodCount
  currentPeriodNumber := group.currentPeriodNumber
  expiresAt := group.expiresAt
  memberCount := memberCount db group.id
  archivedAt := group.archivedAt
  modelIDs := group.modelIDs

theorem readGroupSummary_eq_ok :
    readGroupSummary db id = .ok g ↔ ∃ group period, db.groups.find? id = some group ∧
      group.currentPeriodID = some period.id ∧ db.groupPeriods.find? period.id = some period ∧
      g = summaryOf db group period := by
  unfold readGroupSummary
  constructor
  · intro ok
    split at ok
    · cases ok
    · rename_i group found
      split at ok
      · cases ok
      · rename_i period current
        obtain ⟨periodID, named, stored⟩ := Option.bind_eq_some_iff.mp current
        have key := Table.key_of_find? stored
        subst key
        cases ok
        have same := Table.key_of_find? found
        subst same
        exact ⟨group, period, found, named, stored, rfl⟩
  · rintro ⟨group, period, found, named, stored, rfl⟩
    have same := Table.key_of_find? found
    subst same
    simp only [found, named, Option.bind_some, stored]
    rfl

/-! ## Rolling a group rolls its timeline -/

theorem unix_mono {s : Time} (order : s ≤ t) : unix s ≤ unix t :=
  Int.ediv_le_ediv (by decide) order

/-- A roll leaves the group as it is: its period is still open, it has expired, or the
calendar has no room for the next period. -/
def Stays (T : Timeline) (t : Time) : Prop :=
  t < T.ends ∨ (∃ e ∈ T.expiry, e ≤ t) ∨ lastCalendarSecond < unix (T.moved t).ends

section Roll

variable {db : Db} {id : GroupID} {group : Group} {period : GroupPeriod} {T : Timeline} {t : Time}

def Group.moved (group : Group) (T : Timeline) (t : Time) (newID : PeriodID) : Group :=
  { group with currentPeriodID := some newID, currentPeriodNumber := (T.moved t).number }

def Group.opened (group : Group) (T : Timeline) (t : Time) (newID : PeriodID) : GroupPeriod :=
  ⟨newID, group.id, (T.moved t).start, (T.moved t).ends, group.limitUSD, 0, group.memberLimitUSD,
    none⟩

/-- The tables after a period was replaced by a new one. -/
structure Replaced (db : Db) (g : GroupSummary) (starts ends : Time) (newID : PeriodID) (db' : Db) :
    Prop where
  groups : ∀ other, db'.groups.find? other =
    if other = g.id then (db.groups.find? g.id).map fun group =>
      { group with currentPeriodID := some newID, currentPeriodNumber := g.currentPeriodNumber }
    else db.groups.find? other
  opened : db'.groupPeriods.find? newID = some ⟨newID, g.id, starts, ends, numeric g.limitUSD, 0,
    g.memberLimitUSD.map numeric, none⟩
  spans : SpansKept db db'
  ids : ∀ other, other ≠ newID → db.groupPeriods.find? other = none →
    db'.groupPeriods.find? other = none

theorem find?_isSome_closing (periods : Table GroupPeriod.id) (current : PeriodID)
    (close : GroupPeriod → Option Time) (id : PeriodID) :
    ((periods.modify current (fun period => { period with closedAt := close period })
      (fun _ => rfl)).find? id).isSome = (periods.find? id).isSome := by
  rw [Table.find?_modify]
  split
  · rename_i same
    rw [← same, Option.isSome_map]
  · rfl

section Replace

variable {g : GroupSummary} {starts ends : Time} {newID : PeriodID}

theorem replaceGroupPeriod_taken (current : Option PeriodID) (closedAt : Time)
    (taken : db.groupPeriods.find? newID = some other) :
    replaceGroupPeriod db g current starts ends closedAt newID =
      .error (.conflict "create group period") := by
  unfold replaceGroupPeriod
  dsimp only
  cases current with
  | none =>
    dsimp only
    rw [Table.insert?_eq_none.mpr ⟨other, taken⟩]
    rfl
  | some id =>
    have still := find?_isSome_closing db.groupPeriods id
      (fun period => some (period.closedAt.getD closedAt)) newID
    rw [taken] at still
    dsimp only
    rw [Table.insert?_eq_none.mpr (Option.isSome_iff_exists.mp still)]
    rfl

theorem replaced_of_insert {periods opened : Table GroupPeriod.id}
    (extended : PeriodsExtended db.groupPeriods periods)
    (free : ∀ id, db.groupPeriods.find? id = none → periods.find? id = none)
    (inserted : periods.insert? ⟨newID, g.id, starts, ends, numeric g.limitUSD, 0,
      g.memberLimitUSD.map numeric, none⟩ = some opened) :
    Replaced db g starts ends newID { db with
      groupPeriods := opened
      groups := db.groups.modify g.id
        (fun group => { group with
          currentPeriodID := some newID, currentPeriodNumber := g.currentPeriodNumber })
        (fun _ => rfl) } where
  groups other := by
    dsimp only
    rw [Table.find?_modify]
  opened := (Table.find?_insert? inserted newID).trans (if_pos rfl)
  spans := spansKept_of_extended (extended.trans (PeriodsExtended.opening inserted rfl))
  ids other different absent := by
    refine (Table.find?_insert? inserted other).trans ?_
    rw [if_neg (Ne.symm different)]
    exact free other absent

variable (g starts ends) in
theorem replaceGroupPeriod_fresh (current : Option PeriodID) (closedAt : Time)
    (fresh : db.groupPeriods.find? newID = none) :
    ∃ db', replaceGroupPeriod db g current starts ends closedAt newID = .ok db' ∧
      Replaced db g starts ends newID db' := by
  have insertable : ∀ periods : Table GroupPeriod.id, periods.find? newID = none →
      ∃ opened, periods.insert? ⟨newID, g.id, starts, ends, numeric g.limitUSD, 0,
        g.memberLimitUSD.map numeric, none⟩ = some opened := by
    intro periods absent
    rw [← Option.isSome_iff_exists, Option.isSome_iff_ne_none, ne_eq, Table.insert?_eq_none]
    rintro ⟨other, taken⟩
    exact Option.some_ne_none other (taken.symm.trans absent)
  unfold replaceGroupPeriod
  dsimp only
  cases current with
  | none =>
    obtain ⟨opened, inserted⟩ := insertable _ fresh
    refine ⟨_, ?_, replaced_of_insert (PeriodsExtended.refl _) (fun _ absent => absent) inserted⟩
    dsimp only
    rw [inserted]
    rfl
  | some id =>
    have free : ∀ other, db.groupPeriods.find? other = none →
        (db.groupPeriods.modify id
          (fun period => { period with closedAt := some (period.closedAt.getD closedAt) })
          (fun _ => rfl)).find? other = none := by
      intro other absent
      have still := find?_isSome_closing db.groupPeriods id
        (fun period => some (period.closedAt.getD closedAt)) other
      rwa [absent, Option.isSome_none, Option.isSome_eq_false_iff, Option.isNone_iff_eq_none] at still
    obtain ⟨opened, inserted⟩ := insertable _ (free newID fresh)
    refine ⟨_, ?_, replaced_of_insert (PeriodsExtended.closing _ id _) free inserted⟩
    dsimp only
    rw [inserted]
    rfl

theorem replaceGroupPeriod_replaced
    (ok : replaceGroupPeriod db g current starts ends closedAt newID = .ok db') :
    Replaced db g starts ends newID db' := by
  cases taken : db.groupPeriods.find? newID with
  | none =>
    obtain ⟨other, replaced, spec⟩ := replaceGroupPeriod_fresh g starts ends current closedAt taken
    rw [replaced] at ok
    cases ok
    exact spec
  | some other =>
    rw [replaceGroupPeriod_taken current closedAt taken] at ok
    cases ok

end Replace

structure Moved (db : Db) (group : Group) (T : Timeline) (t : Time) (newID : PeriodID) (db' : Db) :
    Prop where
  groups : ∀ other, db'.groups.find? other =
    if other = group.id then some (group.moved T t newID) else db.groups.find? other
  opened : db'.groupPeriods.find? newID = some (group.opened T t newID)
  spans : SpansKept db db'
  ids : ∀ other, other ≠ newID → db.groupPeriods.find? other = none →
    db'.groupPeriods.find? other = none

variable (found : db.groups.find? id = some group)
  (stored : db.groupPeriods.find? period.id = some period) (shows' : group.Shows period T)

include found stored shows'

theorem Group.Shows.read : readGroupSummary db id = .ok (summaryOf db group period) :=
  readGroupSummary_eq_ok.mpr ⟨group, period, found, shows'.current, stored, rfl⟩

theorem rollGroup_stays (stays : Stays T t) (newID : PeriodID) :
    rollGroup db id t newID = .ok (db, summaryOf db group period) := by
  obtain ⟨seconds, positive, length⟩ := groupPeriodDuration_seconds shows'.duration
  unfold rollGroup
  rw [shows'.read found stored, ok_bind]
  by_cases guard : (summaryOf db group period).archivedAt.isSome = true ∨
      t < (summaryOf db group period).periodEndsAt ∨
      ((summaryOf db group period).expiresAt.any fun e => decide (e ≤ t)) = true
  · rw [if_pos guard]
    rfl
  · rw [if_neg guard]
    have open' : ¬ t < T.ends := by
      intro within
      exact guard (.inr (.inl (by rw [summaryOf, shows'.ends]; exact within)))
    have late : lastCalendarSecond < unix (T.moved t).ends := by
      rcases stays with within | ⟨e, expires, passed⟩ | late
      · exact absurd within open'
      · refine absurd (.inr (.inr ?_)) guard
        rw [summaryOf, shows'.expiry, Option.mem_def.mp expires]
        exact decide_eq_true passed
      · exact late
    have after : ¬ t < period.startsAt := by
      rw [shows'.starts, not_lt]
      exact T.start_lt_ends.le.trans (not_lt.mp open')
    have start : groupPeriodStart period.startsAt t T.length = (T.moved t).start := by
      rw [length, groupPeriodStart_eq, if_neg after, ← length, shows'.starts, Timeline.moved_start]
    change (groupPeriodDuration group.period group.customDays >>= _) = _
    rw [shows'.duration, ok_bind]
    dsimp only
    rw [show (summaryOf db group period).periodStartsAt = period.startsAt from rfl, start]
    cases next : addGroupPeriods (T.moved t).start T.length 1 with
    | error err => rfl
    | ok ends =>
      rw [length, addGroupPeriods_eq_ok positive] at next
      obtain ⟨-, -, last, same⟩ := next
      rw [one_mul, ← length] at same
      have bound : unix (T.moved t).ends ≤ lastCalendarSecond := by
        rw [show (T.moved t).ends = ends from same.symm]
        exact last
      omega

omit found stored in
theorem Group.Shows.moved (moves : ¬ Stays T t) (newID : PeriodID) :
    (group.moved T t newID).Shows (group.opened T t newID) (T.moved t) := by
  simp only [Stays, not_or, not_exists, not_and, not_lt, not_le] at moves
  obtain ⟨ended, unexpired, last⟩ := moves
  have rolled : T.roll t = T.moved t := if_neg (not_lt.mpr ended)
  have forward : T.start ≤ (T.moved t).start := by
    have := mul_nonneg (T.steps_nonneg ended) T.positive.le
    change T.start ≤ T.start + T.steps t * T.length
    omega
  refine { shows' with
    current := rfl
    owner := rfl
    starts := rfl
    ends := rfl
    number := rfl
    expiry := shows'.expiry.trans (T.moved_expiry t).symm
    within := ?_
    calendar := ⟨shows'.calendar.1.trans (unix_mono forward), ?_⟩ }
  · intro counted
    have bound := T.roll_number_le counted (shows'.within counted)
      (fun e expires => unexpired e expires)
    rwa [rolled] at bound
  · exact (unix_mono (T.moved t).start_lt_ends.le).trans last

/-- The period that a roll reads, with the number of the one that it opens. -/
theorem rollGroup_replaces (moves : ¬ Stays T t) (newID : PeriodID) :
    rollGroup db id t newID = do
      let rolled ← replaceGroupPeriod db
        { summaryOf db group period with currentPeriodNumber := (T.moved t).number }
        (some period.id) (T.moved t).start (T.moved t).ends period.endsAt newID
      let summary ← readGroupSummary rolled id
      return (rolled, summary) := by
  obtain ⟨seconds, positive, length⟩ := groupPeriodDuration_seconds shows'.duration
  have after' := shows'.moved moves newID
  simp only [Stays, not_or, not_exists, not_and, not_lt, not_le] at moves
  obtain ⟨ended, unexpired, last⟩ := moves
  have number : group.currentPeriodNumber +
      (unix (T.moved t).start - unix period.startsAt) / (T.length / second) =
      (T.moved t).number := by
    have shift : (T.moved t).start = T.start + T.steps t * seconds * second := by
      change T.start + T.steps t * T.length = _
      rw [length]
      ring
    rw [shift, unix_add_seconds, shows'.starts, length, Int.mul_ediv_cancel _ (by decide),
      add_sub_cancel_left, Int.mul_ediv_cancel _ positive.ne', shows'.number]
    rfl
  have after : ¬ t < period.startsAt := by
    rw [shows'.starts, not_lt]
    exact T.start_lt_ends.le.trans ended
  have start : groupPeriodStart period.startsAt t T.length = (T.moved t).start := by
    rw [length, groupPeriodStart_eq, if_neg after, ← length, shows'.starts, Timeline.moved_start]
  have next : addGroupPeriods (T.moved t).start T.length 1 = .ok (T.moved t).ends := by
    rw [length, addGroupPeriods_eq_ok positive]
    refine ⟨after'.calendar, by decide, last, ?_⟩
    rw [one_mul, ← length]
    rfl
  have within : ¬ (group.periodCount > 0 ∧ (T.moved t).number > group.periodCount) := by
    rintro ⟨counted, beyond⟩
    have bound := after'.within (shows'.count ▸ counted.ne')
    rw [Timeline.moved_count, ← shows'.count] at bound
    exact absurd beyond (not_lt.mpr bound)
  unfold rollGroup
  rw [shows'.read found stored, ok_bind, if_neg]
  · simp only [summaryOf_period, summaryOf_customDays, summaryOf_periodID,
      summaryOf_periodStartsAt, summaryOf_periodEndsAt, summaryOf_periodCount,
      summaryOf_currentPeriodNumber, shows'.duration, ok_bind, start, next, number, if_neg within]
  · rintro (archived | within | expired)
    · rw [summaryOf_archivedAt, shows'.active] at archived
      cases archived
    · rw [summaryOf_periodEndsAt, shows'.ends] at within
      exact absurd within (not_lt.mpr ended)
    · rw [summaryOf_expiresAt, shows'.expiry] at expired
      obtain ⟨e, expires, passed⟩ := (Option.any_eq_true _ _).mp expired
      exact absurd (unexpired e expires) (not_lt.mpr (of_decide_eq_true passed))

theorem rollGroup_moves (moves : ¬ Stays T t) (fresh : db.groupPeriods.find? newID = none) :
    ∃ db', rollGroup db id t newID =
        .ok (db', summaryOf db' (group.moved T t newID) (group.opened T t newID)) ∧
      Moved db group T t newID db' := by
  have key := Table.key_of_find? found
  subst key
  obtain ⟨db', replaced, spec⟩ := replaceGroupPeriod_fresh
    { summaryOf db group period with currentPeriodNumber := (T.moved t).number }
    (T.moved t).start (T.moved t).ends (some period.id) period.endsAt fresh
  have moved : Moved db group T t newID db' := by
    refine ⟨fun other => ?_, ?_, spec.spans, spec.ids⟩
    · rw [spec.groups, summaryOf_id, found]
      rfl
    · rw [spec.opened]
      simp [Group.opened, Function.comp_def]
  have read : readGroupSummary db' group.id =
      .ok (summaryOf db' (group.moved T t newID) (group.opened T t newID)) := by
    rw [readGroupSummary_eq_ok]
    exact ⟨_, _, (moved.groups group.id).trans (if_pos rfl), rfl, moved.opened, rfl⟩
  refine ⟨db', ?_, moved⟩
  rw [rollGroup_replaces found stored shows' moves, replaced, ok_bind, read]
  rfl

theorem rollGroup_taken (moves : ¬ Stays T t) (taken : db.groupPeriods.find? newID = some other) :
    rollGroup db id t newID = .error (.conflict "create group period") := by
  rw [rollGroup_replaces found stored shows' moves, replaceGroupPeriod_taken _ _ taken]
  rfl

end Roll

/-- The error that a roll past the last period would raise. -/
def countExceeded : StoreError := .invalid "group period exceeds its configured count"

/-- A step on one group of a store whose groups all show a timeline. -/
structure TimedStep (db : Db) (id : GroupID) (db' : Db) : Prop where
  spans : SpansKept db db'
  others : ∀ other, other ≠ id → db'.groups.find? other = db.groups.find? other
  here : ∀ group, db'.groups.find? id = some group → Timed db' group

theorem TimedStep.timed (step : TimedStep db id db') (timed : AllTimed db) : AllTimed db' :=
  timed.step id step.spans step.others step.here

theorem Moved.timedStep (moved : Moved db group T t newID db') (shows' : group.Shows period T)
    (moves : ¬ Stays T t) : TimedStep db group.id db' where
  spans := moved.spans
  others other different := by rw [moved.groups, if_neg different]
  here row found := by
    rw [moved.groups, if_pos rfl] at found
    cases found
    exact ⟨_, _, moved.opened, shows'.moved moves newID⟩

theorem rollGroup_timed (timed : AllTimed db) (ok : rollGroup db id t newID = .ok (db', g)) :
    TimedStep db id db' ∧ ∃ group period T, db'.groups.find? id = some group ∧
      db'.groupPeriods.find? period.id = some period ∧ group.Shows period T ∧
      g = summaryOf db' group period := by
  obtain ⟨summary, read, -⟩ := bind_eq_ok.mp ok
  obtain ⟨group, -, found, -⟩ := readGroupSummary_eq_ok.mp read
  have key := Table.key_of_find? found
  subst key
  obtain ⟨period, T, stored, shows'⟩ := timed _ _ found
  by_cases stays : Stays T t
  · rw [rollGroup_stays found stored shows' stays] at ok
    cases ok
    exact ⟨⟨SpansKept.refl db, fun _ _ => rfl, timed _⟩, group, period, T, found, stored, shows', rfl⟩
  · cases taken : db.groupPeriods.find? newID with
    | none =>
      obtain ⟨rolled, result, moved⟩ := rollGroup_moves found stored shows' stays taken
      rw [result] at ok
      cases ok
      exact ⟨moved.timedStep shows' stays, _, _, _, (moved.groups group.id).trans (if_pos rfl),
        moved.opened, shows'.moved stays newID, rfl⟩
    | some other =>
      rw [rollGroup_taken found stored shows' stays taken] at ok
      cases ok

/-- A roll keeps the database, or replaces the period of the group it reads. -/
theorem rollGroup_cases (ok : rollGroup db id now newID = .ok (db', g)) :
    ∃ read, readGroupSummary db id = .ok read ∧ readGroupSummary db' id = .ok g ∧
      (db' = db ∨ ∃ number starts ends, replaceGroupPeriod db
        { read with currentPeriodNumber := number } (some read.periodID) starts ends
        read.periodEndsAt newID = .ok db') := by
  unfold rollGroup at ok
  obtain ⟨summary, read, ok⟩ := bind_eq_ok.mp ok
  refine ⟨summary, read, ?_⟩
  split at ok
  · cases ok
    exact ⟨read, .inl rfl⟩
  · obtain ⟨duration, -, ok⟩ := bind_eq_ok.mp ok
    dsimp only at ok
    split at ok
    · cases ok
      exact ⟨read, .inl rfl⟩
    · rename_i ends _
      obtain ⟨-, ok⟩ := refuse_eq_ok.mp ok
      obtain ⟨replaced, replacing, ok⟩ := bind_eq_ok.mp ok
      obtain ⟨rolled, again, ok⟩ := bind_eq_ok.mp ok
      cases ok
      exact ⟨again, .inr ⟨_, _, ends, replacing⟩⟩

theorem rollGroup_read (ok : rollGroup db id now newID = .ok (db', g)) :
    (db.groups.find? id).isSome = true ∧ readGroupSummary db' id = .ok g := by
  obtain ⟨summary, read, again, -⟩ := rollGroup_cases ok
  obtain ⟨group, -, found, -⟩ := readGroupSummary_eq_ok.mp read
  exact ⟨by rw [found]; rfl, again⟩

/-! ## Writing a group -/

/-- What the checks say about the parameters of a write. -/
structure GroupSettings.Checked (s : GroupSettings) (now : Time) : Prop where
  duration : groupPeriodDuration s.period s.customDays = .ok s.duration
  count : ∀ n ∈ s.periodCount, 0 ≤ n
  anchor : ∀ anchor ∈ s.startsAt, InCalendar anchor
  now : InCalendar now

theorem validateGroupTime_eq_ok : validateGroupTime t = .ok () ↔ InCalendar t := by
  unfold validateGroupTime
  split <;> simp_all

theorem putGroupSettings_ok {params : PutGroupParams}
    (ok : putGroupSettings params = .ok s) : s.Checked params.write.at' := by
  obtain ⟨-, ok⟩ := refuse_eq_ok.mp ok
  obtain ⟨amount, -, ok⟩ := bind_eq_ok.mp ok
  obtain ⟨memberLimit, -, ok⟩ := bind_eq_ok.mp ok
  obtain ⟨⟨period, duration⟩, spans, ok⟩ := bind_eq_ok.mp ok
  obtain ⟨now, ok⟩ := check_bind_eq_ok.mp ok
  obtain ⟨count, ok⟩ := check_bind_eq_ok.mp ok
  obtain ⟨models, -, ok⟩ := bind_eq_ok.mp ok
  obtain ⟨anchor, ok⟩ := check_bind_eq_ok.mp ok
  cases ok
  refine ⟨?_, ?_, ?_, validateGroupTime_eq_ok.mp now⟩
  · unfold groupPeriodInput at spans
    split at spans
    · obtain ⟨length, measured, same⟩ := map_eq_ok.mp spans
      cases same
      exact measured
    · split at spans <;> cases spans
  · intro n given
    unfold checkPeriodCount at count
    split at count
    · cases count
    · rename_i inRange
      rw [show params.periodCount = some n from given] at inRange
      simp only [Option.any_some, decide_eq_true_eq, not_or] at inRange
      omega
  · intro start given
    rw [show params.startsAt = some start from given] at anchor
    exact validateGroupTime_eq_ok.mp anchor

theorem groupExpiration_ok (positive : 0 < seconds) (length : T.length = seconds * second)
    (ok : groupExpiration T.ends T.length T.count T.number = .ok expires) :
    expires = T.expiry ∧ (T.count ≠ 0 → T.number ≤ T.count) := by
  unfold groupExpiration at ok
  split at ok
  · rename_i unlimited
    cases ok
    exact ⟨by rw [Timeline.expiry, if_pos unlimited], fun limited => absurd unlimited limited⟩
  · rename_i limited
    obtain ⟨within, ok⟩ := refuse_eq_ok.mp ok
    obtain ⟨last, added, ok⟩ := bind_eq_ok.mp ok
    cases ok
    rw [length, addGroupPeriods_eq_ok positive] at added
    obtain ⟨-, -, -, rfl⟩ := added
    refine ⟨?_, fun _ => by omega⟩
    rw [Timeline.expiry, if_neg limited, length]

theorem AllTimed.congr (timed : AllTimed db) (groups : db'.groups = db.groups)
    (periods : db'.groupPeriods = db.groupPeriods) : AllTimed db' := by
  intro id group found
  obtain ⟨period, T, stored, shows'⟩ := timed id group (groups ▸ found)
  exact ⟨period, T, by rw [periods]; exact stored, shows'⟩

/-- The group before a write: none, or one that shows a timeline. -/
inductive Drafted (db : Db) (s : GroupSettings) (ids : PutGroupIDs) (drafted : Db) :
    GroupSummary → Option PeriodID → Prop
  | blank {old : GroupSummary} : drafted = db → old.id = ids.group → old.periodCount = 1 →
      old.archivedAt = none → Drafted db s ids drafted old none
  | stored {group : Group} {period : GroupPeriod} {T : Timeline} (models : List Text) :
      TimedStep db group.id drafted → drafted.groups.find? group.id = some group →
      drafted.groupPeriods.find? period.id = some period → group.Shows period T →
      Drafted db s ids drafted { summaryOf drafted group period with modelIDs := models }
        (some period.id)

theorem draftGroup_ok (timed : AllTimed db)
    (ok : draftGroup db s now ids = .ok (drafted, old, current)) :
    Drafted db s ids drafted old current := by
  unfold draftGroup at ok
  split at ok
  · obtain ⟨models, -, ok⟩ := bind_eq_ok.mp ok
    cases ok
    exact .blank rfl rfl rfl rfl
  · rename_i id named
    obtain ⟨-, ok⟩ := check_bind_eq_ok.mp ok
    obtain ⟨⟨rolled, g⟩, roll, ok⟩ := bind_eq_ok.mp ok
    obtain ⟨-, ok⟩ := check_bind_eq_ok.mp ok
    obtain ⟨models, -, ok⟩ := bind_eq_ok.mp ok
    cases ok
    obtain ⟨step, group, period, T, found, stored, shows', rfl⟩ := rollGroup_timed timed roll
    have key := Table.key_of_find? found
    subst key
    exact .stored models step found stored shows'

theorem saveGroup_ok (stored : current.isSome = true → ∃ group, db.groups.find? g.id = some group ∧
      group.archivedAt = g.archivedAt ∧ group.currentPeriodID = current)
    (ok : saveGroup db s g start expires current = .ok db') :
    db' = { db with groups := db'.groups } ∧
      (∀ other, other ≠ g.id → db'.groups.find? other = db.groups.find? other) ∧
      db'.groups.find? g.id = some (groupRow s g start expires current) := by
  unfold saveGroup at ok
  split at ok
  · split at ok
    · cases ok
    · rename_i groups inserted
      cases ok
      refine ⟨rfl, fun other different => ?_, (Table.find?_insert? inserted _).trans (if_pos rfl)⟩
      exact (Table.find?_insert? inserted other).trans (if_neg (Ne.symm different))
  · obtain ⟨group, found, archived, named⟩ := stored rfl
    have key := Table.key_of_find? found
    cases ok
    refine ⟨rfl, fun other different => ?_, ?_⟩
    · dsimp only
      rw [Table.find?_modify, if_neg different]
    · dsimp only
      rw [Table.find?_modify, if_pos rfl, found, Option.map_some, archived, named, key]
      rfl

/-- Placing the period of a new term on the grid of its anchor. -/
theorem groupPeriodStart_on {anchor : Time} (length : duration = seconds * second) :
    Grid.On anchor duration (groupPeriodStart anchor now duration) := by
  rw [length, groupPeriodStart_eq]
  split
  · exact Grid.On.refl _ _
  · exact Grid.start_on _ _ _

section Write

variable {db saved db' : Db} {s : GroupSettings} {g : GroupSummary} {start now : Time}
  {expires : Option Time} {current : Option PeriodID} {newID : PeriodID}

theorem resetTerm_timed (checked : s.Checked now) (nonneg : 0 ≤ g.periodCount)
    (active : g.archivedAt = none) (starts : g.periodStartsAt = groupPeriodStart start now s.duration)
    (placed : addGroupPeriods g.periodStartsAt s.duration 1 = .ok g.periodEndsAt)
    (expiration : groupExpiration g.periodEndsAt s.duration g.periodCount g.currentPeriodNumber =
      .ok expires)
    (row : saved.groups.find? g.id = some (groupRow s g start expires current))
    (replaced : replaceGroupPeriod saved g current g.periodStartsAt g.periodEndsAt now newID =
      .ok db') : TimedStep saved g.id db' := by
  obtain ⟨seconds, positive, length⟩ := groupPeriodDuration_seconds checked.duration
  rw [length, addGroupPeriods_eq_ok positive, one_mul] at placed
  obtain ⟨calendar, -, -, ends⟩ := placed
  let T : Timeline :=
    { anchor := start
      length := s.duration
      start := g.periodStartsAt
      number := g.currentPeriodNumber
      count := g.periodCount
      positive := by rw [length]; exact Int.mul_pos positive (by decide)
      onGrid := by rw [starts]; exact groupPeriodStart_on length }
  have endsEq : g.periodEndsAt = T.ends := by rw [ends, ← length]; rfl
  rw [endsEq] at expiration
  obtain ⟨expiry, within⟩ := groupExpiration_ok (T := T) positive length expiration
  have spec := replaceGroupPeriod_replaced replaced
  refine ⟨spec.spans, fun other different => by rw [spec.groups, if_neg different], ?_⟩
  intro group found
  rw [spec.groups, if_pos rfl, row, Option.map_some, Option.some.injEq] at found
  subst found
  exact ⟨⟨newID, g.id, g.periodStartsAt, g.periodEndsAt, numeric g.limitUSD, 0,
      g.memberLimitUSD.map numeric, none⟩, T, spec.opened,
    { active := active
      current := rfl
      owner := rfl
      duration := checked.duration
      anchor := rfl
      starts := rfl
      ends := endsEq
      number := rfl
      count := rfl
      expiry := expiry
      within := within
      nonneg := nonneg
      calendar := calendar }⟩

theorem editTerm_timed (checked : s.Checked now)
    (timed : AllTimed db) (stored : db.groupPeriods.find? period.id = some period)
    (shows' : group.Shows period T) (nonneg : 0 ≤ g.periodCount)
    (same : g.id = group.id ∧ g.archivedAt = none ∧ g.periodID = period.id ∧
      g.periodEndsAt = period.endsAt ∧ g.currentPeriodNumber = group.currentPeriodNumber)
    (unchanged : group.period = s.period ∧ group.customDays = s.customDays)
    (expiration : groupExpiration g.periodEndsAt s.duration g.periodCount g.currentPeriodNumber =
      .ok expires) (frame : saved = { db with groups := saved.groups })
    (others : ∀ other, other ≠ g.id → saved.groups.find? other = db.groups.find? other)
    (row : saved.groups.find? g.id = some (groupRow s g group.startsAt expires (some period.id))) :
    AllTimed (limitPeriod saved s g) := by
  obtain ⟨id, active, periodID, ends, number⟩ := same
  obtain ⟨kind, days⟩ := unchanged
  obtain ⟨seconds, positive, length⟩ := groupPeriodDuration_seconds shows'.duration
  have duration : s.duration = T.length := by
    have measured := shows'.duration
    rw [kind, days, checked.duration] at measured
    exact Except.ok.inj measured
  rw [ends, shows'.ends, duration, number, shows'.number] at expiration
  have expiry := groupExpiration_ok (T := { T with count := g.periodCount }) positive length
    expiration
  have periods : saved.groupPeriods = db.groupPeriods := by rw [frame]
  refine timed.step g.id ?_ others ?_
  · intro periodID' other found
    dsimp only [limitPeriod]
    rw [Table.find?_modify, periods]
    split
    · rename_i here
      rw [← here, found]
      exact ⟨_, rfl, rfl, rfl, rfl, rfl⟩
    · exact ⟨other, found, rfl, rfl, rfl, rfl⟩
  · intro edited found
    change saved.groups.find? g.id = _ at found
    rw [row] at found
    cases found
    refine ⟨{ period with
      limitUSD := numeric s.amount, memberLimitUSD := g.memberLimitUSD.map numeric },
      { T with count := g.periodCount }, ?_, ?_⟩
    · dsimp only [limitPeriod]
      rw [Table.find?_modify, periodID, if_pos rfl, periods, stored]
      rfl
    · exact
        { active := active
          current := rfl
          owner := shows'.owner.trans id.symm
          duration := checked.duration.trans (by rw [duration])
          anchor := shows'.anchor
          starts := shows'.starts
          ends := shows'.ends
          number := number.trans shows'.number
          count := rfl
          expiry := expiry.1
          within := expiry.2
          nonneg := nonneg
          calendar := shows'.calendar }

end Write

/-! ## Errors -/

theorem failsWith_rollGroup (timed : AllTimed db) (id : GroupID) (t : Time) (newID : PeriodID) :
    FailsWith (· ≠ countExceeded) (rollGroup db id t newID) := by
  cases found : db.groups.find? id with
  | none =>
    have missing : rollGroup db id t newID = .error (.notFound "read group") := by
      unfold rollGroup readGroupSummary
      rw [found]
      rfl
    rw [missing]
    exact failsWith_error (by decide)
  | some group =>
    obtain ⟨period, T, stored, shows'⟩ := timed _ _ found
    by_cases stays : Stays T t
    · rw [rollGroup_stays found stored shows' stays]
      exact failsWith_ok _
    · cases taken : db.groupPeriods.find? newID with
      | none =>
        obtain ⟨rolled, result, -⟩ := rollGroup_moves found stored shows' stays taken
        rw [result]
        exact failsWith_ok _
      | some other =>
        rw [rollGroup_taken found stored shows' stays taken]
        exact failsWith_error (by decide)

theorem failsWith_addGroupPeriods (anchor : Time) (duration count : Int) :
    FailsWith (· ≠ countExceeded) (addGroupPeriods anchor duration count) := by
  refine FailsWith.bind ?_ fun _ _ => failsWith_refuse (by decide) fun _ => failsWith_ok _
  unfold validateGroupTime
  split
  · exact failsWith_ok _
  · exact failsWith_error (by decide)

theorem failsWith_replaceGroupPeriod {starts : Time} :
    FailsWith (· ≠ countExceeded) (replaceGroupPeriod db g current starts ends closedAt newID) := by
  unfold replaceGroupPeriod
  dsimp only
  split
  · exact failsWith_error (by decide)
  · exact failsWith_ok _

/-- What a transaction does to a store whose groups show timelines: it keeps them, and
does not count past the last period. -/
def Keeps {α : Type} (result : Except StoreError (Db × α)) : Prop :=
  (∀ db' a, result = .ok (db', a) → AllTimed db') ∧ FailsWith (· ≠ countExceeded) result

theorem placePeriod_ok {reset : Bool} {blank : GroupSummary}
    (ok : placePeriod reset blank start now duration = .ok g) :
    (g.id = blank.id ∧ g.archivedAt = blank.archivedAt ∧ g.periodCount = blank.periodCount) ∧
      (reset = true → g.currentPeriodNumber = 1 ∧
        g.periodStartsAt = groupPeriodStart start now duration ∧
        addGroupPeriods g.periodStartsAt duration 1 = .ok g.periodEndsAt) ∧
      (reset = false → g = blank) := by
  unfold placePeriod at ok
  cases reset with
  | true =>
    obtain ⟨ends, added, ok⟩ := bind_eq_ok.mp ok
    cases ok
    exact ⟨⟨rfl, rfl, rfl⟩, fun _ => ⟨rfl, rfl, added⟩, fun impossible => by cases impossible⟩
  | false =>
    cases ok
    exact ⟨⟨rfl, rfl, rfl⟩, (fun impossible => by cases impossible), fun _ => rfl⟩

theorem Drafted.known (draft : Drafted db s ids drafted old current) (timed : AllTimed db) :
    AllTimed drafted ∧ 0 ≤ old.periodCount ∧ old.archivedAt = none ∧
      (current.isSome = true → ∃ group, drafted.groups.find? old.id = some group ∧
        group.archivedAt = old.archivedAt ∧ group.currentPeriodID = current) := by
  cases draft with
  | blank same id count active =>
    refine ⟨same ▸ timed, by rw [count]; decide, active, ?_⟩
    intro impossible
    cases impossible
  | stored models step found stored shows' =>
    exact ⟨step.timed timed, shows'.nonneg.trans_eq shows'.count.symm, shows'.active,
      fun _ => ⟨_, found, rfl, shows'.current⟩⟩

theorem saveTerm_keeps {saved : Db} (checked : s.Checked now)
    (timed : AllTimed db) (draft : Drafted db s ids drafted old current)
    (placed : placePeriod (resetsTerm s old current)
      { old with
        memberLimitUSD := s.memberLimit.getD old.memberLimitUSD
        periodCount := s.periodCount.getD old.periodCount
        limitUSD := s.amount }
      (if resetsTerm s old current then s.startsAt.getD now else old.startsAt) now s.duration = .ok g)
    (expiration : groupExpiration g.periodEndsAt s.duration g.periodCount g.currentPeriodNumber =
      .ok expires) (save : saveGroup drafted s g
      (if resetsTerm s old current then s.startsAt.getD now else old.startsAt) expires current =
      .ok saved) :
    (∀ db', savePeriod saved (resetsTerm s old current) s g current now ids.opened = .ok db' →
      AllTimed db') ∧
    FailsWith (· ≠ countExceeded)
      (savePeriod saved (resetsTerm s old current) s g current now ids.opened) := by
  obtain ⟨drafts, nonneg, active, row⟩ := draft.known timed
  obtain ⟨⟨id, archived, count⟩, resets, edits⟩ := placePeriod_ok placed
  dsimp only at id archived count
  have nonneg' : 0 ≤ g.periodCount := by
    rw [count]
    cases given : s.periodCount with
    | none => exact nonneg
    | some n => exact checked.count n given
  obtain ⟨frame, others, stored⟩ := saveGroup_ok (by rw [id, archived]; exact row) save
  have saves : SpansKept drafted saved := by
    rw [frame]
    exact SpansKept.refl drafted
  cases reset : resetsTerm s old current with
  | true =>
    obtain ⟨number, starts, added⟩ := resets reset
    rw [reset, if_pos rfl] at stored starts
    refine ⟨fun db' replaced => ?_, failsWith_replaceGroupPeriod⟩
    have step := resetTerm_timed checked nonneg' (archived.trans active) starts added
      expiration stored replaced
    refine drafts.step g.id (saves.trans step.spans) ?_ step.here
    intro other different
    rw [step.others other different, others other different]
  | false =>
    have limited : AllTimed (limitPeriod saved s g) := by
      rw [reset, if_neg (by decide)] at stored
      cases draft with
      | blank => cases reset
      | stored models step found stored' shows' =>
        have same := edits reset
        simp only [resetsTerm, Option.isNone_some, Bool.false_or, Bool.or_eq_false_iff,
          decide_eq_false_iff_not, not_not] at reset
        refine editTerm_timed checked drafts stored' shows' nonneg' ?_ reset.1 expiration frame
          others stored
        rw [same]
        exact ⟨rfl, shows'.active, rfl, rfl, rfl⟩
    refine ⟨fun db' rolled => ?_, (failsWith_rollGroup limited _ _ _).bind fun _ _ => failsWith_ok _⟩
    obtain ⟨⟨last, summary⟩, roll, same⟩ := bind_eq_ok.mp rolled
    cases same
    exact (rollGroup_timed limited roll).1.timed limited

theorem failsWith_readGroupSummary (db : Db) (id : GroupID) :
    FailsWith (· ≠ countExceeded) (readGroupSummary db id) := by
  unfold readGroupSummary
  split
  · exact failsWith_error (by decide)
  · split
    · exact failsWith_error (by decide)
    · exact failsWith_ok _

theorem failsWith_groupDetail (db : Db) (id : GroupID) :
    FailsWith (· ≠ countExceeded) (groupDetail db id) :=
  (failsWith_readGroupSummary db id).bind fun _ _ => failsWith_ok _

theorem failsWith_validateBillingModels (db : Db) (models : List Text) :
    FailsWith (· ≠ countExceeded) (validateBillingModels db models) := by
  unfold validateBillingModels
  split
  · exact failsWith_ok _
  · exact failsWith_error (by decide)

theorem failsWith_draftGroup (timed : AllTimed db) (s : GroupSettings) (now : Time)
    (ids : PutGroupIDs) : FailsWith (· ≠ countExceeded) (draftGroup db s now ids) := by
  unfold draftGroup
  split
  · refine FailsWith.bind ?_ fun _ _ => failsWith_ok _
    unfold newGroupModels
    split
    · exact (failsWith_validateBillingModels _ _).bind fun _ _ => failsWith_ok _
    · exact failsWith_ok _
  · rename_i id _
    refine FailsWith.bind ?_ fun _ _ => (failsWith_rollGroup timed id now _).bind fun _ _ =>
      FailsWith.bind ?_ fun _ _ => FailsWith.bind ?_ fun _ _ => failsWith_ok _
    · unfold lockGroup
      split
      · exact failsWith_ok _
      · exact failsWith_error (by decide)
    · exact failsWith_refuse (by decide) fun _ => failsWith_ok _
    · unfold editedGroupModels
      split
      · exact (failsWith_validateBillingModels _ _).bind fun _ _ => failsWith_ok _
      · exact failsWith_ok _

theorem failsWith_placePeriod (reset : Bool) (g : GroupSummary) (start now : Time) (duration : Int) :
    FailsWith (· ≠ countExceeded) (placePeriod reset g start now duration) := by
  unfold placePeriod
  split
  · exact (failsWith_addGroupPeriods _ _ _).bind fun _ _ => failsWith_ok _
  · exact failsWith_ok _

theorem failsWith_groupExpiration (ends : Time) (duration count current : Int) :
    FailsWith (· ≠ countExceeded) (groupExpiration ends duration count current) := by
  unfold groupExpiration
  split
  · exact failsWith_ok _
  · exact failsWith_refuse (by decide) fun _ =>
      (failsWith_addGroupPeriods _ _ _).bind fun _ _ => failsWith_ok _

theorem failsWith_saveGroup (db : Db) (s : GroupSettings) (g : GroupSummary) (start : Time)
    (expires : Option Time) (current : Option PeriodID) :
    FailsWith (· ≠ countExceeded) (saveGroup db s g start expires current) := by
  unfold saveGroup
  split
  · split
    · exact failsWith_error (by decide)
    · exact failsWith_ok _
  · exact failsWith_ok _

theorem applyPutGroup_keeps (ids : PutGroupIDs) (checked : s.Checked now)
    (timed : AllTimed db) : Keeps (applyPutGroup s now ids db) := by
  refine ⟨fun db' detail ok => ?_, ?_⟩
  · obtain ⟨⟨drafted, old, current⟩, draft, ok⟩ := bind_eq_ok.mp ok
    obtain ⟨g, placed, ok⟩ := bind_eq_ok.mp ok
    obtain ⟨expires, expiration, ok⟩ := bind_eq_ok.mp ok
    obtain ⟨saved, save, ok⟩ := bind_eq_ok.mp ok
    obtain ⟨last, period, ok⟩ := bind_eq_ok.mp ok
    obtain ⟨answer, -, ok⟩ := bind_eq_ok.mp ok
    cases ok
    exact (saveTerm_keeps checked timed (draftGroup_ok timed draft) placed expiration save).1 _ period
  · refine (failsWith_draftGroup timed s now ids).bind fun ⟨drafted, old, current⟩ draft =>
      (failsWith_placePeriod _ _ _ _ _).bind fun g placed =>
      (failsWith_groupExpiration _ _ _ _).bind fun expires expiration =>
      (failsWith_saveGroup _ _ _ _ _ _).bind fun saved save => FailsWith.bind ?_ fun _ _ =>
      (failsWith_groupDetail _ _).bind fun _ _ => failsWith_ok _
    exact (saveTerm_keeps checked timed (draftGroup_ok timed draft) placed expiration save).2

/-- The parameters are refused as invalid, and not for the count of periods. -/
theorem failsWith_putGroupSettings {P : StoreError → Prop}
    (met : ∀ text, .invalid text ≠ countExceeded → P (.invalid text)) (params : PutGroupParams) :
    FailsWith P (putGroupSettings params) := by
  have time : ∀ t, FailsWith P (validateGroupTime t) := by
    intro t
    unfold validateGroupTime
    split
    · exact failsWith_ok _
    · exact failsWith_error (met _ (by decide))
  refine failsWith_refuse (met _ (by decide)) fun _ => FailsWith.bind ?_ fun _ _ =>
    FailsWith.bind ?_ fun _ _ => FailsWith.bind ?_ fun _ _ => (time _).bind fun _ _ =>
    FailsWith.bind ?_ fun _ _ => FailsWith.bind ?_ fun _ _ => FailsWith.bind ?_ fun _ _ =>
    failsWith_ok _
  · exact failsWith_mapError fun _ => met _ (by decide)
  · unfold memberLimitInput
    split
    · exact failsWith_mapError fun _ => met _ (by decide)
    · exact failsWith_ok _
  · unfold groupPeriodInput groupPeriodDuration
    split
    · apply FailsWith.map
      split
      · exact failsWith_refuse (met _ (by decide)) fun _ => failsWith_ok _
      · refine failsWith_refuse (met _ (by decide)) fun _ => ?_
        split <;> exact failsWith_ok _
    · exact failsWith_refuse (met _ (by decide)) fun _ => failsWith_error (met _ (by decide))
  · exact failsWith_refuse (met _ (by decide)) fun _ => failsWith_ok _
  · unfold modelInput normalizeBillingModels
    split
    · exact (failsWith_refuse (met _ (by decide)) fun _ => failsWith_refuse (met _ (by decide)) fun _ =>
        failsWith_ok _).map _
    · exact failsWith_ok _
  · unfold checkAnchor
    split
    · exact failsWith_ok _
    · exact time _

theorem failsWith_claimGroupOperation (db : Db) (params : GroupWriteParams) (action : Text)
    (fingerprint : List Text) :
    FailsWith (· ≠ countExceeded) (claimGroupOperation db params action fingerprint) := by
  unfold claimGroupOperation
  dsimp only
  split
  · split
    · exact failsWith_refuse (by decide) fun _ => failsWith_ok _
    · exact failsWith_error (by decide)
  · exact failsWith_refuse (by decide) fun _ => failsWith_ok _
  · exact failsWith_error (by decide)

theorem putGroup_keeps (timed : AllTimed db) (params : PutGroupParams) (ids : PutGroupIDs) :
    Keeps (putGroup db params ids) := by
  have applied : ∀ {s}, putGroupSettings params = .ok s → ∀ operations,
      Keeps (applyPutGroup s params.write.at' ids { db with groupOperations := operations }) :=
    fun checked operations => applyPutGroup_keeps ids (putGroupSettings_ok checked)
      (timed.congr rfl rfl)
  refine ⟨fun db' response ok => ?_, ?_⟩
  · obtain ⟨s, checked, ok⟩ := bind_eq_ok.mp ok
    rcases groupWrite_ok ok with rfl | ⟨operations, done, detail, ran, rfl⟩
    · exact timed
    · exact ((applied checked operations).1 _ _ ran).congr rfl rfl
  · refine (failsWith_putGroupSettings (fun _ => id) params).bind fun s checked =>
      FailsWith.bind ?_ fun _ _ =>
      (failsWith_claimGroupOperation _ _ _ _).bind fun claim claimed => ?_
    · exact failsWith_refuse (by decide) fun _ => failsWith_ok _
    · cases claim with
      | replay response => exact failsWith_ok _
      | created start =>
        obtain ⟨-, operations, -, rfl⟩ := claimGroupOperation_created claimed
        exact ((applied checked operations).2.bind fun _ _ => failsWith_ok _).bind
          fun _ _ => failsWith_ok _

/-! ## Rolling often and rolling once -/

/-- A roll within the term and the calendar is a roll of the timeline. -/
theorem rollGroup_rolls (found : db.groups.find? id = some group)
    (stored : db.groupPeriods.find? period.id = some period) (shows' : group.Shows period T)
    (unexpired : ∀ e ∈ T.expiry, t < e) (room : unix (T.roll t).ends ≤ lastCalendarSecond)
    (fresh : db.groupPeriods.find? newID = none) :
    ∃ db' group' period', rollGroup db id t newID = .ok (db', summaryOf db' group' period') ∧
      db'.groups.find? id = some group' ∧ db'.groupPeriods.find? period'.id = some period' ∧
      group'.Shows period' (T.roll t) ∧
      ∀ other, other ≠ newID → db.groupPeriods.find? other = none →
        db'.groupPeriods.find? other = none := by
  by_cases within : t < T.ends
  · have still : T.roll t = T := if_pos within
    refine ⟨db, group, period, rollGroup_stays found stored shows' (.inl within) newID, found, stored,
      ?_, fun _ _ absent => absent⟩
    rw [still]
    exact shows'
  · have moved : T.roll t = T.moved t := if_neg within
    rw [moved] at room ⊢
    have moves : ¬ Stays T t := by
      rintro (early | ⟨e, expires, passed⟩ | late)
      · exact within early
      · exact absurd (unexpired e expires) (not_lt.mpr passed)
      · exact absurd room (not_le.mpr late)
    obtain ⟨db', result, spec⟩ := rollGroup_moves found stored shows' moves fresh
    have key := Table.key_of_find? found
    exact ⟨db', _, _, result, (spec.groups id).trans (if_pos key.symm), spec.opened,
      shows'.moved moves newID, spec.ids⟩

/-- Rolls one after the other, each with the id it draws. -/
def rollTimes (id : GroupID) : List (Time × PeriodID) → Db → Except StoreError Db
  | [], db => .ok db
  | (t, newID) :: rest, db => do
    let (rolled, _) ← rollGroup db id t newID
    rollTimes id rest rolled

/-- The ids that a run draws are free and pairwise different. -/
def FreshPeriodIDs (db : Db) (ids : List PeriodID) : Prop :=
  ids.Nodup ∧ ∀ id ∈ ids, db.groupPeriods.find? id = none

/-- Earlier rolls leave a timeline that rolls to the same period. -/
theorem rollTimes_rolls {before : List (Time × PeriodID)} (found : db.groups.find? id = some group)
    (stored : db.groupPeriods.find? period.id = some period) (shows' : group.Shows period T)
    (unexpired : ∀ e ∈ T.expiry, t < e) (room : unix (T.roll t).ends ≤ lastCalendarSecond)
    (order : ∀ roll ∈ before, roll.1 ≤ t)
    (fresh : FreshPeriodIDs db (before.map Prod.snd ++ [newID])) :
    ∃ middle db' group' period', rollTimes id before db = .ok middle ∧
      rollGroup middle id t newID = .ok (db', summaryOf db' group' period') ∧
      group'.Shows period' (T.roll t) := by
  induction before generalizing db group period T with
  | nil =>
    obtain ⟨db', group', period', result, -, -, shows'', -⟩ := rollGroup_rolls found stored shows'
      unexpired room (fresh.2 newID List.mem_cons_self)
    exact ⟨db, db', group', period', rfl, result, shows''⟩
  | cons first rest ih =>
    obtain ⟨s, firstID⟩ := first
    have early : s ≤ t := order _ List.mem_cons_self
    obtain ⟨distinct, free⟩ := fresh
    obtain ⟨apart, distinct⟩ := List.nodup_cons.mp distinct
    have room' : unix (T.roll s).ends ≤ lastCalendarSecond := by
      have later := (T.roll s).ends_le_roll t
      rw [T.roll_roll early] at later
      exact (unix_mono later).trans room
    obtain ⟨db', group', period', result, found', stored', shows'', ids⟩ :=
      rollGroup_rolls found stored shows'
        (fun e expires => early.trans_lt (unexpired e expires)) room' (free firstID List.mem_cons_self)
    have rest' : FreshPeriodIDs db' (rest.map Prod.snd ++ [newID]) := by
      refine ⟨distinct, fun other member => ids other ?_ (free other (List.mem_cons_of_mem _ member))⟩
      rintro rfl
      exact apart member
    obtain ⟨middle, last, group'', period'', rolls, answer, final⟩ := ih found' stored' shows''
      (by rw [T.roll_expiry]; exact unexpired) (by rw [T.roll_roll early]; exact room)
      (fun roll member => order roll (List.mem_cons_of_mem _ member)) rest'
    rw [T.roll_roll early] at final
    refine ⟨middle, last, group'', period'', ?_, answer, final⟩
    rw [rollTimes, result, ok_bind]
    exact rolls

/-! ## Runs -/

inductive TimelineOp where
  | put (params : PutGroupParams) (ids : PutGroupIDs)
  | roll (id : GroupID) (t : Time) (newID : PeriodID)

def TimelineOp.result (db : Db) : TimelineOp → Except StoreError Db
  | .put params ids => (putGroup db params ids).map Prod.fst
  | .roll id t newID => (rollGroup db id t newID).map Prod.fst

def timelineRun (db : Db) (ops : List TimelineOp) : Db :=
  Transaction.run (fun db op => Transaction.commit (fun db => op.result db) db) db ops

theorem TimelineOp.timed (timed : AllTimed db) {op : TimelineOp} (ok : op.result db = .ok db') :
    AllTimed db' := by
  cases op with
  | put params ids =>
    obtain ⟨⟨last, response⟩, result, rfl⟩ := map_eq_ok.mp ok
    exact (putGroup_keeps timed params ids).1 _ _ result
  | roll id t newID =>
    obtain ⟨⟨last, g⟩, result, rfl⟩ := map_eq_ok.mp ok
    exact (rollGroup_timed timed result).1.timed timed

theorem TimelineOp.failsWith (timed : AllTimed db) (op : TimelineOp) :
    FailsWith (· ≠ countExceeded) (op.result db) := by
  cases op with
  | put params ids => exact (putGroup_keeps timed params ids).2.map _
  | roll id t newID => exact (failsWith_rollGroup timed id t newID).map _

theorem timelineRun_timed (none' : db.groups = .empty) (ops : List TimelineOp) :
    AllTimed (timelineRun db ops) := by
  refine Transaction.run_preserves ?_ ?_ ops
  · intro id group found
    rw [none', Table.find?_empty] at found
    cases found
  · intro db op timed
    exact Transaction.commit_preserves timed fun db' ok => op.timed timed ok

/-- After any writes and rolls, starting without groups: a roll never counts past the last
period; the current period of a group is one whole period of the grid of its anchor;
number, count and expiry agree; and a roll within the term and the calendar gives the
period that contains its time, whatever earlier rolls there were. -/
theorem timelineRun_groups (db : Db) (none' : db.groups = .empty) (ops : List TimelineOp) :
    let reached := timelineRun db ops
    (∀ op err, TimelineOp.result reached op = .error err →
      err ≠ .invalid "group period exceeds its configured count") ∧
    ∀ id group, reached.groups.find? id = some group → ∃ period duration,
      group.currentPeriodID = some period.id ∧
      reached.groupPeriods.find? period.id = some period ∧
      groupPeriodDuration group.period group.customDays = .ok duration ∧
      period.endsAt = period.startsAt + duration ∧
      (∃ k, period.startsAt = group.startsAt + k * duration) ∧
      (0 < group.periodCount → group.currentPeriodNumber ≤ group.periodCount ∧
        group.expiresAt =
          some (period.endsAt + (group.periodCount - group.currentPeriodNumber) * duration)) ∧
      (group.periodCount = 0 ↔ group.expiresAt = none) ∧
      ∀ t, period.startsAt ≤ t → (∀ e ∈ group.expiresAt, t < e) →
        unix (Grid.start period.startsAt duration t + duration) ≤ lastCalendarSecond →
        ∃ first last number, first ≤ t ∧ t < last ∧
          ∀ before newID, (∀ roll ∈ before, roll.1 ≤ t) →
            FreshPeriodIDs reached (before.map Prod.snd ++ [newID]) →
            ∃ middle db' g, rollTimes id before reached = .ok middle ∧
              rollGroup middle id t newID = .ok (db', g) ∧ g.periodStartsAt = first ∧
              g.periodEndsAt = last ∧ g.currentPeriodNumber = number ∧
              g.expiresAt = group.expiresAt := by
  have timed := timelineRun_timed none' ops
  refine ⟨fun op => op.failsWith timed, fun id group found => ?_⟩
  obtain ⟨period, T, stored, shows'⟩ := timed id group found
  refine ⟨period, T.length, shows'.current, stored, shows'.duration, ?_, ?_, ?_, ?_, ?_⟩
  · rw [shows'.ends, shows'.starts]
    rfl
  · rw [shows'.starts, shows'.anchor]
    exact T.onGrid
  · intro counted
    rw [shows'.count] at counted
    refine ⟨?_, ?_⟩
    · rw [shows'.number, shows'.count]
      exact shows'.within counted.ne'
    · rw [shows'.expiry, shows'.ends, shows'.count, shows'.number, Timeline.expiry,
        if_neg counted.ne']
  · rw [shows'.count, shows'.expiry, Timeline.expiry]
    split <;> simp_all
  · intro t started unexpired room
    rw [shows'.starts] at started room
    rw [shows'.expiry] at unexpired ⊢
    have room' : unix (T.roll t).ends ≤ lastCalendarSecond := by
      by_cases within : t < T.ends
      · rw [Timeline.roll, if_pos within, ← T.moved_of_contains started within]
        exact room
      · rw [Timeline.roll, if_neg within]
        exact room
    refine ⟨(T.roll t).start, (T.roll t).ends, (T.roll t).number, (T.roll_contains started).1,
      (T.roll_contains started).2, fun before newID order fresh => ?_⟩
    obtain ⟨middle, db', group', period', rolls, result, final⟩ :=
      rollTimes_rolls found stored shows' unexpired room' order fresh
    exact ⟨middle, db', _, rolls, result, final.starts, final.ends, final.number,
      final.expiry.trans (T.roll_expiry t)⟩

/-! A group of three days, and a roll on its second day. -/

def threeDays : PutGroupParams where
  write := ⟨['o'], 1, ['r'], 0⟩
  groupID := none
  name := ['g']
  limitUSD := ['5']
  memberLimitUSD := none
  memberLimitSet := false
  period := "day".toList
  customDays := 0
  startsAt := none
  periodCount := some 3
  modelIDs := []
  modelIDsSet := false

def threeDaysDb : Db :=
  { Db.empty ⟨10 ^ amountScale, [['m']], true⟩ with
    users := ⟨[⟨1, ['w'], .active⟩], by decide⟩ }

def threeDaysRun : Db := timelineRun threeDaysDb [.put threeDays ⟨7, 0, 1⟩, .roll 7 (day + 1) 2]

theorem timelineRun_threeDays :
    ((threeDaysRun.groups.find? 7).map fun group => (group.currentPeriodNumber, group.expiresAt)) =
        some (2, some (3 * day)) ∧
      ∀ group, threeDaysRun.groups.find? 7 = some group → ∃ period,
        threeDaysRun.groupPeriods.find? period.id = some period ∧
        (∃ duration k, period.startsAt = group.startsAt + k * duration) ∧
        group.currentPeriodNumber ≤ group.periodCount := by
  have counted : ((threeDaysRun.groups.find? 7).map Group.periodCount) = some 3 := by decide +kernel
  refine ⟨by decide +kernel, fun group found => ?_⟩
  obtain ⟨period, duration, -, stored, -, -, aligned, limited, -⟩ :=
    (timelineRun_groups threeDaysDb rfl [.put threeDays ⟨7, 0, 1⟩, .roll 7 (day + 1) 2]).2 7 group found
  rw [found, Option.map_some, Option.some.injEq] at counted
  exact ⟨period, stored, ⟨duration, aligned⟩, (limited (by rw [counted]; decide)).1⟩

end Store
