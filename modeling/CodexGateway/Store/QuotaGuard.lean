import CodexGateway.Store.Quota
import CodexGateway.Library.Transaction

/-! # The quota guard

An account whose remaining share of a usage window is small is taken out of allocation
until the window has reset. The guard keeps one row for each account: the last reading,
the decision made from it, and the schedule of automatic checks.
-/

namespace Store

def maxUpstreamQuotaGuardPercent : Int := 50

def upstreamQuotaGuardMinInterval : Time := 10 * minute

def upstreamQuotaGuardMaxInterval : Time := 60 * minute

/-- A limited account returns this long after its window resets. -/
def upstreamQuotaGuardRestoreDelay : Time := 5 * minute

/-- How long a tripped window without a reset time is held. -/
def upstreamQuotaGuardUnknownResetHold : Time := 60 * minute

/-- Reset times that differ by at most this much are of the same period. -/
def upstreamQuotaGuardSamePeriod : Time := 2 * minute

inductive QuotaWindowName where
  | fiveHour
  | sevenDay
  deriving Repr, DecidableEq

inductive GuardStatus where
  | available
  | limited
  deriving Repr, DecidableEq

inductive GuardSource where
  | auto
  | manual
  deriving Repr, DecidableEq

structure UpstreamQuotaWindow where
  usedPercent : Int
  resetAt : Option Time
  deriving Repr, DecidableEq

/-- One reading of an account; a window may be unreported. -/
structure UpstreamQuotaObservation where
  observedAt : Time
  fiveHour : Option UpstreamQuotaWindow
  sevenDay : Option UpstreamQuotaWindow
  deriving Repr, DecidableEq

def UpstreamQuotaObservation.window (observation : UpstreamQuotaObservation) :
    QuotaWindowName → Option UpstreamQuotaWindow
  | .fiveHour => observation.fiveHour
  | .sevenDay => observation.sevenDay

def guardedUpstreamProvider : UpstreamProvider → Bool
  | .codex => true
  | .anthropic => true
  | .antigravity => false

def validUpstreamQuotaObservation (observation : UpstreamQuotaObservation) : Bool :=
  [observation.fiveHour, observation.sevenDay].all fun window =>
    window.all fun w => 0 ≤ w.usedPercent && w.usedPercent ≤ 100

/-! ## The rule -/

/-- `time.Time.Sub`, which saturates. -/
def subDuration (a b : Time) : Int := max (-(2 ^ 63)) (min (2 ^ 63 - 1) (a - b))

/-- A product of durations, in 64 bits. -/
def mulDuration (a b : Int) : Int := Int.bmod (a * b) (2 ^ 64)

/-- What the loop over the windows has found so far. A margin below zero is none. -/
structure GuardScan where
  limited : Bool
  window : Option QuotaWindowName
  resetAt : Option Time
  unknownReset : Bool
  margin : Int
  interval : Int
  deriving Repr, DecidableEq

def GuardScan.start : GuardScan := ⟨false, none, none, false, -1, upstreamQuotaGuardMaxInterval⟩

/-- A window trips. The account waits for the latest reset that is known. -/
def GuardScan.trip (scan : GuardScan) (name : QuotaWindowName) : Option Time → GuardScan
  | none =>
    { scan with limited := true, window := scan.window.or (some name), unknownReset := true }
  | some reset =>
    if scan.resetAt.all fun latest => decide (latest < reset) then
      { scan with limited := true, window := some name, resetAt := some reset }
    else { scan with limited := true, window := scan.window.or (some name) }

/-- How soon usage that rose within one period would reach the limit. -/
def untilLimit (observedAt : Time) (previous : Option UpstreamQuotaObservation)
    (name : QuotaWindowName) (current : UpstreamQuotaWindow) (windowMargin : Int) : Option Int := do
  let before ← previous
  let prior ← before.window name
  let priorReset ← prior.resetAt
  let reset ← current.resetAt
  let gap := subDuration reset priorReset
  if current.usedPercent > prior.usedPercent ∧ observedAt > before.observedAt ∧
      gap ≤ upstreamQuotaGuardSamePeriod ∧ gap ≥ -upstreamQuotaGuardSamePeriod then
    some ((mulDuration (subDuration observedAt before.observedAt) windowMargin).tdiv
      (current.usedPercent - prior.usedPercent))
  else none

def GuardScan.keep (scan : GuardScan) (windowMargin : Int) (predicted : Option Int) : GuardScan :=
  { scan with
    margin :=
      if scan.margin < 0 ∨ windowMargin < scan.margin then windowMargin else scan.margin
    interval := predicted.elim scan.interval fun limit => min scan.interval (limit.tdiv 2) }

def GuardScan.visit (observation : UpstreamQuotaObservation)
    (previous : Option UpstreamQuotaObservation) (percent : Int) (now : Time) (scan : GuardScan)
    (name : QuotaWindowName) : GuardScan :=
  match observation.window name with
  | none => scan
  | some current =>
    if current.resetAt.any fun reset => decide (reset ≤ now) then scan
    else
      let remaining := 100 - current.usedPercent
      if remaining ≤ percent then scan.trip name current.resetAt
      else
        scan.keep (remaining - percent)
          (untilLimit observation.observedAt previous name current (remaining - percent))

structure UpstreamQuotaGuardDecision where
  limited : Bool
  window : Option QuotaWindowName
  resetAt : Option Time
  restoreAt : Option Time
  nextCheckAt : Time
  deriving Repr, DecidableEq

/-- When a limited account returns. -/
def GuardScan.restore (scan : GuardScan) (now : Time) : Time :=
  let held := now + upstreamQuotaGuardUnknownResetHold
  match scan.resetAt with
  | none => held
  | some reset =>
    let afterReset := reset + upstreamQuotaGuardRestoreDelay
    if scan.unknownReset = false ∨ afterReset > held then afterReset else held

/-- When an open account is checked again. -/
def GuardScan.nextInterval (scan : GuardScan) : Time :=
  let interval :=
    if scan.margin < 0 then upstreamQuotaGuardMinInterval
    else if scan.margin ≤ 10 then min scan.interval upstreamQuotaGuardMinInterval
    else if scan.margin ≤ 20 then min scan.interval (15 * minute)
    else if scan.margin ≤ 35 then min scan.interval (30 * minute)
    else scan.interval
  max upstreamQuotaGuardMinInterval (min upstreamQuotaGuardMaxInterval interval)

def evaluateUpstreamQuotaGuard (observation : UpstreamQuotaObservation)
    (previous : Option UpstreamQuotaObservation) (percent : Int) (now : Time) :
    UpstreamQuotaGuardDecision :=
  let scan := [QuotaWindowName.fiveHour, .sevenDay].foldl
    (GuardScan.visit observation previous percent now) .start
  if scan.limited then
    ⟨true, scan.window, scan.resetAt, some (scan.restore now), scan.restore now⟩
  else ⟨false, scan.window, scan.resetAt, none, now + scan.nextInterval⟩

/-! ## Rows -/

structure UpstreamQuotaGuardRow where
  accountID : AccountID
  status : GuardStatus
  source : GuardSource
  limitedWindow : Option QuotaWindowName
  resetAt : Option Time
  restoreAt : Option Time
  changedAt : Option Time
  observedAt : Option Time
  fiveHour : Option UpstreamQuotaWindow
  sevenDay : Option UpstreamQuotaWindow
  autoCheckedAt : Option Time
  nextCheckAt : Option Time
  deriving Repr, DecidableEq

/-- The defaults of the columns. -/
def UpstreamQuotaGuardRow.new (accountID : AccountID) : UpstreamQuotaGuardRow :=
  ⟨accountID, .available, .auto, none, none, none, none, none, none, none, none, none⟩

def UpstreamQuotaGuardRow.limitedAt (row : UpstreamQuotaGuardRow) (at' : Time) : Bool :=
  row.status = .limited && row.restoreAt.all fun restore => decide (restore > at')

def UpstreamQuotaGuardRow.snapshot (row : UpstreamQuotaGuardRow) :
    Option UpstreamQuotaObservation :=
  row.observedAt.map fun observedAt => ⟨observedAt, row.fiveHour, row.sevenDay⟩

/-- The state of an account as of a time: a limit that is over reads as available. -/
structure UpstreamQuotaGuardState where
  accountID : AccountID
  status : GuardStatus
  source : GuardSource
  limitedWindow : Option QuotaWindowName
  resetAt : Option Time
  restoreAt : Option Time
  changedAt : Option Time
  observedAt : Option Time
  fiveHour : Option UpstreamQuotaWindow
  sevenDay : Option UpstreamQuotaWindow
  autoCheckedAt : Option Time
  nextCheckAt : Option Time
  deriving Repr, DecidableEq

def UpstreamQuotaGuardRow.state (row : UpstreamQuotaGuardRow) (at' : Time) :
    UpstreamQuotaGuardState where
  accountID := row.accountID
  status := if row.limitedAt at' then .limited else .available
  source := row.source
  limitedWindow := if row.limitedAt at' then row.limitedWindow else none
  resetAt := if row.limitedAt at' then row.resetAt else none
  restoreAt := if row.limitedAt at' then row.restoreAt else none
  changedAt := row.changedAt
  observedAt := row.observedAt
  fiveHour := row.fiveHour
  sevenDay := row.sevenDay
  autoCheckedAt := row.autoCheckedAt
  nextCheckAt := row.nextCheckAt

/-- The earliest time of another automatic check; none is the zero time. -/
def nextAutomaticCheck (nextCheckAt autoCheckedAt : Option Time) : Option Time :=
  match nextCheckAt, autoCheckedAt with
  | next, none => next
  | none, some checked => some (checked + upstreamQuotaGuardMinInterval)
  | some next, some checked => some (max next (checked + upstreamQuotaGuardMinInterval))

def UpstreamQuotaGuardRow.observe (row : UpstreamQuotaGuardRow)
    (observation : UpstreamQuotaObservation) : UpstreamQuotaGuardRow :=
  { row with
    observedAt := some observation.observedAt
    fiveHour := observation.fiveHour
    sevenDay := observation.sevenDay }

def UpstreamQuotaGuardRow.apply (row : UpstreamQuotaGuardRow)
    (decision : UpstreamQuotaGuardDecision) : UpstreamQuotaGuardRow :=
  { row with
    status := if decision.limited then .limited else .available
    limitedWindow := if decision.limited then decision.window else none
    resetAt := decision.resetAt
    restoreAt := decision.restoreAt }

/-- A reading is stored and decided. One that is not automatic leaves a manual state. -/
def UpstreamQuotaGuardRow.record (percent : Int) (observation : UpstreamQuotaObservation)
    (automatic : Bool) (at' : Time) (row : UpstreamQuotaGuardRow) : UpstreamQuotaGuardRow :=
  if automatic = false ∧ row.source = .manual then row.observe observation
  else
    let decision := evaluateUpstreamQuotaGuard observation row.snapshot percent at'
    { (row.observe observation).apply decision with
      source := .auto
      changedAt :=
        if row.limitedAt at' ≠ decision.limited ∨ row.source ≠ .auto then some at'
        else row.changedAt
      nextCheckAt := some decision.nextCheckAt }

/-- The earliest reset to come among the windows of a row. -/
def soonestUpstreamQuotaReset (row : UpstreamQuotaGuardRow) (now : Time) :
    Option (QuotaWindowName × Time) :=
  [(QuotaWindowName.fiveHour, row.fiveHour), (.sevenDay, row.sevenDay)].foldl
    (fun soonest item =>
      match item.2.bind UpstreamQuotaWindow.resetAt with
      | none => soonest
      | some reset =>
        if reset > now ∧ soonest.all (fun other => decide (reset < other.2)) then
          some (item.1, reset)
        else soonest) none

/-- An owner's choice, if it changes anything. -/
def UpstreamQuotaGuardRow.setStatus (limited : Bool) (at' : Time) (row : UpstreamQuotaGuardRow) :
    UpstreamQuotaGuardRow :=
  if row.limitedAt at' = limited then row
  else
    let soonest := if limited then soonestUpstreamQuotaReset row at' else none
    let restoreAt := soonest.map fun reset => reset.2 + upstreamQuotaGuardRestoreDelay
    { row with
      status := if limited then .limited else .available
      source := .manual
      limitedWindow := soonest.map Prod.fst
      resetAt := soonest.map Prod.snd
      restoreAt
      changedAt := some at'
      nextCheckAt :=
        if limited then restoreAt
        else some (row.autoCheckedAt.elim at' fun checked =>
          max at' (checked + upstreamQuotaGuardMinInterval)) }

/-- The stored reading is decided with another percentage. -/
def UpstreamQuotaGuardRow.reapply (percent : Int) (at' : Time) (row : UpstreamQuotaGuardRow) :
    UpstreamQuotaGuardRow :=
  match row.snapshot with
  | none => row
  | some observation =>
    let decision := evaluateUpstreamQuotaGuard observation none percent at'
    { row.apply decision with
      changedAt :=
        if row.limitedAt at' ≠ decision.limited then some at' else row.changedAt
      nextCheckAt := if decision.limited then some decision.nextCheckAt else none }

/-! ## Transactions -/

structure UpstreamQuotaGuardSettings where
  safetyPercent : Int
  revision : Int
  updatedAt : Time
  deriving Repr, DecidableEq

structure QuotaGuardDb where
  settings : UpstreamQuotaGuardSettings
  accounts : Table UpstreamAccount.id
  states : Table UpstreamQuotaGuardRow.accountID

def UpstreamQuotaGuardRow.due (row : UpstreamQuotaGuardRow) (at' : Time) : Bool :=
  (row.nextCheckAt.all fun next => decide (next ≤ at')) &&
    row.autoCheckedAt.all fun checked => decide (checked ≤ at' - upstreamQuotaGuardMinInterval)

structure UpstreamQuotaCheckClaim where
  provider : Option UpstreamProvider
  claimed : Bool
  nextCheckAt : Option Time
  deriving Repr, DecidableEq

def claimUpstreamQuotaCheck (db : QuotaGuardDb) (id : AccountID) (at' : Time) :
    QuotaGuardDb × UpstreamQuotaCheckClaim :=
  match db.accounts.find? id with
  | none => (db, ⟨none, false, none⟩)
  | some account =>
    if guardedUpstreamProvider account.provider = false then (db, ⟨none, false, none⟩)
    else if ((db.states.find? id).all fun row => row.due at') then
      ({ db with
          states := (db.states.insertIfAbsent (.new id)).modify id
            (fun row => { row with autoCheckedAt := some at' }) (fun _ => rfl) },
        ⟨some account.provider, true, none⟩)
    else
      (db, ⟨some account.provider, false, (db.states.find? id).bind fun row =>
        nextAutomaticCheck row.nextCheckAt row.autoCheckedAt⟩)

/-- The account must be of the provider; its row is created when it is missing. -/
def lockUpstreamQuotaGuardRow (db : QuotaGuardDb) (id : AccountID) (provider : UpstreamProvider) :
    Except StoreError (QuotaGuardDb × UpstreamQuotaGuardRow) :=
  if (db.accounts.find? id).any fun account => account.provider = provider then
    .ok ({ db with states := db.states.insertIfAbsent (.new id) },
      (db.states.find? id).getD (.new id))
  else .error (.notFound "lock upstream quota guard")

structure RecordUpstreamQuotaObservationParams where
  provider : UpstreamProvider
  accountID : AccountID
  observation : UpstreamQuotaObservation
  automatic : Bool
  at' : Time
  deriving Repr, DecidableEq

theorem UpstreamQuotaGuardRow.accountID_record (percent : Int)
    (observation : UpstreamQuotaObservation) (automatic : Bool) (at' : Time)
    (row : UpstreamQuotaGuardRow) :
    (row.record percent observation automatic at').accountID = row.accountID := by
  unfold UpstreamQuotaGuardRow.record
  split <;> rfl

theorem UpstreamQuotaGuardRow.accountID_setStatus (limited : Bool) (at' : Time)
    (row : UpstreamQuotaGuardRow) : (row.setStatus limited at').accountID = row.accountID := by
  unfold UpstreamQuotaGuardRow.setStatus
  split <;> rfl

theorem UpstreamQuotaGuardRow.accountID_reapply (percent : Int) (at' : Time)
    (row : UpstreamQuotaGuardRow) : (row.reapply percent at').accountID = row.accountID := by
  unfold UpstreamQuotaGuardRow.reapply
  split <;> rfl

def recordUpstreamQuotaObservation (db : QuotaGuardDb)
    (params : RecordUpstreamQuotaObservationParams) :
    Except StoreError (QuotaGuardDb × UpstreamQuotaGuardState) := do
  if guardedUpstreamProvider params.provider = false ∨
      validUpstreamQuotaObservation params.observation = false then
    throw (.invalid "invalid upstream quota observation")
  let (locked, current) ← lockUpstreamQuotaGuardRow db params.accountID params.provider
  let record := UpstreamQuotaGuardRow.record db.settings.safetyPercent params.observation
    params.automatic params.at'
  pure ({ locked with
      states := locked.states.modify params.accountID record
        (UpstreamQuotaGuardRow.accountID_record _ _ _ _) },
    (record current).state params.at')

/-- `provider` is the one the store is scoped to. -/
def setUpstreamQuotaGuardStatus (db : QuotaGuardDb) (provider : UpstreamProvider) (id : AccountID)
    (limited : Bool) (actor : Text) (at' : Time) :
    Except StoreError (QuotaGuardDb × UpstreamQuotaGuardState) := do
  if guardedUpstreamProvider provider = false ∨ Text.trimSpace actor = [] then
    throw (.invalid "invalid quota guard account or actor")
  let (locked, current) ← lockUpstreamQuotaGuardRow db id provider
  pure ({ locked with
      states := locked.states.modify id (UpstreamQuotaGuardRow.setStatus limited at')
        (UpstreamQuotaGuardRow.accountID_setStatus _ _) },
    (current.setStatus limited at').state at')

def setUpstreamQuotaGuardSettings (db : QuotaGuardDb) (safetyPercent : Int) (actor : Text)
    (at' : Time) : Except StoreError (QuotaGuardDb × UpstreamQuotaGuardSettings) := do
  if safetyPercent < 0 ∨ safetyPercent > maxUpstreamQuotaGuardPercent ∨
      Text.trimSpace actor = [] then
    throw (.invalid "invalid quota guard settings")
  let settings : UpstreamQuotaGuardSettings := ⟨safetyPercent, db.settings.revision + 1, at'⟩
  pure ({ db with
      settings
      states := db.states.update (fun row => row.source = .auto ∧ row.observedAt.isSome)
        (UpstreamQuotaGuardRow.reapply safetyPercent at')
        (UpstreamQuotaGuardRow.accountID_reapply _ _) },
    settings)

/-! ## What the transactions write -/

variable {db : QuotaGuardDb} {id : AccountID} {provider : UpstreamProvider}
  {result : QuotaGuardDb × UpstreamQuotaGuardState} {actor : Text} {at' : Time}
  {names : List QuotaWindowName} {scan : GuardScan} {name : QuotaWindowName}

theorem lockUpstreamQuotaGuardRow_ok {locked : QuotaGuardDb × UpstreamQuotaGuardRow}
    (ok : lockUpstreamQuotaGuardRow db id provider = .ok locked) :
    locked = ({ db with states := db.states.insertIfAbsent (.new id) },
      (db.states.find? id).getD (.new id)) := by
  unfold lockUpstreamQuotaGuardRow at ok
  split at ok
  · cases ok
    rfl
  · cases ok

theorem recordUpstreamQuotaObservation_ok {params : RecordUpstreamQuotaObservationParams}
    (ok : recordUpstreamQuotaObservation db params = .ok result) :
    result.1 = { db with
      states := (db.states.insertIfAbsent (.new params.accountID)).modify params.accountID
        (UpstreamQuotaGuardRow.record db.settings.safetyPercent params.observation
          params.automatic params.at') (UpstreamQuotaGuardRow.accountID_record _ _ _ _) } := by
  unfold recordUpstreamQuotaObservation at ok
  obtain ⟨-, ok⟩ := Except.refuse_eq_ok.mp ok
  obtain ⟨locked, lock, ok⟩ := Except.bind_eq_ok.mp ok
  rw [lockUpstreamQuotaGuardRow_ok lock] at ok
  cases ok
  rfl

theorem setUpstreamQuotaGuardStatus_ok {limited : Bool}
    (ok : setUpstreamQuotaGuardStatus db provider id limited actor at' = .ok result) :
    result.1 = { db with
      states := (db.states.insertIfAbsent (.new id)).modify id
        (UpstreamQuotaGuardRow.setStatus limited at')
        (UpstreamQuotaGuardRow.accountID_setStatus _ _) } := by
  unfold setUpstreamQuotaGuardStatus at ok
  obtain ⟨-, ok⟩ := Except.refuse_eq_ok.mp ok
  obtain ⟨locked, lock, ok⟩ := Except.bind_eq_ok.mp ok
  rw [lockUpstreamQuotaGuardRow_ok lock] at ok
  cases ok
  rfl

theorem setUpstreamQuotaGuardSettings_ok {percent : Int}
    {result : QuotaGuardDb × UpstreamQuotaGuardSettings}
    (ok : setUpstreamQuotaGuardSettings db percent actor at' = .ok result) :
    result.1.states = db.states.update (fun row => row.source = .auto ∧ row.observedAt.isSome)
      (UpstreamQuotaGuardRow.reapply percent at')
      (UpstreamQuotaGuardRow.accountID_reapply _ _) := by
  unfold setUpstreamQuotaGuardSettings at ok
  obtain ⟨-, ok⟩ := Except.refuse_eq_ok.mp ok
  cases ok
  rfl

/-! ## What the rule decides -/

/-- A window trips when little of it remains and it has not reset yet. -/
def UpstreamQuotaWindow.Trips (percent : Int) (now : Time) (w : UpstreamQuotaWindow) : Prop :=
  100 - w.usedPercent ≤ percent ∧ ∀ reset ∈ w.resetAt, now < reset

instance (percent : Int) (now : Time) (w : UpstreamQuotaWindow) : Decidable (w.Trips percent now) :=
  inferInstanceAs (Decidable (_ ∧ _))

def UpstreamQuotaObservation.Trips (percent : Int) (now : Time)
    (observation : UpstreamQuotaObservation) : Prop :=
  ∃ name w, observation.window name = some w ∧ w.Trips percent now

section Rule

variable {observation : UpstreamQuotaObservation} {previous : Option UpstreamQuotaObservation}
  {percent : Int} {now : Time}

variable (observation percent now) in
/-- What a scan knows of the windows it has visited. The window that it names has the
reset time that it found, known or not. -/
structure GuardScan.Knows (names : List QuotaWindowName) (scan : GuardScan) : Prop where
  limited : scan.limited = true ↔
    ∃ name ∈ names, ∃ w, observation.window name = some w ∧ w.Trips percent now
  window : scan.limited = true → ∃ name w, scan.window = some name ∧
    observation.window name = some w ∧ w.Trips percent now ∧ w.resetAt = scan.resetAt
  latest : ∀ name ∈ names, ∀ w reset, observation.window name = some w → w.Trips percent now →
    w.resetAt = some reset → ∃ latest, scan.resetAt = some latest ∧ reset ≤ latest
  unlimited : scan.limited = false → scan.window = none ∧ scan.resetAt = none

theorem GuardScan.knows_start : GuardScan.start.Knows observation percent now [] :=
  ⟨by simp [GuardScan.start], by simp [GuardScan.start], by simp, fun _ => ⟨rfl, rfl⟩⟩

theorem GuardScan.Knows.skip {scan' : GuardScan} (knows : scan.Knows observation percent now names)
    (quiet : ∀ w, observation.window name = some w → ¬ w.Trips percent now)
    (limited : scan'.limited = scan.limited) (window : scan'.window = scan.window)
    (resetAt : scan'.resetAt = scan.resetAt) :
    scan'.Knows observation percent now (names ++ [name]) := by
  refine ⟨?_, ?_, ?_, ?_⟩
  · rw [limited, knows.limited]
    constructor
    · rintro ⟨other, member, rest⟩
      exact ⟨other, List.mem_append_left _ member, rest⟩
    · rintro ⟨other, member, w, found, trips⟩
      rcases List.mem_append.mp member with old | new
      · exact ⟨other, old, w, found, trips⟩
      · rw [List.mem_singleton.mp new] at found
        exact absurd trips (quiet w found)
  · rw [limited, window, resetAt]
    exact knows.window
  · intro other member w reset found trips known
    rw [resetAt]
    rcases List.mem_append.mp member with old | new
    · exact knows.latest other old w reset found trips known
    · rw [List.mem_singleton.mp new] at found
      exact absurd trips (quiet w found)
  · rw [limited, window, resetAt]
    exact knows.unlimited

theorem GuardScan.limited_trip (scan : GuardScan) (name : QuotaWindowName) (reset : Option Time) :
    (scan.trip name reset).limited = true := by
  cases reset with
  | none => rfl
  | some reset =>
    unfold GuardScan.trip
    dsimp only
    split <;> rfl

theorem GuardScan.Knows.trip (knows : scan.Knows observation percent now names)
    {current : UpstreamQuotaWindow} (here : observation.window name = some current)
    (trips : current.Trips percent now) :
    (scan.trip name current.resetAt).Knows observation percent now (names ++ [name]) := by
  have some_of_limited : ∀ latest, scan.resetAt = some latest → scan.limited = true := by
    intro latest known
    by_contra quiet
    rw [(knows.unlimited (eq_false_of_ne_true quiet)).2] at known
    cases known
  refine ⟨?_, ?_, ?_, ?_⟩
  · simp only [GuardScan.limited_trip, true_iff]
    exact ⟨name, List.mem_append_right _ List.mem_cons_self, current, here, trips⟩
  · intro _
    cases reset : current.resetAt with
    | none =>
      -- The first window stays named, unless this is the first.
      by_cases before : scan.limited = true
      · obtain ⟨other, w, named, found, tripped, same⟩ := knows.window before
        refine ⟨other, w, ?_, found, tripped, same⟩
        simp [GuardScan.trip, named]
      · obtain ⟨unnamed, unknown⟩ := knows.unlimited (eq_false_of_ne_true before)
        refine ⟨name, current, ?_, here, trips, ?_⟩
        · simp [GuardScan.trip, unnamed]
        · simp [GuardScan.trip, reset, unknown]
    | some time =>
      by_cases later : (scan.resetAt.all fun latest => decide (latest < time)) = true
      · refine ⟨name, current, ?_, here, trips, ?_⟩ <;> simp [GuardScan.trip, later, reset]
      · have known : ∃ latest, scan.resetAt = some latest := by
          cases found : scan.resetAt with
          | none => simp [found] at later
          | some latest => exact ⟨latest, rfl⟩
        obtain ⟨latest, known⟩ := known
        obtain ⟨other, w, named, found, tripped, same⟩ :=
          knows.window (some_of_limited latest known)
        refine ⟨other, w, ?_, found, tripped, ?_⟩
        · simp [GuardScan.trip, later, named]
        · simp [GuardScan.trip, later, same]
  · intro other member w reset found tripped known
    have carried : ∀ latest, scan.resetAt = some latest →
        ∃ latest', (scan.trip name current.resetAt).resetAt = some latest' ∧ latest ≤ latest' := by
      intro latest stored
      cases own : current.resetAt with
      | none => exact ⟨latest, by simp [GuardScan.trip, stored], le_refl _⟩
      | some time =>
        by_cases later : latest < time
        · exact ⟨time, by simp [GuardScan.trip, stored, later], later.le⟩
        · exact ⟨latest, by simp [GuardScan.trip, stored, later], le_refl _⟩
    rcases List.mem_append.mp member with old | new
    · obtain ⟨latest, stored, below⟩ := knows.latest other old w reset found tripped known
      obtain ⟨latest', stored', below'⟩ := carried latest stored
      exact ⟨latest', stored', below.trans below'⟩
    · rw [List.mem_singleton.mp new, here] at found
      cases found
      cases stored : scan.resetAt with
      | none => exact ⟨reset, by simp [GuardScan.trip, known, stored], le_refl _⟩
      | some latest =>
        by_cases later : latest < reset
        · exact ⟨reset, by simp [GuardScan.trip, known, stored, later], le_refl _⟩
        · exact ⟨latest, by simp [GuardScan.trip, known, stored, later], not_lt.mp later⟩
  · rw [GuardScan.limited_trip]
    intro impossible
    cases impossible

theorem GuardScan.Knows.visit
    (knows : scan.Knows observation percent now names) (name : QuotaWindowName) :
    (scan.visit observation previous percent now name).Knows observation percent now
      (names ++ [name]) := by
  unfold GuardScan.visit
  cases here : observation.window name with
  | none =>
    refine knows.skip ?_ rfl rfl rfl
    rw [here]
    intro w impossible
    cases impossible
  | some current =>
    have own : ∀ w, observation.window name = some w → w = current := by
      intro w found
      exact Option.some.inj (found.symm.trans here)
    have isPast : (current.resetAt.any fun reset => decide (reset ≤ now)) = true ↔
        ∃ reset ∈ current.resetAt, reset ≤ now := by
      cases current.resetAt <;> simp
    dsimp only
    split
    · rename_i passed
      refine knows.skip ?_ rfl rfl rfl
      intro w found trips
      rw [own w found] at trips
      obtain ⟨reset, known, before⟩ := isPast.mp passed
      exact absurd (trips.2 reset known) (not_lt.mpr before)
    · rename_i ahead
      have future : ∀ reset ∈ current.resetAt, now < reset := by
        intro reset known
        by_contra before
        exact ahead (isPast.mpr ⟨reset, known, not_lt.mp before⟩)
      split
      · rename_i little
        exact knows.trip here ⟨little, future⟩
      · rename_i enough
        refine knows.skip ?_ rfl rfl rfl
        intro w found trips
        rw [own w found] at trips
        exact enough trips.1

theorem GuardScan.le_restore (scan : GuardScan) {reset : Time} (known : scan.resetAt = some reset) :
    reset + upstreamQuotaGuardRestoreDelay ≤ scan.restore now := by
  unfold GuardScan.restore
  rw [known]
  dsimp only
  split
  · exact le_refl _
  · rename_i held
    exact not_lt.mp fun later => held (.inr later)

variable (observation percent now) in
/-- All that is to be known of a decision. -/
structure UpstreamQuotaGuardDecision.Decides (decision : UpstreamQuotaGuardDecision) : Prop where
  limited : decision.limited = true ↔ observation.Trips percent now
  window : decision.limited = true → ∃ name w, decision.window = some name ∧
    observation.window name = some w ∧ w.Trips percent now ∧ w.resetAt = decision.resetAt
  latest : ∀ name w reset, observation.window name = some w → w.Trips percent now →
    w.resetAt = some reset → ∃ latest, decision.resetAt = some latest ∧ reset ≤ latest
  restore : decision.limited = true → decision.restoreAt = some decision.nextCheckAt
  delay : decision.limited = true → ∀ reset, decision.resetAt = some reset →
    reset + upstreamQuotaGuardRestoreDelay ≤ decision.nextCheckAt
  unlimited : decision.limited = false →
    decision.window = none ∧ decision.resetAt = none ∧ decision.restoreAt = none

variable (observation previous percent now) in
theorem evaluateUpstreamQuotaGuard_decides :
    (evaluateUpstreamQuotaGuard observation previous percent now).Decides observation percent
      now := by
  have knows : ([QuotaWindowName.fiveHour, .sevenDay].foldl
      (GuardScan.visit observation previous percent now) .start).Knows observation percent now
        [.fiveHour, .sevenDay] :=
    (GuardScan.knows_start.visit .fiveHour).visit .sevenDay
  have every : ∀ name : QuotaWindowName, name ∈ [QuotaWindowName.fiveHour, .sevenDay] := by
    intro name
    cases name <;> decide
  unfold evaluateUpstreamQuotaGuard
  dsimp only
  generalize [QuotaWindowName.fiveHour, .sevenDay].foldl
    (GuardScan.visit observation previous percent now) .start = scan at knows
  have limited : scan.limited = true ↔ observation.Trips percent now := by
    rw [knows.limited]
    constructor
    · rintro ⟨name, -, rest⟩
      exact ⟨name, rest⟩
    · rintro ⟨name, rest⟩
      exact ⟨name, every name, rest⟩
  split
  · rename_i tripped
    exact ⟨by simpa using limited.mp tripped, fun _ => knows.window tripped,
      fun name => knows.latest name (every name), fun _ => rfl,
      fun _ _ known => scan.le_restore known, by simp⟩
  · rename_i quiet
    obtain ⟨window, resetAt⟩ := knows.unlimited (eq_false_of_ne_true quiet)
    exact ⟨by simpa using fun trips => quiet (limited.mpr trips), by simp,
      fun name => knows.latest name (every name), by simp, by simp,
      fun _ => ⟨window, resetAt, rfl⟩⟩

end Rule

end Store
