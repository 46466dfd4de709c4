import CodexGateway.Store.QuotaSchedule

/-! # Readings that arrive late

A reading is decided when its transaction commits, whenever it was taken, and a stored
reading is decided again when the settings change. Both use what is stored, not what is
newest or still true.
-/

namespace Store

/-! ## The order of commits -/

/-- A reading with the time of its transaction. -/
structure QuotaReading where
  observation : UpstreamQuotaObservation
  automatic : Bool
  at' : Time
  deriving Repr, DecidableEq

def QuotaReading.Trips (percent : Int) (reading : QuotaReading) : Prop :=
  reading.observation.Trips percent reading.at'

def QuotaReading.NewestOf (reading : QuotaReading) (readings : List QuotaReading) : Prop :=
  reading ∈ readings ∧
    ∀ other ∈ readings, other.observation.observedAt ≤ reading.observation.observedAt

def recordAll (db : QuotaGuardDb) (provider : UpstreamProvider) (id : AccountID)
    (readings : List QuotaReading) : QuotaGuardDb :=
  guardRun db (readings.map fun reading =>
    .record ⟨provider, id, reading.observation, reading.automatic, reading.at'⟩)

/-- The row holds the windows of a reading and the decision made from it. -/
structure UpstreamQuotaGuardRow.Holds (percent : Int) (reading : QuotaReading)
    (row : UpstreamQuotaGuardRow) : Prop where
  fiveHour : row.fiveHour = reading.observation.fiveHour
  sevenDay : row.sevenDay = reading.observation.sevenDay
  limited : row.status = .limited ↔ reading.Trips percent

/-- After each commit the newest reading so far decides. -/
def NewestDecides (db : QuotaGuardDb) (provider : UpstreamProvider) (id : AccountID)
    (readings : List QuotaReading) : Prop :=
  ∀ before last, before ++ [last] <+: readings → ∀ newest : QuotaReading,
    newest.NewestOf (before ++ [last]) →
    ∃ row, (recordAll db provider id (before ++ [last])).states.find? id = some row ∧
      row.Holds db.settings.safetyPercent newest

/-- Each reading that commits is the newest so far, or cannot be told from it. -/
def CommitInOrder (percent : Int) (readings : List QuotaReading) : Prop :=
  ∀ before last, before ++ [last] <+: readings → ∀ newest : QuotaReading,
    newest.NewestOf (before ++ [last]) →
    last.observation.fiveHour = newest.observation.fiveHour ∧
      last.observation.sevenDay = newest.observation.sevenDay ∧
      (last.Trips percent ↔ newest.Trips percent)

section Readings

variable {db : QuotaGuardDb} {provider : UpstreamProvider} {id : AccountID}

theorem recordUpstreamQuotaObservation_commits (guarded : guardedUpstreamProvider provider = true)
    (stored : ((db.accounts.find? id).any fun account => account.provider = provider) = true)
    {reading : QuotaReading} (valid : validUpstreamQuotaObservation reading.observation = true) :
    guardStep db (.record ⟨provider, id, reading.observation, reading.automatic, reading.at'⟩) =
      { db with
        states := (db.states.insertIfAbsent (.new id)).modify id
          (UpstreamQuotaGuardRow.record db.settings.safetyPercent reading.observation
            reading.automatic reading.at') (UpstreamQuotaGuardRow.accountID_record _ _ _ _) } := by
  rw [guardStep]
  refine Transaction.commit_of_ok ?_
  simp only [recordUpstreamQuotaObservation, guarded, valid, lockUpstreamQuotaGuardRow, stored]
  rfl

theorem UpstreamQuotaGuardRow.record_holds {row : UpstreamQuotaGuardRow}
    (auto : row.source = .auto) (percent : Int) (reading : QuotaReading) :
    (row.record percent reading.observation reading.automatic reading.at').source = .auto ∧
      (row.record percent reading.observation reading.automatic reading.at').Holds percent
        reading := by
  have automatic : ¬ (reading.automatic = false ∧ row.source = .manual) := by
    rw [auto]
    rintro ⟨-, impossible⟩
    cases impossible
  have decides :=
    evaluateUpstreamQuotaGuard_decides reading.observation row.snapshot percent reading.at'
  unfold UpstreamQuotaGuardRow.record
  rw [if_neg automatic]
  refine ⟨rfl, rfl, rfl, ?_⟩
  rw [QuotaReading.Trips, ← decides.limited]
  dsimp only [UpstreamQuotaGuardRow.apply]
  split <;> simp_all

/-- The account is known, and nobody has set its state by hand. -/
structure QuotaGuardDb.Automatic (db : QuotaGuardDb) (provider : UpstreamProvider)
    (id : AccountID) : Prop where
  stored : ((db.accounts.find? id).any fun account => account.provider = provider) = true
  auto : ((db.states.find? id).getD (.new id)).source = .auto

theorem recordAll_append (readings : List QuotaReading) (last : QuotaReading) :
    recordAll db provider id (readings ++ [last]) =
      guardStep (recordAll db provider id readings)
        (.record ⟨provider, id, last.observation, last.automatic, last.at'⟩) := by
  rw [recordAll, recordAll, guardRun, guardRun, Transaction.run, Transaction.run, List.map_append,
    List.foldl_append]
  rfl

theorem recordAll_automatic (guarded : guardedUpstreamProvider provider = true)
    (automatic : db.Automatic provider id) {readings : List QuotaReading}
    (valid : ∀ reading ∈ readings, validUpstreamQuotaObservation reading.observation = true) :
    (recordAll db provider id readings).Automatic provider id ∧
      (recordAll db provider id readings).settings = db.settings := by
  induction readings using List.reverseRecOn with
  | nil => exact ⟨automatic, rfl⟩
  | append_singleton before last ih =>
    obtain ⟨kept, settings⟩ := ih fun reading member =>
      valid reading (List.mem_append_left _ member)
    rw [recordAll_append, recordUpstreamQuotaObservation_commits guarded kept.stored
      (valid last (List.mem_append_right _ List.mem_cons_self))]
    refine ⟨⟨kept.stored, ?_⟩, settings⟩
    dsimp only
    rw [find?_modify_insertIfAbsent, if_pos rfl, Option.getD_some]
    exact (UpstreamQuotaGuardRow.record_holds kept.auto _ last).1

theorem recordAll_last (guarded : guardedUpstreamProvider provider = true)
    (automatic : db.Automatic provider id) {before : List QuotaReading} {last : QuotaReading}
    (valid : ∀ reading ∈ before ++ [last],
      validUpstreamQuotaObservation reading.observation = true) :
    ∃ row, (recordAll db provider id (before ++ [last])).states.find? id = some row ∧
      row.Holds db.settings.safetyPercent last := by
  obtain ⟨kept, settings⟩ := recordAll_automatic guarded automatic fun reading member =>
    valid reading (List.mem_append_left [last] member)
  rw [recordAll_append, recordUpstreamQuotaObservation_commits guarded kept.stored
    (valid last (List.mem_append_right _ List.mem_cons_self))]
  dsimp only
  rw [find?_modify_insertIfAbsent, if_pos rfl, settings]
  exact ⟨_, rfl, (UpstreamQuotaGuardRow.record_holds kept.auto _ last).2⟩

/-- The newest reading decides exactly if none commits after it that can be told from it. -/
theorem recordAll_newestDecides (guarded : guardedUpstreamProvider provider = true)
    (automatic : db.Automatic provider id) (readings : List QuotaReading)
    (valid : ∀ reading ∈ readings, validUpstreamQuotaObservation reading.observation = true) :
    NewestDecides db provider id readings ↔ CommitInOrder db.settings.safetyPercent readings := by
  refine forall_congr' fun before => forall_congr' fun last => forall_congr' fun front =>
    forall_congr' fun newest => forall_congr' fun isNewest => ?_
  obtain ⟨row, found, holds⟩ := recordAll_last guarded automatic fun reading member =>
    valid reading (front.subset member)
  constructor
  · rintro ⟨row', found', holds'⟩
    cases found.symm.trans found'
    exact ⟨holds.fiveHour.symm.trans holds'.fiveHour, holds.sevenDay.symm.trans holds'.sevenDay,
      holds.limited.symm.trans holds'.limited⟩
  · rintro ⟨fiveHour, sevenDay, trips⟩
    exact ⟨row, found, holds.fiveHour.trans fiveHour, holds.sevenDay.trans sevenDay,
      holds.limited.trans trips⟩

end Readings

/-- Nothing was used when the older reading was taken. -/
def olderReading : QuotaReading := ⟨⟨1, some ⟨0, none⟩, none⟩, false, 4⟩

def newerReading : QuotaReading := ⟨⟨2, some ⟨99, none⟩, none⟩, true, 3⟩

def readingsDb : QuotaGuardDb := .initial defaultSettings guardedAccounts

theorem readingsDb_automatic : readingsDb.Automatic .codex guardedAccountID :=
  ⟨by decide +kernel, by decide +kernel⟩

/-- A query that was started first and commits last reopens a limited account. -/
theorem recordAll_reopened :
    ((recordAll readingsDb .codex guardedAccountID [newerReading]).states.find?
        guardedAccountID).map (·.status) = some .limited ∧
      ((recordAll readingsDb .codex guardedAccountID [newerReading, olderReading]).states.find?
        guardedAccountID).map (·.status) = some .available ∧
      ¬ NewestDecides readingsDb .codex guardedAccountID [newerReading, olderReading] := by
  have reopened : ((recordAll readingsDb .codex guardedAccountID
      [newerReading, olderReading]).states.find? guardedAccountID).map (·.status) =
        some .available := by decide +kernel
  refine ⟨by decide +kernel, reopened, fun decides => ?_⟩
  obtain ⟨row, found, holds⟩ := decides [newerReading] olderReading List.prefix_rfl newerReading
    ⟨List.mem_cons_self, by decide⟩
  have limited := holds.limited.mpr ⟨.fiveHour, ⟨99, none⟩, rfl, by decide⟩
  rw [List.singleton_append] at found
  rw [found, Option.map_some, limited] at reopened
  cases reopened

/-- In the order of their times the newest of the two decides. -/
theorem recordAll_newestDecides_ordered :
    NewestDecides readingsDb .codex guardedAccountID [olderReading, newerReading] := by
  refine (recordAll_newestDecides rfl readingsDb_automatic [olderReading, newerReading]
    (by decide)).mpr ?_
  intro before last front newest isNewest
  -- every prefix of the two ends in its own newest reading
  have cases : before ++ [last] = [olderReading] ∨ before ++ [last] = [olderReading, newerReading] := by
    have member := List.mem_inits _ _ |>.mpr front
    simpa using member
  suffices same : newest = last by
    rw [same]
    exact ⟨rfl, rfl, Iff.rfl⟩
  obtain ⟨member, newer⟩ := isNewest
  rcases cases with one | both
  · obtain ⟨rfl, only⟩ := List.append_inj' (one.trans (List.nil_append _).symm) rfl
    cases only
    simpa using member
  · obtain ⟨rfl, only⟩ := List.append_inj' (both.trans List.singleton_append.symm) rfl
    cases only
    rw [both] at member newer
    have late := newer newerReading (by simp)
    rcases List.mem_cons.mp member with rfl | member
    · exact absurd late (by decide)
    · simpa using member

/-! ## A reading decided again -/

/-- How much of a window is used, at every time, and when it resets. -/
structure WindowTruth where
  used : Time → ℝ
  resets : Set Time
  nonneg : ∀ time, 0 ≤ used time
  le_hundred : ∀ time, used time ≤ 100
  grows : ∀ {s t}, s ≤ t → (∀ reset ∈ resets, ¬ (s < reset ∧ reset ≤ t)) → used s ≤ used t

/-- A reading is true, and so is the reset that it reports. -/
structure WindowTruth.Matches (truth : WindowTruth) (observedAt : Time)
    (w : UpstreamQuotaWindow) : Prop where
  used : truth.used observedAt = w.usedPercent
  reset : ∀ reset ∈ w.resetAt, IsLeast {r ∈ truth.resets | observedAt < r} reset

/-- Until a reported reset a reading can only overstate what remains. -/
theorem WindowTruth.Matches.le_used {truth : WindowTruth} {observedAt t reset : Time}
    {w : UpstreamQuotaWindow} (matching : truth.Matches observedAt w) (since : observedAt ≤ t)
    (known : w.resetAt = some reset) (before : t < reset) :
    (w.usedPercent : ℝ) ≤ truth.used t := by
  rw [← matching.used]
  refine truth.grows since fun r member inside => ?_
  exact absurd ((matching.reset reset known).2 ⟨member, inside.1⟩)
    (not_le.mpr (lt_of_le_of_lt inside.2 before))

/-- The window is as read up to a reset that nobody reported. -/
noncomputable def WindowTruth.resetUnseen (used : ℝ) (nonneg : 0 ≤ used) (le : used ≤ 100)
    (reset : Time) : WindowTruth where
  used time := if time < reset then used else 0
  resets := {reset}
  nonneg time := by split <;> simp [nonneg]
  le_hundred time := by split <;> simp [le]
  grows {s t} order quiet := by
    have outside := quiet reset rfl
    by_cases early : s < reset
    · have still : t < reset := not_le.mp fun late => outside ⟨early, late⟩
      simp [early, still]
    · have later : ¬ t < reset := not_lt.mpr ((not_lt.mp early).trans order)
      simp [early, later]

theorem WindowTruth.resetUnseen_used {used : ℝ} {nonneg : 0 ≤ used} {le : used ≤ 100}
    {reset time : Time} :
    (resetUnseen used nonneg le reset).used time = if time < reset then used else 0 :=
  rfl

/-- What the settings leave limited because of a window has at most the percentage left. -/
def NeverTooEarly (db : QuotaGuardDb) (percent : Int) (actor : Text) (at' : Time)
    (id : AccountID) (observation : UpstreamQuotaObservation) : Prop :=
  ∀ result, setUpstreamQuotaGuardSettings db percent actor at' = .ok result →
    ∀ row name w, result.1.states.find? id = some row → row.status = .limited →
      row.limitedWindow = some name → observation.window name = some w →
      ∀ truth : WindowTruth, truth.Matches observation.observedAt w →
        100 - truth.used at' ≤ percent

/-- Of the windows that trip, one has a reset time if any does not. -/
def UpstreamQuotaObservation.ResetKnown (percent : Int) (at' : Time)
    (observation : UpstreamQuotaObservation) : Prop :=
  ∀ name w, observation.window name = some w → w.Trips percent at' → w.resetAt = none →
    ∃ name' w', observation.window name' = some w' ∧ w'.Trips percent at' ∧ w'.resetAt ≠ none

theorem UpstreamQuotaGuardRow.limited_reapply {row : UpstreamQuotaGuardRow}
    {observation : UpstreamQuotaObservation} (taken : row.snapshot = some observation)
    (percent : Int) (at' : Time) :
    ((row.reapply percent at').status = .limited ↔
        (evaluateUpstreamQuotaGuard observation none percent at').limited = true) ∧
      (row.reapply percent at').limitedWindow =
        (evaluateUpstreamQuotaGuard observation none percent at').window := by
  have decides := evaluateUpstreamQuotaGuard_decides observation none percent at'
  simp only [UpstreamQuotaGuardRow.reapply, taken, UpstreamQuotaGuardRow.apply]
  cases limited : (evaluateUpstreamQuotaGuard observation none percent at').limited with
  | true => simp
  | false => simp [(decides.unlimited limited).1]

section Settings

variable {db : QuotaGuardDb} {percent : Int} {actor : Text} {at' : Time} {id : AccountID}
  {row : UpstreamQuotaGuardRow} {observation : UpstreamQuotaObservation}

variable (db at') in
theorem setUpstreamQuotaGuardSettings_commits (least : 0 ≤ percent)
    (most : percent ≤ maxUpstreamQuotaGuardPercent) (named : Text.trimSpace actor ≠ []) :
    ∃ result, setUpstreamQuotaGuardSettings db percent actor at' = .ok result := by
  have accepted : ¬ (percent < 0 ∨ percent > maxUpstreamQuotaGuardPercent ∨
      Text.trimSpace actor = []) := by
    simp [named, not_lt.mpr least, not_lt.mpr most]
  rw [setUpstreamQuotaGuardSettings, if_neg accepted]
  exact ⟨_, rfl⟩

theorem setUpstreamQuotaGuardSettings_row (found : db.states.find? id = some row)
    (auto : row.source = .auto) (taken : row.snapshot = some observation)
    {result : QuotaGuardDb × UpstreamQuotaGuardSettings}
    (ok : setUpstreamQuotaGuardSettings db percent actor at' = .ok result) :
    result.1.states.find? id = some (row.reapply percent at') := by
  have observed : row.observedAt.isSome = true := by
    cases seen : row.observedAt with
    | none => simp [UpstreamQuotaGuardRow.snapshot, seen] at taken
    | some _ => rfl
  rw [setUpstreamQuotaGuardSettings_ok ok, Table.find?_update, found]
  simp [auto, observed]

/-- The window that a changed percentage names trips, and has a reset time if any that trips
has one. -/
theorem reapply_window (taken : row.snapshot = some observation)
    (limited : (row.reapply percent at').status = .limited) :
    ∃ name w, (row.reapply percent at').limitedWindow = some name ∧
      observation.window name = some w ∧ w.Trips percent at' ∧
      (w.resetAt = none → ¬ observation.ResetKnown percent at') := by
  have decides := evaluateUpstreamQuotaGuard_decides observation none percent at'
  obtain ⟨statusIff, windowEq⟩ := row.limited_reapply taken percent at'
  obtain ⟨name, w, because, stored, trips, reset⟩ := decides.window (statusIff.mp limited)
  refine ⟨name, w, windowEq.trans because, stored, trips, fun unknown known => ?_⟩
  obtain ⟨name', w', stored', trips', reported⟩ := known name w stored trips unknown
  obtain ⟨reset', isReset⟩ := Option.ne_none_iff_exists'.mp reported
  obtain ⟨latest, isLatest, -⟩ := decides.latest name' w' reset' stored' trips' isReset
  rw [← reset, unknown] at isLatest
  cases isLatest

theorem usedPercent_of_valid (valid : validUpstreamQuotaObservation observation = true)
    {name : QuotaWindowName} {w : UpstreamQuotaWindow} (stored : observation.window name = some w) :
    0 ≤ w.usedPercent ∧ w.usedPercent ≤ 100 := by
  cases name <;> simp_all [validUpstreamQuotaObservation, UpstreamQuotaObservation.window]

/-- A change of the percentage never limits too early exactly if it is made at the time of the
reading, or the resets that matter were reported. -/
theorem setUpstreamQuotaGuardSettings_neverTooEarly (found : db.states.find? id = some row)
    (auto : row.source = .auto) (taken : row.snapshot = some observation)
    (valid : validUpstreamQuotaObservation observation = true) (least : 0 ≤ percent)
    (most : percent ≤ maxUpstreamQuotaGuardPercent) (named : Text.trimSpace actor ≠ [])
    (since : observation.observedAt ≤ at') :
    NeverTooEarly db percent actor at' id observation ↔
      at' = observation.observedAt ∨ observation.ResetKnown percent at' := by
  constructor
  · intro never
    rcases eq_or_lt_of_le since with same | later
    · exact .inl same.symm
    right
    intro name w stored trips unknown
    by_contra noneKnown
    have limited : (row.reapply percent at').status = .limited :=
      (row.limited_reapply taken percent at').1.mpr
        ((evaluateUpstreamQuotaGuard_decides observation none percent at').limited.mpr
          ⟨name, w, stored, trips⟩)
    obtain ⟨name', w', because, stored', trips', -⟩ := reapply_window taken limited
    have unknown' : w'.resetAt = none := by
      by_contra reported
      exact noneKnown ⟨name', w', stored', trips', reported⟩
    obtain ⟨nonneg, le⟩ := usedPercent_of_valid valid stored'
    -- the window resets just when the percentage is changed
    let truth := WindowTruth.resetUnseen w'.usedPercent (by exact_mod_cast nonneg)
      (by exact_mod_cast le) at'
    have matching : truth.Matches observation.observedAt w' :=
      ⟨by rw [WindowTruth.resetUnseen_used, if_pos later], by simp [unknown']⟩
    obtain ⟨result, ok⟩ := setUpstreamQuotaGuardSettings_commits db at' least most named
    have bound := never result ok _ name' w' (setUpstreamQuotaGuardSettings_row found auto taken ok)
      limited because stored' truth matching
    have fresh : truth.used at' = 0 := by
      rw [WindowTruth.resetUnseen_used, if_neg (lt_irrefl at')]
    have small : (percent : ℝ) ≤ 50 := by exact_mod_cast most
    linarith
  · intro condition result ok row' name w found' limited because stored truth matching
    cases (setUpstreamQuotaGuardSettings_row found auto taken ok).symm.trans found'
    obtain ⟨name', w', because', stored', trips, unreported⟩ := reapply_window taken limited
    cases because.symm.trans because'
    cases stored.symm.trans stored'
    have little : (100 : ℝ) - w.usedPercent ≤ percent := by exact_mod_cast trips.1
    rcases condition with rfl | known
    · rw [matching.used]
      exact little
    · cases reset : w.resetAt with
      | none => exact absurd known (unreported reset)
      | some reset' =>
        have kept := matching.le_used since reset (trips.2 reset' reset)
        linarith

end Settings

/-- The reading of an account whose service names no reset time. -/
def unreportedRow : UpstreamQuotaGuardRow :=
  { UpstreamQuotaGuardRow.new guardedAccountID with
    observedAt := some 0
    fiveHour := some ⟨98, none⟩ }

def unreportedDb : QuotaGuardDb :=
  ⟨⟨0, 1, 0⟩, guardedAccounts, ⟨[unreportedRow], List.nodup_singleton _⟩⟩

/-- A window that reset an hour ago still limits the account when the percentage is raised. -/
theorem setUpstreamQuotaGuardSettings_tooEarly :
    ¬ NeverTooEarly unreportedDb 5 "owner".toList (120 * minute) guardedAccountID
      ⟨0, some ⟨98, none⟩, none⟩ := by
  intro never
  let truth := WindowTruth.resetUnseen 98 (by norm_num) (by norm_num) (60 * minute)
  have matching : truth.Matches 0 ⟨98, none⟩ :=
    ⟨by rw [WindowTruth.resetUnseen_used, if_pos (by decide)]; norm_num, by simp⟩
  have fresh : truth.used (120 * minute) = 0 := by
    rw [WindowTruth.resetUnseen_used, if_neg (by decide)]
  have bound := never _ rfl (unreportedRow.reapply 5 (120 * minute)) .fiveHour ⟨98, none⟩
    (by decide +kernel) rfl rfl rfl truth matching
  norm_num [fresh] at bound

def reportedRow : UpstreamQuotaGuardRow :=
  { unreportedRow with fiveHour := some ⟨98, some (300 * minute)⟩ }

def reportedDb : QuotaGuardDb :=
  ⟨⟨0, 1, 0⟩, guardedAccounts, ⟨[reportedRow], List.nodup_singleton _⟩⟩

/-- The same reading with the reset reported: what it limits has little left. -/
theorem setUpstreamQuotaGuardSettings_neverTooEarly_reported :
    NeverTooEarly reportedDb 5 "owner".toList (120 * minute) guardedAccountID
      ⟨0, some ⟨98, some (300 * minute)⟩, none⟩ := by
  have found : reportedDb.states.find? guardedAccountID = some reportedRow := by decide +kernel
  refine (setUpstreamQuotaGuardSettings_neverTooEarly found rfl rfl (by decide) (by decide)
    (by decide) (by decide) (by decide)).mpr (.inr ?_)
  intro name w stored trips unknown
  cases name with
  | fiveHour => cases stored; cases unknown
  | sevenDay => cases stored

end Store
