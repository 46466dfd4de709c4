import CodexGateway.Store.QuotaGuard
import Mathlib.Data.Rat.Lemmas
import Mathlib.Tactic.Linarith
import Mathlib.Tactic.FieldSimp
import Mathlib.Tactic.NormNum

/-! # When the quota guard looks again

The times of a decision: how long a limited account is held, and how soon an open one is
checked when its usage rises. Predicting is done in 64 bits, and the product may overflow.
-/

namespace Store

/-- Both readings of a window are of one period: their reset times are close. -/
def UpstreamQuotaWindow.SamePeriod (current prior : UpstreamQuotaWindow) : Prop :=
  ∃ reset ∈ current.resetAt, ∃ priorReset ∈ prior.resetAt,
    |reset - priorReset| ≤ upstreamQuotaGuardSamePeriod

/-- The window was read twice in one period, and more of it was used the second time. -/
structure Rose (observation before : UpstreamQuotaObservation) (name : QuotaWindowName)
    (current prior : UpstreamQuotaWindow) : Prop where
  reads : observation.window name = some current
  readBefore : before.window name = some prior
  samePeriod : current.SamePeriod prior
  rising : prior.usedPercent < current.usedPercent

/-- How long the margin lasts if usage goes on rising as it did between the readings. -/
def predictedTime (observation before : UpstreamQuotaObservation)
    (current prior : UpstreamQuotaWindow) (percent : Int) : ℚ :=
  (observation.observedAt - before.observedAt : Int) * (100 - current.usedPercent - percent : Int) /
    (current.usedPercent - prior.usedPercent : Int)

/-- The next check leaves half of the predicted time, or is as early as allowed. -/
def UpstreamQuotaGuardDecision.InTime (decision : UpstreamQuotaGuardDecision) (now : Time)
    (predicted : ℚ) : Prop :=
  (decision.nextCheckAt - now : Int) ≤ max (upstreamQuotaGuardMinInterval : ℚ) (predicted / 2)

/-- What a decision promises about times. A window that has reset predicts nothing, and
neither do readings that were not taken one after the other. -/
structure UpstreamQuotaGuardDecision.Timely (decision : UpstreamQuotaGuardDecision)
    (observation : UpstreamQuotaObservation) (previous : Option UpstreamQuotaObservation)
    (percent : Int) (now : Time) : Prop where
  limited : decision.limited = true ↔ observation.Trips percent now
  restore : decision.limited = true →
    decision.restoreAt = some decision.nextCheckAt ∧ now < decision.nextCheckAt
  reset : ∀ name w reset, observation.window name = some w → w.Trips percent now →
    w.resetAt = some reset → reset + 5 * minute ≤ decision.nextCheckAt
  unknown : ∀ name w, observation.window name = some w → w.Trips percent now →
    w.resetAt = none → now + 60 * minute ≤ decision.nextCheckAt
  bounds : decision.limited = false →
    now + 10 * minute ≤ decision.nextCheckAt ∧ decision.nextCheckAt ≤ now + 60 * minute
  predicted : decision.limited = false → ∀ before ∈ previous, ∀ name current prior,
    Rose observation before name current prior → (∀ reset ∈ current.resetAt, now < reset) →
    before.observedAt < observation.observedAt →
    decision.InTime now (predictedTime observation before current prior percent)

/-! ## Predicting in 64 bits -/

theorem subDuration_pos {a b : Int} (later : b < a) :
    0 < subDuration a b ∧ subDuration a b ≤ a - b := by
  unfold subDuration
  omega

theorem subDuration_near {a b : Int} (close : |a - b| ≤ upstreamQuotaGuardSamePeriod) :
    subDuration a b ≤ upstreamQuotaGuardSamePeriod ∧
      -upstreamQuotaGuardSamePeriod ≤ subDuration a b := by
  have bounds : -(2 * minute) ≤ a - b ∧ a - b ≤ 2 * minute := abs_le.mp close
  change subDuration a b ≤ 2 * minute ∧ -(2 * minute) ≤ subDuration a b
  simp only [subDuration, minute, second] at bounds ⊢
  omega

theorem mulDuration_eq {a b : Int} (nonneg : 0 ≤ a * b) (fits : a * b < 2 ^ 63) :
    mulDuration a b = a * b := by
  refine Int.bmod_eq_of_le ?_ ?_ <;> omega

/-- An overflow does no harm: the exact product would be beyond the longest interval. -/
theorem half_untilLimit {elapsed margin rise interval : Int} (elapsed_pos : 0 < elapsed)
    (margin_pos : 0 < margin) (rise_pos : 0 < rise) (rise_le : rise ≤ 100)
    (longest : interval ≤ upstreamQuotaGuardMaxInterval)
    (half : interval ≤ ((mulDuration elapsed margin).tdiv rise).tdiv 2) :
    interval * (rise * 2) ≤ elapsed * margin := by
  have product : 0 < elapsed * margin := mul_pos elapsed_pos margin_pos
  by_cases fits : elapsed * margin < 2 ^ 63
  · rw [mulDuration_eq product.le fits, Int.tdiv_eq_ediv_of_nonneg product.le,
      Int.tdiv_eq_ediv_of_nonneg (Int.ediv_nonneg product.le rise_pos.le),
      Int.ediv_ediv_of_nonneg rise_pos.le] at half
    exact (Int.le_ediv_iff_mul_le (by omega)).mp half
  · simp only [upstreamQuotaGuardMaxInterval, minute, second] at longest
    rcases Int.le_total interval 0 with early | late
    · have nonpos := mul_nonpos_of_nonpos_of_nonneg early (by omega : 0 ≤ rise * 2)
      omega
    · have product_le := mul_le_mul longest (by omega : rise * 2 ≤ 200) (by omega) (by omega)
      omega

/-! ## The times of a scan -/

section Scan

variable {observation : UpstreamQuotaObservation} {previous : Option UpstreamQuotaObservation}
  {percent : Int} {now : Time}

variable (observation previous percent now) in
/-- The scan has taken in the times of a window. -/
structure GuardScan.Minds (scan : GuardScan) (name : QuotaWindowName) : Prop where
  unknown : ∀ w, observation.window name = some w → w.Trips percent now → w.resetAt = none →
    scan.unknownReset = true
  predicted : ∀ w limit, observation.window name = some w →
    (∀ reset ∈ w.resetAt, now < reset) → percent < 100 - w.usedPercent →
    untilLimit observation.observedAt previous name w (100 - w.usedPercent - percent) =
      some limit →
    scan.interval ≤ limit.tdiv 2

theorem GuardScan.interval_trip (scan : GuardScan) (name : QuotaWindowName)
    (reset : Option Time) : (scan.trip name reset).interval = scan.interval := by
  unfold GuardScan.trip
  split
  · rfl
  · split <;> rfl

theorem GuardScan.unknownReset_trip (scan : GuardScan) (name : QuotaWindowName)
    (reset : Option Time) :
    (scan.trip name reset).unknownReset = (scan.unknownReset || reset.isNone) := by
  unfold GuardScan.trip
  split
  · simp
  · split <;> simp

theorem GuardScan.interval_keep_le (scan : GuardScan) (margin : Int) (predicted : Option Int) :
    (scan.keep margin predicted).interval ≤ scan.interval := by
  cases predicted with
  | none => exact le_refl _
  | some limit => exact min_le_left _ _

/-- A visit forgets nothing: no interval grows. -/
theorem GuardScan.Minds.visit {scan : GuardScan} {other : QuotaWindowName}
    (minds : scan.Minds observation previous percent now other) (name : QuotaWindowName) :
    (scan.visit observation previous percent now name).Minds observation previous percent now
      other := by
  have later : (scan.unknownReset = true →
        (scan.visit observation previous percent now name).unknownReset = true) ∧
      (scan.visit observation previous percent now name).interval ≤ scan.interval := by
    unfold GuardScan.visit
    split
    · exact ⟨id, le_rfl⟩
    · dsimp only
      split
      · exact ⟨id, le_rfl⟩
      · split
        · simp +contextual [GuardScan.unknownReset_trip, GuardScan.interval_trip]
        · exact ⟨id, scan.interval_keep_le _ _⟩
  refine ⟨?_, ?_⟩
  · intro w found trips missing
    exact later.1 (minds.unknown w found trips missing)
  · intro w limit found ahead enough limits
    exact later.2.trans (minds.predicted w limit found ahead enough limits)

theorem GuardScan.minds_visit (scan : GuardScan) (name : QuotaWindowName) :
    (scan.visit observation previous percent now name).Minds observation previous percent now
      name := by
  refine ⟨?_, ?_⟩
  · intro w here trips missing
    simp [GuardScan.visit, here, missing, trips.1, GuardScan.trip]
  · intro w limit here ahead enough limits
    have current : (w.resetAt.any fun reset => decide (reset ≤ now)) = false := by
      simpa [Option.any_eq_false] using ahead
    simp only [GuardScan.visit, here, current, Bool.false_eq_true, if_false, if_neg enough.not_ge,
      limits]
    exact min_le_right _ _

theorem GuardScan.held_le_restore (scan : GuardScan) (unknown : scan.unknownReset = true) :
    now + upstreamQuotaGuardUnknownResetHold ≤ scan.restore now := by
  unfold GuardScan.restore
  dsimp only
  split
  · exact le_rfl
  · split
    · rename_i later
      simp only [unknown, Bool.true_eq_false, false_or] at later
      exact later.le
    · exact le_rfl

/-- Whatever is waited for lies ahead. -/
theorem GuardScan.lt_restore (scan : GuardScan) (ahead : ∀ reset ∈ scan.resetAt, now < reset) :
    now < scan.restore now := by
  cases known : scan.resetAt with
  | none =>
    simp only [GuardScan.restore, known]
    exact Int.lt_add_of_pos_right now (by decide)
  | some reset =>
    have delayed : reset < reset + upstreamQuotaGuardRestoreDelay :=
      Int.lt_add_of_pos_right reset (by decide)
    exact (ahead reset known).trans (delayed.trans_le (scan.le_restore known))

theorem GuardScan.nextInterval_bounds (scan : GuardScan) :
    upstreamQuotaGuardMinInterval ≤ scan.nextInterval ∧
      scan.nextInterval ≤ upstreamQuotaGuardMaxInterval :=
  ⟨le_max_left _ _, max_le (by decide) (min_le_left _ _)⟩

theorem GuardScan.nextInterval_le (scan : GuardScan) :
    scan.nextInterval ≤ max upstreamQuotaGuardMinInterval scan.interval := by
  unfold GuardScan.nextInterval
  refine max_le (le_max_left _ _) (le_trans (min_le_right _ _) ?_)
  split
  · exact le_max_left _ _
  · split
    · exact (min_le_left _ _).trans (le_max_right _ _)
    · split
      · exact (min_le_left _ _).trans (le_max_right _ _)
      · split
        · exact (min_le_left _ _).trans (le_max_right _ _)
        · exact le_max_right _ _

/-- A scan's interval leaves half of the time that each rising window has left. -/
theorem GuardScan.Minds.inTime {scan : GuardScan} {name : QuotaWindowName}
    (minds : scan.Minds observation previous percent now name)
    (valid : validUpstreamQuotaObservation observation = true) {before : UpstreamQuotaObservation}
    (known : previous = some before) (validBefore : validUpstreamQuotaObservation before = true)
    {current prior : UpstreamQuotaWindow} (rose : Rose observation before name current prior)
    (ahead : ∀ reset ∈ current.resetAt, now < reset) (enough : percent < 100 - current.usedPercent)
    (ordered : before.observedAt < observation.observedAt) :
    (scan.nextInterval : ℚ) ≤ max (upstreamQuotaGuardMinInterval : ℚ)
      (predictedTime observation before current prior percent / 2) := by
  obtain ⟨reset, resets, priorReset, priorResets, close⟩ := rose.samePeriod
  have rising := rose.rising
  have inRange : ∀ {o : UpstreamQuotaObservation} {w : UpstreamQuotaWindow},
      validUpstreamQuotaObservation o = true → o.window name = some w →
      0 ≤ w.usedPercent ∧ w.usedPercent ≤ 100 := by
    intro o w ok found
    cases name <;> simp_all [validUpstreamQuotaObservation, UpstreamQuotaObservation.window]
  have used := inRange valid rose.reads
  have usedBefore := inRange validBefore rose.readBefore
  have elapsed := subDuration_pos ordered
  have gap := subDuration_near close
  have limits : untilLimit observation.observedAt previous name current
      (100 - current.usedPercent - percent) =
      some ((mulDuration (subDuration observation.observedAt before.observedAt)
        (100 - current.usedPercent - percent)).tdiv (current.usedPercent - prior.usedPercent)) := by
    simp [untilLimit, known, rose.readBefore, Option.mem_def.mp resets,
      Option.mem_def.mp priorResets, rising, ordered, gap]
  have half := minds.predicted current _ rose.reads ahead enough limits
  rcases le_total scan.interval upstreamQuotaGuardMinInterval with early | late
  · refine le_max_of_le_left ?_
    exact_mod_cast scan.nextInterval_le.trans_eq (max_eq_left early)
  · refine le_max_of_le_right ?_
    have within : scan.nextInterval ≤ scan.interval :=
      scan.nextInterval_le.trans_eq (max_eq_right late)
    have exact' := half_untilLimit elapsed.1 (by omega) (by omega) (by omega)
      scan.nextInterval_bounds.2 (within.trans half)
    have whole : scan.nextInterval * ((current.usedPercent - prior.usedPercent) * 2) ≤
        (observation.observedAt - before.observedAt) * (100 - current.usedPercent - percent) :=
      exact'.trans (Int.mul_le_mul_of_nonneg_right elapsed.2 (by omega))
    have positive : (0 : ℚ) < (current.usedPercent - prior.usedPercent : Int) := by
      exact_mod_cast Int.sub_pos.mpr rising
    rw [predictedTime, div_div, le_div_iff₀ (by linarith)]
    exact_mod_cast whole

variable (observation previous percent now) in
/-- For every reading, every reading before it, every percentage and every time: an account
is limited exactly while a window that has not reset has too little left, it is held
until each such window has reset, and otherwise it is checked again in time. -/
theorem evaluateUpstreamQuotaGuard_timely (valid : validUpstreamQuotaObservation observation = true)
    (validBefore : ∀ before ∈ previous, validUpstreamQuotaObservation before = true) :
    (evaluateUpstreamQuotaGuard observation previous percent now).Timely observation previous
      percent now := by
  have decides := evaluateUpstreamQuotaGuard_decides observation previous percent now
  have minds : ∀ name, ([QuotaWindowName.fiveHour, .sevenDay].foldl
      (GuardScan.visit observation previous percent now) .start).Minds observation previous percent
        now name := by
    intro name
    cases name with
    | fiveHour => exact (GuardScan.start.minds_visit .fiveHour).visit .sevenDay
    | sevenDay => exact GuardScan.minds_visit _ .sevenDay
  unfold evaluateUpstreamQuotaGuard at decides ⊢
  dsimp only at decides ⊢
  generalize [QuotaWindowName.fiveHour, .sevenDay].foldl
    (GuardScan.visit observation previous percent now) .start = scan at minds decides
  split
  · rename_i tripped
    rw [if_pos tripped] at decides
    refine ⟨decides.limited, fun _ => ⟨rfl, scan.lt_restore ?_⟩, ?_, ?_, by simp, by simp⟩
    · intro reset known
      obtain ⟨_, w, -, -, trips, same⟩ := decides.window rfl
      exact trips.2 reset (same ▸ known)
    · intro name w reset found trips known
      obtain ⟨latest, stored, below⟩ := decides.latest name w reset found trips known
      exact (Int.add_le_add_right below _).trans (decides.delay rfl latest stored)
    · intro name w found trips missing
      exact scan.held_le_restore ((minds name).unknown w found trips missing)
  · rename_i quiet
    rw [if_neg quiet] at decides
    have noTrip : ∀ {name w}, observation.window name = some w → ¬ w.Trips percent now := by
      intro name w found trips
      cases decides.limited.mpr ⟨name, w, found, trips⟩
    refine ⟨decides.limited, by simp, fun name w reset found trips => absurd trips (noTrip found),
      fun name w found trips => absurd trips (noTrip found), fun _ => ?_, ?_⟩
    · exact ⟨Int.add_le_add_left scan.nextInterval_bounds.1 now,
        Int.add_le_add_left scan.nextInterval_bounds.2 now⟩
    · intro _ before known name current prior rose ahead ordered
      have enough : percent < 100 - current.usedPercent := by
        by_contra little
        exact noTrip rose.reads ⟨not_lt.mp little, ahead⟩
      have inTime := (minds name).inTime valid known (validBefore before known) rose ahead enough
        ordered
      rw [UpstreamQuotaGuardDecision.InTime, add_sub_cancel_left]
      exact inTime

end Scan

/-! Two readings of one period, ten minutes apart. The second is taken as the window resets,
and the other window is hardly used. -/

def readingBeforeReset : UpstreamQuotaObservation :=
  ⟨20 * minute, some ⟨10, some (30 * minute)⟩, none⟩

def readingAtReset : UpstreamQuotaObservation :=
  ⟨30 * minute, some ⟨50, some (30 * minute)⟩, some ⟨0, some (600 * minute)⟩⟩

/-- Until the window resets its usage decides. -/
theorem evaluateUpstreamQuotaGuard_timely_beforeReset :
    (evaluateUpstreamQuotaGuard readingAtReset (some readingBeforeReset) 10 (29 * minute)).Timely
      readingAtReset (some readingBeforeReset) 10 (29 * minute) :=
  evaluateUpstreamQuotaGuard_timely readingAtReset (some readingBeforeReset) 10 (29 * minute)
    (by decide) (by simp; decide)

/-- Usage that rose in a period which is over does not bring the next check forward. -/
theorem readingAtReset_notInTime :
    Rose readingAtReset readingBeforeReset .fiveHour ⟨50, some (30 * minute)⟩
        ⟨10, some (30 * minute)⟩ ∧
      (evaluateUpstreamQuotaGuard readingAtReset (some readingBeforeReset) 10
        (30 * minute)).limited = false ∧
      ¬ (evaluateUpstreamQuotaGuard readingAtReset (some readingBeforeReset) 10
        (30 * minute)).InTime (30 * minute)
          (predictedTime readingAtReset readingBeforeReset ⟨50, some (30 * minute)⟩
            ⟨10, some (30 * minute)⟩ 10) := by
  have next : (evaluateUpstreamQuotaGuard readingAtReset (some readingBeforeReset) 10
      (30 * minute)).nextCheckAt = 90 * minute := by decide
  refine ⟨⟨rfl, rfl, ⟨_, rfl, _, rfl, by decide⟩, by decide⟩, by decide, ?_⟩
  rw [UpstreamQuotaGuardDecision.InTime, next]
  norm_num [predictedTime, readingAtReset, readingBeforeReset, upstreamQuotaGuardMinInterval,
    minute, second]

end Store
