import CodexGateway.Store.QuotaGuard

/-! # The schedule of quota checks

Claims, readings, an owner's choices and new settings arrive from any number of gateways
and with any times. What they leave in a row is always on schedule: claims are far apart,
and a limited account is not checked before it returns.
-/

namespace Store

variable {id : AccountID} {at' checked : Time}

inductive GuardOp where
  | claim (id : AccountID) (at' : Time)
  | record (params : RecordUpstreamQuotaObservationParams)
  | setStatus (provider : UpstreamProvider) (id : AccountID) (limited : Bool) (actor : Text)
      (at' : Time)
  | setSettings (safetyPercent : Int) (actor : Text) (at' : Time)
  /-- A synchronization adds an account. -/
  | account (account : UpstreamAccount)

def guardStep (db : QuotaGuardDb) : GuardOp → QuotaGuardDb
  | .claim id at' => (claimUpstreamQuotaCheck db id at').1
  | .record params =>
    Transaction.commit (fun db => (recordUpstreamQuotaObservation db params).map Prod.fst) db
  | .setStatus provider id limited actor at' =>
    Transaction.commit (fun db =>
      (setUpstreamQuotaGuardStatus db provider id limited actor at').map Prod.fst) db
  | .setSettings safetyPercent actor at' =>
    Transaction.commit (fun db =>
      (setUpstreamQuotaGuardSettings db safetyPercent actor at').map Prod.fst) db
  | .account account => { db with accounts := db.accounts.insertIfAbsent account }

def guardRun (db : QuotaGuardDb) (ops : List GuardOp) : QuotaGuardDb :=
  Transaction.run guardStep db ops

/-- The tables before the first check. -/
def QuotaGuardDb.initial (settings : UpstreamQuotaGuardSettings)
    (accounts : Table UpstreamAccount.id) : QuotaGuardDb :=
  ⟨settings, accounts, .empty⟩

def claims (db : QuotaGuardDb) (id : AccountID) (at' : Time) : Bool :=
  (claimUpstreamQuotaCheck db id at').2.claimed

/-! ## What an operation does to a row -/

inductive RowStep (row : UpstreamQuotaGuardRow) : GuardOp → UpstreamQuotaGuardRow → Prop
  | claimed (id : AccountID) (at' : Time) (due : row.due at' = true) :
      RowStep row (.claim id at') { row with autoCheckedAt := some at' }
  | recorded (percent : Int) (params : RecordUpstreamQuotaObservationParams) :
      RowStep row (.record params)
        (row.record percent params.observation params.automatic params.at')
  | set (provider : UpstreamProvider) (id : AccountID) (limited : Bool) (actor : Text)
      (at' : Time) : RowStep row (.setStatus provider id limited actor at')
        (row.setStatus limited at')
  | reapplied (percent : Int) (actor : Text) (at' : Time) (auto : row.source = .auto) :
      RowStep row (.setSettings percent actor at') (row.reapply percent at')

theorem due_new (id : AccountID) (at' : Time) : (UpstreamQuotaGuardRow.new id).due at' = true := rfl

variable {db : QuotaGuardDb} {row : UpstreamQuotaGuardRow} {observation : UpstreamQuotaObservation}

theorem claimUpstreamQuotaCheck_claimed (claimed : claims db id at' = true) :
    ((db.states.find? id).getD (.new id)).due at' = true ∧
      (claimUpstreamQuotaCheck db id at').1.states =
        (db.states.insertIfAbsent (.new id)).modify id
          (fun row => { row with autoCheckedAt := some at' }) (fun _ => rfl) := by
  unfold claims claimUpstreamQuotaCheck at *
  cases found : db.accounts.find? id with
  | none => simp [found] at claimed
  | some account =>
    simp only [found] at claimed ⊢
    split at claimed
    · cases claimed
    · rename_i guarded
      split at claimed
      · rename_i due
        rw [if_neg guarded, if_pos due]
        refine ⟨?_, rfl⟩
        cases stored : db.states.find? id with
        | none => exact due_new id at'
        | some row => simpa [stored] using due
      · cases claimed

theorem claimUpstreamQuotaCheck_unclaimed
    (unclaimed : claims db id at' = false) : (claimUpstreamQuotaCheck db id at').1 = db := by
  unfold claims claimUpstreamQuotaCheck at *
  cases found : db.accounts.find? id with
  | none => rfl
  | some account =>
    simp only [found] at unclaimed ⊢
    split
    · rfl
    · rename_i guarded
      rw [if_neg guarded] at unclaimed
      split at unclaimed
      · cases unclaimed
      · rename_i busy
        rw [if_neg busy]

theorem find?_modify_insertIfAbsent (states : Table UpstreamQuotaGuardRow.accountID)
    (id other : AccountID) (assign : UpstreamQuotaGuardRow → UpstreamQuotaGuardRow)
    (keeps : ∀ row, (assign row).accountID = row.accountID) :
    ((states.insertIfAbsent (.new id)).modify id assign keeps).find? other =
      if other = id then some (assign ((states.find? id).getD (.new id)))
      else states.find? other := by
  have key : (UpstreamQuotaGuardRow.new id).accountID = id := rfl
  rw [Table.find?_modify, Table.find?_insertIfAbsent, Table.find?_insertIfAbsent, key, if_pos rfl]
  by_cases own : other = id
  · rw [if_pos own, if_pos own]
    cases states.find? id <;> rfl
  · rw [if_neg own, if_neg own, if_neg own]

theorem guardStep_row (db : QuotaGuardDb) (op : GuardOp) (id : AccountID) :
    (guardStep db op).states.find? id = db.states.find? id ∨
      ∃ row', (guardStep db op).states.find? id = some row' ∧
        RowStep ((db.states.find? id).getD (.new id)) op row' := by
  let Moved (op : GuardOp) (db' : QuotaGuardDb) : Prop :=
    db'.states.find? id = db.states.find? id ∨ ∃ row', db'.states.find? id = some row' ∧
      RowStep ((db.states.find? id).getD (.new id)) op row'
  -- One row is locked and rewritten.
  have rewritten : ∀ {op : GuardOp} (other : AccountID)
      {assign : UpstreamQuotaGuardRow → UpstreamQuotaGuardRow}
      {keeps : ∀ row, (assign row).accountID = row.accountID} {db' : QuotaGuardDb},
      db'.states = (db.states.insertIfAbsent (.new other)).modify other assign keeps →
      (other = id → RowStep ((db.states.find? id).getD (.new id)) op
        (assign ((db.states.find? id).getD (.new id)))) → Moved op db' := by
    intro op other assign keeps db' states step
    dsimp only [Moved]
    rw [states, find?_modify_insertIfAbsent]
    by_cases own : id = other
    · subst own
      exact .inr ⟨_, if_pos rfl, step rfl⟩
    · exact .inl (if_neg own)
  cases op with
  | claim other at' =>
    by_cases claimed : claims db other at' = true
    · obtain ⟨due, states⟩ := claimUpstreamQuotaCheck_claimed claimed
      refine rewritten other states fun own => ?_
      subst own
      exact .claimed other at' due
    · refine .inl ?_
      rw [guardStep, claimUpstreamQuotaCheck_unclaimed (eq_false_of_ne_true claimed)]
  | record params =>
    refine Transaction.commit_preserves (P := Moved (.record params)) (.inl rfl) fun db' done => ?_
    obtain ⟨result, ok, rfl⟩ := Except.map_eq_ok.mp done
    refine rewritten params.accountID (by rw [recordUpstreamQuotaObservation_ok ok]) fun _ => ?_
    exact .recorded db.settings.safetyPercent params
  | setStatus provider other limited actor at' =>
    refine Transaction.commit_preserves (P := Moved (.setStatus provider other limited actor at'))
      (.inl rfl) fun db' done => ?_
    obtain ⟨result, ok, rfl⟩ := Except.map_eq_ok.mp done
    refine rewritten other (by rw [setUpstreamQuotaGuardStatus_ok ok]) fun _ => ?_
    exact .set provider other limited actor at'
  | setSettings percent actor at' =>
    refine Transaction.commit_preserves (P := Moved (.setSettings percent actor at')) (.inl rfl)
      fun db' done => ?_
    obtain ⟨result, ok, rfl⟩ := Except.map_eq_ok.mp done
    dsimp only [Moved]
    rw [setUpstreamQuotaGuardSettings_ok ok, Table.find?_update]
    cases found : db.states.find? id with
    | none => exact .inl rfl
    | some row =>
      rw [Option.map_some]
      split
      · rename_i chosen
        simp only [decide_eq_true_eq] at chosen
        exact .inr ⟨_, rfl, .reapplied percent actor at' chosen.1⟩
      · exact .inl rfl
  | account account => exact .inl rfl

/-! ## The invariant of a row -/

/-- What every row satisfies. The second and third are the checks of the table. -/
structure UpstreamQuotaGuardRow.Scheduled (row : UpstreamQuotaGuardRow) : Prop where
  due : row.status = .limited → ∀ restore, row.restoreAt = some restore →
    row.nextCheckAt = some restore
  clear : row.status = .available →
    row.limitedWindow = none ∧ row.resetAt = none ∧ row.restoreAt = none
  after : ∀ reset restore, row.resetAt = some reset → row.restoreAt = some restore → reset < restore
  ruled : row.source = .auto → row.status = .limited → ∃ observation previous percent now,
    row.snapshot = some observation ∧
      (evaluateUpstreamQuotaGuard observation previous percent now).limited = true ∧
      row.limitedWindow = (evaluateUpstreamQuotaGuard observation previous percent now).window ∧
      row.resetAt = (evaluateUpstreamQuotaGuard observation previous percent now).resetAt ∧
      row.restoreAt = (evaluateUpstreamQuotaGuard observation previous percent now).restoreAt

theorem scheduled_new (id : AccountID) : (UpstreamQuotaGuardRow.new id).Scheduled := by
  refine ⟨?_, fun _ => ⟨rfl, rfl, rfl⟩, ?_, ?_⟩
  · intro impossible
    cases impossible
  · intro reset restore impossible
    cases impossible
  · intro _ impossible
    cases impossible

/-- A row that carries a decision on its own reading. -/
theorem scheduled_of_decision {previous : Option UpstreamQuotaObservation}
    {percent : Int} {now : Time} {decision : UpstreamQuotaGuardDecision}
    (made : decision = evaluateUpstreamQuotaGuard observation previous percent now)
    (snapshot : row.snapshot = some observation)
    (status : row.status = if decision.limited then .limited else .available)
    (window : row.limitedWindow = if decision.limited then decision.window else none)
    (resetAt : row.resetAt = decision.resetAt) (restoreAt : row.restoreAt = decision.restoreAt)
    (next : decision.limited = true → row.nextCheckAt = some decision.nextCheckAt) :
    row.Scheduled := by
  have decides := evaluateUpstreamQuotaGuard_decides observation previous percent now
  rw [← made] at decides
  by_cases limited : decision.limited = true
  · rw [if_pos limited] at status window
    refine ⟨?_, ?_, ?_, ?_⟩
    · intro _ restore stored
      rw [restoreAt, decides.restore limited] at stored
      rw [next limited, stored]
    · intro available
      cases available.symm.trans status
    · intro reset restore known stored
      rw [resetAt] at known
      rw [restoreAt, decides.restore limited] at stored
      cases stored
      have delayed := decides.delay limited reset known
      have positive : (0 : Int) < upstreamQuotaGuardRestoreDelay := by decide
      exact lt_of_lt_of_le (lt_add_of_pos_right reset positive) delayed
    · intro _ _
      exact ⟨observation, previous, percent, now, snapshot, made ▸ limited, made ▸ window,
        made ▸ resetAt, made ▸ restoreAt⟩
  · rw [if_neg limited] at status window
    obtain ⟨-, noReset, noRestore⟩ := decides.unlimited (eq_false_of_ne_true limited)
    rw [noReset] at resetAt
    rw [noRestore] at restoreAt
    refine ⟨?_, fun _ => ⟨window, resetAt, restoreAt⟩, ?_, ?_⟩
    · intro isLimited
      cases isLimited.symm.trans status
    · intro reset restore known
      cases known.symm.trans resetAt
    · intro _ isLimited
      cases isLimited.symm.trans status

theorem UpstreamQuotaGuardRow.Scheduled.step {row row' : UpstreamQuotaGuardRow} {op : GuardOp}
    (scheduled : row.Scheduled) (step : RowStep row op row') : row'.Scheduled := by
  cases step with
  | claimed id at' due =>
    exact ⟨scheduled.due, scheduled.clear, scheduled.after, scheduled.ruled⟩
  | recorded percent params =>
    unfold UpstreamQuotaGuardRow.record
    split
    · rename_i manual
      refine ⟨scheduled.due, scheduled.clear, scheduled.after, ?_⟩
      intro auto
      cases manual.2.symm.trans auto
    · exact scheduled_of_decision rfl rfl rfl rfl rfl rfl fun _ => rfl
  | set provider id limited actor at' =>
    unfold UpstreamQuotaGuardRow.setStatus
    split
    · exact scheduled
    · cases limited with
      | false =>
        refine ⟨?_, fun _ => ⟨rfl, rfl, rfl⟩, ?_, ?_⟩
        · intro impossible
          cases impossible
        · intro reset restore impossible
          cases impossible
        · intro impossible
          cases impossible
      | true =>
        refine ⟨fun _ _ stored => stored, ?_, ?_, ?_⟩
        · intro impossible
          cases impossible
        · intro reset restore known stored
          dsimp only at known stored
          obtain ⟨pair, found, rfl⟩ := Option.map_eq_some_iff.mp known
          rw [found] at stored
          cases stored
          have positive : (0 : Int) < upstreamQuotaGuardRestoreDelay := by decide
          exact lt_add_of_pos_right _ positive
        · intro impossible
          cases impossible
  | reapplied percent actor at' auto =>
    unfold UpstreamQuotaGuardRow.reapply
    cases snapshot : row.snapshot with
    | none => exact scheduled
    | some observation =>
      refine scheduled_of_decision rfl snapshot rfl rfl rfl rfl fun limited => ?_
      dsimp only
      rw [if_pos limited]

/-! ## Runs -/

theorem RowStep.checked_le {row' : UpstreamQuotaGuardRow} {op : GuardOp}
    (step : RowStep row op row') (before : row.autoCheckedAt = some checked) :
    ∃ later, row'.autoCheckedAt = some later ∧ checked ≤ later := by
  cases step with
  | claimed id at' due =>
    refine ⟨at', rfl, ?_⟩
    unfold UpstreamQuotaGuardRow.due at due
    simp only [before, Bool.and_eq_true, Option.all_some, decide_eq_true_eq] at due
    have positive : (0 : Int) ≤ upstreamQuotaGuardMinInterval := by decide
    exact due.2.trans (sub_le_self at' positive)
  | recorded percent params =>
    refine ⟨checked, ?_, le_refl _⟩
    unfold UpstreamQuotaGuardRow.record
    split <;> exact before
  | set provider id limited actor at' =>
    refine ⟨checked, ?_, le_refl _⟩
    unfold UpstreamQuotaGuardRow.setStatus
    split <;> exact before
  | reapplied percent actor at' auto =>
    refine ⟨checked, ?_, le_refl _⟩
    unfold UpstreamQuotaGuardRow.reapply
    split <;> exact before

/-- The account was checked at this time or later. -/
def CheckedSince (id : AccountID) (checked : Time) (db : QuotaGuardDb) : Prop :=
  ∃ row later, db.states.find? id = some row ∧ row.autoCheckedAt = some later ∧ checked ≤ later

theorem CheckedSince.step {db : QuotaGuardDb} (since : CheckedSince id checked db) (op : GuardOp) :
    CheckedSince id checked (guardStep db op) := by
  obtain ⟨row, later, found, recorded, after⟩ := since
  rcases guardStep_row db op id with same | ⟨row', found', step⟩
  · exact ⟨row, later, same.trans found, recorded, after⟩
  · rw [found, Option.getD_some] at step
    obtain ⟨latest, recorded', after'⟩ := step.checked_le recorded
    exact ⟨row', latest, found', recorded', after.trans after'⟩

theorem checkedSince_of_claims (claimed : claims db id at' = true) :
    CheckedSince id at' (guardStep db (.claim id at')) := by
  have states := (claimUpstreamQuotaCheck_claimed claimed).2
  refine ⟨{ (db.states.find? id).getD (.new id) with autoCheckedAt := some at' }, at', ?_, rfl,
    le_refl _⟩
  rw [guardStep, states, find?_modify_insertIfAbsent, if_pos rfl]

theorem CheckedSince.claims (since : CheckedSince id checked db)
    (claimed : claims db id at' = true) : checked + upstreamQuotaGuardMinInterval ≤ at' := by
  obtain ⟨row, later, found, recorded, after⟩ := since
  have due := (claimUpstreamQuotaCheck_claimed claimed).1
  rw [found, Option.getD_some] at due
  unfold UpstreamQuotaGuardRow.due at due
  simp only [recorded, Bool.and_eq_true, Option.all_some, decide_eq_true_eq] at due
  exact le_trans (add_le_add_left after _) (le_sub_iff_add_le.mp due.2)

theorem guardRun_scheduled (settings : UpstreamQuotaGuardSettings)
    (accounts : Table UpstreamAccount.id) (ops : List GuardOp) :
    ∀ id row, (guardRun (.initial settings accounts) ops).states.find? id = some row →
      row.Scheduled := by
  let AllScheduled (db : QuotaGuardDb) : Prop :=
    ∀ id row, db.states.find? id = some row → row.Scheduled
  have all : AllScheduled (guardRun (.initial settings accounts) ops) := by
    refine Transaction.run_preserves (P := AllScheduled) ?_ ?_ ops
    · intro id row impossible
      cases impossible
    · intro db op before id row found
      rcases guardStep_row db op id with same | ⟨row', found', step⟩
      · exact before id row (same.symm.trans found)
      · cases found'.symm.trans found
        refine UpstreamQuotaGuardRow.Scheduled.step ?_ step
        cases stored : db.states.find? id with
        | none => exact scheduled_new id
        | some old => exact before id old stored
  exact all

/-- A row that the rule has limited for a window returns after the window has reset. -/
theorem UpstreamQuotaGuardRow.Scheduled.restores (scheduled : row.Scheduled)
    (auto : row.source = .auto) (limited : row.status = .limited) {name : QuotaWindowName}
    {w : UpstreamQuotaWindow} {reset : Time} (named : row.limitedWindow = some name)
    (snapshot : row.snapshot = some observation) (found : observation.window name = some w)
    (known : w.resetAt = some reset) :
    ∃ restore, row.restoreAt = some restore ∧ reset + upstreamQuotaGuardRestoreDelay ≤ restore := by
  obtain ⟨read, previous, percent, now, snapshot', isLimited, window, -, restoreAt⟩ :=
    scheduled.ruled auto limited
  cases snapshot.symm.trans snapshot'
  have decides := evaluateUpstreamQuotaGuard_decides observation previous percent now
  obtain ⟨name', w', named', found', -, same⟩ := decides.window isLimited
  cases (named.symm.trans window).trans named'
  cases found.symm.trans found'
  refine ⟨_, restoreAt.trans (decides.restore isLimited), ?_⟩
  exact decides.delay isLimited reset (same.symm.trans known)

/-- In every interleaving, with any times: claims of one account are at least ten minutes
apart; a limited row with a restore time is due then and not claimed before; and a row
that the rule limits for a window whose reset is known returns five minutes after it
at the earliest. -/
theorem guardRun_schedule (settings : UpstreamQuotaGuardSettings)
    (accounts : Table UpstreamAccount.id) (ops : List GuardOp) (id : AccountID) :
    (∀ before at' between later, ops = before ++ .claim id at' :: between →
      claims (guardRun (.initial settings accounts) before) id at' = true →
      claims (guardRun (.initial settings accounts) ops) id later = true →
      at' + upstreamQuotaGuardMinInterval ≤ later) ∧
    (∀ row restore, (guardRun (.initial settings accounts) ops).states.find? id = some row →
      row.status = .limited → row.restoreAt = some restore →
      row.nextCheckAt = some restore ∧
        ∀ at', at' < restore → claims (guardRun (.initial settings accounts) ops) id at' = false) ∧
    ∀ row name observation w reset,
      (guardRun (.initial settings accounts) ops).states.find? id = some row →
      row.source = .auto → row.status = .limited → row.limitedWindow = some name →
      row.snapshot = some observation → observation.window name = some w →
      w.resetAt = some reset →
      ∃ restore, row.restoreAt = some restore ∧
        reset + upstreamQuotaGuardRestoreDelay ≤ restore := by
  have scheduled := guardRun_scheduled settings accounts ops id
  refine ⟨?_, ?_, ?_⟩
  · intro before at' between later split first second
    have since : CheckedSince id at' (guardRun (.initial settings accounts) ops) := by
      rw [split, guardRun, Transaction.run, List.foldl_append, List.foldl_cons]
      exact Transaction.run_preserves (P := CheckedSince id at') (checkedSince_of_claims first)
        (fun _ op since => since.step op) between
    exact since.claims second
  · intro row restore found limited stored
    have next := (scheduled row found).due limited restore stored
    refine ⟨next, fun at' early => ?_⟩
    by_contra claimed
    have due := (claimUpstreamQuotaCheck_claimed (eq_true_of_ne_false claimed)).1
    rw [found, Option.getD_some, UpstreamQuotaGuardRow.due, next] at due
    simp only [Option.all_some, Bool.and_eq_true, decide_eq_true_eq] at due
    exact absurd early (not_lt.mpr due.1)
  · intro row name observation w reset found auto limited named snapshot window known
    exact (scheduled row found).restores auto limited named snapshot window known

def guardedAccountID : AccountID := ⟨List.replicate 16 'b', rfl, by
  intro c member
  rw [List.eq_of_mem_replicate member]
  decide⟩

def guardedAccounts : Table UpstreamAccount.id :=
  ⟨[⟨guardedAccountID, .codex, true⟩], List.nodup_singleton _⟩

def defaultSettings : UpstreamQuotaGuardSettings := ⟨5, 1, 0⟩

/-- A window with three percent left that resets in a hundred minutes. -/
def nearlyUsed : UpstreamQuotaObservation := ⟨0, some ⟨97, some (100 * minute)⟩, none⟩

def limitingOps : List GuardOp :=
  [.claim guardedAccountID 0, .record ⟨.codex, guardedAccountID, nearlyUsed, true, 0⟩]

def limitedRow : UpstreamQuotaGuardRow where
  accountID := guardedAccountID
  status := .limited
  source := .auto
  limitedWindow := some .fiveHour
  resetAt := some (100 * minute)
  restoreAt := some (105 * minute)
  changedAt := some 0
  observedAt := some 0
  fiveHour := some ⟨97, some (100 * minute)⟩
  sevenDay := none
  autoCheckedAt := some 0
  nextCheckAt := some (105 * minute)

/-- Not claimed while limited, and claimed when it is due. -/
theorem guardRun_schedule_limited :
    claims (guardRun (.initial defaultSettings guardedAccounts) limitingOps) guardedAccountID
        (105 * minute) = true ∧
      claims (guardRun (.initial defaultSettings guardedAccounts) limitingOps) guardedAccountID
        (104 * minute) = false := by
  refine ⟨by decide +kernel, ?_⟩
  exact ((guardRun_schedule defaultSettings guardedAccounts limitingOps guardedAccountID).2.1
    limitedRow (105 * minute) (by decide +kernel) rfl rfl).2 (104 * minute) (by decide)

end Store
