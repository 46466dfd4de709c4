import CodexGateway.Store.CashConservation
import CodexGateway.Store.QuotaSchedule

/-! # What no later operation undoes

Facts of a state that every later state still knows: the credit lots of a user, and the quota
status that an owner has set.
-/

namespace Store

/-! ## Credit lots -/

/-- No lot is gone, renumbered or refilled. -/
structure Cash.Outlived (cash later : Cash) : Prop where
  next : cash.next ≤ later.next
  lots : ∀ lot ∈ cash.lots, ∃ left ≤ lot.remainingUSD,
    { lot with remainingUSD := left } ∈ later.lots

theorem Cash.Outlived.step {first cash cash' : Cash} (outlived : first.Outlived cash)
    (step : Cash.Step cash cash') : first.Outlived cash' := by
  obtain ⟨next, lots⟩ := outlived
  cases step with
  | idle => exact ⟨next, lots⟩
  | credit id userID amount positive =>
    refine ⟨by simp only [Cash.credit]; omega, fun lot member => ?_⟩
    obtain ⟨left, le, kept⟩ := lots lot member
    exact ⟨left, le, List.mem_cons_of_mem _ kept⟩
  | debit charged covers =>
    refine ⟨next, fun lot member => ?_⟩
    obtain ⟨left, le, kept⟩ := lots lot member
    have nonneg : 0 ≤ taken (AllocationSource.isLot lot.id) charged := by
      apply Waterfall.total_nonneg
      intro charge member
      exact (covers.positive charge (List.mem_of_mem_filter member)).le
    exact ⟨_, (sub_le_self left nonneg).trans le, List.mem_map_of_mem kept⟩

/-- Whatever billing operations follow, every lot of a user is still there, under its number
and with its amount, and holds no more than before. -/
theorem cashRun_outlives {db : Db} {userID : UserID} {cash : Cash}
    (structureDigest : Config.ModelPriceStructure → Text) (found : cashOf db userID = some cash)
    (ops : List CashOp) :
    ∃ later, cashOf (cashRun structureDigest db ops) userID = some later ∧ cash.Outlived later := by
  let Later (db : Db) : Prop := ∃ later, cashOf db userID = some later ∧ cash.Outlived later
  refine Transaction.run_preserves (P := Later)
    ⟨cash, found, le_refl _, fun lot member => ⟨_, le_refl _, member⟩⟩ ?_ ops
  rintro db op ⟨later, found, outlived⟩
  refine Transaction.commit_preserves (P := Later) ⟨later, found, outlived⟩ fun db' ok => ?_
  obtain ⟨cash', found', step⟩ := CashOp.cashStep structureDigest ok userID later found
  exact ⟨cash', found', outlived.step step⟩

theorem cashRun_outlives_freshOps :
    ∃ later, cashOf (cashRun (fun _ => []) (cashRun (fun _ => []) freshFunds freshOps)
        [.adjust ⟨⟨3, 9, ['r'], 1⟩, 1, ['-', '2']⟩]) 1 = some later ∧
      Cash.Outlived ⟨5 * 10 ^ Billing.amountScale, 2,
        [⟨1, 1, 1, 10 * 10 ^ Billing.amountScale, 5 * 10 ^ Billing.amountScale⟩]⟩ later :=
  cashRun_outlives _ (by decide +kernel) _

/-! ## The choice of an owner -/

/-- An automatic reading or another choice decides on the account. -/
def GuardOp.Decides (id : AccountID) : GuardOp → Prop
  | .record params => params.automatic = true ∧ params.accountID = id
  | .setStatus _ other _ _ _ => other = id
  | _ => False

def UpstreamQuotaGuardRow.choice (row : UpstreamQuotaGuardRow) :
    GuardStatus × GuardSource × Option QuotaWindowName × Option Time × Option Time :=
  (row.status, row.source, row.limitedWindow, row.resetAt, row.restoreAt)

variable {db : QuotaGuardDb} {id : AccountID} {row : UpstreamQuotaGuardRow}

theorem guardStep_keepsChoice {op : GuardOp} (found : db.states.find? id = some row)
    (manual : row.source = .manual) (undecided : ¬ op.Decides id) :
    ∃ row', (guardStep db op).states.find? id = some row' ∧ row'.choice = row.choice := by
  let Kept (db' : QuotaGuardDb) : Prop :=
    ∃ row', db'.states.find? id = some row' ∧ row'.choice = row.choice
  have start : Kept db := ⟨row, found, rfl⟩
  have moved := guardStep_row db op id
  rw [found, Option.getD_some] at moved
  cases op with
  | record params =>
    refine Transaction.commit_preserves (P := Kept) start fun db' done => ?_
    obtain ⟨result, ok, rfl⟩ := Except.map_eq_ok.mp done
    dsimp only [Kept]
    rw [recordUpstreamQuotaObservation_ok ok, find?_modify_insertIfAbsent]
    by_cases own : id = params.accountID
    · subst own
      have asked : params.automatic = false := by simpa [GuardOp.Decides] using undecided
      rw [if_pos rfl, found, Option.getD_some, UpstreamQuotaGuardRow.record, if_pos ⟨asked, manual⟩]
      exact ⟨_, rfl, rfl⟩
    · exact ⟨row, (if_neg own).trans found, rfl⟩
  | setStatus provider other limited actor at' =>
    refine Transaction.commit_preserves (P := Kept) start fun db' done => ?_
    obtain ⟨result, ok, rfl⟩ := Except.map_eq_ok.mp done
    dsimp only [Kept]
    rw [setUpstreamQuotaGuardStatus_ok ok, find?_modify_insertIfAbsent, if_neg (Ne.symm undecided)]
    exact start
  | claim =>
    rcases moved with same | ⟨_, found', ⟨⟩⟩
    · exact ⟨row, same, rfl⟩
    · exact ⟨_, found', rfl⟩
  | setSettings =>
    rcases moved with same | ⟨_, _, step⟩
    · exact ⟨row, same, rfl⟩
    · cases step with | reapplied _ _ _ auto => cases manual.symm.trans auto
  | account => exact start

/-- A status that an owner has set stands, with its window and its times, whatever is read on
request, claimed, changed in the settings or done to other accounts. -/
theorem guardRun_keepsChoice {ops : List GuardOp} (found : db.states.find? id = some row)
    (manual : row.source = .manual) (undecided : ∀ op ∈ ops, ¬ op.Decides id) :
    ∃ row', (guardRun db ops).states.find? id = some row' ∧ row'.choice = row.choice := by
  induction ops generalizing db row with
  | nil => exact ⟨row, found, rfl⟩
  | cons op ops ih =>
    obtain ⟨here, later⟩ := List.forall_mem_cons.mp undecided
    obtain ⟨next, found', same⟩ := guardStep_keepsChoice found manual here
    have manual' : next.source = .manual := by
      simpa [UpstreamQuotaGuardRow.choice, manual] using congrArg (·.2.1) same
    obtain ⟨last, found'', same'⟩ := ih found' manual' later
    exact ⟨last, found'', same'.trans same⟩

theorem guardRun_keepsChoice_limitedRow :
    ∃ row, (guardRun ⟨defaultSettings, guardedAccounts,
        ⟨[{ limitedRow with source := .manual }], List.nodup_singleton _⟩⟩
        [.record ⟨.codex, guardedAccountID, nearlyUsed, false, minute⟩,
          .setSettings 0 ['o'] minute]).states.find? guardedAccountID = some row ∧
      row.choice = (.limited, .manual, some .fiveHour, some (100 * minute), some (105 * minute)) :=
  @guardRun_keepsChoice _ _ { limitedRow with source := .manual } _ rfl rfl
    (by simp [GuardOp.Decides])

end Store
