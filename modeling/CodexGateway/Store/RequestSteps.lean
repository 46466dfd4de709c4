import CodexGateway.Store.QuotaSteps
import CodexGateway.Store.Requests

/-! # What request transactions do

Admission, settlement and release taken apart into their parts, and the repair jobs
into the transactions they run.
-/

namespace Store

open Billing
open Except (bind_eq_ok check_bind_eq_ok refuse_eq_ok)

variable {db db' : Db} {requestID : Text}

/-! ## Admission -/

variable {structureDigest : Config.ModelPriceStructure → Text} {checked : CheckedAdmission}
  {fresh : FreshPeriods} {a b c : Db} {completion : Completion} {at' : Time}

theorem admitChecked_ok {requireAccess : Bool} {admission : RequestAdmission}
    (ok : admitChecked structureDigest db requireAccess checked fresh = .ok (db', admission)) :
    ∃ billed reserved,
      reserveAdmittedBilling structureDigest db fresh checked.billing =
        .ok (billed, admission.billing) ∧
      reserveQuota billed checked.quota = .ok (reserved, admission.quota) ∧
      beginUsageRequest reserved checked.usage checked.endpoint = .ok (db', admission.usage) := by
  have after : ∀ {rest : Except StoreError (Db × RequestAdmission)},
      (if requireAccess then
        requireModelAccess db checked.usage.userID checked.usage.model >>= fun _ => rest
      else rest) = .ok (db', admission) → rest = .ok (db', admission) := by
    intro rest done
    split at done
    · exact (check_bind_eq_ok.mp done).2
    · exact done
  have ok := after ok
  obtain ⟨⟨billed, billing⟩, bills, ok⟩ := bind_eq_ok.mp ok
  obtain ⟨⟨reserved, quota⟩, reserves, ok⟩ := bind_eq_ok.mp ok
  obtain ⟨⟨begun, usage⟩, begins, ok⟩ := bind_eq_ok.mp ok
  cases ok
  exact ⟨billed, reserved, bills, reserves, begins⟩

theorem reserveAdmittedBilling_ok {billing : Option BillingReservationParams}
    {reservation : Option BillingReservation}
    (ok : reserveAdmittedBilling structureDigest db fresh billing = .ok (db', reservation)) :
    billing = none ∧ db' = db ∧ reservation = none ∨
      ∃ params row layers, billing = some params ∧ reservation = some row ∧
        ReservationMade db params db' row layers := by
  cases billing with
  | none =>
    cases ok
    exact .inl ⟨rfl, rfl, rfl⟩
  | some params =>
    obtain ⟨⟨_, row, layers⟩, reserves, ok⟩ := bind_eq_ok.mp ok
    cases ok
    obtain ⟨reserved⟩ := reserveBilling_ok structureDigest reserves
    exact .inr ⟨params, row, layers, rfl, rfl, reserved.made⟩

/-- The second database differs from the first in subscriptions and their periods. -/
def SubscriptionsOnly (db db' : Db) : Prop :=
  db' = { db with
    subscriptions := db'.subscriptions
    subscriptionPeriods := db'.subscriptionPeriods }

theorem SubscriptionsOnly.trans (first : SubscriptionsOnly a b)
    (second : SubscriptionsOnly b c) : SubscriptionsOnly a c := by
  unfold SubscriptionsOnly at first second ⊢
  rw [second, first]

theorem expireBillingSubscriptions_only (db : Db) (userID : UserID) (at' : Time) :
    SubscriptionsOnly db (expireBillingSubscriptions db userID at') := by
  unfold expireBillingSubscriptions
  generalize expiredSubscriptions db userID at' = expired
  induction expired generalizing db with
  | nil => rfl
  | cons first rest ih =>
    have one : SubscriptionsOnly db (expireSubscription db first) := rfl
    exact one.trans (ih (expireSubscription db first))

/-- An admission runs its transaction, or at most converges subscriptions. -/
theorem admitRequest_cases (structureDigest : Config.ModelPriceStructure → Text) (db : Db)
    (params : AdmitRequestParams) (fresh : FreshPeriods) :
    (∃ checked admission, checkAdmission params = .ok checked ∧
        admitChecked structureDigest db params.requireModelAccess checked fresh =
          .ok ((admitRequest structureDigest db params fresh).1, admission)) ∨
      SubscriptionsOnly db (admitRequest structureDigest db params fresh).1 := by
  unfold admitRequest
  split
  · exact .inr rfl
  · rename_i checked checks
    split
    · rename_i db' admission admits
      exact .inl ⟨checked, admission, checks, admits⟩
    · right
      split
      · split
        · rename_i converged converges
          obtain ⟨_, converges⟩ := check_bind_eq_ok.mp converges
          cases converges
          exact expireBillingSubscriptions_only _ _ _
        · rfl
      · rfl
    · exact .inr rfl

theorem beginUsageRequest_ok {params : BeginUsageRequestParams} {endpoint : Endpoint}
    {row : UsageRequest} (ok : beginUsageRequest db params endpoint = .ok (db', row)) :
    row = openUsage params endpoint ∧ db.usage.find? params.requestID = none ∧
      db'.usage.rows = row :: db.usage.rows ∧ db' = { db with usage := db'.usage } := by
  unfold beginUsageRequest at ok
  split at ok
  · cases ok
  · split at ok
    · dsimp only at ok
      split at ok
      · cases ok
      · rename_i usage inserted
        cases ok
        obtain ⟨absent, rows⟩ := Table.insert?_eq_some.mp inserted
        exact ⟨rfl, absent, rows, rfl⟩
    · cases ok

theorem checkAdmission_ok {params : AdmitRequestParams} (ok : checkAdmission params = .ok checked) :
    checked.quota.requestID = params.quota.requestID ∧ 0 ≤ checked.quota.reservedTokens ∧
      checked.usage.requestID = checked.quota.requestID ∧
      checked.endpoint.billed = checked.billing.isSome ∧
      ∀ billing, checked.billing = some billing → billing.requestID = checked.quota.requestID := by
  obtain ⟨quota, normalizes, ok⟩ := bind_eq_ok.mp ok
  obtain ⟨usage, -, ok⟩ := bind_eq_ok.mp ok
  obtain ⟨same, ok⟩ := refuse_eq_ok.mp ok
  obtain ⟨endpoint, names, ok⟩ := bind_eq_ok.mp ok
  obtain ⟨billing, bills, ok⟩ := bind_eq_ok.mp ok
  cases ok
  obtain ⟨checks, normalizes⟩ := refuse_eq_ok.mp normalizes
  obtain ⟨_, normalizes⟩ := refuse_eq_ok.mp normalizes
  obtain ⟨_, normalizes⟩ := check_bind_eq_ok.mp normalizes
  cases normalizes
  push Not at checks same
  refine ⟨rfl, checks.2, same.1, ?_⟩
  unfold billedEndpoint at names
  split at names
  · cases names
  · obtain ⟨unbilled, names⟩ := refuse_eq_ok.mp names
    obtain ⟨billed, names⟩ := refuse_eq_ok.mp names
    cases names
    unfold normalizeBillingAdmission at bills
    split at bills
    · rename_i none'
      cases bills
      refine ⟨?_, by simp⟩
      simpa [none'] using billed
    · rename_i given some'
      dsimp only at bills
      obtain ⟨consistent, bills⟩ := refuse_eq_ok.mp bills
      cases bills
      push Not at consistent
      refine ⟨?_, ?_⟩
      · simpa [some'] using unbilled
      · rintro _ ⟨⟩
        exact consistent.1

/-! ## Completion -/

/-- The second database differs from the first in usage rows and the accounts that
served them. -/
def UsageOnly (db db' : Db) : Prop :=
  db' = { db with usage := db'.usage, upstreamAccounts := db'.upstreamAccounts }

theorem UsageOnly.trans (first : UsageOnly a b) (second : UsageOnly b c) : UsageOnly a c := by
  unfold UsageOnly at first second ⊢
  rw [second, first]

theorem attributeUsage_only (provider : Option UpstreamProvider) (db : Db)
    (completion : Completion) : UsageOnly db (attributeUsage provider db completion).1 ∧
      (attributeUsage provider db completion).1.usage = db.usage := by
  unfold attributeUsage
  split
  · exact ⟨rfl, rfl⟩
  · split
    · split <;> exact ⟨rfl, rfl⟩
    · split
      · exact ⟨rfl, rfl⟩
      · dsimp only
        split <;> exact ⟨rfl, rfl⟩

theorem attributeUsage_terminal (provider : Option UpstreamProvider) (db : Db)
    (terminal : completion.params.state ≠ .inProgress) :
    (attributeUsage provider db completion).2.params.state ≠ .inProgress ∧
      (attributeUsage provider db completion).2.params.requestID = completion.params.requestID := by
  unfold attributeUsage
  split
  · exact ⟨terminal, rfl⟩
  · split
    · split <;> exact ⟨terminal, rfl⟩
    · split
      · exact ⟨terminal, rfl⟩
      · dsimp only
        split
        · exact ⟨by simp, rfl⟩
        · exact ⟨terminal, rfl⟩

theorem normalizeCompletion_ok {params : CompleteUsageRequestParams}
    (ok : normalizeCompletion params = .ok completion) :
    completion.params.state ≠ .inProgress ∧ completion.params.requestID = params.requestID := by
  obtain ⟨named, ok⟩ := refuse_eq_ok.mp ok
  obtain ⟨_, ok⟩ := refuse_eq_ok.mp ok
  obtain ⟨_, ok⟩ := check_bind_eq_ok.mp ok
  obtain ⟨_, ok⟩ := refuse_eq_ok.mp ok
  cases ok
  exact ⟨fun progress => named (.inr progress), rfl⟩

/-- A completion changes at most the open row of its request, which it closes. -/
theorem completeUsageRequest_cases (provider : Option UpstreamProvider) (db : Db)
    (params : CompleteUsageRequestParams) :
    UsageOnly db (completeUsageRequest provider db params).1 ∧
      ((completeUsageRequest provider db params).1.usage = db.usage ∨
        ∃ row completion, ∃ valid : completion.params.metrics.Valid,
          db.usage.find? params.requestID = some row ∧ row.state = .inProgress ∧
          completion.params.state ≠ .inProgress ∧
          (completeUsageRequest provider db params).1.usage = db.usage.modify params.requestID
            (fun row => row.complete completion valid) (fun _ => rfl)) := by
  unfold completeUsageRequest
  split
  · exact ⟨rfl, .inl rfl⟩
  · rename_i completion normalizes
    obtain ⟨terminal, sameID⟩ := normalizeCompletion_ok normalizes
    obtain ⟨only, sameUsage⟩ := attributeUsage_only provider db completion
    obtain ⟨terminal, sameID'⟩ := attributeUsage_terminal provider db terminal
    generalize attributeUsage provider db completion = attributed at *
    obtain ⟨attributed, completion'⟩ := attributed
    dsimp only at *
    rw [sameID] at sameID'
    split
    · exact ⟨only, .inl sameUsage⟩
    · rename_i recorded _ records
      unfold recordCompletion at records
      dsimp only at records
      rw [sameID', sameUsage] at records
      split at records
      · cases records
      · rename_i row found
        split at records
        · rename_i admits
          split at records
          · rename_i valid
            obtain ⟨_, records⟩ := refuse_eq_ok.mp records
            cases records
            refine ⟨only.trans rfl, .inr ⟨row, completion', valid, found, ?_, terminal, rfl⟩⟩
            exact (of_decide_eq_true admits).1
          · cases records
        · split at records
          · cases records
            exact ⟨only, .inl sameUsage⟩
          · split at records <;> cases records

/-! ## Settlement and release -/

theorem settleRequest_ok (ok : settleRequest db requestID at' = .ok db') :
    ∃ usage settled, db.usage.find? requestID = some usage ∧ usage.state ≠ .inProgress ∧
      settleQuota db requestID (usage.metrics.val.inputTokens + usage.metrics.val.outputTokens) at' =
        .ok settled ∧
      (usage.endpoint.billed = true ∧ (∃ billing, settleBilling settled requestID at' =
          .ok (db', billing)) ∨
        usage.endpoint.billed = false ∧ db' = settled) := by
  unfold settleRequest at ok
  obtain ⟨_, ok⟩ := refuse_eq_ok.mp ok
  obtain ⟨_, _, ok⟩ := bind_eq_ok.mp ok
  split at ok
  · cases ok
  · rename_i usage found
    dsimp only at ok
    obtain ⟨terminal, ok⟩ := refuse_eq_ok.mp ok
    obtain ⟨settled, settles, ok⟩ := bind_eq_ok.mp ok
    refine ⟨usage, settled, found, fun progress => terminal (.inl progress), settles, ?_⟩
    cases billed : usage.endpoint.billed with
    | true =>
      rw [billed, if_pos rfl] at ok
      obtain ⟨⟨last, billing⟩, charges, ok⟩ := bind_eq_ok.mp ok
      cases ok
      exact .inl ⟨rfl, billing, charges⟩
    | false =>
      rw [billed, if_neg Bool.false_ne_true] at ok
      cases ok
      exact .inr ⟨rfl, rfl⟩

theorem releaseBilling_ok {now : Time} (ok : releaseBilling db requestID now = .ok db') :
    ∃ reservation, db.reservations.find? requestID = some reservation ∧
      ((∃ at', reservation.state = .released at' ∧ db' = db) ∨
        reservation.state = .reserved ∧ db' = { db with
          reservations := db.reservations.modify requestID
            (fun row => { row with state := .released now }) (fun _ => rfl) }) := by
  unfold releaseBilling at ok
  obtain ⟨_, ok⟩ := refuse_eq_ok.mp ok
  split at ok
  · cases ok
  · rename_i reservation found
    refine ⟨reservation, found, ?_⟩
    split at ok
    · rename_i at' state
      cases ok
      exact .inl ⟨at', state, rfl⟩
    · cases ok
    · rename_i state
      cases ok
      exact .inr ⟨state, rfl⟩

theorem releaseRequest_ok (ok : releaseRequest db requestID at' = .ok db') :
    ∃ reservation, db.quotaReservations.find? requestID = some reservation ∧
      ((∃ releasedAt, reservation.state = .released releasedAt ∧ db' = db) ∨
        reservation.state = .reserved ∧ ∃ usage cancelled released,
          db.usage.find? requestID = some usage ∧ usage.state = .inProgress ∧
          cancelled = { db with
            usage := db.usage.modify requestID
              (fun row => row.cancel (max at' usage.requestedAt)) (fun _ => rfl) } ∧
          releaseQuotaReservation cancelled requestID (max at' usage.requestedAt) = .ok released ∧
          (usage.endpoint.billed = true ∧
              releaseBilling released requestID (max at' usage.requestedAt) = .ok db' ∨
            usage.endpoint.billed = false ∧ db' = released)) := by
  unfold releaseRequest at ok
  obtain ⟨_, ok⟩ := refuse_eq_ok.mp ok
  obtain ⟨reservation, read, ok⟩ := bind_eq_ok.mp ok
  refine ⟨reservation, readReservation_ok read, ?_⟩
  split at ok
  · rename_i releasedAt state
    cases ok
    exact .inl ⟨releasedAt, state, rfl⟩
  · cases ok
  · rename_i state
    split at ok
    · cases ok
    · rename_i usage found
      obtain ⟨progress, ok⟩ := refuse_eq_ok.mp ok
      obtain ⟨cancelled, cancels, ok⟩ := bind_eq_ok.mp ok
      obtain ⟨released, releases, ok⟩ := bind_eq_ok.mp ok
      have keyEq : usage.requestID = requestID := Table.key_of_find? found
      unfold cancelUsage at cancels
      obtain ⟨_, cancels⟩ := refuse_eq_ok.mp cancels
      rw [keyEq] at cancels
      refine .inr ⟨state, usage, cancelled, released, found, not_not.mp progress,
        (Except.ok.inj cancels).symm, releases, ?_⟩
      cases billed : usage.endpoint.billed with
      | true =>
        rw [billed, if_pos rfl] at ok
        exact .inl ⟨rfl, ok⟩
      | false =>
        rw [billed, if_neg Bool.false_ne_true] at ok
        cases ok
        exact .inr ⟨rfl, rfl⟩

/-! ## Repair -/

theorem repairAll_preserves {ι : Type} {repair : Db → ι → Except StoreError Db} {P : Db → Prop}
    {entries : List ι} (start : P db)
    (keep : ∀ db entry db', entry ∈ entries → P db → repair db entry = .ok db' → P db') :
    P (repairAll repair entries db).1 := by
  induction entries generalizing db with
  | nil => exact start
  | cons entry rest ih =>
    have later := fun db entry db' member => keep db entry db' (List.mem_cons_of_mem _ member)
    unfold repairAll
    split
    · rename_i db' repaired
      exact ih (keep db entry db' List.mem_cons_self start repaired) later
    · split
      · exact ih start later
      · exact start

end Store
