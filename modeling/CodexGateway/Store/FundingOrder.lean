import CodexGateway.Store.Reservation
import CodexGateway.Library.GoJson

/-! # The order of funding sources

Admission sorts the subscription periods and the cash position of a user and stores the list with
the reservation; settlement reads it back. The list is ordered by a key that no two sources of a
user share, so it does not depend on the order of the rows it was made from, and it passes the
checks that settlement makes.
-/

namespace Store

open Billing

/-! ## The key -/

/-- Priority, subscriptions before cash, longer periods, larger remainders, and the id. -/
abbrev FundingKey := Int ×ₗ Bool ×ₗ Int ×ₗ ℚ ×ₗ WithBot SubscriptionID

def FundingSource.key (source : FundingSource) : FundingKey :=
  toLex (source.priority, toLex (decide (source.sourceType ≠ .subscription),
    toLex (-source.periodDays, toLex (-ratOf source.remainingUSD, source.subscriptionID))))

/-- A subscription period or a cash position, which is all that admission makes. -/
def FundingSource.Personal (source : FundingSource) : Prop :=
  source.sourceType = .subscription ∨ source.sourceType = .cash

theorem idLess_iff (a b : Option SubscriptionID) :
    idLess a b = true ↔ @LT.lt (WithBot SubscriptionID) _ a b := by
  cases a with
  | none =>
    cases b with
    | none => exact iff_of_false (by simp [idLess]) (lt_irrefl (⊥ : WithBot SubscriptionID))
    | some b => exact iff_of_true rfl (WithBot.bot_lt_coe b)
  | some a =>
    cases b with
    | none =>
      exact iff_of_false (by simp [idLess]) (@not_lt_bot (WithBot SubscriptionID) _ _ a)
    | some b => exact decide_eq_true_iff.trans (WithBot.coe_lt_coe (a := a) (b := b)).symm

/-- The comparison of the source orders by the key. -/
theorem FundingSource.less_iff {a b : FundingSource} (first : a.Personal) (second : b.Personal) :
    a.less b = true ↔ a.key < b.key := by
  have kinds : a.sourceType = b.sourceType ↔
      decide (a.sourceType ≠ .subscription) = decide (b.sourceType ≠ .subscription) := by
    rcases first with first | first <;> rcases second with second | second <;>
      simp [first, second]
  simp only [FundingSource.key, Prod.Lex.toLex_lt_toLex, neg_lt_neg_iff, neg_inj]
  unfold FundingSource.less
  by_cases priority : a.priority = b.priority
  · by_cases kind : a.sourceType = b.sourceType
    · by_cases days : a.periodDays = b.periodDays
      · by_cases rest : ratOf a.remainingUSD = ratOf b.remainingUSD
        · simp [priority, kind, days, rest, idLess_iff]
        · simp [priority, kind, days, rest]
      · simp [priority, kind, days]
    · have apart := fun equal => kind (kinds.mpr equal)
      rcases first with first | first <;> rcases second with second | second <;>
        simp [priority, first, second] at kind apart ⊢
  · simp [priority]

/-! ## Sorting -/

instance : Std.Total fun a b : FundingSource => a.key ≤ b.key := ⟨fun a b => le_total a.key b.key⟩

instance : IsTrans FundingSource fun a b => a.key ≤ b.key := ⟨fun _ _ _ => le_trans⟩

variable {sources : List FundingSource} {source : FundingSource}

theorem insertionSort_less (personal : ∀ source ∈ sources, source.Personal) :
    (sources.insertionSort fun a b => b.less a = false) =
      sources.insertionSort fun a b => a.key ≤ b.key := by
  have same := List.map_insertionSort (fun a b : FundingSource => b.less a = false)
    (fun a b : FundingSource => a.key ≤ b.key) id sources fun a first b second => by
      rw [← Bool.not_eq_true, FundingSource.less_iff (personal b second) (personal a first),
        not_lt, id_eq, id_eq]
  simpa using same

/-- What the checks before the sort ask of a source. -/
structure FundingSource.Sortable (source : FundingSource) : Prop where
  priority : 1 ≤ source.priority ∧ source.priority ≤ 100
  remaining : ∃ value, billingRat source.remainingUSD = .ok value

theorem sortBillingFundingSources_eq (personal : ∀ source ∈ sources, source.Personal)
    (sortable : ∀ source ∈ sources, source.Sortable) :
    sortBillingFundingSources sources = .ok (sources.insertionSort fun a b => a.key ≤ b.key) := by
  have checked : (sources.forM fun source =>
      if source.priority < 1 ∨ source.priority > 100 then
        throw (.invalid "invalid funding priority")
      else (billingRat source.remainingUSD).map fun _ => ()) =
        (.ok () : Except StoreError Unit) := by
    refine Except.forM_eq_ok.mpr fun source listed => ?_
    obtain ⟨value, parsed⟩ := (sortable source listed).remaining
    have range := (sortable source listed).priority
    rw [if_neg (by omega), parsed]
    rfl
  rw [sortBillingFundingSources, checked, insertionSort_less personal]
  rfl

/-- Sources without a common key are sorted in one way, whatever order they come in. -/
theorem insertionSort_key_of_perm {rows : List FundingSource} (perm : rows.Perm sources)
    (distinct : (sources.map FundingSource.key).Nodup) :
    (rows.insertionSort fun a b => a.key ≤ b.key) =
      sources.insertionSort fun a b => a.key ≤ b.key := by
  have arranged := ((List.perm_insertionSort (fun a b : FundingSource => a.key ≤ b.key) rows).trans
    perm).trans (List.perm_insertionSort (fun a b : FundingSource => a.key ≤ b.key) sources).symm
  refine arranged.eq_of_pairwise (fun a b first second le ge => ?_)
    (List.pairwise_insertionSort _ _) (List.pairwise_insertionSort _ _)
  refine List.inj_on_of_nodup_map distinct ?_ ?_ (le_antisymm le ge)
  · exact perm.subset ((List.mem_insertionSort _).mp first)
  · exact (List.mem_insertionSort _).mp second

theorem pairwise_key_lt (distinct : (sources.map FundingSource.key).Nodup) :
    (sources.insertionSort fun a b => a.key ≤ b.key).Pairwise fun a b => a.key < b.key := by
  have sorted := List.pairwise_insertionSort (fun a b : FundingSource => a.key ≤ b.key) sources
  have apart := ((List.perm_insertionSort (fun a b : FundingSource => a.key ≤ b.key)
    sources).map FundingSource.key).nodup_iff.mpr distinct
  rw [List.Nodup, List.pairwise_map] at apart
  exact sorted.imp₂ (fun _ _ le ne => lt_of_le_of_ne le ne) apart

/-! ## The sources of a user -/

/-- What the schema keeps of the rows that admission reads: priorities and lengths of periods in
their ranges, a subscription's current period its own, and a cash lot sequence that counts. -/
structure FundingRows (db : Db) (account : BillingAccount) : Prop where
  priority : ∀ s ∈ db.subscriptions.rows, 1 ≤ s.priority ∧ s.priority ≤ 100
  periodDays : ∀ s ∈ db.subscriptions.rows, 1 ≤ s.periodDays ∧ s.periodDays ≤ 3650
  currentPeriod : ∀ s ∈ db.subscriptions.rows, ∀ period,
    s.currentPeriodID.bind db.subscriptionPeriods.find? = some period → period.subscriptionID = s.id
  cashPriority : 1 ≤ account.cashPriority ∧ account.cashPriority ≤ 100
  lotSequence : 1 ≤ account.nextCashLotSequence ∧ account.nextCashLotSequence ≤ Json.maxInt64

def periodSource (s : Subscription) (period : SubscriptionPeriod) : FundingSource :=
  { sourceType := .subscription
    subscriptionID := some s.id
    periodID := some period.id
    cashLotCutoff := 0
    priority := s.priority
    periodDays := s.periodDays
    remainingUSD := numericText period.remainingUSD }

/-- All that a request of the user for the model may draw on, in the order of the rows. -/
def fundingSources (db : Db) (account : BillingAccount) (model : Text) (now : Time) :
    List FundingSource :=
  subscriptionSources db account.userID model now ++
    cashSource db model (numericText account.balanceUSD) account.cashPriority (cashCutoff account)

section Sources

variable {db : Db} {account : BillingAccount} {model : Text} {now : Time}

theorem mem_subscriptionSources :
    source ∈ subscriptionSources db account.userID model now ↔
      ∃ s ∈ db.subscriptions.rows, ∃ period,
        chargeablePeriod db s account.userID model now = some period ∧
          periodSource s period = source := by
  simp only [subscriptionSources, List.mem_filterMap, List.mem_insertionSort,
    Option.map_eq_some_iff, periodSource]

theorem chargeablePeriod_current {s : Subscription} {period : SubscriptionPeriod}
    (chargeable : chargeablePeriod db s account.userID model now = some period) :
    s.currentPeriodID.bind db.subscriptionPeriods.find? = some period := by
  unfold chargeablePeriod at chargeable
  split at chargeable
  · exact (Option.filter_eq_some_iff.mp chargeable).1
  · cases chargeable

theorem mem_cashSource :
    source ∈ cashSource db model (numericText account.balanceUSD) account.cashPriority
        (cashCutoff account) ↔
      ∃ cutoff, cashCutoff account = some cutoff ∧
        (db.settings.modelsInitialized ∧ model ∈ db.settings.modelIDs) ∧
        source = ⟨.cash, none, none, cutoff, account.cashPriority, 0,
          numericText account.balanceUSD⟩ := by
  cases cashCutoff account with
  | none => simp [cashSource]
  | some cutoff =>
    simp only [cashSource]
    split <;> simp_all

theorem cashCutoff_range (rows : FundingRows db account) {cutoff : Int}
    (found : cashCutoff account = some cutoff) : 1 ≤ cutoff ∧ cutoff ≤ Json.maxInt64 := by
  have sequence := rows.lotSequence
  unfold cashCutoff at found
  split at found
  · rename_i usable
    cases found
    omega
  · cases found

/-- What settlement and the stored document ask of a source. -/
structure FundingSource.Fit (source : FundingSource) : Prop where
  shape : source.sourceType = .subscription ∧ source.periodID ≠ none ∧
      source.subscriptionID ≠ none ∧ source.cashLotCutoff = 0 ∨
    source.sourceType = .cash ∧ source.periodID = none ∧ source.subscriptionID = none ∧
      1 ≤ source.cashLotCutoff
  cashLotCutoff : 0 ≤ source.cashLotCutoff ∧ source.cashLotCutoff ≤ Json.maxInt64
  periodDays : 0 ≤ source.periodDays ∧ source.periodDays ≤ 3650
  sortable : source.Sortable

theorem billingRat_numericText (units : Int) : ∃ value, billingRat (numericText units) = .ok value :=
  ⟨_, (denotes_numericText units).billingRat_eq⟩

theorem fit_of_mem (rows : FundingRows db account)
    (listed : source ∈ fundingSources db account model now) : source.Fit := by
  rcases List.mem_append.mp listed with subscribed | cash
  · obtain ⟨s, stored, period, -, rfl⟩ := mem_subscriptionSources.mp subscribed
    have days := rows.periodDays s stored
    exact ⟨Or.inl ⟨rfl, by simp [periodSource], by simp [periodSource], rfl⟩,
      ⟨le_rfl, show (0 : Int) ≤ Json.maxInt64 by decide⟩, ⟨show 0 ≤ s.periodDays by omega, days.2⟩,
      ⟨rows.priority s stored, billingRat_numericText _⟩⟩
  · obtain ⟨cutoff, found, -, rfl⟩ := mem_cashSource.mp cash
    have range := cashCutoff_range rows found
    exact ⟨Or.inr ⟨rfl, rfl, rfl, range.1⟩, ⟨show 0 ≤ cutoff by omega, range.2⟩,
      ⟨le_rfl, show (0 : Int) ≤ 3650 by decide⟩, ⟨rows.cashPriority, billingRat_numericText _⟩⟩

theorem FundingSource.Fit.personal (fit : source.Fit) : source.Personal := by
  rcases fit.shape with ⟨kind, -⟩ | ⟨kind, -⟩
  · exact Or.inl kind
  · exact Or.inr kind

theorem length_cashSource_le (db : Db) (model balance : Text) (cashPriority : Int)
    (cutoff : Option Int) : (cashSource db model balance cashPriority cutoff).length ≤ 1 := by
  cases cutoff with
  | none => simp [cashSource]
  | some cutoff =>
    simp only [cashSource]
    split <;> simp

/-- No two sources of a user have the same subscription, nor the same period. -/
theorem pairwise_fundingSources (rows : FundingRows db account) :
    (fundingSources db account model now).Pairwise fun a b =>
      a.subscriptionID ≠ b.subscriptionID ∧ a.periodID ≠ b.periodID := by
  rw [fundingSources, List.pairwise_append]
  refine ⟨?_, ?_, ?_⟩
  · have distinct : (db.subscriptions.rows.insertionSort fun a b => a.id ≤ b.id).Pairwise
        fun a b => a.id ≠ b.id := by
      rw [← List.pairwise_map (f := Subscription.id)]
      exact ((List.perm_insertionSort _ _).map Subscription.id).nodup_iff.mpr
        db.subscriptions.unique
    rw [subscriptionSources, List.pairwise_filterMap]
    refine distinct.imp_of_mem fun {s s'} stored stored' apart source made source' made' => ?_
    obtain ⟨period, chargeable, rfl⟩ := Option.map_eq_some_iff.mp made
    obtain ⟨period', chargeable', rfl⟩ := Option.map_eq_some_iff.mp made'
    have own := rows.currentPeriod s ((List.mem_insertionSort _).mp stored) period
      (chargeablePeriod_current chargeable)
    have own' := rows.currentPeriod s' ((List.mem_insertionSort _).mp stored') period'
      (chargeablePeriod_current chargeable')
    refine ⟨by simpa using apart, fun same => apart ?_⟩
    have found := chargeablePeriod_current chargeable
    have found' := chargeablePeriod_current chargeable'
    obtain ⟨id, -, held⟩ := Option.bind_eq_some_iff.mp found
    obtain ⟨id', -, held'⟩ := Option.bind_eq_some_iff.mp found'
    have key := Table.key_of_find? held
    have key' := Table.key_of_find? held'
    simp only [Option.some.injEq] at same
    rw [← own, ← own']
    have equal : id = id' := key.symm.trans (same.trans key')
    rw [equal] at held
    exact congrArg SubscriptionPeriod.subscriptionID (Option.some.inj (held.symm.trans held'))
  · have single := length_cashSource_le db model (numericText account.balanceUSD)
      account.cashPriority (cashCutoff account)
    match cashSource db model (numericText account.balanceUSD) account.cashPriority
      (cashCutoff account), single with
    | [], _ => exact List.Pairwise.nil
    | [_], _ => exact List.pairwise_singleton _ _
  · intro source subscribed source' cash
    obtain ⟨s, -, period, -, rfl⟩ := mem_subscriptionSources.mp subscribed
    obtain ⟨cutoff, -, -, rfl⟩ := mem_cashSource.mp cash
    simp [periodSource]

theorem nodup_key_fundingSources (rows : FundingRows db account) :
    ((fundingSources db account model now).map FundingSource.key).Nodup := by
  rw [List.Nodup, List.pairwise_map]
  refine (pairwise_fundingSources rows).imp fun apart same => apart.1 ?_
  simp only [FundingSource.key, EmbeddingLike.apply_eq_iff_eq, Prod.mk.injEq] at same
  exact (Prod.mk.inj same.2.2.2).2

end Sources

/-! ## Settlement takes the list -/

theorem validateFundingSnapshot_of_fit
    {seen : List (Option PeriodID)} (fit : ∀ source ∈ sources, source.Fit)
    (distinct : sources.Pairwise fun a b => a.periodID ≠ b.periodID)
    (unseen : ∀ source ∈ sources, source.periodID ∉ seen) :
    validateFundingSnapshot sources seen = .ok () := by
  induction sources generalizing seen with
  | nil => rfl
  | cons source rest ih =>
    rw [List.pairwise_cons] at distinct
    have fresh := unseen source (by simp)
    have later : validateFundingSnapshot rest (source.periodID :: seen) = .ok () := by
      refine ih (fun other listed => fit other (by simp [listed])) distinct.2
        fun other listed => ?_
      rw [List.mem_cons, not_or]
      exact ⟨(distinct.1 other listed).symm, unseen other (by simp [listed])⟩
    rcases (fit source (by simp)).shape with ⟨kind, period, subscription, cutoff⟩ |
      ⟨kind, period, subscription, cutoff⟩
    · simp [validateFundingSnapshot, kind, period, subscription, cutoff, fresh, later]
    · rw [validateFundingSnapshot, kind]
      dsimp only
      rw [if_neg (by simp [period, subscription]; omega), if_neg fresh, later]

end Store
