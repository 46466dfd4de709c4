import CodexGateway.Store.WeightedChoice

/-! # Choosing an upstream account

Which of some candidate accounts a user may use, and what the weighted choice among them is given
to compare: an account's weight and its costs of the last day.
-/

namespace Store

variable {ids : List Text}

/-- The local preferences of a row of `upstream_accounts`. A row without an entry has the
defaults of its columns, one and one. -/
structure AccountPreference where
  accountID : AccountID
  allocationWeight : Nat
  concurrentLimit : Nat
  weighted : allocationWeight ≤ maxUpstreamAllocationWeight
  limited : 1 ≤ concurrentLimit ∧ concurrentLimit ≤ maxUpstreamAllocationWeight

/-- A row of `upstream_quota_guard_states`. -/
structure QuotaGuard where
  accountID : AccountID
  limited : Bool
  restoreAt : Option Time
  deriving Repr, DecidableEq

/-- A usage charge of the ledger that names its account. -/
structure AccountCost where
  accountID : AccountID
  requestedAt : Time
  actualCostUSD : Nat
  deriving Repr, DecidableEq

/-- The tables that the choice of an account reads. -/
structure AllocationDb where
  store : Db
  preferences : Table AccountPreference.accountID
  guards : Table QuotaGuard.accountID
  costs : List AccountCost

/-! ## Permissions -/

def upstreamQuotaGuardHeld (db : AllocationDb) (id : AccountID) (at' : Time) : Bool :=
  (db.guards.find? id).any fun guard =>
    guard.limited && guard.restoreAt.all fun restore => decide (restore > at')

/-- `userUpstreamAccessPredicate`; an account that is not stored has no id to compare. -/
def userUpstreamAccess (db : AllocationDb) (userID : UserID) (provider : UpstreamProvider)
    (account : Option AccountID) : Bool :=
  decide ((userID, provider) ∉ db.store.upstreamAccess.restricted) ||
    account.any fun id => decide ((userID, provider, id) ∈ db.store.upstreamAccess.allowed)

/-- The condition on a candidate that both queries share. -/
def permitted (db : AllocationDb) (userID : UserID) (provider : UpstreamProvider) (at' : Time)
    (id : AccountID) : Bool :=
  let account := db.store.upstreamAccounts.find? id
  ((db.store.users.find? userID).any fun user => user.status = .active) &&
    account.all (fun a => a.provider = provider) &&
    account.all (fun a => a.shared || decide ((a.id, userID) ∈ db.store.upstreamAccess.granted)) &&
    userUpstreamAccess db userID provider (account.map UpstreamAccount.id) &&
    !upstreamQuotaGuardHeld db id at'

/-- `COALESCE(a.allocation_weight, 1)` -/
def allocationWeight (db : AllocationDb) (id : AccountID) : Nat :=
  if (db.store.upstreamAccounts.find? id).isSome then
    (db.preferences.find? id).elim 1 AccountPreference.allocationWeight
  else 1

/-- `COALESCE(a.concurrent_limit, 1)` -/
def concurrentLimit (db : AllocationDb) (id : AccountID) : Nat :=
  if (db.store.upstreamAccounts.find? id).isSome then
    (db.preferences.find? id).elim 1 AccountPreference.concurrentLimit
  else 1

/-- The checks of `upstreamCandidateArguments`: how many candidates, their form, and that
none is named twice. -/
def candidateArguments (ids : List Text) : Except StoreError (List AccountID) :=
  if ids = [] ∨ ids.length > maxUpstreamAllocationCandidates then
    .error (.invalid "invalid upstream user or candidates")
  else
    match ids.mapM fun text => if valid : IsAccountID text then some ⟨text, valid⟩ else none with
    | none => .error (.invalid "invalid upstream candidates")
    | some accounts =>
      if accounts.Nodup then .ok accounts else .error (.invalid "invalid upstream candidates")

structure UpstreamAccountEligibility where
  id : AccountID
  concurrentLimit : Nat
  deriving Repr, DecidableEq

def eligibleUpstreamAccountLimits (db : AllocationDb) (provider : UpstreamProvider)
    (userID : UserID) (ids : List Text) (now : Time) :
    Except StoreError (List UpstreamAccountEligibility) := do
  let candidates ← candidateArguments ids
  let rows := ((candidates.filter (permitted db userID provider now)).map fun id =>
    (⟨id, concurrentLimit db id⟩ : UpstreamAccountEligibility)).mergeSort
      fun a b => decide (a.id.val ≤ b.id.val)
  if rows.any fun row => row.concurrentLimit < 1 ∨
      row.concurrentLimit > maxUpstreamAllocationWeight then
    throw (.invalid "invalid upstream concurrent limit")
  return rows

/-! ## The choice -/

/-- The costs of an account in the last day. An account that is not stored has none. -/
def recentCost (db : AllocationDb) (id : AccountID) (at' : Time) : Nat :=
  if (db.store.upstreamAccounts.find? id).isSome then
    ((db.costs.filter fun cost => cost.accountID = id ∧
      at' - 24 * 3600 * 1000000000 ≤ cost.requestedAt ∧ cost.requestedAt < at').map
        AccountCost.actualCostUSD).sum
  else 0

/-- A row of the query. -/
def allocationCandidate (db : AllocationDb) (at' : Time) (id : AccountID) : Weighted.Candidate :=
  ⟨id.val, allocationWeight db id, numericText (recentCost db id at')⟩

/-- `random` is what the source of randomness yields; `rand.Int` brings it into range. -/
def selectUpstreamAccount (db : AllocationDb) (provider : UpstreamProvider) (userID : UserID)
    (candidateIDs : List Text) (at' : Time) (random : Nat) : Except StoreError Text := do
  let candidates ← candidateArguments candidateIDs
  Weighted.selectUpstreamAllocation
    ((candidates.filter (permitted db userID provider at')).map (allocationCandidate db at'))
    fun limit => some (random % limit)

/-! ## What is chosen -/

theorem allocationWeight_le (db : AllocationDb) (id : AccountID) :
    allocationWeight db id ≤ maxUpstreamAllocationWeight := by
  unfold allocationWeight
  split
  · cases db.preferences.find? id with
    | none => decide
    | some preference => exact preference.weighted
  · decide

theorem concurrentLimit_bounds (db : AllocationDb) (id : AccountID) :
    1 ≤ concurrentLimit db id ∧ concurrentLimit db id ≤ maxUpstreamAllocationWeight := by
  unfold concurrentLimit
  split
  · cases db.preferences.find? id with
    | none => decide
    | some preference => exact preference.limited
  · decide

theorem allocationCandidate_bounded (db : AllocationDb) (at' : Time) (id : AccountID) :
    (allocationCandidate db at' id).Bounded where
  nonneg := Int.natCast_nonneg _
  small := Int.ofNat_le.mpr (allocationWeight_le db id)
  cost := ⟨_, Decimal.value?_fixedText _ _, by positivity⟩

/-! ## Candidates by name -/

/-- What `upstreamCandidateArguments` accepts. -/
structure Nameable (ids : List Text) : Prop where
  some' : ids ≠ []
  few : ids.length ≤ maxUpstreamAllocationCandidates
  valid : ∀ id ∈ ids, IsAccountID id
  distinct : ids.Nodup

theorem Nameable.arguments (nameable : Nameable ids) :
    ∃ accounts : List AccountID, candidateArguments ids = .ok accounts ∧
      accounts.map Subtype.val = ids := by
  have read : ∀ {texts : List Text}, (∀ id ∈ texts, IsAccountID id) →
      ∃ accounts : List AccountID,
        (texts.mapM fun text => if valid : IsAccountID text then some ⟨text, valid⟩ else none) =
          some accounts ∧ accounts.map Subtype.val = texts := by
    intro texts valid
    induction texts with
    | nil => exact ⟨[], rfl, rfl⟩
    | cons text rest ih =>
      obtain ⟨others, there, named⟩ := ih fun id member => valid id (List.mem_cons_of_mem _ member)
      have here := valid text List.mem_cons_self
      refine ⟨⟨text, here⟩ :: others, ?_, by rw [List.map_cons, named]⟩
      rw [List.mapM_cons, dif_pos here, there]
      rfl
  obtain ⟨accounts, mapped, named⟩ := read nameable.valid
  refine ⟨accounts, ?_, named⟩
  have distinct : accounts.Nodup := List.Nodup.of_map _ (by rw [named]; exact nameable.distinct)
  unfold candidateArguments
  have size := nameable.few
  rw [if_neg (by simp only [nameable.some', false_or]; omega), mapped]
  exact if_pos distinct

/-- The user may use the account, and it takes part in the choice. -/
def Usable (db : AllocationDb) (userID : UserID) (provider : UpstreamProvider) (at' : Time)
    (id : AccountID) : Prop :=
  permitted db userID provider at' id = true ∧ 0 < allocationWeight db id

theorem eligibleUpstreamAccountLimits_of_nameable (db : AllocationDb) (nameable : Nameable ids)
    (provider : UpstreamProvider) (userID : UserID) (now : Time) :
    ∃ rows, eligibleUpstreamAccountLimits db provider userID ids now = .ok rows ∧
      ∃ accounts : List AccountID, accounts.map Subtype.val = ids ∧
        (rows.map UpstreamAccountEligibility.id).Perm
          (accounts.filter (permitted db userID provider now)) := by
  obtain ⟨accounts, arguments, named⟩ := nameable.arguments
  unfold eligibleUpstreamAccountLimits
  rw [arguments, Except.ok_bind]
  dsimp only
  rw [if_neg ?_]
  · refine ⟨_, rfl, accounts, named, ?_⟩
    refine ((List.mergeSort_perm _ _).map _).trans ?_
    rw [List.map_map]
    exact List.Perm.of_eq (List.map_id'' (fun _ => rfl) _)
  · intro bad
    obtain ⟨row, member, outside⟩ := List.any_eq_true.mp bad
    obtain ⟨id, -, rfl⟩ := List.mem_map.mp (List.mem_mergeSort.mp member)
    have bounds := concurrentLimit_bounds db id
    simp only [decide_eq_true_eq] at outside
    omega

theorem selectUpstreamAccount_of_nameable (db : AllocationDb) (nameable : Nameable ids)
    (provider : UpstreamProvider) (userID : UserID) (at' : Time) (random : Nat) :
    (∀ id : AccountID, id.val ∈ ids → ¬ Usable db userID provider at' id) ∧
        selectUpstreamAccount db provider userID ids at' random = .error .noUpstreamAccount ∨
      ∃ id : AccountID, id.val ∈ ids ∧ Usable db userID provider at' id ∧
        selectUpstreamAccount db provider userID ids at' random = .ok id.val := by
  obtain ⟨accounts, arguments, rfl⟩ := nameable.arguments
  unfold selectUpstreamAccount
  rw [arguments, Except.ok_bind]
  have bounded : ∀ candidate ∈ (accounts.filter (permitted db userID provider at')).map
      (allocationCandidate db at'), candidate.Bounded := by
    intro candidate member
    obtain ⟨id, -, rfl⟩ := List.mem_map.mp member
    exact allocationCandidate_bounded db at' id
  have few : ((accounts.filter (permitted db userID provider at')).map
      (allocationCandidate db at')).length ≤ maxUpstreamAllocationCandidates := by
    have fewer := List.length_filter_le (permitted db userID provider at') accounts
    have size := nameable.few
    simp only [List.length_map] at size ⊢
    omega
  by_cases some' : ∃ candidate ∈ (accounts.filter (permitted db userID provider at')).map
      (allocationCandidate db at'), 0 < candidate.weight
  · have choosable : Weighted.Choosable ((accounts.filter (permitted db userID provider at')).map
        (allocationCandidate db at')) := by
      refine ⟨few, ?_, bounded, some'⟩
      rw [List.map_map]
      exact nameable.distinct.sublist (List.filter_sublist.map Subtype.val)
    have positive := choosable.weightSum_maximal_pos
    obtain ⟨candidate, member, chosen⟩ := choosable.selects (fun limit => some (random % limit))
      (Int.emod_nonneg _ positive.ne') (Int.emod_lt_of_pos _ positive) rfl
    obtain ⟨listed, weighs, -⟩ := choosable.mem_maximal.mp member
    obtain ⟨id, candidate, rfl⟩ := List.mem_map.mp listed
    obtain ⟨here, allowed⟩ := List.mem_filter.mp candidate
    exact .inr ⟨id, List.mem_map_of_mem here, ⟨allowed, Int.natCast_pos.mp weighs⟩, chosen⟩
  · push Not at some'
    refine .inl ⟨?_, Weighted.select_of_unweighted bounded few (fun candidate member => ?_) _⟩
    · rintro id listed ⟨allowed, weighs⟩
      obtain ⟨same, here, equal⟩ := List.mem_map.mp listed
      rw [Subtype.ext equal] at here
      have weight := some' _ (List.mem_map_of_mem (List.mem_filter.mpr ⟨here, allowed⟩))
      exact absurd weight (not_le.mpr (Int.natCast_pos.mpr weighs))
    · exact le_antisymm (some' candidate member) (bounded candidate member).nonneg

end Store
