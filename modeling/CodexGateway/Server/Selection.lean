import CodexGateway.Library.Uuid
import CodexGateway.Store.Allocation

/-! # The selection callback

The compatibility service asks which account a request shall use. It sends the groups of
the admission in billing order with their pools, and the accounts it could use now. The
answer is an account of the first group that has one which the user may use.
-/

open Store (StoreError UpstreamProvider UserID AccountID IsAccountID AllocationDb Usable Nameable)

namespace Server

structure UpstreamSelectionGroup where
  groupID : Text
  accountIDs : List Text
  deriving Repr, DecidableEq

/-- A decoded request. Candidates that are given as an empty list or as null are still
provided. -/
structure UpstreamSelectionRequest where
  userID : Text
  accountIDs : List Text
  groups : List UpstreamSelectionGroup
  accountIDsProvided : Bool
  deriving Repr, DecidableEq

/-- `validUpstreamAccountID` on every entry, and no entry twice. -/
def distinctAccounts (ids : List Text) : Bool :=
  ids.all (fun id => IsAccountID id) && decide ids.Nodup

def validUpstreamSelectionRequest (request : UpstreamSelectionRequest) : Bool :=
  (Uuid.parse? request.userID).isSome &&
    !(request.accountIDs.isEmpty && request.groups.isEmpty) &&
    request.accountIDs.length ≤ Store.maxUpstreamAllocationCandidates &&
    distinctAccounts request.accountIDs &&
    request.groups.length ≤ 64 &&
    request.groups.all (fun group => (Uuid.parse? group.groupID).isSome &&
      group.accountIDs.length ≤ Store.maxUpstreamAllocationCandidates &&
      distinctAccounts group.accountIDs) &&
    decide (request.groups.map UpstreamSelectionGroup.groupID).Nodup

/-- The groups with their pools cut to the candidates, if candidates are provided. -/
def candidateGroups (request : UpstreamSelectionRequest) : List UpstreamSelectionGroup :=
  if request.accountIDsProvided ∧ request.groups ≠ [] then
    request.groups.map fun group =>
      { group with accountIDs := group.accountIDs.filter fun id => id ∈ request.accountIDs }
  else request.groups

inductive SelectionAnswer where
  | account (id : Text)
  | noAccount
  | unavailable
  | invalid
  deriving DecidableEq

section Selection

variable (db : AllocationDb) (provider : UpstreamProvider) (userID : UserID) (now : Store.Time)

def answerOf : Except StoreError Text → SelectionAnswer
  | .ok id => .account id
  | .error .noUpstreamAccount => .noAccount
  | .error _ => .unavailable

/-- The groups in order. One without candidates, or whose candidates have no weight, is
passed over. -/
def selectFromGroups (random : Nat → Nat) : Nat → List UpstreamSelectionGroup → SelectionAnswer
  | _, [] => .noAccount
  | i, group :: rest =>
    if group.accountIDs = [] then selectFromGroups random (i + 1) rest
    else
      match Store.eligibleUpstreamAccountLimits db provider userID group.accountIDs now with
      | .error _ => .unavailable
      | .ok allowed =>
        let candidates := allowed.map fun account => account.id.val
        if candidates = [] then selectFromGroups random (i + 1) rest
        else
          match answerOf
            (Store.selectUpstreamAccount db provider userID candidates now (random i)) with
          | .noAccount => selectFromGroups random (i + 1) rest
          | answer => answer

end Selection

/-- The answer to a request that has passed authentication. Every call of the store sees
the same tables and the same time. -/
def upstreamAccountSelection (db : AllocationDb) (provider : UpstreamProvider) (now : Store.Time)
    (random : Nat → Nat) (request : UpstreamSelectionRequest) : SelectionAnswer :=
  match validUpstreamSelectionRequest request, Uuid.parse? request.userID with
  | true, some userID =>
    if request.groups = [] then
      answerOf
        (Store.selectUpstreamAccount db provider userID request.accountIDs now (random 0))
    else selectFromGroups db provider userID now random 0 (candidateGroups request)
  | _, _ => .invalid

/-! ## The first layer that has an account -/

variable {ids : List Text} {request : UpstreamSelectionRequest}

section Layers

variable {db : AllocationDb} {provider : UpstreamProvider} {userID : UserID} {now : Store.Time}

/-- A pool has no account that the user may use. -/
def Exhausted (db : AllocationDb) (provider : UpstreamProvider) (userID : UserID)
    (now : Store.Time) (ids : List Text) : Prop :=
  ∀ id : AccountID, id.val ∈ ids → ¬ Usable db userID provider now id

variable (db provider userID now) in
/-- The eligible accounts of a pool are those the user is permitted to use. -/
theorem eligible_of_nameable (nameable : Nameable ids) :
    ∃ allowed, Store.eligibleUpstreamAccountLimits db provider userID ids now = .ok allowed ∧
      let candidates := allowed.map fun account => account.id.val
      (∀ id : AccountID, id.val ∈ candidates ↔
        id.val ∈ ids ∧ Store.permitted db userID provider now id = true) ∧
      (candidates ≠ [] → Nameable candidates) := by
  obtain ⟨allowed, eligible, accounts, named, listed⟩ :=
    Store.eligibleUpstreamAccountLimits_of_nameable db nameable provider userID now
  have texts : (allowed.map fun account => account.id.val).Perm
      ((accounts.filter (Store.permitted db userID provider now)).map Subtype.val) := by
    have mapped := listed.map Subtype.val
    rwa [List.map_map] at mapped
  have member : ∀ id : AccountID, id.val ∈ (allowed.map fun account => account.id.val) ↔
      id.val ∈ ids ∧ Store.permitted db userID provider now id = true := by
    intro id
    rw [texts.mem_iff, ← named, List.mem_map_of_injective Subtype.val_injective,
      List.mem_map_of_injective Subtype.val_injective, List.mem_filter]
  refine ⟨allowed, eligible, member, fun some' => ⟨some', ?_, ?_, ?_⟩⟩
  · have size : (allowed.map fun account => account.id.val).length ≤ ids.length := by
      rw [texts.length_eq, ← named, List.length_map, List.length_map]
      exact List.length_filter_le _ _
    exact Nat.le_trans size nameable.few
  · intro text given
    obtain ⟨account, -, rfl⟩ := List.mem_map.mp given
    exact account.id.property
  · rw [texts.nodup_iff]
    have distinct : (accounts.map Subtype.val).Nodup := by
      rw [named]
      exact nameable.distinct
    exact distinct.sublist (List.filter_sublist.map _)

/-- The choice within one group: the pool is exhausted, or an account of it is chosen. -/
theorem selectFromGroups_cons (random : Nat → Nat) (i : Nat) {group : UpstreamSelectionGroup}
    (nameable : group.accountIDs ≠ [] → Nameable group.accountIDs)
    (rest : List UpstreamSelectionGroup) :
    Exhausted db provider userID now group.accountIDs ∧
        selectFromGroups db provider userID now random i (group :: rest) =
          selectFromGroups db provider userID now random (i + 1) rest ∨
      ∃ id : AccountID, id.val ∈ group.accountIDs ∧ Usable db userID provider now id ∧
        selectFromGroups db provider userID now random i (group :: rest) = .account id.val := by
  rw [selectFromGroups]
  by_cases empty : group.accountIDs = []
  · rw [if_pos empty]
    refine .inl ⟨fun id member => ?_, rfl⟩
    rw [empty] at member
    cases member
  · obtain ⟨allowed, eligible, member, within⟩ :=
      eligible_of_nameable db provider userID now (nameable empty)
    rw [if_neg empty, eligible]
    dsimp only
    by_cases none' : (allowed.map fun account => account.id.val) = []
    · rw [if_pos none']
      refine .inl ⟨fun id listed usable => ?_, rfl⟩
      have candidate := (member id).mpr ⟨listed, usable.1⟩
      rw [none'] at candidate
      cases candidate
    · rw [if_neg none']
      rcases Store.selectUpstreamAccount_of_nameable db (within none') provider userID now
          (random i) with ⟨exhausted, failed⟩ | ⟨id, chosen, usable, selected⟩
      · rw [failed]
        refine .inl ⟨fun id listed usable => ?_, rfl⟩
        exact exhausted id ((member id).mpr ⟨listed, usable.1⟩) usable
      · rw [selected]
        exact .inr ⟨id, ((member id).mp chosen).1, usable, rfl⟩

variable (db provider userID now) in
theorem selectFromGroups_spec (random : Nat → Nat) {groups : List UpstreamSelectionGroup}
    (nameable : ∀ group ∈ groups, group.accountIDs ≠ [] → Nameable group.accountIDs) (i : Nat) :
    (∀ group ∈ groups, Exhausted db provider userID now group.accountIDs) ∧
        selectFromGroups db provider userID now random i groups = .noAccount ∨
      ∃ before group after, groups = before ++ group :: after ∧
        (∀ earlier ∈ before, Exhausted db provider userID now earlier.accountIDs) ∧
        ∃ id : AccountID, id.val ∈ group.accountIDs ∧ Usable db userID provider now id ∧
          selectFromGroups db provider userID now random i groups = .account id.val := by
  induction groups generalizing i with
  | nil => exact .inl ⟨by simp, rfl⟩
  | cons group rest ih =>
    rcases selectFromGroups_cons random i (nameable group List.mem_cons_self) rest with
      ⟨exhausted, next⟩ | ⟨id, listed, usable, selected⟩
    · rw [next]
      rcases ih (fun other member => nameable other (List.mem_cons_of_mem _ member)) (i + 1) with
        ⟨others, none'⟩ | ⟨before, chosen, after, rfl, earlier, found⟩
      · exact .inl ⟨List.forall_mem_cons.mpr ⟨exhausted, others⟩, none'⟩
      · exact .inr ⟨group :: before, chosen, after, rfl,
          List.forall_mem_cons.mpr ⟨exhausted, earlier⟩, found⟩
    · exact .inr ⟨[], group, rest, rfl, by simp, id, listed, usable, selected⟩

end Layers

/-! ## Valid requests -/

/-- The account is one of the candidates, if there are any provided. -/
def UpstreamSelectionRequest.Offers (request : UpstreamSelectionRequest) (id : Text) : Prop :=
  request.accountIDsProvided = true → id ∈ request.accountIDs

theorem nameable_of_distinctAccounts (few : ids.length ≤ Store.maxUpstreamAllocationCandidates)
    (distinct : distinctAccounts ids = true) (some' : ids ≠ []) : Nameable ids := by
  obtain ⟨valid, nodup⟩ := Bool.and_eq_true_iff.mp distinct
  exact ⟨some', few, fun id member => of_decide_eq_true (List.all_eq_true.mp valid id member),
    of_decide_eq_true nodup⟩

structure UpstreamSelectionRequest.Valid (request : UpstreamSelectionRequest) : Prop where
  user : (Uuid.parse? request.userID).isSome = true
  some' : request.groups = [] → request.accountIDs ≠ []
  candidates : request.accountIDs ≠ [] → Nameable request.accountIDs
  pools : ∀ group ∈ request.groups, group.accountIDs ≠ [] → Nameable group.accountIDs

theorem valid_of_validUpstreamSelectionRequest
    (valid : validUpstreamSelectionRequest request = true) : request.Valid := by
  simp only [validUpstreamSelectionRequest, Bool.and_eq_true, Bool.not_eq_true',
    Bool.and_eq_false_iff, List.isEmpty_eq_false_iff, decide_eq_true_eq, List.all_eq_true] at valid
  obtain ⟨⟨⟨⟨⟨⟨user, some'⟩, few⟩, distinct⟩, -⟩, groups⟩, -⟩ := valid
  refine ⟨user, ?_, nameable_of_distinctAccounts few distinct, ?_⟩
  · intro none'
    rcases some' with candidates | groups
    · exact candidates
    · exact absurd none' groups
  · intro group member
    obtain ⟨⟨-, small⟩, unique⟩ := groups group member
    exact nameable_of_distinctAccounts small unique

theorem candidateGroups_nameable (valid : request.Valid) :
    ∀ group ∈ candidateGroups request, group.accountIDs ≠ [] → Nameable group.accountIDs := by
  intro group member some'
  unfold candidateGroups at member
  split at member
  · obtain ⟨original, listed, rfl⟩ := List.mem_map.mp member
    have whole : original.accountIDs ≠ [] := by
      intro empty
      simp [empty] at some'
    obtain ⟨-, few, valid, distinct⟩ := valid.pools original listed whole
    exact ⟨some', Nat.le_trans (List.length_filter_le _ _) few,
      fun id member => valid id (List.mem_of_mem_filter member), distinct.filter _⟩
  · exact valid.pools group member some'

theorem candidateGroups_eq (some' : request.groups ≠ []) :
    candidateGroups request = request.groups.map fun group =>
      { group with accountIDs := group.accountIDs.filter fun id =>
          !request.accountIDsProvided || decide (id ∈ request.accountIDs) } := by
  unfold candidateGroups
  cases request.accountIDsProvided with
  | true => simp [some']
  | false => simp

/-- The request may be given the account through a pool. -/
def UpstreamSelectionRequest.Opens (request : UpstreamSelectionRequest) (db : AllocationDb)
    (provider : UpstreamProvider) (userID : UserID) (now : Store.Time) (pool : List Text)
    (id : AccountID) : Prop :=
  id.val ∈ pool ∧ request.Offers id.val ∧ Usable db userID provider now id

/-- The loop over the cut groups, in terms of the groups of the request. -/
theorem selectFromGroups_candidateGroups (db : AllocationDb) (provider : UpstreamProvider)
    (userID : UserID) (now : Store.Time) (random : Nat → Nat)
    (valid : request.Valid) (grouped : request.groups ≠ []) :
    let answer := selectFromGroups db provider userID now random 0 (candidateGroups request)
    let opens := request.Opens db provider userID now
    (∀ group ∈ request.groups, ∀ id, ¬ opens group.accountIDs id) ∧ answer = .noAccount ∨
      ∃ id, (∃ before group after, request.groups = before ++ group :: after ∧
        opens group.accountIDs id ∧ ∀ earlier ∈ before, ∀ other, ¬ opens earlier.accountIDs other) ∧
        answer = .account id.val := by
  have offered : ∀ (ids : List Text) (id : AccountID),
      id.val ∈ (ids.filter fun id =>
        !request.accountIDsProvided || decide (id ∈ request.accountIDs)) ↔
      id.val ∈ ids ∧ request.Offers id.val := by
    intro ids id
    rw [List.mem_filter]
    unfold UpstreamSelectionRequest.Offers
    cases request.accountIDsProvided <;> simp
  have closed : ∀ ids : List Text, Exhausted db provider userID now (ids.filter fun id =>
      !request.accountIDsProvided || decide (id ∈ request.accountIDs)) →
      ∀ id, ¬ request.Opens db provider userID now ids id :=
    fun ids exhausted id opens => exhausted id ((offered ids id).mpr ⟨opens.1, opens.2.1⟩) opens.2.2
  have outcome : _ ∨ _ := selectFromGroups_spec db provider userID now random
    (candidateGroups_nameable valid) 0
  dsimp only
  rcases outcome with ⟨exhausted, none'⟩ |
    ⟨before, group, after, split, earlier, id, listed, usable, chosen⟩
  · refine .inl ⟨fun group member => ?_, none'⟩
    rw [candidateGroups_eq grouped] at exhausted
    exact closed _ (exhausted _ (List.mem_map_of_mem member))
  · rw [candidateGroups_eq grouped] at split
    obtain ⟨before', rest, groups, rfl, rest'⟩ := List.map_eq_append_iff.mp split
    obtain ⟨group', after', rfl, rfl, rfl⟩ := List.map_eq_cons_iff.mp rest'
    obtain ⟨pooled, offers⟩ := (offered _ id).mp listed
    refine .inr ⟨id, ⟨before', group', after', groups, ⟨pooled, offers, usable⟩, ?_⟩, chosen⟩
    intro group member
    exact closed _ (earlier _ (List.mem_map_of_mem member))

/-- An answer that is an account of some kind, or none if there is no such account. -/
theorem decided {P : AccountID → Prop} {N : Prop} {answer : SelectionAnswer}
    (outcome : N ∧ answer = .noAccount ∨ ∃ id, P id ∧ answer = .account id.val)
    (apart : ∀ id, P id → ¬ N) :
    (∀ id : AccountID, answer = .account id.val → P id) ∧ (answer = .noAccount ↔ N) ∧
      (answer = .noAccount ∨ ∃ id : AccountID, answer = .account id.val) := by
  rcases outcome with ⟨none', rfl⟩ | ⟨id, chosen, rfl⟩
  · refine ⟨?_, ⟨fun _ => none', fun _ => rfl⟩, .inl rfl⟩
    intro id impossible
    cases impossible
  · refine ⟨?_, ⟨?_, fun none' => absurd none' (apart id chosen)⟩, .inr ⟨id, rfl⟩⟩
    · intro other same
      rw [SelectionAnswer.account.injEq] at same
      exact Subtype.ext same ▸ chosen
    · intro impossible
      cases impossible

/-- The answer to a valid request is an account that is offered, pooled and usable, from
the first group that has one; there is no account exactly if no group has one. A
request without groups is about its candidates alone. -/
theorem upstreamAccountSelection_firstLayer (db : AllocationDb) (provider : UpstreamProvider)
    (now : Store.Time) (random : Nat → Nat) {request : UpstreamSelectionRequest}
    (valid : validUpstreamSelectionRequest request = true) {userID : UserID}
    (user : Uuid.parse? request.userID = some userID) :
    let answer := upstreamAccountSelection db provider now random request
    let opens := request.Opens db provider userID now
    (request.groups ≠ [] →
      (∀ id : AccountID, answer = .account id.val → ∃ before group after,
        request.groups = before ++ group :: after ∧ opens group.accountIDs id ∧
          ∀ earlier ∈ before, ∀ other, ¬ opens earlier.accountIDs other) ∧
      (answer = .noAccount ↔ ∀ group ∈ request.groups, ∀ id, ¬ opens group.accountIDs id)) ∧
    (request.groups = [] →
      (∀ id : AccountID, answer = .account id.val → opens request.accountIDs id) ∧
      (answer = .noAccount ↔ ∀ id, ¬ opens request.accountIDs id)) ∧
    (answer = .noAccount ∨ ∃ id : AccountID, answer = .account id.val) := by
  have known := valid_of_validUpstreamSelectionRequest valid
  dsimp only
  unfold upstreamAccountSelection
  rw [valid, user]
  dsimp only
  by_cases grouped : request.groups = []
  · rw [if_pos grouped]
    have outcome : (∀ id, ¬ request.Opens db provider userID now request.accountIDs id) ∧
          answerOf (Store.selectUpstreamAccount db provider userID request.accountIDs now
            (random 0)) = .noAccount ∨
        ∃ id, request.Opens db provider userID now request.accountIDs id ∧
          answerOf (Store.selectUpstreamAccount db provider userID request.accountIDs now
            (random 0)) = .account id.val := by
      rcases Store.selectUpstreamAccount_of_nameable db (known.candidates (known.some' grouped))
          provider userID now (random 0) with ⟨exhausted, failed⟩ | ⟨id, listed, usable, selected⟩
      · exact .inl ⟨fun id opens => exhausted id opens.1 opens.2.2, by rw [failed]; rfl⟩
      · exact .inr ⟨id, ⟨listed, fun _ => listed, usable⟩, by rw [selected]; rfl⟩
    obtain ⟨chosen, none', answered⟩ := decided outcome fun id opens none' => none' id opens
    exact ⟨fun some' => absurd grouped some', fun _ => ⟨chosen, none'⟩, answered⟩
  · rw [if_neg grouped]
    obtain ⟨chosen, none', answered⟩ :=
      decided (selectFromGroups_candidateGroups db provider userID now random known grouped) (by
        rintro id ⟨before, group, after, groups, opens, -⟩ none'
        refine none' group ?_ id opens
        rw [groups]
        exact List.mem_append_right _ List.mem_cons_self)
    exact ⟨fun _ => ⟨chosen, none'⟩, fun empty => absurd empty grouped, answered⟩

/-! Two groups. The accounts of the first are another user's and one that a guard holds; the
account of the second is not stored. -/

def privateAccount : AccountID := ⟨List.replicate 16 '2', by decide +kernel⟩

def heldAccount : AccountID := ⟨List.replicate 16 '3', by decide +kernel⟩

def freeAccount : AccountID := ⟨List.replicate 16 '1', by decide +kernel⟩

def layeredDb : AllocationDb where
  store := { Store.Db.empty ⟨10 ^ Billing.amountScale, [], true⟩ with
    users := ⟨[⟨1, ['v'], .active⟩], by decide⟩
    upstreamAccounts := ⟨[⟨privateAccount, .codex, false⟩, ⟨heldAccount, .codex, true⟩], by decide +kernel⟩ }
  preferences := .empty
  guards := ⟨[⟨heldAccount, true, none⟩], by decide⟩
  costs := []

def layeredRequest : UpstreamSelectionRequest where
  userID := "00000000-0000-0000-0000-000000000001".toList
  accountIDs := [privateAccount.val, heldAccount.val, freeAccount.val]
  groups := [⟨"00000000-0000-0000-0000-000000000002".toList, [privateAccount.val, heldAccount.val]⟩,
    ⟨"00000000-0000-0000-0000-000000000003".toList, [freeAccount.val]⟩]
  accountIDsProvided := true

theorem distinctAccounts_of_nodup (accounts : List AccountID) (nodup : accounts.Nodup) :
    distinctAccounts (accounts.map Subtype.val) = true := by
  refine Bool.and_eq_true_iff.mpr ⟨List.all_eq_true.mpr fun id member => ?_,
    decide_eq_true (nodup.map Subtype.val_injective)⟩
  obtain ⟨account, -, rfl⟩ := List.mem_map.mp member
  exact decide_eq_true account.property

theorem layeredRequest_valid : validUpstreamSelectionRequest layeredRequest = true := by
  have user : (Uuid.parse? layeredRequest.userID).isSome = true := by decide +kernel
  have named : ∀ group ∈ layeredRequest.groups, (Uuid.parse? group.groupID).isSome = true ∧
      group.accountIDs.length ≤ Store.maxUpstreamAllocationCandidates := by decide +kernel
  have apart : (layeredRequest.groups.map UpstreamSelectionGroup.groupID).Nodup := by
    decide +kernel
  have pools : ∀ group ∈ layeredRequest.groups, distinctAccounts group.accountIDs = true := by
    intro group member
    rcases List.mem_pair.mp member with rfl | rfl
    · exact distinctAccounts_of_nodup [privateAccount, heldAccount] (by decide)
    · exact distinctAccounts_of_nodup [freeAccount] (by decide)
  have offered : distinctAccounts layeredRequest.accountIDs = true :=
    distinctAccounts_of_nodup [privateAccount, heldAccount, freeAccount] (by decide)
  simp only [validUpstreamSelectionRequest, Bool.and_eq_true, List.all_eq_true, decide_eq_true_eq]
  refine ⟨⟨⟨⟨⟨⟨user, rfl⟩, by decide⟩, offered⟩, by decide⟩, ?_⟩, apart⟩
  exact fun group member => ⟨named group member, pools group member⟩

theorem upstreamAccountSelection_layeredRequest :
    upstreamAccountSelection layeredDb .codex 0 (fun _ => 0) layeredRequest =
      .account freeAccount.val := by
  obtain ⟨grouped, -, answered⟩ := upstreamAccountSelection_firstLayer layeredDb .codex 0
    (fun _ => 0) layeredRequest_valid
    (show Uuid.parse? layeredRequest.userID = some 1 by decide +kernel)
  obtain ⟨chosen, none'⟩ := grouped (List.cons_ne_nil _ _)
  have opens : layeredRequest.Opens layeredDb .codex 1 0 [freeAccount.val] freeAccount :=
    ⟨List.mem_singleton_self _, fun _ => by decide +kernel, by decide +kernel, by decide +kernel⟩
  have refused : ∀ other ∈ [privateAccount, heldAccount],
      Store.permitted layeredDb 1 .codex 0 other = false := by decide +kernel
  rcases answered with none'' | ⟨id, found⟩
  · exact absurd opens (none'.mp none'' _ (List.mem_cons_of_mem _ (List.mem_singleton_self _)) _)
  · obtain ⟨_, _, _, _, ⟨-, offered, allowed, -⟩, -⟩ := chosen id found
    have listed : id ∈ [privateAccount, heldAccount, freeAccount] :=
      (List.mem_map_of_injective Subtype.val_injective).mp (offered rfl)
    by_cases free : id = freeAccount
    · rw [found, free]
    · have other := refused id (by simpa [free] using listed)
      rw [allowed] at other
      cases other

end Server
