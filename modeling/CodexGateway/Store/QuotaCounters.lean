import CodexGateway.Store.RequestSteps

/-! # Counters and outstanding reservations

The daily counters of a key or a user hold exactly what its outstanding reservations
reserve. Every transaction keeps this, except that retention may drop the counters of
a day that still has outstanding reservations.
-/

namespace Store

open Except (FailsWith failsWith_ok failsWith_error)

variable {condition : QuotaCounter → Bool} {by' : CounterChange} {db db' : Db} {requestID : Text}
  {at' : Time}

/-- The reservation is outstanding on a day and within a scope. -/
def QuotaReservation.holds (row : QuotaReservation) (day : Int) (scope : QuotaScope) : Bool :=
  row.state = .reserved ∧ row.day = day ∧ scope ∈ row.scopes

/-- The sum of a column over the outstanding reservations of a day and a scope. -/
def held (reservations : Table QuotaReservation.requestID) (column : QuotaReservation → Int)
    (day : Int) (scope : QuotaScope) : Int :=
  reservations.total fun row => if row.holds day scope then column row else 0

/-- The counters agree with the outstanding reservations. -/
structure Balanced (counters : Table QuotaCounter.key)
    (reservations : Table QuotaReservation.requestID) : Prop where
  tokens : ∀ counter ∈ counters.rows,
    counter.tokensReserved =
      held reservations QuotaReservation.reservedTokens counter.day counter.scope
  requests : ∀ counter ∈ counters.rows,
    counter.requestsReserved - counter.requestsCompleted =
      held reservations (fun _ => 1) counter.day counter.scope
  counted : ∀ row ∈ reservations.rows, row.state = .reserved → ∀ scope ∈ row.scopes,
    (counters.find? (row.day, scope)).isSome
  valid : ∀ counter ∈ counters.rows, counter.Valid
  nonneg : ∀ row ∈ reservations.rows, 0 ≤ row.reservedTokens

/-! ## Sums -/

theorem held_cons {t t' : Table QuotaReservation.requestID} {row : QuotaReservation}
    (rows : t'.rows = row :: t.rows) (column : QuotaReservation → Int) (day : Int)
    (scope : QuotaScope) :
    held t' column day scope =
      (if row.holds day scope then column row else 0) + held t column day scope := by
  rw [held, Table.total, rows, List.map_cons, List.sum_cons, held, Table.total]

theorem held_close {t : Table QuotaReservation.requestID} {row : QuotaReservation}
    {state : QuotaState} (found : t.find? row.requestID = some row)
    (reserved : row.state = .reserved) (final : state ≠ .reserved)
    (column : QuotaReservation → Int) (day : Int) (scope : QuotaScope) :
    held (t.modify row.requestID (fun row => { row with state }) (fun _ => rfl)) column day scope =
      held t column day scope - if row.day = day ∧ scope ∈ row.scopes then column row else 0 := by
  rw [held, Table.total_modify found, held]
  have closed : ({ row with state } : QuotaReservation).holds day scope = false := by
    simp [QuotaReservation.holds, final]
  have opened : row.holds day scope = decide (row.day = day ∧ scope ∈ row.scopes) := by
    simp [QuotaReservation.holds, reserved]
  rw [closed, opened]
  simp only [Bool.false_eq_true, if_false, decide_eq_true_eq]
  omega

theorem held_nonneg {t : Table QuotaReservation.requestID} {column : QuotaReservation → Int}
    (nonneg : ∀ row ∈ t.rows, 0 ≤ column row) (day : Int) (scope : QuotaScope) :
    0 ≤ held t column day scope := by
  apply List.sum_nonneg
  intro amount member
  obtain ⟨row, stored, rfl⟩ := List.mem_map.mp member
  split
  · exact nonneg row stored
  · exact le_rfl

theorem le_held {t : Table QuotaReservation.requestID} {row : QuotaReservation}
    {column : QuotaReservation → Int} (nonneg : ∀ row ∈ t.rows, 0 ≤ column row)
    (found : t.find? row.requestID = some row) (reserved : row.state = .reserved)
    (keeps : ∀ state, ∀ row : QuotaReservation, column { row with state } = column row)
    {scope : QuotaScope} (within : scope ∈ row.scopes) : column row ≤ held t column row.day scope := by
  have final : QuotaState.released 0 ≠ .reserved := by simp
  have rest := held_close found reserved final column row.day scope
  rw [if_pos ⟨rfl, within⟩] at rest
  have left : 0 ≤ held (t.modify row.requestID (fun row => { row with state := .released 0 })
      (fun _ => rfl)) column row.day scope := by
    apply held_nonneg
    intro other member
    obtain ⟨old, stored, rfl⟩ := List.mem_map.mp member
    dsimp only
    split
    · rw [keeps]
      exact nonneg old stored
    · exact nonneg old stored
  omega

/-! ## Moving counters -/

theorem QuotaReservation.counts_iff {row : QuotaReservation} {counter : QuotaCounter} :
    counter.counts row.day row.userID row.apiKeyID = true ↔
      row.day = counter.day ∧ counter.scope ∈ row.scopes := by
  simp only [QuotaCounter.counts, decide_eq_true_eq, QuotaReservation.scopes, List.mem_cons,
    List.not_mem_nil, or_false, @eq_comm _ counter.day]

theorem CountersMoved.of_mem {t t' : Table QuotaCounter.key} {day : Int} {userID : UserID}
    {apiKeyID : KeyID} (moved : CountersMoved t t' day userID apiKeyID condition by')
    {counter : QuotaCounter} (member : counter ∈ t'.rows) :
    ∃ old ∈ t.rows, counter = if old.counts day userID apiKeyID then old.change by' else old := by
  have found := moved.find counter.key
  rw [Table.find?_of_mem member] at found
  obtain ⟨old, oldFound, same⟩ := Option.map_eq_some_iff.mp found.symm
  exact ⟨old, Table.mem_of_find? oldFound, same.symm⟩

theorem CountersMoved.isSome {t t' : Table QuotaCounter.key} {day : Int} {userID : UserID}
    {apiKeyID : KeyID} (moved : CountersMoved t t' day userID apiKeyID condition by')
    (k : Int × QuotaScope) : (t'.find? k).isSome = (t.find? k).isSome := by
  rw [moved.find, Option.isSome_map]

namespace Balanced

variable {counters counters' : Table QuotaCounter.key}
  {reservations reservations' : Table QuotaReservation.requestID} {row : QuotaReservation}

theorem held_eq_zero (balanced : Balanced counters reservations) {day : Int} {scope : QuotaScope}
    (absent : counters.find? (day, scope) = none) (column : QuotaReservation → Int) :
    held reservations column day scope = 0 := by
  apply List.sum_eq_zero
  intro amount member
  obtain ⟨row, stored, rfl⟩ := List.mem_map.mp member
  rw [if_neg]
  intro holds
  obtain ⟨reserved, rfl, within⟩ := of_decide_eq_true holds
  have counted := balanced.counted row stored reserved scope within
  rw [absent] at counted
  cases counted

theorem insertIfAbsent (balanced : Balanced counters reservations) (day : Int)
    (scope : QuotaScope) :
    Balanced (counters.insertIfAbsent ⟨day, scope, 0, 0, 0, 0⟩) reservations := by
  have cases' : ∀ counter ∈ (counters.insertIfAbsent ⟨day, scope, 0, 0, 0, 0⟩).rows,
      counter ∈ counters.rows ∨
        counter = ⟨day, scope, 0, 0, 0, 0⟩ ∧ counters.find? (day, scope) = none := by
    intro counter member
    have found := Table.find?_of_mem member
    rw [Table.find?_insertIfAbsent] at found
    split at found
    · rename_i same
      cases old : counters.find? (day, scope) with
      | none =>
        refine .inr ⟨?_, rfl⟩
        rw [same, old] at found
        exact (Option.some.inj found).symm
      | some other =>
        left
        rw [same, old] at found
        cases found
        exact Table.mem_of_find? old
    · exact .inl (Table.mem_of_find? found)
  refine ⟨?_, ?_, ?_, ?_, balanced.nonneg⟩
  · intro counter member
    rcases cases' counter member with old | ⟨rfl, absent⟩
    · exact balanced.tokens counter old
    · exact (balanced.held_eq_zero absent _).symm
  · intro counter member
    rcases cases' counter member with old | ⟨rfl, absent⟩
    · exact balanced.requests counter old
    · exact (balanced.held_eq_zero absent _).symm
  · intro row stored reserved scope' within
    rw [Table.find?_insertIfAbsent]
    have counted := balanced.counted row stored reserved scope' within
    split
    · rw [Option.isSome_or, counted, Bool.true_or]
    · exact counted
  · intro counter member
    rcases cases' counter member with old | ⟨rfl, -⟩
    · exact balanced.valid counter old
    · have small : (0 : Int) ≤ maxInt64 := by decide
      exact ⟨le_rfl, le_rfl, le_rfl, le_rfl, small, small, small⟩

/-- Moving both counters of a reservation together with what it holds keeps the
balance. -/
theorem move (balanced : Balanced counters reservations)
    (moved : CountersMoved counters counters' row.day row.userID row.apiKeyID condition by')
    (tokens : ∀ day scope,
      held reservations' QuotaReservation.reservedTokens day scope =
        held reservations QuotaReservation.reservedTokens day scope +
          if row.day = day ∧ scope ∈ row.scopes then by'.tokensReserved else 0)
    (requests : ∀ day scope,
      held reservations' (fun _ => 1) day scope =
        held reservations (fun _ => 1) day scope +
          if row.day = day ∧ scope ∈ row.scopes then
            by'.requestsReserved - by'.requestsCompleted
          else 0)
    (counted : ∀ other ∈ reservations'.rows, other.state = .reserved → ∀ scope ∈ other.scopes,
      (counters.find? (other.day, scope)).isSome)
    (nonneg : ∀ other ∈ reservations'.rows, 0 ≤ other.reservedTokens) :
    Balanced counters' reservations' := by
  refine ⟨?_, ?_, ?_, moved.valid balanced.valid, nonneg⟩
  · intro counter member
    obtain ⟨old, stored, rfl⟩ := moved.of_mem member
    have before := balanced.tokens old stored
    rw [tokens]
    by_cases counts : old.counts row.day row.userID row.apiKeyID = true
    · have within : row.day = (old.change by').day ∧ (old.change by').scope ∈ row.scopes :=
        QuotaReservation.counts_iff.mp counts
      rw [if_pos counts, if_pos within]
      exact congrArg (· + by'.tokensReserved) before
    · rw [if_neg counts, if_neg (fun within => counts (QuotaReservation.counts_iff.mpr within)),
        before, add_zero]
  · intro counter member
    obtain ⟨old, stored, rfl⟩ := moved.of_mem member
    have before := balanced.requests old stored
    rw [requests]
    by_cases counts : old.counts row.day row.userID row.apiKeyID = true
    · have within : row.day = (old.change by').day ∧ (old.change by').scope ∈ row.scopes :=
        QuotaReservation.counts_iff.mp counts
      rw [if_pos counts, if_pos within]
      dsimp only [QuotaCounter.change]
      rw [← before]
      omega
    · rw [if_neg counts, if_neg (fun within => counts (QuotaReservation.counts_iff.mpr within)),
        before, add_zero]
  · intro other stored reserved scope within
    rw [moved.isSome]
    exact counted other stored reserved scope within

end Balanced

theorem balanced_reserve {params : ReserveQuotaParams} {row : QuotaReservation}
    (balanced : Balanced db.quotaCounters db.quotaReservations)
    (nonneg : 0 ≤ params.reservedTokens) (reserved : QuotaReserved db params db' row) :
    Balanced db'.quotaCounters db'.quotaReservations := by
  obtain ⟨rowEq, -, rows, moved, -⟩ := reserved
  have user : params.userID = row.userID := by rw [rowEq]
  have key : params.apiKeyID = row.apiKeyID := by rw [rowEq]
  have amount : params.reservedTokens = row.reservedTokens := by rw [rowEq]
  have state : row.state = .reserved := by rw [rowEq]
  rw [user, key, amount] at moved
  have opened : ∀ day scope, row.holds day scope = decide (row.day = day ∧ scope ∈ row.scopes) := by
    intro day scope
    simp [QuotaReservation.holds, state]
  have ensured := (balanced.insertIfAbsent row.day (.key row.apiKeyID)).insertIfAbsent row.day
    (.user row.userID)
  apply ensured.move moved
  · intro day scope
    rw [held_cons rows, opened, add_comm]
    simp only [decide_eq_true_eq]
  · intro day scope
    rw [held_cons rows, opened, add_comm]
    simp only [decide_eq_true_eq, sub_zero]
  · intro other stored isReserved scope within
    rw [rows] at stored
    rcases List.mem_cons.mp stored with rfl | old
    · obtain ⟨counter, found, -⟩ := moved.both scope within
      exact Option.isSome_of_eq_some found
    · exact ensured.counted other old isReserved scope within
  · intro other stored
    rw [rows] at stored
    rcases List.mem_cons.mp stored with rfl | old
    · rw [← amount]
      exact nonneg
    · exact balanced.nonneg other old

theorem balanced_close {row : QuotaReservation} {state : QuotaState}
    (balanced : Balanced db.quotaCounters db.quotaReservations) (final : state ≠ .reserved)
    (closed : QuotaClosed db row state db') : Balanced db'.quotaCounters db'.quotaReservations := by
  obtain ⟨found, reserved, ⟨condition, by', moved, tokens, requests⟩, reservations, -⟩ := closed
  have from' : ∀ other ∈ db'.quotaReservations.rows, ∃ old ∈ db.quotaReservations.rows,
      other = old ∨ other = { old with state } := by
    intro other member
    rw [reservations] at member
    obtain ⟨old, stored, rfl⟩ := List.mem_map.mp member
    refine ⟨old, stored, ?_⟩
    split
    · exact .inr rfl
    · exact .inl rfl
  apply balanced.move moved
  · intro day scope
    rw [reservations, held_close found reserved final, tokens]
    split <;> omega
  · intro day scope
    rw [reservations, held_close found reserved final, requests]
    split <;> omega
  · intro other member isReserved scope within
    obtain ⟨old, stored, rfl | rfl⟩ := from' other member
    · exact balanced.counted _ stored isReserved scope within
    · exact absurd isReserved final
  · intro other member
    obtain ⟨old, stored, rfl | rfl⟩ := from' other member
    · exact balanced.nonneg _ stored
    · exact balanced.nonneg old stored

theorem balanced_delete (balanced : Balanced db.quotaCounters db.quotaReservations)
    {before : Time} (past : ∀ row ∈ db.quotaReservations.rows, row.state = .reserved →
      dateOf before ≤ row.day) :
    Balanced (deleteQuotaStateBefore db before).quotaCounters
      (deleteQuotaStateBefore db before).quotaReservations := by
  have same : ∀ column day scope,
      held (deleteQuotaStateBefore db before).quotaReservations column day scope =
        held db.quotaReservations column day scope := by
    intro column day scope
    rw [held, deleteQuotaStateBefore, Table.total_delete, held]
    apply Table.total_congr
    intro row _
    cases state : row.state with
    | reserved => rfl
    | settled tokens at' => simp [QuotaReservation.holds, state]
    | released at' => simp [QuotaReservation.holds, state]
  refine ⟨?_, ?_, ?_, ?_, ?_⟩
  · intro counter member
    rw [same]
    exact balanced.tokens counter (List.mem_of_mem_filter member)
  · intro counter member
    rw [same]
    exact balanced.requests counter (List.mem_of_mem_filter member)
  · intro row member reserved scope within
    have stored := List.mem_of_mem_filter member
    have counted := balanced.counted row stored reserved scope within
    obtain ⟨counter, found⟩ := Option.isSome_iff_exists.mp counted
    have day : counter.day = row.day := congrArg Prod.fst (Table.key_of_find? found)
    have kept : ¬ counter.day < dateOf before := by
      rw [day]
      exact not_lt.mpr (past row stored reserved)
    rw [deleteQuotaStateBefore, Table.find?_delete, found]
    simp [kept]
  · intro counter member
    exact balanced.valid counter (List.mem_of_mem_filter member)
  · intro row member
    exact balanced.nonneg row (List.mem_of_mem_filter member)

/-! ## Closing finds its counters -/

theorem Balanced.covers {counters : Table QuotaCounter.key}
    {reservations : Table QuotaReservation.requestID} {row : QuotaReservation}
    (balanced : Balanced counters reservations)
    (found : reservations.find? row.requestID = some row) (reserved : row.state = .reserved) :
    ∀ scope ∈ row.scopes, ∃ counter, counters.find? (row.day, scope) = some counter ∧
      0 < counter.requestsReserved ∧ row.reservedTokens ≤ counter.tokensReserved := by
  intro scope within
  have stored := Table.mem_of_find? found
  obtain ⟨counter, counterFound⟩ :=
    Option.isSome_iff_exists.mp (balanced.counted row stored reserved scope within)
  have member := Table.mem_of_find? counterFound
  have day : counter.day = row.day := congrArg Prod.fst (Table.key_of_find? counterFound)
  have scopeEq : counter.scope = scope := congrArg Prod.snd (Table.key_of_find? counterFound)
  have tokens := balanced.tokens counter member
  have requests := balanced.requests counter member
  rw [day, scopeEq] at tokens requests
  have manyTokens := le_held balanced.nonneg found reserved (fun _ _ => rfl) within
  have manyRequests : 1 ≤ held reservations (fun _ => 1) row.day scope :=
    le_held (by simp) found reserved (fun _ _ => rfl) within
  have completed := (balanced.valid counter member).1
  refine ⟨counter, counterFound, ?_, ?_⟩
  · omega
  · omega

section

variable {db : Db} (balanced : Balanced db.quotaCounters db.quotaReservations)

include balanced

theorem updateCounters_counted {row : QuotaReservation}
    (found : db.quotaReservations.find? row.requestID = some row)
    (reserved : row.state = .reserved)
    (implied : ∀ counter : QuotaCounter, 0 < counter.requestsReserved →
      row.reservedTokens ≤ counter.tokensReserved → condition counter = true) (operation : String)
    (by' : CounterChange) :
    FailsWith (· ≠ .conflict operation)
      (updateCounters db operation row.day row.userID row.apiKeyID condition by') := by
  intro err moves same
  rw [same] at moves
  apply updateCounters_conflict moves
  intro scope within
  obtain ⟨counter, counterFound, requests, tokens⟩ := balanced.covers found reserved scope within
  exact ⟨counter, counterFound, implied counter requests tokens⟩

omit balanced in
theorem readReservation_failsWith {P : StoreError → Prop}
    (met : P (.notFound "read quota reservation")) :
    FailsWith P (readReservation db requestID) := by
  unfold readReservation
  split
  · exact failsWith_error met
  · exact failsWith_ok _

theorem settleQuota_counted (requestID : Text) (actualTokens : Int) (at' : Time) :
    FailsWith (· ≠ .conflict "settle quota counters")
      (settleQuota db requestID actualTokens at') := by
  unfold settleQuota
  refine FailsWith.bind (readReservation_failsWith (by simp)) ?_
  intro row read
  have found := readReservation_ok read
  cases state : row.state with
  | settled tokens settledAt =>
    dsimp only
    split
    · exact failsWith_ok _
    · exact failsWith_error (by simp)
  | released releasedAt => exact failsWith_error (by simp)
  | reserved =>
    rw [← Table.key_of_find? found] at found
    refine FailsWith.bind (updateCounters_counted balanced found state ?_ _ _) ?_
    · intro counter _ tokens
      exact decide_eq_true tokens
    · intro db' _
      exact failsWith_ok _

theorem releaseQuotaReservation_counted (requestID : Text) (at' : Time) :
    FailsWith (· ≠ .conflict "release quota counters")
      (releaseQuotaReservation db requestID at') := by
  unfold releaseQuotaReservation
  refine FailsWith.bind (readReservation_failsWith (by simp)) ?_
  intro row read
  have found := readReservation_ok read
  cases state : row.state with
  | settled tokens settledAt => exact failsWith_error (by simp)
  | released releasedAt => exact failsWith_ok _
  | reserved =>
    rw [← Table.key_of_find? found] at found
    refine FailsWith.bind (updateCounters_counted balanced found state ?_ _ _) ?_
    · intro counter requests tokens
      exact decide_eq_true ⟨requests, tokens⟩
    · intro db' _
      exact failsWith_ok _

end

/-! ## Runs -/

/-- The counters and quota reservations did not change. -/
structure SameQuota (db db' : Db) : Prop where
  counters : db'.quotaCounters = db.quotaCounters
  reservations : db'.quotaReservations = db.quotaReservations

theorem SameQuota.balanced (same : SameQuota db db')
    (balanced : Balanced db.quotaCounters db.quotaReservations) :
    Balanced db'.quotaCounters db'.quotaReservations := by
  rw [same.counters, same.reservations]
  exact balanced

theorem SettlesOnly.sameQuota (only : SettlesOnly db db') : SameQuota db db' := by
  constructor <;> rw [only]

theorem ReservesOnly.sameQuota (only : ReservesOnly db db') : SameQuota db db' := by
  constructor <;> rw [only]

theorem SubscriptionsOnly.sameQuota (only : SubscriptionsOnly db db') : SameQuota db db' := by
  constructor <;> rw [only]

theorem UsageOnly.sameQuota (only : UsageOnly db db') : SameQuota db db' := by
  constructor <;> rw [only]

theorem settleBilling_sameQuota {now : Time} {settled : BillingReservation}
    (ok : settleBilling db requestID now = .ok (db', settled)) : SameQuota db db' := by
  obtain ⟨reservation, -, ⟨-, -, -, rfl, -⟩ | now'⟩ := settleBilling_ok ok
  · exact ⟨rfl, rfl⟩
  · obtain ⟨settles⟩ := now'
    have same := settles.charged.frame.sameQuota
    exact ⟨same.counters, same.reservations⟩

theorem releaseBilling_sameQuota {now : Time} (ok : releaseBilling db requestID now = .ok db') :
    SameQuota db db' := by
  obtain ⟨reservation, -, ⟨-, -, rfl⟩ | ⟨-, rfl⟩⟩ := releaseBilling_ok ok
  · exact ⟨rfl, rfl⟩
  · exact ⟨rfl, rfl⟩

section Steps

variable {db db' : Db} (balanced : Balanced db.quotaCounters db.quotaReservations)

include balanced

theorem balanced_settleQuota {tokens : Int} (ok : settleQuota db requestID tokens at' = .ok db') :
    Balanced db'.quotaCounters db'.quotaReservations := by
  obtain ⟨row, -, ⟨-, -, rfl⟩ | closed⟩ := settleQuota_ok ok
  · exact balanced
  · exact balanced_close balanced (by simp) closed

theorem balanced_releaseQuotaReservation (ok : releaseQuotaReservation db requestID at' = .ok db') :
    Balanced db'.quotaCounters db'.quotaReservations := by
  obtain ⟨row, -, ⟨-, -, rfl⟩ | closed⟩ := releaseQuotaReservation_ok ok
  · exact balanced
  · exact balanced_close balanced (by simp) closed

theorem balanced_settleRequest (ok : settleRequest db requestID at' = .ok db') :
    Balanced db'.quotaCounters db'.quotaReservations := by
  obtain ⟨usage, settled, -, -, settles, ⟨-, billing, charges⟩ | ⟨-, rfl⟩⟩ := settleRequest_ok ok
  · exact (settleBilling_sameQuota charges).balanced (balanced_settleQuota balanced settles)
  · exact balanced_settleQuota balanced settles

theorem balanced_releaseRequest (ok : releaseRequest db requestID at' = .ok db') :
    Balanced db'.quotaCounters db'.quotaReservations := by
  obtain ⟨row, -, ⟨-, -, rfl⟩ | ⟨-, usage, cancelled, released, -, -, rfl, releases, rest⟩⟩ :=
    releaseRequest_ok ok
  · exact balanced
  · have freed : Balanced released.quotaCounters released.quotaReservations :=
      balanced_releaseQuotaReservation (by exact balanced) releases
    rcases rest with ⟨-, unbills⟩ | ⟨-, rfl⟩
    · exact (releaseBilling_sameQuota unbills).balanced freed
    · exact freed

theorem balanced_releaseStale {stale : StaleReservation}
    (ok : releaseStale db stale at' = .ok db') :
    Balanced db'.quotaCounters db'.quotaReservations := by
  unfold releaseStale at ok
  split at ok
  · exact balanced_releaseRequest balanced ok
  · obtain ⟨-, ok⟩ := Except.refuse_eq_ok.mp ok
    exact balanced_releaseQuotaReservation balanced ok

theorem balanced_admitRequest (structureDigest : Config.ModelPriceStructure → Text)
    (params : AdmitRequestParams) (fresh : FreshPeriods) :
    Balanced (admitRequest structureDigest db params fresh).1.quotaCounters
      (admitRequest structureDigest db params fresh).1.quotaReservations := by
  rcases admitRequest_cases structureDigest db params fresh with
    ⟨checked, admission, checks, admits⟩ | only
  · obtain ⟨billed, reserved, bills, reserves, begins⟩ := admitChecked_ok admits
    have nonneg := (checkAdmission_ok checks).2.1
    have billedBalanced : Balanced billed.quotaCounters billed.quotaReservations := by
      rcases reserveAdmittedBilling_ok bills with ⟨-, rfl, -⟩ | ⟨_, _, _, -, -, made⟩
      · exact balanced
      · exact made.frame.sameQuota.balanced balanced
    have reservedBalanced := balanced_reserve billedBalanced nonneg (reserveQuota_ok reserves)
    obtain ⟨-, -, -, frame⟩ := beginUsageRequest_ok begins
    have same : SameQuota reserved (admitRequest structureDigest db params fresh).1 := by
      constructor <;> rw [frame]
    exact same.balanced reservedBalanced
  · exact only.sameQuota.balanced balanced

end Steps

/-- A transaction on quota, a job, or a write elsewhere in the store. The job over
stale reservations runs a transaction for each entry, and others may come between. -/
inductive QuotaOp where
  | admission (params : AdmitRequestParams) (fresh : FreshPeriods)
  | complete (params : CompleteUsageRequestParams)
  | settle (requestID : Text) (at' : Time)
  | release (requestID : Text) (at' : Time)
  | retry (limit : Int) (clock : Text → Time)
  | releaseEntry (stale : StaleReservation) (at' : Time)
  | releaseStale (before : Time) (limit : Int) (now : Time) (clock : Text → Time)
  | delete (before : Time)
  | elsewhere (write : Db → Db) (keeps : ∀ db, SameQuota db (write db))

section Run

variable (structureDigest : Config.ModelPriceStructure → Text)
  (provider : Option UpstreamProvider)

/-- The database after an operation; one that fails changes nothing. -/
def QuotaOp.apply (db : Db) : QuotaOp → Db
  | .admission params fresh => (admitRequest structureDigest db params fresh).1
  | .complete params => (completeUsageRequest provider db params).1
  | .settle requestID at' => Transaction.commit (settleRequest · requestID at') db
  | .release requestID at' => Transaction.commit (releaseRequest · requestID at') db
  | .retry limit clock => (retryUnsettledRequests db limit clock).1
  | .releaseEntry stale at' => Transaction.commit (Store.releaseStale · stale at') db
  | .releaseStale before limit now clock =>
    (releaseStaleQuotaReservations db before limit now clock).1
  | .delete before => deleteQuotaStateBefore db before
  | .elsewhere write _ => write db

def quotaRun (db : Db) (ops : List QuotaOp) : Db :=
  Transaction.run (QuotaOp.apply structureDigest provider) db ops

/-- Retention stops short of the days of outstanding reservations. -/
def SparesReserved (db : Db) : QuotaOp → Prop
  | .delete before => ∀ row ∈ db.quotaReservations.rows, row.state = .reserved →
      dateOf before ≤ row.day
  | _ => True

theorem balanced_apply (op : QuotaOp) (spares : SparesReserved db op)
    (balanced : Balanced db.quotaCounters db.quotaReservations) :
    Balanced (op.apply structureDigest provider db).quotaCounters
      (op.apply structureDigest provider db).quotaReservations := by
  let P (db : Db) := Balanced db.quotaCounters db.quotaReservations
  change P db at balanced
  cases op with
  | admission params fresh => exact balanced_admitRequest balanced structureDigest params fresh
  | complete params =>
    exact (completeUsageRequest_cases provider db params).1.sameQuota.balanced balanced
  | settle requestID at' =>
    exact Transaction.commit_preserves (P := P) balanced fun _ ok =>
      balanced_settleRequest balanced ok
  | release requestID at' =>
    exact Transaction.commit_preserves (P := P) balanced fun _ ok =>
      balanced_releaseRequest balanced ok
  | retry limit clock =>
    exact repairAll_preserves (P := P) balanced fun _ _ _ _ before ok =>
      balanced_settleRequest before ok
  | releaseEntry stale at' =>
    exact Transaction.commit_preserves (P := P) balanced fun _ ok =>
      balanced_releaseStale balanced ok
  | releaseStale before limit now clock =>
    exact repairAll_preserves (P := P) balanced fun _ _ _ _ before ok =>
      balanced_releaseStale before ok
  | delete before => exact balanced_delete balanced spares
  | elsewhere write keeps => exact (keeps db).balanced balanced

theorem balanced_empty : Balanced .empty .empty :=
  ⟨by simp [Table.empty], by simp [Table.empty], by simp [Table.empty], by simp [Table.empty],
    by simp [Table.empty]⟩

/-- From empty quota tables on, the counters hold exactly the outstanding reservations
as long as retention spares their days, and closing a reservation finds its
counters. -/
theorem quotaRun_balanced {db : Db} (noCounters : db.quotaCounters = .empty)
    (noReservations : db.quotaReservations = .empty) {ops : List QuotaOp}
    (spares : Transaction.Along SparesReserved (QuotaOp.apply structureDigest provider) db ops) :
    Balanced (quotaRun structureDigest provider db ops).quotaCounters
        (quotaRun structureDigest provider db ops).quotaReservations ∧
      (∀ requestID tokens at',
        settleQuota (quotaRun structureDigest provider db ops) requestID tokens at' ≠
          .error (.conflict "settle quota counters")) ∧
      ∀ requestID at',
        releaseQuotaReservation (quotaRun structureDigest provider db ops) requestID at' ≠
          .error (.conflict "release quota counters") := by
  have start : Balanced db.quotaCounters db.quotaReservations := by
    rw [noCounters, noReservations]
    exact balanced_empty
  have balanced := Transaction.run_preserves_along
    (P := fun db => Balanced db.quotaCounters db.quotaReservations) start
    (fun db op spares before => balanced_apply structureDigest provider op spares before) spares
  refine ⟨balanced, ?_, ?_⟩
  · intro requestID tokens at' failed
    exact settleQuota_counted balanced requestID tokens at' _ failed rfl
  · intro requestID at' failed
    exact releaseQuotaReservation_counted balanced requestID at' _ failed rfl

end Run

/-! A request that lists the models, admitted on day zero and completed. -/

def listingDb : Db :=
  { Db.empty ⟨10 ^ Billing.amountScale, [['m']], true⟩ with
    apiKeys := ⟨[⟨1, 1, 1⟩], by decide⟩ }

def listing : AdmitRequestParams where
  quota := ⟨['r'], 1, 1, none, 0, 5, 0, ⟨0, 0, 0, 0, 0, 0, 0⟩⟩
  usage := ⟨['r'], 1, 1, 1, ['m'], [], 1, "models".toList, 0, 0⟩
  billing := none
  upstreamProvider := none
  requireModelAccess := false

def listingDone : CompleteUsageRequestParams :=
  ⟨['r'], [], .completed, 200, [], none, 1, noMetrics, 0, 0, [], [], [], []⟩

/-- The request, and then retention up to a point in time. -/
def listingOps (before : Time) : List QuotaOp :=
  [.admission listing ⟨fun _ => 0, fun _ => 0⟩, .complete listingDone, .delete before]

theorem quotaRun_sparing :
    (quotaRun (fun _ => []) none listingDb (listingOps 0)).quotaCounters.rows =
        [⟨0, .user 1, 1, 0, 5, 0⟩, ⟨0, .key 1, 1, 0, 5, 0⟩] ∧
      Balanced (quotaRun (fun _ => []) none listingDb (listingOps 0)).quotaCounters
        (quotaRun (fun _ => []) none listingDb (listingOps 0)).quotaReservations := by
  refine ⟨by decide +kernel, ?_⟩
  have spares : Transaction.Along SparesReserved (QuotaOp.apply (fun _ => []) none) listingDb
      (listingOps 0) := by
    refine ⟨trivial, trivial, ?_, trivial⟩
    unfold SparesReserved
    decide +kernel
  exact (quotaRun_balanced (fun _ => []) none rfl rfl spares).1

/-- Retention two days later drops both counters, and the request can neither be
settled nor released. -/
theorem quotaRun_miscounts :
    listingDb.quotaCounters = .empty ∧ listingDb.quotaReservations = .empty ∧
      ¬ Balanced (quotaRun (fun _ => []) none listingDb (listingOps (2 * day))).quotaCounters
        (quotaRun (fun _ => []) none listingDb (listingOps (2 * day))).quotaReservations ∧
      settleRequest (quotaRun (fun _ => []) none listingDb (listingOps (2 * day))) ['r'] 0 =
        .error (.conflict "settle quota counters") ∧
      releaseQuotaReservation (quotaRun (fun _ => []) none listingDb (listingOps (2 * day))) ['r']
        0 = .error (.conflict "release quota counters") := by
  refine ⟨rfl, rfl, ?_, rfl, rfl⟩
  intro balanced
  have counted := balanced.counted ⟨['r'], 0, 1, 1, 5, 0, .reserved⟩ (by decide +kernel) rfl
    (.key 1) (by decide)
  have missing : ((quotaRun (fun _ => []) none listingDb (listingOps (2 * day))).quotaCounters.find?
      (0, .key 1)).isSome = false := by decide +kernel
  rw [missing] at counted
  cases counted

end Store
