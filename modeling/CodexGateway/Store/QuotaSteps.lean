import CodexGateway.Store.Quota
import CodexGateway.Library.Transaction

/-! # What quota transactions do

The transactions on counters and quota reservations taken apart once. Reserving adds
to the two counters of a request, closing takes the same amounts back.
-/

namespace Store

open Except (bind_eq_ok check_bind_eq_ok refuse_eq_ok)

variable {userID : UserID} {apiKeyID : KeyID} {db db' : Db} {operation : String}
  {condition : QuotaCounter → Bool} {by' : CounterChange} {requestID : Text}

/-- The scopes whose counters a reservation is in. -/
def QuotaReservation.scopes (row : QuotaReservation) : List QuotaScope :=
  [.key row.apiKeyID, .user row.userID]

variable {row : QuotaReservation} {day : Int} {at' : Time}

theorem QuotaCounter.counts_iff {row : QuotaCounter} :
    row.counts day userID apiKeyID = true ↔
      row.key = (day, .key apiKeyID) ∨ row.key = (day, .user userID) := by
  simp only [QuotaCounter.counts, decide_eq_true_eq, QuotaCounter.key, Prod.mk.injEq]
  tauto

/-- The counters after both counters of a request moved. -/
structure CountersMoved (t t' : Table QuotaCounter.key) (day : Int) (userID : UserID)
    (apiKeyID : KeyID) (condition : QuotaCounter → Bool) (by' : CounterChange) : Prop where
  both : ∀ scope ∈ [QuotaScope.key apiKeyID, .user userID],
    ∃ row, t.find? (day, scope) = some row ∧ condition row
  find : ∀ k, t'.find? k = (t.find? k).map fun row =>
    if row.counts day userID apiKeyID then row.change by' else row
  valid : (∀ row ∈ t.rows, row.Valid) → ∀ row ∈ t'.rows, row.Valid

theorem scopes_ne (userID : UserID) (apiKeyID : KeyID) (day : Int) :
    (day, QuotaScope.key apiKeyID) ≠ (day, .user userID) := by
  simp

/-- The rows that an update of counters touches are two exactly if both counters of
the request meet the condition. -/
theorem touched_eq_two {t : Table QuotaCounter.key} (condition : QuotaCounter → Bool) :
    (t.rows.filter fun row => row.counts day userID apiKeyID && condition row).length = 2 ↔
      ∀ scope ∈ [QuotaScope.key apiKeyID, .user userID],
        ∃ row, t.find? (day, scope) = some row ∧ condition row := by
  have pair := Table.length_filter_pair (t := t) (scopes_ne userID apiKeyID day) condition
  have same : (t.rows.filter fun row => row.counts day userID apiKeyID && condition row) =
      t.rows.filter fun row =>
        (row.key = (day, .key apiKeyID) ∨ row.key = (day, .user userID)) ∧ condition row := by
    congr 1
    funext row
    rw [Bool.eq_iff_iff, Bool.and_eq_true, QuotaCounter.counts_iff, decide_eq_true_eq]
  rw [same, pair]
  simp

theorem updateCounters_ok
    (ok : updateCounters db operation day userID apiKeyID condition by' = .ok db') :
    CountersMoved db.quotaCounters db'.quotaCounters day userID apiKeyID condition by' ∧
      db' = { db with quotaCounters := db'.quotaCounters } := by
  unfold updateCounters at ok
  dsimp only at ok
  obtain ⟨inRange, ok⟩ := refuse_eq_ok.mp ok
  obtain ⟨two, ok⟩ := refuse_eq_ok.mp ok
  have both := (touched_eq_two condition).mp (not_not.mp two)
  cases ok
  refine ⟨⟨both, ?_, ?_⟩, rfl⟩
  · intro k
    have lookup := Table.find?_update db.quotaCounters
      (fun row => row.counts day userID apiKeyID && condition row) (fun row => row.change by')
      (fun _ => rfl) k
    refine lookup.trans ?_
    cases found : db.quotaCounters.find? k with
    | none => rfl
    | some row =>
      -- The only rows that count are the two that meet the condition.
      have meets : row.counts day userID apiKeyID = true → condition row = true := by
        intro counts
        have keyEq := Table.key_of_find? found
        rcases QuotaCounter.counts_iff.mp counts with isKey | isUser
        · obtain ⟨other, otherFound, met⟩ := both (.key apiKeyID) (by simp)
          rw [← isKey, keyEq, found] at otherFound
          cases otherFound
          exact met
        · obtain ⟨other, otherFound, met⟩ := both (.user userID) (by simp)
          rw [← isUser, keyEq, found] at otherFound
          cases otherFound
          exact met
      by_cases counts : row.counts day userID apiKeyID = true
      · simp [counts, meets counts]
      · simp [counts]
  · intro before row member
    obtain ⟨old, oldMember, rfl⟩ := List.mem_map.mp member
    dsimp only
    split
    · rename_i hit
      by_contra outside
      apply inRange
      rw [List.any_eq_true]
      exact ⟨old, List.mem_filter.mpr ⟨oldMember, hit⟩, by simpa using outside⟩
    · exact before old oldMember

/-- The update only misses its two rows when one of them is not as expected. -/
theorem updateCounters_conflict {text : String}
    (failed : updateCounters db operation day userID apiKeyID condition by' =
      .error (.conflict text)) :
    ¬ ∀ scope ∈ [QuotaScope.key apiKeyID, .user userID],
      ∃ row, db.quotaCounters.find? (day, scope) = some row ∧ condition row := by
  intro both
  unfold updateCounters at failed
  dsimp only at failed
  split at failed
  · cases failed
  · rw [if_neg (not_not.mpr ((touched_eq_two condition).mpr both))] at failed
    cases failed

/-! ## Reserving -/

/-- The second database differs from the first in the quota tables. -/
def QuotaOnly (db db' : Db) : Prop :=
  db' = { db with
    quotaReservations := db'.quotaReservations
    quotaCounters := db'.quotaCounters
    rateWindows := db'.rateWindows
    leases := db'.leases }

theorem QuotaOnly.trans {a b c : Db} (first : QuotaOnly a b) (second : QuotaOnly b c) :
    QuotaOnly a c := by
  unfold QuotaOnly at first second ⊢
  rw [second, first]

section

variable (db : Db) (start : Time) (day : Int) (scope : QuotaScope)

theorem quotaOnly_expireLeases : QuotaOnly db (expireLeases db start) := rfl

theorem quotaOnly_ensureWindow : QuotaOnly db (ensureWindow db start scope) := rfl

theorem quotaOnly_countRequest : QuotaOnly db (countRequest db start scope) := rfl

theorem quotaOnly_ensureCounter : QuotaOnly db (ensureCounter db day scope) := rfl

@[simp] theorem quotaCounters_expireLeases :
    (expireLeases db start).quotaCounters = db.quotaCounters := rfl

@[simp] theorem quotaReservations_expireLeases :
    (expireLeases db start).quotaReservations = db.quotaReservations := rfl

@[simp] theorem quotaCounters_ensureWindow :
    (ensureWindow db start scope).quotaCounters = db.quotaCounters := rfl

@[simp] theorem quotaCounters_countRequest :
    (countRequest db start scope).quotaCounters = db.quotaCounters := rfl

@[simp] theorem quotaCounters_ensureCounter : (ensureCounter db day scope).quotaCounters =
    db.quotaCounters.insertIfAbsent ⟨day, scope, 0, 0, 0, 0⟩ := rfl

@[simp] theorem quotaReservations_ensureWindow :
    (ensureWindow db start scope).quotaReservations = db.quotaReservations := rfl

@[simp] theorem quotaReservations_countRequest :
    (countRequest db start scope).quotaReservations = db.quotaReservations := rfl

@[simp] theorem quotaReservations_ensureCounter :
    (ensureCounter db day scope).quotaReservations = db.quotaReservations := rfl

end

/-- The counters of a request exist before they are updated. -/
def ensuredCounters (t : Table QuotaCounter.key) (day : Int) (userID : UserID) (apiKeyID : KeyID) :
    Table QuotaCounter.key :=
  (t.insertIfAbsent ⟨day, .key apiKeyID, 0, 0, 0, 0⟩).insertIfAbsent ⟨day, .user userID, 0, 0, 0, 0⟩

structure QuotaReserved (db : Db) (params : ReserveQuotaParams) (db' : Db)
    (row : QuotaReservation) : Prop where
  row_eq : row = ⟨params.requestID, params.day.getD (dateOf params.now), params.userID,
    params.apiKeyID, params.reservedTokens, params.now, .reserved⟩
  absent : db.quotaReservations.find? params.requestID = none
  reservations : db'.quotaReservations.rows = row :: db.quotaReservations.rows
  counters : CountersMoved
    (ensuredCounters db.quotaCounters row.day params.userID params.apiKeyID) db'.quotaCounters
    row.day params.userID params.apiKeyID (fun _ => true) ⟨1, 0, params.reservedTokens, 0⟩
  frame : QuotaOnly db db'

theorem reserveQuota_ok {params : ReserveQuotaParams}
    (ok : reserveQuota db params = .ok (db', row)) : QuotaReserved db params db' row := by
  unfold reserveQuota at ok
  obtain ⟨_, ok⟩ := check_bind_eq_ok.mp ok
  obtain ⟨_, ok⟩ := check_bind_eq_ok.mp ok
  obtain ⟨_, ok⟩ := check_bind_eq_ok.mp ok
  obtain ⟨_, ok⟩ := check_bind_eq_ok.mp ok
  obtain ⟨_, ok⟩ := check_bind_eq_ok.mp ok
  obtain ⟨moved, moves, ok⟩ := bind_eq_ok.mp ok
  generalize beforeEq : countRequest _ _ _ = before at moves
  obtain ⟨counters, frame⟩ := updateCounters_ok moves
  have first : QuotaOnly db before := by
    rw [← beforeEq]
    refine QuotaOnly.trans ?_ (quotaOnly_countRequest _ _ _)
    refine QuotaOnly.trans ?_ (quotaOnly_countRequest _ _ _)
    refine QuotaOnly.trans ?_ (quotaOnly_ensureCounter _ _ _)
    refine QuotaOnly.trans ?_ (quotaOnly_ensureCounter _ _ _)
    refine QuotaOnly.trans ?_ (quotaOnly_ensureWindow _ _ _)
    exact QuotaOnly.trans (quotaOnly_expireLeases _ _) (quotaOnly_ensureWindow _ _ _)
  have ensured : before.quotaCounters = ensuredCounters db.quotaCounters
      (params.day.getD (dateOf params.now)) params.userID params.apiKeyID := by
    rw [← beforeEq]
    simp only [quotaCounters_countRequest, quotaCounters_ensureCounter, quotaCounters_ensureWindow,
      quotaCounters_expireLeases, ensuredCounters]
  have same : moved.quotaReservations = db.quotaReservations := by
    rw [frame, ← beforeEq]
    simp only [quotaReservations_countRequest, quotaReservations_ensureCounter,
      quotaReservations_ensureWindow, quotaReservations_expireLeases]
  have second : QuotaOnly before moved := by
    unfold QuotaOnly
    rw [frame]
  dsimp only at ok
  split at ok
  · cases ok
  · rename_i reservations inserted
    split at ok
    · cases ok
    · rename_i leases _
      cases ok
      have last : QuotaOnly moved { moved with quotaReservations := reservations, leases } := rfl
      obtain ⟨absent, rows⟩ := Table.insert?_eq_some.mp inserted
      rw [same] at absent rows
      rw [ensured] at counters
      exact ⟨rfl, absent, rows, counters, first.trans (second.trans last)⟩

/-! ## Closing -/

theorem readReservation_ok (ok : readReservation db requestID = .ok row) :
    db.quotaReservations.find? requestID = some row := by
  unfold readReservation at ok
  split at ok
  · cases ok
  · rename_i found
    cases ok
    exact found

/-- What closing a reservation does: its share leaves both counters. -/
structure QuotaClosed (db : Db) (reservation : QuotaReservation) (state : QuotaState) (db' : Db) :
    Prop where
  found : db.quotaReservations.find? reservation.requestID = some reservation
  reserved : reservation.state = .reserved
  counters : ∃ condition by', CountersMoved db.quotaCounters db'.quotaCounters reservation.day
      reservation.userID reservation.apiKeyID condition by' ∧
    by'.tokensReserved = -reservation.reservedTokens ∧
    by'.requestsReserved - by'.requestsCompleted = -1
  reservations : db'.quotaReservations = db.quotaReservations.modify reservation.requestID
    (fun row => { row with state }) (fun _ => rfl)
  frame : QuotaOnly db db'

theorem quotaClosed_of_moved {moved : Db} {reservation : QuotaReservation} (state : QuotaState)
    (found : db.quotaReservations.find? reservation.requestID = some reservation)
    (reserved : reservation.state = .reserved)
    (moves : updateCounters db operation reservation.day reservation.userID reservation.apiKeyID
      condition by' = .ok moved) (tokens : by'.tokensReserved = -reservation.reservedTokens)
    (requests : by'.requestsReserved - by'.requestsCompleted = -1) :
    QuotaClosed db reservation state (closeReservation moved reservation.requestID state) := by
  obtain ⟨counters, frame⟩ := updateCounters_ok moves
  have first : QuotaOnly db moved := by
    unfold QuotaOnly
    rw [frame]
  have second : QuotaOnly moved (closeReservation moved reservation.requestID state) := rfl
  refine ⟨found, reserved, ⟨condition, by', counters, tokens, requests⟩, ?_, first.trans second⟩
  rw [closeReservation, releaseLease, frame]

theorem settleQuota_ok {actualTokens : Int}
    (ok : settleQuota db requestID actualTokens at' = .ok db') :
    ∃ reservation, db.quotaReservations.find? requestID = some reservation ∧
      ((∃ settledAt, reservation.state = .settled actualTokens settledAt ∧ db' = db) ∨
        QuotaClosed db reservation (.settled actualTokens at') db') := by
  obtain ⟨reservation, read, ok⟩ := bind_eq_ok.mp ok
  have found := readReservation_ok read
  have keyEq : reservation.requestID = requestID := Table.key_of_find? found
  refine ⟨reservation, found, ?_⟩
  cases state : reservation.state with
  | settled tokens settledAt =>
    rw [state] at ok
    dsimp only at ok
    split at ok
    · rename_i same
      cases ok
      exact .inl ⟨settledAt, by rw [same], rfl⟩
    · cases ok
  | released at' =>
    rw [state] at ok
    cases ok
  | reserved =>
    rw [state] at ok
    obtain ⟨moved, moves, ok⟩ := bind_eq_ok.mp ok
    cases ok
    subst keyEq
    exact .inr (quotaClosed_of_moved _ found state moves rfl rfl)

theorem releaseQuotaReservation_ok (ok : releaseQuotaReservation db requestID at' = .ok db') :
    ∃ reservation, db.quotaReservations.find? requestID = some reservation ∧
      ((∃ releasedAt, reservation.state = .released releasedAt ∧ db' = db) ∨
        QuotaClosed db reservation (.released at') db') := by
  obtain ⟨reservation, read, ok⟩ := bind_eq_ok.mp ok
  have found := readReservation_ok read
  have keyEq : reservation.requestID = requestID := Table.key_of_find? found
  refine ⟨reservation, found, ?_⟩
  cases state : reservation.state with
  | settled tokens settledAt =>
    rw [state] at ok
    cases ok
  | released releasedAt =>
    rw [state] at ok
    cases ok
    exact .inl ⟨releasedAt, rfl, rfl⟩
  | reserved =>
    rw [state] at ok
    obtain ⟨moved, moves, ok⟩ := bind_eq_ok.mp ok
    cases ok
    subst keyEq
    exact .inr (quotaClosed_of_moved _ found state moves rfl rfl)

end Store
