import Mathlib.Data.List.AList
import CodexGateway.Library.Transaction
import CodexGateway.Store.Quota

/-! # The slots of a managed account

Requests of one conversation share a slot of the account that serves them, and a request
without a conversation takes its own. Each section under the mutex of the manager is a step.
-/

open Store (Time minute)

namespace Antigravity

/-- A cooldown that is not set is over. -/
structure ManagedAccount where
  enabled : Bool
  ready : Bool
  models : List Text
  refreshing : Bool
  active : Int
  conversations : AList fun _ : Text => Int
  unattributed : Int
  cooldown : Option Time

namespace ManagedAccount

variable (a : ManagedAccount) (conversation : Text)

def count : Int := (a.conversations.lookup conversation).getD 0

def activeSlots : Int := a.conversations.keys.length + a.unattributed

def canAcquire (limit : Int) : Bool :=
  0 < limit && (0 < a.count conversation || a.activeSlots < limit)

def reserve : ManagedAccount :=
  { a with
    active := a.active + 1
    unattributed := if conversation = [] then a.unattributed + 1 else a.unattributed
    conversations :=
      if conversation = [] then a.conversations
      else a.conversations.insert conversation (a.count conversation + 1) }

def release : ManagedAccount :=
  { a with
    active := a.active - 1
    unattributed := if conversation = [] then a.unattributed - 1 else a.unattributed
    conversations :=
      if conversation = [] then a.conversations
      else if 1 < a.count conversation then
        a.conversations.insert conversation (a.count conversation - 1)
      else a.conversations.erase conversation }

def cooling (now : Time) : Bool := a.cooldown.any fun cooldown => decide (now < cooldown)

/-- What the last section of `acquire` asks of the selected account. -/
def admits (model : Text) (limit : Int) (tried : Bool) (now : Time) : Bool :=
  a.enabled && a.ready && decide (model ∈ a.models) && !a.refreshing && !tried &&
    a.canAcquire conversation limit && !a.cooling now

/-- What `RunStream` makes of a success, or of the status of a failed attempt. -/
def attempted (now : Time) (status : Option Nat) : ManagedAccount :=
  { a with
    ready := match status with
      | none => a.ready || !a.cooling now
      | some status => a.ready && decide (status ∉ [401, 403, 503])
    cooldown := match status with
      | none => if a.cooling now then a.cooldown else none
      | some status => if status ∈ [429, 401, 403, 503] then some (now + minute) else a.cooldown }

/-- The end of a check in `Refresh`. -/
def refreshed (models : List Text) (failed : Bool) : ManagedAccount :=
  let ready := !failed && decide (models ≠ [])
  { a with models := if ready then models else [], ready, refreshing := false }

end ManagedAccount

/-- An account, the conversations of the reservations that are not released, and the largest
limit that one was admitted under. -/
structure Serving where
  account : ManagedAccount
  holders : List Text
  limit : Int

inductive Section where
  | acquire (model conversation : Text) (limit : Int) (tried : Bool) (now : Time)
  | attempted (status : Option Nat) (now : Time)
  | release (conversation : Text)
  | beginRefresh (now : Time)
  | endRefresh (models : List Text) (failed : Bool)
  | setEnabled (enabled : Bool)

/-- The section reads the clock within a minute of a failure. -/
def Section.Within (failedAt : Time) : Section → Prop
  | .acquire _ _ _ _ now | .attempted _ now | .beginRefresh now =>
    failedAt ≤ now ∧ now < failedAt + minute
  | _ => True

namespace Serving

open ManagedAccount

def start (enabled ready : Bool) (models : List Text) (cooldown : Option Time) : Serving :=
  ⟨⟨enabled, ready, models, false, 0, ∅, 0, cooldown⟩, [], 0⟩

/-- A reservation is released once, by the request that holds it. -/
def step (s : Serving) : Section → Serving
  | .acquire model conversation limit tried now =>
    if s.account.admits conversation model limit tried now then
      ⟨s.account.reserve conversation, conversation :: s.holders, max s.limit limit⟩
    else s
  | .attempted status now => { s with account := s.account.attempted now status }
  | .release conversation =>
    if conversation ∈ s.holders then
      ⟨s.account.release conversation, s.holders.erase conversation, s.limit⟩
    else s
  | .beginRefresh now =>
    if s.account.active ≠ 0 ∨ s.account.refreshing ∨ s.account.cooling now then s
    else { s with account := { s.account with refreshing := true } }
  | .endRefresh models failed => { s with account := s.account.refreshed models failed }
  | .setEnabled enabled => { s with account := { s.account with enabled } }

/-- What the account counts is what is held, and a check never overlaps with a request. -/
structure Accounted (s : Serving) : Prop where
  active : s.account.active = s.holders.length
  unattributed : s.account.unattributed = s.holders.count []
  unnamed : s.account.conversations.lookup [] = none
  named : ∀ conversation, conversation ≠ [] → s.account.conversations.lookup conversation =
    if conversation ∈ s.holders then some (s.holders.count conversation : Int) else none
  within : s.account.activeSlots ≤ s.limit
  refreshing : s.account.refreshing = true → s.holders = []

variable {s : Serving} {conversation : Text} {failedAt now : Time}

theorem Accounted.count_eq (accounted : s.Accounted) (named : conversation ≠ []) :
    s.account.count conversation = s.holders.count conversation := by
  rw [count, accounted.named conversation named]
  split <;> simp_all [List.count_eq_zero_of_not_mem]

theorem Accounted.mem_keys (accounted : s.Accounted) (named : conversation ≠ []) :
    conversation ∈ s.account.conversations.keys ↔ conversation ∈ s.holders := by
  rw [← AList.mem_keys, ← AList.lookup_isSome, accounted.named conversation named]
  split <;> simp_all

/-- A new slot is opened only below the limit. -/
theorem Accounted.activeSlots_reserve (accounted : s.Accounted) {limit : Int}
    (room : s.account.canAcquire conversation limit = true) :
    (s.account.reserve conversation).activeSlots ≤ max s.account.activeSlots limit := by
  simp only [canAcquire, Bool.and_eq_true, Bool.or_eq_true, decide_eq_true_eq] at room
  rcases eq_or_ne conversation [] with rfl | named
  · have opened : s.account.activeSlots < limit := by
      simpa [count, accounted.unnamed] using room.2
    simp only [reserve, activeSlots, if_true] at opened ⊢
    omega
  · rw [accounted.count_eq named] at room
    have keys := accounted.mem_keys named
    simp only [reserve, activeSlots, named, if_false,
      AList.keys_insert, List.length_cons, List.length_erase, keys] at room ⊢
    split
    · have := List.length_pos_of_mem (keys.mpr ‹_›)
      omega
    · rw [List.count_eq_zero_of_not_mem ‹_›] at room
      omega

theorem Accounted.activeSlots_release (accounted : s.Accounted) (held : conversation ∈ s.holders) :
    (s.account.release conversation).activeSlots ≤ s.account.activeSlots := by
  rcases eq_or_ne conversation [] with rfl | named
  · simp [release, activeSlots]
  · have kept := (accounted.mem_keys named).mpr held
    have := List.length_pos_of_mem kept
    simp only [release, activeSlots, named, if_false]
    split
    · simp [kept]
      omega
    · simp [kept]

theorem Accounted.reserved (accounted : s.Accounted) {limit : Int}
    (room : s.account.canAcquire conversation limit = true)
    (idle : s.account.refreshing = false) :
    Accounted ⟨s.account.reserve conversation, conversation :: s.holders, max s.limit limit⟩ := by
  refine ⟨by simp [reserve, accounted.active], ?_, ?_, fun other named => ?_,
    (accounted.activeSlots_reserve room).trans (max_le_max_right _ accounted.within), ?_⟩
  · simp only [reserve, accounted.unattributed]
    split <;> simp_all
  · rcases eq_or_ne conversation [] with rfl | new
    · exact accounted.unnamed
    · simp [reserve, new, new.symm, accounted.unnamed]
  · have before := accounted.named other named
    simp only [reserve]
    rcases eq_or_ne other conversation with rfl | different
    · simp [named, accounted.count_eq]
    · split <;> simp_all [different.symm]
  · simp [reserve, idle]

theorem Accounted.released (accounted : s.Accounted) (held : conversation ∈ s.holders) :
    Accounted ⟨s.account.release conversation, s.holders.erase conversation, s.limit⟩ := by
  have positive := List.length_pos_of_mem held
  have counted := List.count_pos_iff.mpr held
  refine ⟨?_, ?_, ?_, fun other named => ?_,
    (accounted.activeSlots_release held).trans accounted.within, fun busy => ?_⟩
  · simp only [release, accounted.active, List.length_erase_of_mem held]
    omega
  · simp only [release, accounted.unattributed]
    split <;> simp_all
  · rcases eq_or_ne conversation [] with rfl | old
    · exact accounted.unnamed
    · simp only [release, old, if_false]
      split <;> simp [old.symm, accounted.unnamed]
  · have before := accounted.named other named
    simp only [release]
    rcases eq_or_ne other conversation with rfl | different
    · simp only [named, if_false, accounted.count_eq named, ← List.count_pos_iff, List.count_erase_self]
      split_ifs <;> simp <;> omega
    · split_ifs <;> simp_all
  · simp [accounted.refreshing busy] at held

theorem Accounted.step (accounted : s.Accounted) (taken : Section) : (s.step taken).Accounted := by
  cases taken with
  | acquire model conversation limit tried now =>
    simp only [Serving.step]
    split
    · rename_i admitted
      simp only [admits, Bool.and_eq_true, Bool.not_eq_true'] at admitted
      exact accounted.reserved admitted.1.2 admitted.1.1.1.2
    · exact accounted
  | attempted status now => exact { accounted with }
  | release conversation =>
    simp only [Serving.step]
    split
    · exact accounted.released ‹_›
    · exact accounted
  | beginRefresh now =>
    simp only [Serving.step]
    split
    · exact accounted
    · have free : s.holders.length = 0 := by
        have := accounted.active
        omega
      exact { accounted with refreshing := fun _ => List.length_eq_zero_iff.mp free }
  | endRefresh models failed => exact { accounted with refreshing := nofun }
  | setEnabled enabled => exact { accounted with }

/-- In whatever order the sections of requests, checks and the administration take the mutex. -/
theorem accounted_of_sections (enabled ready : Bool) (models : List Text) (cooldown : Option Time)
    (sections : List Section) :
    (Transaction.run step (start enabled ready models cooldown) sections).Accounted := by
  apply Transaction.run_preserves
  · exact ⟨rfl, rfl, rfl, fun _ _ => rfl, le_refl _, fun _ => rfl⟩
  · exact fun s taken accounted => accounted.step taken

def Cools (failedAt : Time) (s : Serving) : Prop :=
  ∃ ends ∈ s.account.cooldown, failedAt + minute ≤ ends

theorem Cools.cooling (cools : s.Cools failedAt) (early : now < failedAt + minute) :
    s.account.cooling now = true := by
  obtain ⟨ends, cooldown, le⟩ := cools
  simp only [ManagedAccount.cooling, Option.mem_def.mp cooldown, Option.any_some, decide_eq_true_eq]
  exact early.trans_le le

theorem Cools.step (cools : s.Cools failedAt) {taken : Section} (within : taken.Within failedAt) :
    (s.step taken).Cools failedAt := by
  cases taken with
  | acquire model conversation limit tried now =>
    simpa [Serving.step, admits, cools.cooling within.2] using cools
  | attempted status now =>
    simp only [Serving.step, Cools, ManagedAccount.attempted, cools.cooling within.2, if_true]
    cases status with
    | none => exact cools
    | some status =>
      dsimp only
      split
      · exact ⟨_, rfl, add_le_add_left within.1 _⟩
      · exact cools
  | release conversation =>
    simp only [Serving.step]
    split <;> exact cools
  | beginRefresh now => simpa [Serving.step, cools.cooling within.2] using cools
  | endRefresh | setEnabled => exact cools

/-- Within a minute of a failure the account admits no request, even if a sibling succeeds late. -/
theorem admits_of_failed {status : Nat} {sections : List Section}
    (failed : status ∈ [429, 401, 403, 503]) (within : ∀ taken ∈ sections, taken.Within failedAt)
    (early : now < failedAt + minute) (model : Text) (limit : Int) (tried : Bool) :
    (Transaction.run step (s.step (.attempted (some status) failedAt)) sections).account.admits
      conversation model limit tried now = false := by
  have start : (s.step (.attempted (some status) failedAt)).Cools failedAt :=
    ⟨_, if_pos failed, le_refl _⟩
  generalize s.step _ = next at start ⊢
  induction sections generalizing next with
  | nil => simp [Transaction.run, admits, start.cooling early]
  | cons taken sections ih =>
    obtain ⟨here, later⟩ := List.forall_mem_cons.mp within
    exact ih later _ (start.step here)

theorem admits_of_failed_late :
    (Transaction.run step ((start true true [['m']] none).step (.attempted (some 429) 0))
      [.attempted none 1]).account.admits [] ['m'] 1 false 2 = false :=
  admits_of_failed (by decide) (by simp [Section.Within, minute, Store.second]) (by decide) _ _ _

end Serving

end Antigravity
