import Mathlib

/-! # Relays

A relay consumes events one after the other and stops at the first fault. The state that a
fault leaves is kept: what was done before it stays done.
-/

namespace Relay

variable {σ ε φ : Type} (consume : σ → ε → σ × Option φ)

def feed : σ → List ε → σ × Option φ
  | state, [] => (state, none)
  | state, event :: events =>
    match consume state event with
    | (next, none) => feed next events
    | (next, some fault) => (next, some fault)

/-- The events before the fault. -/
def accepted : σ → List ε → List ε
  | _, [] => []
  | state, event :: events =>
    match consume state event with
    | (next, none) => event :: accepted next events
    | (_, some _) => []

/-- The events that were consumed, each with the state that it met. One that ended in a fault is
the last of them. -/
def visited : σ → List ε → List (σ × ε)
  | _, [] => []
  | state, event :: events =>
    match consume state event with
    | (next, none) => (state, event) :: visited next events
    | (_, some _) => [(state, event)]

variable {consume}

variable {next : σ} {event : ε} {fault : φ} {τ : Type}

theorem feed_cons_ok {state : σ} (fine : consume state event = (next, none))
    (events : List ε) : feed consume state (event :: events) = feed consume next events := by
  simp [feed, fine]

theorem feed_cons_fault {state : σ} (faulty : consume state event = (next, some fault))
    (events : List ε) : feed consume state (event :: events) = (next, some fault) := by
  simp [feed, faulty]

theorem accepted_cons_ok {state : σ} (fine : consume state event = (next, none)) (events : List ε) :
    accepted consume state (event :: events) = event :: accepted consume next events := by
  simp [accepted, fine]

theorem accepted_cons_fault {state : σ} (faulty : consume state event = (next, some fault))
    (events : List ε) : accepted consume state (event :: events) = [] := by
  simp [accepted, faulty]

theorem visited_cons_ok {state : σ} (fine : consume state event = (next, none)) (events : List ε) :
    visited consume state (event :: events) = (state, event) :: visited consume next events := by
  simp [visited, fine]

theorem visited_cons_fault {state : σ} (faulty : consume state event = (next, some fault))
    (events : List ε) : visited consume state (event :: events) = [(state, event)] := by
  simp [visited, faulty]

theorem feed_preserves_of_mem {P : σ → Prop} {events : List ε}
    (keeps : ∀ state, ∀ event ∈ events, P state → P (consume state event).1)
    {state : σ} (start : P state) : P (feed consume state events).1 := by
  induction events generalizing state with
  | nil => exact start
  | cons event events ih =>
    have next := keeps state event List.mem_cons_self start
    cases step : consume state event with
    | mk after fault =>
      rw [step] at next
      cases fault with
      | none =>
        rw [feed_cons_ok step]
        exact ih (fun state event member => keeps state event (.tail _ member)) next
      | some fault => rw [feed_cons_fault step]; exact next

theorem feed_preserves {P : σ → Prop} (keeps : ∀ state event, P state → P (consume state event).1)
    {state : σ} (start : P state) (events : List ε) : P (feed consume state events).1 :=
  feed_preserves_of_mem (fun state event _ => keeps state event) start

theorem fine_of_accepted {state : σ} {events : List ε}
    (member : event ∈ accepted consume state events) :
    ∃ before after, consume before event = (after, none) := by
  induction events generalizing state with
  | nil => cases member
  | cons first events ih =>
    cases step : consume state first with
    | mk after fault =>
      cases fault with
      | none =>
        rw [accepted_cons_ok step, List.mem_cons] at member
        rcases member with rfl | later
        · exact ⟨state, after, step⟩
        · exact ih later
      | some fault =>
        rw [accepted_cons_fault step] at member
        cases member

/-- A trace that each accepted event lengthens and no fault changes is the trace of the accepted
events. -/
theorem feed_trace {trace : σ → List τ} {mark : ε → List τ}
    (fine : ∀ {state event next}, consume state event = (next, none) →
      trace next = trace state ++ mark event)
    (faulty : ∀ {state event next fault}, consume state event = (next, some fault) →
      trace next = trace state)
    (state : σ) (events : List ε) :
    trace (feed consume state events).1 =
      trace state ++ (accepted consume state events).flatMap mark := by
  induction events generalizing state with
  | nil => simp [feed, accepted]
  | cons event events ih =>
    cases step : consume state event with
    | mk after fault =>
      cases fault with
      | none =>
        rw [feed_cons_ok step, accepted_cons_ok step, ih, fine step]
        simp
      | some fault =>
        rw [feed_cons_fault step, accepted_cons_fault step, faulty step]
        simp

/-- What the latest report replaces, be its event accepted in the end or not, is the last of the
reports. -/
theorem feed_latest {latest : σ → Option τ} {report : σ → ε → Option τ}
    (step : ∀ state event, latest (consume state event).1 = (report state event).or (latest state))
    (state : σ) (events : List ε) :
    latest (feed consume state events).1 =
      ((visited consume state events).filterMap fun met => report met.1 met.2).getLast?.or
        (latest state) := by
  induction events generalizing state with
  | nil => simp [feed, visited]
  | cons event events ih =>
    have replaced := step state event
    cases outcome : consume state event with
    | mk next fault =>
      rw [outcome] at replaced
      cases fault with
      | none =>
        rw [feed_cons_ok outcome, visited_cons_ok outcome, ih, replaced]
        cases told : report state event with
        | none => simp [told]
        | some value =>
          simp only [List.filterMap_cons, told, List.getLast?_cons]
          cases ((visited consume next events).filterMap _).getLast? <;> rfl
      | some fault =>
        rw [feed_cons_fault outcome, visited_cons_fault outcome, replaced]
        cases told : report state event <;> simp [told]

/-! ## Reports that are overlooked -/

section Overlooked

variable {τ : Type} (carries : ε → Option τ) (overlooked : ε → Bool)

def latest (events : List ε) : Option τ := (events.filterMap carries).getLast?

def seen (event : ε) : Option τ := if overlooked event then none else carries event

/-- The last event with a report is not overlooked, or it only repeats the last report that was
seen. -/
def LatestSeen (events : List ε) : Prop :=
  ∀ before event after, events = before ++ event :: after → carries event ≠ none →
    (∀ later ∈ after, carries later = none) → overlooked event = true →
    latest (seen carries overlooked) before = carries event

variable {carries overlooked}

theorem latest_snoc (events : List ε) (event : ε) :
    latest carries (events ++ [event]) = (carries event).or (latest carries events) := by
  cases told : carries event <;> simp [latest, List.filterMap_append, told]

/-- The observer knows the last report exactly if that report is not overlooked. -/
theorem latest_seen_iff (events : List ε) :
    latest (seen carries overlooked) events = latest carries events ↔
      LatestSeen carries overlooked events := by
  induction events using List.reverseRecOn with
  | nil =>
    refine ⟨fun _ before event after split => ?_, fun _ => rfl⟩
    simp at split
  | append_singleton events last ih =>
    rw [latest_snoc, latest_snoc]
    cases told : carries last with
    | none =>
      rw [seen, told, ite_self, Option.none_or, Option.none_or, ih]
      constructor
      · intro known before event after split carried none
        cases after using List.reverseRecOn with
        | nil =>
          obtain ⟨-, rfl⟩ := List.append_inj' split rfl |>.imp_right List.singleton_inj.mp
          exact absurd told carried
        | append_singleton after later =>
          rw [← List.cons_append, ← List.append_assoc] at split
          obtain ⟨split, -⟩ := List.append_inj' split rfl
          exact known before event after split carried
            fun other member => none other (List.mem_append_left _ member)
      · intro known before event after split carried none
        refine known before event (after ++ [last]) (by simp [split]) carried ?_
        intro other member
        rcases List.mem_append.mp member with inside | rest
        · exact none other inside
        · rwa [List.mem_singleton.mp rest]
    | some value =>
      have only : ∀ before event after, events ++ [last] = before ++ event :: after →
          (∀ later ∈ after, carries later = none) → before = events ∧ event = last := by
        intro before event after split none
        cases after using List.reverseRecOn with
        | nil =>
          obtain ⟨same, lasts⟩ := List.append_inj' split rfl
          exact ⟨same.symm, (List.singleton_inj.mp lasts).symm⟩
        | append_singleton after later =>
          rw [← List.cons_append, ← List.append_assoc] at split
          obtain ⟨-, lasts⟩ := List.append_inj' split rfl
          rw [← List.singleton_inj.mp lasts] at none
          rw [none last (by simp)] at told
          cases told
      by_cases missed : overlooked last = true
      · rw [seen, if_pos missed, Option.none_or, Option.some_or]
        constructor
        · intro repeated before event after split carried none _
          obtain ⟨rfl, rfl⟩ := only before event after split none
          rw [repeated, told]
        · intro known
          rw [known events last [] rfl (by simp [told]) (by simp) missed, told]
      · rw [seen, if_neg missed, told, Option.some_or, Option.some_or]
        refine ⟨fun _ before event after split carried none gone => ?_, fun _ => rfl⟩
        obtain ⟨rfl, rfl⟩ := only before event after split none
        exact absurd gone missed

end Overlooked

end Relay
