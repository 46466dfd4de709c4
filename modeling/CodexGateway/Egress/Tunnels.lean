import CodexGateway.Egress.RuntimeSteps

/-! # Tunnels outlive snapshots

Installations, prunings, tunnels and probes in any order, with any answer of the
controller. A node with a tunnel stays installed at its port and is part of every
configuration; a failed installation changes no map.
-/

namespace Egress

/-- The runtime with the objects that open tunnels and running probes hold. -/
structure System where
  runtime : Runtime
  tunnels : List Nat
  probes : List Nat

def System.held (s : System) : List Nat := s.tunnels ++ s.probes

def System.start (instanceID : Text) : System := ⟨newRuntime instanceID, [], []⟩

inductive Event where
  | install (snapshot : Snapshot) (answers : Answers)
  | prune (apply : Bool)
  | connect (request : ConnectRequest)
  | disconnect (pointer : Nat)
  | beginProbe (nodeID : Text) (revision : Int)
  | endProbe (pointer : Nat)

/-- The system after an event, the error it was answered with, and the configurations
it sent. -/
structure Effect where
  system : System
  error : Option String
  sent : List Configuration

section Runs

variable (parseAddr : Text → Option Bool) (routeToken : Text → Text → Text)
  (digest : Snapshot → Text) (key : Text)

def System.step (s : System) : Event → Effect
  | .install snapshot answers =>
    let out := s.runtime.install parseAddr routeToken digest key snapshot answers
    ⟨{ s with runtime := out.runtime }, out.error, out.sent⟩
  | .prune apply =>
    let out := s.runtime.prune apply
    ⟨{ s with runtime := out.runtime }, out.error, out.sent⟩
  | .connect request =>
    match s.runtime.connect request with
    | .error err => ⟨s, some err, []⟩
    | .ok (runtime, pointer) => ⟨{ s with runtime, tunnels := pointer :: s.tunnels }, none, []⟩
  | .disconnect pointer =>
    if pointer ∈ s.tunnels then
      ⟨{ s with
        runtime := s.runtime.count pointer (-1), tunnels := s.tunnels.erase pointer }, none, []⟩
    else ⟨s, none, []⟩
  | .beginProbe nodeID revision =>
    match s.runtime.beginProbe s.probes.length nodeID revision with
    | .error err => ⟨s, some err, []⟩
    | .ok (runtime, pointer) => ⟨{ s with runtime, probes := pointer :: s.probes }, none, []⟩
  | .endProbe pointer =>
    if pointer ∈ s.probes then
      ⟨{ s with
        runtime := s.runtime.count pointer (-1), probes := s.probes.erase pointer }, none, []⟩
    else ⟨s, none, []⟩

def egressRun (s : System) (events : List Event) : System :=
  Transaction.run (fun s event => (s.step parseAddr routeToken digest key event).system) s events

def System.Sound (s : System) : Prop := s.runtime.Sound s.held

theorem System.sound_start (instanceID : Text) : (System.start instanceID).Sound := by
  refine ⟨⟨?_, ?_⟩, ?_, ?_, ?_⟩
  · intro row member
    cases member
  · intro row member
    cases member
  · intro object member
    cases member
  · intro pointer member
    cases member
  · intro route member
    cases member

theorem System.Sound.step {s : System} (sound : s.Sound) (event : Event) :
    (s.step parseAddr routeToken digest key event).system.Sound := by
  cases event with
  | install snapshot answers => exact Runtime.Sound.install sound snapshot answers
  | prune apply => exact Runtime.Sound.prune sound apply
  | connect request =>
    rw [System.step]
    cases accepted : s.runtime.connect request with
    | error err => exact sound
    | ok result =>
      obtain ⟨runtime, pointer⟩ := result
      obtain ⟨id, token, -, -, found, rfl⟩ := Runtime.connect_ok accepted
      obtain ⟨row, member, points, -⟩ := sound.routed _ (Table.mem_of_find? found)
      exact Runtime.Sound.hold sound ⟨row, member, points⟩ (List.Perm.refl _)
  | disconnect pointer =>
    rw [System.step]
    split
    next open' =>
      exact Runtime.Sound.release sound ((List.perm_cons_erase open').append_right _)
    · exact sound
  | beginProbe nodeID revision =>
    rw [System.step]
    cases accepted : s.runtime.beginProbe s.probes.length nodeID revision with
    | error err => exact sound
    | ok result =>
      obtain ⟨runtime, pointer⟩ := result
      obtain ⟨installed, rfl⟩ := Runtime.beginProbe_ok accepted
      exact Runtime.Sound.hold sound installed List.perm_middle
  | endProbe pointer =>
    rw [System.step]
    split
    next running =>
      exact Runtime.Sound.release sound
        (((List.perm_cons_erase running).append_left _).trans List.perm_middle)
    · exact sound

/-- Between two events: ports and counts are right, and what is in use is installed. -/
structure System.KeepsTunnels (s : System) : Prop where
  distinct : ∀ row ∈ s.runtime.nodes.rows, ∀ other ∈ s.runtime.nodes.rows, row.key ≠ other.key →
    ∀ object object', s.runtime.heap.find? row.pointer = some object →
      s.runtime.heap.find? other.pointer = some object' → object.port ≠ object'.port
  listening : ∀ row ∈ s.runtime.nodes.rows, ∃ object,
    s.runtime.heap.find? row.pointer = some object ∧ object.node.key = row.key ∧
      20000 ≤ object.port ∧ object.port ≤ 60000
  counted : ∀ object ∈ s.runtime.heap.rows, 0 ≤ object.active ∧
    object.active = s.tunnels.count object.pointer + s.probes.count object.pointer
  installed : ∀ object ∈ s.runtime.heap.rows, 0 < object.active →
    ∃ row ∈ s.runtime.nodes.rows, row.pointer = object.pointer ∧ row.key = object.node.key
  routed : ∀ route ∈ s.runtime.routes.rows, ∃ row ∈ s.runtime.nodes.rows,
    row.pointer = route.pointer ∧ row.key ∈ s.runtime.desired

/-- Of one event: installed nodes keep their ports, what is in use is part of what is
sent, and versions do not go back. -/
structure Effect.KeepsTunnels (s : System) (effect : Effect) : Prop where
  port : ∀ row ∈ s.runtime.nodes.rows, ∀ row' ∈ effect.system.runtime.nodes.rows,
    row'.key = row.key → ∀ object object', s.runtime.heap.find? row.pointer = some object →
      effect.system.runtime.heap.find? row'.pointer = some object' → object'.port = object.port
  sent : ∀ configuration ∈ effect.sent, ∀ object ∈ s.runtime.heap.rows, 0 < object.active →
    object.listener ∈ configuration
  version : s.runtime.status.appliedVersion ≤ effect.system.runtime.status.appliedVersion

theorem System.Sound.installed {s : System} (sound : s.Sound) {object : NodeRuntime}
    (member : object ∈ s.runtime.heap.rows) (active : 0 < object.active) :
    ∃ row ∈ s.runtime.nodes.rows, row.pointer = object.pointer ∧ row.key = object.node.key ∧
      s.runtime.active row.pointer = true := by
  have counted := sound.counted object member
  have positive : 0 < s.held.count object.pointer := by omega
  have held := List.count_pos_iff.mp positive
  obtain ⟨row, rowMember, named⟩ := sound.kept _ held
  obtain ⟨other, found, key, -⟩ := sound.mapped.object row rowMember
  rw [named, Table.find?_of_mem member] at found
  cases found
  exact ⟨row, rowMember, named, key.symm, sound.active rowMember (by rw [named]; exact held)⟩

theorem System.Sound.keepsTunnels {s : System} (sound : s.Sound) : s.KeepsTunnels := by
  refine ⟨?_, sound.mapped.object, ?_, ?_, sound.routed⟩
  · intro row member other member' different object object' found found' samePort
    exact different (congrArg Installed.key
      (sound.mapped.apart row member other member' object object' found found' samePort))
  · intro object member
    have counted := sound.counted object member
    rw [System.held, List.count_append] at counted
    exact ⟨by omega, by omega⟩
  · intro object member active
    obtain ⟨row, rowMember, named, key, -⟩ := sound.installed member active
    exact ⟨row, rowMember, named, key⟩

theorem System.Sound.continues {s : System} (sound : s.Sound) (event : Event) :
    let effect := s.step parseAddr routeToken digest key event
    Continues s.runtime effect.system.runtime effect.sent := by
  cases event with
  | install snapshot answers =>
    exact continues_install parseAddr routeToken digest key sound snapshot answers
  | prune apply => exact continues_prune s.runtime apply
  | connect request =>
    rw [System.step]
    cases accepted : s.runtime.connect request with
    | error err => exact Continues.refl _
    | ok result =>
      obtain ⟨runtime, pointer⟩ := result
      obtain ⟨-, -, -, -, -, rfl⟩ := Runtime.connect_ok accepted
      exact continues_count _ _ _
  | disconnect pointer =>
    rw [System.step]
    split
    · exact continues_count _ _ _
    · exact Continues.refl _
  | beginProbe nodeID revision =>
    rw [System.step]
    cases accepted : s.runtime.beginProbe s.probes.length nodeID revision with
    | error err => exact Continues.refl _
    | ok result =>
      obtain ⟨runtime, pointer⟩ := result
      obtain ⟨-, rfl⟩ := Runtime.beginProbe_ok accepted
      exact continues_count _ _ _
  | endProbe pointer =>
    rw [System.step]
    split
    · exact continues_count _ _ _
    · exact Continues.refl _

theorem System.Sound.effect {s : System} (sound : s.Sound) (event : Event) :
    (s.step parseAddr routeToken digest key event).KeepsTunnels s := by
  have continues := sound.continues parseAddr routeToken digest key event
  refine ⟨?_, ?_, continues.version⟩
  · intro row member row' member' same object object' found found'
    exact continues.port member member' same found found'
  · intro configuration sent object member active
    obtain ⟨row, rowMember, named, -, busy⟩ := sound.installed member active
    refine continues.sent configuration sent row rowMember busy object ?_
    rw [named]
    exact Table.find?_of_mem member

/-- A failed installation changes neither the map of nodes nor the routes nor the
applied version. -/
theorem install_failed (r : Runtime) (snapshot : Snapshot) (answers : Answers) :
    let out := r.install parseAddr routeToken digest key snapshot answers
    out.error ≠ none → out.runtime.nodes = r.nodes ∧ out.runtime.routes = r.routes ∧
      out.runtime.status.appliedVersion = r.status.appliedVersion := by
  dsimp only
  intro failed
  rcases install_cases parseAddr routeToken digest key r snapshot answers with
    ⟨same, -⟩ | ⟨c, -, -, -, ⟨applied, -⟩ | ⟨restored, -, abandoned⟩⟩
  · rw [same]
    exact ⟨rfl, rfl, rfl⟩
  · rw [applied] at failed
    exact absurd rfl failed
  · rw [abandoned]
    exact ⟨rfl, rfl, rfl⟩

/-- In every run, ports, counts and routes are right in every state and every event keeps
the tunnels; a failed installation leaves the maps and the version alone. -/
theorem egressRun_keepsTunnels (instanceID : Text) (events : List Event) :
    let s := egressRun parseAddr routeToken digest key (.start instanceID) events
    s.KeepsTunnels ∧
    (∀ event, (s.step parseAddr routeToken digest key event).KeepsTunnels s) ∧
    ∀ snapshot answers,
      let effect := s.step parseAddr routeToken digest key (.install snapshot answers)
      effect.error ≠ none → effect.system.runtime.nodes = s.runtime.nodes ∧
        effect.system.runtime.routes = s.runtime.routes ∧
        effect.system.runtime.status.appliedVersion = s.runtime.status.appliedVersion := by
  have sound : (egressRun parseAddr routeToken digest key (.start instanceID) events).Sound :=
    Transaction.run_preserves (System.sound_start instanceID)
      (fun s event before => before.step parseAddr routeToken digest key event) events
  exact ⟨sound.keepsTunnels, fun event => sound.effect parseAddr routeToken digest key event,
    fun snapshot answers => install_failed parseAddr routeToken digest key _ snapshot answers⟩

end Runs

end Egress
