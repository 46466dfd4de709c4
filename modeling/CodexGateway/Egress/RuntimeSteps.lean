import CodexGateway.Egress.Runtime
import CodexGateway.Library.Transaction

/-! # Steps of the egress runtime

What an installation, a pruning and the start or end of a tunnel do to the map of nodes:
the invariant they keep, and how the runtime after a step continues the one before it.
-/

namespace Egress

variable {heap heap' : Serial NodeRuntime.pointer} {nodes : List Node} {row : Installed}
  {held' : List Nat}

/-! ## Maps of nodes -/

/-- The second heap has every object of the first, with its node and its port. -/
def Keeps (heap heap' : Serial NodeRuntime.pointer) : Prop :=
  ∀ pointer object, heap.find? pointer = some object →
    ∃ object', heap'.find? pointer = some object' ∧
      object'.node = object.node ∧ object'.port = object.port

theorem Keeps.refl (heap : Serial NodeRuntime.pointer) : Keeps heap heap :=
  fun _ object found => ⟨object, found, rfl, rfl⟩

theorem Keeps.trans {a b c : Serial NodeRuntime.pointer} (first : Keeps a b) (rest : Keeps b c) :
    Keeps a c := by
  intro pointer object found
  obtain ⟨middle, foundMiddle, node, port⟩ := first pointer object found
  obtain ⟨last, foundLast, node', port'⟩ := rest pointer middle foundMiddle
  exact ⟨last, foundLast, node'.trans node, port'.trans port⟩

theorem Keeps.port (keeps : Keeps heap heap') {pointer : Nat} {object object' : NodeRuntime}
    (found : heap.find? pointer = some object) (found' : heap'.find? pointer = some object') :
    object'.port = object.port := by
  obtain ⟨new, newFound, -, port⟩ := keeps pointer object found
  cases newFound.symm.trans found'
  exact port

/-- Every entry has an object of its key with a port in range, and no two entries share
a port. -/
structure WellMapped (heap : Serial NodeRuntime.pointer) (rows : List Installed) : Prop where
  object : ∀ row ∈ rows, ∃ object, heap.find? row.pointer = some object ∧
    object.node.key = row.key ∧ 20000 ≤ object.port ∧ object.port ≤ 60000
  apart : ∀ row ∈ rows, ∀ other ∈ rows, ∀ object object',
    heap.find? row.pointer = some object → heap.find? other.pointer = some object' →
      object.port = object'.port → row = other

variable {c c' : Candidate} {rows : List Installed} {object : NodeRuntime} {r r' : Runtime}
  {node : Node} {held : List Nat} {pointer : Nat}

theorem WellMapped.mono {rows' : List Installed} (mapped : WellMapped heap rows)
    (fewer : ∀ row ∈ rows', row ∈ rows) : WellMapped heap rows' :=
  ⟨fun row member => mapped.object row (fewer row member),
    fun row member other member' => mapped.apart row (fewer row member) other (fewer other member')⟩

theorem WellMapped.keeps {rows : List Installed} (mapped : WellMapped heap rows)
    (keeps : Keeps heap heap') : WellMapped heap' rows := by
  refine ⟨?_, ?_⟩
  · intro row member
    obtain ⟨object, found, named, range⟩ := mapped.object row member
    obtain ⟨object', found', node, port⟩ := keeps _ _ found
    exact ⟨object', found', by rw [node, named], by rw [port]; exact range⟩
  · intro row member other member' object object' found found' samePort
    obtain ⟨old, oldFound, -⟩ := mapped.object row member
    obtain ⟨old', oldFound', -⟩ := mapped.object other member'
    refine mapped.apart row member other member' old old' oldFound oldFound' ?_
    rw [← keeps.port oldFound found, ← keeps.port oldFound' found', samePort]

theorem WellMapped.cons (mapped : WellMapped heap rows)
    (found : heap.find? row.pointer = some object) (named : object.node.key = row.key)
    (low : 20000 ≤ object.port) (high : object.port ≤ 60000)
    (fresh : ∀ other ∈ rows, ∀ object', heap.find? other.pointer = some object' →
      object'.port ≠ object.port) : WellMapped heap (row :: rows) := by
  refine ⟨?_, ?_⟩
  · intro other member
    rcases List.mem_cons.mp member with rfl | old
    · exact ⟨object, found, named, low, high⟩
    · exact mapped.object other old
  · intro a memberA b memberB objectA objectB foundA foundB samePort
    rcases List.mem_cons.mp memberA with rfl | oldA <;>
      rcases List.mem_cons.mp memberB with rfl | oldB
    · rfl
    · cases found.symm.trans foundA
      exact absurd samePort.symm (fresh b oldB objectB foundB)
    · cases found.symm.trans foundB
      exact absurd samePort (fresh a oldA objectA foundA)
    · exact mapped.apart a oldA b oldB objectA objectB foundA foundB samePort

theorem freePort_some {used : List Nat} {port : Nat} (free : freePort used = some port) :
    port ∉ used ∧ 20000 ≤ port ∧ port ≤ 60000 := by
  have unused := List.find?_some free
  have member := List.mem_of_find?_eq_some free
  rw [List.mem_range'_1] at member
  exact ⟨by simpa using unused, by omega, by omega⟩

/-! ## Candidates -/

/-- What a candidate of an installation is at every node. -/
structure Candidate.From (r : Runtime) (c : Candidate) : Prop where
  keeps : Keeps r.heap c.heap
  idle : ∀ object ∈ c.heap.rows, object ∈ r.heap.rows ∨
    object.active = 0 ∧ r.heap.next ≤ object.pointer
  next : r.heap.next ≤ c.heap.next
  mapped : WellMapped c.heap (c.nodes.rows ++ r.nodes.rows)
  used : ∀ row ∈ c.nodes.rows ++ r.nodes.rows, ∀ object,
    c.heap.find? row.pointer = some object → object.port ∈ c.used
  origin : ∀ row ∈ c.nodes.rows, row ∈ r.nodes.rows ∨ r.nodes.find? row.key = none
  busy : ∀ row ∈ r.nodes.rows, r.active row.pointer = true → row ∈ c.nodes.rows
  desired : ∀ key ∈ c.desired, (c.nodes.find? key).isSome = true

theorem Candidate.from_start (mapped : WellMapped r.heap r.nodes.rows) :
    Candidate.From r r.candidate := by
  have fewer : ∀ row ∈ r.candidate.nodes.rows, row ∈ r.nodes.rows := fun row member =>
    List.mem_of_mem_filter member
  have both : ∀ row ∈ r.candidate.nodes.rows ++ r.nodes.rows, row ∈ r.nodes.rows := by
    intro row member
    rcases List.mem_append.mp member with kept | old
    · exact fewer row kept
    · exact old
  refine ⟨Keeps.refl _, fun _ member => .inl member, le_rfl, mapped.mono both, ?_, ?_, ?_,
    by simp [Runtime.candidate]⟩
  · intro row member object found
    exact List.mem_filterMap.mpr ⟨row, both row member, by
      rw [show r.heap.find? row.pointer = some object from found]
      rfl⟩
  · exact fun row member => .inl (fewer row member)
  · intro row member active
    exact List.mem_filter.mpr ⟨member, by simp [active]⟩

theorem Candidate.From.keep (from' : Candidate.From r c)
    {previous : Installed} (installed : previous ∈ r.nodes.rows) :
    Candidate.From r { c with
      nodes := c.nodes.insertIfAbsent previous
      desired := previous.key :: c.desired } := by
  have fewer : ∀ row ∈ (c.nodes.insertIfAbsent previous).rows ++ r.nodes.rows,
      row ∈ c.nodes.rows ++ r.nodes.rows := by
    intro row member
    rcases List.mem_append.mp member with new | old
    · rcases Table.mem_insertIfAbsent new with rfl | kept
      · exact List.mem_append_right _ installed
      · exact List.mem_append_left _ kept
    · exact List.mem_append_right _ old
  refine ⟨from'.keeps, from'.idle, from'.next, from'.mapped.mono fewer,
    fun row member => from'.used row (fewer row member), ?_, ?_, ?_⟩
  · intro row member
    rcases Table.mem_insertIfAbsent member with rfl | kept
    · exact .inl installed
    · exact from'.origin row kept
  · exact fun row member active => Table.mem_insertIfAbsent_of_mem (from'.busy row member active)
  · intro key member
    rcases List.mem_cons.mp member with rfl | old
    · exact Table.isSome_insertIfAbsent_self _ _
    · exact Table.isSome_insertIfAbsent (from'.desired key old)

theorem Candidate.From.create (from' : Candidate.From r c) {port : Nat}
    (absent : r.nodes.find? node.key = none)
    (free : freePort c.used = some port) :
    Candidate.From r {
      heap := c.heap.insert (fun pointer => ⟨pointer, node, port, 0⟩) (fun _ => rfl)
      nodes := c.nodes.insertIfAbsent ⟨node.key, c.heap.next⟩
      used := port :: c.used
      desired := node.key :: c.desired } := by
  obtain ⟨unused, low, high⟩ := freePort_some free
  have lookup : ∀ pointer, _ = _ :=
    Serial.find?_insert c.heap (fun pointer => ⟨pointer, node, port, 0⟩) (fun _ => rfl)
  have grows : Keeps c.heap
      (c.heap.insert (fun pointer => ⟨pointer, node, port, 0⟩) (fun _ => rfl)) := by
    intro pointer object found
    refine ⟨object, ?_, rfl, rfl⟩
    rw [lookup, if_neg (Nat.ne_of_lt (Serial.lt_next found))]
    exact found
  -- An entry of the old maps has its object on the old heap, so its port is in use.
  have older : ∀ row ∈ c.nodes.rows ++ r.nodes.rows, ∀ object,
      (c.heap.insert (fun pointer => ⟨pointer, node, port, 0⟩) (fun _ => rfl)).find? row.pointer =
        some object → object.port ∈ c.used := by
    intro row member object found
    obtain ⟨old, oldFound, -⟩ := from'.mapped.object row member
    rw [grows.port oldFound found]
    exact from'.used row member old oldFound
  have fewer : ∀ row ∈ (c.nodes.insertIfAbsent ⟨node.key, c.heap.next⟩).rows ++ r.nodes.rows,
      row ∈ (⟨node.key, c.heap.next⟩ : Installed) :: (c.nodes.rows ++ r.nodes.rows) := by
    intro row member
    rcases List.mem_append.mp member with new | old
    · rcases Table.mem_insertIfAbsent new with rfl | kept
      · exact List.mem_cons_self
      · exact List.mem_cons_of_mem _ (List.mem_append_left _ kept)
    · exact List.mem_cons_of_mem _ (List.mem_append_right _ old)
  have own : (c.heap.insert (fun pointer => ⟨pointer, node, port, 0⟩) (fun _ => rfl)).find?
      c.heap.next = some ⟨c.heap.next, node, port, 0⟩ := by
    rw [lookup, if_pos rfl]
  refine ⟨?_, ?_, Nat.le_succ_of_le from'.next, ?_, ?_, ?_, ?_, ?_⟩
  · exact from'.keeps.trans grows
  · intro object member
    rcases List.mem_cons.mp member with rfl | old
    · exact .inr ⟨rfl, from'.next⟩
    · exact from'.idle object old
  · refine ((from'.mapped.keeps grows).cons own rfl low high ?_).mono fewer
    rintro other member object found rfl
    exact unused (older other member object found)
  · intro row member object found
    rcases List.mem_cons.mp (fewer row member) with rfl | old
    · cases own.symm.trans found
      exact List.mem_cons_self
    · exact List.mem_cons_of_mem _ (older row old object found)
  · intro row member
    rcases Table.mem_insertIfAbsent member with rfl | kept
    · exact .inr absent
    · exact from'.origin row kept
  · exact fun row member active => Table.mem_insertIfAbsent_of_mem (from'.busy row member active)
  · intro key member
    rcases List.mem_cons.mp member with rfl | old
    · exact Table.isSome_insertIfAbsent_self _ _
    · exact Table.isSome_insertIfAbsent (from'.desired key old)

theorem Candidate.From.add (from' : Candidate.From r c) (added : c.add r node = .ok c') :
    Candidate.From r c' ∧ c'.desired = node.key :: c.desired := by
  unfold Candidate.add at added
  cases found : r.nodes.find? node.key with
  | some previous =>
    rw [found] at added
    obtain ⟨-, added⟩ := Except.refuse_eq_ok.mp added
    cases added
    obtain ⟨installed, named⟩ := Table.find?_eq_some.mp found
    rw [← named]
    exact ⟨from'.keep installed, rfl⟩
  | none =>
    rw [found] at added
    cases free : freePort c.used with
    | none =>
      rw [free] at added
      cases added
    | some port =>
      rw [free] at added
      cases added
      exact ⟨from'.create found free, rfl⟩

theorem Candidate.From.addAll (from' : Candidate.From r c)
    (added : nodes.foldlM (Candidate.add r) c = .ok c') :
    Candidate.From r c' ∧ ∀ key, key ∈ c'.desired ↔ key ∈ c.desired ∨ key ∈ nodes.map Node.key := by
  induction nodes generalizing c with
  | nil =>
    cases added
    exact ⟨from', by simp⟩
  | cons node nodes ih =>
    rw [List.foldlM_cons] at added
    obtain ⟨middle, first, rest⟩ := Except.bind_eq_ok.mp added
    obtain ⟨fromMiddle, desiredMiddle⟩ := from'.add first
    obtain ⟨fromLast, desired⟩ := ih fromMiddle rest
    refine ⟨fromLast, fun key => ?_⟩
    rw [desired, desiredMiddle, List.map_cons, List.mem_cons, List.mem_cons]
    tauto

theorem Candidate.add_object (added : c.add r node = .ok c') :
    ∀ object ∈ c'.heap.rows, object ∈ c.heap.rows ∨ object.node = node := by
  unfold Candidate.add at added
  cases found : r.nodes.find? node.key with
  | some previous =>
    rw [found] at added
    obtain ⟨-, added⟩ := Except.refuse_eq_ok.mp added
    cases added
    exact fun _ => .inl
  | none =>
    rw [found] at added
    cases free : freePort c.used with
    | none =>
      rw [free] at added
      cases added
    | some port =>
      rw [free] at added
      cases added
      intro object member
      rcases List.mem_cons.mp member with rfl | old
      · exact .inr rfl
      · exact .inl old

theorem Candidate.addAll_object (added : nodes.foldlM (Candidate.add r) c = .ok c') :
    ∀ object ∈ c'.heap.rows, object ∈ c.heap.rows ∨ object.node ∈ nodes := by
  induction nodes generalizing c with
  | nil =>
    cases added
    exact fun _ => .inl
  | cons node nodes ih =>
    rw [List.foldlM_cons] at added
    obtain ⟨middle, first, rest⟩ := Except.bind_eq_ok.mp added
    intro object member
    rcases ih rest object member with old | new
    · rcases Candidate.add_object first object old with older | rfl
      · exact .inl older
      · exact .inr List.mem_cons_self
    · exact .inr (List.mem_cons_of_mem _ new)

/-! ## Steps -/

section Install

variable (parseAddr : Text → Option Bool) (routeToken : Text → Text → Text)
  (digest : Snapshot → Text) (key : Text)

/-- What an installation can do: leave everything as it is, take over a candidate, or
give it up after it was sent. -/
theorem install_cases (r : Runtime) (snapshot : Snapshot) (answers : Answers) :
    let out := r.install parseAddr routeToken digest key snapshot answers
    out.runtime = r ∧ out.sent = [] ∨
    ∃ c, validateSnapshot parseAddr routeToken snapshot key = .ok () ∧
      r.status.appliedVersion ≤ snapshot.version ∧
      snapshot.nodes.foldlM (Candidate.add r) r.candidate = .ok c ∧
      (out = ⟨r.adopt digest snapshot c, none, [marshalMihomo c.heap c.nodes]⟩ ∧
          answers.apply = true ∨
        ∃ restored, (restored = true → answers.rollback = true) ∧
          out = ⟨r.abandon c restored, some "configuration apply failed",
            [marshalMihomo c.heap c.nodes, marshalMihomo r.heap r.nodes]⟩) := by
  dsimp only
  unfold Runtime.install
  cases checked : validateSnapshot parseAddr routeToken snapshot key with
  | error err => exact .inl ⟨rfl, rfl⟩
  | ok accepted =>
    dsimp only
    split
    · exact .inl ⟨rfl, rfl⟩
    next newer =>
      split
      · split <;> exact .inl ⟨rfl, rfl⟩
      · cases folded : snapshot.nodes.foldlM (Candidate.add r) r.candidate with
        | error err => exact .inl ⟨rfl, rfl⟩
        | ok c =>
          refine .inr ⟨c, rfl, Int.not_lt.mp newer, rfl, ?_⟩
          dsimp only
          split
          next applied => exact .inl ⟨rfl, (Bool.and_eq_true_iff.mp applied).1⟩
          · exact .inr ⟨_, fun restored => (Bool.and_eq_true_iff.mp restored).1, rfl⟩

end Install

theorem mem_routesOf {nodes : Table Installed.key} {routes : List Route} {entry : RouteRuntime}
    (member : entry ∈ (routesOf nodes routes).rows) :
    ∃ route ∈ routes, ∃ row, nodes.find? (nodeKey route.nodeID route.nodeRevision) = some row ∧
      entry = ⟨route.id, route.token, row.pointer⟩ := by
  induction routes with
  | nil => cases member
  | cons route rest ih =>
    rw [routesOf, List.foldr_cons, ← routesOf] at member
    cases found : nodes.find? (nodeKey route.nodeID route.nodeRevision) with
    | none =>
      rw [found] at member
      obtain ⟨other, otherMember, row⟩ := ih member
      exact ⟨other, List.mem_cons_of_mem _ otherMember, row⟩
    | some row =>
      rw [found] at member
      rcases Table.mem_insertIfAbsent member with rfl | old
      · exact ⟨route, List.mem_cons_self, row, found, rfl⟩
      · obtain ⟨other, otherMember, row⟩ := ih old
        exact ⟨other, List.mem_cons_of_mem _ otherMember, row⟩

theorem mem_marshalMihomo {nodes : Table Installed.key} {listener : Listener} :
    listener ∈ marshalMihomo heap nodes ↔
      ∃ row ∈ nodes.rows, ∃ object, heap.find? row.pointer = some object ∧
        object.listener = listener := by
  simp [marshalMihomo, List.mem_mergeSort]

/-! ## The invariant -/

/-- The runtime with the nodes that tunnels and probes hold. -/
structure Runtime.Sound (r : Runtime) (held : List Nat) : Prop where
  mapped : WellMapped r.heap r.nodes.rows
  counted : ∀ object ∈ r.heap.rows, object.active = held.count object.pointer
  kept : ∀ pointer ∈ held, ∃ row ∈ r.nodes.rows, row.pointer = pointer
  routed : ∀ route ∈ r.routes.rows, ∃ row ∈ r.nodes.rows,
    row.pointer = route.pointer ∧ row.key ∈ r.desired

theorem Runtime.Sound.active (sound : r.Sound held)
    (member : row ∈ r.nodes.rows) (used : row.pointer ∈ held) : r.active row.pointer = true := by
  obtain ⟨object, found, -⟩ := sound.mapped.object row member
  obtain ⟨objectMember, named⟩ := Table.find?_eq_some.mp found
  have counted := sound.counted object objectMember
  rw [named] at counted
  have positive : 0 < held.count row.pointer := List.count_pos_iff.mpr used
  rw [Runtime.active, found, Option.any_some, decide_eq_true_eq, counted]
  omega

/-- New objects are idle, so the counts stand on a heap that only has more of them. -/
theorem Candidate.From.counted (sound : r.Sound held) (from' : Candidate.From r c) :
    ∀ object ∈ c.heap.rows, object.active = held.count object.pointer := by
  intro object member
  rcases from'.idle object member with old | ⟨idle, new⟩
  · exact sound.counted object old
  · rw [idle, List.count_eq_zero.mpr]
    · rfl
    · intro used
      obtain ⟨row, rowMember, named⟩ := sound.kept _ used
      obtain ⟨other, found, -⟩ := sound.mapped.object row rowMember
      have below := Serial.lt_next found
      omega

section Steps

variable {parseAddr : Text → Option Bool} {routeToken : Text → Text → Text}
  {digest : Snapshot → Text} {key : Text}

theorem Runtime.Sound.adopt (sound : r.Sound held)
    {snapshot : Snapshot} (valid : snapshot.Valid) (from' : Candidate.From r c)
    (desired : ∀ key, key ∈ c.desired ↔ key ∈ snapshot.nodes.map Node.key) :
    (r.adopt digest snapshot c).Sound held := by
  refine ⟨from'.mapped.mono fun row => List.mem_append_left _, from'.counted sound, ?_, ?_⟩
  · intro pointer used
    obtain ⟨row, member, rfl⟩ := sound.kept pointer used
    exact ⟨row, from'.busy row member (sound.active member used), rfl⟩
  · intro entry member
    obtain ⟨route, routeMember, row, found, rfl⟩ := mem_routesOf member
    obtain ⟨rowMember, named⟩ := Table.find?_eq_some.mp found
    refine ⟨row, rowMember, rfl, ?_⟩
    rw [named]
    exact (desired _).mpr (valid.pointed route routeMember)

theorem Runtime.Sound.abandon (sound : r.Sound held) (from' : Candidate.From r c)
    (restored : Bool) :
    (r.abandon c restored).Sound held :=
  ⟨sound.mapped.keeps from'.keeps, from'.counted sound, sound.kept, sound.routed⟩

theorem Runtime.Sound.candidate (sound : r.Sound held)
    (folded : nodes.foldlM (Candidate.add r) r.candidate = .ok c) :
    Candidate.From r c ∧ ∀ key, key ∈ c.desired ↔ key ∈ nodes.map Node.key := by
  obtain ⟨from', desired⟩ := (Candidate.from_start sound.mapped).addAll folded
  refine ⟨from', fun key => ?_⟩
  rw [desired]
  simp [Runtime.candidate]

theorem Runtime.Sound.install (sound : r.Sound held) (snapshot : Snapshot) (answers : Answers) :
    (r.install parseAddr routeToken digest key snapshot answers).runtime.Sound held := by
  rcases install_cases parseAddr routeToken digest key r snapshot answers with
    ⟨same, -⟩ | ⟨c, checked, -, folded, outcome⟩
  · rw [same]
    exact sound
  · obtain ⟨from', desired⟩ := sound.candidate folded
    rcases outcome with ⟨applied, -⟩ | ⟨restored, -, failed⟩
    · rw [applied]
      exact sound.adopt (validateSnapshot_ok checked).1 from' desired
    · rw [failed]
      exact sound.abandon from' restored

theorem Runtime.Sound.prune (sound : r.Sound held) (apply : Bool) :
    (r.prune apply).runtime.Sound held := by
  unfold Runtime.prune
  dsimp only
  split
  · exact sound
  · split
    · refine ⟨sound.mapped.mono fun row => List.mem_of_mem_filter, sound.counted, ?_, ?_⟩
      · intro pointer used
        obtain ⟨row, member, rfl⟩ := sound.kept pointer used
        exact ⟨row, List.mem_filter.mpr ⟨member, by simp [sound.active member used]⟩, rfl⟩
      · intro route member
        obtain ⟨row, rowMember, points, desired⟩ := sound.routed route member
        exact ⟨row, List.mem_filter.mpr ⟨rowMember, by simp [desired]⟩, points, desired⟩
    · exact sound

theorem keeps_count (r : Runtime) (pointer : Nat) (by' : Int) :
    Keeps r.heap (r.count pointer by').heap := by
  intro other object found
  refine ⟨if other = pointer then { object with active := object.active + by' } else object, ?_,
    by split <;> rfl, by split <;> rfl⟩
  have lookup := Table.find?_modify r.heap.toTable pointer
    (fun object => { object with active := object.active + by' }) (fun _ => rfl) other
  refine lookup.trans ?_
  split
  next same => rw [← same, found]; rfl
  · exact found

theorem Runtime.Sound.recount (sound : r.Sound held) {by' : Int}
    (counts : ∀ p, (held'.count p : Int) = held.count p + if p = pointer then by' else 0)
    (kept : ∀ p ∈ held', ∃ row ∈ r.nodes.rows, row.pointer = p) :
    (r.count pointer by').Sound held' := by
  refine ⟨sound.mapped.keeps (keeps_count r pointer by'), ?_, kept, sound.routed⟩
  intro object member
  obtain ⟨old, oldMember, rfl⟩ := List.mem_map.mp member
  have before := sound.counted old oldMember
  by_cases named : old.pointer = pointer
  · simp only [named, decide_true, if_true] at before ⊢
    rw [counts, if_pos rfl, before]
  · simp only [named, decide_false, Bool.false_eq_true, if_false]
    rw [counts, if_neg named, before, Int.add_zero]

theorem Runtime.Sound.hold (sound : r.Sound held)
    (installed : ∃ row ∈ r.nodes.rows, row.pointer = pointer)
    (more : held'.Perm (pointer :: held)) : (r.count pointer 1).Sound held' := by
  refine sound.recount ?_ ?_
  · intro p
    rw [more.count_eq, List.count_cons]
    by_cases same : p = pointer
    · simp [same]
    · simp [same, Ne.symm same]
  · intro p member
    rcases List.mem_cons.mp (more.mem_iff.mp member) with rfl | old
    · exact installed
    · exact sound.kept p old

theorem Runtime.Sound.release (sound : r.Sound held) (fewer : held.Perm (pointer :: held')) :
    (r.count pointer (-1)).Sound held' := by
  refine sound.recount ?_ ?_
  · intro p
    rw [fewer.count_eq, List.count_cons]
    by_cases same : p = pointer
    · simp [same]
    · simp [same, Ne.symm same]
  · exact fun p member => sound.kept p (fewer.mem_iff.mpr (List.mem_cons_of_mem _ member))

theorem Runtime.connect_ok {request : ConnectRequest}
    (accepted : r.connect request = .ok (r', pointer)) :
    ∃ id token, request.credentials = some (id, token) ∧ r.status.ready = true ∧
      r.routes.find? id = some ⟨id, token, pointer⟩ ∧ r' = r.count pointer 1 := by
  unfold Runtime.connect at accepted
  obtain ⟨-, accepted⟩ := Except.refuse_eq_ok.mp accepted
  obtain ⟨-, accepted⟩ := Except.refuse_eq_ok.mp accepted
  cases credentials : request.credentials with
  | none =>
    rw [credentials] at accepted
    cases accepted
  | some pair =>
    obtain ⟨id, token⟩ := pair
    rw [credentials] at accepted
    dsimp only at accepted
    cases found : r.routes.find? id with
    | none =>
      rw [found] at accepted
      cases accepted
    | some route =>
      rw [found] at accepted
      obtain ⟨open', accepted⟩ := Except.refuse_eq_ok.mp accepted
      rw [not_or, ne_eq, not_not, Bool.not_eq_false] at open'
      cases accepted
      obtain ⟨routeID, routeToken, pointer⟩ := route
      obtain rfl : routeID = id := Table.key_of_find? found
      obtain rfl : routeToken = token := open'.2
      exact ⟨_, _, rfl, open'.1, found, rfl⟩

theorem Runtime.beginProbe_ok {running : Nat} {nodeID : Text} {revision : Int}
    (accepted : r.beginProbe running nodeID revision = .ok (r', pointer)) :
    (∃ row ∈ r.nodes.rows, row.pointer = pointer) ∧ r' = r.count pointer 1 := by
  unfold Runtime.beginProbe at accepted
  obtain ⟨-, accepted⟩ := Except.refuse_eq_ok.mp accepted
  cases found : r.nodes.find? (nodeKey nodeID revision) with
  | none =>
    rw [found] at accepted
    cases accepted
  | some row =>
    rw [found] at accepted
    obtain ⟨-, accepted⟩ := Except.refuse_eq_ok.mp accepted
    cases accepted
    exact ⟨⟨row, Table.mem_of_find? found, rfl⟩, rfl⟩

end Steps

/-! ## One step after the other -/

/-- What every step keeps of the runtime before it, and what it sends. -/
structure Continues (r r' : Runtime) (sent : List Configuration) : Prop where
  keeps : Keeps r.heap r'.heap
  origin : ∀ row ∈ r'.nodes.rows, row ∈ r.nodes.rows ∨ r.nodes.find? row.key = none
  version : r.status.appliedVersion ≤ r'.status.appliedVersion
  sent : ∀ configuration ∈ sent, ∀ row ∈ r.nodes.rows, r.active row.pointer = true →
    ∀ object, r.heap.find? row.pointer = some object → object.listener ∈ configuration

theorem Continues.refl (r : Runtime) : Continues r r [] :=
  ⟨Keeps.refl _, fun _ => .inl, Int.le_refl _, by simp⟩

theorem continues_count (r : Runtime) (pointer : Nat) (by' : Int) :
    Continues r (r.count pointer by') [] :=
  ⟨keeps_count r pointer by', fun _ => .inl, Int.le_refl _, by simp⟩

theorem mem_marshalMihomo_of_keeps {nodes : Table Installed.key} (keeps : Keeps heap heap')
    (member : row ∈ nodes.rows) (found : heap.find? row.pointer = some object) :
    object.listener ∈ marshalMihomo heap' nodes := by
  obtain ⟨object', found', node, port⟩ := keeps _ _ found
  exact mem_marshalMihomo.mpr ⟨row, member, object', found', by
    rw [NodeRuntime.listener, NodeRuntime.listener, node, port]⟩

theorem continues_install (parseAddr : Text → Option Bool) (routeToken : Text → Text → Text)
    (digest : Snapshot → Text) (key : Text) (sound : r.Sound held) (snapshot : Snapshot)
    (answers : Answers) : let out := r.install parseAddr routeToken digest key snapshot answers
    Continues r out.runtime out.sent := by
  rcases install_cases parseAddr routeToken digest key r snapshot answers with
    ⟨same, silent⟩ | ⟨c, -, newer, folded, outcome⟩
  · dsimp only
    rw [same, silent]
    exact Continues.refl r
  · obtain ⟨from', -⟩ := sound.candidate folded
    have busy : ∀ row ∈ r.nodes.rows, r.active row.pointer = true →
        ∀ object, r.heap.find? row.pointer = some object →
          object.listener ∈ marshalMihomo c.heap c.nodes :=
      fun row member active object found =>
        mem_marshalMihomo_of_keeps from'.keeps (from'.busy row member active) found
    rcases outcome with ⟨applied, -⟩ | ⟨restored, -, failed⟩
    · rw [applied]
      exact ⟨from'.keeps, from'.origin, newer, by simpa using busy⟩
    · rw [failed]
      refine ⟨from'.keeps, fun _ => .inl, Int.le_refl _, ?_⟩
      intro configuration member
      rcases List.mem_pair.mp member with rfl | rfl
      · exact busy
      · exact fun row member _ object found =>
          mem_marshalMihomo_of_keeps (Keeps.refl _) member found

theorem continues_prune (r : Runtime) (apply : Bool) :
    Continues r (r.prune apply).runtime (r.prune apply).sent := by
  have busy : ∀ row ∈ r.nodes.rows, r.active row.pointer = true →
      ∀ object, r.heap.find? row.pointer = some object →
        object.listener ∈ marshalMihomo r.heap (r.nodes.delete fun row =>
          !(r.desired.contains row.key || r.active row.pointer)) :=
    fun row member active object found => mem_marshalMihomo_of_keeps (Keeps.refl _)
      (List.mem_filter.mpr ⟨member, by simp [active]⟩) found
  unfold Runtime.prune
  dsimp only
  split
  · exact Continues.refl r
  · split
    · exact ⟨Keeps.refl _, fun row member => .inl (List.mem_of_mem_filter member), Int.le_refl _,
        by simpa using busy⟩
    · exact ⟨Keeps.refl _, fun _ => .inl, Int.le_refl _, by simpa using busy⟩

theorem Continues.port {sent : List Configuration} (step : Continues r r' sent) {row' : Installed}
    (member : row ∈ r.nodes.rows) (member' : row' ∈ r'.nodes.rows) (same : row'.key = row.key)
    {object' : NodeRuntime} (found : r.heap.find? row.pointer = some object)
    (found' : r'.heap.find? row'.pointer = some object') : object'.port = object.port := by
  have twin : row' = row := by
    rcases step.origin row' member' with old | new
    · have lookup := Table.find?_of_mem old
      rw [same, Table.find?_of_mem member] at lookup
      exact (Option.some.inj lookup).symm
    · rw [same, Table.find?_of_mem member] at new
      cases new
  rw [twin] at found'
  exact step.keeps.port found found'

end Egress
