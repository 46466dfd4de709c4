import CodexGateway.Store.QuotaCounters
import CodexGateway.Store.RequestLife

/-! # Exactly one settlement

Requests, completions, settlements, releases and the two repair jobs run one
transaction at a time, in any order. A job works off a list it has read before, and
may crash between two of its transactions. Whatever happens, a billed request is
settled and charged once, or released and never charged.
-/

namespace Store

variable {db db' : Db} {id : Text} {at' : Time}

/-! ## Jobs -/

/-- A job after its next transaction; nothing is left once it has ended. -/
def workOff {ι : Type} (repair : Db → ι → Except StoreError Db) (db : Db) :
    List ι → Db × Option (List ι)
  | [] => (db, none)
  | entry :: rest =>
    match repair db entry with
    | .ok db' => (db', some rest)
    | .error err => (db, if err.skipped then some rest else none)

/-- A running job with the entries it listed and has not worked off. -/
inductive Job where
  | settling (pending : List Text)
  | releasing (pending : List StaleReservation)

def Job.work (db : Db) (at' : Time) : Job → Db × Option Job
  | .settling pending =>
    let (db', left) := workOff (fun db id => settleRequest db id at') db pending
    (db', left.map .settling)
  | .releasing pending =>
    let (db', left) := workOff (fun db stale => releaseStale db stale at') db pending
    (db', left.map .releasing)

/-! ## The system -/

structure System where
  db : Db
  jobs : List Job

inductive Event where
  | admission (params : AdmitRequestParams) (fresh : FreshPeriods)
  | complete (params : CompleteUsageRequestParams)
  | settle (requestID : Text) (at' : Time)
  | release (requestID : Text) (at' : Time)
  | listUnsettled (limit : Int)
  | listStale (before : Time) (limit : Int) (now : Time)
  | work (job : Nat) (at' : Time)
  | crash (job : Nat)
  | elsewhere (write : Db → Db) (keeps : ∀ db id, viewOf (write db) id = viewOf db id)

section Run

variable (structureDigest : Config.ModelPriceStructure → Text)
  (provider : Option UpstreamProvider)

def System.step (s : System) : Event → System
  | .admission params fresh => { s with db := (admitRequest structureDigest s.db params fresh).1 }
  | .complete params => { s with db := (completeUsageRequest provider s.db params).1 }
  | .settle requestID at' =>
    { s with db := Transaction.commit (settleRequest · requestID at') s.db }
  | .release requestID at' =>
    { s with db := Transaction.commit (releaseRequest · requestID at') s.db }
  | .listUnsettled limit => { s with jobs := .settling (unsettledRequests s.db limit) :: s.jobs }
  | .listStale before limit now =>
    { s with jobs := .releasing (staleReservations s.db before limit now) :: s.jobs }
  | .work i at' =>
    match s.jobs[i]? with
    | none => s
    | some job =>
      match job.work s.db at' with
      | (db', none) => ⟨db', s.jobs.eraseIdx i⟩
      | (db', some left) => ⟨db', s.jobs.set i left⟩
  | .crash i => { s with jobs := s.jobs.eraseIdx i }
  | .elsewhere write _ => { s with db := write s.db }

def requestRun (s : System) (events : List Event) : System :=
  Transaction.run (System.step structureDigest provider) s events

end Run

/-! ## What a job may release -/

/-- An entry of the request was listed together with its usage row. -/
def Job.Lists (id : Text) : Job → Prop
  | .settling _ => True
  | .releasing pending => ∀ stale ∈ pending, stale.requestID = id → stale.hasUsage = true

theorem staleReservations_lists (lawful : (viewOf db id).Lawful id) (before : Time) (limit : Int)
    (now : Time) : (Job.releasing (staleReservations db before limit now)).Lists id := by
  intro stale listed named
  obtain ⟨row, taken, rfl⟩ := List.mem_map.mp listed
  have sorted := List.mem_of_mem_take taken
  have stored := List.mem_of_mem_filter ((List.mem_insertionSort _).mp sorted)
  change row.requestID = id at named
  subst named
  have hasQuota : (viewOf db row.requestID).quota = some row := Table.find?_of_mem stored
  have hasUsage : (viewOf db row.requestID).usage.isSome = true := by
    generalize viewOf db row.requestID = v at lawful hasQuota
    cases lawful with
    | absent nothing =>
      rw [nothing] at hasQuota
      cases hasQuota
    | unbilled free =>
      cases free
      rfl
    | billed stands =>
      obtain ⟨usage, hasUsage, -⟩ := stands.usage_eq
      rw [hasUsage]
      rfl
  exact hasUsage

theorem releaseStale_follows {stale : StaleReservation} (lawful : (viewOf db id).Lawful id)
    (listed : stale.requestID = id → stale.hasUsage = true)
    (ok : releaseStale db stale at' = .ok db') : (viewOf db id).Follows id (viewOf db' id) := by
  unfold releaseStale at ok
  split at ok
  · exact releaseRequest_follows lawful ok
  · rename_i unlisted
    obtain ⟨-, ok⟩ := Except.refuse_eq_ok.mp ok
    have other : id ≠ stale.requestID := fun same => unlisted (listed same.symm)
    rw [releaseQuotaReservation_view_others ok other]
    exact .same _

theorem workOff_cases {ι : Type} {repair : Db → ι → Except StoreError Db} {pending : List ι}
    {left : Option (List ι)} (worked : workOff repair db pending = (db', left)) :
    (db' = db ∨ ∃ entry ∈ pending, repair db entry = .ok db') ∧
      ∀ rest ∈ left, ∀ entry ∈ rest, entry ∈ pending := by
  cases pending with
  | nil =>
    cases worked
    exact ⟨.inl rfl, by simp⟩
  | cons entry rest =>
    rw [workOff] at worked
    cases repaired : repair db entry with
    | ok next =>
      rw [repaired] at worked
      cases worked
      exact ⟨.inr ⟨entry, List.mem_cons_self, repaired⟩, by simp +contextual⟩
    | error err =>
      rw [repaired] at worked
      cases worked
      refine ⟨.inl rfl, ?_⟩
      split <;> simp +contextual

/-- A transaction of a job moves a request at most one step along. -/
theorem Job.work_follows {job : Job} {left : Option Job} (lawful : (viewOf db id).Lawful id)
    (lists : job.Lists id) (worked : job.work db at' = (db', left)) :
    (viewOf db id).Follows id (viewOf db' id) ∧ ∀ job' ∈ left, job'.Lists id := by
  cases job with
  | settling pending =>
    rw [Job.work] at worked
    cases ran : workOff (fun db id => settleRequest db id at') db pending with
    | mk next rest =>
      rw [ran] at worked
      cases worked
      obtain ⟨step, -⟩ := workOff_cases ran
      refine ⟨?_, ?_⟩
      · rcases step with rfl | ⟨entry, -, ok⟩
        · exact .same _
        · exact settleRequest_follows lawful ok
      · intro job' member
        obtain ⟨pending', -, rfl⟩ := Option.mem_map.mp member
        trivial
  | releasing pending =>
    rw [Job.work] at worked
    cases ran : workOff (fun db stale => releaseStale db stale at') db pending with
    | mk next rest =>
      rw [ran] at worked
      cases worked
      obtain ⟨step, kept⟩ := workOff_cases ran
      refine ⟨?_, ?_⟩
      · rcases step with rfl | ⟨stale, listed, ok⟩
        · exact .same _
        · exact releaseStale_follows lawful (lists stale listed) ok
      · intro job' member
        obtain ⟨pending', isRest, rfl⟩ := Option.mem_map.mp member
        intro stale listed
        exact lists stale (kept pending' isRest stale listed)

/-! ## Runs -/

structure Tracks (id : Text) (s : System) : Prop where
  lawful : (viewOf s.db id).Lawful id
  lists : ∀ job ∈ s.jobs, job.Lists id

section Run

variable (structureDigest : Config.ModelPriceStructure → Text)
  (provider : Option UpstreamProvider) {id : Text}

theorem Tracks.step_follows {s : System} (tracks : Tracks id s) (event : Event) :
    (viewOf s.db id).Follows id (viewOf (s.step structureDigest provider event).db id) ∧
      ∀ job ∈ (s.step structureDigest provider event).jobs, job.Lists id := by
  obtain ⟨lawful, lists⟩ := tracks
  cases event with
  | admission params fresh =>
    exact ⟨admitRequest_follows structureDigest lawful params fresh, lists⟩
  | complete params => exact ⟨completeUsageRequest_follows provider s.db params id, lists⟩
  | settle requestID at' =>
    refine ⟨?_, lists⟩
    exact Transaction.commit_preserves (P := fun db => (viewOf s.db id).Follows id (viewOf db id))
      (.same _) fun _ ok => settleRequest_follows lawful ok
  | release requestID at' =>
    refine ⟨?_, lists⟩
    exact Transaction.commit_preserves (P := fun db => (viewOf s.db id).Follows id (viewOf db id))
      (.same _) fun _ ok => releaseRequest_follows lawful ok
  | listUnsettled limit =>
    exact ⟨.same _, List.forall_mem_cons.mpr ⟨trivial, lists⟩⟩
  | listStale before limit now =>
    exact ⟨.same _,
      List.forall_mem_cons.mpr ⟨staleReservations_lists lawful before limit now, lists⟩⟩
  | work i at' =>
    unfold System.step
    dsimp only
    split
    · exact ⟨.same _, lists⟩
    · rename_i job running
      have jobLists := lists job (List.mem_of_getElem? running)
      split
      · rename_i db' worked
        obtain ⟨follows, -⟩ := Job.work_follows lawful jobLists worked
        exact ⟨follows, fun other member => lists other (List.mem_of_mem_eraseIdx member)⟩
      · rename_i db' left worked
        obtain ⟨follows, leftLists⟩ := Job.work_follows lawful jobLists worked
        refine ⟨follows, ?_⟩
        intro other member
        rcases List.mem_or_eq_of_mem_set member with old | rfl
        · exact lists other old
        · exact leftLists _ rfl
  | crash i => exact ⟨.same _, fun job member => lists job (List.mem_of_mem_eraseIdx member)⟩
  | elsewhere write keeps =>
    refine ⟨?_, lists⟩
    change (viewOf s.db id).Follows id (viewOf (write s.db) id)
    rw [keeps]
    exact .same _

theorem Tracks.step {s : System} (tracks : Tracks id s) (event : Event) :
    Tracks id (s.step structureDigest provider event) := by
  obtain ⟨follows, lists⟩ := tracks.step_follows structureDigest provider event
  exact ⟨tracks.lawful.follows follows, lists⟩

/-- A property that every step in the life of a request keeps is kept by every run. -/
theorem Tracks.run {P : RequestView → Prop} {s : System} (tracks : Tracks id s)
    (start : P (viewOf s.db id)) (keep : ∀ v v' : RequestView, P v → v.Follows id v' → P v')
    (events : List Event) :
    Tracks id (requestRun structureDigest provider s events) ∧
      P (viewOf (requestRun structureDigest provider s events).db id) := by
  apply Transaction.run_preserves (P := fun s => Tracks id s ∧ P (viewOf s.db id)) ⟨tracks, start⟩
  intro s event before
  have step := before.1.step_follows structureDigest provider event
  exact ⟨before.1.step structureDigest provider event, keep _ _ before.2 step.1⟩

end Run

/-! ## Settling and releasing once -/

/-- The funds and what was taken from them did not change. -/
structure SameFunds (db db' : Db) : Prop where
  accounts : db'.accounts = db.accounts
  cashLots : db'.cashLots = db.cashLots
  subscriptionPeriods : db'.subscriptionPeriods = db.subscriptionPeriods
  groupPeriods : db'.groupPeriods = db.groupPeriods
  memberUsage : db'.memberUsage = db.memberUsage
  allocations : db'.allocations = db.allocations
  ledger : db'.ledger = db.ledger

theorem SameFunds.trans {a b c : Db} (first : SameFunds a b) (second : SameFunds b c) :
    SameFunds a c :=
  ⟨second.accounts.trans first.accounts, second.cashLots.trans first.cashLots,
    second.subscriptionPeriods.trans first.subscriptionPeriods,
    second.groupPeriods.trans first.groupPeriods, second.memberUsage.trans first.memberUsage,
    second.allocations.trans first.allocations, second.ledger.trans first.ledger⟩

theorem QuotaOnly.sameFunds (only : QuotaOnly db db') : SameFunds db db' := by
  constructor <;> rw [only]

theorem releaseRequest_sameFunds (ok : releaseRequest db id at' = .ok db') : SameFunds db db' := by
  obtain ⟨-, -, ⟨-, -, rfl⟩ | ⟨-, usage, cancelled, released, -, -, cancelledEq, releases, rest⟩⟩ :=
    releaseRequest_ok ok
  · exact ⟨rfl, rfl, rfl, rfl, rfl, rfl, rfl⟩
  · have first : SameFunds db cancelled := by
      rw [cancelledEq]
      exact ⟨rfl, rfl, rfl, rfl, rfl, rfl, rfl⟩
    have second : SameFunds cancelled released := by
      obtain ⟨row, -, ⟨-, -, rfl⟩ | closed⟩ := releaseQuotaReservation_ok releases
      · exact ⟨rfl, rfl, rfl, rfl, rfl, rfl, rfl⟩
      · exact closed.frame.sameFunds
    rcases rest with ⟨-, unbills⟩ | ⟨-, rfl⟩
    · obtain ⟨-, -, ⟨-, -, rfl⟩ | ⟨-, rfl⟩⟩ := releaseBilling_ok unbills
      · exact first.trans second
      · exact (first.trans second).trans ⟨rfl, rfl, rfl, rfl, rfl, rfl, rfl⟩
    · exact first.trans second

section Main

variable (structureDigest : Config.ModelPriceStructure → Text)
  (provider : Option UpstreamProvider)

structure SettledOnce (id : Text) (s : System) : Prop where
  /-- Quota and billing agree on a stage, and the rest of the request fits it. -/
  stands : ∀ usage, s.db.usage.find? id = some usage → usage.endpoint.billed = true →
    ∃ stage, (viewOf s.db id).Stands id stage
  /-- A final stage never changes again. -/
  final : ∀ stage, (viewOf s.db id).Stands id stage → stage ≠ .reserved → ∀ later,
    viewOf (requestRun structureDigest provider s later).db id = viewOf s.db id
  /-- A request with recorded usage is never released. -/
  delivered : (viewOf s.db id).Delivered id → ∀ later,
    ¬ (viewOf (requestRun structureDigest provider s later).db id).Stands id .released
  /-- A settlement replays, or moves a reserved request to its settled stage with one
      charge and one set of deductions. -/
  settles : ∀ stage at' db', (viewOf s.db id).Stands id stage →
    settleRequest s.db id at' = .ok db' →
    (viewOf db' id).Stands id .settled ∧
      (stage = .settled ∧ db' = s.db ∨ stage = .reserved ∧
        ∃ counted reservation row, SameFunds s.db counted ∧ reservation.requestID = id ∧
          Nonempty (SettledNow counted reservation at' db' row))
  /-- A release replays, or cancels a reserved request without usage and leaves all
      funds alone. -/
  releases : ∀ stage at' db', (viewOf s.db id).Stands id stage →
    releaseRequest s.db id at' = .ok db' →
    (viewOf db' id).Stands id .released ∧ SameFunds s.db db' ∧
      (stage = .released ∧ db' = s.db ∨ stage = .reserved ∧
        ∃ usage, s.db.usage.find? id = some usage ∧ usage.state = .inProgress)
  /-- In a final stage neither a settlement nor a release changes anything. -/
  repeats : ∀ stage at', (viewOf s.db id).Stands id stage → stage ≠ .reserved →
    Transaction.commit (settleRequest · id at') s.db = s.db ∧
      Transaction.commit (releaseRequest · id at') s.db = s.db

theorem Tracks.settledOnce {s : System} (tracks : Tracks id s) :
    SettledOnce structureDigest provider id s where
  stands := by
    intro usage found billed
    have lawful := tracks.lawful
    change (viewOf s.db id).usage = some usage at found
    generalize viewOf s.db id = v at lawful found
    cases lawful with
    | absent nothing =>
      rw [nothing] at found
      cases found
    | unbilled free =>
      cases free with
      | mk unbilled =>
        cases found
        rw [unbilled] at billed
        cases billed
    | billed stands => exact ⟨_, stands⟩
  final := by
    intro stage stands final later
    refine (tracks.run structureDigest provider (P := fun v => v = viewOf s.db id) rfl ?_ later).2
    rintro v v' rfl step
    exact stands.final final step
  delivered := by
    intro delivered later
    have kept := tracks.run structureDigest provider (P := RequestView.Delivered id) delivered
      (fun _ _ before step => before.follows step) later
    exact kept.2.not_released
  settles := by
    intro stage at' db' stands ok
    rcases settleRequest_of_stands stands ok with
      ⟨rfl, rfl⟩ | ⟨rfl, settled, -, counted, reservation, row, only, named, now'⟩
    · exact ⟨stands, .inl ⟨rfl, rfl⟩⟩
    · exact ⟨settled, .inr ⟨rfl, counted, reservation, row, only.sameFunds, named, now'⟩⟩
  releases := by
    intro stage at' db' stands ok
    have funds := releaseRequest_sameFunds ok
    rcases releaseRequest_of_stands stands ok with ⟨rfl, rfl⟩ | ⟨rfl, released, open'⟩
    · exact ⟨stands, funds, .inl ⟨rfl, rfl⟩⟩
    · exact ⟨released, funds, .inr ⟨rfl, open'⟩⟩
  repeats := by
    intro stage at' stands final
    constructor
    · apply Transaction.commit_preserves (P := fun db => db = s.db) rfl
      intro db' ok
      rcases settleRequest_of_stands stands ok with ⟨-, same⟩ | ⟨reserved, -⟩
      · exact same
      · exact absurd reserved final
    · apply Transaction.commit_preserves (P := fun db => db = s.db) rfl
      intro db' ok
      rcases releaseRequest_of_stands stands ok with ⟨-, same⟩ | ⟨reserved, -⟩
      · exact same
      · exact absurd reserved final

/-- From before its admission on, a request is settled or released once, whatever the
order of transactions, jobs and crashes. -/
theorem requestRun_settledOnce {id : Text} {s : System} (absent : viewOf s.db id = .absent)
    (idle : s.jobs = []) (events : List Event) :
    SettledOnce structureDigest provider id
      (requestRun structureDigest provider s events) := by
  have start : Tracks id s := by
    refine ⟨.absent absent, ?_⟩
    rw [idle]
    simp
  have tracks := start.run structureDigest provider (P := fun _ => True) trivial
    (fun _ _ _ _ => trivial) events
  exact tracks.1.settledOnce structureDigest provider

end Main

/-! A request that five dollars of cash pay for. It completes, and the repair job
settles it. -/

def cashSystem : System where
  db := { sampleFunds with
    apiKeys := listingDb.apiKeys
    cashLots := {
      rows := [⟨1, 1, 1, 5 * 10 ^ Billing.amountScale, 5 * 10 ^ Billing.amountScale⟩]
      unique := by decide
      next := 2
      fresh := by decide } }
  jobs := []

def cashRequest : AdmitRequestParams where
  quota := ⟨['r'], 1, 1, none, 1, 5, 0, ⟨0, 0, 0, 0, 0, 0, 0⟩⟩
  usage := ⟨['r'], 1, 1, 1, ['m'], [], 1, "responses".toList, 1, 0⟩
  billing := some sampleParams
  upstreamProvider := none
  requireModelAccess := false

def cashDone : CompleteUsageRequestParams :=
  ⟨['r'], [], .completed, 200, [], none, 2, { noMetrics with inputTokens := 1000000 }, 0, 0, [],
    [], [], []⟩

def cashEvents : List Event :=
  [.admission cashRequest ⟨fun _ => 0, fun _ => 0⟩, .complete cashDone, .listUnsettled 10, .work 0 3]

theorem requestRun_cashEvents :
    (viewOf (requestRun (fun _ => []) none cashSystem cashEvents).db ['r']).deductions =
        [⟨['r'], 1, .cash 1, 3 * 10 ^ Billing.amountScale⟩] ∧
      SettledOnce (fun _ => []) none ['r']
        (requestRun (fun _ => []) none cashSystem cashEvents) :=
  ⟨by decide +kernel, requestRun_settledOnce (fun _ => []) none rfl rfl cashEvents⟩

end Store
