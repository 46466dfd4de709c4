import CodexGateway.Proxy.Anthropic
import CodexGateway.Proxy.CodexUsage

/-! # Usage of a broken stream

A run may end at any event: the upstream is cut, an event is refused, or a write fails. The
reports of a run are the complete cumulative usages that were accepted before that.
-/

namespace Proxy

open EventStream
open Except (bind_eq_ok check_bind_eq_ok refuse_eq_ok throw_eq_error error_bind map_eq_ok)

variable {tools : List Text} {model : Text}

/-! ## Codex -/

/-- The usage of the event that a line ends, if the line could be passed on. -/
def CodexStream.report (held : CodexStream × Writer) (line : Bytes) : Option Usage :=
  if (held.2.write line).2 = none ∧ trimBreaks line = [] then
    (held.1.event.bind parseSSEData).bind usagePart.of
  else none

/-- The reports of the events that were ended by a blank line, and at the end of the body by it. -/
def codexReports (upstream : Upstream) (writer : Writer) : List Usage :=
  (Relay.visited CodexStream.pass (.start, writer) (rawLines upstream.body)).filterMap
      (fun met => CodexStream.report met.1 met.2) ++
    match Relay.feed CodexStream.pass (.start, writer) (rawLines upstream.body), upstream.ending with
    | ((state, _), none), none => ((state.event.bind parseSSEData).bind usagePart.of).toList
    | _, _ => []

theorem usagePart_of_observe (told : Told) (event : Option Bytes) :
    usagePart.of (told.observe event) =
      ((event.bind parseSSEData).bind usagePart.of).or (usagePart.of told) := by
  have usage := @Part.get_observe _ usagePart told event
  cases parsed : (event.bind parseSSEData).bind usagePart.of with
  | none =>
    rw [parsed] at usage
    simp only [Part.of, usage, Option.getD_none, Option.none_or]
  | some value =>
    rw [parsed] at usage
    obtain ⟨other, -, found⟩ := Option.bind_eq_some_iff.mp parsed
    simp only [Part.of, usage, Option.getD_some, Part.isTold_of found, if_true, Option.some_or]

theorem CodexStream.pass_report (held : CodexStream × Writer) (line : Bytes) :
    usagePart.of (CodexStream.pass held line).1.1.told =
      (CodexStream.report held line).or (usagePart.of held.1.told) := by
  unfold CodexStream.pass CodexStream.report
  cases written : held.2.write line with
  | mk writer fault =>
    cases fault with
    | some fault => simp
    | none =>
      by_cases blank : trimBreaks line = []
      · simp [CodexStream.line, blank, usagePart_of_observe]
      · simp [CodexStream.line, blank]

/-- What the loop has kept is the last report. -/
theorem streamSSE_usage (upstream : Upstream) (writer : Writer) :
    usagePart.of (streamSSE upstream writer).1 = (codexReports upstream writer).getLast? := by
  have kept := @Relay.feed_latest _ _ _ CodexStream.pass _ (fun held => usagePart.of held.1.told)
    CodexStream.report CodexStream.pass_report (.start, writer) (rawLines upstream.body)
  have nothing : usagePart.of CodexStream.start.told = none := by decide
  rw [nothing, Option.or_none] at kept
  unfold streamSSE codexReports
  cases outcome : Relay.feed CodexStream.pass (.start, writer) (rawLines upstream.body) with
  | mk held fault =>
    rw [outcome] at kept
    cases fault with
    | some fault => simpa using kept
    | none =>
      cases upstream.ending with
      | some fault => simpa using kept
      | none =>
        simp only [usagePart_of_observe, kept]
        cases (held.1.event.bind parseSSEData).bind usagePart.of <;> simp

/-! ## Anthropic -/

variable {next state : Anthropic} {fields : List (Text × Json)} {event : AnthropicEvent}
  {kind : Text} {raw : Option Json} {usage : Usage} {upstream : Upstream}
  {deliveries : List Delivery}

theorem Anthropic.messageStart_ok (taken : state.messageStart fields = .ok next) :
    next.started = true ∧ next.stopped = state.stopped ∧ next.resultUsage = next.usage ∧
      ∃ reported, anthropicUsage reported .zero = .ok next.usage := by
  unfold Anthropic.messageStart at taken
  split at taken
  · cases taken
  split at taken
  · cases taken
  obtain ⟨usage, read, rest⟩ := bind_eq_ok.mp taken
  simp only [throw_eq_error, error_bind, refuse_eq_ok] at rest
  cases rest.2
  exact ⟨rfl, rfl, rfl, _, read⟩

theorem Anthropic.messageDelta_ok (taken : state.messageDelta fields = .ok next) :
    state.started = true ∧ next.started = true ∧ next.stopped = state.stopped ∧
      next.resultUsage = next.usage ∧
      ∃ reported, anthropicUsage reported state.usage = .ok next.usage := by
  unfold Anthropic.messageDelta at taken
  split at taken
  · cases taken
  rename_i begun
  split at taken
  · cases taken
  simp only [throw_eq_error, error_bind, refuse_eq_ok] at taken
  obtain ⟨usage, read, rest⟩ := bind_eq_ok.mp taken.2
  rw [refuse_eq_ok] at rest
  cases rest.2
  have started : state.started = true := by simpa using begun
  exact ⟨started, started, rfl, rfl, _, read⟩

/-- An event with a usage replaces the snapshot, and any other leaves it. -/
theorem Anthropic.accept_ok (taken : state.accept event = .ok (next, kind)) :
    ((kind = "message_start".toList ∨ kind = "message_delta".toList) ∧ next.started = true ∧
        next.stopped = state.stopped ∧ next.resultUsage = next.usage ∧
        ∃ reported prior, (prior = .zero ∨ state.started = true ∧ prior = state.usage) ∧
          anthropicUsage reported prior = .ok next.usage) ∨
      (¬ (kind = "message_start".toList ∨ kind = "message_delta".toList) ∧
        next.started = state.started ∧ next.usage = state.usage ∧
        next.resultUsage = state.resultUsage ∧
        (next.stopped = state.stopped ∨ next.stopped = true ∧ state.started = true)) := by
  unfold Anthropic.accept at taken
  split at taken
  · cases taken
    exact .inr ⟨by decide, rfl, rfl, rfl, .inl rfl⟩
  split at taken
  · cases taken
  split at taken
  · cases taken
  rename_i kind' _
  obtain ⟨result, observed, same⟩ := map_eq_ok.mp taken
  cases same
  unfold Anthropic.observe at observed
  split at observed
  · cases observed
  by_cases start : kind = "message_start".toList
  · rw [if_pos start] at observed
    obtain ⟨started, stopped, result, reported, read⟩ := Anthropic.messageStart_ok observed
    exact .inl ⟨.inl start, started, stopped, result, reported, .zero, .inl rfl, read⟩
  rw [if_neg start] at observed
  by_cases delta : kind = "message_delta".toList
  · rw [if_pos delta] at observed
    obtain ⟨begun, started, stopped, result, reported, read⟩ := Anthropic.messageDelta_ok observed
    exact .inl ⟨.inr delta, started, stopped, result, reported, _, .inr ⟨begun, rfl⟩, read⟩
  rw [if_neg delta] at observed
  refine .inr ⟨not_or.mpr ⟨start, delta⟩, ?_⟩
  split at observed
  · split at observed
    · cases observed
    · rename_i complete
      cases observed
      exact ⟨rfl, rfl, rfl, .inr ⟨rfl, by simp at complete; exact complete.1⟩⟩
  · cases observed
    exact ⟨rfl, rfl, rfl, .inl rfl⟩

def Anthropic.snapshot (state : Anthropic) : Option Usage :=
  if state.started then some state.usage else none

theorem Anthropic.accept_report (taken : state.accept event = .ok (next, kind)) :
    next.snapshot = (state.report event).or state.snapshot := by
  unfold Anthropic.report Anthropic.snapshot
  rw [taken]
  rcases Anthropic.accept_ok taken with ⟨usage, started, -⟩ | ⟨other, started, usage, -⟩
  · simp only [if_pos usage, started, if_true, Option.some_or]
  · simp only [if_neg other, started, usage, Option.none_or]

theorem Anthropic.consume_report (held : Anthropic × Writer) (event : AnthropicEvent) :
    (Anthropic.consume held event).1.1.snapshot = (held.1.report event).or held.1.snapshot := by
  unfold Anthropic.consume
  cases taken : held.1.accept event with
  | error text => simp [Anthropic.report, taken]
  | ok result =>
    have kept := Anthropic.accept_report taken
    cases written : held.2.write event.raw with
    | mk writer fault => cases fault <;> simpa using kept

/-- The result holds the snapshot, and nothing before there is one. -/
structure Anthropic.Settles (initial : Result) (state : Anthropic) : Prop where
  snapshot : state.started = true → state.resultUsage = state.usage
  nothing : state.started = false → state.resultUsage = initial.usage
  stopped : state.stopped = true → state.started = true

theorem Anthropic.consume_settles {initial : Result} (held : Anthropic × Writer)
    (event : AnthropicEvent) (settles : held.1.Settles initial) :
    (Anthropic.consume held event).1.1.Settles initial := by
  unfold Anthropic.consume
  cases taken : held.1.accept event with
  | error text => exact settles
  | ok result =>
    obtain ⟨next, kind⟩ := result
    have kept : next.Settles initial := by
      rcases Anthropic.accept_ok taken with ⟨-, started, -, result, -⟩ |
        ⟨-, started, usage, result, stopped⟩
      · exact ⟨fun _ => result, by simp [started], fun _ => started⟩
      · refine ⟨?_, ?_, ?_⟩
        · rw [started, usage, result]
          exact settles.snapshot
        · rw [started, result]
          exact settles.nothing
        · rw [started]
          rcases stopped with same | ⟨-, begun⟩
          · rw [same]
            exact settles.stopped
          · exact fun _ => begun
    cases written : held.2.write event.raw with
    | mk writer fault => cases fault <;> simpa using kept

def anthropicReports (upstream : Upstream) (deliveries : List Delivery) (initial : Result) :
    List Usage :=
  (Relay.visited Anthropic.consume (.start initial, .new deliveries)
    (readAnthropicEvents upstream).1).filterMap fun met => met.1.1.report met.2

theorem forwardAnthropicStream_usage (antigravity : Bool) (upstream : Upstream)
    (deliveries : List Delivery) (initial : Result) :
    (forwardAnthropicStream antigravity upstream deliveries initial).2.1.usage =
      (anthropicReports upstream deliveries initial).getLast?.getD initial.usage := by
  have kept := @Relay.feed_latest _ _ _ Anthropic.consume _ (fun held => held.1.snapshot)
    (fun held => held.1.report) Anthropic.consume_report (.start initial, .new deliveries)
    (readAnthropicEvents upstream).1
  have settles := @Relay.feed_preserves _ _ _ Anthropic.consume
    (fun held => held.1.Settles initial) Anthropic.consume_settles
    (.start initial, .new deliveries) ⟨by simp [Anthropic.start], fun _ => rfl, by simp [Anthropic.start]⟩
    (readAnthropicEvents upstream).1
  rw [show (Anthropic.start initial).snapshot = none from rfl, Option.or_none] at kept
  change (Anthropic.read upstream deliveries initial).1.1.snapshot =
    (anthropicReports upstream deliveries initial).getLast? at kept
  change (Anthropic.read upstream deliveries initial).1.1.Settles initial at settles
  rw [← kept]
  unfold forwardAnthropicStream
  generalize Anthropic.read upstream deliveries initial = outcome at *
  obtain ⟨⟨state, writer⟩, stop⟩ := outcome
  have reached : state.resultUsage = state.snapshot.getD initial.usage := by
    unfold Anthropic.snapshot
    cases started : state.started with
    | true => exact settles.snapshot started
    | false => exact settles.nothing started
  have whole : state.stopped = true → state.usage = state.snapshot.getD initial.usage := by
    intro stopped
    rw [Anthropic.snapshot, if_pos (settles.stopped stopped), Option.getD_some]
  dsimp only
  split
  · simpa using reached
  · simpa using reached
  · split
    · rename_i stopped
      exact whole stopped
    · simpa using reached

/-! ## Native Gemini -/

theorem nativeGeminiUsage_ne_zero (read : nativeGeminiUsage raw = .ok usage) : usage ≠ .zero := by
  obtain ⟨-, read⟩ := check_bind_eq_ok.mp read
  split at read
  · split at read
    · cases read
    split at read
    · cases read
    · rename_i some
      cases read
      intro zero
      have input := congrArg Usage.inputTokens zero
      have output := congrArg Usage.outputTokens zero
      simp only [Usage.zero] at input output
      exact some (.inr (.inl (by rw [input, output]; rfl)))
  · cases read

theorem frameUsage_ne_zero {finished : Bool}
    (read : frameUsage finished raw = .ok (some usage)) : usage ≠ .zero := by
  unfold frameUsage at read
  split at read
  · cases read
  split at read
  · cases read
  split at read
  · cases read
  split at read
  · split at read <;> cases read
  · obtain ⟨value, read, same⟩ := map_eq_ok.mp read
    cases same
    exact nativeGeminiUsage_ne_zero read

def NativeGemini.snapshot (state : NativeGemini) : Option Usage :=
  if state.hasUsage then some state.last else none

theorem NativeGemini.accept_ok {state next : NativeGemini} {data : Bytes}
    (taken : state.accept tools data = .ok next) :
    next.snapshot = (state.report tools data).or state.snapshot ∧
      ∀ usage ∈ state.report tools data, usage ≠ .zero := by
  have accepted := taken
  obtain ⟨frame, parsed, rest⟩ := bind_eq_ok.mp accepted
  obtain ⟨identified, same, rest⟩ := bind_eq_ok.mp rest
  obtain ⟨report, read, observed⟩ := bind_eq_ok.mp rest
  have kept : identified.hasUsage = state.hasUsage ∧ identified.last = state.last := by
    unfold NativeGemini.identify at same
    simp only [refuse_eq_ok] at same
    cases same.2.2.2
    exact ⟨rfl, rfl⟩
  have finished : next.finished = identified.finished := by
    unfold NativeGemini.observe at observed
    split at observed
    · cases observed
      rfl
    · rw [refuse_eq_ok] at observed
      cases observed.2
      rfl
  have told : state.report tools data = report := by
    simp only [NativeGemini.report, taken, parsed, finished, read]
    rfl
  rw [told]
  refine ⟨?_, ?_⟩
  · unfold NativeGemini.observe at observed
    split at observed
    · cases observed
      simp [NativeGemini.snapshot, kept]
    · rw [refuse_eq_ok] at observed
      cases observed.2
      rfl
  · rintro usage rfl
    exact frameUsage_ne_zero read

theorem forward_state {σ : Type} {accept : σ → Bytes → Except String σ} {encode : Bytes → Bytes}
    (held : σ × Writer) (event : Bytes) :
    (forward accept encode held event).1.1 = (accept held.1 event).toOption.getD held.1 := by
  cases taken : accept held.1 event with
  | error text => rw [forward_error taken]; rfl
  | ok next => rw [forward_ok taken]; rfl

theorem NativeGemini.forward_report (tools : List Text) (held : NativeGemini × Writer)
    (event : Bytes) :
    (forward (NativeGemini.accept tools) block held event).1.1.snapshot =
      (held.1.report tools event).or held.1.snapshot := by
  rw [forward_state]
  cases taken : held.1.accept tools event with
  | error text => simp [NativeGemini.report, taken, Except.toOption]
  | ok next => exact (NativeGemini.accept_ok taken).1

def nativeGeminiReports (tools : List Text) (upstream : Upstream) (deliveries : List Delivery) :
    List Usage :=
  (Relay.visited (forward (NativeGemini.accept tools) block) (.start, .new deliveries)
    (readGeminiEvents upstream).1).filterMap fun met => met.1.1.report tools met.2

theorem NativeGemini.read_snapshot (tools : List Text) (upstream : Upstream)
    (deliveries : List Delivery) :
    (NativeGemini.read tools upstream deliveries).1.1.snapshot =
      (nativeGeminiReports tools upstream deliveries).getLast? := by
  have kept := @Relay.feed_latest _ _ _ (forward (NativeGemini.accept tools) block) _
    (fun held => held.1.snapshot) (fun held => held.1.report tools)
    (NativeGemini.forward_report tools) (.start, .new deliveries) (readGeminiEvents upstream).1
  rwa [show NativeGemini.start.snapshot = none from rfl, Option.or_none] at kept

theorem nativeGeminiReports_ne_zero
    (member : usage ∈ nativeGeminiReports tools upstream deliveries) :
    usage ≠ .zero := by
  obtain ⟨met, -, told⟩ := List.mem_filterMap.mp member
  cases taken : met.1.1.accept tools met.2 with
  | error text => simp [NativeGemini.report, taken] at told
  | ok next => exact (NativeGemini.accept_ok taken).2 usage told

/-! ## Native Responses -/

theorem nativeResponsesUsage_ne_zero
    (read : nativeResponsesUsage raw = .ok usage) : usage ≠ .zero := by
  obtain ⟨-, read⟩ := check_bind_eq_ok.mp read
  obtain ⟨-, read⟩ := check_bind_eq_ok.mp read
  obtain ⟨-, read⟩ := check_bind_eq_ok.mp read
  split at read
  · rw [refuse_eq_ok] at read
    obtain ⟨valid, same⟩ := read
    cases same
    intro zero
    have input := congrArg Usage.inputTokens zero
    have output := congrArg Usage.outputTokens zero
    simp only [Usage.zero] at input output
    simp [input, output] at valid
  · cases read

theorem validateNativeResponse_usage {response : Option Json}
    (valid : validateNativeResponse model tools response = .ok usage) :
    ∃ raw, nativeResponsesUsage raw = .ok usage := by
  unfold validateNativeResponse at valid
  split at valid
  · cases valid
  split at valid
  · cases valid
  rw [refuse_eq_ok] at valid
  obtain ⟨-, valid⟩ := valid
  split at valid
  · exact ⟨_, (check_bind_eq_ok.mp valid).2⟩
  · exact ⟨_, (check_bind_eq_ok.mp valid).2⟩
  · cases valid

def NativeResponses.snapshot (state : NativeResponses) : Option Usage :=
  if state.completed then some state.usage else none

/-- An accepted event leaves the state, marks the end, or completes the response. -/
theorem NativeResponses.accept_ok {state next : NativeResponses} {event : Bytes}
    (taken : state.accept model tools event = .ok next) :
    (next.completed = state.completed ∧ next.usage = state.usage) ∨
      (state.completed = false ∧ next.completed = true ∧
        ∃ raw, nativeResponsesUsage raw = .ok next.usage) := by
  unfold NativeResponses.accept at taken
  split at taken
  · rw [refuse_eq_ok] at taken
    cases taken.2
    exact .inl ⟨rfl, rfl⟩
  rw [refuse_eq_ok] at taken
  obtain ⟨open', taken⟩ := taken
  split at taken
  · cases taken
  split at taken
  · cases taken
  obtain ⟨-, taken⟩ := check_bind_eq_ok.mp taken
  split at taken
  · obtain ⟨usage, valid, same⟩ := bind_eq_ok.mp taken
    cases same
    exact .inr ⟨by simpa using (not_or.mp open').1, rfl, validateNativeResponse_usage valid⟩
  · cases taken
    exact .inl ⟨rfl, rfl⟩

theorem NativeResponses.forward_report (model : Text) (tools : List Text)
    (held : NativeResponses × Writer) (event : Bytes) :
    (forward (NativeResponses.accept model tools) responseBlock held event).1.1.snapshot =
      (held.1.report model tools event).or held.1.snapshot := by
  rw [forward_state]
  cases taken : held.1.accept model tools event with
  | error text => simp [NativeResponses.report, taken, Except.toOption]
  | ok next =>
    simp only [NativeResponses.report, taken, NativeResponses.snapshot, Except.toOption,
      Option.getD_some]
    rcases NativeResponses.accept_ok taken with ⟨completed, usage⟩ | ⟨before, completed, -⟩
    · cases done : held.1.completed <;> simp [completed, usage, done]
    · simp [before, completed]

def nativeResponsesReports (model : Text) (tools : List Text) (upstream : Upstream)
    (deliveries : List Delivery) : List Usage :=
  (Relay.visited (forward (NativeResponses.accept model tools) responseBlock)
    (.start, .new deliveries) (readResponseEvents upstream).1).filterMap
    fun met => met.1.1.report model tools met.2

theorem NativeResponses.read_snapshot (model : Text) (tools : List Text) (upstream : Upstream)
    (deliveries : List Delivery) :
    (NativeResponses.read model tools upstream deliveries).1.1.snapshot =
      (nativeResponsesReports model tools upstream deliveries).getLast? := by
  have kept := @Relay.feed_latest _ _ _
    (forward (NativeResponses.accept model tools) responseBlock) _
    (fun held => held.1.snapshot) (fun held => held.1.report model tools)
    (NativeResponses.forward_report model tools) (.start, .new deliveries)
    (readResponseEvents upstream).1
  rwa [show NativeResponses.start.snapshot = none from rfl, Option.or_none] at kept

theorem nativeResponsesReports_ne_zero
    (member : usage ∈ nativeResponsesReports model tools upstream deliveries) :
    usage ≠ .zero := by
  obtain ⟨met, -, told⟩ := List.mem_filterMap.mp member
  unfold NativeResponses.report at told
  split at told
  · cases told
  · rename_i next taken
    split at told
    · rename_i completes
      cases told
      rcases NativeResponses.accept_ok taken with ⟨completed, -⟩ | ⟨-, -, raw, read⟩
      · rw [completes.1, completes.2] at completed
        cases completed
      · exact nativeResponsesUsage_ne_zero read
    · cases told

/-! ## Every streaming adapter -/

inductive StreamingAdapter where
  | codex
  | anthropic
  | nativeGemini
  | nativeResponses
  deriving DecidableEq, Repr

/-- A request to the upstream and what becomes of it. Nothing has been counted before it. -/
structure StreamRun where
  antigravity : Bool
  model : Text
  tools : List Text
  upstream : Upstream
  deliveries : List Delivery
  initial : Result
  unused : initial.usage = .zero

namespace StreamingAdapter

def forward : StreamingAdapter → StreamRun → Writer × Result × Option Failure
  | .codex, run => forwardCodexStream run.upstream run.deliveries run.initial
  | .anthropic, run =>
    forwardAnthropicStream run.antigravity run.upstream run.deliveries run.initial
  | .nativeGemini, run => forwardNativeGeminiStream run.antigravity run.model run.tools run.upstream
      run.deliveries run.initial
  | .nativeResponses, run => forwardNativeResponsesStream run.antigravity run.model run.tools
      run.upstream run.deliveries run.initial

/-- The complete cumulative usages that were parsed and accepted before the end of the run. -/
def reports : StreamingAdapter → StreamRun → List Usage
  | .codex, run => codexReports run.upstream (.new run.deliveries)
  | .anthropic, run => anthropicReports run.upstream run.deliveries run.initial
  | .nativeGemini, run => nativeGeminiReports run.tools run.upstream run.deliveries
  | .nativeResponses, run => nativeResponsesReports run.model run.tools run.upstream run.deliveries

/-- Adapters that settle each report when it is accepted, and not at the end. -/
def settlesAtOnce : StreamingAdapter → Bool
  | .codex | .anthropic => true
  | .nativeGemini | .nativeResponses => false

/-- The reading comes to its end without a fault, and to the completion of the response. -/
def Completes : StreamingAdapter → StreamRun → Prop
  | .codex, run => (streamSSE run.upstream (.new run.deliveries)).2.2 = none
  | .anthropic, run => (Anthropic.read run.upstream run.deliveries run.initial).1.1.stopped = true
  | .nativeGemini, run => (NativeGemini.read run.tools run.upstream run.deliveries).2 = none ∧
      (NativeGemini.read run.tools run.upstream run.deliveries).1.1.complete = true
  | .nativeResponses, run =>
    (NativeResponses.read run.model run.tools run.upstream run.deliveries).2 = none ∧
    (readResponseEvents run.upstream).2 = none ∧
    (NativeResponses.read run.model run.tools run.upstream run.deliveries).1.1.completed = true

/-- A usage that is only taken at the end survives exactly if the end is reached or there was
none. -/
theorem survives_iff_of_last {reports : List Usage} {result : Result} {completes : Prop}
    (nonzero : ∀ usage ∈ reports, usage ≠ .zero)
    (reached : completes → ∀ usage ∈ reports.getLast?, result.usage = usage)
    (lost : ¬ completes → result.usage = .zero) :
    Survives reports.getLast? result ↔ reports = [] ∨ completes := by
  constructor
  · intro survives
    by_contra neither
    obtain ⟨some, unfinished⟩ := not_or.mp neither
    have last := List.getLast?_eq_some_getLast some
    refine nonzero _ (List.getLast_mem some) ?_
    rw [← survives _ last, lost unfinished]
  · rintro (rfl | completes)
    · intro usage member
      cases member
    · exact reached completes

/-- The last report is returned whenever a run ends, unless a native adapter ends early: it takes
the usage only at the end. -/
theorem survives_iff (adapter : StreamingAdapter) (run : StreamRun) :
    Survives (adapter.reports run).getLast? (adapter.forward run).2.1 ↔
      adapter.settlesAtOnce = true ∨ adapter.reports run = [] ∨ adapter.Completes run := by
  cases adapter with
  | codex =>
    refine ⟨fun _ => .inl rfl, fun _ usage last => ?_⟩
    have kept := streamSSE_usage run.upstream (.new run.deliveries)
    change (codexReports run.upstream (.new run.deliveries)).getLast? = some usage at last
    rw [last] at kept
    change (streamSSE run.upstream (.new run.deliveries)).1.usage = usage
    unfold Part.of at kept
    split at kept
    · exact Option.some.inj kept
    · cases kept
  | anthropic =>
    refine ⟨fun _ => .inl rfl, fun _ usage last => ?_⟩
    have kept := forwardAnthropicStream_usage run.antigravity run.upstream run.deliveries run.initial
    rw [show (anthropicReports run.upstream run.deliveries run.initial).getLast? = some usage
      from last] at kept
    exact kept
  | nativeGemini =>
    simp only [settlesAtOnce, Bool.false_eq_true, false_or]
    have kept := NativeGemini.read_snapshot run.tools run.upstream run.deliveries
    refine survives_iff_of_last (fun usage member => nativeGeminiReports_ne_zero member) ?_ ?_
    · rintro ⟨fine, complete⟩ usage last
      rw [show (nativeGeminiReports run.tools run.upstream run.deliveries).getLast? = some usage
        from last] at kept
      simp only [forward, forwardNativeGeminiStream, fine, complete, if_true]
      unfold NativeGemini.snapshot at kept
      split at kept
      · exact Option.some.inj kept
      · cases kept
    · intro unfinished
      simp only [Completes, not_and_or, Bool.not_eq_true] at unfinished
      simp only [forward, forwardNativeGeminiStream]
      cases fault : (NativeGemini.read run.tools run.upstream run.deliveries).2 with
      | some fault => simp [run.unused]
      | none =>
        have incomplete := unfinished.resolve_left (not_not.mpr fault)
        simp [incomplete, run.unused]
  | nativeResponses =>
    simp only [settlesAtOnce, Bool.false_eq_true, false_or]
    have kept := NativeResponses.read_snapshot run.model run.tools run.upstream run.deliveries
    refine survives_iff_of_last (fun usage member => nativeResponsesReports_ne_zero member) ?_ ?_
    · rintro ⟨fine, read, completed⟩ usage last
      rw [show (nativeResponsesReports run.model run.tools run.upstream run.deliveries).getLast? =
        some usage from last] at kept
      simp only [forward, forwardNativeResponsesStream, fine, read, completed, if_true]
      unfold NativeResponses.snapshot at kept
      rw [if_pos completed] at kept
      exact Option.some.inj kept
    · intro unfinished
      simp only [Completes, not_and_or, Bool.not_eq_true] at unfinished
      simp only [forward, forwardNativeResponsesStream]
      cases fault : (NativeResponses.read run.model run.tools run.upstream run.deliveries).2 with
      | some fault => simp [run.unused]
      | none =>
        cases ending : (readResponseEvents run.upstream).2 with
        | some fault => simp [run.unused]
        | none =>
          have incomplete := (unfinished.resolve_left (not_not.mpr fault)).resolve_left
            (not_not.mpr ending)
          simp [incomplete, run.unused]

end StreamingAdapter

def completedEvent : Bytes := Utf8.encode
  "\x7b\"type\":\"response.completed\",\"response\":\x7b\"status\":\"completed\",\"output\":[],\"usage\":\x7b\"input_tokens\":3,\"output_tokens\":2\x7d\x7d\x7d".toList

/-- The client goes away after the last event that carries an answer. -/
def closedAtTheEnd : StreamRun where
  antigravity := true
  model := "m".toList
  tools := []
  upstream := ⟨block completedEvent ++ block doneEvent, none, 0⟩
  deliveries := [.written, .broken 0]
  initial := ⟨[], [], .zero, 0, false⟩
  unused := rfl

/-- It has the whole answer and pays for nothing. -/
theorem closedAtTheEnd_unsettled :
    (StreamingAdapter.nativeResponses.forward closedAtTheEnd).1.sent =
        responseBlock completedEvent ∧
      (StreamingAdapter.nativeResponses.reports closedAtTheEnd).getLast? =
        some { Usage.zero with inputTokens := 3, outputTokens := 2 } ∧
      (StreamingAdapter.nativeResponses.forward closedAtTheEnd).2.1.usage = .zero := by
  decide +kernel

end Proxy
