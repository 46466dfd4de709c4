import CodexGateway.Proxy.Survival
import CodexGateway.Store.Usage

/-! # Usage that can be recorded

`CompleteUsageRequest` refuses counts that contradict each other, and with them the whole
completion.
-/

namespace Proxy

open EventStream
open Except (bind_eq_ok check_bind_eq_ok refuse_eq_ok throw_eq_error error_bind map_eq_ok)

variable {data : Bytes}

/-- The token counts of a completion, as `api.go` copies them. -/
def Usage.metrics (usage : Usage) : Store.UsageMetrics where
  inputTokens := usage.inputTokens
  cachedInputTokens := usage.cachedTokens
  cacheWriteTokens := usage.cacheWriteTokens
  cacheWriteTokensPresent := usage.cacheWriteTokensPresent
  cacheWrite5mTokens := usage.cacheWrite5mTokens
  cacheWrite1hTokens := usage.cacheWrite1hTokens
  cacheWriteTTLPresent := usage.cacheWriteTTLPresent
  outputTokens := usage.outputTokens
  reasoningTokens := usage.reasoningTokens

/-- The checks of `CompleteUsageRequest` on the counts accept the usage. -/
def Recordable (usage : Usage) : Prop := Store.validateUsageMetrics usage.metrics = .ok ()

instance (usage : Usage) : Decidable (Recordable usage) :=
  inferInstanceAs (Decidable (_ = _))

theorem validateCacheWriteTTL_ok {total fiveMinute oneHour : Int} {totalPresent ttlPresent : Bool} :
    Store.validateCacheWriteTTL total fiveMinute oneHour totalPresent ttlPresent = .ok () ↔
      0 ≤ total ∧ 0 ≤ fiveMinute ∧ 0 ≤ oneHour ∧
        (ttlPresent = true → totalPresent = true ∧ fiveMinute + oneHour = total) ∧
        (ttlPresent = false → fiveMinute = 0 ∧ oneHour = 0) := by
  unfold Store.validateCacheWriteTTL
  rw [refuse_eq_ok]
  cases ttlPresent with
  | true =>
    rw [if_pos rfl, refuse_eq_ok]
    simp only [not_or, not_lt, Bool.not_eq_false, ne_eq, not_not, gt_iff_lt, and_true,
      forall_const, reduceCtorEq, false_implies]
    constructor
    · rintro ⟨nonneg, present, within, rest⟩
      exact ⟨nonneg.1, nonneg.2.1, nonneg.2.2, present, by omega⟩
    · rintro ⟨total, five, one, present, rest⟩
      exact ⟨⟨total, five, one⟩, present, by omega, by omega⟩
  | false =>
    rw [if_neg (by decide), refuse_eq_ok]
    simp only [not_or, not_lt, ne_eq, not_not, and_true, forall_const, reduceCtorEq,
      false_implies, true_and, and_assoc]

/-- The totals of a usage whose input is still to be filled in. -/
structure Usage.Counted (usage : Usage) : Prop where
  cached : 0 ≤ usage.cachedTokens
  cacheWrite : 0 ≤ usage.cacheWriteTokens
  output : 0 ≤ usage.outputTokens
  reasoning : 0 ≤ usage.reasoningTokens
  ttl : 0 ≤ usage.cacheWrite5mTokens ∧ 0 ≤ usage.cacheWrite1hTokens
  ttlPresent : usage.cacheWriteTTLPresent = true → usage.cacheWriteTokensPresent = true ∧
    usage.cacheWrite5mTokens + usage.cacheWrite1hTokens = usage.cacheWriteTokens
  ttlAbsent : usage.cacheWriteTTLPresent = false →
    usage.cacheWrite5mTokens = 0 ∧ usage.cacheWrite1hTokens = 0

/-- What a usage must satisfy to be recorded. -/
structure Usage.Sound (usage : Usage) : Prop extends usage.Counted where
  input : usage.cachedTokens + usage.cacheWriteTokens ≤ usage.inputTokens

theorem recordable_iff {usage : Usage} : Recordable usage ↔ usage.Sound := by
  unfold Recordable Store.validateUsageMetrics
  simp only [throw_eq_error, error_bind, refuse_eq_ok,
    validateCacheWriteTTL_ok, Usage.metrics, not_or, not_lt, gt_iff_lt]
  constructor
  · rintro ⟨⟨-, cached, cacheWrite, output, reasoning, -, within⟩, -, five, one, present, absent⟩
    exact ⟨⟨cached, cacheWrite, output, reasoning, ⟨five, one⟩, present, absent⟩, by omega⟩
  · rintro ⟨⟨cached, cacheWrite, output, reasoning, ⟨five, one⟩, present, absent⟩, within⟩
    exact ⟨⟨by omega, cached, cacheWrite, output, reasoning, by omega, by omega⟩, cacheWrite, five,
      one, present, absent⟩

theorem sound_zero : Usage.zero.Sound := recordable_iff.mp (by decide)

/-! ## Adapters that check their counts -/

theorem nativeCount_nonneg {raw : Json} {count : Int} (read : nativeCount raw = some count) :
    0 ≤ count := by
  simpa using (Option.filter_eq_some_iff.mp read).2

theorem anthropicCount_nonneg {fields : List (Text × Json)} {key : String} {held count : Int}
    (nonneg : 0 ≤ held) (read : anthropicCount fields key held = .ok count) : 0 ≤ count := by
  unfold anthropicCount at read
  split at read
  · cases read
    exact nonneg
  split at read
  · rename_i value found
    cases read
    exact nativeCount_nonneg found
  · cases read

theorem Usage.Counted.withoutTTL {usage : Usage} (cached : 0 ≤ usage.cachedTokens)
    (cacheWrite : 0 ≤ usage.cacheWriteTokens) (output : 0 ≤ usage.outputTokens)
    (reasoning : 0 ≤ usage.reasoningTokens) : usage.withoutTTL.Counted :=
  ⟨cached, cacheWrite, output, reasoning, ⟨le_refl 0, le_refl 0⟩, by simp [Usage.withoutTTL],
    fun _ => ⟨rfl, rfl⟩⟩

theorem anthropicTTL_counted {raw : Json} {usage next : Usage} (counted : usage.Counted)
    (read : anthropicTTL raw usage = .ok next) :
    next.Counted := by
  have reset := Usage.Counted.withoutTTL counted.cached counted.cacheWrite counted.output
    counted.reasoning
  unfold anthropicTTL at read
  split at read
  · cases read
    exact reset
  split at read
  · cases read
  obtain ⟨-, read⟩ := check_bind_eq_ok.mp read
  dsimp only at read
  split at read
  · rename_i short long shortRead longRead
    rw [refuse_eq_ok] at read
    obtain ⟨consistent, same⟩ := read
    cases same
    simp only [not_or, not_lt, Bool.not_eq_false, ne_eq, not_not] at consistent
    obtain ⟨_, -, shortCount⟩ := Option.bind_eq_some_iff.mp shortRead
    obtain ⟨_, -, longCount⟩ := Option.bind_eq_some_iff.mp longRead
    exact ⟨counted.cached, counted.cacheWrite, counted.output, counted.reasoning,
      ⟨nativeCount_nonneg shortCount, nativeCount_nonneg longCount⟩,
      fun _ => ⟨consistent.1, consistent.2.2⟩, by simp⟩
  · cases read
    exact reset

theorem anthropicCounts_counted {fields : List (Text × Json)} {prior usage : Usage} {plain : Int}
    (sound : prior.Counted) (read : anthropicCounts fields prior = .ok (plain, usage)) :
    usage.Counted := by
  obtain ⟨_, -, read⟩ := bind_eq_ok.mp read
  obtain ⟨cached, readCached, read⟩ := bind_eq_ok.mp read
  obtain ⟨cacheWrite, readWrite, read⟩ := bind_eq_ok.mp read
  obtain ⟨output, readOutput, read⟩ := bind_eq_ok.mp read
  have cachedNonneg := anthropicCount_nonneg sound.cached readCached
  have writeNonneg := anthropicCount_nonneg sound.cacheWrite readWrite
  have outputNonneg := anthropicCount_nonneg sound.output readOutput
  cases read
  split
  · exact ⟨cachedNonneg, writeNonneg, outputNonneg, sound.reasoning, ⟨le_refl 0, le_refl 0⟩,
      by simp [Usage.withoutTTL], fun _ => ⟨rfl, rfl⟩⟩
  · rename_i absent
    -- the total is the prior one, and so is its breakdown
    have same : cacheWrite = prior.cacheWriteTokens := by
      rw [Option.not_isSome_iff_eq_none] at absent
      unfold anthropicCount at readWrite
      rw [absent] at readWrite
      cases readWrite
      rfl
    exact ⟨cachedNonneg, writeNonneg, outputNonneg, sound.reasoning, sound.ttl,
      fun present => same ▸ sound.ttlPresent present, sound.ttlAbsent⟩

theorem anthropicUsage_sound {raw : Option Json} {prior usage : Usage} (sound : prior.Sound)
    (read : anthropicUsage raw prior = .ok usage) : usage.Sound := by
  unfold anthropicUsage at read
  split at read
  · cases read
  obtain ⟨⟨plain, counts⟩, readCounts, read⟩ := bind_eq_ok.mp read
  obtain ⟨final, readTTL, read⟩ := bind_eq_ok.mp read
  have counted := anthropicCounts_counted sound.toCounted readCounts
  have counted' : final.Counted := by
    unfold anthropicBreakdown at readTTL
    split at readTTL
    · cases readTTL
      exact counted
    · exact anthropicTTL_counted counted readTTL
  unfold anthropicTotal at read
  rw [refuse_eq_ok] at read
  obtain ⟨inRange, read⟩ := read
  dsimp only at read
  rw [refuse_eq_ok] at read
  cases read.2
  rw [not_or, not_lt] at inRange
  exact ⟨⟨counted'.cached, counted'.cacheWrite, counted'.output, counted'.reasoning, counted'.ttl,
    counted'.ttlPresent, counted'.ttlAbsent⟩, by have := inRange.1; dsimp only; omega⟩

theorem sound_of_counts {input cached output reasoning : Int} (cachedNonneg : 0 ≤ cached)
    (outputNonneg : 0 ≤ output) (reasoningNonneg : 0 ≤ reasoning) (within : cached ≤ input) :
    Usage.Sound { Usage.zero with
      inputTokens := input
      cachedTokens := cached
      outputTokens := output
      reasoningTokens := reasoning } :=
  ⟨⟨cachedNonneg, le_refl 0, outputNonneg, reasoningNonneg, ⟨le_refl 0, le_refl 0⟩,
    by simp [Usage.zero], fun _ => ⟨rfl, rfl⟩⟩, by simpa [Usage.zero] using within⟩

theorem nativeGeminiUsage_sound {raw : Option Json} {usage : Usage}
    (read : nativeGeminiUsage raw = .ok usage) : usage.Sound := by
  obtain ⟨-, read⟩ := check_bind_eq_ok.mp read
  split at read
  · simp only [refuse_eq_ok] at read
    obtain ⟨valid, -, same⟩ := read
    cases same
    simp only [not_or, not_lt] at valid
    exact sound_of_counts (by omega) (by omega) (by omega) (by omega)
  · cases read

theorem nativeResponsesUsage_sound {raw : Option Json} {usage : Usage}
    (read : nativeResponsesUsage raw = .ok usage) : usage.Sound := by
  obtain ⟨-, read⟩ := check_bind_eq_ok.mp read
  obtain ⟨-, read⟩ := check_bind_eq_ok.mp read
  obtain ⟨-, read⟩ := check_bind_eq_ok.mp read
  split at read
  · rw [refuse_eq_ok] at read
    obtain ⟨valid, same⟩ := read
    cases same
    simp only [not_or, not_lt] at valid
    exact sound_of_counts (by omega) (by omega) (by omega) (by omega)
  · cases read

/-! ## Runs of these adapters -/

theorem Anthropic.consume_sound (held : Anthropic × Writer) (event : AnthropicEvent)
    (sound : held.1.usage.Sound ∧ held.1.resultUsage.Sound) :
    (Anthropic.consume held event).1.1.usage.Sound ∧
      (Anthropic.consume held event).1.1.resultUsage.Sound := by
  unfold Anthropic.consume
  cases taken : held.1.accept event with
  | error text => exact sound
  | ok result =>
    obtain ⟨next, kind⟩ := result
    have kept : next.usage.Sound ∧ next.resultUsage.Sound := by
      rcases Anthropic.accept_ok taken with ⟨-, -, -, result, reported, prior, known, read⟩ |
        ⟨-, -, usage, result, -⟩
      · have priorSound : prior.Sound := by
          rcases known with rfl | ⟨-, rfl⟩
          · exact sound_zero
          · exact sound.1
        have usage := anthropicUsage_sound priorSound read
        exact ⟨usage, result ▸ usage⟩
      · rw [usage, result]
        exact sound
    cases written : held.2.write event.raw with
    | mk writer fault => cases fault <;> simpa using kept

theorem forwardAnthropicStream_sound (antigravity : Bool) (upstream : Upstream)
    (deliveries : List Delivery) {initial : Result} (unused : initial.usage = .zero) :
    (forwardAnthropicStream antigravity upstream deliveries initial).2.1.usage.Sound := by
  have sound := @Relay.feed_preserves _ _ _ Anthropic.consume
    (fun held => held.1.usage.Sound ∧ held.1.resultUsage.Sound) Anthropic.consume_sound
    (.start initial, .new deliveries) ⟨sound_zero, by simpa [Anthropic.start, unused] using sound_zero⟩
    (readAnthropicEvents upstream).1
  unfold forwardAnthropicStream Anthropic.read
  generalize Relay.feed Anthropic.consume (Anthropic.start initial, Writer.new deliveries)
    (readAnthropicEvents upstream).1 = outcome at *
  obtain ⟨⟨state, writer⟩, stop⟩ := outcome
  dsimp only at sound ⊢
  split
  · simpa using sound.2
  · simpa using sound.2
  · split
    · exact sound.1
    · simpa using sound.2

theorem anthropicBody_sound {countTokens : Bool} {initial result : Result}
    (unused : initial.usage = .zero) (read : anthropicBody countTokens data initial = .ok result) :
    result.usage.Sound := by
  unfold anthropicBody at read
  split at read
  · cases read
  split at read
  · rw [refuse_eq_ok] at read
    cases read.2
    exact unused ▸ sound_zero
  split at read
  · rw [refuse_eq_ok] at read
    obtain ⟨usage, counted, rest⟩ := bind_eq_ok.mp read.2
    simp only [throw_eq_error, error_bind, refuse_eq_ok] at rest
    cases rest.2
    exact anthropicUsage_sound sound_zero counted
  · cases read

theorem forwardAnthropicBody_sound (antigravity countTokens : Bool) (upstream : Upstream)
    (deliveries : List Delivery) {initial : Result} (unused : initial.usage = .zero) :
    (forwardAnthropicBody antigravity countTokens upstream deliveries initial).2.1.usage.Sound := by
  have nothing : initial.usage.Sound := unused ▸ sound_zero
  unfold forwardAnthropicBody
  split
  · exact nothing
  split
  · exact nothing
  split
  · exact nothing
  · rename_i result read
    have sound := anthropicBody_sound unused read
    dsimp only
    split
    · simpa using sound
    · exact sound

theorem NativeGemini.accept_sound {tools : List Text} {state next : NativeGemini}
    (sound : state.last.Sound) (taken : state.accept tools data = .ok next) : next.last.Sound := by
  obtain ⟨frame, -, rest⟩ := bind_eq_ok.mp taken
  obtain ⟨identified, same, rest⟩ := bind_eq_ok.mp rest
  obtain ⟨report, read, observed⟩ := bind_eq_ok.mp rest
  have kept : identified.last = state.last := by
    unfold NativeGemini.identify at same
    simp only [refuse_eq_ok] at same
    cases same.2.2.2
    rfl
  unfold NativeGemini.observe at observed
  split at observed
  · cases observed
    exact kept ▸ sound
  · rw [refuse_eq_ok] at observed
    cases observed.2
    unfold frameUsage at read
    split at read
    · cases read
    split at read
    · cases read
    split at read
    · cases read
    split at read
    · split at read <;> cases read
    · obtain ⟨value, counted, same⟩ := map_eq_ok.mp read
      cases same
      exact nativeGeminiUsage_sound counted

/-- What every accepted event keeps holds at the end of a checked stream. -/
theorem feed_forward_preserves {σ : Type} {accept : σ → Bytes → Except String σ}
    {encode : Bytes → Bytes} {P : σ → Prop}
    (keeps : ∀ {state next event}, P state → accept state event = .ok next → P next)
    {held : σ × Writer} (start : P held.1) (events : List Bytes) :
    P (Relay.feed (forward accept encode) held events).1.1 := by
  refine @Relay.feed_preserves _ _ _ (forward accept encode) (fun held => P held.1) ?_ held start events
  intro held event before
  rw [forward_state]
  cases taken : accept held.1 event with
  | error text => exact before
  | ok next => exact keeps before taken

theorem forwardNativeGeminiStream_sound (antigravity : Bool) (model : Text) (tools : List Text)
    (upstream : Upstream) (deliveries : List Delivery) {initial : Result}
    (unused : initial.usage = .zero) :
    (forwardNativeGeminiStream antigravity model tools upstream deliveries
      initial).2.1.usage.Sound := by
  have sound : (NativeGemini.read tools upstream deliveries).1.1.last.Sound :=
    @feed_forward_preserves _ _ block (fun state : NativeGemini => state.last.Sound)
      (fun sound taken => NativeGemini.accept_sound sound taken) (.start, .new deliveries) sound_zero _
  have nothing : initial.usage.Sound := unused ▸ sound_zero
  unfold forwardNativeGeminiStream
  dsimp only
  split
  · simpa using nothing
  · split
    · exact sound
    · simpa using nothing

theorem validateNativeGemini_sound {tools : List Text} {usage : Usage}
    (valid : validateNativeGemini tools data = .ok usage) : usage.Sound := by
  unfold validateNativeGemini at valid
  split at valid
  · cases valid
  split at valid
  · rw [refuse_eq_ok] at valid
    exact nativeGeminiUsage_sound valid.2
  · cases valid

theorem forwardNativeGeminiBody_sound (antigravity : Bool) (model : Text) (tools : List Text)
    (upstream : Upstream) (deliveries : List Delivery) {initial : Result}
    (unused : initial.usage = .zero) :
    (forwardNativeGeminiBody antigravity model tools upstream deliveries initial).2.1.usage.Sound := by
  have nothing : initial.usage.Sound := unused ▸ sound_zero
  unfold forwardNativeGeminiBody
  split
  · simpa using nothing
  split
  · simpa using nothing
  split
  · simpa using nothing
  · rename_i usage valid
    dsimp only
    split
    · simpa using nothing
    · exact validateNativeGemini_sound valid

theorem forwardNativeResponsesStream_sound (antigravity : Bool) (model : Text) (tools : List Text)
    (upstream : Upstream) (deliveries : List Delivery) {initial : Result}
    (unused : initial.usage = .zero) :
    (forwardNativeResponsesStream antigravity model tools upstream deliveries
      initial).2.1.usage.Sound := by
  have sound : (NativeResponses.read model tools upstream deliveries).1.1.usage.Sound := by
    refine @feed_forward_preserves _ _ responseBlock (fun state : NativeResponses => state.usage.Sound)
      ?_ (.start, .new deliveries) sound_zero _
    intro state next event sound taken
    rcases NativeResponses.accept_ok taken with ⟨-, same⟩ | ⟨-, -, raw, read⟩
    · exact same ▸ sound
    · exact nativeResponsesUsage_sound read
  have nothing : initial.usage.Sound := unused ▸ sound_zero
  unfold forwardNativeResponsesStream
  dsimp only
  split
  · simpa using nothing
  · simpa using nothing
  · split
    · exact sound
    · simpa using nothing

theorem forwardNativeResponsesBody_sound (antigravity : Bool) (model : Text) (tools : List Text)
    (upstream : Upstream) (deliveries : List Delivery) {initial : Result}
    (unused : initial.usage = .zero) :
    (forwardNativeResponsesBody antigravity model tools upstream deliveries
      initial).2.1.usage.Sound := by
  have nothing : initial.usage.Sound := unused ▸ sound_zero
  unfold forwardNativeResponsesBody
  split
  · simpa using nothing
  split
  · simpa using nothing
  split
  · simpa using nothing
  · rename_i usage valid
    dsimp only
    split
    · simpa using nothing
    · obtain ⟨raw, read⟩ := validateNativeResponse_usage valid
      exact nativeResponsesUsage_sound read

/-! ## Codex -/

theorem framesFrom_ne_nil (held lines : List Bytes) : framesFrom held lines ≠ [] := by
  induction lines generalizing held with
  | nil => simp [framesFrom]
  | cons line lines ih =>
    unfold framesFrom
    split
    · simp
    · exact ih _

/-- What is told before the end of an event is told by the events before it. -/
theorem told_foldl_line (lines held : List Bytes) (told : Told) :
    (lines.foldl CodexStream.line ⟨gather held, told⟩).told =
      (framesFrom held lines).dropLast.foldl (fun told frame => told.observe (gather frame)) told := by
  induction lines generalizing held told with
  | nil => rfl
  | cons line lines ih =>
    by_cases blank : line = []
    · simp only [List.foldl_cons, framesFrom, if_pos blank, CodexStream.line,
        List.dropLast_cons_of_ne_nil (framesFrom_ne_nil [] lines)]
      exact ih [] _
    · have longer : gatherLine (gather held) line = gather (held ++ [line]) := by
        simp [gather]
      simp only [List.foldl_cons, framesFrom, if_neg blank, CodexStream.line, longer]
      exact ih (held ++ [line]) told

theorem dropLast_framesFrom_prefix (held lines rest : List Bytes) :
    (framesFrom held lines).dropLast <+: framesFrom held (lines ++ rest) := by
  induction lines generalizing held with
  | nil => exact List.nil_prefix
  | cons line lines ih =>
    by_cases blank : line = []
    · simp only [List.cons_append, framesFrom, if_pos blank,
        List.dropLast_cons_of_ne_nil (framesFrom_ne_nil [] lines)]
      exact (List.prefix_cons_inj held).mpr (ih [])
    · simp only [List.cons_append, framesFrom, if_neg blank]
      exact ih (held ++ [line])

theorem framesFrom_split {held lines : List Bytes} {before after : List (List Bytes)}
    {frame : List Bytes} (split : framesFrom held lines = before ++ frame :: after)
    (ended : after ≠ []) :
    ∃ front rest, lines = front ++ rest ∧ (framesFrom held front).dropLast = before ++ [frame] := by
  induction lines generalizing held before with
  | nil =>
    have length := congrArg List.length split
    have positive := List.length_pos_of_ne_nil ended
    simp [framesFrom] at length
    omega
  | cons line lines ih =>
    by_cases blank : line = []
    · rw [framesFrom, if_pos blank] at split
      cases before with
      | nil =>
        obtain ⟨rfl, rfl⟩ := List.cons.inj split
        exact ⟨[line], lines, rfl, by simp [framesFrom, blank]⟩
      | cons first before =>
        obtain ⟨rfl, remaining⟩ := List.cons.inj split
        obtain ⟨front, rest, rfl, found⟩ := ih remaining
        refine ⟨line :: front, rest, rfl, ?_⟩
        rw [framesFrom, if_pos blank, List.dropLast_cons_of_ne_nil (framesFrom_ne_nil [] front),
          found, List.cons_append]
    · rw [framesFrom, if_neg blank] at split
      obtain ⟨front, rest, rfl, found⟩ := ih split
      exact ⟨line :: front, rest, rfl, by rw [framesFrom, if_neg blank, found]⟩

theorem feed_pass_front (lines : List Bytes) (held : CodexStream × Writer) :
    ∃ front rest, lines = front ++ rest ∧
      (Relay.feed CodexStream.pass held lines).1.1 =
        (front.map trimBreaks).foldl CodexStream.line held.1 ∧
      ((Relay.feed CodexStream.pass held lines).2 = none → rest = []) := by
  induction lines generalizing held with
  | nil => exact ⟨[], [], rfl, rfl, fun _ => rfl⟩
  | cons line lines ih =>
    cases written : held.2.write line with
    | mk writer fault =>
      cases fault with
      | some fault =>
        have stopped : CodexStream.pass held line = ((held.1, writer), some fault) := by
          simp [CodexStream.pass, written]
        rw [Relay.feed_cons_fault stopped]
        exact ⟨[], line :: lines, rfl, rfl, by simp⟩
      | none =>
        have passed : CodexStream.pass held line =
            ((held.1.line (trimBreaks line), writer), none) := by
          simp [CodexStream.pass, written]
        rw [Relay.feed_cons_ok passed]
        obtain ⟨front, rest, rfl, state, whole⟩ :=
          ih (held.1.line (trimBreaks line), writer)
        exact ⟨line :: front, rest, rfl, state, whole⟩

/-- Whatever happens to a stream, what it tells is told by events of the body. -/
theorem streamSSE_told (upstream : Upstream) (writer : Writer) :
    ∃ told, told <+: frames upstream.body ∧ (streamSSE upstream writer).1 =
      told.foldl (fun told frame => told.observe (gather frame)) .nothing := by
  obtain ⟨front, rest, split, state, whole⟩ :=
    feed_pass_front (rawLines upstream.body) (.start, writer)
  have front' : (framesFrom [] (front.map trimBreaks)).dropLast <+: frames upstream.body := by
    rw [frames, split, List.map_append]
    exact dropLast_framesFrom_prefix [] (front.map trimBreaks) (rest.map trimBreaks)
  have told := told_foldl_line (front.map trimBreaks) [] .nothing
  unfold streamSSE
  cases outcome : Relay.feed CodexStream.pass (.start, writer) (rawLines upstream.body) with
  | mk held fault =>
    rw [outcome] at state whole
    dsimp only at state
    cases fault with
    | some fault => exact ⟨_, front', by dsimp only; rw [← told, state]; rfl⟩
    | none =>
      cases upstream.ending with
      | some fault => exact ⟨_, front', by dsimp only; rw [← told, state]; rfl⟩
      | none =>
        have all := whole rfl
        subst all
        refine ⟨frames upstream.body, List.prefix_refl _, ?_⟩
        rw [frames, split, List.append_nil, ← foldl_line]
        dsimp only
        rw [state]
        rfl

theorem feed_pass_broken (front rest : List Bytes) (state : CodexStream) (writer : Writer)
    (leaves : writer.deliveries = List.replicate front.length .written ++ [.broken 0]) :
    (Relay.feed CodexStream.pass (state, writer) (front ++ rest)).1.1 =
      (front.map trimBreaks).foldl CodexStream.line state := by
  induction front generalizing state writer with
  | nil =>
    cases rest with
    | nil => rfl
    | cons line rest =>
      have stopped : CodexStream.pass (state, writer) line =
          ((state, (writer.write line).1), some .disconnected) := by
        simp [CodexStream.pass, Writer.write, leaves]
      rw [List.nil_append, Relay.feed_cons_fault stopped]
      rfl
  | cons line front ih =>
    have passed : CodexStream.pass (state, writer) line =
        ((state.line (trimBreaks line), (writer.write line).1), none) := by
      simp [CodexStream.pass, Writer.write, leaves, List.replicate_succ]
    rw [List.cons_append, Relay.feed_cons_ok passed]
    refine ih _ _ ?_
    simp [Writer.write, leaves, List.replicate_succ]

/-- What an event tells is what some run returns. -/
theorem streamSSE_reaches {body : Bytes} {before after : List (List Bytes)} {frame : List Bytes}
    (split : frames body = before ++ frame :: after) :
    ∃ ending deliveries, (streamSSE ⟨body, ending, 0⟩ (.new deliveries)).1 =
      (before ++ [frame]).foldl (fun told frame => told.observe (gather frame)) .nothing := by
  by_cases last : after = []
  · subst last
    obtain ⟨writer, result, -⟩ := @streamSSE_eq (.new []) ⟨body, none, 0⟩ rfl (by simp [Writer.new])
    exact ⟨none, [], by rw [result, ← split]⟩
  · obtain ⟨front, rest, lines, found⟩ := framesFrom_split split last
    obtain ⟨front, rest, raw, rfl, -⟩ := List.map_eq_append_iff.mp lines
    refine ⟨some .broken, List.replicate front.length .written ++ [.broken 0], ?_⟩
    have state := feed_pass_broken front rest .start
      (.new (List.replicate front.length .written ++ [.broken 0])) rfl
    have told := told_foldl_line (front.map trimBreaks) [] .nothing
    rw [found] at told
    rw [← told]
    unfold streamSSE
    dsimp only
    rw [raw]
    cases outcome : Relay.feed CodexStream.pass (.start, .new _) (front ++ rest) with
    | mk held fault =>
      rw [outcome] at state
      dsimp only at state
      cases fault <;> dsimp only <;> rw [state] <;> rfl

/-- Every run of a stream returns a usage that can be recorded exactly if every event that is
looked at tells one. -/
theorem streamSSE_recordable (body : Bytes) :
    (∀ ending noticed deliveries,
      Recordable (streamSSE ⟨body, ending, noticed⟩ (.new deliveries)).1.usage) ↔
      ∀ frame ∈ frames body, ∀ usage ∈ usagePart.taken frame, Recordable usage := by
  constructor
  · intro runs frame member usage told
    obtain ⟨before, after, split⟩ := List.append_of_mem member
    obtain ⟨ending, deliveries, result⟩ := streamSSE_reaches split
    have latest := @Part.get_foldl _ usagePart (before ++ [frame])
    rw [Relay.latest_snoc, show usagePart.taken frame = some usage from told] at latest
    have recordable := runs ending 0 deliveries
    rw [result] at recordable
    change Recordable (usagePart.get _) at recordable
    rwa [latest] at recordable
  · intro events ending noticed deliveries
    obtain ⟨told, front, result⟩ := streamSSE_told ⟨body, ending, noticed⟩ (.new deliveries)
    have latest := @Part.get_foldl _ usagePart told
    rw [result]
    change Recordable (usagePart.get _)
    rw [latest]
    cases last : Relay.latest usagePart.taken told with
    | none => exact recordable_iff.mpr sound_zero
    | some usage =>
      obtain ⟨frame, member, found⟩ := List.mem_filterMap.mp (List.mem_of_getLast? last)
      exact events frame (front.subset member) usage found

/-- Of one value, the usage at the top is returned, or that of the response object. -/
theorem streamJSON_recordable (body : Bytes) :
    (∀ copied, Recordable (streamJSON body copied).1.usage) ↔
      ∀ envelope ∈ (firstValue body).bind ResponseEnvelope.ofJson,
        Recordable (convertUsage envelope.usage) ∧
          ∀ response ∈ envelope.response, usagePresent envelope.usage = false →
            Recordable (convertUsage response.usage) := by
  constructor
  · intro runs envelope read
    have copying := runs (.copying .broken)
    have all := runs .all
    unfold streamJSON at copying all
    rw [show (firstValue body).bind ResponseEnvelope.ofJson = some envelope from read] at copying all
    refine ⟨copying, fun response present absent => ?_⟩
    dsimp only at all
    rw [show envelope.response = some response from present] at all
    simpa [absent] using all
  · intro valid copied
    have nothing : Recordable Told.nothing.usage := recordable_iff.mpr sound_zero
    unfold streamJSON
    split
    · exact nothing
    · split
      · exact nothing
      · rename_i envelope read
        obtain ⟨top, nested⟩ := valid envelope read
        split
        · exact top
        · split
          · exact top
          · rename_i response present
            dsimp only
            by_cases told : usagePresent envelope.usage = true
            · rw [if_pos told]
              exact top
            · rw [if_neg told]
              exact nested response present (by simpa using told)

/-! ## Every adapter that reports tokens -/

inductive TokenAdapter where
  | codexJSON
  | codexSSE
  | anthropicJSON
  | anthropicSSE
  | nativeGeminiJSON
  | nativeGeminiSSE
  | nativeResponsesJSON
  | nativeResponsesSSE
  deriving DecidableEq, Repr

structure Circumstances where
  antigravity : Bool
  model : Text
  tools : List Text
  countTokens : Bool
  ending : Option Fault
  noticed : Nat
  deliveries : List Delivery
  copied : Copied

namespace TokenAdapter

/-- The usage that an adapter returns, on success or failure. -/
def usage : TokenAdapter → Bytes → Circumstances → Usage
  | .codexJSON, body, run => (streamJSON body run.copied).1.usage
  | .codexSSE, body, run =>
    (forwardCodexStream ⟨body, run.ending, run.noticed⟩ run.deliveries noResult).2.1.usage
  | .anthropicJSON, body, run => (forwardAnthropicBody run.antigravity run.countTokens
      ⟨body, run.ending, run.noticed⟩ run.deliveries noResult).2.1.usage
  | .anthropicSSE, body, run => (forwardAnthropicStream run.antigravity
      ⟨body, run.ending, run.noticed⟩ run.deliveries noResult).2.1.usage
  | .nativeGeminiJSON, body, run => (forwardNativeGeminiBody run.antigravity run.model run.tools
      ⟨body, run.ending, run.noticed⟩ run.deliveries noResult).2.1.usage
  | .nativeGeminiSSE, body, run => (forwardNativeGeminiStream run.antigravity run.model run.tools
      ⟨body, run.ending, run.noticed⟩ run.deliveries noResult).2.1.usage
  | .nativeResponsesJSON, body, run => (forwardNativeResponsesBody run.antigravity run.model
      run.tools ⟨body, run.ending, run.noticed⟩ run.deliveries noResult).2.1.usage
  | .nativeResponsesSSE, body, run => (forwardNativeResponsesStream run.antigravity run.model
      run.tools ⟨body, run.ending, run.noticed⟩ run.deliveries noResult).2.1.usage

/-- The counts of a Codex body do not contradict each other: those of every event that is looked
at, or those of the one value. -/
def CountsAgree : TokenAdapter → Bytes → Prop
  | .codexJSON, body => ∀ envelope ∈ (firstValue body).bind ResponseEnvelope.ofJson,
      Recordable (convertUsage envelope.usage) ∧
        ∀ response ∈ envelope.response, usagePresent envelope.usage = false →
          Recordable (convertUsage response.usage)
  | .codexSSE, body => ∀ frame ∈ frames body, ∀ usage ∈ usagePart.taken frame, Recordable usage
  | _, _ => True

/-- A completion is never refused for the counts of a body, apart from Codex bodies whose counts
contradict each other. -/
theorem recordable_iff_countsAgree (adapter : TokenAdapter) (body : Bytes) :
    (∀ run, Recordable (adapter.usage body run)) ↔ adapter.CountsAgree body := by
  cases adapter with
  | codexJSON =>
    rw [CountsAgree, ← streamJSON_recordable]
    exact ⟨fun runs copied => runs ⟨false, [], [], false, none, 0, [], copied⟩,
      fun runs run => runs run.copied⟩
  | codexSSE =>
    rw [CountsAgree, ← streamSSE_recordable]
    exact ⟨fun runs ending noticed deliveries =>
      runs ⟨false, [], [], false, ending, noticed, deliveries, .all⟩,
      fun runs run => runs run.ending run.noticed run.deliveries⟩
  | anthropicJSON =>
    exact iff_of_true (fun run => recordable_iff.mpr (forwardAnthropicBody_sound _ _ _ _ rfl)) trivial
  | anthropicSSE =>
    exact iff_of_true (fun run => recordable_iff.mpr (forwardAnthropicStream_sound _ _ _ rfl)) trivial
  | nativeGeminiJSON =>
    exact iff_of_true
      (fun run => recordable_iff.mpr (forwardNativeGeminiBody_sound _ _ _ _ _ rfl)) trivial
  | nativeGeminiSSE =>
    exact iff_of_true
      (fun run => recordable_iff.mpr (forwardNativeGeminiStream_sound _ _ _ _ _ rfl)) trivial
  | nativeResponsesJSON =>
    exact iff_of_true
      (fun run => recordable_iff.mpr (forwardNativeResponsesBody_sound _ _ _ _ _ rfl)) trivial
  | nativeResponsesSSE =>
    exact iff_of_true
      (fun run => recordable_iff.mpr (forwardNativeResponsesStream_sound _ _ _ _ _ rfl)) trivial

end TokenAdapter

/-- More tokens from the cache than tokens. -/
def cachedBody : Bytes := Utf8.encode
  "\x7b\"usage\":\x7b\"input_tokens\":1,\"input_tokens_details\":\x7b\"cached_tokens\":2\x7d,\"output_tokens\":7\x7d\x7d".toList

/-- The body is delivered, and its completion is refused. -/
theorem cachedBody_refused :
    ∃ run : Circumstances, run.copied = .all ∧
      (TokenAdapter.codexJSON.usage cachedBody run).outputTokens = 7 ∧
      Store.validateUsageMetrics (TokenAdapter.codexJSON.usage cachedBody run).metrics =
        .error (.invalid "invalid usage metrics") := by
  have usage : TokenAdapter.codexJSON.usage cachedBody ⟨false, [], [], false, none, 0, [], .all⟩ =
      { Usage.zero with inputTokens := 1, cachedTokens := 2, outputTokens := 7 } := by decide +kernel
  refine ⟨⟨false, [], [], false, none, 0, [], .all⟩, rfl, ?_, ?_⟩ <;> rw [usage]
  rfl

end Proxy
