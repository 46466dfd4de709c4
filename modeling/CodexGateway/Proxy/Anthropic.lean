import CodexGateway.Proxy.NativeResponses

/-! # Anthropic messages

The bytes of the provider are preserved, event names and comments included. Usage snapshots are
cumulative: a field that is missing keeps the last value.
-/

namespace Proxy

/-! ## Usage -/

/-- The value of a count, or the one that it keeps. -/
def anthropicCount (fields : List (Text × Json)) (key : String) (held : Int) : Except String Int :=
  match Json.get? key.toList fields with
  | none => .ok held
  | some raw =>
    match nativeCount raw with
    | some count => .ok count
    | none => .error "invalid Anthropic usage count"

def Usage.withoutTTL (usage : Usage) : Usage :=
  { usage with cacheWriteTTLPresent := false, cacheWrite5mTokens := 0, cacheWrite1hTokens := 0 }

/-- The breakdown of the cache writes by lifetime. -/
def anthropicTTL (raw : Json) (usage : Usage) : Except String Usage :=
  match raw with
  | .null => .ok usage.withoutTTL
  | raw =>
    match objectValue raw with
    | none => .error "unsupported CPA request field or value"
    | some ttl => do
      nativeUsageCounts ["ephemeral_5m_input_tokens", "ephemeral_1h_input_tokens"] (some raw)
      let short := (Json.get? "ephemeral_5m_input_tokens".toList ttl).bind nativeCount
      let long := (Json.get? "ephemeral_1h_input_tokens".toList ttl).bind nativeCount
      match short, long with
      | some short, some long =>
        if usage.cacheWriteTokensPresent = false ∨ Json.maxInt64 - long < short ∨
            short + long ≠ usage.cacheWriteTokens then
          .error "inconsistent Anthropic cache TTL usage"
        else .ok { usage with
          cacheWrite5mTokens := short
          cacheWrite1hTokens := long
          cacheWriteTTLPresent := true }
      | _, _ => .ok usage.withoutTTL

/-- The counts over those of a prior snapshot; the first is the input without the cache. -/
def anthropicCounts (fields : List (Text × Json)) (prior : Usage) : Except String (Int × Usage) := do
  let plain ← anthropicCount fields "input_tokens"
    (prior.inputTokens - prior.cachedTokens - prior.cacheWriteTokens)
  let cachedTokens ← anthropicCount fields "cache_read_input_tokens" prior.cachedTokens
  let cacheWriteTokens ← anthropicCount fields "cache_creation_input_tokens" prior.cacheWriteTokens
  let outputTokens ← anthropicCount fields "output_tokens" prior.outputTokens
  let counted := { prior with cachedTokens, cacheWriteTokens, outputTokens }
  -- a newer total without a breakdown does not inherit an older one
  return (plain, if (Json.get? "cache_creation_input_tokens".toList fields).isSome then
    { counted.withoutTTL with cacheWriteTokensPresent := true } else counted)

/-- A breakdown that is missing keeps the last one, unlike one that is null. -/
def anthropicBreakdown (fields : List (Text × Json)) (usage : Usage) : Except String Usage :=
  match Json.get? "cache_creation".toList fields with
  | none => .ok usage
  | some raw => anthropicTTL raw usage

def anthropicTotal (plain : Int) (usage : Usage) : Except String Usage :=
  if plain < 0 ∨ Json.maxInt64 - usage.cachedTokens < plain ∨
      Json.maxInt64 - usage.cacheWriteTokens < plain + usage.cachedTokens then
    .error "Anthropic input overflow"
  else
    let inputTokens := plain + usage.cachedTokens + usage.cacheWriteTokens
    if Json.maxInt64 - usage.outputTokens < inputTokens then .error "Anthropic total overflow"
    else .ok { usage with inputTokens }

/-- `anthropicUsage`. The input of the provider leaves out both categories of the cache. -/
def anthropicUsage (usage : Option Json) (prior : Usage) : Except String Usage :=
  match usage.bind objectValue with
  | none => .error "unsupported CPA request field or value"
  | some fields => do
    let (plain, counted) ← anthropicCounts fields prior
    let counted ← anthropicBreakdown fields counted
    anthropicTotal plain counted

def anthropicServiceTier (fields : List (Text × Json)) : Text :=
  match (Json.get? "service_tier".toList fields).bind (Decoder.string []) with
  | none | some [] => "standard".toList
  | some tier => tier

def hasField (key : String) (fields : List (Text × Json)) : Bool :=
  (Json.get? key.toList fields).isSome

/-! ## Events -/

/-- Lines with their ends, as far as they fit the buffer. -/
def Upstream.scanRaw (upstream : Upstream) (longest : Nat) : List Bytes × Option Fault :=
  let raw := EventStream.rawLines upstream.body
  let readable := raw.takeWhile fun line =>
    line.length < longest || (line.length = longest && line.getLast? = some EventStream.lf)
  (readable, if readable.length < raw.length then some .tooLong else upstream.ending)

structure AnthropicEvent where
  raw : Bytes
  data : Bytes
  deriving DecidableEq

/-- The events up to the fault that ends the reading. The data of an event is kept with a line
feed after each line. -/
def anthropicEvents (stop : Option Fault) : Bytes → Bytes → List Bytes →
    List AnthropicEvent × Option Fault
  | frame, _, [] =>
    ([], stop.or (if frame = [] then none else some (.protocol "truncated Anthropic event")))
  | frame, data, line :: lines =>
    if maxSSEEventBytes < frame.length + line.length then
      ([], some (.protocol "Anthropic event too large"))
    else
      let trimmed := EventStream.trimBreaks line
      if trimmed = [] then
        let (events, fault) := anthropicEvents stop [] [] lines
        (⟨frame ++ line, if data.getLast? = some EventStream.lf then data.dropLast else data⟩ ::
          events, fault)
      else match dataLine? trimmed with
        | some value =>
          anthropicEvents stop (frame ++ line) (data ++ value ++ [EventStream.lf]) lines
        | none => anthropicEvents stop (frame ++ line) data lines

def readAnthropicEvents (upstream : Upstream) : List AnthropicEvent × Option Fault :=
  let (lines, stop) := upstream.scanRaw maxSSEEventBytes
  anthropicEvents stop [] [] lines

/-! ## The stream -/

/-- The variables of the callback, and the parts of the result that it sets. -/
structure Anthropic where
  started : Bool
  finalUsage : Bool
  stopped : Bool
  usage : Usage
  resultUsage : Usage
  serviceTier : Text
  model : Text
  deriving DecidableEq

def Anthropic.start (initial : Result) : Anthropic :=
  ⟨false, false, false, .zero, initial.usage, initial.serviceTier, initial.model⟩

inductive AnthropicStop where
  | complete
  | fault (fault : Fault)
  deriving DecidableEq

def Anthropic.messageStart (state : Anthropic) (fields : List (Text × Json)) :
    Except String Anthropic :=
  if state.started then .error "duplicate Anthropic message_start"
  else match (Json.get? "message".toList fields).bind objectValue with
    | none => .error "unsupported CPA request field or value"
    | some message => do
      let usage ← anthropicUsage (Json.get? "usage".toList message) .zero
      let reported := ((Json.get? "usage".toList message).bind objectValue).getD []
      if !hasField "input_tokens" reported || !hasField "output_tokens" reported then
        throw "missing Anthropic initial usage"
      let model := ((Json.get? "model".toList message).bind (Decoder.string [])).getD []
      return { state with
        usage
        started := true
        serviceTier := anthropicServiceTier reported
        resultUsage := usage
        model := if model = [] then state.model else model }

def Anthropic.messageDelta (state : Anthropic) (fields : List (Text × Json)) :
    Except String Anthropic :=
  if !state.started then .error "Anthropic delta before message_start"
  else match (Json.get? "usage".toList fields).bind objectValue with
    | none => .error "missing Anthropic terminal usage"
    | some reported => do
      if !hasField "output_tokens" reported then throw "missing Anthropic terminal usage"
      let usage ← anthropicUsage (Json.get? "usage".toList fields) state.usage
      if usage.outputTokens < state.usage.outputTokens then throw "Anthropic usage regressed"
      return { state with
        usage
        finalUsage := true
        resultUsage := usage
        serviceTier :=
          if hasField "service_tier" reported then anthropicServiceTier reported
          else state.serviceTier }

/-- The event of an object, up to its write. -/
def Anthropic.observe (state : Anthropic) (kind : Text) (fields : List (Text × Json)) :
    Except String Anthropic :=
  if state.stopped then .error "Anthropic event after message_stop"
  else if kind = "message_start".toList then state.messageStart fields
  else if kind = "message_delta".toList then state.messageDelta fields
  else if kind = "message_stop".toList then
    if !state.started || !state.finalUsage then .error "incomplete Anthropic stream"
    else .ok { state with stopped := true }
  else .ok state

/-- An event that the checks accept. One without data only passes through. -/
def Anthropic.accept (state : Anthropic) (event : AnthropicEvent) :
    Except String (Anthropic × Text) :=
  if event.data = [] then .ok (state, [])
  else match object event.data with
    | none => .error "unsupported CPA request field or value"
    | some fields =>
      match (Json.get? "type".toList fields).bind (Decoder.string []) with
      | none => .error "invalid Anthropic event type"
      | some kind => (state.observe kind fields).map (·, kind)

def Anthropic.report (state : Anthropic) (event : AnthropicEvent) : Option Usage :=
  match state.accept event with
  | .ok (next, kind) =>
    if kind = "message_start".toList ∨ kind = "message_delta".toList then some next.usage else none
  | .error _ => none

/-- The callback: an accepted event is written, and the one of an error is the last. -/
def Anthropic.consume (held : Anthropic × Writer) (event : AnthropicEvent) :
    (Anthropic × Writer) × Option AnthropicStop :=
  match held.1.accept event with
  | .error text => (held, some (.fault (.protocol text)))
  | .ok (next, kind) =>
    match held.2.write event.raw with
    | (writer, some fault) => ((next, writer), some (.fault fault))
    | (writer, none) =>
      ((next, writer),
        if kind = "error".toList then some (.fault (.protocol "Anthropic error event"))
        else if event.data ≠ [] ∧ next.stopped = true then some .complete
        else none)

/-- The deferred end of a failed response. -/
def Writer.abort (writer : Writer) (result : Result) (failure : Failure) :
    Result × Option Failure :=
  if writer.started then
    ({ result with abortStream := true }, some { failure with status := 0 })
  else (result, some failure)

@[simp]
theorem Writer.abort_usage (writer : Writer) (result : Result) (failure : Failure) :
    (writer.abort result failure).1.usage = result.usage := by
  unfold Writer.abort
  split <;> rfl

def anthropicFailure (antigravity : Bool) (fault : Fault) : Failure :=
  if fault.ofContext ∨ fault = .timeout then transportFailure antigravity fault
  else protocolFailure fault

def Anthropic.read (upstream : Upstream) (deliveries : List Delivery) (initial : Result) :
    (Anthropic × Writer) × Option AnthropicStop :=
  Relay.feed Anthropic.consume (.start initial, .new deliveries) (readAnthropicEvents upstream).1

def forwardAnthropicStream (antigravity : Bool) (upstream : Upstream) (deliveries : List Delivery)
    (initial : Result) : Writer × Result × Option Failure :=
  let ((state, writer), stop) := Anthropic.read upstream deliveries initial
  let result := { initial with
    usage := state.resultUsage
    serviceTier := state.serviceTier
    model := state.model
    bytesOut := initial.bytesOut + writer.bytesOut }
  match stop, (readAnthropicEvents upstream).2 with
  | some (.fault fault), _ => (writer, writer.abort result (anthropicFailure antigravity fault))
  | none, some fault => (writer, writer.abort result (anthropicFailure antigravity fault))
  | _, _ =>
    if state.stopped then (writer, { result with usage := state.usage }, none)
    else (writer, writer.abort result
      (protocolFailure (.protocol "Anthropic stream missing message_stop")))

/-! ## The whole body -/

structure AnthropicMessage where
  type : Text
  model : Text
  stopReason : Option Text
  deriving DecidableEq

def AnthropicMessage.fields : List (GoField AnthropicMessage) :=
  [.of "type" (·.type) (fun message type => { message with type }) .string,
    .of "model" (·.model) (fun message model => { message with model }) .string,
    .of "stop_reason" (·.stopReason) (fun message stopReason => { message with stopReason })
      (.pointer [] .string)]

def maxAnthropicBytes : Nat := 64 * 1024 * 1024

/-- What a body sets of the result. A count of tokens is only checked. -/
def anthropicBody (countTokens : Bool) (data : Bytes) (initial : Result) : Except String Result :=
  match object data with
  | none => .error "unsupported CPA request field or value"
  | some fields =>
    if countTokens then
      if (Json.get? "input_tokens".toList fields).bind nativeCount = none then
        .error "invalid token count"
      else .ok initial
    else match Decoder.struct false AnthropicMessage.fields ⟨[], [], none⟩ (.object fields) with
      | some ⟨type, model, some _⟩ =>
        if type ≠ "message".toList then .error "incomplete Anthropic message"
        else do
          let usage ← anthropicUsage (Json.get? "usage".toList fields) .zero
          let reported := ((Json.get? "usage".toList fields).bind objectValue).getD []
          if !hasField "input_tokens" reported || !hasField "output_tokens" reported then
            throw "missing Anthropic usage"
          return { initial with
            usage
            serviceTier := anthropicServiceTier reported
            model := if model = [] then initial.model else model }
      | _ => .error "incomplete Anthropic message"

def forwardAnthropicBody (antigravity countTokens : Bool) (upstream : Upstream)
    (deliveries : List Delivery) (initial : Result) : Writer × Result × Option Failure :=
  if maxAnthropicBytes < upstream.body.length then
    (.new deliveries, initial, some (protocolFailure (.protocol "Anthropic response too large")))
  else match upstream.ending with
  | some fault => (.new deliveries, initial, some (transportFailure antigravity fault))
  | none =>
    match anthropicBody countTokens upstream.body initial with
    | .error text => (.new deliveries, initial, some (protocolFailure (.protocol text)))
    | .ok result =>
      let (writer, fault) := (Writer.new deliveries).write upstream.body
      let result := { result with bytesOut := result.bytesOut + writer.bytesOut }
      match fault with
      | some fault => (writer, writer.abort result (transportFailure antigravity fault))
      | none => (writer, result, none)

/-- `forwardAnthropicResponse`. -/
def forwardAnthropicResponse (antigravity countTokens : Bool) (media : Media) (upstream : Upstream)
    (deliveries : List Delivery) (initial : Result) : Writer × Result × Option Failure :=
  match media, countTokens with
  | .json, countTokens =>
    forwardAnthropicBody antigravity countTokens upstream deliveries initial
  | .eventStream, false => forwardAnthropicStream antigravity upstream deliveries initial
  | _, _ =>
    (.new deliveries, initial, some (protocolFailure (.protocol "invalid Anthropic media type")))

end Proxy
