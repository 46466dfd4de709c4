import CodexGateway.Proxy.NativeGemini

/-! # Native Responses

Events of the Responses protocol. Their type, item, part and delta are checked one event at a
time, and the completed response once more as a whole.
-/

namespace Proxy

/-- The media type of a response with status 200. -/
inductive Media where
  | json
  | eventStream
  | invalid
  deriving DecidableEq, Repr

/-! ## The structs of a response -/

structure ResponsesUsage where
  input : Option Int
  output : Option Int
  total : Option Int
  cached : Int
  reasoning : Int
  deriving DecidableEq

structure ResponsesOutput where
  model : Text
  status : Text
  tier : Text
  output : Option (GoSlice (Option Json))

structure ResponsesItem where
  type : Text
  name : Text
  content : Option (GoSlice Text)

def ResponsesUsage.zero : ResponsesUsage := ⟨none, none, none, 0, 0⟩

def ResponsesOutput.zero : ResponsesOutput := ⟨[], [], [], none⟩

def ResponsesItem.zero : ResponsesItem := ⟨[], [], none⟩

/-- `struct { Type string }`. -/
def typeFields : List (GoField Text) := [.of "type" id (fun _ type => type) .string]

def cachedFields : List (GoField Int) := [.of "cached_tokens" id (fun _ count => count) .int64]

def reasoningFields : List (GoField Int) :=
  [.of "reasoning_tokens" id (fun _ count => count) .int64]

def ResponsesUsage.fields : List (GoField ResponsesUsage) :=
  [.of "input_tokens" (·.input) (fun usage input => { usage with input }) (.pointer 0 .int64),
    .of "output_tokens" (·.output) (fun usage output => { usage with output }) (.pointer 0 .int64),
    .of "total_tokens" (·.total) (fun usage total => { usage with total }) (.pointer 0 .int64),
    .of "input_tokens_details" (·.cached) (fun usage cached => { usage with cached })
      (.struct false cachedFields),
    .of "output_tokens_details" (·.reasoning) (fun usage reasoning => { usage with reasoning })
      (.struct false reasoningFields)]

def ResponsesOutput.fields : List (GoField ResponsesOutput) :=
  [.of "model" (·.model) (fun response model => { response with model }) .string,
    .of "status" (·.status) (fun response status => { response with status }) .string,
    .of "service_tier" (·.tier) (fun response tier => { response with tier }) .string,
    .of "output" (·.output) (fun response output => { response with output }) (.slice none .raw)]

def ResponsesItem.fields : List (GoField ResponsesItem) :=
  [.of "type" (·.type) (fun item type => { item with type }) .string,
    .of "name" (·.name) (fun item name => { item with name }) .string,
    .of "content" (·.content) (fun item content => { item with content })
      (.slice [] (.struct false typeFields))]

/-! ## Checks -/

def nativeResponsesCounts : List String := ["input_tokens", "output_tokens", "total_tokens"]

/-- The details of a usage, where they are given. -/
def nativeUsageDetails (key count : String) (usage : Option Json) : Except String Unit :=
  match (usage.bind objectValue).bind (Json.get? key.toList) with
  | none | some .null => .ok ()
  | some details => nativeUsageCounts [count] (some details)

def nativeResponsesUsage (usage : Option Json) : Except String Usage := do
  nativeUsageCounts nativeResponsesCounts usage
  nativeUsageDetails "input_tokens_details" "cached_tokens" usage
  nativeUsageDetails "output_tokens_details" "reasoning_tokens" usage
  match usage.bind (Decoder.struct false ResponsesUsage.fields .zero) with
  | some ⟨some input, some output, total, cached, reasoning⟩ =>
    if input < 0 ∨ output < 0 ∨ cached < 0 ∨ input < cached ∨ reasoning < 0 ∨
        output < reasoning ∨ Json.maxInt64 - output < input ∨ input + output = 0 ∨
        total.any (· ≠ input + output) then .error "invalid CPA Responses usage"
    else .ok { Usage.zero with
      inputTokens := input
      cachedTokens := cached
      outputTokens := output
      reasoningTokens := reasoning }
  | _ => .error "invalid CPA Responses usage"

def partTypes : List Text := ["output_text".toList, "refusal".toList]

def validateNativeResponseItem (tools : List Text) (raw : Json) : Except String Unit :=
  match Decoder.struct false ResponsesItem.fields .zero raw with
  | none => .error "invalid CPA output item"
  | some item =>
    if item.type = "message".toList then
      if ((item.content.map (·.items)).getD []).all (· ∈ partTypes) then .ok ()
      else .error "unsupported CPA output part"
    else if item.type = "reasoning".toList then .ok ()
    else if item.type = "function_call".toList then
      if item.name ∈ tools then .ok () else .error "undeclared CPA function call"
    else .error "unsupported CPA output item"

def acceptedTiers : List Text := [[], "default".toList, "auto".toList]

def validateNativeResponse (model : Text) (tools : List Text) (response : Option Json) :
    Except String Usage :=
  match response.bind objectValue with
  | none => .error "unsupported CPA request field or value"
  | some fields =>
    match Decoder.struct false ResponsesOutput.fields .zero (.object fields) with
    | none => .error "invalid CPA Responses completion"
    | some completion =>
      if completion.status ≠ "completed".toList ∨
          (completion.model ≠ [] ∧ completion.model ≠ model) ∨
          completion.tier ∉ acceptedTiers then .error "invalid CPA Responses completion"
      else match Json.get? "error".toList fields with
        | none | some .null => do
          ((completion.output.map (·.items)).getD []).forM fun item =>
            validateNativeResponseItem tools (item.getD .null)
          nativeResponsesUsage (Json.get? "usage".toList fields)
        | some _ => .error "CPA Responses error in completion"

def nativeResponseEventTypes : List Text :=
  ["response.created".toList, "response.in_progress".toList, "response.completed".toList,
    "response.failed".toList, "response.incomplete".toList,
    "response.output_item.added".toList, "response.output_item.done".toList,
    "response.content_part.added".toList, "response.content_part.done".toList,
    "response.output_text.delta".toList, "response.output_text.done".toList,
    "response.output_text.annotation.added".toList,
    "response.refusal.delta".toList, "response.refusal.done".toList,
    "response.function_call_arguments.delta".toList,
    "response.function_call_arguments.done".toList,
    "response.reasoning_summary_part.added".toList,
    "response.reasoning_summary_part.done".toList,
    "response.reasoning_summary_text.delta".toList,
    "response.reasoning_summary_text.done".toList,
    "response.reasoning_text.delta".toList, "response.reasoning_text.done".toList]

/-- `nativeResponseEventType`. -/
def nativeResponseEventType (type : Text) : Bool := type ∈ nativeResponseEventTypes

/-- The part of an event, of a kind that the type of the event allows. -/
def validateResponsePart (type : Text) (raw : Json) : Except String Unit :=
  match Decoder.struct false typeFields [] raw with
  | none => .error "invalid CPA Responses part"
  | some kind =>
    if "response.reasoning_summary_part.".toList.isPrefixOf type then
      if kind ≠ "summary_text".toList then .error "invalid CPA reasoning summary" else .ok ()
    else if kind ∉ partTypes then .error "unsupported CPA Responses part"
    else .ok ()

def isDelta (type : Text) : Bool := ".delta".toList.isSuffixOf type

def isStringValue : Option Json → Bool
  | some (.string _) => true
  | _ => false

/-- The checks of an event before its response. -/
def validateResponseEvent (tools : List Text) (type : Text) (fields : List (Text × Json)) :
    Except String Unit := do
  if type = "response.failed".toList ∨ type = "response.incomplete".toList ∨
      (Json.get? "error".toList fields).isSome then throw "CPA Responses failed"
  match Json.get? "item".toList fields with
  | some raw => validateNativeResponseItem tools raw
  | none => pure ()
  match Json.get? "part".toList fields with
  | some raw => validateResponsePart type raw
  | none => pure ()
  if isDelta type ∧ ¬ isStringValue (Json.get? "delta".toList fields) then
    throw "invalid CPA Responses delta"

/-! ## The stream -/

structure NativeResponses where
  completed : Bool
  done : Bool
  usage : Usage
  deriving DecidableEq

def NativeResponses.start : NativeResponses := ⟨false, false, .zero⟩

def doneEvent : Bytes := Utf8.encode "[DONE]".toList

/-- The type of an event, read with its exact key. -/
def eventType? (fields : List (Text × Json)) : Option Text :=
  ((Json.get? "type".toList fields).bind (Decoder.string [])).filter nativeResponseEventType

/-- The callback up to its write. -/
def NativeResponses.accept (model : Text) (tools : List Text) (state : NativeResponses)
    (event : Bytes) : Except String NativeResponses :=
  if event = doneEvent then
    if state.completed = false ∨ state.done = true then .error "unexpected CPA Responses done"
    else .ok { state with done := true }
  else if state.completed = true ∨ state.done = true then
    .error "event after CPA Responses completion"
  else match object event with
    | none => .error "unsupported CPA request field or value"
    | some fields =>
      match eventType? fields with
      | none => .error "invalid CPA Responses event"
      | some type => do
        validateResponseEvent tools type fields
        if type = "response.completed".toList then
          let usage ← validateNativeResponse model tools (Json.get? "response".toList fields)
          return { state with usage, completed := true }
        return state

def NativeResponses.report (model : Text) (tools : List Text) (state : NativeResponses)
    (event : Bytes) : Option Usage :=
  match state.accept model tools event with
  | .error _ => none
  | .ok next => if next.completed = true ∧ state.completed = false then some next.usage else none

/-- `"event: %s\n"`. -/
def eventLine (type : Text) : Bytes := Utf8.encode ("event: ".toList ++ type ++ ['\n'])

def responseBlock (event : Bytes) : Bytes :=
  match (object event).bind eventType? with
  | some type => eventLine type ++ EventStream.block event
  | none => EventStream.block event

def isEventLine (line : Bytes) : Bool := line.take 6 = Utf8.encode "event:".toList

/-- The payloads that are consumed, as far as they are accepted, and the fault that ends the
reading. -/
def responseEvents (stop : Option Fault) : Bytes → List Bytes → List Bytes × Option Fault
  | data, [] =>
    ([], stop.or (if data = [] then none else
      some (.protocol "CPA Responses missing terminal event")))
  | data, line :: lines =>
    if line = [] then
      let (events, fault) := responseEvents stop [] lines
      ((if data = [] then [] else [data]) ++ events, fault)
    else if isComment line || isEventLine line then responseEvents stop data lines
    else match dataLine? line with
      | none => ([], some (.protocol "invalid CPA Responses SSE field"))
      | some value =>
        let data := if data = [] then value else data ++ EventStream.lf :: value
        if maxSSEEventBytes < data.length then
          ([], some (.protocol "CPA Responses event too large"))
        else responseEvents stop data lines

def readResponseEvents (upstream : Upstream) : List Bytes × Option Fault :=
  let (lines, stop) := upstream.scan maxGeminiResponseBytes maxSSEEventBytes
    "CPA Responses stream too large"
  responseEvents stop [] lines

/-- Why the reading of the body ended: a fault of the transport, or of what was read. -/
def responseFailure (antigravity : Bool) : Fault → Failure
  | .protocol text => geminiProtocolFailure (.protocol text)
  | fault => transportFailure antigravity fault

def NativeResponses.read (model : Text) (tools : List Text) (upstream : Upstream)
    (deliveries : List Delivery) : (NativeResponses × Writer) × Option Fault :=
  Relay.feed (forward (NativeResponses.accept model tools) responseBlock)
    (.start, .new deliveries) (readResponseEvents upstream).1

def forwardNativeResponsesStream (antigravity : Bool) (model : Text) (tools : List Text)
    (upstream : Upstream) (deliveries : List Delivery) (initial : Result) :
    Writer × Result × Option Failure :=
  let ((state, writer), fault) := NativeResponses.read model tools upstream deliveries
  let result := { initial with bytesOut := initial.bytesOut + writer.bytesOut }
  match fault, (readResponseEvents upstream).2 with
  | some fault, _ => (writer, aborted result (geminiProtocolFailure fault))
  | none, some fault => (writer, aborted result (responseFailure antigravity fault))
  | none, none =>
    if state.completed then
      (writer, { result with model, serviceTier := "default".toList, usage := state.usage }, none)
    else (writer, aborted result (geminiProtocolFailure
      (.protocol "CPA Responses missing terminal event")))

def forwardNativeResponsesBody (antigravity : Bool) (model : Text) (tools : List Text)
    (upstream : Upstream) (deliveries : List Delivery) (initial : Result) :
    Writer × Result × Option Failure :=
  if maxGeminiResponseBytes < upstream.body.length then
    (.new deliveries, aborted initial
      (geminiProtocolFailure (.protocol "CPA Responses body too large")))
  else match upstream.ending with
  | some fault => (.new deliveries, aborted initial (transportFailure antigravity fault))
  | none =>
    -- the bytes are not yet a value here: their encoding is checked first
    match validateNativeResponse model tools ((object upstream.body).map .object) with
    | .error text => (.new deliveries, aborted initial (geminiProtocolFailure (.protocol text)))
    | .ok usage =>
      let (writer, fault) := (Writer.new deliveries).write upstream.body
      let result := { initial with bytesOut := initial.bytesOut + writer.bytesOut }
      match fault with
      | some fault => (writer, aborted result (transportFailure antigravity fault))
      | none =>
        (writer, { result with model, serviceTier := "default".toList, usage }, none)

def forwardNativeResponses (antigravity : Bool) (model : Text) (tools : List Text) (media : Media)
    (upstream : Upstream) (deliveries : List Delivery) (initial : Result) :
    Writer × Result × Option Failure :=
  match media with
  | .invalid =>
    (.new deliveries, aborted initial
      (geminiProtocolFailure (.protocol "invalid CPA Responses content type")))
  | .json => forwardNativeResponsesBody antigravity model tools upstream deliveries initial
  | .eventStream =>
    forwardNativeResponsesStream antigravity model tools upstream deliveries initial

end Proxy
