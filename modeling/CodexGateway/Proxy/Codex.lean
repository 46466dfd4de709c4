import CodexGateway.Proxy.Stream

/-! # Codex responses

A body is passed on as it comes, a JSON value through a tee and an event stream line by line.
Model, service tier and usage are picked up on the way.
-/

namespace Proxy

/-! ## The envelope -/

structure InputDetails where
  cachedTokens : Int
  cacheWriteTokens : Option Int
  deriving DecidableEq

structure UsageFields where
  inputTokens : Int
  outputTokens : Int
  inputDetails : InputDetails
  reasoningTokens : Int
  deriving DecidableEq

structure EnvelopeResponse where
  id : Text
  model : Text
  serviceTier : Text
  usage : UsageFields
  deriving DecidableEq

structure ResponseEnvelope where
  type : Text
  id : Text
  model : Text
  serviceTier : Text
  usage : UsageFields
  response : Option EnvelopeResponse
  deriving DecidableEq

def UsageFields.zero : UsageFields := ⟨0, 0, ⟨0, none⟩, 0⟩

def EnvelopeResponse.zero : EnvelopeResponse := ⟨[], [], [], .zero⟩

def ResponseEnvelope.zero : ResponseEnvelope := ⟨[], [], [], [], .zero, none⟩

def InputDetails.fields : List (GoField InputDetails) :=
  [.of "cached_tokens" (·.cachedTokens)
      (fun details cachedTokens => { details with cachedTokens }) .int64,
    .of "cache_write_tokens" (·.cacheWriteTokens)
      (fun details cacheWriteTokens => { details with cacheWriteTokens }) (.pointer 0 .int64)]

def outputDetailsFields : List (GoField Int) :=
  [.of "reasoning_tokens" id (fun _ reasoning => reasoning) .int64]

def UsageFields.fields : List (GoField UsageFields) :=
  [.of "input_tokens" (·.inputTokens) (fun usage inputTokens => { usage with inputTokens }) .int64,
    .of "output_tokens" (·.outputTokens)
      (fun usage outputTokens => { usage with outputTokens }) .int64,
    .of "input_tokens_details" (·.inputDetails)
      (fun usage inputDetails => { usage with inputDetails }) (.struct false InputDetails.fields),
    .of "output_tokens_details" (·.reasoningTokens)
      (fun usage reasoningTokens => { usage with reasoningTokens })
      (.struct false outputDetailsFields)]

def EnvelopeResponse.fields : List (GoField EnvelopeResponse) :=
  [.of "id" (·.id) (fun response id => { response with id }) .string,
    .of "model" (·.model) (fun response model => { response with model }) .string,
    .of "service_tier" (·.serviceTier)
      (fun response serviceTier => { response with serviceTier }) .string,
    .of "usage" (·.usage) (fun response usage => { response with usage })
      (.struct false UsageFields.fields)]

def ResponseEnvelope.fields : List (GoField ResponseEnvelope) :=
  [.of "type" (·.type) (fun envelope type => { envelope with type }) .string,
    .of "id" (·.id) (fun envelope id => { envelope with id }) .string,
    .of "model" (·.model) (fun envelope model => { envelope with model }) .string,
    .of "service_tier" (·.serviceTier)
      (fun envelope serviceTier => { envelope with serviceTier }) .string,
    .of "usage" (·.usage) (fun envelope usage => { envelope with usage })
      (.struct false UsageFields.fields),
    .of "response" (·.response) (fun envelope response => { envelope with response })
      (.pointer .zero (.struct false EnvelopeResponse.fields))]

def ResponseEnvelope.ofJson (value : Json) : Option ResponseEnvelope :=
  Decoder.struct false ResponseEnvelope.fields .zero value

/-- `json.Unmarshal` into an envelope. -/
def ResponseEnvelope.unmarshal (data : Bytes) : Option ResponseEnvelope :=
  (Json.scan? data).bind ResponseEnvelope.ofJson

def convertUsage (value : UsageFields) : Usage :=
  { Usage.zero with
    inputTokens := value.inputTokens
    cachedTokens := value.inputDetails.cachedTokens
    cacheWriteTokens := value.inputDetails.cacheWriteTokens.getD 0
    cacheWriteTokensPresent := value.inputDetails.cacheWriteTokens.isSome
    outputTokens := value.outputTokens
    reasoningTokens := value.reasoningTokens }

def usagePresent (value : UsageFields) : Bool :=
  value.inputTokens ≠ 0 || value.outputTokens ≠ 0 || value.inputDetails.cacheWriteTokens.isSome

def usageValuePresent (value : Usage) : Bool :=
  value.inputTokens ≠ 0 || value.outputTokens ≠ 0 || value.cacheWriteTokensPresent

/-! ## An event stream -/

structure Told where
  model : Text
  serviceTier : Text
  usage : Usage
  deriving DecidableEq

def Told.nothing : Told := ⟨[], [], .zero⟩

def codexDone : Bytes := Utf8.encode "[DONE]".toList

/-- `parseSSEData`; a delta without more to tell only marks the time of the first token. -/
def parseSSEData (data : Bytes) : Option Told :=
  if data = [] ∨ data = codexDone then none
  else (ResponseEnvelope.unmarshal data).bind fun envelope =>
    match envelope.response with
    | some response =>
      some ⟨response.model, response.serviceTier, convertUsage response.usage⟩
    | none =>
      if usagePresent envelope.usage || envelope.model ≠ [] || envelope.serviceTier ≠ [] then
        some ⟨envelope.model, envelope.serviceTier, convertUsage envelope.usage⟩
      else none

/-- What was told replaces what was told before, each part where it is there. -/
def Told.update (told : Told) (parsed : Told) : Told where
  model := if parsed.model ≠ [] then parsed.model else told.model
  serviceTier := if parsed.serviceTier ≠ [] then parsed.serviceTier else told.serviceTier
  usage := if usageValuePresent parsed.usage then parsed.usage else told.usage

/-- The data of an event, or nothing once it has been discarded. -/
structure CodexStream where
  event : Option Bytes
  told : Told
  deriving DecidableEq

def CodexStream.start : CodexStream := ⟨some [], .nothing⟩

def dataPrefix : Bytes := [100, 97, 116, 97, 58]

/-- A line of data is added without the blanks around it, unless the event is too long. -/
def gatherLine (event : Option Bytes) (line : Bytes) : Option Bytes :=
  event.bind fun event =>
    if line.take 5 = dataPrefix then
      let data := Utf8.trimSpace (line.drop 5)
      if maxSSEEventBytes < event.length + data.length + 1 then none
      else some (if event = [] then data else event ++ EventStream.lf :: data)
    else some event

def Told.observe (told : Told) (event : Option Bytes) : Told :=
  match event.bind parseSSEData with
  | some parsed => told.update parsed
  | none => told

/-- A line that was passed on, without its end. -/
def CodexStream.line (state : CodexStream) (trimmed : Bytes) : CodexStream :=
  if trimmed = [] then ⟨some [], state.told.observe state.event⟩
  else { state with event := gatherLine state.event trimmed }

/-- A line is written first and looked at then. -/
def CodexStream.pass (held : CodexStream × Writer) (line : Bytes) :
    (CodexStream × Writer) × Option Fault :=
  match held.2.write line with
  | (writer, some fault) => ((held.1, writer), some fault)
  | (writer, none) => ((held.1.line (EventStream.trimBreaks line), writer), none)

/-- `streamSSE`. At the end of the body an event that is still open is looked at too. -/
def streamSSE (upstream : Upstream) (writer : Writer) : Told × Writer × Option Fault :=
  match Relay.feed CodexStream.pass (.start, writer) (EventStream.rawLines upstream.body) with
  | ((state, writer), some fault) => (state.told, writer, some fault)
  | ((state, writer), none) =>
    match upstream.ending with
    | some fault => (state.told, writer, some fault)
    | none => (state.told.observe state.event, writer, none)

/-! ## One value -/

/-- Where `streamJSON` ends: while the value is decoded, while the rest is copied, or not before
the end. -/
inductive Copied where
  | decoding (fault : Fault)
  | copying (fault : Fault)
  | all
  deriving DecidableEq

/-- The first value of a body. A number may go on after its first digits, but no number is an
envelope. -/
def firstValue (body : Bytes) : Option Json :=
  (List.range (body.length + 1)).findSome? fun n => Json.scan? (body.take n)

/-- `streamJSON`, with the value that the decoder has read. -/
def streamJSON (body : Bytes) (copied : Copied) : Told × Option Fault :=
  match copied with
  | .decoding fault => (.nothing, some fault)
  | copied =>
    match (firstValue body).bind ResponseEnvelope.ofJson with
    | none => (.nothing, some (.protocol "invalid JSON"))
    | some envelope =>
      match copied with
      | .copying fault =>
        (⟨envelope.model, envelope.serviceTier, convertUsage envelope.usage⟩, some fault)
      | _ =>
        match envelope.response with
        | none =>
          (⟨envelope.model, envelope.serviceTier, convertUsage envelope.usage⟩, none)
        | some response =>
          (⟨if envelope.model = [] then response.model else envelope.model,
            if envelope.serviceTier = [] then response.serviceTier else envelope.serviceTier,
            convertUsage
              (if usagePresent envelope.usage then envelope.usage else response.usage)⟩,
            none)

/-! ## The response -/

def streamFailure (fault : Fault) : Failure :=
  { status := 0, type := "upstream_error", code := "upstream_stream_error",
    message := "上游响应流意外中断", cause := some fault }

/-- The result of a response with status 2xx: what was told is kept when the stream breaks. -/
def Told.result (told : Told) (writer : Writer) (fault : Option Fault) (initial : Result) :
    Result × Option Failure :=
  ({ initial with
      model := told.model
      serviceTier := told.serviceTier
      usage := told.usage
      bytesOut := writer.bytesOut }, fault.map streamFailure)

def forwardCodexStream (upstream : Upstream) (deliveries : List Delivery) (initial : Result) :
    Writer × Result × Option Failure :=
  let (told, writer, fault) := streamSSE upstream (.new deliveries)
  (writer, told.result writer fault initial)

end Proxy
