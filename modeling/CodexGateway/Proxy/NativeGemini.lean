import CodexGateway.Library.Transaction
import CodexGateway.Proxy.Gemini

/-! # Native Gemini

The gateway forwards the frames of the provider as they are. A frame is checked as a struct of
Go; usage snapshots are cumulative, and the last one is settled.
-/

namespace Proxy

/-! ## Objects and counts -/

/-- `cpaprotocol.Object` of a value that has been read. -/
def objectValue (value : Json) : Option (List (Text × Json)) :=
  match value with
  | .object members => if value.unique && value.depth ≤ 64 then some members else none
  | _ => none

/-- `cpaprotocol.Object`. -/
def object (data : Bytes) : Option (List (Text × Json)) :=
  if Utf8.valid data then (Json.ofBytes data).bind objectValue else none

/-- A count that is there and not negative. -/
def nativeCount (value : Json) : Option Int :=
  (Decoder.pointer 0 .int64 none value).join.filter (0 ≤ ·)

def nativeUsageCounts (keys : List String) (usage : Option Json) : Except String Unit :=
  match usage.bind objectValue with
  | none => .error "invalid native usage object"
  | some fields =>
    if keys.all fun key => (Json.get? key.toList fields).all fun raw => (nativeCount raw).isSome
    then .ok ()
    else .error "invalid native usage count"

/-! ## The struct of a frame -/

structure NativeGeminiUsage where
  prompt : Option Int
  candidates : Option Int
  thoughts : Int
  cached : Int
  total : Option Int
  deriving DecidableEq

structure NativeGeminiCall where
  name : Text
  args : Option (List (Text × Json))
  id : Text

structure NativeGeminiContent where
  role : Text
  parts : Option (GoSlice (Option (List (Text × Json))))

structure NativeGeminiCandidate where
  index : Int
  finishReason : Text
  content : NativeGeminiContent

structure NativeGeminiFrame where
  modelVersion : Text
  responseID : Text
  candidates : Option (GoSlice NativeGeminiCandidate)
  usage : Option Json

def NativeGeminiUsage.zero : NativeGeminiUsage := ⟨none, none, 0, 0, none⟩

def NativeGeminiCall.zero : NativeGeminiCall := ⟨[], none, []⟩

def NativeGeminiCandidate.zero : NativeGeminiCandidate := ⟨0, [], ⟨[], none⟩⟩

def NativeGeminiFrame.zero : NativeGeminiFrame := ⟨[], [], none, none⟩

def NativeGeminiUsage.fields : List (GoField NativeGeminiUsage) :=
  [.of "promptTokenCount" (·.prompt) (fun usage prompt => { usage with prompt })
      (.pointer 0 .int64),
    .of "candidatesTokenCount" (·.candidates) (fun usage candidates => { usage with candidates })
      (.pointer 0 .int64),
    .of "thoughtsTokenCount" (·.thoughts) (fun usage thoughts => { usage with thoughts }) .int64,
    .of "cachedContentTokenCount" (·.cached) (fun usage cached => { usage with cached }) .int64,
    .of "totalTokenCount" (·.total) (fun usage total => { usage with total })
      (.pointer 0 .int64)]

def NativeGeminiCall.fields : List (GoField NativeGeminiCall) :=
  [.of "name" (·.name) (fun call name => { call with name }) .string,
    .of "args" (·.args) (fun call args => { call with args }) .map,
    .of "id" (·.id) (fun call id => { call with id }) .string]

def NativeGeminiContent.fields : List (GoField NativeGeminiContent) :=
  [.of "role" (·.role) (fun content role => { content with role }) .string,
    .of "parts" (·.parts) (fun content parts => { content with parts }) (.slice none .map)]

def NativeGeminiCandidate.fields : List (GoField NativeGeminiCandidate) :=
  [.of "index" (·.index) (fun candidate index => { candidate with index }) .int64,
    .of "finishReason" (·.finishReason)
      (fun candidate finishReason => { candidate with finishReason }) .string,
    .of "content" (·.content) (fun candidate content => { candidate with content })
      (.struct false NativeGeminiContent.fields)]

def NativeGeminiFrame.fields : List (GoField NativeGeminiFrame) :=
  [.of "modelVersion" (·.modelVersion)
      (fun frame modelVersion => { frame with modelVersion }) .string,
    .of "responseId" (·.responseID) (fun frame responseID => { frame with responseID }) .string,
    .of "candidates" (·.candidates) (fun frame candidates => { frame with candidates })
      (.slice .zero (.struct false NativeGeminiCandidate.fields)),
    .of "usageMetadata" (·.usage) (fun frame usage => { frame with usage }) .raw]

def NativeGeminiFrame.listed (frame : NativeGeminiFrame) : List NativeGeminiCandidate :=
  (frame.candidates.map (·.items)).getD []

/-! ## Checks of a frame -/

def nativeGeminiCounts : List String :=
  ["promptTokenCount", "candidatesTokenCount", "thoughtsTokenCount", "cachedContentTokenCount",
    "totalTokenCount"]

def nativeGeminiUsage (usage : Option Json) : Except String Usage := do
  nativeUsageCounts nativeGeminiCounts usage
  match usage.bind (Decoder.struct false NativeGeminiUsage.fields .zero) with
  | some ⟨some prompt, some candidates, thoughts, cached, total⟩ =>
    if prompt < 0 ∨ candidates < 0 ∨ thoughts < 0 ∨ cached < 0 ∨ prompt < cached ∨
        Json.maxInt64 - thoughts < candidates then .error "invalid native Gemini usage"
    else if Json.maxInt64 - (candidates + thoughts) < prompt ∨
        prompt + (candidates + thoughts) = 0 ∨
        total.any (· ≠ prompt + (candidates + thoughts)) then
      .error "inconsistent native Gemini usage"
    else .ok { Usage.zero with
      inputTokens := prompt
      cachedTokens := cached
      outputTokens := candidates + thoughts
      reasoningTokens := thoughts }
  | _ => .error "invalid native Gemini usage"

def nativePartKeys : List Text :=
  ["text".toList, "functionCall".toList, "thought".toList, "thoughtSignature".toList]

def validThoughtSignature (raw : Json) : Bool :=
  (Decoder.string [] raw).any fun signature =>
    signature ≠ [] && Text.byteLength signature ≤ 65536

def validateNativeCall (tools : List Text) (raw : Json) : Except String Unit :=
  match Decoder.struct false NativeGeminiCall.fields .zero raw with
  | some ⟨name, some _, _⟩ =>
    if name ∈ tools then .ok () else .error "undeclared native Gemini function"
  | _ => .error "invalid native Gemini function call"

def validateNativePart (tools : List Text) (part : List (Text × Json)) : Except String Unit :=
  let text := Json.get? "text".toList part
  let call := Json.get? "functionCall".toList part
  let signature := Json.get? "thoughtSignature".toList part
  if ∃ member ∈ part, member.1 ∉ nativePartKeys then
    .error "unsupported native Gemini response part"
  else if text.isSome ∧ call.isSome ∨ text.isNone ∧ call.isNone ∧ signature.isNone then
    .error "invalid native Gemini part"
  else if (Json.get? "thought".toList part).any fun raw => (Decoder.bool false raw).isNone then
    .error "invalid thought flag"
  else if signature.any fun raw => !validThoughtSignature raw then
    .error "invalid thought signature"
  else match text, call with
    | some raw, _ =>
      if (Decoder.string [] raw).isNone then .error "invalid native Gemini text" else .ok ()
    | none, some raw => validateNativeCall tools raw
    | none, none => .ok ()

def acceptedFinish : List Text := ["STOP".toList, "MAX_TOKENS".toList]

def validateNativeCandidate (tools : List Text) (candidate : NativeGeminiCandidate) :
    Except String Unit :=
  if candidate.index ≠ 0 ∨
      (candidate.content.role ≠ [] ∧ candidate.content.role ≠ "model".toList) ∨
      (candidate.finishReason ≠ [] ∧ candidate.finishReason ∉ acceptedFinish) then
    .error "invalid native Gemini candidate"
  else ((candidate.content.parts.map (·.items)).getD []).forM fun part =>
    validateNativePart tools (part.getD [])

def parseNativeGemini (tools : List Text) (data : Bytes) : Except String NativeGeminiFrame :=
  match object data with
  | none => .error "invalid native Gemini frame"
  | some fields =>
    match Decoder.struct false NativeGeminiFrame.fields .zero (.object fields) with
    | none => .error "invalid native Gemini frame"
    | some frame =>
      if (Json.get? "error".toList fields).isSome ∨ 1 < frame.listed.length then
        .error "invalid native Gemini frame"
      else do
        frame.listed.forM (validateNativeCandidate tools)
        return frame

/-! ## The stream -/

structure NativeGemini where
  finished : Bool
  hasUsage : Bool
  terminalUsage : Bool
  responseID : Text
  version : Text
  last : Usage
  deriving DecidableEq

def NativeGemini.start : NativeGemini := ⟨false, false, false, [], [], .zero⟩

/-- The complete usage that a frame reports. An early snapshot may lack the tokens of the
candidates; a finished response must not. -/
def frameUsage (finished : Bool) (usage : Option Json) : Except String (Option Usage) :=
  match usage with
  | none => .ok none
  | some raw =>
    match objectValue raw with
    | none => .error "invalid native Gemini usage"
    | some fields =>
      if ∃ key ∈ nativeGeminiCounts, ∃ raw ∈ Json.get? key.toList fields,
          nativeCount raw = none then
        .error "invalid native Gemini usage count"
      else if (Json.get? "promptTokenCount".toList fields).isNone ∨
          (Json.get? "candidatesTokenCount".toList fields).isNone then
        if finished then .error "missing terminal native Gemini usage" else .ok none
      else (nativeGeminiUsage (some raw)).map some

/-- The cumulative usage goes on from a snapshot. -/
def Usage.regresses (usage last : Usage) : Bool :=
  usage.inputTokens < last.inputTokens || usage.outputTokens < last.outputTokens ||
    usage.cachedTokens < last.cachedTokens || usage.reasoningTokens < last.reasoningTokens

/-- The identity and the version of a frame must be those of the stream, where both are given. -/
def NativeGemini.identify (state : NativeGemini) (frame : NativeGeminiFrame) :
    Except String NativeGemini :=
  if frame.responseID ≠ [] ∧ state.responseID ≠ [] ∧ state.responseID ≠ frame.responseID then
    .error "native Gemini response identity changed"
  else if frame.modelVersion ≠ [] ∧ state.version ≠ [] ∧ state.version ≠ frame.modelVersion then
    .error "native Gemini model changed"
  else if state.finished = true ∧ frame.listed ≠ [] then
    .error "candidate after native Gemini completion"
  else .ok { state with
    responseID := if frame.responseID = [] then state.responseID else frame.responseID
    version := if frame.modelVersion = [] then state.version else frame.modelVersion
    finished := state.finished || frame.listed.any fun candidate => candidate.finishReason ≠ [] }

/-- A complete snapshot becomes the last one. -/
def NativeGemini.observe (state : NativeGemini) (report : Option Usage) :
    Except String NativeGemini :=
  match report with
  | none => .ok state
  | some usage =>
    if state.hasUsage = true ∧ usage.regresses state.last = true then
      .error "native Gemini cumulative usage regressed"
    else .ok { state with last := usage, hasUsage := true, terminalUsage := state.finished }

/-- The callback up to its write. -/
def NativeGemini.accept (tools : List Text) (state : NativeGemini) (data : Bytes) :
    Except String NativeGemini := do
  let frame ← parseNativeGemini tools data
  let state ← state.identify frame
  let report ← frameUsage state.finished frame.usage
  state.observe report

def NativeGemini.report (tools : List Text) (state : NativeGemini) (data : Bytes) : Option Usage :=
  match state.accept tools data with
  | .error _ => none
  | .ok next =>
    match parseNativeGemini tools data with
    | .error _ => none
    | .ok frame => (frameUsage next.finished frame.usage).toOption.join

/-- The response is finished and its usage settled. -/
def NativeGemini.complete (state : NativeGemini) : Bool :=
  state.finished && state.hasUsage && state.terminalUsage

def NativeGemini.read (tools : List Text) (upstream : Upstream) (deliveries : List Delivery) :
    (NativeGemini × Writer) × Option Fault :=
  let (events, ending) := readGeminiEvents upstream
  let (held, fault) := Relay.feed (forward (NativeGemini.accept tools) EventStream.block)
    (.start, .new deliveries) events
  (held, fault.or ending)

def forwardNativeGeminiStream (antigravity : Bool) (model : Text) (tools : List Text)
    (upstream : Upstream) (deliveries : List Delivery) (initial : Result) :
    Writer × Result × Option Failure :=
  let ((state, writer), fault) := NativeGemini.read tools upstream deliveries
  let result := { initial with bytesOut := initial.bytesOut + writer.bytesOut }
  match fault with
  | some fault =>
    (writer, aborted result (if fault.ofContext ∨ fault = .timeout then
      transportFailure antigravity fault else geminiProtocolFailure fault))
  | none =>
    if state.complete then
      (writer, { result with model, serviceTier := "default".toList, usage := state.last }, none)
    else (writer, aborted result (geminiProtocolFailure
      (.protocol "native Gemini stream missing completion or usage")))

/-! ## The whole body -/

/-- A complete response and its usage. -/
def validateNativeGemini (tools : List Text) (data : Bytes) : Except String Usage :=
  match parseNativeGemini tools data with
  | .error _ => .error "native Gemini completion missing"
  | .ok frame =>
    match frame.listed with
    | [candidate] =>
      if candidate.finishReason = [] then .error "native Gemini completion missing"
      else nativeGeminiUsage frame.usage
    | _ => .error "native Gemini completion missing"

def forwardNativeGeminiBody (antigravity : Bool) (model : Text) (tools : List Text)
    (upstream : Upstream) (deliveries : List Delivery) (initial : Result) :
    Writer × Result × Option Failure :=
  if maxGeminiResponseBytes < upstream.body.length then
    (.new deliveries, aborted initial
      (geminiProtocolFailure (.protocol "native Gemini response too large")))
  else match upstream.ending with
  | some fault => (.new deliveries, aborted initial (transportFailure antigravity fault))
  | none =>
    match validateNativeGemini tools upstream.body with
    | .error text => (.new deliveries, aborted initial (geminiProtocolFailure (.protocol text)))
    | .ok usage =>
      let (writer, fault) := (Writer.new deliveries).write upstream.body
      let result := { initial with bytesOut := initial.bytesOut + writer.bytesOut }
      match fault with
      | some fault => (writer, aborted result (transportFailure antigravity fault))
      | none =>
        (writer, { result with model, serviceTier := "default".toList, usage }, none)

def forwardNativeGemini (antigravity : Bool) (model : Text) (tools : List Text) (stream : Bool)
    (upstream : Upstream) (deliveries : List Delivery) (initial : Result) :
    Writer × Result × Option Failure :=
  if stream then forwardNativeGeminiStream antigravity model tools upstream deliveries initial
  else forwardNativeGeminiBody antigravity model tools upstream deliveries initial

end Proxy
