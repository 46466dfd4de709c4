import CodexGateway.Library.Transaction
import CodexGateway.Proxy.Stream

/-! # Gemini responses

What a complete response of the bridge must be. The checks read the response as a struct of
Go, in which the case of a key does not count.
-/

namespace Proxy

open Except (bind_eq_ok check_bind_eq_ok)

variable {payloads : List Bytes}

def maxGeminiResponseBytes : Nat := 16 * 1024 * 1024

def geminiProtocolFailure (cause : Fault) : Failure :=
  { status := 502, type := "upstream_error", code := "upstream_protocol_error",
    message := "Antigravity 输出协议或进程异常", cause := some cause }

/-! ## Events -/

/-- `readGeminiEvents`: the payloads that the callback gets, as far as it accepts them, and the
fault that ends the reading. -/
def geminiEvents (stop : Option Fault) : Option Bytes → List Bytes → List Bytes × Option Fault
  | data, [] =>
    ([], stop.or (if data.isSome then
      some (.protocol "incomplete or oversized Gemini SSE event") else none))
  | data, line :: lines =>
    if line = [] then
      let (events, fault) := geminiEvents stop none lines
      (data.toList ++ events, fault)
    else if isComment line then geminiEvents stop data lines
    else match dataLine? line with
      | none => ([], some (.protocol "unexpected Gemini SSE field"))
      | some value => geminiEvents stop (some (EventStream.addData data value)) lines

def readGeminiEvents (upstream : Upstream) : List Bytes × Option Fault :=
  let (lines, stop) := upstream.scan maxGeminiResponseBytes maxGeminiResponseBytes
    "Gemini stream exceeds limit"
  geminiEvents stop none lines

/-! ## The struct of a response -/

structure GeminiCall where
  name : Text
  args : Option Json
  id : Text

structure GeminiPart where
  text : Option Text
  functionCall : Option GeminiCall

structure GeminiContent where
  role : Text
  parts : Option (GoSlice GeminiPart)

structure GeminiCandidate where
  content : GeminiContent
  finishReason : Text
  index : Int

structure GeminiUsage where
  prompt : Option Int
  candidates : Option Int
  thoughts : Option Int
  cached : Option Int
  total : Option Int
  deriving DecidableEq

structure GeminiResponse where
  modelVersion : Text
  responseID : Text
  candidates : Option (GoSlice GeminiCandidate)
  usageMetadata : Option GeminiUsage

def GeminiCall.zero : GeminiCall := ⟨[], none, []⟩

def GeminiPart.zero : GeminiPart := ⟨none, none⟩

def GeminiCandidate.zero : GeminiCandidate := ⟨⟨[], none⟩, [], 0⟩

def GeminiUsage.zero : GeminiUsage := ⟨none, none, none, none, none⟩

def GeminiResponse.zero : GeminiResponse := ⟨[], [], none, none⟩

def GeminiCall.fields : List (GoField GeminiCall) :=
  [.of "name" (·.name) (fun call name => { call with name }) .string,
    .of "args" (·.args) (fun call args => { call with args }) .raw,
    .of "id" (·.id) (fun call id => { call with id }) .string]

def GeminiPart.fields : List (GoField GeminiPart) :=
  [.of "text" (·.text) (fun part text => { part with text }) (.pointer [] .string),
    .of "functionCall" (·.functionCall) (fun part functionCall => { part with functionCall })
      (.pointer .zero (.struct true GeminiCall.fields))]

def GeminiContent.fields : List (GoField GeminiContent) :=
  [.of "role" (·.role) (fun content role => { content with role }) .string,
    .of "parts" (·.parts) (fun content parts => { content with parts })
      (.slice .zero (.struct true GeminiPart.fields))]

def GeminiCandidate.fields : List (GoField GeminiCandidate) :=
  [.of "content" (·.content) (fun candidate content => { candidate with content })
      (.struct true GeminiContent.fields),
    .of "finishReason" (·.finishReason)
      (fun candidate finishReason => { candidate with finishReason }) .string,
    .of "index" (·.index) (fun candidate index => { candidate with index }) .int64]

def GeminiUsage.fields : List (GoField GeminiUsage) :=
  [.of "promptTokenCount" (·.prompt) (fun usage prompt => { usage with prompt })
      (.pointer 0 .int64),
    .of "candidatesTokenCount" (·.candidates) (fun usage candidates => { usage with candidates })
      (.pointer 0 .int64),
    .of "thoughtsTokenCount" (·.thoughts) (fun usage thoughts => { usage with thoughts })
      (.pointer 0 .int64),
    .of "cachedContentTokenCount" (·.cached) (fun usage cached => { usage with cached })
      (.pointer 0 .int64),
    .of "totalTokenCount" (·.total) (fun usage total => { usage with total })
      (.pointer 0 .int64)]

def GeminiResponse.fields : List (GoField GeminiResponse) :=
  [.of "modelVersion" (·.modelVersion)
      (fun response modelVersion => { response with modelVersion }) .string,
    .of "responseId" (·.responseID) (fun response responseID => { response with responseID })
      .string,
    .of "candidates" (·.candidates) (fun response candidates => { response with candidates })
      (.slice .zero (.struct true GeminiCandidate.fields)),
    .of "usageMetadata" (·.usageMetadata)
      (fun response usageMetadata => { response with usageMetadata })
      (.pointer .zero (.struct true GeminiUsage.fields))]

/-! ## Checks -/

/-- `validateModelCatalogJSON`: one value, no repeated key, not too deep. -/
def validateModelCatalogJSON (data : Bytes) : Except String Json :=
  match Json.ofBytes data with
  | none => .error "validate model catalog JSON"
  | some value =>
    if value.unique && value.depth ≤ 1000 then .ok value else .error "validate model catalog JSON"

/-- `unicode.IsControl`. -/
def isControl (c : Char) : Bool := c.toNat < 0x20 || (0x7F ≤ c.toNat && c.toNat < 0xA0)

def validateCall (tools : List Text) (seen : List Text) (call : GeminiCall) :
    Except String (List Text) := do
  if call.name ∉ tools ∨ call.name = [] then throw "Gemini returned an undeclared tool"
  match call.args with
  | some (.object _) => pure ()
  | _ => throw "Gemini tool arguments are not an object"
  if call.id = [] then return seen
  if call.id.any isControl ∨ Text.trimSpace call.id ≠ call.id then
    throw "invalid Gemini tool call ID"
  if call.id ∈ seen then throw "duplicate Gemini tool call ID"
  return call.id :: seen

/-- A part is either a text or a call. -/
def validateParts (tools : List Text) : List Text → List GeminiPart → Except String Unit
  | _, [] => .ok ()
  | seen, ⟨some text, none⟩ :: parts =>
    if text = [] then .error "empty Gemini response text" else validateParts tools seen parts
  | seen, ⟨none, some call⟩ :: parts => do
    let seen ← validateCall tools seen call
    validateParts tools seen parts
  | _, _ :: _ => .error "invalid Gemini response part"

def geminiUsage (usage : Option GeminiUsage) : Except String Usage :=
  match usage with
  | some ⟨some prompt, some candidates, some thoughts, some cached, some total⟩ =>
    if prompt < 0 ∨ candidates < 0 ∨ thoughts < 0 ∨ cached < 0 ∨ prompt < cached ∨
        Json.maxInt64 - thoughts < candidates then .error "invalid Gemini usage"
    else if Json.maxInt64 - (candidates + thoughts) < prompt ∨
        total ≠ prompt + (candidates + thoughts) then
      .error "inconsistent or overflowing Gemini usage"
    else .ok { Usage.zero with
      inputTokens := prompt
      cachedTokens := cached
      outputTokens := candidates + thoughts
      reasoningTokens := thoughts }
  | _ => .error "invalid Gemini usage"

def validateCandidate (tools : List Text) (candidate : GeminiCandidate) : Except String Unit :=
  let parts := (candidate.content.parts.map (·.items)).getD []
  if candidate.content.role ≠ "model".toList ∨ parts = [] ∨ candidate.index ≠ 0 ∨
      (candidate.finishReason ≠ "STOP".toList ∧ candidate.finishReason ≠ "MAX_TOKENS".toList) then
    .error "incomplete Gemini candidate"
  else validateParts tools [] parts

def checkGeminiResponse (model : Text) (tools : List Text) (response : GeminiResponse) :
    Except String Usage :=
  match response.candidates.map (·.items) with
  | some [candidate] =>
    if response.modelVersion ≠ model then .error "unexpected Gemini response model or candidates"
    else do
      validateCandidate tools candidate
      geminiUsage response.usageMetadata
  | _ => .error "unexpected Gemini response model or candidates"

def validateGeminiResponse (model : Text) (tools : List Text) (data : Bytes) :
    Except String Usage := do
  if !Utf8.valid data then throw "invalid Gemini response UTF-8"
  let value ← validateModelCatalogJSON data
  match Decoder.struct true GeminiResponse.fields .zero value with
  | none => throw "json: cannot unmarshal"
  | some response => checkGeminiResponse model tools response

/-! ## Accepted responses under exact keys -/

variable {model : Text} {tools : List Text} {data : Bytes} {usage : Usage} {value : Json}

def OneLine (payload : Bytes) : Prop := ∀ byte ∈ payload, EventStream.isBreak byte = false

theorem oneLine_encode (value : Json) : OneLine (Utf8.encode value.render) := by
  intro byte member
  exact EventStream.isBreak_of_printable (Utf8.printable_encode (fun c => value.printable) member)

end Proxy
