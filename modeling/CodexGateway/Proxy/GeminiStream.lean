import CodexGateway.Proxy.Gemini

/-! # The legacy Gemini stream

The bridge sends events of text and at the end one complete response. The gateway forwards
the texts at once and holds the response back until the stream has ended; what of its text
was already sent is then cut off.
-/

namespace Proxy

open Except (bind_eq_ok)

/-! ## Events of text -/

structure ProgressPart where
  text : Option Text

structure ProgressContent where
  role : Text
  parts : Option (GoSlice ProgressPart)

structure ProgressCandidate where
  index : Int
  content : ProgressContent

structure Progress where
  model : Text
  responseID : Text
  candidates : Option (GoSlice ProgressCandidate)

def ProgressPart.fields : List (GoField ProgressPart) :=
  [.of "text" (·.text) (fun part text => { part with text }) (.pointer [] .string)]

def ProgressContent.fields : List (GoField ProgressContent) :=
  [.of "role" (·.role) (fun content role => { content with role }) .string,
    .of "parts" (·.parts) (fun content parts => { content with parts })
      (.slice ⟨none⟩ (.struct true ProgressPart.fields))]

def ProgressCandidate.fields : List (GoField ProgressCandidate) :=
  [.of "index" (·.index) (fun candidate index => { candidate with index }) .int64,
    .of "content" (·.content) (fun candidate content => { candidate with content })
      (.struct true ProgressContent.fields)]

def Progress.fields : List (GoField Progress) :=
  [.of "modelVersion" (·.model) (fun progress model => { progress with model }) .string,
    .of "responseId" (·.responseID) (fun progress responseID => { progress with responseID })
      .string,
    .of "candidates" (·.candidates) (fun progress candidates => { progress with candidates })
      (.slice ⟨0, ⟨[], none⟩⟩ (.struct true ProgressCandidate.fields))]

structure GeminiErrorDetail where
  status : Int
  code : Text

def GeminiErrorDetail.fields : List (GoField GeminiErrorDetail) :=
  [.of "status" (·.status) (fun detail status => { detail with status }) .int64,
    .of "code" (·.code) (fun detail code => { detail with code }) .string]

/-! ## Failures of the bridge -/

def safeIdentifier (value : Text) : Text :=
  if value = [] ∨ 80 < value.byteLength then []
  else if value.all fun c => c.isLower || c.isDigit || c = '_' || c = '-' then value else []

/-- `sanitizeFailure` for the bridge: its code chooses one of the fixed messages. -/
def sanitizeFailure (status : Nat) (bridgeCode : Text) : Failure :=
  let code := safeIdentifier bridgeCode
  let failure (status : Nat) (type code message : String) (retryAfter : Nat := 0) : Failure :=
    { status, type, code, message, retryAfter }
  let invalid := failure 502 "upstream_error" "upstream_protocol_error" "Antigravity 返回了无效错误响应"
  match status with
  | 400 =>
    if code = "antigravity_invalid_request".toList then
      failure 400 "invalid_request_error" "antigravity_invalid_request" "Antigravity 请求格式无效"
    else if "antigravity_".toList.isPrefixOf code ∧ "_unsupported".toList.isSuffixOf code then
      failure 400 "invalid_request_error" (String.ofList code) "Antigravity 不支持此请求参数或输入类型"
    else invalid
  | 401 | 403 =>
    failure 503 "upstream_error" "upstream_reauthentication_required"
      "Antigravity 登录已失效，需要管理员重新认证"
  | 413 =>
    failure 413 "invalid_request_error" "antigravity_request_too_large"
      "Antigravity 请求体超过 1 MiB 限制"
  | 429 =>
    if code = "upstream_concurrency_exceeded".toList then
      failure 429 "rate_limit_error" "upstream_concurrency_exceeded"
        "Antigravity 正在处理其他请求，请稍后重试" 1
    else failure 429 "rate_limit_error" "upstream_rate_limited" "Antigravity 订阅已达到使用限制" 60
  | 503 =>
    if code = "upstream_reauthentication_required".toList then
      failure 503 "upstream_error" "upstream_reauthentication_required"
        "Antigravity 登录已失效，需要管理员重新认证"
    else failure 503 "upstream_error" "upstream_unavailable" "Antigravity 尚未就绪"
  | 504 => failure 504 "upstream_error" "upstream_timeout" "Antigravity 请求超时"
  | 502 =>
    if code = "upstream_process_error".toList then
      failure 502 "upstream_error" "upstream_process_error" "Antigravity 进程异常"
    else failure 502 "upstream_error" "upstream_protocol_error" "Antigravity 输出协议或进程异常"
  | _ => invalid

/-! ## The callback -/

structure GeminiStream where
  writer : Writer
  text : Text
  terminal : Option Bytes
  usage : Usage
  responseID : Text
  failure : Option Failure

def GeminiStream.start (deliveries : List Delivery) : GeminiStream :=
  ⟨.new deliveries, [], none, .zero, [], none⟩

def errorEvent (members : List (Text × Json)) (raw : Json) : Except String Failure :=
  match Decoder.struct true GeminiErrorDetail.fields ⟨0, []⟩ raw with
  | some detail =>
    if members.length = 1 ∧ 400 ≤ detail.status ∧ detail.status ≤ 599 then
      .ok (sanitizeFailure detail.status.toNat detail.code)
    else .error "invalid Gemini stream error"
  | none => .error "invalid Gemini stream error"

/-- The terminal event: its usage, if its identity is that of the stream. -/
def terminalEvent (model : Text) (tools : List Text) (responseID : Text)
    (members : List (Text × Json)) (data : Bytes) : Except String Usage := do
  let usage ← validateGeminiResponse model tools data
  match (Json.get? "responseId".toList members).bind (Decoder.string []) with
  | some id =>
    if responseID ≠ [] ∧ id ≠ responseID then throw "Gemini response identity changed"
    return usage
  | none => throw "Gemini response identity changed"

/-- The identity of an event of text and the text that it adds. -/
def progressEvent (model : Text) (responseID text : Text) (value : Json) :
    Except String (Text × Text) :=
  match Decoder.struct true Progress.fields ⟨[], [], none⟩ value with
  | none => .error "invalid Gemini progress metadata"
  | some progress =>
    match progress.candidates.map (·.items) with
    | some [candidate] =>
      if progress.model ≠ model ∨ progress.responseID = [] ∨
          (responseID ≠ [] ∧ responseID ≠ progress.responseID) then
        .error "invalid Gemini progress metadata"
      else if candidate.index ≠ 0 ∨ candidate.content.role ≠ "model".toList then
        .error "invalid Gemini progress candidate"
      else match (candidate.content.parts.map (·.items) : Option (List ProgressPart)) with
        | some [] => .ok (progress.responseID, [])
        | some [⟨some delta⟩] =>
          if delta = [] ∨ maxGeminiResponseBytes < text.byteLength + delta.byteLength then
            .error "invalid Gemini text delta"
          else .ok (progress.responseID, delta)
        | some [⟨none⟩] => .error "invalid Gemini text delta"
        | _ => .error "invalid Gemini progress candidate"
    | _ => .error "invalid Gemini progress metadata"

/-- The callback of `readGeminiEvents`. -/
def GeminiStream.consume (model : Text) (tools : List Text) (stream : GeminiStream)
    (data : Bytes) : GeminiStream × Option Fault :=
  if stream.terminal.isSome then (stream, some (.protocol "event after Gemini completion"))
  else match (if Utf8.valid data then validateModelCatalogJSON data else .error "") with
  | .error _ => (stream, some (.protocol "invalid Gemini stream JSON"))
  | .ok (.object members) =>
    match Json.get? "error".toList members with
    | some raw =>
      match errorEvent members raw with
      | .ok failure =>
        ({ stream with failure := some failure },
          some (.protocol "Gemini upstream stream failed"))
      | .error text => (stream, some (.protocol text))
    | none =>
      if (Json.get? "usageMetadata".toList members).isSome then
        match terminalEvent model tools stream.responseID members data with
        | .ok usage => ({ stream with usage, terminal := some data }, none)
        | .error text => (stream, some (.protocol text))
      else match progressEvent model stream.responseID stream.text (.object members) with
        | .ok (responseID, delta) =>
          let (writer, fault) := stream.writer.write (EventStream.block data)
          ({ stream with writer, responseID, text := stream.text ++ delta }, fault)
        | .error text => (stream, some (.protocol text))
  | .ok _ => (stream, some (.protocol "invalid Gemini stream object"))

/-! ## The end of the stream -/

/-- `final["candidates"].([]any)[0].(map[string]any)["content"].(map[string]any)["parts"].([]any)`:
keys are exact here, and a wrong type is a panic. -/
def assertParts (final : Json) : Option (List Json) :=
  match final with
  | .object members =>
    match Json.get? "candidates".toList members with
    | some (.array (.object candidate :: _)) =>
      match Json.get? "content".toList candidate with
      | some (.object content) =>
        match Json.get? "parts".toList content with
        | some (.array parts) => some parts
        | _ => none
      | _ => none
    | _ => none
  | _ => none

def mapMember (key : Text) (change : Json → Json) : Json → Json
  | .object members =>
    .object (members.map fun member =>
      if member.1 = key then (member.1, change member.2) else member)
  | value => value

def mapFirst (change : Json → Json) : Json → Json
  | .array (item :: items) => .array (change item :: items)
  | value => value

/-- The response with another text in its first part. -/
def setText (text : Text) (final : Json) : Json :=
  mapMember "candidates".toList (mapFirst (mapMember "content".toList
    (mapMember "parts".toList (mapFirst (mapMember "text".toList fun _ => .string text))))) final

/-- What is sent for the terminal event, or why it is refused; `none` is a panic. -/
def terminalPayload (streamed : Text) (terminal : Bytes) : Option (Except String Bytes) :=
  (Json.ofBytes terminal).bind fun final =>
    (assertParts final).bind fun parts =>
      if streamed = [] then some (.ok terminal)
      else match parts with
        | [part] =>
          match part with
          | .object members =>
            match Json.get? "text".toList members with
            | some (.string full) =>
              if streamed.isPrefixOf full then
                some (.ok (Json.marshal (setText (full.drop streamed.length) final)))
              else some (.error "Gemini final text does not match deltas")
            | _ => some (.error "Gemini final text does not match deltas")
          | _ => none
        | _ => some (.error "Gemini streamed text changed into tools")

inductive Outcome where
  | returned (result : Result) (failure : Option Failure)
  | panicked

/-- `client_disconnected`. -/
def disconnectedFailure (cause : Fault) : Failure :=
  { status := 0, type := "request_error", code := "client_disconnected",
    message := "客户端已断开连接", cause := some cause }

/-- The kind of an error in a report to the client. -/
def reportKind (status : Nat) : String :=
  match status with
  | 429 => "RESOURCE_EXHAUSTED"
  | 503 => "UNAVAILABLE"
  | 504 => "DEADLINE_EXCEEDED"
  | _ => "INTERNAL"

def reportPayload (failure : Failure) : Bytes :=
  let status := if failure.status < 400 ∨ 599 < failure.status then 502 else failure.status
  Json.marshal (.object [("error".toList, .object [("code".toList, .ofInt status),
    ("status".toList, .string (reportKind status).toList),
    ("message".toList, .string failure.message.toList)])])

def eventError : Bytes := Utf8.encode "event: error\n".toList

/-- The deferred report of a failure to a client that has read something already. -/
def reports (writer : Writer) (failure : Failure) : Bool :=
  writer.started && failure.code ≠ "client_disconnected" &&
    !(failure.cause.any Fault.ofContext)

/-- `io.WriteString`: unlike the other writes it does not ask first whether the context is done. -/
def Writer.writeString (writer : Writer) (data : Bytes) : Writer :=
  let written : Writer := { writer with
    sent := writer.sent ++ data
    bytesOut := writer.bytesOut + data.length }
  match writer.deliveries with
  | .broken sent :: deliveries =>
    { writer with deliveries, bytesOut := writer.bytesOut + min sent data.length }
  | .refused _ :: _ => written
  | deliveries => { written with deliveries := deliveries.tail }

/-- Two writes. The faults of both are ignored, and only bytes that were written are counted. -/
def report (writer : Writer) (failure : Failure) : Writer :=
  ((writer.writeString eventError).write (EventStream.block (reportPayload failure))).1

/-- A failure with what is written and returned because of it. -/
def GeminiStream.fail (initial : Result) (stream : GeminiStream) (failure : Failure) :
    Writer × Outcome :=
  if reports stream.writer failure then
    (report stream.writer failure,
      .returned { initial with
        bytesOut := initial.bytesOut + (report stream.writer failure).bytesOut
        abortStream := true } (some failure))
  else (stream.writer, .returned { initial with
    bytesOut := initial.bytesOut + stream.writer.bytesOut } (some failure))

/-- Why the callback or the reader stopped. -/
def GeminiStream.failureOf (stream : GeminiStream) (fault : Fault) : Failure :=
  if fault.ofContext ∨ fault = .timeout then transportFailure true fault
  else if fault = .disconnected then disconnectedFailure fault
  else stream.failure.getD (geminiProtocolFailure fault)

def GeminiStream.read (model : Text) (tools : List Text) (upstream : Upstream)
    (deliveries : List Delivery) : GeminiStream × Option Fault :=
  let (events, ending) := readGeminiEvents upstream
  let (stream, fault) := Relay.feed (GeminiStream.consume model tools) (.start deliveries) events
  (stream, fault.or ending)

def GeminiStream.finish (model : Text) (initial : Result) (stream : GeminiStream) :
    Writer × Outcome :=
  match stream.terminal with
  | none => stream.fail initial (geminiProtocolFailure (.protocol "missing Gemini completion"))
  | some terminal =>
    match terminalPayload stream.text terminal with
    | none => (stream.writer, .panicked)
    | some (.error text) => stream.fail initial (geminiProtocolFailure (.protocol text))
    | some (.ok payload) =>
      let (writer, fault) := stream.writer.write (EventStream.block payload)
      match fault with
      | some fault =>
        GeminiStream.fail initial { stream with writer }
          (if fault.ofContext then transportFailure true fault else disconnectedFailure fault)
      | none =>
        (writer, .returned { initial with
          model
          serviceTier := "default".toList
          usage := stream.usage
          bytesOut := initial.bytesOut + writer.bytesOut } none)

def forwardGeminiStream (model : Text) (tools : List Text) (upstream : Upstream)
    (deliveries : List Delivery) (initial : Result) : Writer × Outcome :=
  match GeminiStream.read model tools upstream deliveries with
  | (stream, some fault) => stream.fail initial (stream.failureOf fault)
  | (stream, none) => stream.finish model initial

/-! ## Panics -/

end Proxy
