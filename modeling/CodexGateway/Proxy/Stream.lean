import CodexGateway.Library.EventStream
import CodexGateway.Library.GoJson
import CodexGateway.Library.Relay

/-! # What the adapters read and write

An adapter reads the body of an upstream response line by line and writes to one client. The
body may be cut, and the client may go away at any write.
-/

namespace Proxy

variable {event : Bytes}

structure Usage where
  inputTokens : Int
  cachedTokens : Int
  cacheWriteTokens : Int
  cacheWriteTokensPresent : Bool
  cacheWrite5mTokens : Int
  cacheWrite1hTokens : Int
  cacheWriteTTLPresent : Bool
  outputTokens : Int
  reasoningTokens : Int
  deriving Repr, DecidableEq

def Usage.zero : Usage := ⟨0, 0, 0, false, 0, 0, false, 0, 0⟩

/-- Why reading, checking or writing stopped. -/
inductive Fault where
  | protocol (text : String)
  | tooLong
  | cancelled
  | deadline
  | timeout
  | broken
  | disconnected
  deriving Repr, DecidableEq

/-- The context of the request is done. -/
def Fault.ofContext : Fault → Bool
  | .cancelled | .deadline => true
  | _ => false

structure Failure where
  status : Nat
  type : String
  code : String
  message : String
  retryAfter : Nat := 0
  cause : Option Fault := none
  deriving Repr, DecidableEq

/-- `protocolFailure`. -/
def protocolFailure (cause : Fault) : Failure :=
  { status := 502, type := "upstream_error", code := "upstream_unavailable",
    message := "暂时无法连接上游服务", cause := some cause }

/-- `transportFailure`; a bridge that cannot be reached is unavailable. -/
def transportFailure (antigravity : Bool) (cause : Fault) : Failure :=
  match cause with
  | .cancelled =>
    { status := 0, type := "request_error", code := "client_disconnected",
      message := "客户端已断开连接", cause := some cause }
  | .deadline | .timeout =>
    { status := 504, type := "upstream_error", code := "upstream_timeout",
      message := "连接上游超时", cause := some cause }
  | _ => { protocolFailure cause with status := if antigravity then 503 else 502 }

structure Result where
  model : Text
  serviceTier : Text
  usage : Usage
  bytesOut : Nat
  abortStream : Bool
  deriving Repr, DecidableEq

def noResult : Result := ⟨[], [], .zero, 0, false⟩

/-! ## The client -/

/-- How a write ends. A context that is done refuses it before anything is sent. -/
inductive Delivery where
  | written
  | broken (sent : Nat)
  | refused (deadline : Bool)
  deriving Repr, DecidableEq

/-- The client's side of a response: how the writes to come end, and what the finished ones
have sent. -/
structure Writer where
  deliveries : List Delivery
  sent : Bytes
  bytesOut : Nat
  started : Bool
  deriving DecidableEq

def Writer.new (deliveries : List Delivery) : Writer := ⟨deliveries, [], 0, false⟩

def Writer.write (writer : Writer) (data : Bytes) : Writer × Option Fault :=
  match writer.deliveries with
  | .broken sent :: deliveries =>
    ({ writer with
        deliveries
        bytesOut := writer.bytesOut + min sent data.length
        started := true }, some .disconnected)
  | .refused deadline :: deliveries =>
    ({ writer with deliveries }, some (if deadline then .deadline else .cancelled))
  | deliveries =>
    (⟨deliveries.tail, writer.sent ++ data, writer.bytesOut + data.length, true⟩, none)

theorem Writer.write_ok {writer writer' : Writer} {data : Bytes}
    (ok : writer.write data = (writer', none)) :
    writer'.sent = writer.sent ++ data ∧ writer'.started = true := by
  unfold Writer.write at ok
  split at ok
  · cases ok
  · cases ok
  · cases ok
    exact ⟨rfl, rfl⟩

theorem Writer.write_fault {writer writer' : Writer} {data : Bytes} {fault : Fault}
    (failed : writer.write data = (writer', some fault)) : writer'.sent = writer.sent := by
  unfold Writer.write at failed
  split at failed
  · cases failed
    rfl
  · cases failed
    rfl
  · cases failed

def Writer.delivers (writer : Writer) : Bool :=
  match writer.deliveries with
  | .broken _ :: _ | .refused _ :: _ => false
  | _ => true

theorem Writer.write_eq_none (writer : Writer) (data : Bytes) :
    (writer.write data).2 = none ↔ writer.delivers = true := by
  unfold Writer.write Writer.delivers
  split <;> simp_all

theorem Writer.sent_write (writer : Writer) (data : Bytes) :
    (writer.write data).1.sent = writer.sent ++ if writer.delivers then data else [] := by
  unfold Writer.write Writer.delivers
  split <;> simp_all

/-! ## The upstream -/

/-- A body, why it ends early if it does, and how many lines are scanned before a reader whose
limit is used up is noticed. The last depends on how the body is cut into reads. -/
structure Upstream where
  body : Bytes
  ending : Option Fault
  noticed : Nat
  deriving DecidableEq

/-- The lines that a scanner over a limited reader gives, and the fault that ends them. A line
with its end must fit the buffer. -/
def Upstream.scan (upstream : Upstream) (limit longest : Nat) (exceeded : String) :
    List Bytes × Option Fault :=
  let oversized : Bool := limit < upstream.body.length
  let raw := EventStream.linesFrom [] (upstream.body.take (limit + 1))
  let readable := raw.takeWhile fun line => line.length < longest
  let kept := if oversized then readable.take (min upstream.noticed (raw.length - 1)) else readable
  let stop :=
    if kept.length < readable.length then some (Fault.protocol exceeded)
    else if readable.length < raw.length then some .tooLong
    else upstream.ending
  (kept.map EventStream.dropCR, stop)

def maxSSEEventBytes : Nat := 4 * 1024 * 1024

def dataLine? (line : Bytes) : Option Bytes :=
  if line.take 5 = [100, 97, 116, 97, 58] then some (EventStream.fieldValue (line.drop 5)) else none

def isComment (line : Bytes) : Bool := line.head? = some 58

/-- The last report, if one was accepted: a client pays for the tokens that were observed. -/
def Survives (report : Option Usage) (result : Result) : Prop :=
  ∀ usage ∈ report, result.usage = usage

/-! ## Check, then write -/

section Forward

variable {σ : Type} (accept : σ → Bytes → Except String σ) (encode : Bytes → Bytes)

/-- One event: it is checked and then written, and stays checked when the write fails. -/
def forward (held : σ × Writer) (event : Bytes) : (σ × Writer) × Option Fault :=
  match accept held.1 event with
  | .error text => (held, some (.protocol text))
  | .ok next => ((next, (held.2.write (encode event)).1), (held.2.write (encode event)).2)

variable {accept encode}

theorem forward_error {held : σ × Writer} {text : String}
    (refused : accept held.1 event = .error text) :
    forward accept encode held event = (held, some (.protocol text)) := by
  simp [forward, refused]

theorem forward_ok {held : σ × Writer} {next : σ} (taken : accept held.1 event = .ok next) :
    forward accept encode held event =
      ((next, (held.2.write (encode event)).1), (held.2.write (encode event)).2) := by
  simp [forward, taken]

/-- The writes that were finished are those of the accepted events. -/
theorem sent_feed (held : σ × Writer) (events : List Bytes) :
    (Relay.feed (forward accept encode) held events).1.2.sent =
      held.2.sent ++ (Relay.accepted (forward accept encode) held events).flatMap encode := by
  refine @Relay.feed_trace _ _ _ (forward accept encode) _ (fun held => held.2.sent) encode ?_ ?_
    held events
  · intro held event next fine
    cases taken : accept held.1 event with
    | error text => rw [forward_error taken] at fine; cases fine
    | ok state =>
      rw [forward_ok taken, Prod.mk.injEq] at fine
      rw [← fine.1]
      exact (Writer.write_ok (Prod.ext rfl fine.2)).1
  · intro held event next fault faulty
    cases taken : accept held.1 event with
    | error text => rw [forward_error taken] at faulty; cases faulty; rfl
    | ok state =>
      rw [forward_ok taken, Prod.mk.injEq] at faulty
      rw [← faulty.1]
      exact Writer.write_fault (Prod.ext rfl faulty.2)

/-- What the checks establish of an event holds of every accepted one. -/
theorem accepted_checked {held : σ × Writer} {events : List Bytes}
    (member : event ∈ Relay.accepted (forward accept encode) held events) :
    ∃ before after, accept before event = .ok after := by
  obtain ⟨before, after, fine⟩ := Relay.fine_of_accepted member
  cases taken : accept before.1 event with
  | error text => rw [forward_error taken] at fine; cases fine
  | ok next => exact ⟨before.1, next, taken⟩

end Forward

/-- A failure after the response has begun: its status is no longer sent. -/
def aborted (result : Result) (failure : Failure) : Result × Option Failure :=
  if 0 < result.bytesOut then
    ({ result with abortStream := true }, some { failure with status := 0 })
  else (result, some failure)

@[simp]
theorem aborted_usage (result : Result) (failure : Failure) :
    (aborted result failure).1.usage = result.usage := by
  unfold aborted
  split <;> rfl

end Proxy
