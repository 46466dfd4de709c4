import CodexGateway.Proxy.GeminiStream
import CodexGateway.Proxy.NativeResponses

/-! # Event streams as they are written again

The payload of an event is written after one `data:`, as it was read. An event with several
lines of data has a payload with line breaks, of which a client reads the first line only.
-/

namespace Proxy

open EventStream

variable {payload data : Bytes} {tools : List Text} {model : Text}

/-- What a client reads of one event: a JSON value, or the mark of the end. -/
def Reads (event : Bytes) : Option Json → Prop
  | some value => ∃ read, Json.ofBytes event = some read ∧ read.Same value
  | none => event = doneEvent

theorem ofBytes_doneEvent : Json.ofBytes doneEvent = none := by decide +kernel

theorem firstLine_doneEvent : firstLine doneEvent = doneEvent := by decide +kernel

/-- A payload that was accepted: JSON, or the mark of the end. -/
def Payload (payload : Bytes) : Prop :=
  payload = doneEvent ∨ ∃ value, Json.ofBytes payload = some value

theorem reads_firstLine (accepted : Payload payload) :
    Reads (firstLine payload) (Json.ofBytes payload) ↔ payload = doneEvent ∨ Flat payload := by
  rcases accepted with rfl | ⟨value, json⟩
  · simp [ofBytes_doneEvent, firstLine_doneEvent, Reads]
  · rw [json]
    constructor
    · rintro ⟨read, first, -⟩
      exact .inr (flat_of_ofBytes json first)
    · rintro (rfl | flat)
      · rw [ofBytes_doneEvent] at json
        cases json
      · exact ⟨value, (ofBytes_firstLine json).mpr flat, rfl⟩

variable {payloads : List Bytes} {encode : Bytes → Bytes} {streamed type : Text}
  {next stream : GeminiStream} {fault : Fault} {α β : Type} {terminal : Bytes}

/-- Of each of the payloads a client reads what was accepted exactly if they are flat. -/
theorem forall₂_reads (accepted : ∀ payload ∈ payloads, Payload payload) :
    List.Forall₂ Reads (payloads.map firstLine) (payloads.map Json.ofBytes) ↔
      ∀ payload ∈ payloads, payload = doneEvent ∨ Flat payload := by
  rw [List.forall₂_map_left_iff, List.forall₂_map_right_iff, List.forall₂_same]
  exact forall₂_congr fun payload member => reads_firstLine (accepted payload member)

/-- An encoding of which a client reads the first line of the payload. -/
def Encodes (encode : Bytes → Bytes) : Prop :=
  ∀ payload, Payload payload → ∀ rest,
    events (encode payload ++ rest) = firstLine payload :: events rest

theorem Encodes.events_flatMap (encodes : Encodes encode)
    (accepted : ∀ payload ∈ payloads, Payload payload) (rest : Bytes) :
    events (payloads.flatMap encode ++ rest) = payloads.map firstLine ++ events rest := by
  induction payloads with
  | nil => rfl
  | cons payload payloads ih =>
    rw [List.flatMap_cons, List.append_assoc, encodes payload (accepted payload (by simp)),
      ih fun other member => accepted other (.tail _ member)]
    rfl

theorem encodes_block : Encodes block := by
  intro payload accepted rest
  rcases accepted with rfl | ⟨value, json⟩
  · have line : afterFirstLine doneEvent = [] := by decide +kernel
    refine events_block (fun byte rest after => ?_) rest
    rw [line] at after
    cases after
  · exact events_json_block json rest

theorem printable_eventType (known : type ∈ nativeResponseEventTypes) {c : Char}
    (member : c ∈ type) : 0x20 ≤ c.toNat := by
  have all : (nativeResponseEventTypes.all fun type =>
      type.all fun c => decide (0x20 ≤ c.toNat)) = true := by decide +kernel
  exact of_decide_eq_true (List.all_eq_true.mp (List.all_eq_true.mp all type known) c member)

/-- The line with the type of an event is passed over. -/
theorem events_eventLine (known : type ∈ nativeResponseEventTypes) (rest : Bytes) :
    events (eventLine type ++ rest) = events rest := by
  have split : eventLine type = Utf8.encode ("event: ".toList ++ type) ++ [lf] := by
    simp only [eventLine, Utf8.encode, List.flatMap_append]
    rfl
  have start : Utf8.encode ("event: ".toList ++ type) = 101 :: 118 :: 101 :: 110 :: 116 :: 58 ::
      32 :: Utf8.encode type := by
    simp only [Utf8.encode, List.flatMap_append]
    rfl
  rw [split, List.append_assoc, List.singleton_append]
  refine events_line (fun byte member => isBreak_of_printable ?_) (by simp) ?_ rest
  · refine Utf8.printable_encode (fun c inside => ?_) member
    rcases List.mem_append.mp inside with field | inside
    · have all : ("event: ".toList.all fun c => decide (0x20 ≤ c.toNat)) = true := by
        decide +kernel
      exact of_decide_eq_true (List.all_eq_true.mp all c field)
    · exact printable_eventType known inside
  · rw [start]
    rfl

theorem encodes_responseBlock : Encodes responseBlock := by
  intro payload accepted rest
  unfold responseBlock
  split
  · rename_i type typed
    obtain ⟨fields, -, typed⟩ := Option.bind_eq_some_iff.mp typed
    have known := of_decide_eq_true (Option.filter_eq_some_iff.mp typed).2
    rw [List.append_assoc, events_eventLine known, encodes_block payload accepted]
  · exact encodes_block payload accepted rest

/-! ## Accepted events -/

theorem ofBytes_of_object {fields : List (Text × Json)} (isObject : object data = some fields) :
    Json.ofBytes data = some (.object fields) := by
  unfold object at isObject
  split at isObject
  · obtain ⟨value, json, isObject⟩ := Option.bind_eq_some_iff.mp isObject
    unfold objectValue at isObject
    split at isObject
    · split at isObject
      · cases isObject
        exact json
      · cases isObject
    · cases isObject
  · cases isObject

theorem NativeGemini.payload_of_accept {state next : NativeGemini}
    (taken : state.accept tools data = .ok next) : Payload data := by
  obtain ⟨frame, parsed, -⟩ := Except.bind_eq_ok.mp taken
  unfold parseNativeGemini at parsed
  split at parsed
  · cases parsed
  · exact .inr ⟨_, ofBytes_of_object ‹_›⟩

theorem NativeResponses.payload_of_accept {state next : NativeResponses} {event : Bytes}
    (taken : state.accept model tools event = .ok next) : Payload event := by
  unfold NativeResponses.accept at taken
  split at taken
  · exact .inl ‹_›
  · rw [Except.refuse_eq_ok] at taken
    obtain ⟨-, taken⟩ := taken
    split at taken
    · cases taken
    · exact .inr ⟨_, ofBytes_of_object ‹_›⟩

/-- What the native adapters have sent is read as the accepted payloads exactly if these are
flat. -/
theorem forward_reads {σ : Type} {accept : σ → Bytes → Except String σ} (encodes : Encodes encode)
    (checked : ∀ {state next event}, accept state event = .ok next → Payload event) (state : σ)
    (deliveries : List Delivery) (received : List Bytes) :
    List.Forall₂ Reads
        (events (Relay.feed (forward accept encode) (state, .new deliveries) received).1.2.sent)
        ((Relay.accepted (forward accept encode) (state, .new deliveries) received).map
          Json.ofBytes) ↔
      ∀ payload ∈ Relay.accepted (forward accept encode) (state, .new deliveries) received,
        payload = doneEvent ∨ Flat payload := by
  have accepted : ∀ payload ∈ Relay.accepted (forward accept encode) (state, .new deliveries)
      received, Payload payload := fun payload member =>
    let ⟨_, _, taken⟩ := accepted_checked member
    checked taken
  have read := encodes.events_flatMap accepted []
  rw [List.append_nil, show events [] = [] from rfl, List.append_nil] at read
  rw [sent_feed, show (Writer.new deliveries).sent = [] from rfl, List.nil_append, read]
  exact forall₂_reads accepted

/-! ## The legacy stream -/

/-- The terminal event has its own member. -/
def carriesUsage (data : Bytes) : Bool :=
  match Json.ofBytes data with
  | some (.object members) => (Json.get? "usageMetadata".toList members).isSome
  | _ => false

theorem GeminiStream.consume_ok (fine : stream.consume model tools data = (next, none)) :
    (∃ value, Json.ofBytes data = some value) ∧
      next.writer.sent = stream.writer.sent ++ if carriesUsage data then [] else block data := by
  unfold GeminiStream.consume at fine
  split at fine
  · cases fine
  split at fine
  · cases fine
  · rename_i members checked
    have json : Json.ofBytes data = some (.object members) := by
      split at checked
      · unfold validateModelCatalogJSON at checked
        split at checked
        · cases checked
        · split at checked
          · cases checked
            assumption
          · cases checked
      · cases checked
    refine ⟨⟨_, json⟩, ?_⟩
    simp only [carriesUsage, json]
    split at fine
    · split at fine <;> cases fine
    · split at fine
      · rename_i carries
        rw [if_pos carries]
        split at fine
        · cases fine
          simp
        · cases fine
      · rename_i carries
        rw [if_neg carries]
        split at fine
        · rename_i written
          rw [Prod.mk.injEq] at fine
          rw [← fine.1]
          exact (Writer.write_ok (Prod.ext rfl fine.2)).1
        · cases fine
  · cases fine

theorem GeminiStream.consume_fault (faulty : stream.consume model tools data = (next, some fault)) :
    next.writer.sent = stream.writer.sent := by
  unfold GeminiStream.consume at faulty
  split at faulty
  · cases faulty
    rfl
  split at faulty
  · cases faulty
    rfl
  · split at faulty
    · split at faulty <;> cases faulty <;> rfl
    · split at faulty
      · split at faulty
        · cases faulty
        · cases faulty
          rfl
      · split at faulty
        · rw [Prod.mk.injEq] at faulty
          rw [← faulty.1]
          exact Writer.write_fault (Prod.ext rfl faulty.2)
        · cases faulty
          rfl
  · cases faulty
    rfl

def geminiTexts (model : Text) (tools : List Text) (upstream : Upstream)
    (deliveries : List Delivery) : List Bytes :=
  (Relay.accepted (GeminiStream.consume model tools) (.start deliveries)
    (readGeminiEvents upstream).1).filter fun data => !carriesUsage data

theorem payload_of_geminiTexts {upstream : Upstream} {deliveries : List Delivery}
    (member : payload ∈ geminiTexts model tools upstream deliveries) : Payload payload := by
  obtain ⟨before, after, fine⟩ := Relay.fine_of_accepted (List.mem_of_mem_filter member)
  exact .inr (GeminiStream.consume_ok fine).1

theorem flatMap_ite (skip : α → Bool) (f : α → List β) (list : List α) :
    (list.flatMap fun a => if skip a then [] else f a) = (list.filter fun a => !skip a).flatMap f := by
  induction list with
  | nil => rfl
  | cons a list ih => cases skips : skip a <;> simp [skips, ih]

theorem GeminiStream.sent_read (model : Text) (tools : List Text) (upstream : Upstream)
    (deliveries : List Delivery) :
    (GeminiStream.read model tools upstream deliveries).1.writer.sent =
      (geminiTexts model tools upstream deliveries).flatMap block := by
  have traced := @Relay.feed_trace _ _ _ (GeminiStream.consume model tools) _
    (fun stream => stream.writer.sent) (fun data => if carriesUsage data then [] else block data)
    (fun fine => (GeminiStream.consume_ok fine).2) GeminiStream.consume_fault (.start deliveries)
    (readGeminiEvents upstream).1
  rw [flatMap_ite] at traced
  exact traced

/-- The text of the response, where it has one part. -/
def finalText (final : Json) : Text :=
  match assertParts final with
  | some [.object members] =>
    match Json.get? "text".toList members with
    | some (.string full) => full
    | _ => []
  | _ => []

/-- The terminal event without the text that was streamed before it. -/
def withoutStreamed (streamed : Text) (terminal : Bytes) : Option Json :=
  (Json.ofBytes terminal).map fun final =>
    if streamed = [] then final else setText ((finalText final).drop streamed.length) final

theorem terminalPayload_ok (sent : terminalPayload streamed terminal = some (.ok payload)) :
    ∃ final, Json.ofBytes terminal = some final ∧
      payload = if streamed = [] then terminal
        else Json.marshal (setText ((finalText final).drop streamed.length) final) := by
  obtain ⟨final, json, sent⟩ := Option.bind_eq_some_iff.mp sent
  obtain ⟨parts, asserted, sent⟩ := Option.bind_eq_some_iff.mp sent
  refine ⟨final, json, ?_⟩
  split at sent
  · rename_i nothing
    cases sent
    rw [if_pos nothing]
  · rename_i streams
    rw [if_neg streams]
    split at sent
    · split at sent
      · split at sent
        · rename_i members full found
          split at sent
          · cases sent
            simp only [finalText, asserted]
            rw [found]
          · cases sent
        · cases sent
      · cases sent
    · cases sent

theorem flat_of_oneLine (line : OneLine payload) : firstLine payload = payload ∧ Flat payload := by
  have kept : ∀ byte ∈ payload, (!isBreak byte) = true := fun byte member => by
    simp [line byte member]
  refine ⟨List.takeWhile_eq_self_iff.mpr kept, ?_⟩
  rw [Flat, afterFirstLine, List.dropWhile_eq_nil_iff.mpr kept]
  rfl

theorem oneLine_marshal (value : Json) : OneLine (Json.marshal value) :=
  oneLine_encode (Json.sortKeys value)

theorem payload_marshal (value : Json) : Payload (Json.marshal value) :=
  .inr ⟨_, Json.ofBytes_marshal value⟩

/-- The terminal event is read without the text that was streamed exactly if it was rewritten for
that, or is flat. -/
theorem reads_terminal (sent : terminalPayload streamed terminal = some (.ok payload)) :
    Payload payload ∧ (Reads (firstLine payload) (withoutStreamed streamed terminal) ↔
      (streamed = [] → Flat terminal)) := by
  obtain ⟨final, json, rfl⟩ := terminalPayload_ok sent
  by_cases nothing : streamed = []
  · have accepted : Payload terminal := .inr ⟨final, json⟩
    have notDone : terminal ≠ doneEvent := by
      rintro rfl
      rw [ofBytes_doneEvent] at json
      cases json
    have same : withoutStreamed streamed terminal = Json.ofBytes terminal := by
      simp [withoutStreamed, json, nothing]
    rw [if_pos nothing, same, reads_firstLine accepted]
    simp [accepted, notDone, nothing]
  · rw [if_neg nothing]
    refine ⟨payload_marshal _, fun _ empty => absurd empty nothing, fun _ => ?_⟩
    rw [(flat_of_oneLine (oneLine_marshal _)).1, withoutStreamed, json, Option.map_some,
      if_neg nothing]
    exact ⟨_, Json.ofBytes_marshal _, Json.sortKeys_sortKeys _⟩

/-! ## Reports -/

/-- The report of a failure that the client gets. -/
def GeminiStream.reported (stream : GeminiStream) (failure : Failure) : List Bytes :=
  if reports stream.writer failure && (stream.writer.writeString eventError).delivers then
    [reportPayload failure]
  else []

theorem events_eventError (rest : Bytes) : events (eventError ++ rest) = events rest := by
  have split : eventError = Utf8.encode "event: error".toList ++ [lf] := by decide +kernel
  have unbroken : ((Utf8.encode "event: error".toList).all fun byte => !isBreak byte) = true := by
    decide +kernel
  rw [split, List.append_assoc, List.singleton_append]
  refine events_line (fun byte member => ?_) (by decide +kernel) (by decide +kernel) rest
  simpa using List.all_eq_true.mp unbroken byte member

theorem Writer.sent_writeString (writer : Writer) (data : Bytes) :
    ∃ line, (line = [] ∨ line = data) ∧ (writer.writeString data).sent = writer.sent ++ line := by
  unfold Writer.writeString
  split
  · exact ⟨[], .inl rfl, by simp⟩
  · exact ⟨data, .inr rfl, rfl⟩
  · exact ⟨data, .inr rfl, rfl⟩

/-- Whether its first line arrives or not, a report is read as its payload. -/
theorem report_reads (writer : Writer) (failure : Failure) :
    ∃ tail, (report writer failure).sent = writer.sent ++ tail ∧
      events tail = events (if (writer.writeString eventError).delivers then
        block (reportPayload failure) else []) := by
  obtain ⟨line, arrived, sent⟩ := writer.sent_writeString eventError
  refine ⟨line ++ _, by rw [report, Writer.sent_write, sent, List.append_assoc], ?_⟩
  rcases arrived with rfl | rfl
  · rfl
  · exact events_eventError _

/-- A failure adds its report and nothing else. -/
theorem GeminiStream.fail_reads (initial : Result) (stream : GeminiStream) (failure : Failure) :
    ∃ tail, (stream.fail initial failure).1.sent = stream.writer.sent ++ tail ∧
      List.Forall₂ Reads (events tail) ((stream.reported failure).map Json.ofBytes) := by
  have nothing : events [] = [] := rfl
  unfold GeminiStream.fail
  by_cases tells : reports stream.writer failure = true
  · obtain ⟨tail, sent, same⟩ := report_reads stream.writer failure
    rw [if_pos tells]
    refine ⟨tail, sent, ?_⟩
    rw [same, GeminiStream.reported, tells, Bool.true_and]
    by_cases delivers : (stream.writer.writeString eventError).delivers = true
    · have read := encodes_block (reportPayload failure) (payload_marshal _) []
      rw [List.append_nil, nothing] at read
      rw [if_pos delivers, if_pos delivers, read]
      refine .cons ?_ .nil
      exact (reads_firstLine (payload_marshal _)).mpr (.inr (flat_of_oneLine (oneLine_marshal _)).2)
    · rw [if_neg delivers, if_neg delivers, nothing]
      exact .nil
  · rw [if_neg tells]
    exact ⟨[], by simp, by simp [nothing, GeminiStream.reported, tells]⟩

theorem GeminiStream.fail_unreported {initial : Result} {failure : Failure}
    (untold : reports stream.writer failure = false) :
    (stream.fail initial failure).1 = stream.writer := by
  simp [GeminiStream.fail, untold]

/-! ## The end of the legacy stream -/

/-- What a client is to read after the events of text of a stream that came to its end. -/
def GeminiStream.closing (stream : GeminiStream) : List (Option Json) :=
  match stream.terminal with
  | none => (stream.reported (geminiProtocolFailure (.protocol "missing Gemini completion"))).map
      Json.ofBytes
  | some terminal =>
    match terminalPayload stream.text terminal with
    | none => []
    | some (.error text) =>
      (stream.reported (geminiProtocolFailure (.protocol text))).map Json.ofBytes
    | some (.ok _) => if stream.writer.delivers then [withoutStreamed stream.text terminal] else []

/-- The terminal event, if it is sent as it was read. -/
def GeminiStream.unchanged (stream : GeminiStream) : List Bytes :=
  stream.terminal.toList.filter fun terminal =>
    decide (stream.text = []) && stream.writer.delivers && (terminalPayload [] terminal).isSome

theorem terminalPayload_nil_ne_error (terminal : Bytes) (text : String) :
    terminalPayload [] terminal ≠ some (.error text) := by
  intro refused
  obtain ⟨final, -, refused⟩ := Option.bind_eq_some_iff.mp refused
  obtain ⟨parts, -, refused⟩ := Option.bind_eq_some_iff.mp refused
  rw [if_pos rfl] at refused
  cases refused

theorem reports_undelivered {writer writer' : Writer}
    (failed : writer.write data = (writer', some fault)) :
    reports writer' (if fault.ofContext then transportFailure true fault
      else disconnectedFailure fault) = false := by
  unfold Writer.write at failed
  split at failed
  · cases failed
    simp [reports, Fault.ofContext, disconnectedFailure]
  · rename_i deadline deliveries queued
    cases failed
    cases deadline <;> simp [reports, Fault.ofContext, transportFailure]
  · cases failed

theorem GeminiStream.finish_reads (model : Text) (initial : Result) (stream : GeminiStream) :
    ∃ tail, (stream.finish model initial).1.sent = stream.writer.sent ++ tail ∧
      (List.Forall₂ Reads (events tail) stream.closing ↔
        ∀ payload ∈ stream.unchanged, payload = doneEvent ∨ Flat payload) := by
  have nothing : events [] = [] := rfl
  unfold GeminiStream.finish GeminiStream.closing GeminiStream.unchanged
  cases held : stream.terminal with
  | none =>
    obtain ⟨tail, sent, read⟩ := stream.fail_reads initial
      (geminiProtocolFailure (.protocol "missing Gemini completion"))
    exact ⟨tail, sent, by simp, fun _ => read⟩
  | some terminal =>
    dsimp only
    cases outcome : terminalPayload stream.text terminal with
    | none =>
      refine ⟨[], by simp, ?_⟩
      by_cases empty : stream.text = []
      · rw [empty] at outcome
        simp [nothing, outcome]
      · simp [nothing, empty]
    | some outcome' =>
      cases outcome' with
      | error text =>
        obtain ⟨tail, sent, read⟩ := stream.fail_reads initial
          (geminiProtocolFailure (.protocol text))
        refine ⟨tail, sent, ?_, fun _ => read⟩
        intro _ payload member
        by_cases empty : stream.text = []
        · rw [empty] at outcome
          exact absurd outcome (terminalPayload_nil_ne_error terminal text)
        · simp [empty] at member
      | ok payload =>
        obtain ⟨accepted, reads⟩ := reads_terminal outcome
        have tail := stream.writer.sent_write (block payload)
        by_cases delivers : stream.writer.delivers = true
        · refine ⟨block payload, ?_, ?_⟩
          · have fine := (stream.writer.write_eq_none (block payload)).mpr delivers
            rw [if_pos delivers] at tail
            simp only [fine, tail]
          · have read := encodes_block payload accepted []
            rw [List.append_nil, nothing] at read
            rw [read, if_pos delivers, List.forall₂_cons, reads]
            by_cases empty : stream.text = []
            · rw [empty] at outcome
              have notDone : terminal ≠ doneEvent := by
                rintro rfl
                simp [terminalPayload, ofBytes_doneEvent] at outcome
              simp [empty, delivers, outcome, notDone]
            · simp [empty]
        · refine ⟨[], ?_, ?_⟩
          · rw [if_neg delivers] at tail
            cases written : stream.writer.write (block payload) with
            | mk writer fault =>
              rw [written] at tail
              cases fault with
              | none =>
                exact absurd ((stream.writer.write_eq_none _).mp (by rw [written]))
                  delivers
              | some fault =>
                simp only [written]
                exact (congrArg Writer.sent (GeminiStream.fail_unreported
                  (reports_undelivered written))).trans tail
          · simp [nothing, delivers]

theorem forall₂_append {R : α → β → Prop} {list : List α} {list' : List β}
    (length : list.length = list'.length) (more : List α) (more' : List β) :
    List.Forall₂ R (list ++ more) (list' ++ more') ↔
      List.Forall₂ R list list' ∧ List.Forall₂ R more more' := by
  induction list generalizing list' with
  | nil =>
    cases list' with
    | nil => simp
    | cons b list' => cases length
  | cons a list ih =>
    cases list' with
    | nil => cases length
    | cons b list' => simp [ih (by simpa using length), and_assoc]

/-- What a client is to read of the legacy stream, and what of it is sent as it was read. -/
def geminiExpected (model : Text) (tools : List Text) (upstream : Upstream)
    (deliveries : List Delivery) : List (Option Json) :=
  (geminiTexts model tools upstream deliveries).map Json.ofBytes ++
    match GeminiStream.read model tools upstream deliveries with
    | (stream, some fault) => (stream.reported (stream.failureOf fault)).map Json.ofBytes
    | (stream, none) => stream.closing

def geminiUnchanged (model : Text) (tools : List Text) (upstream : Upstream)
    (deliveries : List Delivery) : List Bytes :=
  geminiTexts model tools upstream deliveries ++
    match GeminiStream.read model tools upstream deliveries with
    | (_, some _) => []
    | (stream, none) => stream.unchanged

theorem forwardGeminiStream_reads (model : Text) (tools : List Text) (upstream : Upstream)
    (deliveries : List Delivery) (initial : Result) :
    List.Forall₂ Reads
        (events (forwardGeminiStream model tools upstream deliveries initial).1.sent)
        (geminiExpected model tools upstream deliveries) ↔
      ∀ payload ∈ geminiUnchanged model tools upstream deliveries,
        payload = doneEvent ∨ Flat payload := by
  have texts := GeminiStream.sent_read model tools upstream deliveries
  have accepted : ∀ payload ∈ geminiTexts model tools upstream deliveries, Payload payload :=
    fun payload => payload_of_geminiTexts
  unfold forwardGeminiStream geminiExpected geminiUnchanged
  cases read : GeminiStream.read model tools upstream deliveries with
  | mk stream fault =>
    rw [read] at texts
    cases fault with
    | some fault =>
      obtain ⟨tail, sent, reads⟩ := stream.fail_reads initial (stream.failureOf fault)
      dsimp only
      rw [sent, texts, encodes_block.events_flatMap accepted, forall₂_append (by simp),
        forall₂_reads accepted]
      simp [reads]
    | none =>
      obtain ⟨tail, sent, reads⟩ := stream.finish_reads model initial
      dsimp only
      rw [sent, texts, encodes_block.events_flatMap accepted, forall₂_append (by simp),
        forall₂_reads accepted, reads]
      simp [or_imp, forall_and]

/-! ## Every adapter that writes events again -/

inductive ReencodingAdapter where
  | nativeGemini
  | nativeResponses
  | legacyGemini
  deriving DecidableEq, Repr

/-- A request to the upstream and what becomes of it. -/
structure StreamCall where
  antigravity : Bool
  model : Text
  tools : List Text
  upstream : Upstream
  deliveries : List Delivery
  initial : Result

namespace ReencodingAdapter

def sent : ReencodingAdapter → StreamCall → Bytes
  | .nativeGemini, call => (forwardNativeGemini call.antigravity call.model call.tools true
      call.upstream call.deliveries call.initial).1.sent
  | .nativeResponses, call => (forwardNativeResponses call.antigravity call.model call.tools
      .eventStream call.upstream call.deliveries call.initial).1.sent
  | .legacyGemini, call => (forwardGeminiStream call.model call.tools call.upstream
      call.deliveries call.initial).1.sent

/-- The payloads that are accepted and written as they were read. -/
def unchanged : ReencodingAdapter → StreamCall → List Bytes
  | .nativeGemini, call =>
    Relay.accepted (forward (NativeGemini.accept call.tools) block) (.start, .new call.deliveries)
      (readGeminiEvents call.upstream).1
  | .nativeResponses, call =>
    Relay.accepted (forward (NativeResponses.accept call.model call.tools) responseBlock)
      (.start, .new call.deliveries) (readResponseEvents call.upstream).1
  | .legacyGemini, call =>
    geminiUnchanged call.model call.tools call.upstream call.deliveries

/-- What the client is to read: the accepted payloads in order. The legacy stream cuts the
terminal event and reports a failure in an event of its own. -/
def expected : ReencodingAdapter → StreamCall → List (Option Json)
  | .nativeGemini, call => (ReencodingAdapter.nativeGemini.unchanged call).map Json.ofBytes
  | .nativeResponses, call => (ReencodingAdapter.nativeResponses.unchanged call).map Json.ofBytes
  | .legacyGemini, call => geminiExpected call.model call.tools call.upstream call.deliveries

/-- A client reads the accepted payloads exactly if nothing but whitespace follows the first line
of those that are written as they were read. -/
theorem reads_iff_flat (adapter : ReencodingAdapter) (call : StreamCall) :
    List.Forall₂ Reads (events (adapter.sent call)) (adapter.expected call) ↔
      ∀ payload ∈ adapter.unchanged call, payload = doneEvent ∨ Flat payload := by
  cases adapter with
  | nativeGemini =>
    have sent : ReencodingAdapter.nativeGemini.sent call =
        (NativeGemini.read call.tools call.upstream call.deliveries).1.2.sent := by
      rw [ReencodingAdapter.sent, forwardNativeGemini, if_pos rfl, forwardNativeGeminiStream]
      dsimp only
      split
      · rfl
      · split <;> rfl
    rw [sent]
    exact forward_reads encodes_block NativeGemini.payload_of_accept _ _ _
  | nativeResponses =>
    have sent : ReencodingAdapter.nativeResponses.sent call =
        (NativeResponses.read call.model call.tools call.upstream call.deliveries).1.2.sent := by
      rw [ReencodingAdapter.sent, forwardNativeResponses, forwardNativeResponsesStream]
      dsimp only
      split
      · rfl
      · rfl
      · split <;> rfl
    rw [sent]
    exact forward_reads encodes_responseBlock NativeResponses.payload_of_accept _ _ _
  | legacyGemini =>
    exact forwardGeminiStream_reads _ _ _ _ _

/-- One event with two lines of data, an opening and a closing brace. -/
def twoDataLines : StreamCall where
  antigravity := true
  model := "m".toList
  tools := []
  upstream := ⟨Utf8.encode "data: \x7b\ndata: \x7d\n\n".toList, none, 0⟩
  deliveries := []
  initial := noResult

/-- The event is accepted and its second line lost. -/
theorem twoDataLines_misread :
    ¬ List.Forall₂ Reads (events (ReencodingAdapter.nativeGemini.sent twoDataLines))
      (ReencodingAdapter.nativeGemini.expected twoDataLines) := by
  have read : events (ReencodingAdapter.nativeGemini.sent twoDataLines) = [[123]] := by
    decide +kernel
  have accepted : (ReencodingAdapter.nativeGemini.expected twoDataLines).map Option.isSome =
      [true] := by decide +kernel
  have broken : Json.ofBytes [123] = none := by decide +kernel
  rw [read]
  intro reads
  obtain ⟨want, rest, first, -, split⟩ := List.forall₂_cons_left_iff.mp reads
  rw [split, List.map_cons, List.cons.injEq, Option.isSome_iff_exists] at accepted
  obtain ⟨⟨value, rfl⟩, -⟩ := accepted
  obtain ⟨read, json, -⟩ := first
  rw [broken] at json
  cases json

end ReencodingAdapter

end Proxy
