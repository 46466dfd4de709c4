import CodexGateway.Proxy.Codex

/-! # What a Codex stream tells

The lines of an event stream are passed on one by one, and what is told is a fold over the
events. An event that does not fit the buffer is passed on without being looked at.
-/

namespace Proxy

open EventStream

variable {event : Bytes}

/-! ## A fold over the events -/

/-- The buffer at the end of an event, if the event fits. -/
def gather (frame : List Bytes) : Option Bytes := frame.foldl gatherLine (some [])

/-- The lines of an event and what follows them, up to the end of the body. -/
theorem foldl_line (lines held : List Bytes) (told : Told) :
    (lines.foldl CodexStream.line ⟨gather held, told⟩).told.observe
        (lines.foldl CodexStream.line ⟨gather held, told⟩).event =
      (framesFrom held lines).foldl (fun told frame => told.observe (gather frame)) told := by
  induction lines generalizing held told with
  | nil => rfl
  | cons line lines ih =>
    by_cases blank : line = []
    · simp only [List.foldl_cons, framesFrom, if_pos blank, CodexStream.line]
      exact ih [] _
    · have longer : gatherLine (gather held) line = gather (held ++ [line]) := by
        simp [gather]
      simp only [List.foldl_cons, framesFrom, if_neg blank, CodexStream.line, longer]
      exact ih (held ++ [line]) told

variable {writer : Writer} {tokens : List Json.Token} {frame : List Bytes}
  {envelope : ResponseEnvelope} {body bytes : Bytes} {blanks : Nat}

theorem feed_pass (lines : List Bytes) (state : CodexStream)
    (takes : ∀ delivery ∈ writer.deliveries, delivery = .written) :
    ∃ writer', Relay.feed CodexStream.pass (state, writer) lines =
        (((lines.map trimBreaks).foldl CodexStream.line state, writer'), none) ∧
      writer'.sent = writer.sent ++ lines.flatten := by
  induction lines generalizing state writer with
  | nil => exact ⟨writer, rfl, by simp⟩
  | cons line lines ih =>
    obtain ⟨next, written, rest⟩ : ∃ next, writer.write line = (next, none) ∧
        ∀ delivery ∈ next.deliveries, delivery = .written := by
      unfold Writer.write
      split
      · rename_i sent deliveries same
        have := takes (.broken sent) (by simp [same])
        cases this
      · rename_i deadline deliveries same
        have := takes (.refused deadline) (by simp [same])
        cases this
      · exact ⟨_, rfl, fun delivery member => takes delivery (List.mem_of_mem_tail member)⟩
    have passed : CodexStream.pass (state, writer) line =
        ((state.line (trimBreaks line), next), none) := by
      simp [CodexStream.pass, written]
    obtain ⟨writer', fed, sent⟩ := ih (state.line (trimBreaks line)) rest
    refine ⟨writer', by rw [Relay.feed_cons_ok passed, fed, List.map_cons, List.foldl_cons], ?_⟩
    rw [sent, (Writer.write_ok written).1, List.flatten_cons, List.append_assoc]

theorem streamSSE_eq {upstream : Upstream} (ended : upstream.ending = none)
    (takes : ∀ delivery ∈ writer.deliveries, delivery = .written) :
    ∃ writer', streamSSE upstream writer =
        ((frames upstream.body).foldl (fun told frame => told.observe (gather frame)) .nothing,
          writer', none) ∧
      writer'.sent = writer.sent ++ upstream.body := by
  obtain ⟨writer', fed, sent⟩ := feed_pass (rawLines upstream.body) .start takes
  refine ⟨writer', ?_, by rw [sent, flatten_rawLines]⟩
  unfold streamSSE
  rw [fed]
  simp only [ended]
  rw [frames, ← foldl_line]
  rfl

/-! ## Blanks -/

/-- The buffer is read as the tokens of the data. -/
def ReadsAs (data event : Bytes) : Prop :=
  ∀ tokens, Json.lex (Utf8.runes data) = some tokens → Json.lex (Utf8.runes event) = some tokens

theorem lex_lf (before after : Bytes) : Json.lex (Utf8.runes (before ++ lf :: after)) =
    (Json.lex (Utf8.runes before)).bind fun tokens =>
      (Json.lex (Utf8.runes after)).map (tokens ++ ·) := by
  rw [Utf8.runes_append_ascii (by decide), Json.lex,
    @Json.lexFrom_break (Char.ofUInt8 lf) (.inl rfl)]
  rfl

theorem lex_trimmed {value : Bytes} (read : Json.lex (Utf8.runes value) = some tokens) :
    Json.lex (Utf8.runes (Utf8.trimSpace value)) = some tokens := by
  rw [Utf8.runes_trimSpace]
  exact Json.lex_trimSpace read

theorem lex_fieldValue {value : Bytes}
    (read : Json.lex (Utf8.runes (fieldValue value)) = some tokens) :
    Json.lex (Utf8.runes value) = some tokens := by
  unfold fieldValue at read
  split at read
  · rw [Utf8.runes_ascii (by decide), Json.lex, Json.lexFrom_step rfl]
    exact read
  · exact read

theorem dataValue?_field (value : Bytes) :
    dataValue? (dataPrefix ++ value) = some (fieldValue value) := rfl

theorem dataValue?_cases (line : Bytes) :
    (∃ value, line = dataPrefix ++ value) ∨
      (line.take 5 ≠ dataPrefix ∧ (dataValue? line = none ∨ dataValue? line = some [])) := by
  by_cases start : line.take 5 = dataPrefix
  · exact .inl ⟨line.drop 5, by rw [← start, List.take_append_drop]⟩
  · refine .inr ⟨start, ?_⟩
    unfold dataValue?
    split
    · split
      · exact .inr rfl
      · exact absurd rfl start
      · exact .inl rfl
    · exact .inl rfl

/-- Nothing is added where there was nothing to read. -/
theorem ReadsAs.value {value : Bytes} (data : Option Bytes)
    (reads : ∀ before ∈ data, ReadsAs before event) (first : data = none → event = []) :
    ReadsAs (addData data (fieldValue value))
      (if event = [] then Utf8.trimSpace value else event ++ lf :: Utf8.trimSpace value) := by
  intro tokens read
  cases data with
  | none =>
    rw [if_pos (first rfl)]
    exact lex_trimmed (lex_fieldValue read)
  | some before =>
    rw [addData, lex_lf] at read
    obtain ⟨tokens, readBefore, rest⟩ := Option.bind_eq_some_iff.mp read
    obtain ⟨others, readValue, rfl⟩ := Option.map_eq_some_iff.mp rest
    have event' := reads before rfl tokens readBefore
    have value' := lex_trimmed (lex_fieldValue readValue)
    split
    · rename_i empty
      rw [empty] at event'
      cases event'
      exact value'
    · rw [lex_lf, event', value']
      rfl

theorem gather_reads (fits : gather frame = some event) :
    (∀ data ∈ payload? frame, ReadsAs data event) ∧ (payload? frame = none → event = []) := by
  induction frame using List.reverseRecOn generalizing event with
  | nil =>
    cases fits
    exact ⟨by simp [payload?], fun _ => rfl⟩
  | append_singleton frame line ih =>
    rw [gather, List.foldl_append, List.foldl_cons, List.foldl_nil] at fits
    cases before : gather frame with
    | none =>
      rw [show frame.foldl gatherLine (some []) = none from before] at fits
      cases fits
    | some held =>
      rw [show frame.foldl gatherLine (some []) = some held from before] at fits
      obtain ⟨reads, first⟩ := ih before
      rw [payload?_snoc]
      rcases dataValue?_cases line with ⟨value, rfl⟩ | ⟨other, quiet⟩
      · rw [dataValue?_field]
        simp only [gatherLine, Option.bind_some, dataPrefix, List.take_succ_cons, List.cons_append,
          List.nil_append, List.take_zero, if_true, List.drop_succ_cons, List.drop_zero] at fits
        split at fits
        · cases fits
        · cases fits
          refine ⟨?_, by simp⟩
          simp only [Option.map_some, Option.some_or, Option.mem_def, Option.some.injEq]
          rintro data rfl
          exact ReadsAs.value _ reads first
      · simp only [gatherLine, Option.bind_some, if_neg other, Option.some.injEq] at fits
        subst fits
        rcases quiet with none | blank
        · rw [none, Option.map_none, Option.none_or]
          exact ⟨reads, first⟩
        · -- a field without a colon is an empty line of data, which the loop does not see
          rw [blank]
          refine ⟨?_, by simp⟩
          simp only [Option.map_some, Option.some_or, Option.mem_def, Option.some.injEq]
          rintro data rfl tokens read
          cases data : payload? frame with
          | none =>
            rw [data, addData] at read
            rwa [first data]
          | some before =>
            rw [data, addData, lex_lf] at read
            obtain ⟨tokens, readBefore, rest⟩ := Option.bind_eq_some_iff.mp read
            obtain ⟨others, none, rfl⟩ := Option.map_eq_some_iff.mp rest
            cases none
            rw [List.append_nil]
            exact reads before data tokens readBefore

theorem ReadsAs.unmarshal {data : Bytes} (reads : ReadsAs data event)
    (read : ResponseEnvelope.unmarshal data = some envelope) :
    ResponseEnvelope.unmarshal event = some envelope := by
  obtain ⟨value, scanned, decoded⟩ := Option.bind_eq_some_iff.mp read
  obtain ⟨parsed, shallow⟩ := Option.filter_eq_some_iff.mp scanned
  obtain ⟨tokens, lexed, built⟩ := Option.bind_eq_some_iff.mp parsed
  have again : Json.ofBytes event = some value := by
    rw [Json.ofBytes, Json.parse, reads tokens lexed, Option.bind_some, built]
  rw [ResponseEnvelope.unmarshal, Json.scan?, again, Option.filter_some, if_pos shallow]
  exact decoded

/-! ## The parts of what is told -/

/-- A part of what events tell, the value that stands for none, and which values are told. -/
structure Part (α : Type) where
  get : Told → α
  none : α
  isTold : α → Bool
  unset : isTold none = false
  update : ∀ told parsed, get (Told.update told parsed) =
    if isTold (get parsed) then get parsed else get told
  nothing : get .nothing = none
  quiet : ∀ told : Told, usageValuePresent told.usage = false → told.model = [] →
    told.serviceTier = [] → isTold (get told) = false

def modelPart : Part Text where
  get := (·.model)
  none := []
  isTold model := model ≠ []
  unset := rfl
  update told parsed := by simp [Told.update]
  nothing := rfl
  quiet told _ model _ := by simp [model]

def serviceTierPart : Part Text where
  get := (·.serviceTier)
  none := []
  isTold tier := tier ≠ []
  unset := rfl
  update told parsed := by simp [Told.update]
  nothing := rfl
  quiet told _ _ tier := by simp [tier]

def usagePart : Part Usage where
  get := (·.usage)
  none := .zero
  isTold := usageValuePresent
  unset := rfl
  update _ _ := rfl
  nothing := rfl
  quiet _ usage _ _ := usage

namespace Part

variable {α : Type} (part : Part α)

def of (told : Told) : Option α :=
  if part.isTold (part.get told) then some (part.get told) else Option.none

end Part

def EnvelopeResponse.told (response : EnvelopeResponse) : Told :=
  ⟨response.model, response.serviceTier, convertUsage response.usage⟩

def ResponseEnvelope.told (envelope : ResponseEnvelope) : Told :=
  ⟨envelope.model, envelope.serviceTier, convertUsage envelope.usage⟩

namespace Part

variable {α : Type} (part : Part α)

/-- What an envelope carries, in its response object or at the top. -/
def carried (envelope : ResponseEnvelope) : Option α :=
  (envelope.response.bind fun response => part.of response.told).or (part.of envelope.told)

def carriedBy (payload : Bytes) : Option α :=
  (ResponseEnvelope.unmarshal payload).bind part.carried

/-- A response object hides what stands beside it. -/
def hidden (envelope : ResponseEnvelope) : Bool :=
  envelope.response.any fun response =>
    (part.of response.told).isNone && (part.of envelope.told).isSome

/-- The event is too long, or what it carries stands beside a response object without it. -/
def overlooked (frame : List Bytes) : Bool :=
  (gather frame).isNone ||
    (((payload? frame).bind ResponseEnvelope.unmarshal).any part.hidden)

def frameCarries (frame : List Bytes) : Option α := (payload? frame).bind part.carriedBy

def taken (frame : List Bytes) : Option α := ((gather frame).bind parseSSEData).bind part.of

variable {part}

theorem get_observe (told : Told) (event : Option Bytes) :
    part.get (told.observe event) = ((event.bind parseSSEData).bind part.of).getD (part.get told) := by
  unfold Told.observe
  cases event.bind parseSSEData with
  | none => rfl
  | some parsed =>
    simp only [part.update, Option.bind_some, of]
    split <;> rfl

theorem get_foldl (frames : List (List Bytes)) :
    part.get (frames.foldl (fun told frame => told.observe (gather frame)) .nothing) =
      (Relay.latest part.taken frames).getD part.none := by
  induction frames using List.reverseRecOn with
  | nil => exact part.nothing
  | append_singleton frames frame ih =>
    rw [List.foldl_append, List.foldl_cons, List.foldl_nil, get_observe, ih, Relay.latest_snoc]
    change (part.taken frame).getD _ = _
    cases part.taken frame <;> rfl

theorem isTold_of {told : Told} {value : α} (found : part.of told = some value) :
    part.isTold value = true := by
  unfold of at found
  split at found
  · cases found
    assumption
  · cases found

theorem isTold_carried {value : α}
    (found : part.carried envelope = some value) : part.isTold value = true := by
  rcases Option.or_eq_some_iff.mp found with nested | ⟨-, top⟩
  · obtain ⟨response, -, told⟩ := Option.bind_eq_some_iff.mp nested
    exact isTold_of told
  · exact isTold_of top

theorem parseSSEData_of (read : ResponseEnvelope.unmarshal event = some envelope) :
    (parseSSEData event).bind part.of = match envelope.response with
      | some response => part.of response.told
      | Option.none => part.of envelope.told := by
  have something : ¬ (event = [] ∨ event = codexDone) := by
    rintro (rfl | rfl)
    · cases read
    · have nothing : ResponseEnvelope.unmarshal codexDone = Option.none := by decide +kernel
      rw [nothing] at read
      cases read
  rw [parseSSEData, if_neg something, read, Option.bind_some]
  cases envelope.response with
  | some response => rfl
  | none =>
    simp only
    split
    · rfl
    · rename_i silent
      simp only [Bool.or_eq_true, decide_eq_true_eq, not_or, Bool.not_eq_true, ne_eq,
        not_not] at silent
      have untold := part.quiet envelope.told silent.1.1 silent.1.2 silent.2
      rw [Option.bind_none, of, untold]
      rfl

/-- The loop takes what an event carries, unless it overlooks it. -/
theorem taken_eq (wellFormed : ∀ data ∈ payload? frame, ∃ envelope,
      ResponseEnvelope.unmarshal data = some envelope) :
    part.taken frame = Relay.seen part.frameCarries part.overlooked frame := by
  unfold taken Relay.seen overlooked frameCarries
  cases fits : gather frame with
  | none => rfl
  | some event =>
    obtain ⟨reads, first⟩ := gather_reads fits
    cases told : payload? frame with
    | none =>
      rw [first told]
      rfl
    | some data =>
      obtain ⟨envelope, read⟩ := wellFormed data told
      simp only [Option.bind_some, parseSSEData_of ((reads data told).unmarshal read), carriedBy,
        read, carried, Option.isNone_some, Bool.false_or, Option.any_some, hidden]
      cases envelope.response with
      | none => simp
      | some response =>
        cases nested : part.of response.told <;> cases top : part.of envelope.told <;>
          simp [nested]

theorem getD_eq_iff {value value' : Option α} (told : ∀ v, value = some v → part.isTold v = true)
    (told' : ∀ v, value' = some v → part.isTold v = true) :
    value.getD part.none = value'.getD part.none ↔ value = value' := by
  have untold : ∀ v, part.isTold v = true → v ≠ part.none := by
    rintro v isTold rfl
    rw [part.unset] at isTold
    cases isTold
  cases value with
  | none =>
    cases value' with
    | none => simp
    | some v => simpa using (untold v (told' v rfl)).symm
  | some v =>
    cases value' with
    | none => simpa using untold v (told v rfl)
    | some v' => simp

/-- The value that a stream should end with: the last one that an event carries. -/
def Captured (part : Part α) (body : Bytes) (told : Told) : Prop :=
  part.get told = (Relay.latest part.carriedBy (events (body ++ [lf, lf]))).getD part.none

theorem latest_events (lineEnds : ReturnsEndLines body) :
    Relay.latest part.carriedBy (events (body ++ [lf, lf])) =
      Relay.latest part.frameCarries (frames body) := by
  rw [events_frames lineEnds, Relay.latest, Relay.latest, List.filterMap_filterMap]
  rfl

theorem captured_iff (lineEnds : ReturnsEndLines body)
    (wellFormed : ∀ payload ∈ events (body ++ [lf, lf]), ∃ envelope,
      ResponseEnvelope.unmarshal payload = some envelope) :
    part.Captured body
        ((frames body).foldl (fun told frame => told.observe (gather frame)) .nothing) ↔
      Relay.LatestSeen part.frameCarries part.overlooked (frames body) := by
  have seen : (frames body).filterMap part.taken =
      (frames body).filterMap (Relay.seen part.frameCarries part.overlooked) := by
    refine List.filterMap_congr fun frame member => taken_eq fun data told => ?_
    refine wellFormed data ?_
    rw [events_frames lineEnds]
    exact List.mem_filterMap.mpr ⟨frame, member, told⟩
  have told : ∀ value, Relay.latest part.frameCarries (frames body) = some value →
      part.isTold value = true := by
    intro value last
    obtain ⟨frame, -, found⟩ := List.mem_filterMap.mp (List.mem_of_getLast? last)
    obtain ⟨data, -, found⟩ := Option.bind_eq_some_iff.mp found
    obtain ⟨envelope, -, found⟩ := Option.bind_eq_some_iff.mp found
    exact isTold_carried found
  have told' : ∀ value, Relay.latest (Relay.seen part.frameCarries part.overlooked) (frames body) =
      some value → part.isTold value = true := by
    intro value last
    obtain ⟨frame, -, found⟩ := List.mem_filterMap.mp (List.mem_of_getLast? last)
    unfold Relay.seen at found
    split at found
    · cases found
    obtain ⟨data, -, found⟩ := Option.bind_eq_some_iff.mp found
    obtain ⟨envelope, -, found⟩ := Option.bind_eq_some_iff.mp found
    exact isTold_carried found
  rw [Captured, get_foldl, latest_events lineEnds, ← Relay.latest_seen_iff, Relay.latest, seen]
  change (Relay.latest (Relay.seen part.frameCarries part.overlooked) (frames body)).getD _ = _ ↔ _
  exact getD_eq_iff told' told

end Part

/-! ## The stream -/

/-- Every line is passed on, and model, service tier and usage end up as the last event that
carries each has them, exactly if none of these events is too long and none keeps the value
beside a response object, or it repeats what was told before. -/
theorem streamSSE_captures {upstream : Upstream} (ended : upstream.ending = none) {writer : Writer}
    (takes : ∀ delivery ∈ writer.deliveries, delivery = .written)
    (lineEnds : ReturnsEndLines upstream.body)
    (wellFormed : ∀ payload ∈ events (upstream.body ++ [lf, lf]), ∃ envelope,
      ResponseEnvelope.unmarshal payload = some envelope) :
    ((streamSSE upstream writer).2.2 = none ∧
      (streamSSE upstream writer).2.1.sent = writer.sent ++ upstream.body ∧
      usagePart.Captured upstream.body (streamSSE upstream writer).1 ∧
      modelPart.Captured upstream.body (streamSSE upstream writer).1 ∧
      serviceTierPart.Captured upstream.body (streamSSE upstream writer).1) ↔
    (Relay.LatestSeen usagePart.frameCarries usagePart.overlooked (frames upstream.body) ∧
      Relay.LatestSeen modelPart.frameCarries modelPart.overlooked (frames upstream.body) ∧
      Relay.LatestSeen serviceTierPart.frameCarries serviceTierPart.overlooked
        (frames upstream.body)) := by
  obtain ⟨writer', result, sent⟩ := streamSSE_eq ended takes
  rw [result]
  simp only [Part.captured_iff lineEnds wellFormed, sent, true_and]

theorem latestSeen_of_fitting {α ε : Type} {carries : ε → Option α} {overlooked : ε → Bool}
    {events : List ε} (fitting : ∀ event ∈ events, overlooked event = false) :
    Relay.LatestSeen carries overlooked events := by
  intro before event after split _ _ missed
  rw [fitting event (by simp [split])] at missed
  cases missed

theorem returnsEndLines_of_absent (absent : cr ∉ bytes) : ReturnsEndLines bytes := by
  rintro before after rfl
  simp at absent

/-- A model, and then a usage without a blank line after it. -/
def shortStream : Upstream :=
  ⟨block (Utf8.encode "\x7b\"model\":\"m\"\x7d".toList) ++
    dataField ++ Utf8.encode "\x7b\"usage\":\x7b\"input_tokens\":5\x7d\x7d\n".toList, none, 0⟩

theorem shortStream_captures :
    usagePart.Captured shortStream.body (streamSSE shortStream (.new [])).1 ∧
      Relay.latest usagePart.carriedBy (events (shortStream.body ++ [lf, lf])) =
        some { Usage.zero with inputTokens := 5 } := by
  have lineEnds : ReturnsEndLines shortStream.body := returnsEndLines_of_absent (by decide +kernel)
  have wellFormed : ∀ payload ∈ events (shortStream.body ++ [lf, lf]),
      (ResponseEnvelope.unmarshal payload).isSome = true := by decide +kernel
  have captured := (streamSSE_captures (show shortStream.ending = none from rfl)
    (show ∀ delivery ∈ (Writer.new []).deliveries, delivery = .written by decide) lineEnds
    fun payload member => Option.isSome_iff_exists.mp (wellFormed payload member)).mpr
    ⟨latestSeen_of_fitting (by decide +kernel), latestSeen_of_fitting (by decide +kernel),
      latestSeen_of_fitting (by decide +kernel)⟩
  exact ⟨captured.2.2.1, by decide +kernel⟩

/-! ## An event that is too long -/

theorem rawLinesFrom_append (unbroken : lf ∉ bytes) (line rest : Bytes) :
    rawLinesFrom line (bytes ++ lf :: rest) = (line ++ bytes ++ [lf]) :: rawLinesFrom [] rest := by
  induction bytes generalizing line with
  | nil => rw [List.nil_append, rawLinesFrom_lf, List.append_nil]
  | cons byte bytes ih =>
    obtain ⟨other, others⟩ := List.ne_and_not_mem_of_not_mem_cons unbroken
    rw [List.cons_append, rawLinesFrom_other (Ne.symm other), ih others]
    simp

theorem frames_block {payload : Bytes} (unbroken : ∀ byte ∈ payload, isBreak byte = false) :
    frames (block payload) = [[dataField ++ payload], []] := by
  have line : ∀ byte ∈ dataField ++ payload, isBreak byte = false := by
    intro byte member
    rcases List.mem_append.mp member with start | inside
    · exact dataField_unbroken byte start
    · exact unbroken byte inside
  have absent : lf ∉ dataField ++ payload := fun member => by
    have := line lf member
    cases this
  have split : block payload = (dataField ++ payload) ++ lf :: [lf] := rfl
  rw [frames, rawLines, split, rawLinesFrom_append absent, List.nil_append, rawLinesFrom_lf,
    List.map_cons, trimBreaks_snoc _ rfl, trimBreaks_unbroken line, List.map_cons]
  rfl

/-- Blanks between the brace and the first key. -/
def spacedText (blanks : Nat) : Text :=
  '{' :: (List.replicate blanks ' ' ++ "\"usage\":\x7b\"input_tokens\":5\x7d\x7d".toList)

theorem lex_spacedText (blanks : Nat) : Json.lex (spacedText blanks) = Json.lex (spacedText 0) := by
  have skip : ∀ rest, Json.lexFrom .between (List.replicate blanks ' ' ++ rest) =
      Json.lexFrom .between rest := by
    intro rest
    induction blanks with
    | zero => rfl
    | succ blanks ih =>
      rw [List.replicate_succ, List.cons_append, Json.lexFrom_step rfl, ih]
  rw [Json.lex, Json.lex, spacedText, Json.lexFrom_emit rfl, skip, spacedText, Json.lexFrom_emit rfl]
  rfl

theorem unmarshal_spacedText (blanks : Nat) :
    ResponseEnvelope.unmarshal (Utf8.encode (spacedText blanks)) =
      ResponseEnvelope.unmarshal (Utf8.encode (spacedText 0)) := by
  simp only [ResponseEnvelope.unmarshal, Json.scan?, Json.ofBytes, Utf8.runes_encode, Json.parse,
    lex_spacedText blanks]

theorem spacedText_unbroken (blanks : Nat) :
    ∀ byte ∈ Utf8.encode (spacedText blanks), isBreak byte = false := by
  have rest : "\"usage\":\x7b\"input_tokens\":5\x7d\x7d".toList.all (0x20 ≤ ·.toNat) = true := by
    decide +kernel
  have printable : ∀ c ∈ spacedText blanks, 0x20 ≤ c.toNat := by
    intro c member
    rcases List.mem_cons.mp member with rfl | member
    · decide
    rcases List.mem_append.mp member with blank | member
    · rw [List.eq_of_mem_replicate blank]
      decide
    · simpa using List.all_eq_true.mp rest c member
  intro byte member
  exact isBreak_of_printable (Utf8.printable_encode printable member)

theorem gather_spacedText (long : maxSSEEventBytes ≤ blanks) :
    gather [dataField ++ Utf8.encode (spacedText blanks)] = none := by
  have trimmed : Text.trimSpace (' ' :: spacedText blanks) = spacedText blanks := by
    have last : (spacedText blanks).getLast? = some '}' := by
      rw [spacedText, ← List.cons_append, List.getLast?_append]
      rfl
    have self := @Text.trimSpace_eq_self (spacedText blanks)
      (fun c first => by cases first; rfl) (fun c end' => by rw [last] at end'; cases end'; rfl)
    rw [Text.trimSpace, List.dropWhile_cons_of_pos rfl]
    exact self
  have value : (dataField ++ Utf8.encode (spacedText blanks)).drop 5 =
      Utf8.encode (' ' :: spacedText blanks) := rfl
  have start : (dataField ++ Utf8.encode (spacedText blanks)).take 5 = dataPrefix := rfl
  have size : blanks ≤ (Utf8.encode (spacedText blanks)).length := by
    have blank : Char.utf8Size ' ' = 1 := by decide
    rw [Utf8.length_encode, Text.byteLength, spacedText, List.map_cons, List.map_append,
      List.map_replicate, List.sum_cons, List.sum_append, List.sum_replicate, blank, smul_eq_mul]
    omega
  rw [gather, List.foldl_cons, List.foldl_nil, gatherLine, Option.bind_some, if_pos start, value,
    Utf8.trimSpace_encode, trimmed]
  exact if_pos (by rw [List.length_nil]; omega)

def spacedStream (blanks : Nat) : Upstream := ⟨block (Utf8.encode (spacedText blanks)), none, 0⟩

theorem spacedStream_event (blanks : Nat) :
    ReturnsEndLines (spacedStream blanks).body ∧
      ∃ payload envelope, events ((spacedStream blanks).body ++ [lf, lf]) = [payload] ∧
        ResponseEnvelope.unmarshal payload = some envelope ∧
        usagePart.carried envelope = some { Usage.zero with inputTokens := 5 } := by
  have unbroken := spacedText_unbroken blanks
  obtain ⟨envelope, read, usage⟩ : ∃ envelope,
      ResponseEnvelope.unmarshal (Utf8.encode (spacedText 0)) = some envelope ∧
        usagePart.carried envelope = some { Usage.zero with inputTokens := 5 } :=
    Option.bind_eq_some_iff.mp (by decide +kernel)
  rw [← unmarshal_spacedText blanks] at read
  obtain ⟨value, scanned, -⟩ := Option.bind_eq_some_iff.mp read
  have json := (Option.filter_eq_some_iff.mp scanned).1
  refine ⟨returnsEndLines_of_absent fun member => ?_, _, envelope, ?_, read, usage⟩
  · rcases List.mem_append.mp member with inside | ends
    · rcases List.mem_append.mp inside with start | inside
      · exact absurd start (by decide)
      · have := unbroken cr inside
        cases this
    · exact absurd ends (by decide)
  · have alone : firstLine (Utf8.encode (spacedText blanks)) = Utf8.encode (spacedText blanks) :=
      List.takeWhile_eq_self_iff.mpr fun byte member => by simp [unbroken byte member]
    rw [spacedStream, events_json_block json, alone]
    rfl

theorem streamSSE_spacedStream (long : maxSSEEventBytes ≤ blanks) :
    (streamSSE (spacedStream blanks) (.new [])).2.1.sent = (spacedStream blanks).body ∧
      (streamSSE (spacedStream blanks) (.new [])).1.usage = .zero := by
  obtain ⟨writer, result, sent⟩ := streamSSE_eq (show (spacedStream blanks).ending = none from rfl)
    (show ∀ delivery ∈ (Writer.new []).deliveries, delivery = .written by decide)
  have lines : frames (spacedStream blanks).body = _ := frames_block (spacedText_unbroken blanks)
  rw [result]
  refine ⟨sent, ?_⟩
  rw [lines]
  simp only [List.foldl_cons, List.foldl_nil, gather_spacedText long]
  rfl

/-- The event reaches the client and its usage is lost. -/
theorem longEvent_usage_lost :
    (streamSSE (spacedStream maxSSEEventBytes) (.new [])).2.1.sent =
        (spacedStream maxSSEEventBytes).body ∧
      (streamSSE (spacedStream maxSSEEventBytes) (.new [])).1.usage = .zero ∧
      ReturnsEndLines (spacedStream maxSSEEventBytes).body ∧
      ∃ payload envelope, events ((spacedStream maxSSEEventBytes).body ++ [lf, lf]) = [payload] ∧
        ResponseEnvelope.unmarshal payload = some envelope ∧
        usagePart.carried envelope = some { Usage.zero with inputTokens := 5 } := by
  obtain ⟨sent, usage⟩ := streamSSE_spacedStream (le_refl maxSSEEventBytes)
  obtain ⟨ends, event⟩ := spacedStream_event maxSSEEventBytes
  exact ⟨sent, usage, ends, event⟩

end Proxy
