import CodexGateway.Library.JsonText

/-! # Event streams

Lines as `bufio.ScanLines` finds them, and a client that reads a body by the rules of
`text/event-stream`.
-/

namespace EventStream

variable {payload : Bytes}

def lf : UInt8 := 10

def cr : UInt8 := 13

/-! ## Lines of a reader -/

def linesFrom : Bytes → Bytes → List Bytes
  | [], [] => []
  | line, [] => [line]
  | line, byte :: rest =>
    if byte = lf then line :: linesFrom [] rest else linesFrom (line ++ [byte]) rest

def dropCR (line : Bytes) : Bytes :=
  if line.getLast? = some cr then line.dropLast else line

/-! ## A client -/

/-- What a client has read of its line and of the event. A carriage return ends a line, and a
line feed right after it belongs to it. -/
structure Client where
  line : Bytes
  returned : Bool
  data : Option Bytes
  deriving DecidableEq

def Client.start : Client := ⟨[], false, none⟩

/-- The value of a field without the blank that may follow the colon. -/
def fieldValue : Bytes → Bytes
  | 32 :: value => value
  | value => value

/-- The value that a line gives the field `data`. -/
def dataValue? (line : Bytes) : Option Bytes :=
  match line with
  | 100 :: 97 :: 116 :: 97 :: rest =>
    match rest with
    | [] => some []
    | 58 :: value => some (fieldValue value)
    | _ => none
  | _ => none

/-- The data of an event so far and another line of it. -/
def addData (data : Option Bytes) (value : Bytes) : Bytes :=
  match data with
  | none => value
  | some before => before ++ lf :: value

/-- The end of a line: a blank one dispatches the event. -/
def Client.endLine (client : Client) (returned : Bool) : Client × List Bytes :=
  if client.line = [] then (⟨[], returned, none⟩, client.data.toList)
  else match dataValue? client.line with
    | some value => (⟨[], returned, some (addData client.data value)⟩, [])
    | none => (⟨[], returned, client.data⟩, [])

def Client.read (client : Client) (byte : UInt8) : Client × List Bytes :=
  if byte = lf then
    if client.returned then ({ client with returned := false }, []) else client.endLine false
  else if byte = cr then client.endLine true
  else ({ client with line := client.line ++ [byte], returned := false }, [])

/-- The events that a client dispatches; what is unfinished at the end is dropped. -/
def Client.events : Client → Bytes → List Bytes
  | _, [] => []
  | client, byte :: rest => (client.read byte).2 ++ (client.read byte).1.events rest

def events (bytes : Bytes) : List Bytes := Client.start.events bytes

/-! ## Blocks -/

/-- `"data: "`. -/
def dataField : Bytes := [100, 97, 116, 97, 58, 32]

/-- `"data: %s\n\n"`. -/
def block (payload : Bytes) : Bytes := dataField ++ payload ++ [lf, lf]

def isBreak (byte : UInt8) : Bool := byte = lf || byte = cr

variable {byte : UInt8} {bytes : Bytes}

theorem isBreak_of_printable (printable : 32 ≤ byte) : isBreak byte = false := by
  by_contra breaks
  rw [Bool.not_eq_false, isBreak, Bool.or_eq_true] at breaks
  rcases breaks with same | same <;> rw [of_decide_eq_true same] at printable <;>
    exact absurd printable (by decide)

/-- What of a payload stands before its first line break. -/
def firstLine (payload : Bytes) : Bytes := payload.takeWhile fun byte => !isBreak byte

def afterFirstLine (payload : Bytes) : Bytes := payload.dropWhile fun byte => !isBreak byte

/-! ## What a client reads of a block -/

theorem Client.events_cons (client : Client) (byte : UInt8) (rest : Bytes) :
    client.events (byte :: rest) = (client.read byte).2 ++ (client.read byte).1.events rest :=
  rfl

theorem Client.events_unbroken (unbroken : ∀ byte ∈ bytes, isBreak byte = false)
    (client : Client) (rest : Bytes) (settled : client.returned = false) :
    client.events (bytes ++ rest) = Client.events ⟨client.line ++ bytes, false, client.data⟩ rest := by
  induction bytes generalizing client with
  | nil =>
    obtain ⟨line, returned, data⟩ := client
    subst settled
    simp
  | cons byte bytes ih =>
    have other := unbroken byte List.mem_cons_self
    simp only [isBreak, Bool.or_eq_false_iff, decide_eq_false_iff_not] at other
    have read : client.read byte = ({ client with line := client.line ++ [byte], returned := false }, []) := by
      simp [Client.read, other]
    rw [List.cons_append, Client.events_cons, read, List.nil_append,
      ih (fun b member => unbroken b (.tail _ member)) _ rfl]
    simp

/-- No line of the bytes is a line of data, the first one going on from a line already begun. -/
def quietFrom : Bytes → Bytes → Bool
  | line, [] => (dataValue? line).isNone
  | line, byte :: rest =>
    if isBreak byte then (dataValue? line).isNone && quietFrom [] rest
    else quietFrom (line ++ [byte]) rest

theorem Client.endLine_quiet {client : Client} (quiet : (dataValue? client.line).isNone = true)
    (returned : Bool) :
    ∃ data, (client.endLine returned).1 = ⟨[], returned, data⟩ ∧
      (client.endLine returned).2 ++ data.toList = client.data.toList := by
  rw [Option.isNone_iff_eq_none] at quiet
  unfold Client.endLine
  split
  · exact ⟨none, rfl, by simp⟩
  · rw [quiet]
    exact ⟨client.data, rfl, rfl⟩

theorem Client.read_lf {client : Client} (settled : client.returned = false) :
    client.read lf = client.endLine false := by
  simp [Client.read, settled]

theorem Client.read_break (client : Client) (breaks : isBreak byte = true)
    (fresh : ¬ (byte = lf ∧ client.returned = true)) :
    ∃ returned, client.read byte = client.endLine returned := by
  simp only [isBreak, Bool.or_eq_true, decide_eq_true_eq] at breaks
  rcases breaks with rfl | rfl
  · exact ⟨false, Client.read_lf (by simpa using fresh)⟩
  · exact ⟨true, by simp [Client.read, cr, lf]⟩

theorem Client.events_blank (data : Option Bytes) (rest : Bytes) :
    Client.events ⟨[], false, data⟩ (lf :: rest) = data.toList ++ EventStream.events rest := by
  simp [Client.events, Client.read, Client.endLine, EventStream.events, Client.start]

/-- Lines without data, and then the end of the block: the event is dispatched once. -/
theorem Client.events_quiet (client : Client) (quiet : quietFrom client.line bytes = true)
    (settled : client.returned = true → client.line = []) (rest : Bytes) :
    client.events (bytes ++ lf :: lf :: rest) = client.data.toList ++ EventStream.events rest := by
  induction bytes generalizing client with
  | nil =>
    rw [List.nil_append, Client.events_cons]
    cases returned : client.returned with
    | true =>
      have skipped : client.read lf = ({ client with returned := false }, []) := by
        simp [Client.read, returned]
      rw [skipped, List.nil_append]
      have blank := Client.events_blank client.data rest
      rwa [← settled returned] at blank
    | false =>
      obtain ⟨data, next, emitted⟩ := client.endLine_quiet quiet false
      rw [Client.read_lf returned, next, Client.events_blank, ← List.append_assoc, emitted]
  | cons byte bytes ih =>
    rw [List.cons_append, Client.events_cons]
    by_cases breaks : isBreak byte = true
    · simp only [quietFrom, breaks, if_true, Bool.and_eq_true] at quiet
      by_cases skips : byte = lf ∧ client.returned = true
      · have skipped : client.read byte = ({ client with returned := false }, []) := by
          simp [Client.read, skips]
        rw [skipped, List.nil_append]
        exact ih _ (by rw [settled skips.2]; exact quiet.2) (by simp)
      · obtain ⟨returned, ended⟩ := client.read_break breaks skips
        obtain ⟨data, next, emitted⟩ := client.endLine_quiet quiet.1 returned
        rw [ended, next, ih ⟨[], returned, data⟩ quiet.2 (fun _ => rfl), ← List.append_assoc, emitted]
    · have other : ¬ byte = lf ∧ ¬ byte = cr := by simpa [isBreak] using breaks
      simp only [quietFrom, breaks] at quiet
      have read : client.read byte =
          ({ client with line := client.line ++ [byte], returned := false }, []) := by
        simp [Client.read, other]
      rw [read, List.nil_append]
      exact ih _ quiet (by simp)

theorem dataField_unbroken : ∀ byte ∈ dataField, isBreak byte = false := by decide +kernel

theorem dataValue?_dataField (value : Bytes) : dataValue? (dataField ++ value) = some value := rfl

theorem firstLine_append (payload : Bytes) : firstLine payload ++ afterFirstLine payload = payload :=
  List.takeWhile_append_dropWhile

theorem isBreak_of_afterFirstLine {rest : Bytes}
    (after : afterFirstLine payload = byte :: rest) : isBreak byte = true := by
  have := List.head?_dropWhile_not (fun byte => !isBreak byte) payload
  rw [show (payload.dropWhile fun byte => !isBreak byte) = byte :: rest from after] at this
  simpa using this

/-- One payload is dispatched, and of it only the first line. -/
theorem events_block
    (quiet : ∀ byte rest, afterFirstLine payload = byte :: rest → quietFrom [] rest = true)
    (rest : Bytes) : events (block payload ++ rest) = firstLine payload :: events rest := by
  have unbroken : ∀ byte ∈ dataField ++ firstLine payload, isBreak byte = false := by
    intro byte member
    rcases List.mem_append.mp member with start | inside
    · exact dataField_unbroken byte start
    · simpa using List.mem_takeWhile_imp inside
  have whole : block payload ++ rest = (dataField ++ firstLine payload) ++
      (afterFirstLine payload ++ lf :: lf :: rest) := by
    conv_lhs => rw [block, ← firstLine_append payload]
    simp
  have ended : ∀ returned, Client.endLine ⟨dataField ++ firstLine payload, false, none⟩ returned =
      (⟨[], returned, some (firstLine payload)⟩, []) := by
    intro returned
    rw [Client.endLine, if_neg (by simp [dataField]), dataValue?_dataField]
    rfl
  rw [events, whole, Client.start.events_unbroken unbroken _ rfl]
  change Client.events ⟨dataField ++ firstLine payload, false, none⟩ _ = _
  cases after : afterFirstLine payload with
  | nil =>
    rw [List.nil_append, Client.events_cons, Client.read_lf rfl, ended, List.nil_append,
      Client.events_blank]
    rfl
  | cons byte bytes =>
    obtain ⟨returned, read⟩ := Client.read_break
      ⟨dataField ++ firstLine payload, false, none⟩ (isBreak_of_afterFirstLine after) (by simp)
    rw [List.cons_append, Client.events_cons, read, ended, List.nil_append,
      Client.events_quiet _ (quiet byte bytes after) fun _ => rfl]
    rfl

/-! ## JSON in blocks -/

theorem dataValue?_eq_some {line value : Bytes} (found : dataValue? line = some value) :
    ∃ rest, line = [100, 97, 116, 97] ++ rest ∧ (rest = [] ∨ ∃ more, rest = 58 :: more) := by
  unfold dataValue? at found
  split at found
  · split at found
    · exact ⟨[], rfl, .inl rfl⟩
    · exact ⟨_, rfl, .inr ⟨_, rfl⟩⟩
    · cases found
  · cases found

theorem breakRune (breaks : isBreak byte = true) :
    byte < 128 ∧ (Char.ofUInt8 byte = '\n' ∨ Char.ofUInt8 byte = '\r') := by
  simp only [isBreak, Bool.or_eq_true, decide_eq_true_eq] at breaks
  rcases breaks with rfl | rfl
  · exact ⟨by decide, .inl rfl⟩
  · exact ⟨by decide, .inr rfl⟩

theorem dataValue?_eq_none {line : Bytes} (read : Json.lexFrom .between (Utf8.runes line) ≠ none) :
    dataValue? line = none := by
  by_contra found
  obtain ⟨value, found⟩ := Option.ne_none_iff_exists'.mp found
  obtain ⟨rest, rfl, ends⟩ := dataValue?_eq_some found
  have runes : Utf8.runes ([100, 97, 116, 97] ++ rest) = "data".toList ++ Utf8.runes rest := by
    change Utf8.runes (100 :: 97 :: 116 :: 97 :: rest) = _
    rw [Utf8.runes_ascii (by decide), Utf8.runes_ascii (by decide), Utf8.runes_ascii (by decide),
      Utf8.runes_ascii (by decide)]
    rfl
  refine read ?_
  rw [runes]
  refine Json.lexFrom_data _ ?_
  rcases ends with rfl | ⟨more, rfl⟩
  · simp [Utf8.runes, Utf8.runesFrom]
  · rw [Utf8.runes_ascii (by decide)]
    intro c first
    cases first
    rfl

/-- Bytes that are read as JSON tokens have no line of data. -/
theorem quietFrom_of_lex {line : Bytes}
    (read : Json.lexFrom .between (Utf8.runes (line ++ bytes)) ≠ none) :
    quietFrom line bytes = true := by
  induction bytes generalizing line with
  | nil =>
    rw [List.append_nil] at read
    simp [quietFrom, dataValue?_eq_none read]
  | cons byte bytes ih =>
    by_cases breaks : isBreak byte = true
    · obtain ⟨ascii, rune⟩ := breakRune breaks
      rw [Utf8.runes_append_ascii ascii, Json.lexFrom_break rune] at read
      have parts : Json.lexFrom .between (Utf8.runes line) ≠ none ∧
          Json.lexFrom .between (Utf8.runes bytes) ≠ none := by
        constructor <;> intro none <;> simp [none] at read
      have rest : quietFrom [] bytes = true := ih (by rw [List.nil_append]; exact parts.2)
      simp [quietFrom, breaks, dataValue?_eq_none parts.1, rest]
    · simp only [quietFrom, breaks]
      exact ih (by simpa using read)

theorem ofBytes_break {before after : Bytes} (breaks : isBreak byte = true) :
    Json.ofBytes (before ++ byte :: after) =
      Json.parse (Utf8.runes before ++ Char.ofUInt8 byte :: Utf8.runes after) := by
  rw [Json.ofBytes, Utf8.runes_append_ascii (breakRune breaks).1]

theorem events_json_block {value : Json} (json : Json.ofBytes payload = some value) (rest : Bytes) :
    events (block payload ++ rest) = firstLine payload :: events rest := by
  refine events_block (fun byte after split => quietFrom_of_lex ?_) rest
  have breaks := isBreak_of_afterFirstLine split
  rw [← firstLine_append payload, split, ofBytes_break breaks, Json.parse, Json.lex,
    Json.lexFrom_break (breakRune breaks).2] at json
  intro none
  simp [show Json.lexFrom .between (Utf8.runes after) = .none from none] at json

/-- Only whitespace follows the first line of the payload. -/
def Flat (payload : Bytes) : Prop :=
  (Utf8.runes (afterFirstLine payload)).all Json.isWhitespace = true

theorem flat_of_ofBytes {value value' : Json} (json : Json.ofBytes payload = some value)
    (first : Json.ofBytes (firstLine payload) = some value') : Flat payload := by
  rw [Flat]
  cases after : afterFirstLine payload with
  | nil => rfl
  | cons byte rest =>
    have breaks := isBreak_of_afterFirstLine after
    rw [← firstLine_append payload, after, ofBytes_break breaks] at json
    rw [Utf8.runes_ascii (breakRune breaks).1, List.all_cons,
      Json.whitespace_of_parse (breakRune breaks).2 json first]
    rcases (breakRune breaks).2 with same | same <;> simp [same, Json.isWhitespace]

/-- The first line of a JSON payload is the same JSON exactly if only whitespace follows it. -/
theorem ofBytes_firstLine {value : Json} (json : Json.ofBytes payload = some value) :
    Json.ofBytes (firstLine payload) = some value ↔ Flat payload := by
  refine ⟨flat_of_ofBytes json, fun flat => ?_⟩
  have split := firstLine_append payload
  rw [Flat] at flat
  cases after : afterFirstLine payload with
  | nil =>
    rw [after, List.append_nil] at split
    rw [split, json]
  | cons byte rest =>
    have breaks := isBreak_of_afterFirstLine after
    rw [after, Utf8.runes_ascii (breakRune breaks).1, List.all_cons, Bool.and_eq_true] at flat
    rw [← split, after, ofBytes_break breaks] at json
    exact (Json.parse_break (breakRune breaks).2 json).mpr flat.2

theorem events_line {line : Bytes} (unbroken : ∀ byte ∈ line, isBreak byte = false)
    (nonempty : line ≠ []) (other : dataValue? line = none) (rest : Bytes) :
    events (line ++ lf :: rest) = events rest := by
  rw [events, Client.start.events_unbroken unbroken _ rfl, Client.events_cons, Client.read_lf rfl]
  simp [Client.endLine, Client.start, nonempty, other, events]

/-! ## Frames -/

/-- The lines of a reader with their ends, the last one perhaps without. -/
def rawLinesFrom : Bytes → Bytes → List Bytes
  | [], [] => []
  | line, [] => [line]
  | line, byte :: rest =>
    if byte = lf then (line ++ [byte]) :: rawLinesFrom [] rest
    else rawLinesFrom (line ++ [byte]) rest

def rawLines (bytes : Bytes) : List Bytes := rawLinesFrom [] bytes

theorem flatten_rawLinesFrom (line bytes : Bytes) :
    (rawLinesFrom line bytes).flatten = line ++ bytes := by
  induction bytes generalizing line with
  | nil => cases line <;> simp [rawLinesFrom]
  | cons byte bytes ih =>
    cases line <;> simp only [rawLinesFrom] <;> split <;> simp [ih]

theorem flatten_rawLines (bytes : Bytes) : (rawLines bytes).flatten = bytes :=
  flatten_rawLinesFrom [] bytes

theorem rawLinesFrom_lf (line rest : Bytes) :
    rawLinesFrom line (lf :: rest) = (line ++ [lf]) :: rawLinesFrom [] rest := by
  cases line <;> simp [rawLinesFrom]

theorem rawLinesFrom_other (other : byte ≠ lf) (line rest : Bytes) :
    rawLinesFrom line (byte :: rest) = rawLinesFrom (line ++ [byte]) rest := by
  cases line <;> simp [rawLinesFrom, other]

/-- `bytes.TrimRight(line, "\r\n")`. -/
def trimBreaks (line : Bytes) : Bytes := line.rdropWhile isBreak

/-- The lines of each event: a blank line ends one, and what follows the last blank line is one
more. -/
def framesFrom : List Bytes → List Bytes → List (List Bytes)
  | held, [] => [held]
  | held, line :: lines =>
    if line = [] then held :: framesFrom [] lines else framesFrom (held ++ [line]) lines

def frames (bytes : Bytes) : List (List Bytes) := framesFrom [] ((rawLines bytes).map trimBreaks)

def payload? (frame : List Bytes) : Option Bytes :=
  frame.foldl (fun data line => ((dataValue? line).map (addData data)).or data) none

theorem payload?_snoc (frame : List Bytes) (line : Bytes) :
    payload? (frame ++ [line]) =
      ((dataValue? line).map (addData (payload? frame))).or (payload? frame) := by
  simp [payload?]

/-- Lines end in a line feed, with or without a carriage return before it. -/
def ReturnsEndLines (bytes : Bytes) : Prop :=
  ∀ before after, bytes = before ++ cr :: after → after = [] ∨ after.head? = some lf

theorem ReturnsEndLines.tail (ends : ReturnsEndLines (byte :: bytes)) :
    ReturnsEndLines bytes := fun before after split =>
  ends (byte :: before) after (by rw [split, List.cons_append])

theorem trimBreaks_unbroken {line : Bytes} (unbroken : ∀ byte ∈ line, isBreak byte = false) :
    trimBreaks line = line := by
  rw [trimBreaks, List.rdropWhile_eq_self_iff]
  intro nonempty
  simp [unbroken _ (List.getLast_mem nonempty)]

theorem trimBreaks_snoc (line : Bytes) (breaks : isBreak byte = true) :
    trimBreaks (line ++ [byte]) = trimBreaks line :=
  List.rdropWhile_concat_pos _ _ _ breaks

theorem framesFrom_endLine (held : List Bytes) (line : Bytes) (lines : List Bytes)
    (returned : Bool) : ∃ held',
      (Client.endLine ⟨line, false, payload? held⟩ returned).1 = ⟨[], returned, payload? held'⟩ ∧
      (framesFrom held (line :: lines)).filterMap payload? =
        (Client.endLine ⟨line, false, payload? held⟩ returned).2 ++
          (framesFrom held' lines).filterMap payload? := by
  by_cases blank : line = []
  · refine ⟨[], ?_, ?_⟩
    · simp [Client.endLine, blank, payload?]
    · cases data : payload? held <;> simp [framesFrom, Client.endLine, blank, data]
  · refine ⟨held ++ [line], ?_, ?_⟩
    · rw [payload?_snoc]
      cases value : dataValue? line <;> simp [Client.endLine, blank, value]
    · cases value : dataValue? line <;> simp [framesFrom, Client.endLine, blank, value]

theorem events_framesFrom (ends : ReturnsEndLines bytes) {line : Bytes}
    (unbroken : ∀ byte ∈ line, isBreak byte = false) (held : List Bytes) :
    Client.events ⟨line, false, payload? held⟩ (bytes ++ [lf, lf]) =
      (framesFrom held ((rawLinesFrom line bytes).map trimBreaks)).filterMap payload? := by
  -- the end of the body is that of an event, whatever line was read last
  have final : ∀ held' (data : Option Bytes), payload? held' = data →
      data.toList = (framesFrom held' []).filterMap payload? := by
    rintro held' data rfl
    cases data : payload? held' <;> simp [framesFrom, data]
  induction length : bytes.length using Nat.strong_induction_on generalizing bytes line held with
  | _ n ih =>
    cases bytes with
    | nil =>
      rw [List.nil_append, Client.events_cons, Client.read_lf rfl]
      cases line with
      | nil =>
        rw [show rawLinesFrom [] [] = [] from rfl, List.map_nil, ← final held _ rfl]
        simp [Client.endLine, Client.events, Client.read]
      | cons byte line =>
        obtain ⟨held', next, split⟩ := framesFrom_endLine held (byte :: line) [] false
        rw [next, Client.events_blank, rawLinesFrom, List.map_singleton,
          trimBreaks_unbroken unbroken, split, ← final held' _ rfl]
        · simp [EventStream.events, Client.events]
        · simp
    | cons byte bytes =>
      rw [List.cons_append, Client.events_cons]
      by_cases feed : byte = lf
      · subst feed
        obtain ⟨held', next, split⟩ := framesFrom_endLine held line
          ((rawLinesFrom [] bytes).map trimBreaks) false
        rw [Client.read_lf rfl, next, rawLinesFrom_lf, List.map_cons,
          trimBreaks_snoc line rfl, trimBreaks_unbroken unbroken, split,
          ih bytes.length (by simp at length; omega) ends.tail (by simp) held' rfl]
      by_cases returns : byte = cr
      · subst returns
        have read : Client.read ⟨line, false, payload? held⟩ cr =
            Client.endLine ⟨line, false, payload? held⟩ true := by
          simp [Client.read, cr, lf]
        have trimmed : trimBreaks (line ++ [cr]) = line := by
          rw [trimBreaks_snoc line rfl, trimBreaks_unbroken unbroken]
        rw [read, rawLinesFrom_other (by decide)]
        have skip : ∀ data rest, Client.events ⟨[], true, data⟩ (lf :: rest) =
            Client.events ⟨[], false, data⟩ rest := by
          intro data rest
          simp [Client.events, Client.read]
        rcases ends [] bytes rfl with rfl | after
        · obtain ⟨held', next, split⟩ := framesFrom_endLine held line [] true
          have last : rawLinesFrom (line ++ [cr]) [] = [line ++ [cr]] := by
            cases line <;> rfl
          rw [next, List.nil_append, skip, Client.events_blank, last, List.map_singleton,
            trimmed, split, ← final held' _ rfl]
          simp [EventStream.events, Client.events]
        · obtain ⟨rest, rfl⟩ : ∃ rest, bytes = lf :: rest := by
            cases bytes with
            | nil => cases after
            | cons first rest => exact ⟨rest, by simpa using after⟩
          obtain ⟨held', next, split⟩ := framesFrom_endLine held line
            ((rawLinesFrom [] rest).map trimBreaks) true
          rw [next, List.cons_append, skip, rawLinesFrom_lf, List.map_cons,
            trimBreaks_snoc _ rfl, trimmed, split,
            ih rest.length (by simp at length; omega) ends.tail.tail (by simp) held' rfl]
      · have read : Client.read ⟨line, false, payload? held⟩ byte =
            (⟨line ++ [byte], false, payload? held⟩, []) := by
          simp [Client.read, feed, returns]
        rw [read, List.nil_append, rawLinesFrom_other feed]
        refine ih bytes.length (by simp at length; omega) ends.tail ?_ held rfl
        intro b member
        rcases List.mem_append.mp member with before | last
        · exact unbroken b before
        · rw [List.mem_singleton] at last
          simp [last, isBreak, feed, returns]

/-- A client that takes the end of the body for a blank line reads the data of the frames. -/
theorem events_frames (ends : ReturnsEndLines bytes) :
    events (bytes ++ [lf, lf]) = (frames bytes).filterMap payload? :=
  events_framesFrom ends (by simp) []

end EventStream
