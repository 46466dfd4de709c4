import CodexGateway.Library.Json

/-! # The text of JSON values

What `Json.render` writes, `Json.parse` reads back: the lexer finds the tokens of a value
again, whatever follows, and the parser finds the value, whatever is open around it. A line
break never stands inside a token.
-/

namespace Json

variable {c : Char} {token : Token} {n : Nat} {rest : Text}

/-! ## Strings -/

variable {state : Lexer} {next : Expect × List Frame} {items : List Json} {value value' : Json}
  {after before text : Text} {members : List (Text × Json)} {stack : List Frame}
  {tokens : List Token}

theorem lexFrom_step {next : Lexer} (stepped : state.step c = some ([], next)) (text : Text) :
    lexFrom state (c :: text) = lexFrom next text := by
  simp [lexFrom, stepped]

theorem lexFrom_emit {next : Lexer} (stepped : state.step c = some ([token], next))
    (text : Text) : lexFrom state (c :: text) = (lexFrom next text).map (token :: ·) := by
  simp [lexFrom, stepped]

theorem hexValue?_digitChar (small : n < 16) : hexValue? n.digitChar = some n := by
  interval_cases n <;> decide

/-- The item that a written code point is read as. -/
def itemOf (c : Char) : StringItem := if escapesAsUnit c then .unit c.toNat else .rune c

theorem unitRune_of_escapes (escapes : escapesAsUnit c = true) :
    unitRune c.toNat = c ∧ c.toNat < 0xD800 := by
  have small : c.toNat < 0xD800 := by
    simp only [escapesAsUnit, Bool.or_eq_true, Bool.and_eq_true, decide_eq_true_eq, List.mem_cons,
      List.not_mem_nil, or_false] at escapes
    rcases escapes with ((control | rfl | rfl | rfl)) | separator
    · omega
    all_goals first | decide | omega
  refine ⟨?_, small⟩
  have single : (isHigh c.toNat || isLow c.toNat) = false := by
    simp [isHigh, isLow]
    omega
  rw [unitRune, single, if_neg Bool.false_ne_true, Char.ofNat_toNat]

theorem lexFrom_hex (small : n < 16) {items : List StringItem} {digits : List Nat}
    (short : digits.length < 3) (rest : Text) :
    lexFrom (.hex items digits) (n.digitChar :: rest) = lexFrom (.hex items (digits ++ [n])) rest := by
  refine lexFrom_step ?_ rest
  simp [Lexer.step, hexValue?_digitChar small, short.ne]

theorem lexFrom_unitEscape {value : Nat} (small : value < 65536) (items : List StringItem)
    (rest : Text) : lexFrom (.string items) (unitEscape value ++ rest) =
      lexFrom (.string (items ++ [.unit value])) rest := by
  have digit : ∀ n : Nat, n % 16 < 16 := fun n => Nat.mod_lt n (by decide)
  have escape : lexFrom (.string items) (unitEscape value ++ rest) =
      lexFrom (.hex items []) (unitEscape value |>.drop 2 |>.append rest) := by
    simp only [unitEscape, List.cons_append]
    rw [lexFrom_step rfl, lexFrom_step rfl]
    rfl
  have last : (Lexer.hex items [value / 4096 % 16, value / 256 % 16, value / 16 % 16]).step
      (value % 16).digitChar = some ([], .string (items ++ [.unit value])) := by
    simp only [Lexer.step, hexValue?_digitChar (digit value), Option.map_some, List.length_cons,
      List.length_nil, if_pos, List.cons_append, List.nil_append, List.foldl_cons, List.foldl_nil]
    congr 6
    omega
  rw [escape]
  simp only [unitEscape, List.drop_succ_cons, List.drop_zero, List.append_eq, List.cons_append,
    List.nil_append]
  rw [lexFrom_hex (digit _) (by simp), lexFrom_hex (digit _) (by simp),
    lexFrom_hex (digit _) (by simp)]
  exact lexFrom_step last rest

theorem lexFrom_escapeRune (items : List StringItem) (c : Char) (rest : Text) :
    lexFrom (.string items) (escapeRune c ++ rest) = lexFrom (.string (items ++ [itemOf c])) rest := by
  by_cases escapes : escapesAsUnit c = true
  · rw [escapeRune, itemOf, if_pos escapes, if_pos escapes]
    exact lexFrom_unitEscape (by have := (unitRune_of_escapes escapes).2; omega) items rest
  have short : ∀ mark, escaped items mark = some (.string (items ++ [.rune c])) →
      lexFrom (.string items) ('\\' :: mark :: rest) = lexFrom (.string (items ++ [.rune c])) rest := by
    intro mark marked
    rw [lexFrom_step rfl]
    exact lexFrom_step (by rw [Lexer.step, marked, Option.map_some]) rest
  have named : ∀ n, c.toNat = n → c = Char.ofNat n := by
    rintro n rfl
    exact (Char.ofNat_toNat c).symm
  rw [escapeRune, itemOf, if_neg escapes, if_neg escapes]
  split_ifs with quoted back tab line form carriage
  · refine short c ?_
    rcases (Bool.or_eq_true _ _).mp quoted with same | same <;>
      rw [of_decide_eq_true same] <;> rfl
  · exact short 'b' (by rw [named _ back]; rfl)
  · exact short 't' (by rw [named _ tab]; rfl)
  · exact short 'n' (by rw [named _ line]; rfl)
  · exact short 'f' (by rw [named _ form]; rfl)
  · exact short 'r' (by rw [named _ carriage]; rfl)
  · refine lexFrom_step ?_ rest
    have printable : ¬ c.toNat < 0x20 := by
      simp [escapesAsUnit] at escapes
      omega
    simp only [Bool.or_eq_true, decide_eq_true_eq, not_or] at quoted
    simp [Lexer.step, quoted, printable]

theorem lexFrom_escaped (items : List StringItem) (text rest : Text) :
    lexFrom (.string items) (text.flatMap escapeRune ++ '"' :: rest) =
      (lexFrom .between rest).map (.string (unquote (items ++ text.map itemOf)) :: ·) := by
  induction text generalizing items with
  | nil => simpa using lexFrom_emit rfl rest
  | cons c text ih =>
    rw [List.flatMap_cons, List.append_assoc, lexFrom_escapeRune, ih]
    simp

theorem unquote_itemOf_cons (c : Char) (items : List StringItem) :
    unquote (itemOf c :: items) = c :: unquote items := by
  by_cases escapes : escapesAsUnit c = true
  · obtain ⟨single, small⟩ := unitRune_of_escapes escapes
    have low : isHigh c.toNat = false := by
      simp [isHigh]
      omega
    rw [itemOf, if_pos escapes]
    cases items with
    | nil => simp [unquote, single]
    | cons item items =>
      cases item with
      | rune d => simp [unquote, single]
      | unit value => simp [unquote, single, low]
  · rw [itemOf, if_neg escapes, unquote]

theorem unquote_map_itemOf (text : Text) : unquote (text.map itemOf) = text := by
  induction text with
  | nil => rfl
  | cons c text ih => rw [List.map_cons, unquote_itemOf_cons, ih]

theorem lexFrom_quote (text rest : Text) :
    lexFrom .between (quote text ++ rest) = (lexFrom .between rest).map (.string text :: ·) := by
  rw [quote, List.cons_append, List.append_assoc, List.singleton_append, lexFrom_step rfl,
    lexFrom_escaped, List.nil_append, unquote_map_itemOf]

/-! ## Numbers and words -/

theorem isNumberRune_of_isDigit (digit : c.isDigit = true) : isNumberRune c = true := by
  simp [isNumberRune, digit]

theorem mem_dropSign (member : c ∈ text) : c = '+' ∨ c = '-' ∨ c ∈ dropSign text := by
  unfold dropSign
  split
  · rcases List.mem_cons.mp member with same | rest
    · exact .inl same
    · exact .inr (.inr rest)
  · rcases List.mem_cons.mp member with same | rest
    · exact .inr (.inl same)
    · exact .inr (.inr rest)
  · exact .inr (.inr member)

theorem exponentPart_runes (spelled : exponentPart text = true) (member : c ∈ text) :
    isNumberRune c = true := by
  cases text with
  | nil => cases member
  | cons mark rest =>
    simp only [exponentPart, Bool.and_eq_true, Bool.or_eq_true, decide_eq_true_eq,
      List.all_eq_true] at spelled
    rcases List.mem_cons.mp member with rfl | member
    · rcases spelled.1.1 with rfl | rfl <;> decide
    · rcases mem_dropSign member with rfl | rfl | digit
      · decide
      · decide
      · exact isNumberRune_of_isDigit (spelled.2 c digit)

theorem isNumberRune_of_dropWhile (member : c ∈ text)
    (rest : c ∈ text.dropWhile Char.isDigit → isNumberRune c = true) : isNumberRune c = true := by
  rw [← List.takeWhile_append_dropWhile (p := Char.isDigit) (l := text)] at member
  rcases List.mem_append.mp member with digit | other
  · exact isNumberRune_of_isDigit (List.mem_takeWhile_imp digit)
  · exact rest other

theorem fractionPart_runes (spelled : fractionPart text = true) (member : c ∈ text) :
    isNumberRune c = true := by
  unfold fractionPart at spelled
  split at spelled
  · rcases List.mem_cons.mp member with rfl | member
    · decide
    · exact isNumberRune_of_dropWhile member
        (exponentPart_runes ((Bool.and_eq_true _ _).mp spelled).2)
  · exact exponentPart_runes spelled member

theorem unsigned_cons (spelled : unsigned text = true) :
    ∃ first rest, text = first :: rest ∧ first.isDigit = true ∧ ∀ c ∈ rest, isNumberRune c = true := by
  unfold unsigned at spelled
  split at spelled
  · exact ⟨_, _, rfl, by decide, fun c => fractionPart_runes spelled⟩
  · obtain ⟨digit, rest⟩ := (Bool.and_eq_true _ _).mp spelled
    exact ⟨_, _, rfl, digit, fun c member =>
      isNumberRune_of_dropWhile member (fractionPart_runes rest)⟩
  · cases spelled

/-- A number begins with a sign or a digit, and holds no other characters than numbers do. -/
theorem isNumber_cons (spelled : isNumber text = true) :
    ∃ first rest, text = first :: rest ∧ (first = '-' ∨ first.isDigit = true) ∧
      ∀ c ∈ rest, isNumberRune c = true := by
  unfold isNumber at spelled
  split at spelled
  · obtain ⟨first, rest, rfl, digit, runes⟩ := unsigned_cons spelled
    exact ⟨_, _, rfl, .inl rfl, List.forall_mem_cons.mpr ⟨isNumberRune_of_isDigit digit, runes⟩⟩
  · obtain ⟨first, rest, rfl, digit, runes⟩ := unsigned_cons spelled
    exact ⟨_, _, rfl, .inr digit, runes⟩

/-- What follows belongs to no number and no word. -/
def Delimited (text : Text) : Prop :=
  ∀ c ∈ text.head?, isNumberRune c = false ∧ c.isLower = false

theorem lexFrom_number_end {number : JsonNumber} {rest : Text} (delimited : Delimited rest) :
    lexFrom (.number number.literal) rest = (lexFrom .between rest).map (.number number :: ·) := by
  have ended : endNumber number.literal = some (.number number) := dif_pos number.spelled
  cases rest with
  | nil => simp [lexFrom, Lexer.finish, ended]
  | cons c rest =>
    obtain ⟨other, -⟩ := delimited c rfl
    simp only [lexFrom, Lexer.step, other, ended]
    cases Lexer.beginToken c with
    | none => rfl
    | some next => simp [Function.comp_def]

theorem lexFrom_number (number : JsonNumber) (delimited : Delimited rest) :
    lexFrom .between (number.literal ++ rest) =
      (lexFrom .between rest).map (.number number :: ·) := by
  obtain ⟨first, others, split, starts, runes⟩ := isNumber_cons number.spelled
  have walk : ∀ more literal : Text, (∀ c ∈ more, isNumberRune c = true) →
      lexFrom (.number literal) (more ++ rest) = lexFrom (.number (literal ++ more)) rest := by
    intro more
    induction more with
    | nil => simp
    | cons c more ih =>
      intro literal every
      have step : (Lexer.number literal).step c = some ([], .number (literal ++ [c])) := by
        simp [Lexer.step, every c List.mem_cons_self]
      rw [List.cons_append, lexFrom_step step, ih _ fun d member => every d (.tail _ member)]
      simp
  have begins : Lexer.between.step first = some ([], .number [first]) := by
    rcases starts with rfl | digit
    · rfl
    have other : ∀ d : Char, d.isDigit = false → first ≠ d := by
      rintro d none rfl
      simp [none] at digit
    simp [Lexer.step, Lexer.beginToken, isWhitespace, other, digit]
  have finished := @lexFrom_number_end number _ delimited
  rw [split] at finished ⊢
  rw [List.cons_append, lexFrom_step begins, walk others _ runes]
  exact finished

theorem lexFrom_word_end {letters : Text} (ended : endWord letters = some token)
    (delimited : Delimited rest) :
    lexFrom (.word letters) rest = (lexFrom .between rest).map (token :: ·) := by
  cases rest with
  | nil => simp [lexFrom, Lexer.finish, ended]
  | cons c rest =>
    obtain ⟨-, other⟩ := delimited c rfl
    simp only [lexFrom, Lexer.step, other, ended]
    cases Lexer.beginToken c with
    | none => rfl
    | some next => simp [Function.comp_def]

/-! ## Values -/

theorem lexFrom_render (token : Token) (delimited : Delimited rest) :
    lexFrom .between (token.render ++ rest) = (lexFrom .between rest).map (token :: ·) := by
  cases token with
  | openBrace | closeBrace | openBracket | closeBracket | comma | colon =>
    exact lexFrom_emit rfl rest
  | null =>
    change lexFrom .between ('n' :: 'u' :: 'l' :: 'l' :: rest) = _
    rw [lexFrom_step rfl, lexFrom_step rfl, lexFrom_step rfl, lexFrom_step rfl]
    exact lexFrom_word_end rfl delimited
  | bool value =>
    cases value with
    | true =>
      change lexFrom .between ('t' :: 'r' :: 'u' :: 'e' :: rest) = _
      rw [lexFrom_step rfl, lexFrom_step rfl, lexFrom_step rfl, lexFrom_step rfl]
      exact lexFrom_word_end rfl delimited
    | false =>
      change lexFrom .between ('f' :: 'a' :: 'l' :: 's' :: 'e' :: rest) = _
      rw [lexFrom_step rfl, lexFrom_step rfl, lexFrom_step rfl, lexFrom_step rfl, lexFrom_step rfl]
      exact lexFrom_word_end rfl delimited
  | number value => exact lexFrom_number value delimited
  | string value => exact lexFrom_quote value rest

@[simp] theorem renderTokens_nil : renderTokens [] = [] := rfl

@[simp] theorem renderTokens_cons (token : Token) (tokens : List Token) :
    renderTokens (token :: tokens) = token.render ++ renderTokens tokens := rfl

@[simp] theorem renderTokens_append (tokens tokens' : List Token) :
    renderTokens (tokens ++ tokens') = renderTokens tokens ++ renderTokens tokens' :=
  List.flatMap_append

theorem delimited_moreItems (items : List Json) (rest : Text) :
    Delimited (renderTokens (moreItems items) ++ rest) := by
  cases items <;> simp [moreItems, Delimited, Token.render] <;> decide

theorem delimited_moreMembers (members : List (Text × Json)) (rest : Text) :
    Delimited (renderTokens (moreMembers members) ++ rest) := by
  cases members <;> simp [moreMembers, Delimited, Token.render] <;> decide

/-- The text of a value is read as its tokens, whatever follows. -/
def Reads (value : Json) : Prop :=
  ∀ rest, Delimited rest →
    lexFrom .between (render value ++ rest) = (lexFrom .between rest).map (value.tokens ++ ·)

theorem lexFrom_moreItems (reads : ∀ item ∈ items, Reads item) (rest : Text) :
    lexFrom .between (renderTokens (moreItems items) ++ rest) =
      (lexFrom .between rest).map (moreItems items ++ ·) := by
  induction items with
  | nil => exact lexFrom_emit rfl rest
  | cons item items ih =>
    have first := reads item List.mem_cons_self _ (delimited_moreItems items rest)
    have others := ih fun other member => reads other (.tail _ member)
    simp only [moreItems, renderTokens_cons, renderTokens_append, List.append_assoc]
    rw [show Token.comma.render = [','] from rfl, List.singleton_append, lexFrom_emit rfl]
    rw [show renderTokens item.tokens = render item from rfl, first, others]
    simp [Function.comp_def]

theorem lexFrom_key (key : Text) (rest : Text) :
    lexFrom .between (quote key ++ ':' :: rest) =
      (lexFrom .between rest).map (.string key :: .colon :: ·) := by
  rw [lexFrom_quote, lexFrom_emit rfl, Option.map_map]
  rfl

theorem lexFrom_moreMembers (reads : ∀ member ∈ members, Reads member.2) (rest : Text) :
    lexFrom .between (renderTokens (moreMembers members) ++ rest) =
      (lexFrom .between rest).map (moreMembers members ++ ·) := by
  induction members with
  | nil => exact lexFrom_emit rfl rest
  | cons member members ih =>
    obtain ⟨key, value⟩ := member
    have first := reads (key, value) List.mem_cons_self _ (delimited_moreMembers members rest)
    have others := ih fun other member => reads other (.tail _ member)
    simp only [moreMembers, renderTokens_cons, renderTokens_append, List.append_assoc]
    rw [show Token.comma.render = [','] from rfl, show Token.colon.render = [':'] from rfl,
      List.singleton_append, List.singleton_append, lexFrom_emit rfl]
    rw [show (Token.string key).render = quote key from rfl, lexFrom_key,
      show renderTokens value.tokens = render value from rfl, first, others]
    simp [Function.comp_def]

theorem reads_token (token : Token) (single : value.tokens = [token]) : value.Reads := by
  intro rest delimited
  rw [render, single]
  simpa using lexFrom_render token delimited

theorem reads (value : Json) : value.Reads := by
  induction value using induct with
  | null => exact reads_token .null (by simp [tokens])
  | bool value => exact reads_token (.bool value) (by simp [tokens])
  | number value => exact reads_token (.number value) (by simp [tokens])
  | string value => exact reads_token (.string value) (by simp [tokens])
  | array items ih =>
    intro rest _
    rw [render]
    cases items with
    | nil =>
      change lexFrom .between ('[' :: ']' :: rest) = _
      rw [lexFrom_emit rfl, lexFrom_emit rfl, Option.map_map, tokens]
      rfl
    | cons item items =>
      have first := ih item List.mem_cons_self _ (delimited_moreItems items rest)
      have others := lexFrom_moreItems (fun other member => ih other (.tail _ member)) rest
      simp only [tokens, renderTokens_cons, renderTokens_append, List.append_assoc]
      rw [show Token.openBracket.render = ['['] from rfl, List.singleton_append,
        lexFrom_emit rfl, show renderTokens item.tokens = render item from rfl, first, others]
      simp [Function.comp_def]
  | object members ih =>
    intro rest _
    rw [render]
    cases members with
    | nil =>
      change lexFrom .between ('{' :: '}' :: rest) = _
      rw [lexFrom_emit rfl, lexFrom_emit rfl, Option.map_map, tokens]
      rfl
    | cons member members =>
      obtain ⟨key, value⟩ := member
      have first := ih (key, value) List.mem_cons_self _ (delimited_moreMembers members rest)
      have others := lexFrom_moreMembers (fun other member => ih other (.tail _ member)) rest
      simp only [tokens, renderTokens_cons, renderTokens_append, List.append_assoc]
      rw [show Token.openBrace.render = ['{'] from rfl, show Token.colon.render = [':'] from rfl,
        List.singleton_append, List.singleton_append, lexFrom_emit rfl,
        show (Token.string key).render = quote key from rfl, lexFrom_key,
        show renderTokens value.tokens = render value from rfl, first, others]
      simp [Function.comp_def]

theorem lex_render (value : Json) : lex (render value) = some value.tokens := by
  have read := reads value [] (by simp [Delimited])
  rw [List.append_nil] at read
  rw [lex, read]
  simp [lexFrom, Lexer.finish]

/-! ## Tokens -/

theorem parseFrom_cons {state : Expect × List Frame} (stepped : parseStep state token = some next)
    (tokens : List Token) : parseFrom state (token :: tokens) = parseFrom next tokens := by
  simp [parseFrom, stepped]

/-- The tokens of a value are parsed as it, whatever is open around it. -/
def Parses (value : Json) : Prop :=
  ∀ (stack : List Frame) (rest : List Token),
    parseFrom (.value, stack) (value.tokens ++ rest) = parseFrom (.after value, stack) rest ∧
    parseFrom (.valueOrEnd, stack) (value.tokens ++ rest) = parseFrom (.after value, stack) rest

theorem parseFrom_moreItems (parses : ∀ item ∈ items, Parses item)
    (before : List Json) (value : Json) (stack : List Frame) (rest : List Token) :
    parseFrom (.after value, .array before :: stack) (moreItems items ++ rest) =
      parseFrom (.after (.array (before ++ value :: items)), stack) rest := by
  induction items generalizing before value with
  | nil => exact parseFrom_cons rfl rest
  | cons item items ih =>
    simp only [moreItems, List.cons_append, List.append_assoc]
    rw [parseFrom_cons rfl, (parses item List.mem_cons_self _ _).1,
      ih fun other member => parses other (.tail _ member)]
    simp

theorem parseFrom_moreMembers
    (parses : ∀ member ∈ members, Parses member.2) (before : List (Text × Json)) (key : Text)
    (value : Json) (stack : List Frame) (rest : List Token) :
    parseFrom (.after value, .member before key :: stack) (moreMembers members ++ rest) =
      parseFrom (.after (.object (before ++ (key, value) :: members)), stack) rest := by
  induction members generalizing before key value with
  | nil => exact parseFrom_cons rfl rest
  | cons member members ih =>
    obtain ⟨key', value'⟩ := member
    simp only [moreMembers, List.cons_append, List.append_assoc]
    rw [parseFrom_cons rfl, parseFrom_cons rfl, parseFrom_cons rfl,
      (parses (key', value') List.mem_cons_self _ _).1,
      ih fun other member => parses other (.tail _ member)]
    simp

theorem parseStep_valueOrEnd (begins : token ≠ .closeBracket) :
    parseStep (.valueOrEnd, stack) token = parseStep (.value, stack) token := by
  rcases stack with _ | ⟨_ | _ | _, _⟩ <;> cases token <;> first | rfl | exact absurd rfl begins

theorem parses_of_value {more : List Token} (split : value.tokens = token :: more)
    (begins : token ≠ .closeBracket)
    (parsed : ∀ stack rest, parseFrom (.value, stack) (token :: more ++ rest) =
      parseFrom (.after value, stack) rest) : value.Parses := by
  intro stack rest
  rw [split, parsed stack rest]
  refine ⟨rfl, ?_⟩
  rw [← parsed stack rest]
  simp only [List.cons_append, parseFrom, List.foldlM_cons, parseStep_valueOrEnd begins]

theorem parses (value : Json) : value.Parses := by
  induction value using induct with
  | null => exact parses_of_value (by rw [tokens]) (by decide) fun _ _ => parseFrom_cons rfl _
  | bool value =>
    exact parses_of_value (by rw [tokens]) (by simp) fun _ _ => parseFrom_cons rfl _
  | number value =>
    exact parses_of_value (by rw [tokens]) (by simp) fun _ _ => parseFrom_cons rfl _
  | string value =>
    exact parses_of_value (by rw [tokens]) (by simp) fun _ _ => parseFrom_cons rfl _
  | array items ih =>
    cases items with
    | nil =>
      refine parses_of_value (by rw [tokens]) (by decide) fun stack rest => ?_
      rw [List.cons_append, List.singleton_append, parseFrom_cons rfl, parseFrom_cons rfl]
    | cons item items =>
      refine parses_of_value (by rw [tokens]) (by decide) fun stack rest => ?_
      rw [List.cons_append, List.append_assoc, parseFrom_cons rfl,
        (ih item List.mem_cons_self _ _).2,
        parseFrom_moreItems fun other member => ih other (.tail _ member)]
      rfl
  | object members ih =>
    cases members with
    | nil =>
      refine parses_of_value (by rw [tokens]) (by decide) fun stack rest => ?_
      rw [List.cons_append, List.singleton_append, parseFrom_cons rfl, parseFrom_cons rfl]
    | cons member members =>
      obtain ⟨key, value⟩ := member
      refine parses_of_value (by rw [tokens]) (by decide) fun stack rest => ?_
      rw [List.cons_append, List.cons_append, List.cons_append, List.append_assoc,
        parseFrom_cons rfl, parseFrom_cons rfl, parseFrom_cons rfl,
        (ih (key, value) List.mem_cons_self _ _).1,
        parseFrom_moreMembers fun other member => ih other (.tail _ member)]
      rfl

theorem parse_render (value : Json) : parse (render value) = some value := by
  have parsed := (parses value [] []).1
  rw [List.append_nil] at parsed
  rw [parse, lex_render, Option.bind_some, parseTokens, parsed]
  rfl

theorem ofBytes_encode (value : Json) : ofBytes (Utf8.encode (render value)) = some value := by
  rw [ofBytes, Utf8.runes_encode, parse_render]

/-! ## Line breaks in JSON -/

theorem Lexer.step_break (isBreak : c = '\n' ∨ c = '\r') (state : Lexer) :
    state.step c = state.finish.map fun tokens => (tokens, .between) := by
  have blank : beginToken c = some ([], .between) := by
    rcases isBreak with rfl | rfl <;> rfl
  cases state with
  | between => exact blank
  | string items | escape items | hex items digits => rcases isBreak with rfl | rfl <;> rfl
  | number literal =>
    have other : isNumberRune c = false := by rcases isBreak with rfl | rfl <;> rfl
    simp only [step, finish, other, blank]
    cases endNumber literal <;> rfl
  | word letters =>
    have other : c.isLower = false := by rcases isBreak with rfl | rfl <;> rfl
    simp only [step, finish, other, blank]
    cases endWord letters <;> rfl

theorem lexFrom_break (isBreak : c = '\n' ∨ c = '\r') (state : Lexer)
    (before after : Text) : lexFrom state (before ++ c :: after) =
      (lexFrom state before).bind fun tokens => (lexFrom .between after).map (tokens ++ ·) := by
  induction before generalizing state with
  | nil =>
    simp only [List.nil_append, lexFrom, Lexer.step_break isBreak]
    cases state.finish <;> rfl
  | cons d before ih =>
    rw [List.cons_append, lexFrom, lexFrom]
    cases state.step d with
    | none => rfl
    | some next =>
      simp only [Option.bind_some, ih]
      cases lexFrom next.2 before <;> cases lexFrom .between after <;> simp

theorem lexFrom_cons_nil (read : lexFrom state (c :: text) = some []) :
    ∃ next, state.step c = some ([], next) ∧ lexFrom next text = some [] := by
  rw [lexFrom, Option.bind_eq_some_iff] at read
  obtain ⟨⟨out, next⟩, stepped, rest⟩ := read
  obtain ⟨tokens, rest, none⟩ := Option.map_eq_some_iff.mp rest
  obtain ⟨rfl, rfl⟩ := List.append_eq_nil_iff.mp none
  exact ⟨next, stepped, rest⟩

/-- The way back between tokens gives a token. -/
theorem Lexer.eq_between_of_step (stepped : state.step c = some ([], .between)) :
    state = .between := by
  cases state with
  | between => rfl
  | string items =>
    simp only [step] at stepped
    split_ifs at stepped <;> simp at stepped
  | escape items =>
    simp only [step, Option.map_eq_some_iff, Prod.mk.injEq, true_and] at stepped
    obtain ⟨next, escapes, rfl⟩ := stepped
    unfold escaped at escapes
    split_ifs at escapes <;> simp at escapes
  | hex items digits =>
    simp only [step, Option.map_eq_some_iff] at stepped
    obtain ⟨digit, -, next⟩ := stepped
    split_ifs at next <;> simp at next
  | number literal =>
    simp only [step] at stepped
    split_ifs at stepped
    · simp at stepped
    · cases ended : endNumber literal <;> simp [ended] at stepped
  | word letters =>
    simp only [step] at stepped
    split_ifs at stepped
    · simp at stepped
    · cases ended : endWord letters <;> simp [ended] at stepped

/-- A token that is begun is read, or the text is refused. -/
theorem between_of_lexFrom (read : lexFrom state text = some []) : state = .between := by
  induction text generalizing state with
  | nil =>
    cases state with
    | between => rfl
    | number literal => cases ended : endNumber literal <;> simp [lexFrom, Lexer.finish, ended] at read
    | word letters => cases ended : endWord letters <;> simp [lexFrom, Lexer.finish, ended] at read
    | string items | escape items | hex items digits => cases read
  | cons c text ih =>
    obtain ⟨next, stepped, rest⟩ := lexFrom_cons_nil read
    rw [ih rest] at stepped
    exact Lexer.eq_between_of_step stepped

/-- No token is left only where nothing but whitespace stands. -/
theorem whitespace_of_lexFrom (read : lexFrom .between text = some []) :
    text.all isWhitespace = true := by
  induction text with
  | nil => rfl
  | cons c text ih =>
    obtain ⟨next, stepped, rest⟩ := lexFrom_cons_nil read
    rw [between_of_lexFrom rest] at stepped rest
    have blank : isWhitespace c = true := by
      by_contra other
      simp only [Lexer.step, Lexer.beginToken, if_neg other] at stepped
      split_ifs at stepped <;> simp at stepped
    simp [blank, ih rest]

theorem lexFrom_whitespace (blank : text.all isWhitespace = true) :
    lexFrom .between text = some [] := by
  induction text with
  | nil => rfl
  | cons c text ih =>
    obtain ⟨first, others⟩ := (Bool.and_eq_true _ _).mp blank
    have step : Lexer.between.step c = some ([], .between) := by
      simp [Lexer.step, Lexer.beginToken, first]
    rw [lexFrom_step step, ih others]

/-- No token follows a complete value. -/
theorem parseTokens_append_eq_nil {others : List Token} (alone : parseTokens tokens = some value)
    (both : parseTokens (tokens ++ others) = some value') : others = [] := by
  have complete : parseFrom (.value, []) tokens = some (.after value, []) := by
    unfold parseTokens at alone
    split at alone
    · rename_i ended
      cases alone
      exact ended
    · cases alone
  cases others with
  | nil => rfl
  | cons token others =>
    have stuck : parseFrom (.value, []) (tokens ++ token :: others) = none := by
      rw [parseFrom, List.foldlM_append]
      change (parseFrom _ tokens >>= _) = none
      rw [complete]
      rfl
    rw [parseTokens, stuck] at both
    cases both

/-- A value that a line break ends is followed by whitespace only. -/
theorem whitespace_of_parse (isBreak : c = '\n' ∨ c = '\r')
    (parsed : parse (before ++ c :: after) = some value)
    (alone : parse before = some value') : after.all isWhitespace = true := by
  rw [parse, lex, lexFrom_break isBreak] at parsed
  obtain ⟨tokens, read, value⟩ := Option.bind_eq_some_iff.mp alone
  rw [lex] at read
  obtain ⟨more, read', parsed⟩ := Option.bind_eq_some_iff.mp parsed
  rw [read, Option.bind_some] at read'
  obtain ⟨others, rest, rfl⟩ := Option.map_eq_some_iff.mp read'
  rw [parseTokens_append_eq_nil value parsed] at rest
  exact whitespace_of_lexFrom rest

/-- What follows a complete value is whitespace. -/
theorem parse_break (isBreak : c = '\n' ∨ c = '\r')
    (parsed : parse (before ++ c :: after) = some value) :
    parse before = some value ↔ after.all isWhitespace = true := by
  refine ⟨whitespace_of_parse isBreak parsed, fun blank => ?_⟩
  rw [parse, lex, lexFrom_break isBreak, lexFrom_whitespace blank] at parsed
  rw [parse, lex]
  simpa using parsed

/-- A text that is read has no line of data after a line break. -/
theorem lexFrom_data (text : Text) (ends : ∀ c ∈ text.head?, c.isLower = false) :
    lexFrom .between ("data".toList ++ text) = none := by
  change lexFrom .between ('d' :: 'a' :: 't' :: 'a' :: text) = none
  rw [lexFrom_step rfl, lexFrom_step rfl, lexFrom_step rfl, lexFrom_step rfl]
  cases text with
  | nil => rfl
  | cons c text =>
    have other := ends c rfl
    simp [lexFrom, Lexer.step, other, endWord]

/-! ## Blanks around a line -/

theorem not_token_of_isSpace (space : Text.isSpace c = true) :
    isNumberRune c = false ∧ c.isLower = false ∧
      Lexer.beginToken c = if isWhitespace c then some ([], .between) else none := by
  have other : ∀ d : Char, Text.isSpace d = false → c ≠ d := by
    rintro d none rfl
    rw [none] at space
    cases space
  have digit : c.isDigit = false := by
    by_contra digit
    rw [Text.isSpace_digit (by simpa using digit)] at space
    cases space
  have lower : c.isLower = false := by
    by_contra lower
    have bounds : 97 ≤ c.toNat ∧ c.toNat ≤ 122 := by
      simpa [Char.isLower, UInt32.le_iff_toNat_le, ← Char.toNat_val] using lower
    simp only [Text.isSpace, List.mem_cons, List.not_mem_nil, or_false, Bool.or_eq_true,
      decide_eq_true_eq, Bool.and_eq_true] at space
    omega
  refine ⟨?_, lower, ?_⟩
  · simp [isNumberRune, digit, other '-', other '+', other '.', other 'e', other 'E', Text.isSpace]
  · simp [Lexer.beginToken, digit, lower, other '{', other '}', other '[', other ']', other ',',
      other ':', other '"', other '-', Text.isSpace]

theorem lexFrom_space_front (space : Text.isSpace c = true)
    (read : lexFrom .between (c :: text) = some tokens) : lexFrom .between text = some tokens := by
  obtain ⟨-, -, begins⟩ := not_token_of_isSpace space
  rw [lexFrom, Lexer.step, begins] at read
  split at read
  · simpa using read
  · cases read

theorem Lexer.finish_of_space (space : Text.isSpace c = true)
    (read : lexFrom state [c] = some tokens) :
    state.finish = some tokens := by
  obtain ⟨number, lower, begins⟩ := not_token_of_isSpace space
  cases state with
  | between => exact lexFrom_space_front space read
  | string items =>
    have quote : c ≠ '"' := by
      rintro rfl
      cases space
    have slash : c ≠ '\\' := by
      rintro rfl
      cases space
    simp only [lexFrom, step, if_neg quote, if_neg slash] at read
    split at read <;> simp [finish] at read
  | escape items =>
    simp only [lexFrom, step, escaped] at read
    split_ifs at read <;> simp [finish] at read
  | hex items digits =>
    simp only [lexFrom, step] at read
    cases digit : hexValue? c with
    | none => simp [digit] at read
    | some value =>
      rw [digit] at read
      by_cases last : digits.length = 3 <;> simp [last, finish] at read
  | number literal =>
    simp only [lexFrom, step, number, begins] at read
    cases ended : endNumber literal with
    | none => simp [ended] at read
    | some token =>
      by_cases blank : isWhitespace c = true
      · simpa [finish, ended, blank] using read
      · simp [ended, blank] at read
  | word letters =>
    simp only [lexFrom, step, lower, begins] at read
    cases ended : endWord letters with
    | none => simp [ended] at read
    | some token =>
      by_cases blank : isWhitespace c = true
      · simpa [finish, ended, blank] using read
      · simp [ended, blank] at read

theorem lexFrom_space_back (space : Text.isSpace c = true)
    (read : lexFrom state (text ++ [c]) = some tokens) :
    lexFrom state text = some tokens := by
  induction text generalizing state tokens with
  | nil => exact Lexer.finish_of_space space read
  | cons d text ih =>
    rw [List.cons_append, lexFrom, Option.bind_eq_some_iff] at read
    obtain ⟨⟨out, next⟩, stepped, rest⟩ := read
    obtain ⟨more, remaining, rfl⟩ := Option.map_eq_some_iff.mp rest
    simp [lexFrom, stepped, ih remaining]

/-- Where a line is read, the blanks around it stand between tokens. -/
theorem lex_trimSpace (read : lex text = some tokens) :
    lex (Text.trimSpace text) = some tokens := by
  have front : lex (text.dropWhile Text.isSpace) = some tokens := by
    induction text with
    | nil => exact read
    | cons c text ih =>
      rw [List.dropWhile_cons]
      split
      · rename_i space
        exact ih (lexFrom_space_front space read)
      · exact read
  rw [Text.trimSpace]
  clear read
  generalize text.dropWhile Text.isSpace = text at front
  induction text using List.reverseRecOn with
  | nil => exact front
  | append_singleton text c ih =>
    rw [List.rdropWhile_concat]
    split
    · rename_i space
      exact ih (lexFrom_space_back space front)
    · exact front

/-! ## Printable text -/

theorem printable_digitChar (small : n < 16) : 0x20 ≤ n.digitChar.toNat := by
  interval_cases n <;> decide

theorem printable_escapeRune (c : Char) {d : Char} (member : d ∈ escapeRune c) : 0x20 ≤ d.toNat := by
  have digit : ∀ n : Nat, 0x20 ≤ (n % 16).digitChar.toNat := fun n =>
    printable_digitChar (Nat.mod_lt n (by decide))
  unfold escapeRune at member
  split_ifs at member with unit quoted back tab line form carriage
  · simp only [unitEscape, List.mem_cons, List.not_mem_nil, or_false] at member
    rcases member with rfl | rfl | rfl | rfl | rfl | rfl
    · decide
    · decide
    all_goals exact digit _
  · simp only [List.mem_cons, List.not_mem_nil, or_false] at member
    simp only [Bool.or_eq_true, decide_eq_true_eq] at quoted
    rcases member with rfl | rfl
    · decide
    · rcases quoted with rfl | rfl <;> decide
  all_goals simp only [List.mem_cons, List.not_mem_nil, or_false] at member
  iterate 5 (· rcases member with rfl | rfl <;> decide)
  · subst member
    simp [escapesAsUnit] at unit
    omega

theorem printable_numberRune (rune : isNumberRune c = true) : 0x20 ≤ c.toNat := by
  simp only [isNumberRune, Bool.or_eq_true, decide_eq_true_eq, List.mem_cons, List.not_mem_nil,
    or_false] at rune
  rcases rune with digit | rfl | rfl | rfl | rfl | rfl
  · have least : 48 ≤ c.toNat := (Char.isDigit_iff_toNat.mp digit).1
    omega
  all_goals decide

theorem printable_render (token : Token) (member : c ∈ token.render) : 0x20 ≤ c.toNat := by
  have fixed : ∀ {text : Text}, text.all (fun d => decide (0x20 ≤ d.toNat)) = true → c ∈ text →
      0x20 ≤ c.toNat := fun every member => of_decide_eq_true (List.all_eq_true.mp every c member)
  cases token with
  | string value =>
    simp only [Token.render, quote, List.mem_cons, List.mem_append, List.mem_flatMap,
      List.not_mem_nil, or_false] at member
    rcases member with rfl | ⟨d, -, inside⟩ | rfl
    · decide
    · exact printable_escapeRune d inside
    · decide
  | number value =>
    obtain ⟨first, rest, split, starts, runes⟩ := isNumber_cons value.spelled
    simp only [Token.render, split, List.mem_cons] at member
    rcases member with rfl | inside
    · rcases starts with rfl | digit
      · decide
      · exact printable_numberRune (isNumberRune_of_isDigit digit)
    · exact printable_numberRune (runes c inside)
  | bool value => cases value <;> exact fixed rfl member
  | null | openBrace | closeBrace | openBracket | closeBracket | comma | colon =>
    exact fixed rfl member

/-- A written value has no control characters, and so stands on one line. -/
theorem printable (value : Json) (member : c ∈ value.render) : 0x20 ≤ c.toNat := by
  obtain ⟨token, -, inside⟩ := List.mem_flatMap.mp member
  exact printable_render token inside

end Json 
