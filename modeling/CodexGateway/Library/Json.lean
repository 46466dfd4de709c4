import CodexGateway.Library.Utf8

/-! # JSON

Values, their grammar as a lexer and a parser that each read one symbol at a time, and the
compact text that Go's `json.Marshal` writes. Members keep their order, and a repeated key
stays repeated.
-/

namespace Json

/-! ## Numbers -/

def dropSign : Text → Text
  | '+' :: digits => digits
  | '-' :: digits => digits
  | digits => digits

def exponentPart : Text → Bool
  | [] => true
  | mark :: rest => (mark = 'e' || mark = 'E') && !(dropSign rest).isEmpty &&
      (dropSign rest).all Char.isDigit

def fractionPart : Text → Bool
  | '.' :: rest =>
    !(rest.takeWhile Char.isDigit).isEmpty && exponentPart (rest.dropWhile Char.isDigit)
  | rest => exponentPart rest

def unsigned : Text → Bool
  | '0' :: rest => fractionPart rest
  | first :: rest => first.isDigit && fractionPart (rest.dropWhile Char.isDigit)
  | [] => false

def isNumber : Text → Bool
  | '-' :: rest => unsigned rest
  | literal => unsigned literal

end Json

/-- A number keeps the literal that spells it. -/
structure JsonNumber where
  literal : Text
  spelled : Json.isNumber literal = true
  deriving DecidableEq

inductive Json where
  | null
  | bool (value : Bool)
  | number (value : JsonNumber)
  | string (value : Text)
  | array (items : List Json)
  | object (members : List (Text × Json))

namespace Json

/-! ## Strings -/

/-- What a string holds between its quotes: a code point, or a UTF-16 unit of an escape. -/
inductive StringItem where
  | rune (c : Char)
  | unit (value : Nat)
  deriving DecidableEq

def isHigh (value : Nat) : Bool := 0xD800 ≤ value && value < 0xDC00

def isLow (value : Nat) : Bool := 0xDC00 ≤ value && value < 0xE000

/-- A unit on its own; half of a pair is replaced. -/
def unitRune (value : Nat) : Char :=
  if isHigh value || isLow value then '�' else Char.ofNat value

def unquote : List StringItem → Text
  | [] => []
  | .rune c :: rest => c :: unquote rest
  | .unit high :: .unit low :: rest =>
    if isHigh high && isLow low then
      Char.ofNat (0x10000 + (high - 0xD800) * 0x400 + (low - 0xDC00)) :: unquote rest
    else unitRune high :: unquote (.unit low :: rest)
  | .unit value :: rest => unitRune value :: unquote rest

def hexValue? (c : Char) : Option Nat :=
  if c.isDigit then some (c.toNat - '0'.toNat)
  else if 'a' ≤ c && c ≤ 'f' then some (c.toNat - 'a'.toNat + 10)
  else if 'A' ≤ c && c ≤ 'F' then some (c.toNat - 'A'.toNat + 10)
  else none

/-! ## Lexer -/

inductive Token where
  | openBrace
  | closeBrace
  | openBracket
  | closeBracket
  | comma
  | colon
  | null
  | bool (value : Bool)
  | number (value : JsonNumber)
  | string (value : Text)
  deriving DecidableEq

inductive Lexer where
  | between
  | string (items : List StringItem)
  | escape (items : List StringItem)
  | hex (items : List StringItem) (digits : List Nat)
  | number (literal : Text)
  | word (letters : Text)

def isWhitespace (c : Char) : Bool := c ∈ [' ', '\t', '\r', '\n']

def isNumberRune (c : Char) : Bool := c.isDigit || c ∈ ['-', '+', '.', 'e', 'E']

def endNumber (literal : Text) : Option Token :=
  if spelled : isNumber literal = true then some (.number ⟨literal, spelled⟩) else none

def endWord (letters : Text) : Option Token :=
  if letters = "null".toList then some .null
  else if letters = "true".toList then some (.bool true)
  else if letters = "false".toList then some (.bool false)
  else none

def Lexer.beginToken (c : Char) : Option (List Token × Lexer) :=
  if isWhitespace c then some ([], .between)
  else if c = '{' then some ([.openBrace], .between)
  else if c = '}' then some ([.closeBrace], .between)
  else if c = '[' then some ([.openBracket], .between)
  else if c = ']' then some ([.closeBracket], .between)
  else if c = ',' then some ([.comma], .between)
  else if c = ':' then some ([.colon], .between)
  else if c = '"' then some ([], .string [])
  else if c = '-' || c.isDigit then some ([], .number [c])
  else if c.isLower then some ([], .word [c])
  else none

def escaped (items : List StringItem) (c : Char) : Option Lexer :=
  if c = 'u' then some (.hex items [])
  else if c = 'b' then some (.string (items ++ [.rune (Char.ofNat 8)]))
  else if c = 'f' then some (.string (items ++ [.rune (Char.ofNat 12)]))
  else if c = 'n' then some (.string (items ++ [.rune '\n']))
  else if c = 'r' then some (.string (items ++ [.rune '\r']))
  else if c = 't' then some (.string (items ++ [.rune '\t']))
  else if c = '"' || c = '\\' || c = '/' then some (.string (items ++ [.rune c]))
  else none

/-- One character: the token that it ends, and what it leaves unfinished. A number and a word
end at the first character that does not belong to them. -/
def Lexer.step : Lexer → Char → Option (List Token × Lexer)
  | .between, c => beginToken c
  | .string items, c =>
    if c = '"' then some ([.string (unquote items)], .between)
    else if c = '\\' then some ([], .escape items)
    else if c.toNat < 0x20 then none
    else some ([], .string (items ++ [.rune c]))
  | .escape items, c => (escaped items c).map fun next => ([], next)
  | .hex items digits, c => (hexValue? c).map fun digit =>
    if digits.length = 3 then
      ([], .string (items ++ [.unit ((digits ++ [digit]).foldl (16 * · + ·) 0)]))
    else ([], .hex items (digits ++ [digit]))
  | .number literal, c =>
    if isNumberRune c then some ([], .number (literal ++ [c]))
    else (endNumber literal).bind fun token =>
      (beginToken c).map fun (tokens, next) => (token :: tokens, next)
  | .word letters, c =>
    if c.isLower then some ([], .word (letters ++ [c]))
    else (endWord letters).bind fun token =>
      (beginToken c).map fun (tokens, next) => (token :: tokens, next)

def Lexer.finish : Lexer → Option (List Token)
  | .between => some []
  | .number literal => (endNumber literal).map ([·])
  | .word letters => (endWord letters).map ([·])
  | .string _ | .escape _ | .hex _ _ => none

def lexFrom : Lexer → Text → Option (List Token)
  | state, [] => state.finish
  | state, c :: text => (state.step c).bind fun (tokens, next) =>
    (lexFrom next text).map (tokens ++ ·)

def lex (text : Text) : Option (List Token) := lexFrom .between text

/-! ## Parser -/

/-- A container that is still open. -/
inductive Frame where
  | array (items : List Json)
  | object (members : List (Text × Json))
  | member (members : List (Text × Json)) (key : Text)

inductive Expect where
  | value
  | valueOrEnd
  | key
  | keyOrEnd
  | colon
  | after (value : Json)

def beginValue (stack : List Frame) : Token → Option (Expect × List Frame)
  | .null => some (.after .null, stack)
  | .bool value => some (.after (.bool value), stack)
  | .number value => some (.after (.number value), stack)
  | .string value => some (.after (.string value), stack)
  | .openBracket => some (.valueOrEnd, .array [] :: stack)
  | .openBrace => some (.keyOrEnd, .object [] :: stack)
  | _ => none

def parseStep : Expect × List Frame → Token → Option (Expect × List Frame)
  | (.value, stack), token => beginValue stack token
  | (.valueOrEnd, .array items :: stack), .closeBracket => some (.after (.array items), stack)
  | (.valueOrEnd, stack), token => beginValue stack token
  | (.keyOrEnd, .object members :: stack), .closeBrace => some (.after (.object members), stack)
  | (.keyOrEnd, .object members :: stack), .string key =>
    some (.colon, .member members key :: stack)
  | (.key, .object members :: stack), .string key => some (.colon, .member members key :: stack)
  | (.colon, stack), .colon => some (.value, stack)
  | (.after value, .array items :: stack), .comma => some (.value, .array (items ++ [value]) :: stack)
  | (.after value, .array items :: stack), .closeBracket =>
    some (.after (.array (items ++ [value])), stack)
  | (.after value, .member members key :: stack), .comma =>
    some (.key, .object (members ++ [(key, value)]) :: stack)
  | (.after value, .member members key :: stack), .closeBrace =>
    some (.after (.object (members ++ [(key, value)])), stack)
  | _, _ => none

def parseFrom (state : Expect × List Frame) (tokens : List Token) :
    Option (Expect × List Frame) :=
  tokens.foldlM parseStep state

def parseTokens (tokens : List Token) : Option Json :=
  match parseFrom (.value, []) tokens with
  | some (.after value, []) => some value
  | _ => none

def parse (text : Text) : Option Json := (lex text).bind parseTokens

def ofBytes (bytes : Bytes) : Option Json := parse (Utf8.runes bytes)

/-! ## Text -/

/-- Whether a code point is written as a UTF-16 escape; markup characters are. -/
def escapesAsUnit (c : Char) : Bool :=
  (c.toNat < 0x20 && !(c.toNat ∈ [8, 9, 10, 12, 13])) || c ∈ ['<', '>', '&'] ||
    c.toNat ∈ [0x2028, 0x2029]

def unitEscape (value : Nat) : Text :=
  ['\\', 'u', (value / 4096 % 16).digitChar, (value / 256 % 16).digitChar,
    (value / 16 % 16).digitChar, (value % 16).digitChar]

def escapeRune (c : Char) : Text :=
  if escapesAsUnit c then unitEscape c.toNat
  else if c = '"' || c = '\\' then ['\\', c]
  else if c.toNat = 8 then ['\\', 'b']
  else if c.toNat = 9 then ['\\', 't']
  else if c.toNat = 10 then ['\\', 'n']
  else if c.toNat = 12 then ['\\', 'f']
  else if c.toNat = 13 then ['\\', 'r']
  else [c]

def quote (text : Text) : Text := '"' :: (text.flatMap escapeRune ++ ['"'])

def Token.render : Token → Text
  | .openBrace => ['{']
  | .closeBrace => ['}']
  | .openBracket => ['[']
  | .closeBracket => [']']
  | .comma => [',']
  | .colon => [':']
  | .null => "null".toList
  | .bool true => "true".toList
  | .bool false => "false".toList
  | .number value => value.literal
  | .string value => quote value

mutual

def tokens : Json → List Token
  | .null => [.null]
  | .bool value => [.bool value]
  | .number value => [.number value]
  | .string value => [.string value]
  | .array [] => [.openBracket, .closeBracket]
  | .array (item :: items) => .openBracket :: (tokens item ++ moreItems items)
  | .object [] => [.openBrace, .closeBrace]
  | .object ((key, value) :: members) =>
    .openBrace :: .string key :: .colon :: (tokens value ++ moreMembers members)

/-- The items after the first, to the end of the array. -/
def moreItems : List Json → List Token
  | [] => [.closeBracket]
  | item :: items => .comma :: (tokens item ++ moreItems items)

def moreMembers : List (Text × Json) → List Token
  | [] => [.closeBrace]
  | (key, value) :: members =>
    .comma :: .string key :: .colon :: (tokens value ++ moreMembers members)

end

def renderTokens (tokens : List Token) : Text := tokens.flatMap Token.render

def render (value : Json) : Text := renderTokens value.tokens

/-- Every value, from the values that it holds. -/
@[elab_as_elim]
theorem induct {motive : Json → Prop} (null : motive .null) (bool : ∀ value, motive (.bool value))
    (number : ∀ value, motive (.number value)) (string : ∀ value, motive (.string value))
    (array : ∀ items, (∀ item ∈ items, motive item) → motive (.array items))
    (object : ∀ members, (∀ member ∈ members, motive member.2) → motive (.object members)) :
    ∀ value, motive value
  | .null => null
  | .bool value => bool value
  | .number value => number value
  | .string value => string value
  | .array items => array items fun item _ =>
    induct null bool number string array object item
  | .object members => object members fun member _ =>
    induct null bool number string array object member.2
termination_by value => sizeOf value
decreasing_by
  · have := List.sizeOf_lt_of_mem ‹item ∈ items›
    simp
    omega
  · have := List.sizeOf_lt_of_mem ‹member ∈ members›
    obtain ⟨key, value⟩ := member
    simp at *
    omega

end Json
