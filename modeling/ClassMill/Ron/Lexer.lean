import ClassMill.Ron.Number
import ClassMill.Ron.Value

/-!
# Tokens of the object notation

A text is split into words, numbers, characters, quoted texts and punctuation marks. Blanks and
comments, which may be nested, separate tokens and are dropped. Each step consumes at least one
character.
-/

namespace ClassMill.Ron

/-- The smallest parts of a text. -/
inductive Token
  | word (name : Word)
  | number (spelling : String)
  | character (value : Char)
  | text (content : String)
  | mark (symbol : Char)
  /-- A pair of parentheses with nothing in between. -/
  | unit
  deriving DecidableEq

namespace Lexer

/-- Whether a character separates tokens. -/
def isBlank (c : Char) : Bool := c = ' ' || c = '\t' || c = '\n' || c = '\r'

/-- Whether a character may start a word. -/
def isWordStart (c : Char) : Bool := c.isAlpha || c = '_'

/-- Whether a character may continue a word. -/
def isWordChar (c : Char) : Bool := isWordStart c || c.isDigit

/-- Whether a character may stand in a raw word. -/
def isRawChar (c : Char) : Bool := isWordChar c || c = '.' || c = '+' || c = '-'

/-- Whether a character may start a number. -/
def isNumberStart (c : Char) : Bool := c.isDigit || c = '+' || c = '-' || c = '.'

/-- Whether a character is a token of its own. -/
def isMark (c : Char) : Bool := "()[]\x7b\x7d,:#!".toList.contains c

/-- The text after the given number of open block comments. -/
def afterBlockComment : (depth : Nat) → List Char → Option (List Char)
  | 0, cs => some cs
  | depth + 1, '*' :: '/' :: cs => afterBlockComment depth cs
  | depth + 1, '/' :: '*' :: cs => afterBlockComment (depth + 2) cs
  | depth + 1, _ :: cs => afterBlockComment (depth + 1) cs
  | _ + 1, [] => none

/-- The text after a comment whose first slash has been read. -/
def afterComment : List Char → Option (List Char)
  | '/' :: cs => some (cs.dropWhile (· ≠ '\n'))
  | '*' :: cs => afterBlockComment 1 cs
  | _ => none

/-- How far an escape has been read. -/
inductive Escape
  /-- Not within an escape. -/
  | plain
  /-- After the backslash. -/
  | open
  /-- Within the two digits of a code below 256. -/
  | byte (digits value : Nat)
  /-- Before the opening brace of a code point. -/
  | brace
  /-- Within the digits of a code point. -/
  | code (digits value : Nat)
  deriving DecidableEq

/-- What one character means within an escape: a character, a later state or an error. -/
inductive Reading
  | produce (c : Char)
  | wait (state : Escape)
  | fail
  deriving DecidableEq

/-- The meaning of a character that follows a backslash. -/
def afterBackslash (c : Char) : Reading :=
  if c = '\x27' || c = '"' || c = '\\' then .produce c
  else if c = 'n' then .produce '\n'
  else if c = 'r' then .produce '\r'
  else if c = 't' then .produce '\t'
  else if c = '0' then .produce '\x00'
  else if c = 'x' then .wait (.byte 0 0)
  else if c = 'u' then .wait .brace
  else .fail

/-- The character of a code point, if there is one. -/
def scalar (code : Nat) : Reading :=
  if code < 0xD800 ∨ 0xDFFF < code ∧ code < 0x110000 then .produce (Char.ofNat code) else .fail

/-- The meaning of the next character within an escape. -/
def Escape.read (state : Escape) (c : Char) : Reading :=
  match state with
  | .plain => if c = '\\' then .wait .open else .produce c
  | .open => afterBackslash c
  | .byte digits value =>
    match Number.digitValue? c with
    | none => .fail
    | some d =>
      if digits = 0 then .wait (.byte 1 d) else .produce (Char.ofNat (value * 16 + d))
  | .brace => if c = '\x7b' then .wait (.code 0 0) else .fail
  | .code digits value =>
    if c = '\x7d' then if digits = 0 then .fail else scalar value
    else
      match Number.digitValue? c with
      | none => .fail
      | some d => if digits < 6 then .wait (.code (digits + 1) (value * 16 + d)) else .fail

/-- The content of a quoted text, and what follows its closing quote. -/
def quoted (state : Escape) : List Char → Option (List Char × List Char)
  | [] => none
  | c :: cs =>
    if state = .plain ∧ c = '"' then some ([], cs)
    else
      match state.read c with
      | .produce d => (quoted .plain cs).map fun (content, rest) => (d :: content, rest)
      | .wait state => quoted state cs
      | .fail => none

/-- The content of a character literal whose opening quote has been read, and what follows. -/
def quotedChar (state : Escape) : List Char → Option (Char × List Char)
  | [] => none
  | c :: cs =>
    if state = .plain ∧ c = '\x27' then none
    else
      match state.read c, cs with
      | .produce d, '\x27' :: rest => some (d, rest)
      | .wait state, cs => quotedChar state cs
      | _, _ => none

/-- The content of a raw text up to a quote that `hashes` number signs follow, and what
follows them. -/
def rawText (hashes : Nat) : List Char → Option (List Char × List Char)
  | [] => none
  | c :: cs =>
    if c = '"' ∧ (List.replicate hashes '#').isPrefixOf cs then some ([], cs.drop hashes)
    else (rawText hashes cs).map fun (content, rest) => (c :: content, rest)

/-- A quoted text as a token. -/
def textToken (read : Option (List Char × List Char)) : Option (Option Token × List Char) :=
  read.map fun (content, rest) => (some (.text (String.ofList content)), rest)

/-- A word; it may not run into characters that only raw words hold, but a signed number may
follow the word for a present value directly. -/
def wordToken (cs : List Char) : Option (Option Token × List Char) :=
  let letters := String.ofList (cs.takeWhile isWordChar)
  let rest := cs.dropWhile isWordChar
  if letters ≠ "Some" ∧ rest.head?.any isRawChar then none
  else some (some (.word (.plain letters)), rest)

/-- A raw text, a raw word or a plain word, after the letter `r`. -/
def rToken (cs : List Char) : Option (Option Token × List Char) :=
  let hashes := (cs.takeWhile (· = '#')).length
  match cs.dropWhile (· = '#') with
  | '"' :: rest => textToken (rawText hashes rest)
  | rest =>
    if hashes = 0 then wordToken ('r' :: cs)
    else if hashes = 1 ∧ rest.head?.any isRawChar then
      let letters := String.ofList (rest.takeWhile isRawChar)
      some (some (.word ⟨true, letters⟩), rest.dropWhile isRawChar)
    else none

/-- A number; it extends over all characters of words and numbers. -/
def numberToken (cs : List Char) : Option (Option Token × List Char) :=
  let spelling := cs.takeWhile isRawChar
  if Number.isNumber spelling then
    some (some (.number (String.ofList spelling)), cs.dropWhile isRawChar)
  else none

/-- One step: the token at the start of a text, if it is not a blank or comment, and the rest. -/
def step : List Char → Option (Option Token × List Char)
  | [] => none
  | '(' :: ')' :: cs => some (some .unit, cs)
  | c :: cs =>
    if isBlank c then some (none, cs)
    else if c = '/' then (afterComment cs).map fun rest => (none, rest)
    else if c = '"' then textToken (quoted .plain cs)
    else if c = '\x27' then (quotedChar .plain cs).map fun (d, rest) => (some (.character d), rest)
    else if isMark c then some (some (.mark c), cs)
    else if c = 'r' then rToken cs
    else if isWordStart c then wordToken (c :: cs)
    else if isNumberStart c then numberToken (c :: cs)
    else none

/-- Splits a text into tokens in at most `steps` steps. -/
def tokensWithin : (steps : Nat) → List Char → Option (List Token)
  | _, [] => some []
  | 0, _ :: _ => none
  | steps + 1, c :: cs =>
    match step (c :: cs) with
    | none => none
    | some (none, rest) => tokensWithin steps rest
    | some (some token, rest) => (tokensWithin steps rest).map (token :: ·)

end Lexer

/-- The tokens of a text; every step consumes a character. -/
def tokens (text : List Char) : Option (List Token) := Lexer.tokensWithin text.length text

end ClassMill.Ron
