import RowAlert.Relation
/-!
# RowAlert.Condition.Token

Cutting the text of a condition into **tokens**.

A token is a lexeme and the span of text that writes it. At each position that is not blank the
longest lexeme of the one class that can start there is taken: numeral, quoted text, operator or
word. The words and symbols for AND, OR and NOT are one lexeme each, whatever their spelling, so
nothing behind this module knows how a connective was written.

`scan` walks the text one character at a time, passing the characters of a lexeme it has already
taken. It therefore reads every character once and cannot but end.
-/

namespace RowAlert

/-- A unit of the text of a condition. -/
inductive Lexeme
  /-- A numeral, as it is written. -/
  | number (written : String)
  /-- A quoted text, without its quotes and escapes. -/
  | text (content : String)
  | relation (r : Relation)
  | opening
  | closing
  /-- A name, as it is written. -/
  | word (name : String)
  | and
  | or
  | not
  deriving DecidableEq

/-- The text that messages show for a lexeme. -/
def Lexeme.label : Lexeme → String
  | number written => written
  | text content => content
  | relation r => r.symbol
  | opening => "("
  | closing => ")"
  | word name => name
  | and => "AND"
  | or => "OR"
  | not => "NOT"

/-- A lexeme and its span: the offset of its first character and the offset behind its last. -/
structure Token where
  lexeme : Lexeme
  start : Nat
  stop : Nat
  deriving DecidableEq

/-- What is wrong with the text of a condition. -/
inductive Complaint
  | empty
  | unterminatedText
  | unknownOperator (c : Char)
  | unexpectedCharacter (c : Char)
  | emptyParentheses
  /-- A closing parenthesis without an opening one. -/
  | strayClosing
  /-- An opening parenthesis without a closing one. -/
  | unclosedOpening
  | missingOperand (before : Relation)
  | unexpectedToken (label : String)
  | unexpectedEnd
  deriving DecidableEq

/-- The wording of a complaint. -/
def Complaint.message : Complaint → String
  | empty => "Empty condition"
  | unterminatedText => "Unterminated string literal"
  | unknownOperator c => s!"Unknown operator '{c}'"
  | unexpectedCharacter c => s!"Unexpected character '{c}'"
  | emptyParentheses => "Empty parentheses"
  | strayClosing => "Unbalanced parenthesis ')'"
  | unclosedOpening => "Unbalanced parenthesis: expected ')'"
  | missingOperand r => s!"Missing operand before '{r.symbol}'"
  | unexpectedToken label => s!"Unexpected token '{label}'"
  | unexpectedEnd => "Unexpected end of condition"

namespace Lexeme

/-- How many digits stand at the front. -/
def digitsWidth (cs : List Char) : Nat := (cs.takeWhile Text.isDigit).length

/-- The width of a numeral without sign and exponent: digits on at least one side of the point. Zero
if there is none. -/
def unsignedWidth (cs : List Char) : Nat :=
  let whole := digitsWidth cs
  match cs.drop whole with
  | '.' :: ds =>
    let fraction := digitsWidth ds
    if whole = 0 && fraction = 0 then 0 else whole + 1 + fraction
  | _ => whole

/-- The width of an exponent; zero if there is no complete one. -/
def exponentWidth : List Char → Nat
  | c :: cs =>
    if c = 'e' || c = 'E' then
      let sign :=
        match cs with
        | '+' :: _ | '-' :: _ => 1
        | _ => 0
      let digits := digitsWidth (cs.drop sign)
      if digits = 0 then 0 else 1 + sign + digits
    else 0
  | [] => 0

/-- The width of a numeral; zero if there is none. -/
def numberWidth (cs : List Char) : Nat :=
  let sign := if cs.head? = some '-' then 1 else 0
  let unsigned := unsignedWidth (cs.drop sign)
  if unsigned = 0 then 0 else sign + unsigned + exponentWidth (cs.drop (sign + unsigned))

/-- The content of a quoted text behind its opening quote, and its width with the closing quote. A
backslash takes the next character as it is, unless that is a line feed. -/
def quotedBody? (quote : Char) : List Char → Option (List Char × Nat)
  | [] => none
  | '\\' :: c :: cs =>
    if c = '\n' then none
    else (quotedBody? quote cs).map fun (body, width) => (c :: body, width + 2)
  | c :: cs =>
    if c = quote then some ([], 1)
    else if c = '\\' then none
    else (quotedBody? quote cs).map fun (body, width) => (c :: body, width + 1)

/-- May the character start a name? -/
def startsWord (c : Char) : Bool := c.isAlpha || c = '_'

/-- May the character go on with a name? -/
def continuesWord (c : Char) : Bool := c.isAlphanum || c = '_' || c = '.'

/-- The lexeme of a word: a connective in any letter case, or a name. -/
def ofWord (cs : List Char) : Lexeme :=
  let folded := String.ofList (cs.map Char.toLower)
  if folded = "and" then and
  else if folded = "or" then or
  else if folded = "not" then not
  else word (String.ofList cs)

/-- The operator at the front, longer ones before their beginnings. -/
def operator? : List Char → Option (Lexeme × Nat)
  | '<' :: '=' :: _ => some (relation .atMost, 2)
  | '>' :: '=' :: _ => some (relation .atLeast, 2)
  | '=' :: '=' :: _ => some (relation .equal, 2)
  | '!' :: '=' :: _ => some (relation .different, 2)
  | '&' :: '&' :: _ => some (and, 2)
  | '|' :: '|' :: _ => some (or, 2)
  | '<' :: _ => some (relation .less, 1)
  | '>' :: _ => some (relation .greater, 1)
  | '!' :: _ => some (not, 1)
  | '(' :: _ => some (opening, 1)
  | ')' :: _ => some (closing, 1)
  | _ => none

/-- The lexeme at the front of a text, and its width. -/
def front? (cs : List Char) : Option (Lexeme × Nat) :=
  match cs with
  | [] => none
  | c :: rest =>
    -- Numerals first, so that a minus sign or a point in front of digits belongs to them.
    let width := numberWidth cs
    if width ≠ 0 then some (number (String.ofList (cs.take width)), width)
    else if c = '"' || c = '\'' then
      (quotedBody? c rest).map fun (body, w) => (text (String.ofList body), w + 1)
    else if startsWord c then
      -- A connective is a whole word: `order` does not begin with `or`.
      let name := cs.takeWhile continuesWord
      some (ofWord name, name.length)
    else operator? cs

end Lexeme

namespace Token

/-- What is wrong with a character that starts no lexeme. -/
def complaintAt (c : Char) : Complaint :=
  if c = '"' || c = '\'' then .unterminatedText
  else if c = '=' || c = '&' || c = '|' then .unknownOperator c
  else .unexpectedCharacter c

/-- The tokens from an offset on, with `skip` characters of the current token still to pass; or what
is wrong and where. -/
def scanFrom : Nat → Nat → List Char → Except (Complaint × Nat) (List Token)
  | _, _, [] => .ok []
  | skip + 1, pos, _ :: cs => scanFrom skip (pos + 1) cs
  | 0, pos, c :: cs =>
    if Text.isBlank c then scanFrom 0 (pos + 1) cs
    else
      match Lexeme.front? (c :: cs) with
      | none => .error (complaintAt c, pos)
      | some (lexeme, width) =>
        (scanFrom (width - 1) (pos + 1) cs).map (⟨lexeme, pos, pos + width⟩ :: ·)

/-- The tokens of a text. -/
def scan (cs : List Char) : Except (Complaint × Nat) (List Token) := scanFrom 0 0 cs

end Token

end RowAlert
