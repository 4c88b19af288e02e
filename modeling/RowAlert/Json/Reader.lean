import RowAlert.Json.Basic
/-!
# RowAlert.Json.Reader

Reading **JSON text**.

The reader accepts the standard grammar and the words `NaN`, `Infinity` and `-Infinity`. A field
that is given twice has its last value in its first place. What is refused is refused at one
position, which the fault gives as an offset and as line and column; the wording depends only on
what the reader was looking for there.

Nesting is followed with a budget of one step per character, more than any text can use up.
-/

namespace RowAlert.Json

/-- What the reader was looking for, or what it found wrong, at a position. -/
inductive Complaint
  | expectedValue
  | expectedName
  | expectedColon
  | expectedComma
  | unterminatedString
  | controlCharacter
  | badEscape
  | badCodePointEscape
  | extraData
  | byteOrderMark
  deriving Repr, DecidableEq

/-- The wording of a complaint. -/
def Complaint.message : Complaint → String
  | .expectedValue => "Expecting value"
  | .expectedName => "Expecting property name enclosed in double quotes"
  | .expectedColon => "Expecting ':' delimiter"
  | .expectedComma => "Expecting ',' delimiter"
  | .unterminatedString => "Unterminated string starting at"
  | .controlCharacter => "Invalid control character at"
  | .badEscape => "Invalid \\escape"
  | .badCodePointEscape => "Invalid \\uXXXX escape"
  | .extraData => "Extra data"
  | .byteOrderMark => "Unexpected UTF-8 BOM (decode using utf-8-sig)"

/-- Why a text is no JSON value. -/
inductive ReadFault
  /-- The grammar is violated at an offset. -/
  | malformed (complaint : Complaint) (offset : Nat)
  /-- An integer has more digits than are admitted. -/
  | integerTooLong (digits : Nat)
  deriving Repr, DecidableEq

/-- Where reading goes on: the offset and the text from there. -/
structure Rest where
  offset : Nat
  text : List Char

/-- The blanks of JSON. -/
def isSpace (c : Char) : Bool := c = ' ' || c = '\t' || c = '\n' || c = '\r'

/-- Passes blanks. -/
def skipSpace : Nat → List Char → Rest
  | pos, [] => ⟨pos, []⟩
  | pos, c :: cs => if isSpace c then skipSpace (pos + 1) cs else ⟨pos, c :: cs⟩

/-- The value of a hexadecimal digit. -/
def hexDigit? (c : Char) : Option Nat :=
  if '0' ≤ c && c ≤ '9' then some (c.toNat - 48)
  else if 'a' ≤ c && c ≤ 'f' then some (c.toNat - 87)
  else if 'A' ≤ c && c ≤ 'F' then some (c.toNat - 55)
  else none

/-- The value of four hexadecimal digits. -/
def hex4? (a b c d : Char) : Option Nat := do
  let a ← hexDigit? a
  let b ← hexDigit? b
  let c ← hexDigit? c
  let d ← hexDigit? d
  return ((a * 16 + b) * 16 + c) * 16 + d

/-- The character of a short escape. -/
def shortEscape? (c : Char) : Option Char :=
  if c = '"' || c = '\\' || c = '/' then some c
  else if c = 'b' then some '\x08'
  else if c = 'f' then some '\x0c'
  else if c = 'n' then some '\n'
  else if c = 'r' then some '\r'
  else if c = 't' then some '\t'
  else none

/-- What stands for half a surrogate pair. -/
def replacement : Char := Char.ofNat 0xFFFD

/-- Reads an escape behind its backslash, which stands at `pos` in a string that opens at `start`:
the character and how many characters behind the backslash write it. Two escapes that form a
surrogate pair write one character. -/
def readEscape (start pos : Nat) : List Char → Except ReadFault (Char × Nat)
  | [] => .error (.malformed .unterminatedString start)
  -- Something has to follow the four digits: at least the closing quote.
  | 'u' :: a :: b :: c :: d :: e :: cs =>
    match hex4? a b c d with
    | none => .error (.malformed .badCodePointEscape (pos + 1))
    | some n =>
      -- The first half of a surrogate pair, which the next escape may complete.
      if 0xD800 ≤ n && n ≤ 0xDBFF then
        match e :: cs with
        | '\\' :: 'u' :: a :: b :: c :: d :: _ :: _ =>
          match hex4? a b c d with
          | none => .error (.malformed .badCodePointEscape (pos + 7))
          | some m =>
            if 0xDC00 ≤ m && m ≤ 0xDFFF then
              .ok (Char.ofNat (0x10000 + (n - 0xD800) * 0x400 + (m - 0xDC00)), 11)
            else .ok (replacement, 5)
        | _ => .ok (replacement, 5)
      else if 0xDC00 ≤ n && n ≤ 0xDFFF then .ok (replacement, 5)
      else .ok (Char.ofNat n, 5)
  | c :: _ =>
    if c = 'u' then .error (.malformed .badCodePointEscape (pos + 1))
    else
      match shortEscape? c with
      | some d => .ok (d, 1)
      | none => .error (.malformed .badEscape pos)

/-- Puts a character in front of a string that was read. -/
def consRead (c : Char) : Except ReadFault (List Char × Rest) → Except ReadFault (List Char × Rest)
  | .ok (cs, rest) => .ok (c :: cs, rest)
  | .error f => .error f

/-- Reads a string behind its opening quote, which stands at `start`, with `skip` characters of an
escape still to pass. -/
def readString (start : Nat) : Nat → Nat → List Char → Except ReadFault (List Char × Rest)
  | _, _, [] => .error (.malformed .unterminatedString start)
  | skip + 1, pos, _ :: cs => readString start skip (pos + 1) cs
  | 0, pos, c :: cs =>
    if c = '"' then .ok ([], ⟨pos + 1, cs⟩)
    else if c = '\\' then
      match readEscape start pos cs with
      | .error f => .error f
      | .ok (d, width) => consRead d (readString start width (pos + 1) cs)
    else if c.toNat < 32 then .error (.malformed .controlCharacter pos)
    else consRead c (readString start 0 (pos + 1) cs)

/-- The exponent of a number, if a complete one follows. -/
def exponentPart : List Char → List Char × List Char
  | c :: cs =>
    if c = 'e' || c = 'E' then
      let (sign, digits) :=
        match cs with
        | '+' :: ds => (['+'], ds)
        | '-' :: ds => (['-'], ds)
        | ds => ([], ds)
      let written := digits.takeWhile Char.isDigit
      if written.isEmpty then ([], c :: cs)
      else (c :: sign ++ written, digits.dropWhile Char.isDigit)
    else ([], c :: cs)
  | [] => ([], [])

/-- The fraction of a number, if a complete one follows. -/
def fractionPart : List Char → List Char × List Char
  | '.' :: cs =>
    let written := cs.takeWhile Char.isDigit
    if written.isEmpty then ([], '.' :: cs) else ('.' :: written, cs.dropWhile Char.isDigit)
  | cs => ([], cs)

/-- Reads a number without its sign. -/
def readUnsigned (start : Nat) (negative : Bool) (pos : Nat) (cs : List Char) :
    Except ReadFault (Json × Rest) :=
  let whole :=
    match cs with
    | '0' :: _ => ['0']
    | _ => cs.takeWhile Char.isDigit
  if whole.isEmpty then .error (.malformed .expectedValue start)
  else
    let (fraction, rest) := fractionPart (cs.drop whole.length)
    let (exponent, rest) := exponentPart rest
    let next := pos + whole.length + fraction.length + exponent.length
    if fraction.isEmpty && exponent.isEmpty then
      -- Neither fraction nor exponent: an integer, which is never rounded.
      if Numeral.maxIntegerDigits < whole.length then .error (.integerTooLong whole.length)
      else .ok (int (Number.signed negative (Numeral.digitsValue whole)), ⟨next, rest⟩)
    else
      match Numeral.decimal? negative (whole ++ fraction ++ exponent) with
      | some d => .ok (float (Number.ofDecimal d), ⟨next, rest⟩)
      | none => .error (.malformed .expectedValue start)

/-- The words that are values. -/
def words : List (List Char × Json) :=
  [ ("null".toList, null), ("true".toList, bool true), ("false".toList, bool false),
    ("NaN".toList, float .nan), ("Infinity".toList, float (.infinite false)),
    ("-Infinity".toList, float (.infinite true)) ]

/-- Reads a word or a number. -/
def readScalar (pos : Nat) (cs : List Char) :
    Except ReadFault (Json × Rest) :=
  match words.find? fun (word, _) => word.isPrefixOf cs with
  | some (word, value) => .ok (value, ⟨pos + word.length, cs.drop word.length⟩)
  | none =>
    match cs with
    | '-' :: ds => readUnsigned pos true (pos + 1) ds
    | _ => readUnsigned pos false pos cs

mutual

/-- Reads a value that starts right here. -/
def readValue : Nat → Nat → List Char → Except ReadFault (Json × Rest)
  | 0, pos, _ => .error (.malformed .expectedValue pos)
  | _ + 1, pos, [] => .error (.malformed .expectedValue pos)
  | budget + 1, pos, c :: cs =>
    if c = '"' then do
      let (s, rest) ← readString pos 0 (pos + 1) cs
      return (str (String.ofList s), rest)
    else if c = '[' then
      match skipSpace (pos + 1) cs with
      | ⟨pos, ']' :: cs⟩ => .ok (arr [], ⟨pos + 1, cs⟩)
      | ⟨pos, cs⟩ => do
        let (items, rest) ← readItems budget pos cs
        return (arr items, rest)
    else if c = '\x7b' then
      match skipSpace (pos + 1) cs with
      | ⟨pos, '\x7d' :: cs⟩ => .ok (obj [], ⟨pos + 1, cs⟩)
      | ⟨pos, cs⟩ => do
        let (fields, rest) ← readFields budget pos cs
        return (obj (Entries.ofPairs fields), rest)
    else readScalar pos (c :: cs)

/-- Reads the items of an array that has at least one, and its closing bracket. -/
def readItems : Nat → Nat → List Char → Except ReadFault (List Json × Rest)
  | 0, pos, _ => .error (.malformed .expectedValue pos)
  | budget + 1, pos, cs => do
    let (item, rest) ← readValue budget pos cs
    match skipSpace rest.offset rest.text with
    | ⟨pos, ']' :: cs⟩ => return ([item], ⟨pos + 1, cs⟩)
    | ⟨pos, ',' :: cs⟩ =>
      let next := skipSpace (pos + 1) cs
      let (items, rest) ← readItems budget next.offset next.text
      return (item :: items, rest)
    | ⟨pos, _⟩ => throw (.malformed .expectedComma pos)

/-- Reads the fields of an object that has at least one, and its closing brace. -/
def readFields : Nat → Nat → List Char → Except ReadFault (List (String × Json) × Rest)
  | 0, pos, _ => .error (.malformed .expectedValue pos)
  | budget + 1, pos, '"' :: cs => do
    let (name, rest) ← readString pos 0 (pos + 1) cs
    match skipSpace rest.offset rest.text with
    | ⟨pos, ':' :: cs⟩ =>
      let start := skipSpace (pos + 1) cs
      let (value, rest) ← readValue budget start.offset start.text
      let field := (String.ofList name, value)
      match skipSpace rest.offset rest.text with
      | ⟨pos, '\x7d' :: cs⟩ => return ([field], ⟨pos + 1, cs⟩)
      | ⟨pos, ',' :: cs⟩ =>
        let next := skipSpace (pos + 1) cs
        let (fields, rest) ← readFields budget next.offset next.text
        return (field :: fields, rest)
      | ⟨pos, _⟩ => throw (.malformed .expectedComma pos)
    | ⟨pos, _⟩ => throw (.malformed .expectedColon pos)
  | _ + 1, pos, _ => .error (.malformed .expectedName pos)

end

/-- The value that a whole text writes. -/
def read (cs : List Char) : Except ReadFault Json :=
  if cs.head? = some (Char.ofNat 0xFEFF) then .error (.malformed .byteOrderMark 0)
  else do
    -- Each level of nesting takes two steps and at least one character.
    let start := skipSpace 0 cs
    let (value, rest) ← readValue (2 * cs.length + 2) start.offset start.text
    match skipSpace rest.offset rest.text with
    | ⟨_, []⟩ => return value
    | ⟨pos, _⟩ => throw (.malformed .extraData pos)

/-- The line of an offset, counted from one. -/
def lineAt (cs : List Char) (offset : Nat) : Nat := (cs.take offset).count '\n' + 1

/-- The column of an offset in its line, counted from one. -/
def columnAt (cs : List Char) (offset : Nat) : Nat :=
  ((cs.take offset).reverse.takeWhile (· ≠ '\n')).length + 1

/-- The wording of a fault in a text. -/
def ReadFault.message (cs : List Char) : ReadFault → String
  | .malformed complaint offset =>
    s!"{complaint.message}: line {lineAt cs offset} column {columnAt cs offset} (char {offset})"
  | .integerTooLong digits => Numeral.tooLongText digits

end RowAlert.Json
