import RowAlert.Format.Part
/-!
# RowAlert.Format.Fields

**Format strings**: texts with fields that are replaced by named values.

```
field := "{" name ("." member | "[" position "]")* ["!" conversion] [":" code] "}"
```

A doubled brace is a brace. The code of a field may hold fields itself, which are replaced first,
one level deep. Pieces are replaced from the left, so of two faults the one further left is
reported. There are no values without a name: an empty or numeric name is out of range.
-/

namespace RowAlert.Format

/-- The parts of a field. -/
structure Field where
  name : List Char
  conversion : Option Char
  code : List Char

namespace Field

/-- Passes a position in brackets: everything up to a closing bracket. -/
def splitPosition (cs : List Char) : List Char × List Char :=
  (cs.takeWhile (· ≠ ']'), cs.dropWhile (· ≠ ']'))

/-- The name of a field and what ends it: a closing brace, a colon or an exclamation mark. `inside`
tells that a position in brackets is being passed. -/
def splitName : Bool → List Char → Except Fault (List Char × List Char)
  | _, [] => .error (.ofValue "expected '\x7d' before end of string")
  | true, c :: cs => do
    let (name, rest) ← splitName (c ≠ ']') cs
    return (c :: name, rest)
  | false, c :: cs =>
    if c = '\x7b' then .error (.ofValue "unexpected '\x7b' in field name")
    else if c = '\x7d' || c = ':' || c = '!' then .ok ([], c :: cs)
    else do
      let (name, rest) ← splitName (c = '[') cs
      return (c :: name, rest)

/-- The code of a field up to the brace that closes the field, inside of which `depth` braces are
open. -/
def splitCode : Nat → List Char → Except Fault (List Char × List Char)
  | _, [] => .error (.ofValue "unmatched '\x7b' in format spec")
  | depth, c :: cs =>
    if c = '\x7d' && depth = 0 then .ok ([], cs)
    else do
      let depth := if c = '\x7b' then depth + 1 else if c = '\x7d' then depth - 1 else depth
      let (code, rest) ← splitCode depth cs
      return (c :: code, rest)

/-- A conversion and what follows it. -/
def splitConversion (name : List Char) : List Char → Except Fault (Field × List Char)
  | [] => .error (.ofValue "end of string while looking for conversion specifier")
  | c :: '\x7d' :: cs => .ok (⟨name, some c, []⟩, cs)
  | c :: ':' :: cs => do
    let (code, rest) ← splitCode 0 cs
    return (⟨name, some c, code⟩, rest)
  | [_] => .error (.ofValue "unmatched '\x7b' in format spec")
  | _ :: _ :: _ => .error (.ofValue "expected ':' after conversion specifier")

/-- The field behind an opening brace, and what follows it. -/
def read (cs : List Char) : Except Fault (Field × List Char) := do
  let (name, rest) ← splitName false cs
  match rest with
  | '!' :: rest => splitConversion name rest
  | ':' :: rest =>
    let (code, rest) ← splitCode 0 rest
    return (⟨name, none, code⟩, rest)
  | rest => return (⟨name, none, []⟩, rest.drop 1)

/-- A text as a position, if it is one. Too many digits are complained about before what follows
them. -/
def position? (cs : List Char) : Except Fault (Option Nat) := do
  let (found, rest) ← Spec.count cs
  return if rest.isEmpty then found else none

/-- Follows members and positions into a part, at most `budget` of them. -/
def follow : Nat → Part → List Char → Except Fault Part
  | _, part, [] => .ok part
  | 0, part, _ => .ok part
  | budget + 1, part, c :: cs =>
    if c = '.' then do
      let name := cs.takeWhile fun c => c ≠ '.' && c ≠ '['
      if name.isEmpty then throw (.ofValue "Empty attribute in format string")
      let part ← part.member (String.ofList name)
      follow budget part (cs.drop name.length)
    else if c = '[' then do
      let (key, rest) := splitPosition cs
      if rest.isEmpty then throw (.ofValue "Missing ']' in format string")
      -- A position that is out of range is complained about before an empty one.
      let position ← position? key
      if key.isEmpty then throw (.ofValue "Empty attribute in format string")
      let part ←
        match position with
        | some i => part.itemAt i
        | none => part.itemUnder (String.ofList key)
      follow budget part (rest.drop 1)
    else .error (.ofValue "Only '.' or '[' may follow ']' in format field specifier")

/-- The part that a field stands for. -/
def partOf (values : List (String × Json)) (name : List Char) : Except Fault Part := do
  let first := name.takeWhile fun c => c ≠ '.' && c ≠ '['
  let position ← position? first
  match if first.isEmpty then some 0 else position with
  | some i =>
    throw (.failure .index s!"Replacement index {i} out of range for positional args tuple")
  | none =>
    match Entries.get? values (String.ofList first) with
    | none => throw (.unknownKey (String.ofList first))
    | some value => follow name.length (.value value) (name.drop first.length)

/-- A character of a text in ASCII. -/
def asciiChar (c : Char) : List Char :=
  if c.toNat < 0x80 then [c]
  else if c.toNat < 0x100 then '\\' :: 'x' :: Text.hexPadded 2 c.toNat
  else if c.toNat < 0x10000 then '\\' :: 'u' :: Text.hexPadded 4 c.toNat
  else '\\' :: 'U' :: Text.hexPadded 8 c.toNat

/-- A part after a conversion. A null character asks for none. -/
def converted (part : Part) : Option Char → Except Fault Part
  | none | some '\x00' => .ok part
  | some 's' => .ok (.ofText part.text)
  | some 'r' => .ok (.ofText part.shown)
  | some 'a' => .ok (.ofText (String.ofList (part.shown.toList.flatMap asciiChar)))
  | some c =>
    let shown := if c = '\x7f' then "\\x7f" else Spec.shownChar c
    .error (.ofValue s!"Unknown conversion specifier {shown}")

end Field

/-- The pieces of a format string with their fields replaced, in at most `budget` steps. `expand`
replaces the fields inside of a code. -/
def piecesWith (values : List (String × Json)) (expand : List Char → Except Fault (List Char)) :
    Nat → List Char → Except Fault (List Char)
  | _, [] => .ok []
  | 0, _ => .ok []
  | budget + 1, c :: cs =>
    if c ≠ '\x7b' && c ≠ '\x7d' then do
      let rest ← piecesWith values expand budget cs
      return c :: rest
    else if cs.head? = some c then do
      let rest ← piecesWith values expand budget (cs.drop 1)
      return c :: rest
    else if c = '\x7d' then .error (.ofValue "Single '\x7d' encountered in format string")
    else if cs.isEmpty then .error (.ofValue "Single '\x7b' encountered in format string")
    else do
      let (field, rest) ← Field.read cs
      let part ← Field.partOf values field.name
      let part ← Field.converted part field.conversion
      -- The value is known to exist before the fields inside of its code are looked at.
      let code ← if field.code.contains '\x7b' then expand field.code else pure field.code
      let written ← part.format code
      let rest ← piecesWith values expand budget rest
      return written ++ rest

/-- Replaces the fields of a format string whose codes may hold fields `depth` levels deep. -/
def replaceFields (values : List (String × Json)) : Nat → List Char → Except Fault (List Char)
  | 0, _ => .error (.ofValue "Max string recursion exceeded")
  | depth + 1, cs => piecesWith values (replaceFields values depth) cs.length cs

/-- A format string with its fields replaced by named values. -/
def fill (values : List (String × Json)) (template : String) : Except Fault String :=
  (replaceFields values 2 template.toList).map String.ofList

end RowAlert.Format
