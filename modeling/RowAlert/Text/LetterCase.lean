import RowAlert.Text.LetterCase.Table
import RowAlert.Text.Printable
/-!
# RowAlert.Text.LetterCase

Lower and upper **case of a text**, by the full mappings of Unicode 14.

Channel names, flags and method names are compared without regard to letter case by mapping both
sides. A mapping may change the length of a text. Capital sigma is the one character whose lower
case depends on its neighbours: it is final (`ς`) after a cased character that no cased character
follows, looking through the characters that casing ignores.
-/

namespace RowAlert.Text

namespace LetterCase

/-- Looks a code point up among runs. -/
def inRuns? (runs : List (Nat × Nat × Nat × Int)) (n : Nat) : Option Nat :=
  (runs.find? fun (first, last, step, _) => first ≤ n && n ≤ last && (n - first) % step == 0).map
    fun (_, _, _, delta) => (n + delta).toNat

/-- The image of a character: a special mapping, else a run, else the character itself. -/
def image (specials : List (Nat × List Nat)) (runs : List (Nat × Nat × Nat × Int)) (c : Char) :
    List Char :=
  match specials.lookup c.toNat with
  | some ns => ns.map Char.ofNat
  | none =>
    match inRuns? runs c.toNat with
    | some n => [Char.ofNat n]
    | none => [c]

/-- The lower case of a character on its own. -/
def lowerOf (c : Char) : List Char :=
  if c.toNat < 128 then [c.toLower] else image lowerSpecials lowerRuns c

/-- The upper case of a character. -/
def upperOf (c : Char) : List Char :=
  if c.toNat < 128 then [c.toUpper] else image upperSpecials upperRuns c

/-- A cased character that casing does not look through. -/
def isCased (c : Char) : Bool := holdsAt casedChanges c.toNat

/-- A character that casing looks through. -/
def isIgnorable (c : Char) : Bool := holdsAt ignorableChanges c.toNat

/-- Is the first character that casing does not look through a cased one? -/
def meetsCased (cs : List Char) : Bool :=
  match cs.dropWhile isIgnorable with
  | [] => false
  | c :: _ => isCased c

/-- Lower case of the rest of a text whose characters so far are `before`, the last one first. -/
def lowerFrom : List Char → List Char → List Char
  | _, [] => []
  | before, c :: cs =>
    (if c = 'Σ' then [if meetsCased before && !meetsCased cs then 'ς' else 'σ'] else lowerOf c)
      ++ lowerFrom (c :: before) cs

end LetterCase

/-- The text in lower case. -/
def lower (s : String) : String := String.ofList (LetterCase.lowerFrom [] s.toList)

/-- The text in upper case. -/
def upper (s : String) : String := String.ofList (s.toList.flatMap LetterCase.upperOf)

end RowAlert.Text
