import RowAlert.Text.Printable
/-!
# RowAlert.Text.Quoted

A text **in quotes**, as messages show it.

The quotes are single, unless the text holds a single quote and no double quote. Backslash and the
chosen quote are escaped, line feed, carriage return and tab have short escapes, and every other
character that is not printable is written by its code point with two, four or eight digits.
-/

namespace RowAlert.Text

/-- `n` in lower-case hexadecimal, filled up with zeros to `width` digits. -/
def hexPadded (width n : Nat) : List Char :=
  let digits := Nat.toDigits 16 n
  List.replicate (width - digits.length) '0' ++ digits

/-- One character of a quoted text. -/
def escapeChar (quote c : Char) : List Char :=
  if c = quote || c = '\\' then ['\\', c]
  else if c = '\n' then ['\\', 'n']
  else if c = '\r' then ['\\', 'r']
  else if c = '\t' then ['\\', 't']
  else if isPrintable c then [c]
  else if c.toNat < 0x100 then '\\' :: 'x' :: hexPadded 2 c.toNat
  else if c.toNat < 0x10000 then '\\' :: 'u' :: hexPadded 4 c.toNat
  else '\\' :: 'U' :: hexPadded 8 c.toNat

/-- The quote that a text gets: double if it holds a single quote and no double quote. -/
def quoteFor (cs : List Char) : Char :=
  if cs.contains '\'' && !cs.contains '"' then '"' else '\''

/-- The text in quotes. -/
def quotedChars (cs : List Char) : List Char :=
  let quote := quoteFor cs
  quote :: cs.flatMap (escapeChar quote) ++ [quote]

/-- The text in quotes. -/
def quoted (s : String) : String := String.ofList (quotedChars s.toList)

end RowAlert.Text
