import RowAlert.Format.Value
/-!
# RowAlert.Format.Part

The **parts** of values that format strings can reach.

A field of a format string names a value and may go on into it, to members and to positions. What it
reaches is a part: a value again, the kind of a value, a list of kinds, or an activity of a value,
which does something and shows nothing of use. Every value knows its kind, and a kind knows its
name, the kind it refines (`Kind.base?`) and all kinds above it (`Kind.lineage`).
-/

namespace RowAlert.Format

/-- The kinds of parts. -/
inductive Kind
  | null
  | bool
  | int
  | float
  | text
  | array
  | object
  /-- The kind of activities. -/
  | activity
  /-- The kind of lists of kinds. -/
  | kinds
  /-- The kind of kinds. -/
  | kind
  /-- The kind above all others. -/
  | any
  deriving DecidableEq

namespace Kind

/-- The kind of a value. -/
def ofValue : Json → Kind
  | .null => null
  | .bool _ => bool
  | .int _ => int
  | .float _ => float
  | .str _ => text
  | .arr _ => array
  | .obj _ => object

/-- The name of a kind. -/
def name : Kind → String
  | null => "NoneType"
  | bool => "bool"
  | int => "int"
  | float => "float"
  | text => "str"
  | array => "list"
  | object => "dict"
  | activity => "builtin_function_or_method"
  | kinds => "tuple"
  | kind => "type"
  | any => "object"

/-- The text of a kind. -/
def shown (k : Kind) : String := s!"<class {Text.quoted k.name}>"

/-- The kind that a kind refines. -/
def base? : Kind → Option Kind
  | any => none
  | bool => some int
  | _ => some any

/-- A kind and all kinds above it, the nearest first. -/
def lineage : Kind → List Kind
  | any => [any]
  | bool => [bool, int, any]
  | k => [k, any]

/-- Do the members of the kind have kinds of their own? -/
def isCollection : Kind → Bool
  | array | object | kinds | kind => true
  | _ => false

/-- The activities of values of a kind. -/
def activities : Kind → List String
  | int | bool =>
    ["as_integer_ratio", "bit_count", "bit_length", "conjugate", "from_bytes", "to_bytes"]
  | float => ["as_integer_ratio", "conjugate", "fromhex", "hex", "is_integer"]
  | text =>
    ["capitalize", "casefold", "center", "count", "encode", "endswith", "expandtabs", "find",
      "format", "format_map", "index", "isalnum", "isalpha", "isascii", "isdecimal", "isdigit",
      "isidentifier", "islower", "isnumeric", "isprintable", "isspace", "istitle", "isupper", "join",
      "ljust", "lower", "lstrip", "maketrans", "partition", "removeprefix", "removesuffix",
      "replace", "rfind", "rindex", "rjust", "rpartition", "rsplit", "rstrip", "split",
      "splitlines", "startswith", "strip", "swapcase", "title", "translate", "upper", "zfill"]
  | array =>
    ["append", "clear", "copy", "count", "extend", "index", "insert", "pop", "remove", "reverse",
      "sort"]
  | object =>
    ["clear", "copy", "fromkeys", "get", "items", "keys", "pop", "popitem", "setdefault", "update",
      "values"]
  | kinds => ["count", "index"]
  | _ => []

end Kind

/-- What a field of a format string can reach. -/
inductive Part
  | value (v : Json)
  | kind (k : Kind)
  | kinds (ks : List Kind)
  | activity (owner : Kind) (name : String)

namespace Part

/-- The kind of a part. -/
def kindOf : Part → Kind
  | value v => .ofValue v
  | kind _ => .kind
  | kinds _ => .kinds
  | activity .. => .activity

/-- A text as a part. -/
def ofText (s : String) : Part := value (.str s)

/-- A kind, or nothing. -/
def ofKind? : Option Kind → Part
  | some k => kind k
  | none => value .null

/-- The text of a part as it is shown inside another one. -/
def shown : Part → String
  | value v => v.shown
  | kind k => k.shown
  | kinds [k] => s!"({k.shown},)"
  | kinds ks => s!"({Json.commaSeparated (ks.map Kind.shown)})"
  | activity owner name => s!"<built-in method {name} of {owner.name} object>"

/-- The text of a part on its own. -/
def text : Part → String
  | value v => v.text
  | part => part.shown

/-! ### Members -/

/-- The member of an integer, which is also a fraction and a complex number. -/
def integerMember? (i : Int) (name : String) : Option Part :=
  if name = "real" || name = "numerator" then some (value (.int i))
  else if name = "imag" then some (value (.int 0))
  else if name = "denominator" then some (value (.int 1))
  else none

/-- The member of a number, which is also a complex number. -/
def numberMember? (x : Number) (name : String) : Option Part :=
  if name = "real" then some (value (.float x))
  else if name = "imag" then some (value (.float .zero))
  else none

/-- The member of a kind. -/
def kindMember? (k : Kind) (name : String) : Option Part :=
  if name = "__name__" || name = "__qualname__" then some (ofText k.name)
  else if name = "__module__" then some (ofText "builtins")
  else if name = "__base__" then some (ofKind? k.base?)
  else if name = "__bases__" then some (kinds k.base?.toList)
  else if name = "__mro__" then some (kinds k.lineage)
  else none

/-- The member of an activity. -/
def activityMember? (owner : Kind) (called name : String) : Option Part :=
  if name = "__name__" then some (ofText called)
  else if name = "__qualname__" then some (ofText s!"{owner.name}.{called}")
  else if name = "__module__" then some (value .null)
  else none

/-- A member that not all parts have. -/
def ownMember? (part : Part) (name : String) : Option Part :=
  match part with
  | value (.int i) => integerMember? i name
  | value (.bool b) => integerMember? (if b then 1 else 0) name
  | value (.float x) => numberMember? x name
  | kind k => kindMember? k name
  | activity owner called => activityMember? owner called name
  | _ => none

/-- The complaint about a member that a part does not have. -/
def noMember (part : Part) (name : String) : Fault :=
  match part with
  | kind k => .failure .member s!"type object '{k.name}' has no attribute '{name}'"
  | part => .noMember part.kindOf.name name

/-- The member of a part. -/
def member (part : Part) (name : String) : Except Fault Part :=
  if name = "__class__" then .ok (kind part.kindOf)
  else
    match part.ownMember? name with
    | some found => .ok found
    | none =>
      if part.kindOf.activities.contains name then .ok (activity part.kindOf name)
      else .error (part.noMember name)

/-! ### Positions -/

/-- The item of a list at a position. -/
def itemOf (items : List α) (i : Nat) (listName : String) : Except Fault α :=
  match items[i]? with
  | some item => .ok item
  | none => .error (.failure .index s!"{listName} index out of range")

/-- The complaint about a part that has no items. -/
def noItems (part : Part) : Fault :=
  match part with
  | kind k => .ofType s!"type '{k.name}' is not subscriptable"
  | part => .ofType s!"'{part.kindOf.name}' object is not subscriptable"

/-- The kind of collections of some kind whose members are of a kind that `written` tells. -/
def narrowed (k : Kind) (written : String) : Except Fault Part :=
  if k.isCollection then .ok (ofText s!"{k.name}[{written}]") else .error (noItems (kind k))

/-- The part of a part at a position. -/
def itemAt (part : Part) (i : Nat) : Except Fault Part :=
  match part with
  | value (.arr items) => (itemOf items i "list").map value
  | value (.str s) => (itemOf s.toList i "string").map fun c => ofText (String.ofList [c])
  | value (.obj _) => .error (.failure .key (toString i))
  | kinds ks => (itemOf ks i "tuple").map kind
  | kind k => narrowed k (toString i)
  | part => .error part.noItems

/-- The part of a part under a key. -/
def itemUnder (part : Part) (key : String) : Except Fault Part :=
  match part with
  | value (.obj fields) =>
    match Entries.get? fields key with
    | some item => .ok (value item)
    | none => .error (.unknownKey key)
  | value (.arr _) => .error (.ofType "list indices must be integers or slices, not str")
  | value (.str _) => .error (.ofType "string indices must be integers, not 'str'")
  | kinds _ => .error (.ofType "tuple indices must be integers or slices, not str")
  | kind k => narrowed k (Text.quoted key)
  | part => .error part.noItems

/-! ### Layout -/

/-- A part laid out by a code. Parts that are no values have no layouts. -/
def format (code : List Char) (part : Part) : Except Fault (List Char) :=
  match part with
  | value v => Format.format code v
  | part =>
    if code.isEmpty then .ok part.text.toList else .error (noLayout part.kindOf.name)

end Part

end RowAlert.Format
