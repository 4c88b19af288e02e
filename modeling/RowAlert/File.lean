import RowAlert.Text.Lines
import RowAlert.Text.Quoted
import RowAlert.Text.Split
import RowAlert.Text.Utf8
/-!
# RowAlert.File

**Files**: their paths, and their content as text.

A path is shown in normal form: without empty and `.` parts. The content of a file is bytes or a
fault of the file system; text is UTF-8 with every line end read as a line feed.
-/

namespace RowAlert

/-- A refusal of the file system: its code and reason. -/
structure FileFault where
  code : Nat
  reason : String
  deriving DecidableEq

namespace FileFault

def notFound : FileFault := ⟨2, "No such file or directory"⟩

def notDirectory : FileFault := ⟨20, "Not a directory"⟩

def isDirectory : FileFault := ⟨21, "Is a directory"⟩

def nameTooLong : FileFault := ⟨36, "File name too long"⟩

/-- The wording of a refusal to open the file at a path. -/
def message (path : String) (fault : FileFault) : String :=
  s!"[Errno {fault.code}] {fault.reason}: {Text.quoted path}"

end FileFault

/-- What the files hold: for a path in normal form, the bytes there or why there are none. -/
abbrev Files := String → Except FileFault (List UInt8)

namespace Path

/-- The parts of a path that lead somewhere. -/
def parts (path : String) : List String :=
  ((Text.splitOn ['/'] path.toList).map String.ofList).filter fun part => part ≠ "" && part ≠ "."

/-- The slashes at the front of a path in normal form: exactly two stay two, otherwise many are
one. -/
def root (path : String) : String :=
  match path.toList.takeWhile (· = '/') with
  | [] => ""
  | ['/', '/'] => "//"
  | _ => "/"

/-- The normal form of a path; an empty path is the current directory. -/
def normal (path : String) : String :=
  let normalised := root path ++ "/".intercalate (parts path)
  if normalised = "" then "." else normalised

end Path

/-- Why a file has no text. -/
inductive TextFault
  /-- No file can have the path, since a null character is in it. -/
  | unnameable
  | unreadable (fault : FileFault)
  | undecodable (fault : Text.Utf8.Fault)

/-- The wording of the complaint about a null character in a path. -/
def TextFault.unnameableText : String := "embedded null byte"

/-- The wording of a text fault. -/
def TextFault.message (path : String) : TextFault → String
  | unnameable => unnameableText
  | unreadable fault => fault.message path
  | undecodable fault => fault.message

/-- The text of the file at a path in normal form. -/
def Files.text (files : Files) (path : String) : Except TextFault (List Char) :=
  if path.toList.contains '\x00' then .error .unnameable
  else
    match files path with
    | .error fault => .error (.unreadable fault)
    | .ok bytes =>
      match Text.Utf8.decode bytes with
      | .error fault => .error (.undecodable fault)
      | .ok cs => .ok (Text.normaliseLineEnds cs)

end RowAlert
