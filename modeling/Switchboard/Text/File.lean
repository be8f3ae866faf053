import Switchboard.Text.Bytes

/-!
# Text files

A file as it is found when it is read: it may be missing, and its bytes may not be text.
-/

namespace Switchboard

/-- The bytes of a file, if there is one. -/
abbrev File := Option (List UInt8)

/-- Why a file cannot be read as text. -/
inductive FileError where
  | missing
  | notText
  /-- Anything else, in words. -/
  | other (reason : String)
  deriving DecidableEq, Repr

namespace FileError

/-- What is wrong, in words. -/
def message : FileError → String
  | missing => "No such file or directory (os error 2)"
  | notText => "stream did not contain valid UTF-8"
  | other reason => reason

end FileError

namespace File

/-- The text of a file. -/
def text (f : File) : Except FileError String :=
  match f with
  | none => .error .missing
  | some bytes =>
    match textOfBytes? bytes with
    | some s => .ok s
    | none => .error .notText

end File

end Switchboard
