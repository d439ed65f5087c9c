/-
Text files: what reading one gives.
-/
import DialogueStore.Text.Utf8

namespace DialogueStore

inductive FileError
  | missing
  | directory
  /-- A step of the path that is to be a directory is a file. -/
  | notDirectory
  | notText
  /-- Something else, which the system says. -/
  | other (reason : String)
  deriving DecidableEq, Repr

def FileError.message : FileError → String
  | .missing => "No such file or directory (os error 2)"
  | .notDirectory => "Not a directory (os error 20)"
  | .directory => "Is a directory (os error 21)"
  | .notText => "stream did not contain valid UTF-8"
  | .other reason => reason

abbrev FileText := Except FileError String

def FileText.ofBytes (bytes : List UInt8) : FileText :=
  match Utf8.decode? bytes with
  | some s => .ok s
  | none => .error .notText

end DialogueStore
