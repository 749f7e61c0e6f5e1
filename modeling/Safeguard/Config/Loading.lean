import Safeguard.Config.Format
import Safeguard.Config.Validation
import Safeguard.Toml.Reader

/-!
# Loading a configuration

A configuration is loaded from the text of a TOML file, or from the bytes of one. It is loaded
only if the text can be read and the configuration breaks no rule.
-/

namespace Safeguard

/-- Why a configuration cannot be loaded. -/
inductive LoadError
  /-- There is no such file. -/
  | noFile
  /-- The bytes are not text. -/
  | notText
  /-- The text is not a configuration. -/
  | unreadable
  /-- The configuration breaks rules. -/
  | invalid (problems : List Problem)

namespace LoadError

/-- The message of an error; that of unreadable text is left to the reader of its format. -/
def message : LoadError → Option String
  | noFile => some "IO error: No such file or directory (os error 2)"
  | notText => some "IO error: stream did not contain valid UTF-8"
  | unreadable => none
  | invalid problems =>
    some ("Validation failed: " ++ ", ".intercalate (problems.map Problem.text))

end LoadError

namespace Configuration

/-- The configuration that TOML text holds, valid or not. -/
def ofToml? (s : String) : Option Configuration :=
  (Document.ofToml? s).bind (decode .ignored)

/-- Loads a configuration from TOML text. -/
def load (s : String) : Except LoadError Configuration :=
  match ofToml? s with
  | none => .error .unreadable
  | some c =>
    match c.validate with
    | .ok () => .ok c
    | .error problems => .error (.invalid problems)

/-- Loads a configuration from the bytes of a file, if there is one. -/
def loadFile (bytes : Option (List UInt8)) : Except LoadError Configuration :=
  match bytes with
  | none => .error .noFile
  | some bytes =>
    match Text.utf8Decode? bytes with
    | none => .error .notText
    | some s => load s

end Configuration

end Safeguard
