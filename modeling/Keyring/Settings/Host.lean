/-
# The host's variables and files

Settings come from environment variables and from one file, whose path a variable gives.  How the
file is read as YAML is for the host to say.
-/
import Keyring.Text.Word
import Keyring.Yaml.Document

namespace Keyring

/-- What stands under a path. -/
inductive FileEntry where
  | content (b : Bytes)
  | directory
  /-- Something that may not be opened. -/
  | locked
deriving DecidableEq

/-- The environment variables that are set, the paths under which something stands, and the reader
for YAML. -/
structure Host where
  environment : List (String × String) := []
  files : List (String × FileEntry) := []
  /-- The value of a YAML document, whose lines end with line feeds. -/
  readYaml : String → Except Failure Value := Yaml.load

namespace Host

/-- The value of a variable, if it is set. -/
def valueOf? (h : Host) (name : String) : Option String :=
  h.environment.lookup name

/-- What stands under a path, if anything does. -/
def file? (h : Host) (path : String) : Option FileEntry :=
  h.files.lookup path

/-- Sets a variable. -/
def setVariable (h : Host) (name value : String) : Host :=
  { h with environment := (name, value) :: h.environment.filter fun (n, _) => n ≠ name }

/-- Removes a variable. -/
def unsetVariable (h : Host) (name : String) : Host :=
  { h with environment := h.environment.filter fun (n, _) => n ≠ name }

/-- Puts something under a path. -/
def setFile (h : Host) (path : String) (entry : FileEntry) : Host :=
  { h with files := (path, entry) :: h.files.filter fun (p, _) => p ≠ path }

/-- The words with which a variable says yes. -/
def yesWords : List String := ["1", "true", "yes", "on"]

/-- Whether a variable says yes; the default decides if it is not set or empty. -/
def truth (h : Host) (name : String) (default : Bool) : Bool :=
  match h.valueOf? name with
  | none => default
  | some raw => if raw.isEmpty then default else yesWords.contains (Text.lower (Text.strip raw))

end Host

end Keyring
