/-
# Tables of templates

A table keeps templates under names.  A name once bound keeps its template: putting it again is
accepted only with an equal template, and templates that are put together are put all or none.
-/
import Keyring.Jwt.Template
import Keyring.Table

namespace Keyring.Jwt

/-- Templates under names, no name twice. -/
structure TemplateTable where
  entries : List (String × Template) := []
deriving DecidableEq

namespace TemplateTable

/-- The template under a name. -/
def find? (t : TemplateTable) (name : String) : Option Template :=
  t.entries.lookup name

/-- A list of templates as a table's content: a repeated name keeps its first place and takes the
last template. -/
def ofList (entries : List (String × Template)) : List (String × Template) :=
  Named.putAll [] entries

/-- Whether a name is bound to another template. -/
def conflicts (t : TemplateTable) (name : String) (template : Template) : Bool :=
  (t.find? name).any fun bound => bound != template

/-- Puts templates under their names, unless one of the names is bound to another template. -/
def putAll (t : TemplateTable) (values : List (String × Template)) :
    Except KeyError TemplateTable :=
  match values.find? fun (name, template) => t.conflicts name template with
  | some (name, _) => refuse (.templateConflict name)
  | none => .ok ⟨Named.putAll t.entries values⟩

/-- The template under a name, or the error for a name that is not bound. -/
def get (t : TemplateTable) (name : String) : Except KeyError Template :=
  (t.find? name).elim (refuse (.templateUnknown name)) pure

/-- The bound names in the order of their code points. -/
def names (t : TemplateTable) : List String :=
  (t.entries.map (·.1)).mergeSort (fun a b => a ≤ b)

/-- Whether a name is bound. -/
def contains (t : TemplateTable) (name : String) : Bool :=
  (t.find? name).isSome

/-- The number of bound names. -/
def size (t : TemplateTable) : Nat :=
  t.entries.length

end TemplateTable

end Keyring.Jwt
