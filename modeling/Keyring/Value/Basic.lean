/-
# Values

Claims, log fields and settings are values of one type: nothing, truth values, whole and
double-precision numbers, text, bytes, lists, tuples and dictionaries, and objects of any other
type.

An object is known by what this library may ask of it: its text, its literal, whether it counts as
true, whether it may be a key, and which number or bytes it gives if it gives any.  Types that are
kinds of the ones above are not told apart from these, and texts that are not Unicode are left out,
as are other containers.

A dictionary keeps its members in the order in which their keys first came.  Two keys are the same
if they are the same text, the same bytes, tuples of the same keys, objects that say the same of
themselves, or numbers of equal value, where a truth value counts as zero or one; a repeated key
keeps its first place and takes the last value.
-/
import Keyring.Bytes
import Keyring.Number.Double
import Keyring.Table

namespace Keyring

open Number (Double Quantity)

/-- What an object of some other type says of itself. -/
structure Object where
  /-- The text that the object gives, unless it fails to. -/
  text? : Option String
  /-- The literal that the object gives, unless it fails to. -/
  literal? : Option String
  isTrue : Bool := true
  isKey : Bool := true
  /-- The number with a point that the object counts as. -/
  real? : Option Double := none
  /-- The whole number that is left of the object without what is behind the point. -/
  whole? : Option Int := none
  /-- The whole number that the object is. -/
  index? : Option Int := none
  /-- The bytes that the object holds. -/
  bytes? : Option Bytes := none
  /-- The truth value that the object equals. -/
  truth? : Option Bool := none
  /-- What equals a truth value counts as zero or one. -/
  real_of_truth : ∀ b, truth? = some b →
    ∃ x, real? = some x ∧ x.quantity.eq (.ofInt (if b then 1 else 0)) = true := by nofun
deriving DecidableEq

/-- An object that gives this text and this literal, and counts as no value of another type. -/
def Object.saying (text? literal? : Option String) : Object :=
  { text?, literal? }

/-- A value of a claim, a log field or a setting. -/
inductive Value where
  | null
  | bool (b : Bool)
  | int (i : Int)
  | float (x : Double)
  | text (s : String)
  | bytes (b : Bytes)
  | list (items : List Value)
  | tuple (items : List Value)
  | dict (members : List (Value × Value))
  | object (o : Object)

instance : Inhabited Value := ⟨.null⟩

/-- The members of a dictionary in order, each a key and a value. -/
abbrev Members := List (Value × Value)

/-- Values under names, in order. -/
abbrev Fields := List (String × Value)

namespace Value

/-- The number that the value counts as, if it counts as one. -/
def quantity? : Value → Option Quantity
  | .bool b => some (.ofInt (if b then 1 else 0))
  | .int i => some (.ofInt i)
  | .float x => some x.quantity
  | _ => none

/-- Whether two values count as numbers and are equal. -/
def sameNumber (x y : Value) : Bool :=
  match x.quantity?, y.quantity? with
  | some a, some b => a.eq b
  | _, _ => false

/-- Whether the value equals a truth value. -/
def equalsTruth (v : Value) (b : Bool) : Bool :=
  match v with
  | .object o => o.truth? == some b
  | v => v.sameNumber (.bool b)

mutual

/-- Whether two values are the same key. -/
def sameKey : Value → Value → Bool
  | .null, .null => true
  | .text s, .text t => s == t
  | .bytes a, .bytes b => a == b
  | .tuple xs, .tuple ys => sameKeys xs ys
  | .object o, .object o' => o == o'
  | x, y => sameNumber x y

/-- Whether two lists hold the same keys in the same places. -/
def sameKeys : List Value → List Value → Bool
  | [], [] => true
  | x :: xs, y :: ys => sameKey x y && sameKeys xs ys
  | _, _ => false

end

mutual

/-- Whether the value may be a key: no list and no dictionary, no object that may not, nor a tuple
that holds one of these. -/
def isKey : Value → Bool
  | .list _ => false
  | .dict _ => false
  | .tuple xs => areKeys xs
  | .object o => o.isKey
  | _ => true

/-- Whether all the values may be keys. -/
def areKeys : List Value → Bool
  | [] => true
  | x :: xs => isKey x && areKeys xs

end

/-- Whether the value is nothing. -/
def isNull : Value → Bool
  | .null => true
  | _ => false

/-- Whether the value counts as true: everything but nothing, zero, what is empty, and an object
that says otherwise. -/
def isTrue : Value → Bool
  | .null => false
  | .bool b => b
  | .int i => i != 0
  | .float x => !x.quantity.eq (.ofInt 0)
  | .text s => !s.isEmpty
  | .bytes b => !b.isEmpty
  | .list xs => !xs.isEmpty
  | .tuple xs => !xs.isEmpty
  | .dict ms => !ms.isEmpty
  | .object o => o.isTrue

/-- Induction over values: a property that passes from the items of a list or a tuple, and from the
values in a dictionary, to the whole holds of every value.  The keys of a dictionary do not count.
-/
@[elab_as_elim]
theorem induction {motive : Value → Prop}
    (null : motive .null)
    (bool : ∀ b, motive (.bool b))
    (int : ∀ i, motive (.int i))
    (float : ∀ x, motive (.float x))
    (text : ∀ s, motive (.text s))
    (bytes : ∀ b, motive (.bytes b))
    (list : ∀ items, (∀ x ∈ items, motive x) → motive (.list items))
    (tuple : ∀ items, (∀ x ∈ items, motive x) → motive (.tuple items))
    (dict : ∀ ms, (∀ m ∈ ms, motive m.2) → motive (.dict ms))
    (object : ∀ o, motive (.object o)) (v : Value) : motive v :=
  @Value.rec motive (fun items => ∀ x ∈ items, motive x) (fun ms => ∀ m ∈ ms, motive m.2)
    (fun m => motive m.2) null bool int float text bytes list tuple dict object
    (fun _ h => nomatch h) (fun _ _ hx hxs => List.forall_mem_cons.2 ⟨hx, hxs⟩)
    (fun _ h => nomatch h) (fun _ _ hm hms => List.forall_mem_cons.2 ⟨hm, hms⟩)
    (fun _ _ _ h => h) v

end Value

namespace Members

/-- Puts a value under a key, in the key's place or else at the end. -/
def insert (ms : Members) (key value : Value) : Members :=
  match ms with
  | [] => [(key, value)]
  | (k, v) :: rest => if k.sameKey key then (k, value) :: rest else (k, v) :: insert rest key value

/-- The dictionary in which the pairs are put one after the other. -/
def ofPairs (pairs : List (Value × Value)) : Members :=
  pairs.foldl (fun ms (k, v) => ms.insert k v) []

end Members

namespace Fields

/-- Puts a value under a name. -/
def insert (fs : Fields) (name : String) (value : Value) : Fields :=
  Named.put name value fs

/-- Puts the fields of `more` one after the other. -/
def update (fs more : Fields) : Fields :=
  Named.putAll fs more

/-- The fields with the names as keys. -/
def toMembers (fs : Fields) : Members :=
  fs.map fun (n, v) => (.text n, v)

end Fields

namespace Value

/-- The two items of a value with exactly two: of a list, a tuple, a text of two characters, two
bytes, or the two keys of a dictionary. -/
def pair? : Value → Option (Value × Value)
  | .list [a, b] => some (a, b)
  | .tuple [a, b] => some (a, b)
  | .dict [(a, _), (b, _)] => some (a, b)
  | .bytes [a, b] => some (.int a.toNat, .int b.toNat)
  | .text s =>
    match s.toList with
    | [a, b] => some (.text (String.singleton a), .text (String.singleton b))
    | _ => none
  | _ => none

/-- The members that a list of pairs makes, if every first item may be a key. -/
def membersOfItems? (items : List Value) : Option Members := do
  let pairs ← items.mapM pair?
  if pairs.all (·.1.isKey) then some (Members.ofPairs pairs) else none

/-- The members that a value stands for: a dictionary its own, a list or tuple of pairs those
pairs, and empty text or bytes none. -/
def members? : Value → Option Members
  | .dict ms => some ms
  | .list items => membersOfItems? items
  | .tuple items => membersOfItems? items
  | .text s => if s.isEmpty then some [] else none
  | .bytes b => if b.isEmpty then some [] else none
  | _ => none

end Value

end Keyring
