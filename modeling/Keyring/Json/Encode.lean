/-
# Values as JSON

One encoder with two styles.

* The *canonical* style is for what is signed or hashed: ASCII only, the members of every
  dictionary sorted by key, and a value that JSON cannot hold is refused.
* The *log* style is for people: members stay in order, characters beyond ASCII stay as they are,
  and a value that JSON cannot hold is written as text.

A whole number of more than 4300 digits is not written in either style.

A key may be a text, a number, a truth value or nothing.  When keys are sorted, texts go by code
points and numbers by value; a text and a number, or nothing and anything else, do not compare, and
then the dictionary is refused.
-/
import Keyring.Value.Literal

namespace Keyring.Json

open Number (Double Quantity)

/-! ## Strings -/

/-- Four hexadecimal digits after `\u`. -/
def unicodeEscape (n : Nat) : List Char :=
  '\\' :: 'u' :: Bytes.hexPadded 4 n

/-- A character by its number: one escape, or above U+FFFF the two of its surrogate pair. -/
def escapeNumber (n : Nat) : List Char :=
  if n < 0x10000 then unicodeEscape n
  else
    unicodeEscape (0xD800 + (n - 0x10000) / 0x400) ++ unicodeEscape (0xDC00 + (n - 0x10000) % 0x400)

/-- A character of a string; with `ascii`, whatever is not printable ASCII is escaped. -/
def escapeChar (ascii : Bool) (c : Char) : List Char :=
  if c = '"' then ['\\', '"']
  else if c = '\\' then ['\\', '\\']
  else if c = '\n' then ['\\', 'n']
  else if c = '\r' then ['\\', 'r']
  else if c = '\t' then ['\\', 't']
  else if c = '\x0c' then ['\\', 'f']
  else if c = '\x08' then ['\\', 'b']
  else if c.toNat < 0x20 || (ascii && 0x7F ≤ c.toNat) then escapeNumber c.toNat
  else [c]

/-- A string in quotes. -/
def string (ascii : Bool) (s : String) : List Char :=
  '"' :: (s.toList.flatMap (escapeChar ascii) ++ ['"'])

/-! ## Numbers and keys -/

/-- A whole number. -/
def int (i : Int) : List Char :=
  (toString i).toList

/-- A double-precision number; the three that are not finite have names. -/
def float : Double → List Char
  | .nan => "NaN".toList
  | .infinite false => "Infinity".toList
  | .infinite true => "-Infinity".toList
  | x => x.text.toList

/-- The text that stands for a key, if it may be one. -/
def keyText : Value → Except Failure String
  | .text s => pure s
  | .null => pure "null"
  | .bool b => pure (if b then "true" else "false")
  | .int i => return String.ofList (← Value.intChars i)
  | .float x => pure (String.ofList (float x))
  | _ => throw .mismatch

/-- A member that is encoded up to its place: the key, and key and value as text. -/
structure Entry where
  key : Value
  text : List Char

/-- Whether one text key may stand before another. -/
def textBefore : Value → Value → Bool
  | .text s, .text t => s ≤ t
  | _, _ => false

/-- Whether one number may stand before another as a key. -/
def numberBefore (x y : Value) : Bool :=
  match x.quantity?, y.quantity? with
  | some a, some b => !b.lt a
  | _, _ => false

/-- Whether the key is text. -/
def isText : Value → Bool
  | .text _ => true
  | _ => false

/-- The members sorted by key, if all keys compare. -/
def sortEntries (es : List Entry) : Except Failure (List Entry) :=
  if es.all fun e => isText e.key then pure (es.mergeSort fun a b => textBefore a.key b.key)
  else if es.all fun e => e.key.quantity?.isSome then
    pure (es.mergeSort fun a b => numberBefore a.key b.key)
  else if es.length ≤ 1 then pure es
  else throw .mismatch

/-- The entries' texts with a comma between them. -/
def joinEntries : List Entry → List Char
  | [] => []
  | [e] => e.text
  | e :: es => e.text ++ ',' :: joinEntries es

/-! ## Values -/

/-- How values are written. -/
structure Style where
  /-- Characters beyond printable ASCII are escaped. -/
  ascii : Bool
  /-- The members of a dictionary are sorted by key. -/
  sorted : Bool
  /-- A value that JSON cannot hold is written as text. -/
  lenient : Bool

/-- The style of what is signed or hashed. -/
def canonical : Style := ⟨true, true, false⟩

/-- The style of log lines. -/
def log : Style := ⟨false, false, true⟩

mutual

/-- A value in a style; a failure is that of the first part that cannot be written. -/
def encode (style : Style) : Value → Except Failure (List Char)
  | .null => pure "null".toList
  | .bool b => pure (if b then "true".toList else "false".toList)
  | .int i => Value.intChars i
  | .float x => pure (float x)
  | .text s => pure (string style.ascii s)
  | .bytes b =>
    if style.lenient then pure (string style.ascii (Value.bytesText b)) else throw .mismatch
  | .list items => return '[' :: ((← encodeItems style items) ++ [']'])
  | .tuple items => return '[' :: ((← encodeItems style items) ++ [']'])
  | .dict ms => do
    let entries ← encodeEntries style ms
    let entries ← if style.sorted then sortEntries entries else pure entries
    pure ('\x7b' :: (joinEntries entries ++ ['\x7d']))
  | .object o =>
    if style.lenient then return string style.ascii (← o.text) else throw .mismatch

/-- Items with a comma between them. -/
def encodeItems (style : Style) : List Value → Except Failure (List Char)
  | [] => pure []
  | [x] => encode style x
  | x :: xs => return (← encode style x) ++ ',' :: (← encodeItems style xs)

/-- Members, each with a colon between key and value. -/
def encodeEntries (style : Style) : Members → Except Failure (List Entry)
  | [] => pure []
  | (k, v) :: ms => do
    let key ← keyText k
    let value ← encode style v
    let rest ← encodeEntries style ms
    pure (⟨k, string style.ascii key ++ ':' :: value⟩ :: rest)

end

/-- A value as canonical JSON text, if JSON can hold it. -/
def canonicalText? (v : Value) : Option String :=
  (encode canonical v).toOption.map String.ofList

/-- A value as the JSON text of a log line. -/
def logText (v : Value) : Except Failure String :=
  return String.ofList (← encode log v)

end Keyring.Json
