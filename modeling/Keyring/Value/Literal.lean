/-
# Values as text

* `Value.literalChars` writes a value so that its kind can be told: text and bytes in quotes with
  escapes, containers in their brackets, and an object as it likes.
* `Value.display` writes a text as it is, an object by its text, and every other value as its
  literal.

Quotes are single, unless the text holds a single quote and no double one.  A whole number of more
than 4300 digits is not written, and neither is what holds one; so is what holds an object that
fails to give its literal.
-/
import Keyring.Error
import Keyring.Value.Basic
import Keyring.Text.Printable

namespace Keyring

namespace Object

/-- The text that an object gives. -/
def text (o : Object) : Except Failure String :=
  o.text?.elim (.error .foreign) .ok

/-- The literal that an object gives. -/
def literal (o : Object) : Except Failure String :=
  o.literal?.elim (.error .foreign) .ok

end Object

namespace Value

open Bytes (hexPadded)

/-- The quote for a text with these characters. -/
def quoteFor (cs : List Char) : Char :=
  if cs.contains '\'' && !cs.contains '"' then '"' else '\''

/-- A character by its number, after a backslash. -/
def numberEscape (c : Char) : List Char :=
  if c.toNat < 0x100 then '\\' :: 'x' :: hexPadded 2 c.toNat
  else if c.toNat < 0x10000 then '\\' :: 'u' :: hexPadded 4 c.toNat
  else '\\' :: 'U' :: hexPadded 8 c.toNat

/-- A character within quotes: the backslash and the quote after a backslash, three short escapes,
and what is not printable by its number. -/
def quoteChar (quote c : Char) : List Char :=
  if c = quote ∨ c = '\\' then ['\\', c]
  else if c = '\t' then ['\\', 't']
  else if c = '\n' then ['\\', 'n']
  else if c = '\r' then ['\\', 'r']
  else if Text.isPrintable c then [c]
  else numberEscape c

/-- A text in quotes. -/
def quoteText (cs : List Char) : List Char :=
  let quote := quoteFor cs
  quote :: (cs.flatMap (quoteChar quote) ++ [quote])

/-- A byte within quotes: as the character with its number if that is printable ASCII, else by its
number. -/
def quoteByte (quote : Char) (b : UInt8) : List Char :=
  let c := Char.ofNat b.toNat
  if b.toNat < 0x7F then quoteChar quote c else '\\' :: 'x' :: hexPadded 2 b.toNat

/-- Bytes in quotes, with a `b` in front. -/
def quoteBytes (b : Bytes) : List Char :=
  let quote := quoteFor (b.map fun x => Char.ofNat x.toNat)
  'b' :: quote :: (b.flatMap (quoteByte quote) ++ [quote])

/-- Bytes as text. -/
def bytesText (b : Bytes) : String :=
  String.ofList (quoteBytes b)

/-- A whole number in base ten, unless it has too many digits. -/
def intChars (i : Int) : Except Failure (List Char) :=
  if Number.IsShort i then .ok (toString i).toList else .error .range

mutual

/-- The literal of a value. -/
def literalChars : Value → Except Failure (List Char)
  | .null => pure "None".toList
  | .bool true => pure "True".toList
  | .bool false => pure "False".toList
  | .int i => intChars i
  | .float x => pure x.text.toList
  | .text s => pure (quoteText s.toList)
  | .bytes b => pure (quoteBytes b)
  | .list items => return '[' :: ((← literalItems items) ++ [']'])
  | .tuple [item] => return '(' :: ((← literalChars item) ++ [',', ')'])
  | .tuple items => return '(' :: ((← literalItems items) ++ [')'])
  | .dict ms => return '\x7b' :: ((← literalMembers ms) ++ ['\x7d'])
  | .object o => return (← o.literal).toList

/-- The literals of items, with a comma and a space between them. -/
def literalItems : List Value → Except Failure (List Char)
  | [] => pure []
  | [x] => literalChars x
  | x :: xs => return (← literalChars x) ++ ',' :: ' ' :: (← literalItems xs)

/-- The literal of a member. -/
def literalMember : Value × Value → Except Failure (List Char)
  | (k, v) => return (← literalChars k) ++ ':' :: ' ' :: (← literalChars v)

/-- The literals of members, with a comma and a space between them. -/
def literalMembers : Members → Except Failure (List Char)
  | [] => pure []
  | [m] => literalMember m
  | m :: ms => return (← literalMember m) ++ ',' :: ' ' :: (← literalMembers ms)

end

/-- The value as text. -/
def display : Value → Except Failure String
  | .text s => pure s
  | .object o => o.text
  | v => v.literalChars.map String.ofList

end Value

end Keyring
