/-
# Words from outside

Text that comes from outside is read without the blanks around it, and in letters of either case.
Its lines end with a carriage return, a line feed or both.

* Blank are the characters that Unicode counts as white space and the four information separators
  U+001C to U+001F; the zero-width space is not blank.
* `upper` writes a text in capitals by the full mapping of Unicode: a character may become several
  (`ß` becomes `SS`), and a character without a capital form stays.
* `lower` is for comparing a text with a word of small Latin letters.  Besides the Latin capitals
  only the Kelvin sign has such a letter as its small form, so every other character may stay as
  it is without changing the outcome of a comparison.
-/
import Keyring.Text.Capital

namespace Keyring.Text

/-! ## Blanks -/

/-- The characters that count as blank. -/
def isBlank (c : Char) : Bool :=
  let n := c.toNat
  (0x09 ≤ n && n ≤ 0x0D) || (0x1C ≤ n && n ≤ 0x20) || n == 0x85 || n == 0xA0 || n == 0x1680
    || (0x2000 ≤ n && n ≤ 0x200A) || n == 0x2028 || n == 0x2029 || n == 0x202F || n == 0x205F
    || n == 0x3000

/-- Leaves out the characters satisfying `p` at both ends. -/
def trimBoth (p : Char → Bool) (cs : List Char) : List Char :=
  ((cs.dropWhile p).reverse.dropWhile p).reverse

/-- The text without the blanks at its two ends. -/
def strip (s : String) : String :=
  String.ofList (trimBoth isBlank s.toList)

/-! ## Lines -/

/-- Carriage returns, alone or before a line feed, as line feeds. -/
def withLineFeeds : List Char → List Char
  | '\r' :: '\n' :: cs => '\n' :: withLineFeeds cs
  | '\r' :: cs => '\n' :: withLineFeeds cs
  | c :: cs => c :: withLineFeeds cs
  | [] => []

/-- The text in which every line ends with a line feed. -/
def unifyLineEnds (s : String) : String :=
  String.ofList (withLineFeeds s.toList)

/-! ## Capital and small letters -/

/-- The capital form of a character, which may be written with several characters. -/
def upperChar (c : Char) : List Char :=
  match Capital.expansions.lookup c.toNat with
  | some cs => cs.map Char.ofNat
  | none =>
    match Capital.runs.find? (·.contains c.toNat) with
    | some run => [Char.ofNat (c.toNat + run.distance).toNat]
    | none => [c]

/-- The text in capitals. -/
def upper (s : String) : String :=
  String.ofList (s.toList.flatMap upperChar)

/-- The small Latin letter of which the character is the capital form, or the character itself. -/
def lowerChar (c : Char) : Char :=
  if c = '\u212a' then 'k' else c.toLower

/-- The text with small Latin letters, for comparing it with a word in such letters. -/
def lower (s : String) : String :=
  String.ofList (s.toList.map lowerChar)

end Keyring.Text
