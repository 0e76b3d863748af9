/-
# Plain scalars

A YAML scalar without quotes stands for nothing, a truth value, a whole number, a number with a
point, a date or a text, whichever form it first fits:

* nothing: `~`, `null`, or no characters at all;
* truth: `yes`, `no`, `true`, `false`, `on`, `off`, in small letters, in capitals or capitalised;
* whole numbers: decimal, `0b…`, `0x…`, octal with a leading zero, or in base sixty with colons;
  underscores do not count;
* numbers with a point, an exponent with its sign if at all, or `.inf` and `.nan`;
* dates: four, two and two digits, perhaps with a time of day.
-/
import Keyring.Bytes
import Keyring.Error
import Keyring.Number.Double

namespace Keyring.Yaml

open Number (Double Decimal)

/-- What a node of a document stands for, as far as settings need it. -/
inductive Node where
  | null
  | bool (b : Bool)
  | int (i : Int)
  | float (x : Double)
  | text (s : String)
  | date (spelling : String)
  | sequence
  | mapping
deriving DecidableEq

/-! ## Forms -/

/-- The three ways to write a word: in small letters, capitalised, in capitals. -/
def spellings (word : String) : List String :=
  [word, word.capitalize, word.map Char.toUpper]

/-- The words for nothing. -/
def nullWords : List String := "~" :: spellings "null"

/-- The words for truth. -/
def trueWords : List String := ["yes", "true", "on"].flatMap spellings

/-- The words for falsehood. -/
def falseWords : List String := ["no", "false", "off"].flatMap spellings

/-- Leaves out a sign, and tells whether it is a minus. -/
def splitSign : List Char → Bool × List Char
  | '-' :: cs => (true, cs)
  | '+' :: cs => (false, cs)
  | cs => (false, cs)

/-- The digits without the underscores between them. -/
def withoutUnderscores (cs : List Char) : List Char :=
  cs.filter (· ≠ '_')

/-- Whether the character is a decimal digit or an underscore. -/
def isDigitOrUnderscore (c : Char) : Bool :=
  c.isDigit || c == '_'

/-- Whether there are a digit and then digits and underscores. -/
def isDigitRun : List Char → Bool
  | [] => false
  | c :: cs => c.isDigit && cs.all isDigitOrUnderscore

/-- Whether the characters are one digit, or a digit up to five and another one. -/
def isSixtieth : List Char → Bool
  | [a] => a.isDigit
  | [a, b] => '0' ≤ a && a ≤ '5' && b.isDigit
  | _ => false

/-- The pieces between the colons. -/
def splitColons (cs : List Char) : List (List Char) :=
  cs.foldr (fun c pieces =>
    match pieces with
    | [] => [[c]]
    | p :: ps => if c = ':' then [] :: p :: ps else (c :: p) :: ps) [[]]

/-- The value of digits in a base; none without digits. -/
def valueIn (base : Nat) (cs : List Char) : Except Failure Nat :=
  let digits := cs.filterMap Bytes.hexValue?
  if digits.isEmpty then .error .range else .ok (digits.foldl (fun acc d => acc * base + d) 0)

/-- The value of pieces in base sixty. -/
def sexagesimal (pieces : List (List Char)) : Nat :=
  pieces.foldl (fun acc p => acc * 60 + Double.natOfDigits p) 0

/-- A whole number, if the scalar has the form of one. -/
def int? (cs : List Char) : Option (Except Failure Int) :=
  let (negative, body) := splitSign cs
  let signed (n : Except Failure Nat) : Except Failure Int :=
    n.map fun n => if negative then -(n : Int) else n
  let digits := withoutUnderscores body
  match body with
  | '0' :: 'b' :: r =>
    if !r.isEmpty && r.all (fun c => c == '0' || c == '1' || c == '_') then
      some (signed (valueIn 2 (withoutUnderscores r)))
    else none
  | '0' :: 'x' :: r =>
    if !r.isEmpty && r.all (fun c => (Bytes.hexValue? c).isSome || c == '_') then
      some (signed (valueIn 16 (withoutUnderscores r)))
    else none
  | '0' :: r =>
    if r.isEmpty then some (.ok 0)
    else if r.all (fun c => ('0' ≤ c && c ≤ '7') || c == '_') then
      some (signed (valueIn 8 digits))
    else none
  | _ =>
    match splitColons body with
    | [whole] => if isDigitRun whole then some (signed (valueIn 10 digits)) else none
    | whole :: pieces =>
      if isDigitRun whole && pieces.all isSixtieth then
        some (signed (.ok (sexagesimal (withoutUnderscores whole :: pieces))))
      else none
    | [] => none

/-- Whether the characters are an exponent with a sign, or nothing. -/
def isExponent : List Char → Bool
  | [] => true
  | e :: s :: ds =>
    (e == 'e' || e == 'E') && (s == '-' || s == '+') && !ds.isEmpty && ds.all Char.isDigit
  | _ => false

/-- A number with a point in base sixty: the pieces before it and the digits behind it. -/
def sexagesimalFloat (negative : Bool) (pieces : List (List Char)) (fraction : List Char) :
    Double :=
  let digits := sexagesimal pieces * Nat.pow 10 fraction.length + Double.natOfDigits fraction
  .ofDecimal negative (.ofScaled digits (-fraction.length))

/-- A number with a point, if the scalar has the form of one. -/
def float? (cs : List Char) : Option Double :=
  let (negative, body) := splitSign cs
  if [".inf", ".Inf", ".INF"].contains (String.ofList body) then some (.infinite negative)
  else if [".nan", ".NaN", ".NAN"].contains (String.ofList cs) then some .nan
  else
    let (whole, rest) := body.span (· ≠ '.')
    match rest with
    | [] => none
    | _ :: rest =>
      let (fraction, power) := rest.span isDigitOrUnderscore
      let decimal : Option Double :=
        (Double.magnitude? (withoutUnderscores body)).map (Double.ofDecimal negative)
      match splitColons whole with
      | [[]] =>
        if cs.head? == some '.' && isDigitRun fraction && isExponent power then decimal else none
      | [whole] => if isDigitRun whole && isExponent power then decimal else none
      | whole :: pieces =>
        if isDigitRun whole && pieces.all isSixtieth && power.isEmpty then
          some (sexagesimalFloat negative (withoutUnderscores whole :: pieces)
            (withoutUnderscores fraction))
        else none
      | [] => none

/-- Whether the year is a leap year. -/
def isLeapYear (year : Nat) : Bool :=
  year % 4 == 0 && (year % 100 != 0 || year % 400 == 0)

/-- The number of days of a month. -/
def daysIn (year month : Nat) : Nat :=
  if month = 2 then (if isLeapYear year then 29 else 28)
  else if month = 4 ∨ month = 6 ∨ month = 9 ∨ month = 11 then 30
  else 31

/-- A number of so many digits, or of one less if that is allowed, and what follows it. -/
def number? (digits : Nat) (short : Bool) (cs : List Char) : Option (Nat × List Char) :=
  let count := ((cs.take digits).takeWhile Char.isDigit).length
  if count = digits ∨ (short ∧ count + 1 = digits) then
    some (Double.natOfDigits (cs.take count), cs.drop count)
  else none

/-- What follows a character. -/
def skip? (c : Char) : List Char → Option (List Char)
  | d :: cs => if d = c then some cs else none
  | [] => none

/-- Whether the calendar has a date. -/
def isDate (year month day : Nat) : Bool :=
  1 ≤ year && 1 ≤ month && month ≤ 12 && 1 ≤ day && day ≤ daysIn year month

/-- A date without a time: whether the calendar has it. -/
def day? (cs : List Char) : Option Bool := do
  let (year, cs) ← number? 4 false cs
  let (month, cs) ← number? 2 false (← skip? '-' cs)
  let (day, cs) ← number? 2 false (← skip? '-' cs)
  if cs.isEmpty then some (isDate year month day) else none

/-- Whether the characters are a blank. -/
def isGap (c : Char) : Bool :=
  c == ' ' || c == '\t'

/-- What follows the mark between a date and a time: a letter, or blanks. -/
def timeAfter? (cs : List Char) : Option (List Char) :=
  match cs with
  | 'T' :: rest => some rest
  | 't' :: rest => some rest
  | c :: rest => if isGap c then some (rest.dropWhile isGap) else none
  | [] => none

/-- A distance from universal time, perhaps left out: whether it is less than a day. -/
def zone? (cs : List Char) : Option Bool :=
  match cs with
  | [] => some true
  | ['Z'] => some true
  | c :: cs =>
    if c = '+' ∨ c = '-' then do
      let (hours, rest) ← number? 2 true cs
      if rest.isEmpty then some (hours < 24)
      else
        let (minutes, rest) ← number? 2 false (← skip? ':' rest)
        if rest.isEmpty then some (hours * 60 + minutes < 24 * 60) else none
    else none

/-- A date with a time: whether calendar and clock have it. -/
def moment? (cs : List Char) : Option Bool := do
  let (year, cs) ← number? 4 false cs
  let (month, cs) ← number? 2 true (← skip? '-' cs)
  let (day, cs) ← number? 2 true (← skip? '-' cs)
  let (hour, cs) ← number? 2 true (← timeAfter? cs)
  let (minute, cs) ← number? 2 false (← skip? ':' cs)
  let (second, cs) ← number? 2 false (← skip? ':' cs)
  let cs := ((skip? '.' cs).map (·.dropWhile Char.isDigit)).getD cs
  let inZone ← zone? (cs.dropWhile isGap)
  some (isDate year month day && hour < 24 && minute < 60 && second < 60 && inZone)

/-- A date, with or without a time, if the scalar has the form of one. -/
def date? (cs : List Char) : Option (Except Failure String) :=
  ((day? cs).or (moment? cs)).map fun valid =>
    if valid then .ok (String.ofList cs) else .error .range

/-- What a scalar without quotes stands for; two spellings are kept for other uses. -/
def plain (cs : List Char) : Except Failure Node :=
  let s := String.ofList cs
  if cs.isEmpty || nullWords.contains s then .ok .null
  else if trueWords.contains s then .ok (.bool true)
  else if falseWords.contains s then .ok (.bool false)
  else if s = "<<" ∨ s = "=" then .error .document
  else
    match float? cs, int? cs, date? cs with
    | some x, _, _ => .ok (.float x)
    | none, some i, _ => i.map .int
    | none, none, some d => d.map .date
    | none, none, none => .ok (.text s)

end Keyring.Yaml
