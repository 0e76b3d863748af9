/-
# Messages with places for arguments

A message marks the places of its arguments with a percent sign: behind it may stand a key in
brackets, flags, a width, a precision, a length, which means nothing, and at last the letter that
says how the argument is written.  A star for the width or for the precision takes an argument.

* `Supply` is what arguments are taken from.
* `Conversion` is what stands before the letter; `Conversion.write` writes an argument.
* `Reading.step` reads one character of a message, and `fill` a whole one.

Arguments are taken one after the other.  With a key the argument is looked up in the dictionary
that was given for the arguments; a dictionary need not be used up, and everything else has to be.

Left out are characters of surrogate pairs by their numbers, which are written as the replacement
character, and texts that are too large for the memory.
-/
import Keyring.Number.Places
import Keyring.Value.Literal

namespace Keyring.Log

open Number (Double)

/-! ## Arguments -/

/-- What a message takes its arguments from. -/
structure Supply where
  /-- The arguments that were not taken yet. -/
  left : List Value
  /-- What keys are looked up in. -/
  source? : Option Value := none

namespace Supply

/-- The arguments of a message: the items of a tuple, or else one.  A list and bytes count as
something to look keys up in, though they have none. -/
def ofArguments : Value → Supply
  | .tuple items => { left := items }
  | .dict ms => { left := [.dict ms], source? := some (.dict ms) }
  | .list items => { left := [.list items], source? := some (.list items) }
  | .bytes b => { left := [.bytes b], source? := some (.bytes b) }
  | v => { left := [v] }

/-- The next argument. -/
def take (s : Supply) : Except Failure (Value × Supply) :=
  match s.left with
  | [] => throw .mismatch
  | v :: rest => pure (v, { s with left := rest })

/-- The next argument, if it is a whole number. -/
def takeInt (s : Supply) : Except Failure (Int × Supply) := do
  match ← s.take with
  | (.int i, s) => pure (i, s)
  | (.bool b, s) => pure (if b then 1 else 0, s)
  | _ => throw .mismatch

/-- Looks a key up; what is found is the next argument, and the only one. -/
def lookup (s : Supply) (key : String) : Except Failure Supply :=
  match s.source? with
  | some (.dict ms) =>
    match ms.find? fun m => m.1.sameKey (.text key) with
    | some m => pure { s with left := [m.2] }
    | none => throw .missing
  | _ => throw .mismatch

/-- Nothing that was looked up is left. -/
def isSettled (s : Supply) : Bool :=
  s.source?.isNone || s.left.isEmpty

/-- Nothing is left that has to be used. -/
def isUsed (s : Supply) : Bool :=
  s.source?.isSome || s.left.isEmpty

end Supply

/-! ## Numbers and characters -/

/-- The whole number that a value is. -/
def integer : Value → Except Failure Int
  | .int i => pure i
  | .bool b => pure (if b then 1 else 0)
  | .object o => o.index?.elim (throw .mismatch) pure
  | _ => throw .mismatch

/-- The whole number that a value counts as; what is behind the point does not count. -/
def wholeNumber : Value → Except Failure Int
  | .float (.infinite _) => throw .infinite
  | .float x => x.truncate?.elim (throw .range) pure
  | .object o => o.whole?.elim (throw .mismatch) pure
  | v => integer v

/-- The double-precision number that a value counts as. -/
def realNumber : Value → Except Failure Double
  | .float x => pure x
  | .object o => o.real?.elim (throw .mismatch) pure
  | v => do
    let i ← integer v
    match Double.ofDecimal (i < 0) (.ofScaled i.natAbs 0) with
    | .infinite _ => throw .infinite
    | x => pure x

/-- The character that a value is, or that has its number. -/
def character : Value → Except Failure Char
  | .text s =>
    match s.toList with
    | [c] => pure c
    | _ => throw .mismatch
  | v => do
    let i ← integer v
    if i < 0 ∨ 0x110000 ≤ i then throw .infinite
    else if 0xD800 ≤ i ∧ i < 0xE000 then pure '\ufffd'
    else pure (Char.ofNat i.toNat)

/-- A character of a literal in ASCII. -/
def asciiChar (c : Char) : List Char :=
  if c.toNat < 0x80 then [c] else Value.numberEscape c

/-! ## Conversions -/

/-- What stands before the letter of a conversion. -/
structure Conversion where
  /-- The place is filled up on the right. -/
  leftmost : Bool := false
  /-- Positive numbers have a sign. -/
  signed : Bool := false
  /-- Positive numbers have a space for the sign. -/
  spaced : Bool := false
  /-- Numbers show their base, or keep the point. -/
  alternate : Bool := false
  /-- Numbers are filled up with zeros. -/
  zeros : Bool := false
  width : Nat := 0
  precision? : Option Nat := none

namespace Conversion

variable (c : Conversion)

/-- What stands for the sign of a number. -/
def sign (negative : Bool) : List Char :=
  if negative then ['-'] else if c.signed then ['+'] else if c.spaced then [' '] else []

/-- Fills up to the width.  Zeros stand between what is in front of a number and its digits. -/
def pad (numeric : Bool) (front body : List Char) : List Char :=
  let missing := c.width - (front.length + body.length)
  if c.leftmost then front ++ body ++ List.replicate missing ' '
  else if numeric && c.zeros then front ++ List.replicate missing '0' ++ body
  else List.replicate missing ' ' ++ front ++ body

/-- A text, cut to the precision. -/
def text (cs : List Char) : List Char :=
  c.pad false [] (c.precision?.elim cs cs.take)

/-- The most digits that may be asked for in a whole number. -/
def maxPrecision : Nat := 2147483644

/-- A whole number in a base, with the mark of the base if that is asked for. -/
def whole (base : Nat) (mark : List Char) (i : Int) : Except Failure (List Char) :=
  if c.precision?.any (maxPrecision < ·) then throw .infinite
  else if base = 10 ∧ ¬Number.IsShort i then throw .range
  else
    let front := c.sign (i < 0) ++ if c.alternate then mark else []
    pure (c.pad true front (Number.paddedDigits base (c.precision?.getD 0) i.natAbs))

/-- A double-precision number in one of the three forms. -/
def real (form : Bool → Nat → Nat → Nat → List Char) (x : Double) : List Char :=
  let places := c.precision?.getD 6
  match x with
  | .nan => c.pad true (c.sign false) "nan".toList
  | .infinite negative => c.pad true (c.sign negative) "inf".toList
  | .finite negative _ =>
    match x.quantity with
    | .ratio n d => c.pad true (c.sign negative) (form c.alternate places n.natAbs d)
    | _ => c.pad true (c.sign negative) "inf".toList

/-- Writes an argument as the letter says. -/
def write (letter : Char) (v : Value) : Except Failure (List Char) := do
  match letter with
  | 's' => return c.text (← v.display).toList
  | 'r' => return c.text (← v.literalChars)
  | 'a' => return c.text ((← v.literalChars).flatMap asciiChar)
  | 'd' | 'i' | 'u' => c.whole 10 [] (← wholeNumber v)
  | 'o' => c.whole 8 ['0', 'o'] (← integer v)
  | 'x' => c.whole 16 ['0', 'x'] (← integer v)
  | 'X' => return (← c.whole 16 ['0', 'x'] (← integer v)).map Char.toUpper
  | 'f' => return c.real Number.fixed (← realNumber v)
  | 'F' => return (c.real Number.fixed (← realNumber v)).map Char.toUpper
  | 'e' => return c.real Number.scientific (← realNumber v)
  | 'E' => return (c.real Number.scientific (← realNumber v)).map Char.toUpper
  | 'g' => return c.real Number.general (← realNumber v)
  | 'G' => return (c.real Number.general (← realNumber v)).map Char.toUpper
  | 'c' => return c.pad false [] [← character v]
  | _ => throw .range

end Conversion

/-! ## Reading -/

/-- Where in a message a character stands. -/
inductive Phase where
  | text
  /-- Behind a percent sign. -/
  | start
  /-- In a key, in so many open brackets, behind these characters. -/
  | key (depth : Nat) (name : List Char)
  | flags
  | width
  /-- Behind the width. -/
  | pastWidth
  /-- Behind the point before a precision. -/
  | point
  | precision
  /-- Behind the precision. -/
  | pastPrecision
  /-- Behind a length. -/
  | letter

/-- What was read of a message. -/
structure Reading where
  supply : Supply
  written : List Char := []
  phase : Phase := .text
  conversion : Conversion := {}

namespace Reading

/-- The value of a digit. -/
def digit? (c : Char) : Option Nat :=
  if c.isDigit then some (c.toNat - 48) else none

/-- A number with one more digit, unless it is too large. -/
def extend (limit n d : Nat) : Except Failure Nat :=
  if limit < n * 10 + d then throw .range else pure (n * 10 + d)

/-- The largest width, and one less than the largest negative one. -/
def maxWidth : Nat := 0x7FFFFFFFFFFFFFFF

/-- The largest precision, and one less than the largest negative one. -/
def maxStated : Nat := 0x7FFFFFFF

/-- Whether a number lies between a limit and its negative, or one below that. -/
def within (limit : Nat) (i : Int) : Bool :=
  -limit - 1 ≤ i && i ≤ limit

/-- The letter of a conversion writes the next argument. -/
def letter (r : Reading) (c : Char) : Except Failure Reading := do
  let (v, supply) ← r.supply.take
  let cs ← r.conversion.write c v
  if supply.isSettled then pure { supply, written := r.written ++ cs } else throw .mismatch

/-- A length, or what comes behind it. -/
def length (r : Reading) (c : Char) : Except Failure Reading :=
  if c = 'h' ∨ c = 'l' ∨ c = 'L' then pure { r with phase := .letter } else r.letter c

/-- A digit of the precision, or what comes behind it. -/
def precision (r : Reading) (c : Char) : Except Failure Reading := do
  match digit? c with
  | some d =>
    let n ← extend maxStated (r.conversion.precision?.getD 0) d
    pure { r with phase := .precision, conversion := { r.conversion with precision? := some n } }
  | none => r.length c

/-- The first character of a precision; without one it is zero. -/
def point (r : Reading) (c : Char) : Except Failure Reading := do
  let conversion := { r.conversion with precision? := some 0 }
  if c = '*' then
    let (i, supply) ← r.supply.takeInt
    if !within maxStated i then throw .infinite
    let conversion := { conversion with precision? := some i.toNat }
    pure { r with supply, phase := .pastPrecision, conversion }
  else ({ r with conversion } : Reading).precision c

/-- The point before a precision, or what comes behind it. -/
def pastWidth (r : Reading) (c : Char) : Except Failure Reading :=
  if c = '.' then pure { r with phase := .point } else r.length c

/-- A digit of the width, or what comes behind it. -/
def width (r : Reading) (c : Char) : Except Failure Reading := do
  match digit? c with
  | some d =>
    let n ← extend maxWidth r.conversion.width d
    pure { r with phase := .width, conversion := { r.conversion with width := n } }
  | none => r.pastWidth c

/-- The first character of a width; a negative one fills up on the right, but for the least one,
which counts as none. -/
def firstOfWidth (r : Reading) (c : Char) : Except Failure Reading := do
  if c = '*' then
    let (i, supply) ← r.supply.takeInt
    if !within maxWidth i then throw .infinite
    let conversion := { r.conversion with
      leftmost := r.conversion.leftmost || i < 0
      width := if i.natAbs ≤ maxWidth then i.natAbs else 0 }
    pure { r with supply, phase := .pastWidth, conversion }
  else r.width c

/-- A flag, or what comes behind the flags. -/
def flag (r : Reading) (c : Char) : Except Failure Reading :=
  let noted (conversion : Conversion) : Except Failure Reading :=
    pure { r with phase := .flags, conversion }
  match c with
  | '-' => noted { r.conversion with leftmost := true }
  | '+' => noted { r.conversion with signed := true }
  | ' ' => noted { r.conversion with spaced := true }
  | '#' => noted { r.conversion with alternate := true }
  | '0' => noted { r.conversion with zeros := true }
  | c => r.firstOfWidth c

/-- What comes behind a percent sign: another one stands for itself. -/
def start (r : Reading) (c : Char) : Except Failure Reading :=
  if c = '%' then pure { r with phase := .text, written := r.written ++ ['%'] }
  else if c = '(' then
    if r.supply.source?.isSome then pure { r with phase := .key 0 [] } else throw .mismatch
  else r.flag c

/-- A character of a key; brackets in it are in pairs. -/
def key (r : Reading) (depth : Nat) (name : List Char) (c : Char) : Except Failure Reading := do
  if c = '(' then pure { r with phase := .key (depth + 1) (name ++ [c]) }
  else if c = ')' then
    match depth with
    | 0 => pure { r with phase := .flags, supply := ← r.supply.lookup (String.ofList name) }
    | depth + 1 => pure { r with phase := .key depth (name ++ [c]) }
  else pure { r with phase := .key depth (name ++ [c]) }

/-- Reads a character of a message. -/
def step (r : Reading) (c : Char) : Except Failure Reading :=
  match r.phase with
  | .text =>
    if c = '%' then pure { r with phase := .start, conversion := {} }
    else pure { r with written := r.written ++ [c] }
  | .start => r.start c
  | .key depth name => r.key depth name c
  | .flags => r.flag c
  | .width => r.width c
  | .pastWidth => r.pastWidth c
  | .point => r.point c
  | .precision => r.precision c
  | .pastPrecision => r.length c
  | .letter => r.letter c

end Reading

/-- The message with its arguments in their places. -/
def fill (message : List Char) (args : Value) : Except Failure (List Char) := do
  let r ← message.foldlM Reading.step { supply := .ofArguments args }
  match r.phase with
  | .text => if r.supply.isUsed then pure r.written else throw .mismatch
  | _ => throw .range

end Keyring.Log
