/-
# Nodes on one line

Quoted and plain scalars, and sequences and mappings in brackets, as they stand on one line.  Every
reader takes the characters from its node on and returns those behind it.

A plain scalar ends before a colon that a blank follows, before a number sign that follows a blank,
and before a tab; within brackets also before a comma, a question mark or a bracket.
-/
import Keyring.Yaml.Scalar

namespace Keyring.Yaml

/-- The failure of a document that does not follow the grammar. -/
def malformed {α : Type} : Except Failure α := .error .document

/-- Leaves out the spaces at the front. -/
def skipSpaces (cs : List Char) : List Char :=
  cs.dropWhile (· = ' ')

/-- Leaves out the spaces at the end. -/
def dropTrailingSpaces (cs : List Char) : List Char :=
  (skipSpaces cs.reverse).reverse

/-- Whether nothing but spaces and a comment is left. -/
def isRestEmpty (cs : List Char) : Bool :=
  match skipSpaces cs with
  | [] => true
  | c :: _ => c == '#'

/-- Whether the line ends here or a blank follows. -/
def blankFollows : List Char → Bool
  | [] => true
  | c :: _ => c == ' ' || c == '\t'

/-! ## Quoted scalars -/

/-- The characters up to the closing single quote; two quotes stand for one. -/
def singleQuoted : List Char → Except Failure (List Char × List Char)
  | '\'' :: '\'' :: cs => (singleQuoted cs).map fun (s, rest) => ('\'' :: s, rest)
  | '\'' :: rest => .ok ([], rest)
  | c :: cs => (singleQuoted cs).map fun (s, rest) => (c :: s, rest)
  | [] => malformed

/-- The characters that a letter after a backslash stands for. -/
def escapes : List (Char × Nat) :=
  [('0', 0x00), ('a', 0x07), ('b', 0x08), ('t', 0x09), ('\t', 0x09), ('n', 0x0A), ('v', 0x0B),
    ('f', 0x0C), ('r', 0x0D), ('e', 0x1B), (' ', 0x20), ('"', 0x22), ('/', 0x2F), ('\\', 0x5C),
    ('N', 0x85), ('_', 0xA0), ('L', 0x2028), ('P', 0x2029)]

/-- The letters after a backslash that hexadecimal digits follow, and how many. -/
def hexEscapes : List (Char × Nat) := [('x', 2), ('u', 4), ('U', 8)]

/-- Reads so many hexadecimal digits. -/
def hexDigits? : Nat → List Char → Option (Nat × List Char)
  | count, cs =>
    let ds := cs.take count
    if ds.length = count && ds.all (fun c => (Bytes.hexValue? c).isSome) then
      some ((ds.filterMap Bytes.hexValue?).foldl (fun acc d => acc * 16 + d) 0, cs.drop count)
    else none

/-- Reads what follows a backslash. -/
def escape : List Char → Except Failure (Char × List Char)
  | [] => malformed
  | c :: cs =>
    match escapes.lookup c, hexEscapes.lookup c with
    | some n, _ => .ok (Char.ofNat n, cs)
    | none, some count =>
      match hexDigits? count cs with
      | some (n, rest) => if n.isValidChar then .ok (Char.ofNat n, rest) else malformed
      | none => malformed
    | none, none => malformed

/-- The characters up to the closing double quote, reading at most so many. -/
def doubleQuoted : (fuel : Nat) → List Char → Except Failure (List Char × List Char)
  | 0, _ => malformed
  | _, [] => malformed
  | _, '"' :: rest => .ok ([], rest)
  | fuel + 1, '\\' :: cs => do
    let (c, cs) ← escape cs
    let (s, rest) ← doubleQuoted fuel cs
    pure (c :: s, rest)
  | fuel + 1, c :: cs => (doubleQuoted fuel cs).map fun (s, rest) => (c :: s, rest)

/-! ## Plain scalars -/

/-- The characters that end a plain scalar within brackets. -/
def flowEnders : List Char := [',', '?', '[', ']', '{', '}']

/-- Whether a colon before these characters ends a plain scalar. -/
def colonEnds (inBrackets : Bool) (cs : List Char) : Bool :=
  blankFollows cs || (inBrackets && (cs.head?.any fun c => [',', '[', ']', '{', '}'].contains c))

/-- The characters of a plain scalar with the spaces behind it, and the rest. -/
def plainSpan (inBrackets : Bool) : (afterBlank : Bool) → List Char → List Char × List Char
  | _, [] => ([], [])
  | afterBlank, c :: cs =>
    if c = '\t' || (c = '#' && afterBlank) || (c = ':' && colonEnds inBrackets cs)
        || (inBrackets && flowEnders.contains c) then
      ([], c :: cs)
    else
      let (s, rest) := plainSpan inBrackets (c = ' ') cs
      (c :: s, rest)

/-- The characters that begin something else than a plain scalar. -/
def indicators : List Char :=
  ['-', '?', ':', ',', '[', ']', '{', '}', '#', '&', '*', '!', '|', '>', '\'', '"', '%', '@',
    '\x60', '\t']

/-- Whether a plain scalar begins here. -/
def plainBegins (inBrackets : Bool) : List Char → Bool
  | [] => false
  | c :: cs =>
    !indicators.contains c
      || ((c == '-' || (!inBrackets && (c == '?' || c == ':'))) && !blankFollows cs)

/-- Reads a plain scalar. -/
def plainScalar (inBrackets : Bool) (cs : List Char) : Except Failure (Node × List Char) :=
  if plainBegins inBrackets cs then do
    let (s, rest) := plainSpan inBrackets false cs
    pure (← plain (dropTrailingSpaces s), rest)
  else malformed

/-! ## Brackets -/

/-- Whether a node may be a key. -/
def Node.isKey : Node → Bool
  | .sequence => false
  | .mapping => false
  | _ => true

mutual

/-- Reads a node; the fuel bounds the number of nodes. -/
def node (inBrackets : Bool) : (fuel : Nat) → List Char → Except Failure (Node × List Char)
  | 0, _ => malformed
  | fuel + 1, cs =>
    match cs with
    | '[' :: cs => (items fuel cs).map fun rest => (.sequence, rest)
    | '{' :: cs => (members fuel cs).map fun (_, rest) => (.mapping, rest)
    | '\'' :: cs => (singleQuoted cs).map fun (s, rest) => (.text (String.ofList s), rest)
    | '"' :: cs =>
      (doubleQuoted cs.length cs).map fun (s, rest) => (.text (String.ofList s), rest)
    | cs => plainScalar inBrackets cs

/-- Reads the items of a sequence and its closing bracket. -/
def items : (fuel : Nat) → List Char → Except Failure (List Char)
  | 0, _ => malformed
  | fuel + 1, cs =>
    match skipSpaces cs with
    | ']' :: rest => .ok rest
    | cs => do
      let (key, rest) ← if cs.head? = some ':' then pure (.null, cs) else node true fuel cs
      let rest ←
        match skipSpaces rest with
        | ':' :: rest => do
          if !key.isKey then malformed
          let (_, rest) ← memberValue fuel rest
          pure rest
        | rest => pure rest
      match skipSpaces rest with
      | ',' :: rest => items fuel rest
      | ']' :: rest => .ok rest
      | _ => malformed

/-- Reads the value of a member, which may be missing. -/
def memberValue : (fuel : Nat) → List Char → Except Failure (Node × List Char)
  | 0, _ => malformed
  | fuel + 1, cs =>
    match skipSpaces cs with
    | [] => malformed
    | c :: rest =>
      if c = ',' ∨ c = ']' ∨ c = '}' then .ok (.null, c :: rest) else node true fuel (c :: rest)

/-- Reads the members of a mapping and its closing bracket. -/
def members : (fuel : Nat) → List Char → Except Failure (List (Node × Node) × List Char)
  | 0, _ => malformed
  | fuel + 1, cs =>
    match skipSpaces cs with
    | '}' :: rest => .ok ([], rest)
    | cs => do
      let (key, rest) ← if cs.head? = some ':' then pure (.null, cs) else node true fuel cs
      if !key.isKey then malformed
      let (value, rest) ←
        match skipSpaces rest with
        | ':' :: rest => memberValue fuel rest
        | rest => pure (.null, rest)
      match skipSpaces rest with
      | ',' :: rest => (members fuel rest).map fun (ms, rest) => ((key, value) :: ms, rest)
      | '}' :: rest => .ok ([(key, value)], rest)
      | _ => malformed

end

/-- Reads a node at the front of a line. -/
def lineNode (cs : List Char) : Except Failure (Node × List Char) :=
  node false (2 * cs.length + 2) cs

/-- The key at the front of a line and what follows its colon, if the line begins with a key. -/
def lineKey? (cs : List Char) : Except Failure (Option (Node × List Char)) :=
  if cs.head? = some ':' && blankFollows (cs.drop 1) then .ok (some (.null, cs.drop 1))
  else do
    let (key, rest) ← lineNode cs
    match skipSpaces rest with
    | ':' :: rest =>
      if blankFollows rest then
        if key.isKey then pure (some (key, rest)) else malformed
      else pure none
    | _ => pure none

end Keyring.Yaml
