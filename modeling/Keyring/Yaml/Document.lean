/-
# Documents

This is a reader for the part of YAML in which settings files are written.  Whoever loads settings
may use another reader, and nothing is proved from how this one reads.

A file holds one document.  Its lines are read without comments and blank lines; a line `---` may
stand before the document and a line `...` behind it.  What settings need to know of a document is
whether it is a mapping, and if so its keys and values in order.

Block mappings and sequences are told by their indentation: the lines of one collection begin at the
same column, and what belongs to a key or an item is indented further.

Left out, and refused like what is no YAML, are tags, anchors and aliases, merge keys, keys after a
question mark, block scalars, directives, and quoted scalars and brackets that go on over the end of
a line.  Of a sequence or a mapping inside a document only the kind is told.
-/
import Keyring.Value.Basic
import Keyring.Yaml.Inline

namespace Keyring.Yaml

/-- A document, as far as settings need it. -/
inductive Document where
  | mapping (members : List (Node × Node))
  | other
deriving DecidableEq

/-! ## Characters and lines -/

/-- Whether the character may stand in a document. -/
def isAllowed (c : Char) : Bool :=
  let n := c.toNat
  n == 0x09 || n == 0x0A || n == 0x0D || (0x20 ≤ n && n ≤ 0x7E) || n == 0x85
    || (0xA0 ≤ n && n ≤ 0xD7FF) || (0xE000 ≤ n && n ≤ 0xFFFD) || 0x10000 ≤ n

/-- Whether the character ends a line. -/
def isLineEnd (c : Char) : Bool :=
  c == '\n' || c == '\u0085' || c == '\u2028' || c == '\u2029'

/-- The lines of a text. -/
def splitLines (cs : List Char) : List (List Char) :=
  cs.foldr (fun c lines =>
    match lines with
    | [] => [[c]]
    | l :: ls => if isLineEnd c then [] :: l :: ls else (c :: l) :: ls) [[]]

/-- A line with content: how far it is indented, and the content. -/
structure Line where
  indent : Nat
  content : List Char
deriving DecidableEq

/-- The line as content with its indentation; none if it is blank or a comment. -/
def contentLine? (cs : List Char) : Option Line :=
  if isRestEmpty cs then none
  else some ⟨(cs.takeWhile (· = ' ')).length, skipSpaces cs⟩

/-- Whether the line is a marker of these three characters, perhaps with something behind it. -/
def isMarker (mark : Char) (cs : List Char) : Bool :=
  cs.take 3 == [mark, mark, mark] && blankFollows (cs.drop 3)

/-! ## Blocks -/

/-- Whether the content is an item of a block sequence. -/
def isItem : List Char → Bool
  | '-' :: cs => blankFollows cs
  | _ => false

/-- Reads the lines that go on with a plain scalar of a node indented more than `indent`, up to a
comment; returns their texts and the lines behind them. -/
def continuedPlain (indent : Int) : List Line → Except Failure (List (List Char) × List Line)
  | [] => .ok ([], [])
  | l :: ls =>
    if (l.indent : Int) ≤ indent then .ok ([], l :: ls)
    else do
      let (s, behind) := plainSpan false false l.content
      if behind.isEmpty then
        let (more, rest) ← continuedPlain indent ls
        pure (dropTrailingSpaces s :: more, rest)
      else if isRestEmpty behind then pure ([dropTrailingSpaces s], ls)
      else malformed

/-- Reads a plain scalar that belongs to a parent indented by `indent`; its lines are joined with a
space between them. -/
def plainBlock (indent : Int) (content : List Char) (rest : List Line) :
    Except Failure (Node × List Line) := do
  let (pieces, rest) ← continuedPlain indent (⟨(indent + 1).toNat, content⟩ :: rest)
  pure (← plain ([' '].intercalate pieces), rest)

/-- Reads a node that stands on one line or is a plain scalar, and belongs to a parent indented by
`indent`; returns it with the lines behind it. -/
def scalarBlock (indent : Int) (content : List Char) (rest : List Line) :
    Except Failure (Node × List Line) := do
  if plainBegins false content then plainBlock indent content rest
  else
    let (value, behind) ← lineNode content
    if isRestEmpty behind then pure (value, rest) else malformed

mutual

/-- Reads the node that begins on the first line and belongs to a parent indented by `parent`. -/
def block : (fuel : Nat) → (parent : Int) → List Line → Except Failure (Node × List Line)
  | 0, _, _ => malformed
  | _, _, [] => .ok (.null, [])
  | fuel + 1, parent, l :: ls => do
    if isItem l.content then
      pure (.sequence, ← blockItems fuel l.indent (l :: ls))
    else
      match ← lineKey? l.content with
      | some _ =>
        let (_, rest) ← blockMembers fuel l.indent (l :: ls)
        pure (.mapping, rest)
      | none => scalarBlock parent l.content ls

/-- Reads the items of a block sequence at a column. -/
def blockItems : (fuel : Nat) → (indent : Nat) → List Line → Except Failure (List Line)
  | 0, _, _ => malformed
  | _, _, [] => .ok []
  | fuel + 1, indent, l :: ls => do
    if l.indent < indent then pure (l :: ls)
    else if l.indent > indent then malformed
    else if !isItem l.content then pure (l :: ls)
    else
      let behind := l.content.drop 1
      let rest ←
        match contentLine? behind with
        | some inner =>
          let (_, rest) ← block fuel indent (⟨indent + 1 + inner.indent, inner.content⟩ :: ls)
          pure rest
        | none =>
          match ls with
          | [] => pure []
          | next :: _ =>
            if next.indent > indent then
              let (_, rest) ← block fuel indent ls
              pure rest
            else pure ls
      blockItems fuel indent rest

/-- Reads the members of a block mapping at a column. -/
def blockMembers : (fuel : Nat) → (indent : Nat) → List Line →
    Except Failure (List (Node × Node) × List Line)
  | 0, _, _ => malformed
  | _, _, [] => .ok ([], [])
  | fuel + 1, indent, l :: ls => do
    if l.indent < indent then pure ([], l :: ls)
    else if l.indent > indent then malformed
    else
      match ← lineKey? l.content with
      | none => malformed
      | some (key, behind) =>
        let (value, rest) ←
          match contentLine? behind with
          | some inner =>
            if isItem inner.content then malformed
            else scalarBlock indent inner.content ls
          | none =>
            match ls with
            | [] => pure (.null, [])
            | next :: _ =>
              if next.indent > indent || (next.indent == indent && isItem next.content) then
                block fuel indent ls
              else pure (.null, ls)
        let (members, rest) ← blockMembers fuel indent rest
        pure ((key, value) :: members, rest)

end

/-! ## Documents -/

/-- The document in the content lines. -/
def documentOf (lines : List Line) : Except Failure Document :=
  let fuel := 2 * lines.length + 2 * lines.foldl (fun n l => n + l.content.length) 0 + 2
  match lines with
  | [] => .ok .other
  | l :: ls =>
    if l.content.head? = some '\x7b' then do
      let (members, behind) ← members fuel (l.content.drop 1)
      if isRestEmpty behind && ls.isEmpty then pure (.mapping members) else malformed
    else if isItem l.content then do
      let (_, rest) ← block fuel (-1) lines
      if rest.isEmpty then pure .other else malformed
    else do
      match ← lineKey? l.content with
      | some _ =>
        let (members, rest) ← blockMembers fuel l.indent lines
        if rest.isEmpty then pure (.mapping members) else malformed
      | none =>
        let (_, rest) ← scalarBlock (-1) l.content ls
        if rest.isEmpty then pure .other else malformed

/-- Whether nothing or another closing marker is on a line behind the closing marker. -/
def isAfterEnd (l : List Char) : Bool :=
  isRestEmpty l || (isMarker '.' l && isRestEmpty (l.drop 3))

/-- The lines of the document, up to a marker; behind the closing marker no content may come. -/
def documentLines : List (List Char) → Except Failure (List Line)
  | [] => .ok []
  | l :: ls =>
    if isMarker '-' l then malformed
    else if isMarker '.' l then
      if (l.drop 3 :: ls).all isAfterEnd then .ok [] else malformed
    else if l.head? = some '%' then malformed
    else do
      let rest ← documentLines ls
      pure (match contentLine? l with
        | some line => line :: rest
        | none => rest)

/-- The document that follows an opening marker with something behind it on the same line, which
cannot begin a block collection. -/
def afterMarker (behind : List Char) (ls : List (List Char)) : Except Failure Document := do
  let lines ← documentLines ls
  match contentLine? behind with
  | none => documentOf lines
  | some first =>
    let begins := isItem first.content || (← lineKey? first.content).isSome
    if begins && first.content.head? ≠ some '\x7b' then malformed
    else documentOf (first :: lines)

/-- The document among lines: blank lines and comments, perhaps an opening marker, the content. -/
def documentIn : List (List Char) → Except Failure Document
  | [] => .ok .other
  | l :: ls =>
    if isMarker '-' l then afterMarker (l.drop 3) ls
    else if isMarker '.' l then malformed
    else if (contentLine? l).isNone then documentIn ls
    else do documentOf (← documentLines (l :: ls))

/-- The document of a text, whose lines end with line feeds; a byte order mark may stand before
it. -/
def parse (s : String) : Except Failure Document :=
  let cs := s.toList
  if !cs.all isAllowed then malformed
  else documentIn (splitLines (if cs.head? = some '\ufeff' then cs.drop 1 else cs))

/-- The value that a node stands for.  A date shows itself as it is spelled; its literal is not
asked for. -/
def Node.toValue : Node → Value
  | .null => .null
  | .bool b => .bool b
  | .int i => .int i
  | .float x => .float x
  | .text s => .text s
  | .date spelling => .object (.saying (some spelling) none)
  | .sequence => .list []
  | .mapping => .dict []

/-- The value of a document: a dictionary for a mapping, and nothing for every other document. -/
def load (s : String) : Except Failure Value := do
  match ← parse s with
  | .mapping members =>
    return .dict (Members.ofPairs (members.map fun (k, v) => (k.toValue, v.toValue)))
  | .other => pure .null

end Keyring.Yaml
