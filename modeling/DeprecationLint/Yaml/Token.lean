import DeprecationLint.Yaml.Scalar

/-!
# Tokens of a YAML text

A YAML text is read as a list of tokens, among them the starts and ends of blocks, which are given
by indentation alone. A key of a mapping shows only at the colon after it, so wherever a key may
start the place is kept in mind (`PossibleKey`), and the tokens that open the mapping and announce
the key are put in later.

Anchors, aliases, tags and directives are refused, so not every YAML text is read. What is proved of
sessions does not rest on that, since they are given their readers.
-/

namespace DeprecationLint.Yaml

/-- A token of a YAML text. -/
inductive Token where
  /-- The mark before a document. -/
  | documentStart
  /-- The mark after a document. -/
  | documentEnd
  /-- The start of an indented sequence. -/
  | blockSequenceStart
  /-- The start of an indented mapping. -/
  | blockMappingStart
  /-- The end of an indented sequence or mapping. -/
  | blockEnd
  /-- The dash before an item. -/
  | blockItem
  /-- An opening bracket. -/
  | flowSequenceStart
  /-- A closing bracket. -/
  | flowSequenceEnd
  /-- An opening brace. -/
  | flowMappingStart
  /-- A closing brace. -/
  | flowMappingEnd
  /-- A comma inside brackets or braces. -/
  | flowSeparator
  /-- What follows is a key. -/
  | key
  /-- What follows is the value of a key. -/
  | value
  /-- A scalar, and whether it is spelled plainly. -/
  | scalar (isPlain : Bool) (text : String)
  deriving DecidableEq, Repr

/-- A place at which a key may have started. -/
structure PossibleKey where
  /-- The number of tokens before the place. -/
  position : Nat
  /-- Must there be a key? -/
  isRequired : Bool
  /-- The number of characters before the place. -/
  index : Nat
  /-- The line of the place. -/
  line : Nat
  /-- The column of the place. -/
  column : Nat

/-- How long a key may be, in characters. -/
def keyLimit : Nat := 1024

/-- What has been read of a text. -/
structure Lexer where
  /-- The place that reading has reached. -/
  cursor : Cursor
  /-- The tokens so far, the last one first. -/
  tokens : List Token := []
  /-- The columns of the open blocks, the innermost first. -/
  indents : List Nat := []
  /-- May a key start here? -/
  keyAllowed : Bool := true
  /-- Where a key may have started: outside all brackets, and inside each open bracket, the
  innermost first. -/
  keys : List (Option PossibleKey) := [none]

namespace Lexer

/-- Is the place inside brackets or braces? -/
def inFlow (l : Lexer) : Bool :=
  l.keys.length != 1

/-- The first column inside the innermost block. -/
def innerColumn (l : Lexer) : Nat :=
  l.indents.head?.elim 0 (· + 1)

/-- Adds a token. -/
def push (l : Lexer) (t : Token) : Lexer :=
  { l with tokens := t :: l.tokens }

/-- Moves on by some characters. -/
def skip (l : Lexer) (n : Nat) : Lexer :=
  { l with cursor := l.cursor.advance n }

/-- Puts a token in where a number of tokens stand before it. -/
def insert (l : Lexer) (position : Nat) (t : Token) : Lexer :=
  let later := l.tokens.length - position
  { l with tokens := l.tokens.take later ++ t :: l.tokens.drop later }

/-- Forgets where a key may have started; a key that must be there is missed. -/
def dropKey? (l : Lexer) : Option Lexer :=
  match l.keys with
  | some k :: rest => if k.isRequired then none else some { l with keys := none :: rest }
  | _ => some l

/-- Keeps in mind that a key may start here. -/
def markKey? (l : Lexer) : Option Lexer :=
  if l.keyAllowed then do
    let l ← l.dropKey?
    let c := l.cursor
    let key : PossibleKey :=
      { position := l.tokens.length
        isRequired := !l.inFlow && l.indents.head? == some c.column
        index := c.index
        line := c.line
        column := c.column }
    return { l with keys := some key :: l.keys.tail }
  else some l

/-- A key has to end on the line of its start and within the limit. Places that have become too far
away are forgotten. -/
def expireKeys? (l : Lexer) : Option Lexer := do
  let expired := fun (k : PossibleKey) ↦
    k.line < l.cursor.line || k.index + keyLimit < l.cursor.index
  guard (!l.keys.any fun k ↦ k.any fun k ↦ expired k && k.isRequired)
  return { l with keys := l.keys.map fun k ↦ k.filter fun k ↦ !expired k }

/-- Opens a block at a column, unless one is open there. -/
def openBlock (l : Lexer) (column : Nat) (position : Nat) (t : Token) : Lexer :=
  if !l.inFlow && l.innerColumn ≤ column then
    { l.insert position t with indents := column :: l.indents }
  else l

/-- Closes the blocks that start right of a column; without one, all of them. -/
def closeBlocks (l : Lexer) (column : Option Nat) : Lexer :=
  if l.inFlow then l
  else
    let closing := fun (i : Nat) ↦ column.all (· < i)
    { l with
      tokens := (l.indents.takeWhile closing).map (fun _ ↦ Token.blockEnd) ++ l.tokens
      indents := l.indents.dropWhile closing }

/-- Skips blanks, comments and line breaks. A tab may not stand where a key may start. -/
def skipGaps : Nat → Lexer → Lexer
  | 0, l => l
  | steps + 1, l =>
    let blank := fun (ch : Char) ↦ ch == ' ' || (ch == '\t' && (l.inFlow || !l.keyAllowed))
    let c := l.cursor.skipWhile blank
    let c := if c.peek 0 == some '#' then c.skipWhile (!isBreak ·) else c
    match c.lineBreak? with
    | some (_, c) => skipGaps steps { l with cursor := c, keyAllowed := l.keyAllowed || !l.inFlow }
    | none => { l with cursor := c }

/-! ### The kinds of token -/

/-- One of the marks between documents. -/
def documentMark? (l : Lexer) (t : Token) : Option Lexer := do
  let l ← (l.closeBlocks none).dropKey?
  return ({ l with keyAllowed := false }.skip 3).push t

/-- An opening bracket or brace. -/
def openFlow? (l : Lexer) (t : Token) : Option Lexer := do
  let l ← l.markKey?
  return ({ l with keyAllowed := true, keys := none :: l.keys }.skip 1).push t

/-- A closing bracket or brace. -/
def closeFlow? (l : Lexer) (t : Token) : Option Lexer := do
  let l ← l.dropKey?
  let keys := if l.inFlow then l.keys.tail else l.keys
  return ({ l with keyAllowed := false, keys }.skip 1).push t

/-- A comma. -/
def separator? (l : Lexer) : Option Lexer := do
  let l ← l.dropKey?
  return ({ l with keyAllowed := true }.skip 1).push .flowSeparator

/-- The dash before an item. -/
def item? (l : Lexer) : Option Lexer := do
  guard (l.inFlow || l.keyAllowed)
  let l ← (l.openBlock l.cursor.column l.tokens.length .blockSequenceStart).dropKey?
  return ({ l with keyAllowed := true }.skip 1).push .blockItem

/-- The mark before a key. -/
def key? (l : Lexer) : Option Lexer := do
  guard (l.inFlow || l.keyAllowed)
  let l ← (l.openBlock l.cursor.column l.tokens.length .blockMappingStart).dropKey?
  return ({ l with keyAllowed := !l.inFlow }.skip 1).push .key

/-- The colon before a value. It makes a key of what may have been one. -/
def value? (l : Lexer) : Option Lexer :=
  match l.keys.head?.join with
  | some k =>
    let l := (l.insert k.position .key).openBlock k.column k.position .blockMappingStart
    some (({ l with keyAllowed := false, keys := none :: l.keys.tail }.skip 1).push .value)
  | none => do
    guard (l.inFlow || l.keyAllowed)
    let l := l.openBlock l.cursor.column l.tokens.length .blockMappingStart
    return ({ l with keyAllowed := !l.inFlow }.skip 1).push .value

/-- A block of lines. -/
def blockScalar? (l : Lexer) (isFolded : Bool) : Option Lexer := do
  let l ← l.dropKey?
  let (text, cursor) ← block? isFolded l.innerColumn l.cursor
  return { l with keyAllowed := true, cursor }.push (.scalar false (String.ofList text))

/-- A scalar between quotes. -/
def quotedScalar? (l : Lexer) (quote : Char) : Option Lexer := do
  let l ← l.markKey?
  let (text, cursor) ← quoted? quote l.cursor
  return { l with keyAllowed := false, cursor }.push (.scalar false (String.ofList text))

/-- A plain scalar. -/
def plainScalar? (l : Lexer) : Option Lexer := do
  let l ← l.markKey?
  let (text, endsLine, cursor) ← plain? l.inFlow l.innerColumn l.cursor
  return { l with keyAllowed := endsLine, cursor }.push (.scalar true (String.ofList text))

/-- The characters with which no plain scalar starts, unless more is known of what follows. -/
def isIndicator (c : Char) : Bool :=
  "-?:,[]\x7b\x7d#&*!|>'\"%@\x60".toList.contains c

/-- The token that starts with a character. -/
def token? (l : Lexer) (ch : Char) : Option Lexer :=
  let spaced := isGap (l.cursor.peek 1)
  if l.cursor.atDocumentMark then
    l.documentMark? (if ch = '-' then .documentStart else .documentEnd)
  else if l.cursor.column = 0 ∧ ch = '%' then none
  else if ch = '[' then l.openFlow? .flowSequenceStart
  else if ch = '\x7b' then l.openFlow? .flowMappingStart
  else if ch = ']' then l.closeFlow? .flowSequenceEnd
  else if ch = '\x7d' then l.closeFlow? .flowMappingEnd
  else if ch = ',' then l.separator?
  else if ch = '-' ∧ spaced then l.item?
  else if ch = '?' ∧ (l.inFlow ∨ spaced) then l.key?
  else if ch = ':' ∧ (l.inFlow ∨ spaced) then l.value?
  else if ch = '|' ∧ ¬l.inFlow then l.blockScalar? false
  else if ch = '>' ∧ ¬l.inFlow then l.blockScalar? true
  else if ch = '\'' ∨ ch = '"' then l.quotedScalar? ch
  else if isBlank ch ∨ isIndicator ch ∧ ch ≠ '-' ∧ ch ≠ '?' ∧ ch ≠ ':' then none
  else l.plainScalar?

/-- Reads the rest of a text. Each step reads a token, and so at least a character. -/
def run? : Nat → Lexer → Option Lexer
  | 0, _ => none
  | steps + 1, l => do
    let l := l.skipGaps (l.cursor.rest.length + 1)
    match l.cursor.rest with
    | [] => l.closeBlocks none |>.dropKey?
    | ch :: _ =>
      let l ← l.expireKeys?
      let l ← (l.closeBlocks (some l.cursor.column)).token? ch
      run? steps l

end Lexer

/-- The characters that a YAML text may hold. -/
def isAllowed (c : Char) : Bool :=
  c == '\t' || c == '\n' || c == '\r' || (' ' ≤ c && c ≤ '~') || c == '\x85'
    || (0xa0 ≤ c.toNat && c.toNat ≤ 0xfffd && c.toNat ≠ 0xfeff) || 0x10000 ≤ c.toNat

/-- The tokens of a YAML text, after a byte order mark if there is one. -/
def tokens? (text : String) : Option (List Token) := do
  let cs := match text.toList with
    | '\ufeff' :: rest => rest
    | cs => cs
  guard (cs.all isAllowed)
  let l ← Lexer.run? (cs.length + 1) { cursor := { rest := cs } }
  return l.tokens.reverse

end DeprecationLint.Yaml
