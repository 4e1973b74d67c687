import DeprecationLint.Yaml.Cursor

/-!
# Scalars of a YAML text

A scalar is a text in one of five spellings: plain, between single or double quotes, or as an
indented block of literal or folded lines. Across lines, a plain or quoted scalar is folded: the
blanks around a line break go, a single break becomes a space, and of several breaks the first
goes.

The readers here start at the first character of a scalar and yield its text and the place after
it. Where they need a number of steps they are handed one; the length of the text is enough.
-/

namespace DeprecationLint.Yaml

/-! ### Gaps between words -/

/-- What stands between two words of a scalar. -/
structure Gap where
  /-- The blanks before the first line break. -/
  blanks : List Char := []
  /-- The first line break, and the ones after it. There is no first one where it was escaped. -/
  breaks : Option (List Char × List Char) := none

namespace Gap

/-- The text of a gap in a folded scalar. -/
def folded (g : Gap) : List Char :=
  match g.breaks with
  | none => g.blanks
  | some (first, more) =>
    if first = ['\n'] then if more.isEmpty then [' '] else more
    else first ++ more

/-- Adds a line break. -/
def pushBreak (g : Gap) (b : Char) : Gap :=
  match g.breaks with
  | none => { blanks := [], breaks := some ([b], []) }
  | some (first, more) => { g with breaks := some (first, more ++ [b]) }

/-- Adds a blank; at the start of a line it is indentation and goes. -/
def pushBlank (g : Gap) (c : Char) : Gap :=
  if g.breaks.isSome then g else { g with blanks := g.blanks ++ [c] }

end Gap

/-- The gap at a place, and the place after it. On lines after the first, a tab left of the given
column is an error. -/
def gap? (column : Nat) : Nat → Gap → Cursor → Option (Gap × Cursor)
  | 0, g, c => some (g, c)
  | steps + 1, g, c =>
    match c.lineBreak? with
    | some (b, c) => gap? column steps (g.pushBreak b) c
    | none =>
      match c.rest with
      | ch :: _ =>
        if isBlank ch then
          if ch = '\t' ∧ g.breaks.isSome ∧ c.column < column then none
          else gap? column steps (g.pushBlank ch) (c.advance 1)
        else some (g, c)
      | [] => some (g, c)

/-! ### Plain scalars -/

/-- The characters that end a plain scalar inside brackets. -/
def isFlowMark (c : Char) : Bool :=
  c == ',' || c == '[' || c == ']' || c == '\x7b' || c == '\x7d'

/-- The word of a plain scalar at a place. A colon ends it before a gap; inside brackets, a colon
may not stand before another mark. -/
def plainWord? (inFlow : Bool) : List Char → Option (List Char)
  | [] => some []
  | ch :: rest =>
    if isBlank ch || isBreak ch then some []
    else if ch = ':' && inFlow && rest.head?.any fun n ↦ isFlowMark n || n == '?' then none
    else if ch = ':' && isGap rest.head? || inFlow && isFlowMark ch then some []
    else (plainWord? inFlow rest).map (ch :: ·)

/-- The rest of a plain scalar, given what has been read of it and the gap after that. The last
gap is not part of the scalar, and whether it held a line break is part of the result. -/
def plainFrom? (inFlow : Bool) (column : Nat) :
    Nat → List Char → Gap → Cursor → Option (List Char × Bool × Cursor)
  | 0, _, _, _ => none
  | steps + 1, text, g, c => do
    let stop := some (text, g.breaks.isSome, c)
    if c.atDocumentMark || c.peek 0 == some '#' then stop
    else
      let word ← plainWord? inFlow c.rest
      if word.isEmpty then stop
      else
        let text := text ++ g.folded ++ word
        let c := c.advance word.length
        if isGap (c.peek 0) && !c.rest.isEmpty then
          let (g, c) ← gap? column c.rest.length {} c
          if !inFlow && c.column < column then return (text, g.breaks.isSome, c)
          else plainFrom? inFlow column steps text g c
        else return (text, false, c)

/-- A plain scalar: its text, whether a line break follows it, and the place after it. Outside
brackets its lines may not start left of the given column. -/
def plain? (inFlow : Bool) (column : Nat) (c : Cursor) : Option (List Char × Bool × Cursor) :=
  plainFrom? inFlow column (c.rest.length + 1) [] {} c

/-! ### Quoted scalars -/

/-- How a word between quotes ends. -/
inductive WordEnd where
  /-- At a gap, or at the closing quote. -/
  | plain
  /-- At an escaped line break. -/
  | escapedBreak

/-- A word between quotes. -/
structure QuotedWord where
  /-- The text of the word. -/
  text : List Char
  /-- The number of characters that spell it. -/
  length : Nat
  /-- How the word ends. -/
  ending : WordEnd

/-- Adds a character, spelled by some characters, to the start of a word. -/
def QuotedWord.cons (ch : Char) (n : Nat) (w : QuotedWord) : QuotedWord :=
  { w with text := ch :: w.text, length := n + w.length }

/-- A word between single quotes, in which two quotes stand for one. -/
def singleWord : List Char → QuotedWord
  | [] => ⟨[], 0, .plain⟩
  | '\'' :: '\'' :: rest => (singleWord rest).cons '\'' 2
  | ch :: rest =>
    if ch = '\'' || isBlank ch || isBreak ch then ⟨[], 0, .plain⟩
    else (singleWord rest).cons ch 1

/-- What a backslash and a single character stand for between double quotes. -/
def shortEscape? : Char → Option Char
  | '0' => some '\x00'
  | 'a' => some '\x07'
  | 'b' => some '\x08'
  | 't' => some '\t'
  | '\t' => some '\t'
  | 'n' => some '\n'
  | 'v' => some '\x0b'
  | 'f' => some '\x0c'
  | 'r' => some '\r'
  | 'e' => some '\x1b'
  | ' ' => some ' '
  | '"' => some '"'
  | '/' => some '/'
  | '\\' => some '\\'
  | 'N' => some '\x85'
  | '_' => some '\xa0'
  | 'L' => some '\u2028'
  | 'P' => some '\u2029'
  | _ => none

/-- The value of a hexadecimal digit. -/
def hexDigit? (c : Char) : Option Nat :=
  if '0' ≤ c ∧ c ≤ '9' then some (c.toNat - '0'.toNat)
  else if 'a' ≤ c ∧ c ≤ 'f' then some (c.toNat - 'a'.toNat + 10)
  else if 'A' ≤ c ∧ c ≤ 'F' then some (c.toNat - 'A'.toNat + 10)
  else none

/-- The character whose number is written by hexadecimal digits. -/
def numbered? (ds : List Char) : Option Char := do
  let n ← ds.foldlM (fun n d ↦ (hexDigit? d).map (16 * n + ·)) 0
  if n.isValidChar then some (Char.ofNat n) else none

/-- A word between double quotes. -/
def doubleWord? : List Char → Option QuotedWord
  | [] => some ⟨[], 0, .plain⟩
  | '\\' :: 'x' :: a :: b :: rest => do
    let ch ← numbered? [a, b]
    return (← doubleWord? rest).cons ch 4
  | '\\' :: 'u' :: a :: b :: c :: d :: rest => do
    let ch ← numbered? [a, b, c, d]
    return (← doubleWord? rest).cons ch 6
  | '\\' :: 'U' :: a :: b :: c :: d :: e :: f :: g :: h :: rest => do
    let ch ← numbered? [a, b, c, d, e, f, g, h]
    return (← doubleWord? rest).cons ch 10
  | '\\' :: e :: rest =>
    if isBreak e then some ⟨[], 1, .escapedBreak⟩
    else do
      let ch ← shortEscape? e
      return (← doubleWord? rest).cons ch 2
  | ch :: rest =>
    if ch = '"' || isBlank ch || isBreak ch then some ⟨[], 0, .plain⟩
    else if ch = '\\' then none
    else (doubleWord? rest).map (·.cons ch 1)

/-- The rest of a quoted scalar, given what has been read of it. -/
def quotedFrom? (quote : Char) : Nat → List Char → Cursor → Option (List Char × Cursor)
  | 0, _, _ => none
  | steps + 1, text, c => do
    guard (!c.atDocumentMark && !c.rest.isEmpty)
    let word ← if quote = '\'' then some (singleWord c.rest) else doubleWord? c.rest
    let text := text ++ word.text
    let c := c.advance word.length
    let (g, c) ←
      match word.ending with
      | .plain => some ({}, c)
      | .escapedBreak => c.lineBreak?.map fun (_, c) ↦ ({ breaks := some ([], []) : Gap }, c)
    if c.peek 0 == some quote then return (text, c.advance 1)
    else
      let (g, c) ← gap? 0 c.rest.length g c
      quotedFrom? quote steps (text ++ g.folded) c

/-- A scalar between quotes: its text and the place after the closing quote. -/
def quoted? (quote : Char) (c : Cursor) : Option (List Char × Cursor) :=
  quotedFrom? quote (c.rest.length + 1) [] (c.advance 1)

/-! ### Block scalars -/

/-- What becomes of the line breaks at the end of a block. -/
inductive Chomping where
  /-- They all go. -/
  | strip
  /-- One stays. -/
  | clip
  /-- They all stay. -/
  | keep

/-- The head of a block scalar. -/
structure BlockHead where
  /-- What becomes of the line breaks at the end. -/
  chomping : Chomping
  /-- The indentation of the block relative to what is around it, if it is given. -/
  increment : Option Nat

/-- What a sign in the head of a block says. -/
def chomping? : Option Char → Option Chomping
  | some '+' => some .keep
  | some '-' => some .strip
  | _ => none

/-- The indentation that a digit in the head of a block gives; zero is none. -/
def increment? : Option Char → Option (Option Nat)
  | some d =>
    if d = '0' then none
    else if d.isDigit then some (some (d.toNat - '0'.toNat))
    else some none
  | none => some none

/-- The head of a block after its first mark, and the place after it: a sign and a digit in either
order, each of which may be missing. -/
def blockHead? (c : Cursor) : Option (BlockHead × Cursor) :=
  match chomping? (c.peek 0) with
  | some chomping => do
    let increment ← increment? (c.peek 1)
    return (⟨chomping, increment⟩, c.advance (if increment.isSome then 2 else 1))
  | none => do
    let increment ← increment? (c.peek 0)
    match increment, chomping? (c.peek 1) with
    | none, _ => return (⟨.clip, none⟩, c)
    | some n, some chomping => return (⟨chomping, some n⟩, c.advance 2)
    | some n, none => return (⟨.clip, some n⟩, c.advance 1)

/-- Skips the indentation of a line, and the empty lines before it: the line breaks that were
skipped, the widest indentation that was met, and the place after them. Without a given indentation
all spaces are skipped. A tab in the indentation is an error. -/
def blockGap? (indent : Option Nat) :
    Nat → List Char → Nat → Cursor → Option (List Char × Nat × Cursor)
  | 0, _, _, _ => none
  | steps + 1, breaks, widest, c =>
    let spaces := (c.rest.takeWhile (· == ' ')).length
    let c := c.advance (indent.elim spaces fun n ↦ min spaces (n - c.column))
    let widest := max widest c.column
    if indent.all (c.column < ·) && c.peek 0 == some '\t' then none
    else
      match c.lineBreak? with
      | some (b, c) => blockGap? indent steps (breaks ++ [b]) widest c
      | none => some (breaks, widest, c)

/-- The lines of a block, given its text so far, the line break after that, the empty lines after
that, and whether the last line started with a blank. -/
def blockLines? (isFolded : Bool) (chomping : Chomping) (indent : Nat) :
    Nat → List Char → List Char → List Char → Bool → Cursor → Option (List Char × Cursor)
  | 0, _, _, _, _, _ => none
  | steps + 1, text, lineEnd, empties, afterBlank, c =>
    if c.column = indent ∧ ¬c.rest.isEmpty then do
      let startsBlank := (c.peek 0).any isBlank
      let lineEnd :=
        if isFolded && lineEnd == ['\n'] && !afterBlank && !startsBlank then
          if empties.isEmpty then [' '] else []
        else lineEnd
      let line := c.rest.takeWhile (!isBreak ·)
      let text := text ++ lineEnd ++ empties ++ line
      let c := c.advance line.length
      let (lineEnd, c) := (c.lineBreak?.map fun (b, c) ↦ ([b], c)).getD ([], c)
      let (empties, _, c) ← blockGap? (some indent) (c.rest.length + 1) [] 0 c
      blockLines? isFolded chomping indent steps text lineEnd empties startsBlank c
    else
      match chomping with
      | .strip => some (text, c)
      | .clip => some (text ++ lineEnd, c)
      | .keep => some (text ++ lineEnd ++ empties, c)

/-- A block scalar: its text and the place after it. The indentation of what is around the block is
given as the first column that lies inside. -/
def block? (isFolded : Bool) (column : Nat) (c : Cursor) : Option (List Char × Cursor) := do
  let (head, c) ← blockHead? (c.advance 1)
  let c := c.skipWhile isBlank
  let c := if c.peek 0 == some '#' then c.skipWhile (!isBreak ·) else c
  guard (c.rest.isEmpty || (c.peek 0).any isBreak)
  let c := (c.lineBreak?.map (·.2)).getD c
  let given := head.increment.map fun n ↦ (column - 1) + n
  let (empties, widest, c) ← blockGap? given (c.rest.length + 1) [] 0 c
  let indent := given.getD (max widest (max column 1))
  blockLines? isFolded head.chomping indent (c.rest.length + 1) [] [] empties false c

end DeprecationLint.Yaml
