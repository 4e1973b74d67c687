/-!
# Places in a YAML text

Indentation carries meaning in YAML, so reading keeps track of lines and columns. A cursor is a
place in a text: what is left of it, and how much of it lies before.
-/

namespace DeprecationLint.Yaml

/-- A character that ends a line. -/
def isBreak (c : Char) : Bool :=
  c == '\n' || c == '\r' || c == '\x85' || c == '\u2028' || c == '\u2029'

/-- A space or a tab. -/
def isBlank (c : Char) : Bool :=
  c == ' ' || c == '\t'

/-- Is there a blank, the end of a line or the end of the text? -/
def isGap : Option Char → Bool
  | none => true
  | some c => isBlank c || isBreak c

/-- A place in a text. -/
structure Cursor where
  /-- What is left of the text. -/
  rest : List Char
  /-- The number of characters before the place. -/
  index : Nat := 0
  /-- The number of lines before the place. -/
  line : Nat := 0
  /-- The number of characters before the place on its line. -/
  column : Nat := 0

namespace Cursor

/-- The character at the place, or one after it. -/
def peek (c : Cursor) (n : Nat) : Option Char :=
  c.rest[n]?

/-- The place a number of characters further on the same line. -/
def advance (c : Cursor) (n : Nat) : Cursor :=
  { c with rest := c.rest.drop n, index := c.index + n, column := c.column + n }

/-- The place after characters of one kind. -/
def skipWhile (c : Cursor) (p : Char → Bool) : Cursor :=
  c.advance (c.rest.takeWhile p).length

/-- The end of a line, and the place after it. A carriage return, a line feed, both together and
the next-line character are all read as a line feed; the other two separators stay. -/
def lineBreak? (c : Cursor) : Option (Char × Cursor) :=
  let after := fun (n : Nat) ↦
    { rest := c.rest.drop n, index := c.index + n, line := c.line + 1, column := 0 : Cursor }
  match c.rest with
  | '\r' :: '\n' :: _ => some ('\n', after 2)
  | b :: _ =>
    if b = '\u2028' ∨ b = '\u2029' then some (b, after 1)
    else if isBreak b then some ('\n', after 1)
    else none
  | [] => none

/-- Is there one of the two marks between documents, three dashes or three dots on a line of
their own? -/
def atDocumentMark (c : Cursor) : Bool :=
  c.column == 0
    && (c.rest.take 3 == ['-', '-', '-'] || c.rest.take 3 == ['.', '.', '.'])
    && isGap (c.peek 3)

end Cursor

end DeprecationLint.Yaml
