import DeprecationLint.Text.Bytes

/-!
# Path patterns

A path pattern is a list of tokens. `?` stands for one byte and `*` for any bytes, slashes
included; brackets stand for one byte of a class, and braces for one of several alternatives. Two
stars that fill a whole component of the path stand for any directories. A backslash takes away
the meaning of the character after it.

`Token.parse` reads the tokens off the text of a pattern and says what is wrong with a text that
is no pattern.
-/

namespace DeprecationLint.Glob

/-- A part of a path pattern. -/
inductive Token where
  /-- A character that stands for itself. -/
  | literal (c : Char)
  /-- One byte. -/
  | anyOne
  /-- Any bytes. -/
  | anyRun
  /-- Any directories at the start of a path. -/
  | leadingDirectories
  /-- Any directories between two slashes. -/
  | innerDirectories
  /-- A slash and anything below it. -/
  | everythingBelow
  /-- One byte of a class, or one that is not. -/
  | oneOf (negated : Bool) (ranges : List (Char × Char))
  /-- One of several alternatives. -/
  | alternatives (branches : List (List Token))
  deriving Repr

/-- What is wrong with the text of a pattern. -/
inductive Problem where
  /-- A class has no closing bracket. -/
  | unclosedClass
  /-- A range of a class runs backwards. -/
  | invalidRange (first last : Char)
  /-- Alternatives have no closing brace. -/
  | unclosedAlternatives
  /-- A closing brace has no opening one. -/
  | unopenedAlternatives
  /-- A backslash ends the text. -/
  | danglingEscape
  deriving DecidableEq, Repr

/-- The wording of what is wrong with a pattern. -/
def Problem.message : Problem → String
  | .unclosedClass => "unclosed character class; missing ']'"
  | .invalidRange first last =>
    "invalid range; '" ++ String.singleton first ++ "' > '" ++ String.singleton last ++ "'"
  | .unclosedAlternatives =>
    "unclosed alternate group; missing '\x7d' (maybe escape '\x7b' with '[\x7b]'?)"
  | .unopenedAlternatives =>
    "unopened alternate group; missing '\x7b' (maybe escape '\x7d' with '[\x7d]'?)"
  | .danglingEscape => "dangling '\\'"

namespace Token

/-- Replaces the end of the last range, which may not come to lie before its start. -/
def extendLast (c : Char) : List (Char × Char) → Except Problem (List (Char × Char))
  | [] => .ok []
  | (first, _) :: rest =>
    if c < first then .error (.invalidRange first c) else .ok ((first, c) :: rest)

/-- The ranges of a class up to its closing bracket, the last range first, and the text after the
bracket. A closing bracket at the start and a dash at the start or the end stand for themselves. -/
def classRanges : (atStart inRange : Bool) → List (Char × Char) → List Char →
    Except Problem (List (Char × Char) × List Char)
  | _, _, _, [] => .error .unclosedClass
  | atStart, inRange, ranges, c :: rest =>
    if c = ']' ∧ ¬atStart then
      .ok (if inRange then ('-', '-') :: ranges else ranges, rest)
    else if c = '-' ∧ ¬atStart ∧ ¬inRange then
      classRanges false true ranges rest
    else if inRange then do
      classRanges false false (← extendLast c ranges) rest
    else classRanges false false ((c, c) :: ranges) rest

/-- A class, whose opening bracket has been read, and the text after it. -/
def class? (cs : List Char) : Except Problem (Token × List Char) := do
  let (negated, cs) :=
    match cs with
    | '!' :: rest => (true, rest)
    | '^' :: rest => (true, rest)
    | cs => (false, cs)
  let (ranges, rest) ← classRanges true false [] cs
  return (.oneOf negated ranges.reverse, rest)

/-- An opening brace whose closing one has not been read. -/
structure OpenGroup where
  /-- The alternatives that are complete, the last one first. -/
  branches : List (List Token)
  /-- What comes before the brace, the last token first. -/
  before : List Token

/-- What has been read of a pattern. -/
structure Progress where
  /-- The tokens of the innermost alternative, the last one first. -/
  tokens : List Token
  /-- The open braces, the innermost first. -/
  groups : List OpenGroup

namespace Progress

/-- Adds tokens. -/
def push (p : Progress) (ts : List Token) : Progress :=
  { p with tokens := ts.reverse ++ p.tokens }

/-- Replaces the last token by directories, unless it already stands for directories. -/
def pushDirectories (p : Progress) (t : Token) : Progress :=
  match p.tokens with
  | .leadingDirectories :: _ => p
  | .everythingBelow :: _ => p
  | ts => { p with tokens := t :: ts.tail }

/-- Opens a brace. -/
def openGroup (p : Progress) : Progress :=
  { tokens := [], groups := { branches := [], before := p.tokens } :: p.groups }

/-- Begins the next alternative of the innermost brace; outside braces a comma is literal. -/
def nextBranch (p : Progress) : Progress :=
  match p.groups with
  | [] => p.push [.literal ',']
  | g :: gs =>
    { tokens := [], groups := { g with branches := p.tokens.reverse :: g.branches } :: gs }

/-- Closes the innermost brace. -/
def closeGroup (p : Progress) : Except Problem Progress :=
  match p.groups with
  | [] => .error .unopenedAlternatives
  | g :: gs =>
    let branches := (p.tokens.reverse :: g.branches).reverse
    .ok { tokens := .alternatives branches :: g.before, groups := gs }

/-- Takes in two stars, given the character before them. They stand for directories if they fill
a component of the path; a slash after them then belongs to them. -/
def twoStars (p : Progress) (previous : Option Char) (rest : List Char) : Progress × List Char :=
  let plain := (p.push [.anyRun, .anyRun], rest)
  let grouped := !p.groups.isEmpty
  if p.tokens.isEmpty then
    match rest with
    | [] => (p.push [.leadingDirectories], [])
    | '/' :: rest => (p.push [.leadingDirectories], rest)
    | _ => plain
  else if previous = some '/' ∨ grouped ∧ (previous = some ',' ∨ previous = some '\x7b') then
    match rest with
    | [] => (p.pushDirectories .everythingBelow, [])
    | '/' :: rest => (p.pushDirectories .innerDirectories, rest)
    | c :: _ =>
      if grouped ∧ (c = ',' ∨ c = '\x7d') then (p.pushDirectories .everythingBelow, rest)
      else plain
  else plain

end Progress

/-- Reads the rest of a pattern, given what has been read and the character before it. The first
argument bounds the number of steps, each of which reads a character. -/
def parseFrom : Nat → Progress → Option Char → List Char → Except Problem (List Token)
  | _, p, _, [] => if p.groups.isEmpty then .ok p.tokens.reverse else .error .unclosedAlternatives
  | 0, _, _, _ :: _ => .ok []
  | steps + 1, p, previous, c :: rest =>
    match c, rest with
    | '?', rest => parseFrom steps (p.push [.anyOne]) (some c) rest
    | '*', '*' :: rest =>
      let (p, rest') := p.twoStars previous rest
      parseFrom steps p (some (if rest'.length < rest.length then '/' else '*')) rest'
    | '*', rest => parseFrom steps (p.push [.anyRun]) (some c) rest
    | '[', rest => do
      let (t, rest) ← class? rest
      parseFrom steps (p.push [t]) (some ']') rest
    | '\x7b', rest => parseFrom steps p.openGroup (some c) rest
    | '\x7d', rest => do parseFrom steps (← p.closeGroup) (some c) rest
    | ',', rest => parseFrom steps p.nextBranch (some c) rest
    | '\\', [] => .error .danglingEscape
    | '\\', e :: rest => parseFrom steps (p.push [.literal e]) (some e) rest
    | c, rest => parseFrom steps (p.push [.literal c]) (some c) rest

/-- The tokens of a pattern. -/
def parse (pattern : String) : Except Problem (List Token) :=
  let cs := pattern.toList
  parseFrom cs.length { tokens := [], groups := [] } none cs

end Token

end DeprecationLint.Glob
