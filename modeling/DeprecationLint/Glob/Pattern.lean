import DeprecationLint.Glob.Expr
import DeprecationLint.Glob.Token

/-!
# Matching paths

A pattern matches the whole of a path, byte by byte and with regard to case. Its tokens are put
together to one regular expression over bytes (`Pattern.expr`).

Paths that end in a dot are special: they have no file name. A pattern that is decided by the
name or the extension of the file never matches them, even where its expression would.

Texts are used together (`parseAll`). Each has to be a pattern, and then no pattern that needs its
expression may nest too deeply (`Pattern.depth`). Patterns that fix the extension are put together
one by one, and the others at once; in what is said of them they count among their like.
-/

namespace DeprecationLint.Glob

open Text

/-- A path pattern. -/
structure Pattern where
  /-- The parts of the pattern. -/
  tokens : List Token
  deriving Repr

/-- A slash. -/
def slash : Expr := .byte (.single 0x2f)

/-- The ranges of bytes that a range of characters stands for. The dash of the range joins the
last byte of the first character and the first byte of the last one; the other bytes stand alone. -/
def byteRanges (r : Char × Char) : List (UInt8 × UInt8) :=
  let first := bytes (String.singleton r.1)
  let last := bytes (String.singleton r.2)
  let alone := fun (bs : List UInt8) ↦ bs.map fun b ↦ (b, b)
  if r.1 = r.2 then alone first
  else
    alone first.dropLast
      ++ (first.getLast?.bind fun a ↦ last.head?.map fun b ↦ (a, b)).toList
      ++ alone last.tail

mutual

/-- The expression of a token; alternatives that are all empty have none. -/
def Token.expr? : Token → Option Expr
  | .literal c => some (.literal (bytes (String.singleton c)))
  | .anyOne => some (.byte .all)
  | .anyRun => some .anything
  | .leadingDirectories => some (.either (.either slash .empty) (.seq .anything slash))
  | .innerDirectories => some (.either slash (.seq slash (.seq .anything slash)))
  | .everythingBelow => some (.seq slash .anything)
  | .oneOf negated ranges => some (.byte ⟨negated, ranges.flatMap byteRanges⟩)
  | .alternatives branches => Token.anyBranch? branches

/-- The expression of tokens one after another, if one of them has an expression. -/
def Token.sequence? : List Token → Option Expr
  | [] => none
  | t :: rest =>
    match t.expr?, Token.sequence? rest with
    | some a, some b => some (.seq a b)
    | some a, none => some a
    | none, b => b

/-- The expression of several alternatives, the empty ones left out. -/
def Token.anyBranch? : List (List Token) → Option Expr
  | [] => none
  | ts :: rest =>
    match Token.sequence? ts, Token.anyBranch? rest with
    | some a, some b => some (.either a b)
    | some a, none => some a
    | none, b => b

end

/-! ### Expressions as they are written -/

/-- The characters that have a meaning in an expression. -/
def metaChars : List Char :=
  "\\.+*?()|[]\x7b\x7d^$#&-~".toList

/-- A byte that stands for itself, as it is written in an expression. -/
def byteSource (b : UInt8) : String :=
  let c := Char.ofNat b.toNat
  let digit := fun (n : Nat) ↦ String.singleton (Nat.digitChar n)
  if 0x7f < b then "\\x" ++ digit (b.toNat / 16) ++ digit (b.toNat % 16)
  else if metaChars.contains c then "\\" ++ String.singleton c
  else String.singleton c

/-- A character that stands for itself, as it is written in an expression. -/
def charSource (c : Char) : String :=
  String.join ((bytes (String.singleton c)).map byteSource)

/-- A range of characters, as it is written in an expression. -/
def rangeSource (r : Char × Char) : String :=
  if r.1 = r.2 then charSource r.1 else charSource r.1 ++ "-" ++ charSource r.2

mutual

/-- The expression of a token, as it is written. -/
def Token.source : Token → String
  | .literal c => charSource c
  | .anyOne => "."
  | .anyRun => ".*"
  | .leadingDirectories => "(?:/?|.*/)"
  | .innerDirectories => "(?:/|/.*/)"
  | .everythingBelow => "/.*"
  | .oneOf negated ranges =>
    "[" ++ (if negated then "^" else "") ++ String.join (ranges.map rangeSource) ++ "]"
  | .alternatives branches =>
    match Token.branchSources branches with
    | [] => ""
    | parts => "(?:" ++ String.intercalate "|" parts ++ ")"

/-- The expression of tokens one after another, as it is written. -/
def Token.sequenceSource : List Token → String
  | [] => ""
  | t :: rest => t.source ++ Token.sequenceSource rest

/-- The expressions of several alternatives, as they are written, the empty ones left out. -/
def Token.branchSources : List (List Token) → List String
  | [] => []
  | ts :: rest =>
    let part := Token.sequenceSource ts
    if part.isEmpty then Token.branchSources rest else part :: Token.branchSources rest

end

/-! ### Depth -/

/-- How parts of an expression nest that stand side by side. -/
structure Nesting where
  /-- The number of parts. -/
  parts : Nat
  /-- The depth of the deepest part. -/
  depth : Nat

namespace Nesting

/-- Parts beside other parts. -/
def beside (a b : Nesting) : Nesting := ⟨a.parts + b.parts, max a.depth b.depth⟩

/-- The depth of all parts as one; a single part is not put into another one. -/
def whole (n : Nesting) : Nat := if 1 < n.parts then n.depth + 1 else n.depth

end Nesting

mutual

/-- How the expression of a token nests, as a part of a sequence. Each byte that stands for itself
is a part, and alternatives that are all empty are none. -/
def Token.nesting : Token → Nesting
  | .literal c => ⟨(bytes (String.singleton c)).length, 0⟩
  | .anyOne => ⟨1, 0⟩
  | .anyRun => ⟨1, 1⟩
  | .leadingDirectories => ⟨1, 4⟩
  | .innerDirectories => ⟨1, 4⟩
  | .everythingBelow => ⟨2, 1⟩
  | .oneOf _ ranges => ⟨1, (Nesting.mk (ranges.flatMap byteRanges).length 0).whole + 1⟩
  | .alternatives branches =>
    match Token.branchNesting branches with
    | ⟨0, _⟩ => ⟨0, 0⟩
    | n => ⟨1, n.whole + 1⟩

/-- How the expressions of tokens nest, one after another. -/
def Token.sequenceNesting : List Token → Nesting
  | [] => ⟨0, 0⟩
  | t :: rest => t.nesting.beside (Token.sequenceNesting rest)

/-- How the expressions of alternatives nest, each of them a part, the empty ones left out. -/
def Token.branchNesting : List (List Token) → Nesting
  | [] => ⟨0, 0⟩
  | ts :: rest =>
    match Token.sequenceNesting ts with
    | ⟨0, _⟩ => Token.branchNesting rest
    | n => Nesting.beside ⟨1, n.whole⟩ (Token.branchNesting rest)

end

/-! ### Patterns -/

/-- What is wrong with texts that are taken as patterns. -/
inductive Malformed where
  /-- A text is no pattern. -/
  | text (pattern : String) (problem : Problem)
  /-- An expression nests too deeply, which is put together on its own. -/
  | tooDeep (source : String)
  /-- An expression nests too deeply; it has an index among those that are put together. -/
  | tooDeepAt (index : Nat)
  deriving DecidableEq, Repr

/-- The wording of what is wrong with texts. -/
def Malformed.message : Malformed → String
  | .text pattern problem => "error parsing glob '" ++ pattern ++ "': " ++ problem.message
  | .tooDeep source => "error parsing glob '" ++ source ++ "': error parsing pattern 0"
  | .tooDeepAt index => "error parsing pattern " ++ toString index

namespace Pattern

/-- The pattern that a text stands for. -/
def parse (text : String) : Except Malformed Pattern :=
  match Token.parse text with
  | .ok tokens => .ok { tokens }
  | .error problem => .error (.text text problem)

/-- The regular expression of a pattern. Directories alone stand for every path. -/
def expr (p : Pattern) : Expr :=
  match p.tokens with
  | [.leadingDirectories] => .anything
  | ts => (Token.sequence? ts).getD .empty

/-! ### Patterns decided by the file name -/

/-- The characters of tokens that all stand for themselves. -/
def literals? (ts : List Token) : Option (List Char) :=
  ts.mapM fun
    | .literal c => some c
    | _ => none

/-- The tokens after leading directories. -/
def afterDirectories : List Token → List Token
  | .leadingDirectories :: rest => rest
  | ts => ts

/-- Any directories, and then the whole name of a file. -/
def fixesName : List Token → Bool
  | .leadingDirectories :: rest =>
    match literals? rest with
    | some cs => !cs.isEmpty && !cs.contains '/'
    | none => false
  | _ => false

/-- Anything, and then the extension of a file. -/
def fixesExtension (ts : List Token) : Bool :=
  match afterDirectories ts with
  | .anyRun :: .literal '.' :: rest =>
    match literals? rest with
    | some cs => !cs.contains '.' && !cs.contains '/'
    | none => false
  | _ => false

/-- The characters after anything, if nothing else follows. -/
def end? (ts : List Token) : Option (List Char) :=
  match afterDirectories ts with
  | .anyRun :: rest => literals? rest
  | rest => literals? rest

/-- Anything, and then fixed characters. -/
def fixesEnd (ts : List Token) : Bool :=
  (end? ts).isSome

/-- A dot followed by characters that stay in the name of the file. -/
def endsInExtension (ts : List Token) : Bool :=
  let name := fun
    | Token.literal c => c ≠ '.' && c ≠ '/'
    | _ => false
  match ts.reverse.dropWhile name with
  | .literal '.' :: _ => true
  | _ => false

/-- Is the pattern decided by the name or the extension of the file? -/
def needsFileName (p : Pattern) : Bool :=
  fixesName p.tokens || fixesExtension p.tokens
    || (!fixesEnd p.tokens && endsInExtension p.tokens)

/-- Has a path the name of a file at its end? -/
def hasFileName (path : List UInt8) : Bool :=
  match path.getLast? with
  | some b => b != 0x2e
  | none => false

/-- Does the pattern match a path? -/
def accepts (p : Pattern) (path : String) : Bool :=
  (!p.needsFileName || hasFileName (bytes path)) && p.expr.accepts (bytes path)

/-! ### Patterns that need their expressions -/

/-- Fixed characters, and then perhaps anything. -/
def fixesStart (ts : List Token) : Bool :=
  match ts.getLast? with
  | some .everythingBelow => (literals? ts.dropLast).isSome
  | some .anyRun => (literals? ts.dropLast).any (!·.isEmpty)
  | _ => (literals? ts).any (!·.isEmpty)

/-- Anything, and then fixed characters that are more than a slash. After directories, the slash
before the characters counts with them. -/
def fixesLongEnd (ts : List Token) : Bool :=
  match ts with
  | .leadingDirectories :: .literal _ :: rest => (literals? rest).isSome
  | ts => (end? ts).any fun cs ↦ cs ≠ [] && cs ≠ ['/']

/-- Is the pattern matched by fixed characters, without its expression? -/
def isFixed (p : Pattern) : Bool :=
  fixesName p.tokens || fixesExtension p.tokens || fixesStart p.tokens || fixesLongEnd p.tokens

/-- Is the expression of the pattern put together on its own? -/
def standsAlone (p : Pattern) : Bool :=
  !p.isFixed && endsInExtension p.tokens

/-- Is the expression of the pattern put together with those of others? -/
def standsWithOthers (p : Pattern) : Bool :=
  !p.isFixed && !endsInExtension p.tokens

/-- The expression of the pattern, as it is written. -/
def source (p : Pattern) : String :=
  "(?-u)^" ++ Token.sequenceSource p.tokens ++ "$"

/-- The depth of the expression of the pattern. -/
def depth (p : Pattern) : Nat :=
  (Token.sequenceNesting p.tokens).depth + 1

/-- Does the expression of the pattern nest too deeply to be put together? -/
def isTooDeep (p : Pattern) : Bool :=
  250 < p.depth

end Pattern

/-- What is wrong with patterns of which one nests too deeply. -/
def tooDeep? (ps : List Pattern) : Option Malformed :=
  (((ps.filter (·.standsAlone)).find? (·.isTooDeep)).map fun p ↦ .tooDeep p.source).or
    (((ps.filter (·.standsWithOthers)).findIdx? (·.isTooDeep)).map .tooDeepAt)

/-- The patterns that texts stand for. The first text that is no pattern is at fault, or else a
pattern that nests too deeply. -/
def parseAll (texts : List String) : Except Malformed (List Pattern) := do
  let ps ← texts.mapM Pattern.parse
  match tooDeep? ps with
  | some m => .error m
  | none => return ps

/-- Does one of the patterns match a path? -/
def anyAccepts (ps : List Pattern) (path : String) : Bool :=
  ps.any (·.accepts path)

/-- The paths that the patterns of texts match, or the wording of what is wrong with the texts. -/
def compile (texts : List String) : Except String (String → Bool) :=
  match parseAll texts with
  | .ok ps => .ok (anyAccepts ps)
  | .error m => .error m.message

end DeprecationLint.Glob
