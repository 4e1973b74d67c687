import DeprecationLint.Json.Basic

/-!
# Reading JSON texts

`Json.parse?` accepts exactly one value with nothing but spaces around it: no comments, no trailing
commas, no byte order mark, no control characters inside strings.

Reading runs in two layers. Literals are read by functions that recurse on the characters; arrays
and objects are read under a budget of calls that the length of the text always covers
(`Json.parse?` is the only place that names it).
-/

namespace DeprecationLint.Json

/-- The characters that may stand between tokens. -/
def isSpace (c : Char) : Bool :=
  c == ' ' || c == '\t' || c == '\n' || c == '\r'

/-- The text after leading spaces. -/
def skipSpace (cs : List Char) : List Char :=
  cs.dropWhile isSpace

/-! ### Strings -/

/-- A piece of a string literal: a character, or a 16-bit unit given by its number. -/
inductive Piece where
  /-- A character that stands for itself, or a short escape. -/
  | char (c : Char)
  /-- A unit written with four hexadecimal digits. -/
  | unit (n : Nat)

/-- The value of a hexadecimal digit. -/
def hexDigit? (c : Char) : Option Nat :=
  if c.isDigit then some (c.toNat - '0'.toNat)
  else if 'a' ≤ c ∧ c ≤ 'f' then some (c.toNat - 'a'.toNat + 10)
  else if 'A' ≤ c ∧ c ≤ 'F' then some (c.toNat - 'A'.toNat + 10)
  else none

/-- The number written by hexadecimal digits. -/
def hexNumber? (cs : List Char) : Option Nat :=
  cs.foldlM (fun n c ↦ (hexDigit? c).map (16 * n + ·)) 0

/-- What a backslash and a single character stand for. -/
def shortEscape? : Char → Option Char
  | '"' => some '"'
  | '\\' => some '\\'
  | '/' => some '/'
  | 'b' => some '\x08'
  | 'f' => some '\x0c'
  | 'n' => some '\n'
  | 'r' => some '\r'
  | 't' => some '\t'
  | _ => none

/-- The pieces of a string literal up to its closing quote, and the text after the quote. -/
def pieces? : List Char → Option (List Piece × List Char)
  | [] => none
  | '"' :: rest => some ([], rest)
  | '\\' :: 'u' :: a :: b :: c :: d :: rest => do
    let n ← hexNumber? [a, b, c, d]
    let (ps, rest) ← pieces? rest
    return (.unit n :: ps, rest)
  | '\\' :: e :: rest => do
    let c ← shortEscape? e
    let (ps, rest) ← pieces? rest
    return (.char c :: ps, rest)
  | c :: rest => do
    guard (c ≠ '\\' ∧ 0x20 ≤ c.toNat)
    let (ps, rest) ← pieces? rest
    return (.char c :: ps, rest)

/-- The first half of a surrogate pair. -/
def isHighHalf (n : Nat) : Bool :=
  0xD800 ≤ n && n < 0xDC00

/-- The second half of a surrogate pair. -/
def isLowHalf (n : Nat) : Bool :=
  0xDC00 ≤ n && n < 0xE000

/-- The characters of a string literal: two halves that follow each other are one character, and a
half that stands alone is none. -/
def joinPieces? : List Piece → Option (List Char)
  | [] => some []
  | .char c :: rest => (joinPieces? rest).map (c :: ·)
  | .unit n :: .unit m :: rest =>
    if isHighHalf n then
      if isLowHalf m then
        (joinPieces? rest).map (Char.ofNat (0x10000 + (n - 0xD800) * 0x400 + (m - 0xDC00)) :: ·)
      else none
    else if isLowHalf n then none
    else (joinPieces? (.unit m :: rest)).map (Char.ofNat n :: ·)
  | .unit n :: rest =>
    if isHighHalf n || isLowHalf n then none else (joinPieces? rest).map (Char.ofNat n :: ·)

/-- The text after an opening quote: the string, if it has one, and what follows it. -/
def string? (cs : List Char) : Option (Option String × List Char) :=
  (pieces? cs).map fun (ps, rest) ↦ ((joinPieces? ps).map String.ofList, rest)

/-! ### Numbers -/

/-- The number written by decimal digits. -/
def decimalNumber (ds : List Char) : Nat :=
  ds.foldl (fun n c ↦ 10 * n + (c.toNat - '0'.toNat)) 0

/-- The digits before the point: at least one, and no leading zero. -/
def isWhole (ds : List Char) : Bool :=
  !ds.isEmpty && (ds.length == 1 || ds.head? != some '0')

/-- A point with its digits, if one follows. -/
def fraction? : List Char → Option (Option (List Char) × List Char)
  | '.' :: rest =>
    let (ds, rest) := rest.span Char.isDigit
    if ds.isEmpty then none else some (some ds, rest)
  | cs => some (none, cs)

/-- An exponent, if one follows. -/
def exponent? : List Char → Option (Option Int × List Char)
  | e :: rest =>
    if e = 'e' ∨ e = 'E' then
      let (negative, rest) :=
        match rest with
        | '-' :: rest => (true, rest)
        | '+' :: rest => (false, rest)
        | rest => (false, rest)
      let (ds, rest) := rest.span Char.isDigit
      if ds.isEmpty then none
      else
        let n : Int := decimalNumber ds
        some (some (if negative then -n else n), rest)
    else some (none, e :: rest)
  | [] => some (none, [])

/-- The number meant by a literal: an integer if it is written as one and has 64 bits, except that
negative zero is a decimal. -/
def numberOf? (negative : Bool) (whole : List Char) (fraction : Option (List Char))
    (exponent : Option Int) : Option Number :=
  let digits := decimalNumber (whole ++ fraction.getD [])
  let n : Int := if negative then -digits else digits
  if fraction.isNone && exponent.isNone && Number.fitsWord n && !(negative && digits == 0) then
    some (.integer n)
  else Number.decimal? negative digits (exponent.getD 0 - (fraction.getD []).length)

/-- A number, and what follows it. -/
def number? (cs : List Char) : Option (Json × List Char) := do
  let (negative, cs) :=
    match cs with
    | '-' :: rest => (true, rest)
    | cs => (false, cs)
  let (whole, cs) := cs.span Char.isDigit
  guard (isWhole whole)
  let (fraction, cs) ← fraction? cs
  let (exponent, cs) ← exponent? cs
  let number := numberOf? negative whole fraction exponent
  return (number.elim .unreadable .number, cs)

/-! ### Values -/

/-- The depth at which arrays and objects can no longer be read. -/
def depthLimit : Nat := 128

/-- An array or object at a depth, the whole text being at depth one. -/
def atDepth (depth : Nat) (j : Json) : Json :=
  if depth < depthLimit then j else .unreadable

/-- An object, if each of its names is a text. -/
def ofMembers (members : List (Option String × Json)) : Json :=
  (members.mapM fun (m : Option String × Json) ↦ m.1.map (·, m.2)).elim .unreadable .object

mutual

/-- A value that starts at the first character, and what follows it. -/
def valueWithin : Nat → Nat → List Char → Option (Json × List Char)
  | 0, _, _ => none
  | budget + 1, depth, cs =>
    match cs with
    | 'n' :: 'u' :: 'l' :: 'l' :: rest => some (.null, rest)
    | 't' :: 'r' :: 'u' :: 'e' :: rest => some (.bool true, rest)
    | 'f' :: 'a' :: 'l' :: 's' :: 'e' :: rest => some (.bool false, rest)
    | '"' :: rest => (string? rest).map fun (s, rest) ↦ (s.elim .unreadable .text, rest)
    | '[' :: rest =>
      match skipSpace rest with
      | ']' :: rest => some (atDepth depth (.list []), rest)
      | rest =>
        (itemsWithin budget (depth + 1) rest).map fun (items, rest) ↦
          (atDepth depth (.list items), rest)
    | '\x7b' :: rest =>
      match skipSpace rest with
      | '\x7d' :: rest => some (atDepth depth (.object []), rest)
      | rest =>
        (membersWithin budget (depth + 1) rest).map fun (members, rest) ↦
          (atDepth depth (ofMembers members), rest)
    | cs => number? cs

/-- The items of an array up to its closing bracket, and what follows that. -/
def itemsWithin : Nat → Nat → List Char → Option (List Json × List Char)
  | 0, _, _ => none
  | budget + 1, depth, cs => do
    let (item, rest) ← valueWithin budget depth (skipSpace cs)
    match skipSpace rest with
    | ',' :: rest =>
      let (items, rest) ← itemsWithin budget depth rest
      return (item :: items, rest)
    | ']' :: rest => return ([item], rest)
    | _ => none

/-- The members of an object up to its closing brace, and what follows that. -/
def membersWithin : Nat → Nat → List Char → Option (List (Option String × Json) × List Char)
  | 0, _, _ => none
  | budget + 1, depth, cs =>
    match skipSpace cs with
    | '"' :: rest => do
      let (name, rest) ← string? rest
      match skipSpace rest with
      | ':' :: rest =>
        let (item, rest) ← valueWithin budget depth (skipSpace rest)
        match skipSpace rest with
        | ',' :: rest =>
          let (members, rest) ← membersWithin budget depth rest
          return ((name, item) :: members, rest)
        | '\x7d' :: rest => return ([(name, item)], rest)
        | _ => none
      | _ => none
    | _ => none

end

/-- The tree of a JSON text. A call either reads a character or hands the text to a call that
does, so twice the length of the text is budget enough. -/
def parse? (text : String) : Option Json :=
  let cs := text.toList
  match valueWithin (2 * cs.length + 2) 1 (skipSpace cs) with
  | some (j, rest) => if (skipSpace rest).isEmpty then some j else none
  | none => none

end DeprecationLint.Json
