import DeprecationLint.Value

/-!
# What plain scalars mean

A scalar that is spelled plainly may mean something other than its text: nothing, a flag, or a
number in one of several notations. What it means is asked only where the document does not say
what is expected.

A whole number may be written with a sign, and in decimal, hexadecimal, octal or binary digits.
Digits after a leading zero are no number but a text.
-/

namespace DeprecationLint.Yaml.Plain

/-- Is the text empty, or a word for nothing? -/
def isNull (text : String) : Bool :=
  ["", "~", "null", "Null", "NULL"].contains text

/-- A word for a flag. -/
def bool? (text : String) : Option Bool :=
  if ["true", "True", "TRUE"].contains text then some true
  else if ["false", "False", "FALSE"].contains text then some false
  else none

/-! ### Whole numbers -/

/-- The value of a digit in a base up to sixteen. -/
def digit? (base : Nat) (c : Char) : Option Nat :=
  let value :=
    if c.isDigit then some (c.toNat - '0'.toNat)
    else if 'a' ≤ c ∧ c ≤ 'f' then some (c.toNat - 'a'.toNat + 10)
    else if 'A' ≤ c ∧ c ≤ 'F' then some (c.toNat - 'A'.toNat + 10)
    else none
  value.filter (· < base)

/-- The number that digits write in a base; there has to be a digit. -/
def digits? (base : Nat) (cs : List Char) : Option Nat :=
  if cs.isEmpty then none
  else cs.foldlM (fun n c ↦ (digit? base c).map (base * n + ·)) 0

/-- A number with a mark for its base. -/
def marked? : List Char → Option Nat
  | '0' :: 'x' :: rest => digits? 16 rest
  | '0' :: 'o' :: rest => digits? 8 rest
  | '0' :: 'b' :: rest => digits? 2 rest
  | _ => none

/-- Decimal digits, of which the first is not zero unless it is alone. -/
def decimal? (cs : List Char) : Option Nat :=
  if cs.length ≠ 1 ∧ cs.head? = some '0' then none else digits? 10 cs

/-- The magnitude of a whole number. -/
def magnitude? (cs : List Char) : Option Nat :=
  (marked? cs).or (decimal? cs)

/-- A number that is not negative; it may have a plus sign. -/
def natural? (text : String) : Option Nat :=
  match text.toList with
  | '+' :: rest => magnitude? rest
  | cs => magnitude? cs

/-- A whole number. -/
def integer? (text : String) : Option Int :=
  match text.toList with
  | '-' :: rest => (magnitude? rest).map fun n ↦ -(n : Int)
  | _ => (natural? text).map Int.ofNat

/-- Is a whole number one of 128 bits, signed or unsigned? -/
def fitsDoubleWord (n : Int) : Bool :=
  -0x80000000000000000000000000000000 ≤ n && n < 0x100000000000000000000000000000000

/-! ### Other numbers -/

/-- Is the text digits after a leading zero, with or without a sign? -/
def isZeroPadded (text : String) : Bool :=
  let cs := match text.toList with
    | '+' :: rest => rest
    | '-' :: rest => rest
    | cs => cs
  1 < cs.length && cs.head? == some '0' && cs.all Char.isDigit

/-- An exponent, which has to end the text. -/
def exponent? : List Char → Option Int
  | [] => some 0
  | e :: rest =>
    if e = 'e' ∨ e = 'E' then
      match rest with
      | '-' :: ds => (digits? 10 ds).map fun n ↦ -(n : Int)
      | '+' :: ds => (digits? 10 ds).map Int.ofNat
      | ds => (digits? 10 ds).map Int.ofNat
    else none

/-- A decimal without a sign: digits with a point somewhere among them, and an exponent. -/
def unsignedDecimal? (cs : List Char) : Option (Nat × Int) := do
  let (whole, rest) := cs.span Char.isDigit
  let (fraction, rest) :=
    match rest with
    | '.' :: rest => rest.span Char.isDigit
    | rest => ([], rest)
  let n ← digits? 10 (whole ++ fraction)
  let e ← exponent? rest
  return (n, e - fraction.length)

/-- A decimal that rounds to a finite double. -/
def decimalNumber? (text : String) : Option Number := do
  let (negative, cs) :=
    match text.toList with
    | '-' :: rest => (true, rest)
    | '+' :: rest => (false, rest)
    | cs => (false, cs)
  let (n, e) ← unsignedDecimal? cs
  Number.decimal? negative n e

/-- Is the text a word for an infinity, or for no number at all? These have no value that could be
carried. -/
def isNonFinite (text : String) : Bool :=
  [".inf", ".Inf", ".INF", "+.inf", "+.Inf", "+.INF", "-.inf", "-.Inf", "-.INF",
    ".nan", ".NaN", ".NAN"].contains text

/-- The value that a plain scalar means. A whole number of more than 64 and up to 128 bits means
none. -/
def value? (text : String) : Option Value :=
  if isNull text then some .null
  else
    match bool? text with
    | some b => some (.bool b)
    | none =>
      match (integer? text).filter fitsDoubleWord with
      | some n => if Number.fitsWord n then some (.number (.integer n)) else none
      | none =>
        if isZeroPadded text then some (.text text)
        else if isNonFinite text then some .null
        else
          match decimalNumber? text with
          | some n => some (.number n)
          | none => some (.text text)

end DeprecationLint.Yaml.Plain
