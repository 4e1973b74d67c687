/-!
# Regular expressions over bytes

The matching of path patterns comes down to regular expressions whose letters are bytes. An
expression is matched by the expressions that may be left after each byte (`Expr.after`). There are
never more of them than the expression has parts, so the set of what is left stays small.
-/

namespace DeprecationLint.Glob

/-- A set of bytes: those in one of the ranges, or those in none of them. -/
structure ByteSet where
  /-- Are the bytes outside the ranges meant? -/
  negated : Bool
  /-- The ranges, each with its first and its last byte. -/
  ranges : List (UInt8 × UInt8)
  deriving DecidableEq, Repr

namespace ByteSet

/-- The set of all bytes. -/
def all : ByteSet := ⟨true, []⟩

/-- The set of one byte. -/
def single (b : UInt8) : ByteSet := ⟨false, [(b, b)]⟩

/-- Is a byte in the set? -/
def contains (s : ByteSet) (b : UInt8) : Bool :=
  s.negated != s.ranges.any fun r ↦ r.1 ≤ b && b ≤ r.2

@[simp] theorem contains_all (b : UInt8) : all.contains b = true := rfl

end ByteSet

/-- A regular expression over bytes. -/
inductive Expr where
  /-- Nothing at all. -/
  | empty
  /-- One byte of a set. -/
  | byte (s : ByteSet)
  /-- One expression after another. -/
  | seq (a b : Expr)
  /-- One expression or another. -/
  | either (a b : Expr)
  /-- Any number of repetitions. -/
  | many (a : Expr)
  deriving DecidableEq, Repr

namespace Expr

/-- One expression after another, where nothing before an expression is left out. -/
def followedBy : Expr → Expr → Expr
  | .empty, b => b
  | a, b => .seq a b

/-- The expressions one after another. -/
def seqAll : List Expr → Expr
  | [] => .empty
  | a :: rest => .seq a (seqAll rest)

/-- Given bytes, one after another. -/
def literal (bs : List UInt8) : Expr :=
  seqAll (bs.map fun b ↦ .byte (.single b))

/-- Any bytes, or none. -/
def anything : Expr := .many (.byte .all)

/-- Does the expression match no bytes? -/
def nullable : Expr → Bool
  | .empty => true
  | .byte _ => false
  | .seq a b => a.nullable && b.nullable
  | .either a b => a.nullable || b.nullable
  | .many _ => true

/-- What may be left of an expression after a byte. -/
def after (c : UInt8) : Expr → List Expr
  | .empty => []
  | .byte s => if s.contains c then [.empty] else []
  | .seq a b => (after c a).map (followedBy · b) ++ if a.nullable then after c b else []
  | .either a b => after c a ++ after c b
  | .many a => (after c a).map (followedBy · (.many a))

/-- Does one of the expressions match the bytes? -/
def anyAccept : List Expr → List UInt8 → Bool
  | es, [] => es.any nullable
  | es, c :: rest => anyAccept (es.flatMap (after c)).eraseDups rest

/-- Does the expression match the bytes? -/
def accepts (e : Expr) (bs : List UInt8) : Bool :=
  anyAccept [e] bs

end Expr

end DeprecationLint.Glob
