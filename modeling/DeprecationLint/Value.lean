/-!
# Carried values

Attributes of declarations carry data that is only ever passed on: any tree of lists and records
over texts, numbers and flags. A record keeps its entries in the order in which they were written,
repeated names included; a lookup takes the last entry of a name.

Numbers are integers of 64 bits, signed or unsigned, and decimals, which stand for everything else
that a double can hold, negative zero included.
-/

namespace DeprecationLint

/-- A number as it is written in a document. -/
inductive Number where
  /-- A whole number written without point and exponent. -/
  | integer (n : Int)
  /-- The decimal `digits · 10 ^ exponent`, negated if so marked. -/
  | decimal (negative : Bool) (digits : Nat) (exponent : Int)
  deriving DecidableEq, Repr

namespace Number

/-- The least decimal magnitude that rounds to no finite double. -/
def doubleBound : Nat :=
  Nat.pow 2 1024 - Nat.pow 2 970

/-- Does `digits · 10 ^ exponent` round to a finite double? The magnitude is compared exactly only
where its number of digits leaves the answer open. -/
def fitsDouble (digits : Nat) (exponent : Int) : Bool :=
  let width : Int := (Nat.toDigits 10 digits).length + exponent
  if digits = 0 ∨ width < 309 then true
  else if 309 < width then false
  else if 0 ≤ exponent then digits * Nat.pow 10 exponent.toNat < doubleBound
  else digits < doubleBound * Nat.pow 10 (-exponent).toNat

/-- A decimal, unless it lies beyond the doubles. -/
def decimal? (negative : Bool) (digits : Nat) (exponent : Int) : Option Number :=
  if fitsDouble digits exponent then some (.decimal negative digits exponent) else none

/-- Is a whole number one of 64 bits, signed or unsigned? -/
def fitsWord (n : Int) : Bool :=
  -0x8000000000000000 ≤ n && n < 0x10000000000000000

/-- A number as an unsigned integer of 64 bits. -/
def unsigned? : Number → Option UInt64
  | .integer n => if 0 ≤ n ∧ n < 0x10000000000000000 then some n.toNat.toUInt64 else none
  | .decimal .. => none

/-- An unsigned integer of 64 bits as a number. -/
def ofUnsigned (n : UInt64) : Number :=
  .integer n.toNat

@[simp] theorem unsigned?_ofUnsigned (n : UInt64) : (ofUnsigned n).unsigned? = some n := by
  have h := n.toNat_lt
  simp only [ofUnsigned, unsigned?]
  rw [if_pos (by omega)]
  simp

theorem unsigned?_eq_some_iff {x : Number} {n : UInt64} :
    x.unsigned? = some n ↔ x = ofUnsigned n := by
  constructor
  · intro h
    cases x with
    | decimal => simp [unsigned?] at h
    | integer k =>
      simp only [unsigned?, Option.ite_none_right_eq_some, Option.some.injEq] at h
      obtain ⟨⟨h0, h1⟩, rfl⟩ := h
      have : k.toNat < 0x10000000000000000 := by omega
      simp only [ofUnsigned, Number.integer.injEq, Nat.toUInt64_eq, UInt64.toNat_ofNat']
      omega
  · rintro rfl
    exact unsigned?_ofUnsigned n

end Number

/-- A value that is carried along and not interpreted. -/
inductive Value where
  /-- No value. -/
  | null
  /-- A flag. -/
  | bool (b : Bool)
  /-- A number. -/
  | number (n : Number)
  /-- A text. -/
  | text (s : String)
  /-- A list of values. -/
  | list (items : List Value)
  /-- Named values, in written order. -/
  | record (entries : List (String × Value))
  deriving Repr

/-- A value as an unsigned integer of 64 bits; nothing but a number is one. -/
def Value.unsigned? : Value → Option UInt64
  | .number n => n.unsigned?
  | _ => none

/-- The last entry of a name. -/
def lastNamed? {α : Type} (name : String) (entries : List (String × α)) : Option α :=
  (entries.reverse.find? fun e ↦ e.1 == name).map (·.2)

end DeprecationLint
