/-!
# Text as bytes

Offsets, orders and output are all counted in the bytes of the UTF-8 form of a text. The bytes are
a plain list, so that statements about them are statements about lists.

A span is a range of byte offsets, held as its start and its length, and shown as a half-open
interval.

A line ends at a line feed, and at a carriage return that no line feed follows; so a carriage
return with its line feed is one line end, counted at the line feed. A line index holds the offset
at which each line starts. Lines are numbered from zero, and every offset has a line: one past the
end of the text lies on the last line.
-/

namespace DeprecationLint.Text

/-- The bytes of the UTF-8 form of a text. -/
def bytes (s : String) : List UInt8 :=
  s.toByteArray.data.toList

/-- The text with the given bytes, when they are the UTF-8 form of one. -/
def ofBytes? (bs : List UInt8) : Option String :=
  String.fromUTF8? ⟨bs.toArray⟩

@[simp] theorem bytes_empty : bytes "" = [] := rfl

@[simp] theorem bytes_append (s t : String) : bytes (s ++ t) = bytes s ++ bytes t := by
  simp [bytes]

theorem ofBytes?_bytes (s : String) : ofBytes? (bytes s) = some s := by
  have h : (⟨(bytes s).toArray⟩ : ByteArray) = s.toByteArray := by simp [bytes]
  rw [ofBytes?, h, String.fromUTF8?, dif_pos s.isValidUTF8]
  rfl

/-- Texts in the order of their bytes. -/
def bytesLe (s t : String) : Bool :=
  decide (bytes s ≤ bytes t)

theorem bytesLe_total (s t : String) : (bytesLe s t || bytesLe t s) = true := by
  simp only [bytesLe, Bool.or_eq_true, decide_eq_true_eq]
  exact List.le_total _ _

theorem bytesLe_trans {s t u : String} (hst : bytesLe s t = true) (htu : bytesLe t u = true) :
    bytesLe s u = true := by
  simp only [bytesLe, decide_eq_true_eq] at *
  exact List.le_trans hst htu

/-! ### Spans -/

/-- A range of byte offsets. -/
structure Span where
  /-- The first offset inside the span. -/
  start : UInt64
  /-- The number of bytes covered. -/
  length : UInt64
  deriving DecidableEq, Repr

/-- The first offset after the span. -/
def Span.stop (s : Span) : UInt64 :=
  s.start + s.length

/-- A span as a half-open interval. -/
def Span.render (s : Span) : String :=
  "[" ++ toString s.start.toNat ++ ".." ++ toString s.stop.toNat ++ ")"

/-! ### Lines -/

/-- The starts of all lines but the first, for bytes that stand at offset `o`. A carriage return is
passed together with the line feed after it. -/
def lineStartsFrom : Nat → List UInt8 → List Nat
  | _, [] => []
  | o, 13 :: 10 :: rest => (o + 2) :: lineStartsFrom (o + 2) rest
  | o, b :: rest =>
    if b = 13 ∨ b = 10 then (o + 1) :: lineStartsFrom (o + 1) rest
    else lineStartsFrom (o + 1) rest

/-- The offsets at which the lines of a text start. -/
structure LineIndex where
  /-- The starts, from the first line on. -/
  starts : List Nat
  deriving DecidableEq, Repr

namespace LineIndex

/-- The line index of a text. -/
def ofText (text : String) : LineIndex where
  starts := 0 :: lineStartsFrom 0 (bytes text)

/-- The number of lines; a text has at least one. -/
def lineCount (index : LineIndex) : Nat :=
  index.starts.length

/-- The line on which an offset lies: one less than the number of lines that start at or before
it. -/
def lineOf (index : LineIndex) (offset : Nat) : Nat :=
  index.starts.countP (· ≤ offset) - 1

@[simp] theorem starts_ofText (text : String) :
    (ofText text).starts = 0 :: lineStartsFrom 0 (bytes text) := rfl

end LineIndex

end DeprecationLint.Text
