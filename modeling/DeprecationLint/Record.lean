import DeprecationLint.Value

/-!
# Reading records

Modules, snapshots and settings are trees of records with fixed fields. How a record is spelled
depends on the format of the document; which fields it has, which of them may be missing and what
they default to does not. A format is therefore an instance of `Document`, and the records are
read by functions over any instance.

Reading fails as a whole or succeeds as a whole, so it yields an `Option`.
-/

namespace DeprecationLint

/-- The fields found in a record, by name. -/
abbrev Fields (σ : Type) := List (String × σ)

/-- A format whose trees records are read from. -/
class Document (σ : Type) where
  /-- A text. -/
  text? : σ → Option String
  /-- An unsigned integer. -/
  natural? : σ → Option Nat
  /-- A list. -/
  list? : σ → Option (List σ)
  /-- One of several names. -/
  choice? : σ → Option String
  /-- Named values that are carried along. -/
  entries? : σ → Option (List (String × Value))
  /-- The fields of a record, for the names it may have in the order of their declaration. No name
  occurs twice in the result, and none that is not asked for. -/
  fields? : List String → σ → Option (Fields σ)
  /-- Does the tree say that an optional field is left out? -/
  isAbsent : σ → Bool

namespace Document

variable {σ α : Type} [Document σ]

/-- The items of a list, each read in turn. -/
def listOf? (read : σ → Option α) (s : σ) : Option (List α) :=
  (list? s).bind (·.mapM read)

/-- An unsigned integer of 64 bits. -/
def word64? (s : σ) : Option UInt64 :=
  (natural? s).bind fun n ↦ if n < 0x10000000000000000 then some n.toUInt64 else none

/-- An unsigned integer of 32 bits. -/
def word32? (s : σ) : Option UInt32 :=
  (natural? s).bind fun n ↦ if n < 0x100000000 then some n.toUInt32 else none

end Document

namespace Fields

variable {σ α : Type} [Document σ]

/-- A field that every record has. -/
def required? (fields : Fields σ) (name : String) (read : σ → Option α) : Option α :=
  (fields.lookup name).bind read

/-- A field with a default for records that leave it out. -/
def defaulted? (fields : Fields σ) (name : String) (default : α) (read : σ → Option α) :
    Option α :=
  match fields.lookup name with
  | none => some default
  | some s => read s

/-- A field that may be left out, or be given as absent. -/
def optional? (fields : Fields σ) (name : String) (read : σ → Option α) : Option (Option α) :=
  fields.defaulted? name none fun s ↦
    if Document.isAbsent s then some none else (read s).map some

end Fields

end DeprecationLint
