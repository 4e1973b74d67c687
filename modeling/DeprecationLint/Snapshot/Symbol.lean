import DeprecationLint.Json.Document

/-!
# Symbols of a program

A snapshot of a program lists the symbols that its compiler bound: types, members, variables. They
refer to each other by number, and nothing says that a number leads anywhere or that following
numbers ends. Where one number is given to several symbols, the last of them has it.
-/

namespace DeprecationLint.Snapshot

open Document

/-- The number of a symbol in its project. -/
structure SymbolId where
  /-- The number itself. -/
  number : UInt32
  deriving DecidableEq, Repr

/-- What a symbol stands for. -/
inductive SymbolKind where
  | namedType
  | arrayType
  | method
  | property
  | field
  | localVariable
  | other
  deriving DecidableEq, Repr

namespace SymbolKind

/-- The word for a kind of symbol. -/
def name : SymbolKind → String
  | .namedType => "named_type"
  | .arrayType => "array_type"
  | .method => "method"
  | .property => "property"
  | .field => "field"
  | .localVariable => "local"
  | .other => "other"

/-- The kind of symbol that a word stands for; a word of no kind stands for `other`. -/
def ofName : String → SymbolKind
  | "named_type" => .namedType
  | "array_type" => .arrayType
  | "method" => .method
  | "property" => .property
  | "field" => .field
  | "local" => .localVariable
  | _ => .other

/-- Methods and properties are the members that are reported. -/
def isMember : SymbolKind → Bool
  | .method | .property => true
  | _ => false

/-- Locals and fields are the variables that are reported. -/
def isVariable : SymbolKind → Bool
  | .localVariable | .field => true
  | _ => false

@[simp] theorem ofName_name (k : SymbolKind) : ofName k.name = k := by
  cases k <;> rfl

end SymbolKind

/-- A symbol that the compiler bound. -/
structure Symbol where
  /-- The symbol's number. -/
  id : SymbolId
  /-- The simple name. -/
  name : String
  /-- The full name, if it differs from the simple one. -/
  displayName : Option String
  /-- What the symbol stands for. -/
  kind : SymbolKind
  /-- The title of the module that declares the symbol. -/
  module : String
  /-- The type that a member belongs to. -/
  containingType : Option SymbolId
  /-- The base of a type. -/
  baseType : Option SymbolId
  /-- The type of a variable. -/
  declaredType : Option SymbolId
  /-- Does a member override one of a base type? -/
  isOverride : Bool
  deriving DecidableEq, Repr

/-- The name under which a symbol is declared in its module. -/
def Symbol.shownAs (s : Symbol) : String :=
  s.displayName.getD s.name

/-- The symbols of a project. -/
structure SymbolTable where
  /-- The symbols, in written order. -/
  symbols : List Symbol
  deriving DecidableEq, Repr

namespace SymbolTable

/-- The symbol with a number: the last one that has it. -/
def get? (table : SymbolTable) (id : SymbolId) : Option Symbol :=
  table.symbols.reverse.find? (·.id == id)

/-- The number of different numbers in use. -/
def size (table : SymbolTable) : Nat :=
  (table.symbols.map (·.id)).eraseDups.length

/-- Are there no symbols? -/
def isEmpty (table : SymbolTable) : Bool :=
  table.symbols.isEmpty

/-- A symbol found under a number has that number. -/
theorem id_of_get? {table : SymbolTable} {id : SymbolId} {s : Symbol}
    (h : table.get? id = some s) : s.id = id := by
  simpa using List.find?_some h

/-- A symbol found under a number is in the table. -/
theorem mem_symbols_of_get? {table : SymbolTable} {id : SymbolId} {s : Symbol}
    (h : table.get? id = some s) : s ∈ table.symbols := by
  simpa using List.mem_of_find?_eq_some h

/-- A number leads nowhere exactly when no symbol has it. -/
theorem get?_eq_none_iff {table : SymbolTable} {id : SymbolId} :
    table.get? id = none ↔ ∀ s ∈ table.symbols, s.id ≠ id := by
  simp [get?]

end SymbolTable

/-! ### Reading and writing -/

/-- The number of a symbol. -/
def SymbolId.read? (j : Json) : Option SymbolId :=
  (word32? j).map SymbolId.mk

/-- The JSON form of a symbol's number. -/
def SymbolId.toJson (id : SymbolId) : Json :=
  .number (.integer id.number.toNat)

/-- A kind of symbol, by its word. -/
def SymbolKind.read? (j : Json) : Option SymbolKind :=
  (choice? j).map SymbolKind.ofName

/-- The fields of a symbol, in the order of their declaration. -/
def Symbol.fieldNames : List String :=
  ["id", "name", "display_name", "kind", "module", "containing_type", "base_type",
    "declared_type", "is_override"]

/-- A symbol. -/
def Symbol.read? (j : Json) : Option Symbol := do
  let fields ← fields? Symbol.fieldNames j
  return {
    id := ← fields.required? "id" SymbolId.read?
    name := ← fields.required? "name" text?
    displayName := ← fields.optional? "display_name" text?
    kind := ← fields.required? "kind" SymbolKind.read?
    module := ← fields.required? "module" text?
    containingType := ← fields.optional? "containing_type" SymbolId.read?
    baseType := ← fields.optional? "base_type" SymbolId.read?
    declaredType := ← fields.optional? "declared_type" SymbolId.read?
    isOverride := ← fields.defaulted? "is_override" false Json.bool? }

/-- The JSON form of a symbol; what it does not have is left out. -/
def Symbol.toJson (s : Symbol) : Json :=
  .object (
    [("id", s.id.toJson), ("name", .text s.name)]
    ++ (s.displayName.map fun d ↦ ("display_name", .text d)).toList
    ++ [("kind", .text s.kind.name), ("module", .text s.module)]
    ++ (s.containingType.map fun t ↦ ("containing_type", t.toJson)).toList
    ++ (s.baseType.map fun t ↦ ("base_type", t.toJson)).toList
    ++ (s.declaredType.map fun t ↦ ("declared_type", t.toJson)).toList
    ++ [("is_override", .bool s.isOverride)])

end DeprecationLint.Snapshot
