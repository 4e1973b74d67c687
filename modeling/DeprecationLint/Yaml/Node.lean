import DeprecationLint.Yaml.Token

/-!
# YAML documents

The tree of a YAML text: scalars, sequences and mappings. A text holds one document; an empty text
holds an empty plain scalar. Collections that are nested too deeply become `unreadable` leaves,
which may be skipped but not read.

`Node.parse?` builds the tree from tokens. The functions that do so call each other under a budget,
which is a few calls for every token.
-/

namespace DeprecationLint.Yaml

/-- The tree of a YAML text. -/
inductive Node where
  /-- A text, and whether it is spelled plainly. -/
  | scalar (isPlain : Bool) (text : String)
  /-- A sequence. -/
  | sequence (items : List Node)
  /-- A mapping, in written order. -/
  | mapping (pairs : List (Node × Node))
  /-- A collection that may only be skipped. -/
  | unreadable
  deriving Repr

namespace Node

/-- What stands where nothing is written. -/
def blank : Node := .scalar true ""

/-- The depth to which collections can be read. -/
def depthLimit : Nat := 128

/-- A collection at a depth, the whole document being at depth one. -/
def atDepth (depth : Nat) (n : Node) : Node :=
  if depth ≤ depthLimit then n else .unreadable

mutual

/-- A node, and the tokens after it. Blocks are found only outside brackets; the items of a sequence
may follow the key of a mapping without indentation. -/
def nodeWithin : Nat → Nat → (inBlock afterKey : Bool) → List Token → Option (Node × List Token)
  | 0, _, _, _, _ => none
  | budget + 1, depth, inBlock, afterKey, tokens =>
    match tokens with
    | .scalar isPlain text :: rest => some (.scalar isPlain text, rest)
    | .blockItem :: _ =>
      if afterKey then
        (bareItemsWithin budget (depth + 1) tokens).map fun (items, rest) ↦
          (atDepth depth (.sequence items), rest)
      else none
    | .blockSequenceStart :: rest =>
      if inBlock then
        (blockItemsWithin budget (depth + 1) rest).map fun (items, rest) ↦
          (atDepth depth (.sequence items), rest)
      else none
    | .blockMappingStart :: rest =>
      if inBlock then
        (blockPairsWithin budget (depth + 1) rest).map fun (pairs, rest) ↦
          (atDepth depth (.mapping pairs), rest)
      else none
    | .flowSequenceStart :: rest =>
      (flowItemsWithin budget (depth + 1) true rest).map fun (items, rest) ↦
        (atDepth depth (.sequence items), rest)
    | .flowMappingStart :: rest =>
      (flowPairsWithin budget (depth + 1) true rest).map fun (pairs, rest) ↦
        (atDepth depth (.mapping pairs), rest)
    | _ => none

/-- A node, unless one of some tokens shows that nothing is written. -/
def nodeUnless : Nat → Nat → (inBlock afterKey : Bool) → List Token → List Token →
    Option (Node × List Token)
  | 0, _, _, _, _, _ => none
  | budget + 1, depth, inBlock, afterKey, stops, tokens =>
    if tokens.head?.any stops.contains then some (blank, tokens)
    else nodeWithin budget depth inBlock afterKey tokens

/-- The items of an indented sequence. -/
def blockItemsWithin : Nat → Nat → List Token → Option (List Node × List Token)
  | 0, _, _ => none
  | budget + 1, depth, tokens =>
    match tokens with
    | .blockItem :: rest => do
      let (item, rest) ← nodeUnless budget depth true false [.blockItem, .blockEnd] rest
      let (items, rest) ← blockItemsWithin budget depth rest
      return (item :: items, rest)
    | .blockEnd :: rest => some ([], rest)
    | _ => none

/-- The items of a sequence that stands below a key without indentation. -/
def bareItemsWithin : Nat → Nat → List Token → Option (List Node × List Token)
  | 0, _, _ => none
  | budget + 1, depth, tokens =>
    match tokens with
    | .blockItem :: rest => do
      let (item, rest) ←
        nodeUnless budget depth true false [.blockItem, .key, .value, .blockEnd] rest
      let (items, rest) ← bareItemsWithin budget depth rest
      return (item :: items, rest)
    | rest => some ([], rest)

/-- The pairs of an indented mapping. -/
def blockPairsWithin : Nat → Nat → List Token → Option (List (Node × Node) × List Token)
  | 0, _, _ => none
  | budget + 1, depth, tokens =>
    match tokens with
    | .key :: rest => do
      let (key, rest) ← nodeUnless budget depth true true [.key, .value, .blockEnd] rest
      let (value, rest) ←
        match rest with
        | .value :: rest => nodeUnless budget depth true true [.key, .value, .blockEnd] rest
        | rest => some (blank, rest)
      let (pairs, rest) ← blockPairsWithin budget depth rest
      return ((key, value) :: pairs, rest)
    | .blockEnd :: rest => some ([], rest)
    | _ => none

/-- The items of a sequence between brackets. A pair among them is a mapping of its own. -/
def flowItemsWithin : Nat → Nat → (isFirst : Bool) → List Token → Option (List Node × List Token)
  | 0, _, _, _ => none
  | budget + 1, depth, isFirst, tokens => do
    let tokens ←
      match isFirst, tokens with
      | true, tokens => some tokens
      | false, .flowSeparator :: rest => some rest
      | false, .flowSequenceEnd :: rest => some (.flowSequenceEnd :: rest)
      | false, _ => none
    match tokens with
    | .flowSequenceEnd :: rest => return ([], rest)
    | .key :: rest =>
      let (key, rest) ←
        match rest with
        | .value :: rest => some (blank, rest)
        | .flowSeparator :: rest => some (blank, rest)
        | .flowSequenceEnd :: rest => some (blank, rest)
        | rest => nodeWithin budget (depth + 1) false false rest
      let (value, rest) ←
        match rest with
        | .value :: rest =>
          nodeUnless budget (depth + 1) false false [.flowSeparator, .flowSequenceEnd] rest
        | rest => some (blank, rest)
      let (items, rest) ← flowItemsWithin budget depth false rest
      return (atDepth depth (.mapping [(key, value)]) :: items, rest)
    | tokens =>
      let (item, rest) ← nodeWithin budget depth false false tokens
      let (items, rest) ← flowItemsWithin budget depth false rest
      return (item :: items, rest)

/-- The pairs of a mapping between braces. -/
def flowPairsWithin : Nat → Nat → (isFirst : Bool) → List Token →
    Option (List (Node × Node) × List Token)
  | 0, _, _, _ => none
  | budget + 1, depth, isFirst, tokens => do
    let tokens ←
      match isFirst, tokens with
      | true, tokens => some tokens
      | false, .flowSeparator :: rest => some rest
      | false, .flowMappingEnd :: rest => some (.flowMappingEnd :: rest)
      | false, _ => none
    match tokens with
    | .flowMappingEnd :: rest => return ([], rest)
    | .key :: rest =>
      let (key, rest) ←
        nodeUnless budget depth false false [.value, .flowSeparator, .flowMappingEnd] rest
      let (value, rest) ←
        match rest with
        | .value :: rest =>
          nodeUnless budget depth false false [.flowSeparator, .flowMappingEnd] rest
        | rest => some (blank, rest)
      let (pairs, rest) ← flowPairsWithin budget depth false rest
      return ((key, value) :: pairs, rest)
    | tokens =>
      let (key, rest) ← nodeWithin budget depth false false tokens
      let (pairs, rest) ← flowPairsWithin budget depth false rest
      return ((key, blank) :: pairs, rest)

end

/-- The one document in a list of tokens. -/
def ofTokens? (tokens : List Token) : Option Node := do
  let (isMarked, tokens) :=
    match tokens with
    | .documentStart :: rest => (true, rest)
    | tokens => (false, tokens)
  let stops : List Token := if isMarked then [.documentStart, .documentEnd] else []
  let (n, rest) ←
    if tokens.isEmpty then some (blank, [])
    else nodeUnless (3 * tokens.length + 3) 1 true false stops tokens
  guard (rest.dropWhile (· == .documentEnd)).isEmpty
  return n

/-- The tree of a YAML text. -/
def parse? (text : String) : Option Node :=
  (tokens? text).bind ofTokens?

end Node

end DeprecationLint.Yaml
