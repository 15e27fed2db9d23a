import ServiceWire.Yaml.Scalar
import ServiceWire.Yaml.Token

/-!
# The nodes of YAML

A document as a tree of scalars, sequences and mappings. An alias is the node that its anchor
names, and the entries of merged mappings stand in the mapping that merges them, before its own.
-/

namespace ServiceWire.Yaml

/-- A node. -/
inductive Node
  | scalar (kind : NodeType) (text : String)
  | sequence (kind : NodeType) (items : List Node)
  | mapping (kind : NodeType) (entries : List (Node × Node))

namespace Node

/-- The node that stands where nothing is written. -/
def empty : Node := .scalar .null ""

/-- The type of a node. -/
def kind : Node → NodeType
  | scalar k _ | sequence k _ | mapping k _ => k

/-- A node as a key. -/
def asKey : Node → Node
  | scalar .default text => scalar .text text
  | n => n

/-- The entries of a mapping. -/
def entries? : Node → Option (List (Node × Node))
  | mapping _ entries => some entries
  | _ => none

/-- The entries that a mapping takes over: those of a mapping, or of several, of which the first
count most. -/
def mergedEntries? : Node → Option (List (Node × Node))
  | sequence _ items => (items.reverse.mapM entries?).map List.flatten
  | n => n.entries?

/-- The entries of a mapping after those that it takes over. -/
def mergedInto? (entries : List (Node × Node)) : Option (List (Node × Node)) := do
  let (merged, own) := entries.partition fun p => p.1.kind == .merge
  let taken ← merged.mapM fun p => p.2.mergedEntries?
  return taken.flatten ++ own.map fun p => (p.1.asKey, p.2)

end Node

/-- What is left to read, and what has been named. -/
structure Remaining where
  tokens : List Token
  /-- What the handles of tags stand for. -/
  handles : List (String × String)
  /-- The nodes that have an anchor. -/
  anchors : List (String × Node) := []

namespace Remaining

/-- Goes on at other tokens. -/
def goTo (r : Remaining) (tokens : List Token) : Remaining := { r with tokens }

/-- What stands before a node. -/
structure Properties where
  anchor? : Option String := none
  tag? : Option String := none

/-- The full form of a tag. -/
def fullTag? (r : Remaining) (t : Tag) : Option String :=
  match t.handle? with
  | none => some t.suffix
  | some h => (r.handles.lookup h).map (· ++ t.suffix)

/-- Reads an anchor and a tag, in either order. -/
def properties? (r : Remaining) : Option (Properties × Remaining) :=
  match r.tokens with
  | .anchor name :: .tag t :: rest | .tag t :: .anchor name :: rest =>
    (r.fullTag? t).map fun tag => (⟨some name, some tag⟩, r.goTo rest)
  | .anchor name :: rest => some (⟨some name, none⟩, r.goTo rest)
  | .tag t :: rest => (r.fullTag? t).map fun tag => (⟨none, some tag⟩, r.goTo rest)
  | _ => some ({}, r)

/-- The type of a node with a tag, if it leaves the type to the node itself. -/
def Properties.typeOr (p : Properties) (own : NodeType) : NodeType :=
  match p.tag? with
  | none | some "!" => own
  | some tag => .ofTag tag

/-- The type of a scalar. Text in quotes is text unless its tag leaves that open. -/
def Properties.scalarType (p : Properties) (text : String) (isPlain : Bool) : NodeType :=
  p.typeOr (if isPlain || p.tag?.isSome then .ofText text else .text)

/-- Names a node. No two nodes have one name. -/
def named? (r : Remaining) (p : Properties) (n : Node) : Option (Node × Remaining) :=
  match p.anchor? with
  | none => some (n, r)
  | some name =>
    if (r.anchors.lookup name).isSome then none
    else some (n, { r with anchors := (name, n) :: r.anchors })

/-- Goes on after an item in brackets: a comma follows it, or the closing bracket. -/
def afterFlow? (close : Token) (r : Remaining) : Option Remaining :=
  match r.tokens with
  | .comma :: rest => some (r.goTo rest)
  | t :: _ => if t == close then some r else none
  | [] => none

/-- The tokens before which an item of a block sequence is empty. -/
def afterItem : List Token := [.item, .blockEnd]

/-- The tokens before which a key or value of a block mapping is empty. -/
def afterEntry : List Token := [.key, .value, .blockEnd]

/-- The tokens before which an item in the column of its key is empty. -/
def afterInnerItem : List Token := .item :: afterEntry

mutual

/-- Reads a node. Outside of brackets it may be a collection that its indentation holds together;
the items of a sequence may stand in the column of its key. The bound is more than twice the number
of tokens. -/
def node? : Nat → (inBlock belowKey : Bool) → Remaining → Option (Node × Remaining)
  | 0, _, _, _ => none
  | bound + 1, inBlock, belowKey, r =>
    match r.tokens with
    | .reference name :: rest => (r.anchors.lookup name).map fun n => (n, r.goTo rest)
    | _ =>
      match r.properties? with
      | none => none
      | some (p, r) =>
        match r.tokens, inBlock, belowKey with
        | .item :: _, _, true =>
          match innerItems? bound [] r with
          | some (items, r) => r.named? p (.sequence (p.typeOr .sequence) items)
          | none => none
        | .blockSequence :: rest, true, _ =>
          match blockItems? bound [] (r.goTo rest) with
          | some (items, r) => r.named? p (.sequence (p.typeOr .sequence) items)
          | none => none
        | .blockMapping :: rest, true, _ =>
          match blockEntries? bound [] (r.goTo rest) with
          | some (entries, r) => r.named? p (.mapping (p.typeOr .mapping) entries)
          | none => none
        | .openBracket :: rest, _, _ =>
          match flowItems? bound [] (r.goTo rest) with
          | some (items, r) => r.named? p (.sequence (p.typeOr .sequence) items)
          | none => none
        | .openBrace :: rest, _, _ =>
          match flowEntries? bound [] (r.goTo rest) with
          | some (entries, r) => r.named? p (.mapping (p.typeOr .mapping) entries)
          | none => none
        | .scalar text isPlain :: rest, _, _ =>
          (r.goTo rest).named? p (.scalar (p.scalarType text isPlain) text)
        | _, _, _ =>
          if p.anchor?.isSome || p.tag?.isSome then
            r.named? p (.scalar (p.scalarType "" true) "")
          else none

/-- Reads a node that is empty before some tokens. -/
def slot? : Nat → (inBlock belowKey : Bool) → List Token → Remaining → Option (Node × Remaining)
  | 0, _, _, _, _ => none
  | bound + 1, inBlock, belowKey, stops, r =>
    if r.tokens.head?.any stops.contains then some (.empty, r)
    else node? bound inBlock belowKey r

/-- Reads an entry after the token that begins its key. -/
def entry? : Nat → (inBlock : Bool) → (keyStops valueStops : List Token) → Remaining →
    Option ((Node × Node) × Remaining)
  | 0, _, _, _, _ => none
  | bound + 1, inBlock, keyStops, valueStops, r =>
    match slot? bound inBlock inBlock keyStops r with
    | none => none
    | some (key, r) =>
      match r.tokens with
      | .value :: rest =>
        (slot? bound inBlock inBlock valueStops (r.goTo rest)).map fun p => ((key, p.1), p.2)
      | _ => some ((key, .empty), r)

/-- Reads the items of a sequence that its indentation holds together. -/
def blockItems? : Nat → List Node → Remaining → Option (List Node × Remaining)
  | 0, _, _ => none
  | bound + 1, acc, r =>
    match r.tokens with
    | .item :: rest =>
      match slot? bound true false afterItem (r.goTo rest) with
      | some (n, r) => blockItems? bound (n :: acc) r
      | none => none
    | .blockEnd :: rest => some (acc.reverse, r.goTo rest)
    | _ => none

/-- Reads the items of a sequence in the column of its key. -/
def innerItems? : Nat → List Node → Remaining → Option (List Node × Remaining)
  | 0, _, _ => none
  | bound + 1, acc, r =>
    match r.tokens with
    | .item :: rest =>
      match slot? bound true false afterInnerItem (r.goTo rest) with
      | some (n, r) => innerItems? bound (n :: acc) r
      | none => none
    | _ => some (acc.reverse, r)

/-- Reads the entries of a mapping that its indentation holds together. -/
def blockEntries? : Nat → List (Node × Node) → Remaining →
    Option (List (Node × Node) × Remaining)
  | 0, _, _ => none
  | bound + 1, acc, r =>
    match r.tokens with
    | .key :: rest =>
      match entry? bound true afterEntry afterEntry (r.goTo rest) with
      | some (e, r) => blockEntries? bound (e :: acc) r
      | none => none
    | .blockEnd :: rest => (Node.mergedInto? acc.reverse).map fun es => (es, r.goTo rest)
    | _ => none

/-- Reads the items of a sequence in brackets. An item may be a single entry. -/
def flowItems? : Nat → List Node → Remaining → Option (List Node × Remaining)
  | 0, _, _ => none
  | bound + 1, acc, r =>
    match r.tokens with
    | .closeBracket :: rest => some (acc.reverse, r.goTo rest)
    | .key :: rest =>
      match entry? bound false [.value, .comma, .closeBracket] [.comma, .closeBracket]
          (r.goTo rest) with
      | some (e, r) =>
        match Node.mergedInto? [e], r.afterFlow? .closeBracket with
        | some entries, some r => flowItems? bound (.mapping .mapping entries :: acc) r
        | _, _ => none
      | none => none
    | _ =>
      match node? bound false false r with
      | some (n, r) =>
        match r.afterFlow? .closeBracket with
        | some r => flowItems? bound (n :: acc) r
        | none => none
      | none => none

/-- Reads the entries of a mapping in braces. A key may stand alone. -/
def flowEntries? : Nat → List (Node × Node) → Remaining →
    Option (List (Node × Node) × Remaining)
  | 0, _, _ => none
  | bound + 1, acc, r =>
    match r.tokens with
    | .closeBrace :: rest => (Node.mergedInto? acc.reverse).map fun es => (es, r.goTo rest)
    | .key :: rest =>
      match entry? bound false [.value, .comma, .closeBrace] [.comma, .closeBrace]
          (r.goTo rest) with
      | some (e, r) =>
        match r.afterFlow? .closeBrace with
        | some r => flowEntries? bound (e :: acc) r
        | none => none
      | none => none
    | _ =>
      match node? bound false false r with
      | some (n, r) =>
        match r.afterFlow? .closeBrace with
        | some r => flowEntries? bound ((n, .empty) :: acc) r
        | none => none
      | none => none

end

end Remaining

end ServiceWire.Yaml
