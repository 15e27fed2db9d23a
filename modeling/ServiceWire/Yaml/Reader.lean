import ServiceWire.Entries
import ServiceWire.Host.Basic
import ServiceWire.Yaml.Node

/-!
# Reading YAML

A text holds at most one document, before which directives may stand; an empty text stands for
null. The keys of a mapping are known by their texts, and no collection is a key; dates are texts.
Of several entries with one key the last counts, in the place of the first.
-/

namespace ServiceWire.Yaml

/-- What the handles of tags stand for, if no directive says otherwise. -/
def standardHandles : List (String × String) := [("!", "!"), ("!!", standardTags)]

/-- Reads the directives before a document: the meanings of the handles, and what follows. No
directive is repeated, and the first version is the only one known. -/
def directives? (hasVersion : Bool) (handles : List (String × String)) :
    List Token → Option (List (String × String) × List Token)
  | .directive (.version major) :: rest =>
    if hasVersion || major != 1 then none else directives? true handles rest
  | .directive (.handle h uri) :: rest =>
    if Entries.has handles h then none else directives? hasVersion ((h, uri) :: handles) rest
  | .directive .other :: rest => directives? hasVersion handles rest
  | rest => some (handles ++ standardHandles, rest)

/-- Whether a document that was begun has no content. -/
def isEmptyDocument (tokens : List Token) : Bool :=
  match tokens with
  | [] | .directive _ :: _ | .documentStart :: _ | .documentEnd :: _ => true
  | _ => false

/-- Whether the tokens are those of a document that was begun by three dashes. -/
def beginsExplicitly (tokens : List Token) : Bool :=
  match tokens with
  | .directive _ :: _ | .documentStart :: _ => true
  | _ => false

/-- The handles for a document, and its tokens. -/
def documentTokens? (tokens : List Token) : Option (List (String × String) × List Token) :=
  if beginsExplicitly tokens then do
    let (handles, rest) ← directives? false [] tokens
    if rest.head? == some .documentStart then some (handles, rest.drop 1) else none
  else some (standardHandles, tokens)

/-- The node of the only document in a text. -/
def document? (text : String) : Option Node := do
  let tokens ← tokens? (withLineFeeds text.toList)
  let (handles, body) ← documentTokens? tokens
  if tokens.isEmpty || (beginsExplicitly tokens && isEmptyDocument body) then
    if body.all (· == .documentEnd) then return .empty else none
  else
    let (n, r) ← Remaining.node? (3 * tokens.length + 3) true false ⟨body, handles, []⟩
    if r.tokens.all (· == .documentEnd) then return n else none

/-- The text that a key is known by. -/
def keyText (d : Json) : Except FailureKind String :=
  match d with
  | .array _ | .object _ => .error .malformedYaml
  | _ => .ok d.text

namespace Node

mutual

/-- What a node stands for. -/
def document : Node → Except FailureKind Json
  | .scalar kind text => kind.scalar text
  | .sequence kind items => do
    let ds ← documents items
    if kind == .sequence then return .array ds else throw .malformedYaml
  | .mapping kind entries => do
    let ps ← pairs entries
    if kind == .mapping then return .object (Entries.ofPairs ps) else throw .malformedYaml

/-- What nodes stand for. -/
def documents : List Node → Except FailureKind (List Json)
  | [] => return []
  | n :: rest => do
    let d ← document n
    let ds ← documents rest
    return d :: ds

/-- What the entries of a mapping stand for. -/
def pairs : List (Node × Node) → Except FailureKind (List (String × Json))
  | [] => return []
  | (k, n) :: rest => do
    let key ← keyText (← document k)
    let d ← document n
    let ps ← pairs rest
    return (key, d) :: ps

end

end Node

/-- The document that a text writes. -/
def read (text : String) : Except FailureKind Json :=
  match document? text with
  | some n => n.document
  | none => .error .malformedYaml

/-- The reader of the program. The values that it reads are documents. -/
def reader : YamlReader where
  value text := (read text).map Json.toValue
  document := read

end ServiceWire.Yaml
