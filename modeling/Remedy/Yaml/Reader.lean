import Remedy.Yaml.Node
import Remedy.Yaml.Plain

/-!
Reading YAML texts. The value of a document is the value of its node: of several pairs with one
key the last counts, in the place of the first. A text without a document has no value. Anchors,
aliases, tags and merged mappings are refused.
-/

namespace Remedy.Yaml

def meaningless {α : Type} (reason : Flaw) : Except Failure α :=
  .error (.flaw reason 0 0)

def isKey : Value → Bool
  | .list _ => false
  | .map _ => false
  | _ => true

def scalarValue (text : String) : Except Failure Value :=
  if text = mergeWord || text = defaultWord then meaningless .valueKind
  else (plainValue text).mapError .misfit

namespace Node

mutual

def value : Node → Except Failure Value
  | plain text => scalarValue text
  | quoted text => .ok (.str text)
  | sequence items => (values items).map .list
  | mapping pairs => (entries [] pairs).map .map

def values : List Node → Except Failure (List Value)
  | [] => .ok []
  | node :: rest =>
    match value node with
    | .error failure => .error failure
    | .ok v => (values rest).map (v :: ·)

def entries (before : List (Value × Value)) :
    List (Node × Node) → Except Failure (List (Value × Value))
  | [] => .ok before
  | (key, node) :: rest =>
    match keyValue key with
    | .error failure => .error failure
    | .ok k =>
      if isKey k then
        match value node with
        | .error failure => .error failure
        | .ok v => entries (Value.insert k v before) rest
      else meaningless .keyKind

def keyValue : Node → Except Failure Value
  | plain text =>
    if text = mergeWord then meaningless .unsupported
    else if text = defaultWord then .ok (.str text)
    else scalarValue text
  | node => value node

end

end Node

def read (text : String) : Except Failure (Option Value) :=
  match tokens text.toList with
  | .error failure => .error failure
  | .ok tokens =>
    match Node.ofTokens tokens with
    | .error failure => .error failure
    | .ok none => .ok none
    | .ok (some node) => node.value.map some

end Remedy.Yaml
