import Remedy.Value

/-!
JSON documents. Whole numbers and numbers with a fraction or an exponent are kept apart, and the
members of an object are in the order in which their names first stand in the text.
-/

namespace Remedy

open Number

inductive Json (τ : Type := String) where
  | null
  | bool (b : Bool)
  | int (n : Int)
  | float (x : Binary64)
  | str (s : τ)
  | arr (items : List (Json τ))
  | obj (members : List (τ × Json τ))
  deriving Repr, Inhabited

namespace Json

inductive Container where
  | array
  | object
  deriving Repr, DecidableEq

def Container.name : Container → String
  | array => "array"
  | object => "object"

def Container.tooDeepMessage (container : Container) : String :=
  "maximum recursion depth exceeded while decoding a JSON " ++ container.name ++
    " from a unicode string"

variable {τ υ : Type}

/-- Sets a member of an object; a name that is there keeps its place and takes the new value. -/
def insert [DecidableEq τ] (name : τ) (value : Json τ) : List (τ × Json τ) → List (τ × Json τ)
  | [] => [(name, value)]
  | (n, v) :: rest => if n = name then (n, value) :: rest else (n, v) :: insert name value rest

def typeName : Json τ → String
  | null => "NoneType"
  | bool _ => "bool"
  | int _ => "int"
  | float _ => "float"
  | str _ => "str"
  | arr _ => "list"
  | obj _ => "dict"

mutual

def map (change : τ → υ) : Json τ → Json υ
  | null => .null
  | bool b => .bool b
  | int n => .int n
  | float x => .float x
  | str s => .str (change s)
  | arr items => .arr (mapArray change items)
  | obj members => .obj (mapObject change members)

def mapArray (change : τ → υ) : List (Json τ) → List (Json υ)
  | [] => []
  | j :: rest => map change j :: mapArray change rest

def mapObject (change : τ → υ) : List (τ × Json τ) → List (υ × Json υ)
  | [] => []
  | (n, j) :: rest => (change n, map change j) :: mapObject change rest

end

mutual

def toValue : Json → Value
  | null => .null
  | bool b => .bool b
  | int n => .int n
  | float x => .float x
  | str s => .str s
  | arr items => .list (itemsToValues items)
  | obj members => .map (membersToEntries members)

def itemsToValues : List Json → List Value
  | [] => []
  | j :: rest => toValue j :: itemsToValues rest

def membersToEntries : List (String × Json) → List (Value × Value)
  | [] => []
  | (n, j) :: rest => (.str n, toValue j) :: membersToEntries rest

end

end Json

end Remedy
