import Remedy.Number.Quantity
import Remedy.Text.Quoted

/-!
Values of settings and of response bodies. Their types are not fixed in advance, so every
operation that needs a certain type says what is wrong with a value of another one.
-/

namespace Remedy

open Number

structure Date where
  year : Nat
  month : Nat
  day : Nat
  deriving Repr, DecidableEq

/-- A value as it comes out of a settings file or a response. Mappings keep the order in which
their keys were first set. -/
inductive Value where
  | null
  | bool (b : Bool)
  | int (n : Int)
  | float (x : Binary64)
  | str (s : String)
  | date (d : Date)
  | list (items : List Value)
  | map (entries : List (Value × Value))
  deriving Repr, Inhabited

def paddedNat (width n : Nat) : String :=
  String.ofList (padZeros width (Nat.toDigits 10 n))

namespace Date

def text (d : Date) : String :=
  paddedNat 4 d.year ++ "-" ++ paddedNat 2 d.month ++ "-" ++ paddedNat 2 d.day

end Date

/-- What is wrong when an operation meets a value of a type that it cannot use. -/
inductive TypeFault where
  | noAttribute (type member : String)
  | notIterable (type : String)
  | notSubscriptable (type : String)
  | notComparable (relation left right : String)
  | notMultipliable (left right : String)
  | notWhole (type : String)
  | suffixItem (type : String)
  | startArgument (type : String)
  | joinItem (index : Nat) (type : String)
  | missingKey (key : String)
  deriving Repr, DecidableEq

namespace TypeFault

def message : TypeFault → String
  | noAttribute type member =>
    "'" ++ type ++ "' object has no attribute '" ++ member ++ "'"
  | notIterable type => "'" ++ type ++ "' object is not iterable"
  | notSubscriptable type => "'" ++ type ++ "' object is not subscriptable"
  | notComparable relation left right =>
    "'" ++ relation ++ "' not supported between instances of '" ++ left ++ "' and '" ++ right ++
      "'"
  | notMultipliable left right =>
    "unsupported operand type(s) for *: '" ++ left ++ "' and '" ++ right ++ "'"
  | notWhole type => "'" ++ type ++ "' object cannot be interpreted as an integer"
  | suffixItem type => "tuple for endswith must only contain str, not " ++ type
  | startArgument type => "startswith first arg must be str or a tuple of str, not " ++ type
  | joinItem index type =>
    "sequence item " ++ toString index ++ ": expected str instance, " ++ type ++ " found"
  | missingKey key => key

def kind : TypeFault → String
  | noAttribute .. => "AttributeError"
  | missingKey _ => "KeyError"
  | _ => "TypeError"

end TypeFault

namespace Value

def typeName : Value → String
  | null => "NoneType"
  | bool _ => "bool"
  | int _ => "int"
  | float _ => "float"
  | str _ => "str"
  | date _ => "datetime.date"
  | list _ => "list"
  | map _ => "dict"

def truthy : Value → Bool
  | null => false
  | bool b => b
  | int n => n ≠ 0
  | float x => !x.isZero
  | str s => s ≠ ""
  | date _ => true
  | list items => !items.isEmpty
  | map entries => !entries.isEmpty

def quantity? : Value → Option Quantity
  | bool b => some (.whole (if b then 1 else 0))
  | int n => some (.whole n)
  | float x => some (.real x)
  | _ => none

def text? : Value → Option String
  | str s => some s
  | _ => none

def compare (v : Value) (relation : String) (holds : Quantity → Quantity → Bool) (bound : Int) :
    Except TypeFault Bool :=
  match v.quantity? with
  | some q => .ok (holds q (.whole bound))
  | none => .error (.notComparable relation v.typeName "int")

/-- Whether two values are the same key of a mapping: numbers are compared by value. Lists and
mappings are no keys. -/
def sameKey : Value → Value → Bool
  | null, null => true
  | str s, str t => s = t
  | date d, date e => d = e
  | v, w =>
    match v.quantity?, w.quantity? with
    | some a, some b => a.same b
    | _, _ => false

def lookup (key : String) : List (Value × Value) → Option Value
  | [] => none
  | (k, v) :: rest => if k.sameKey (str key) then some v else lookup key rest

def insert (key value : Value) : List (Value × Value) → List (Value × Value)
  | [] => [(key, value)]
  | (k, v) :: rest =>
    if k.sameKey key then (k, value) :: rest else (k, v) :: insert key value rest

def remove (key : String) (entries : List (Value × Value)) : List (Value × Value) :=
  entries.filter fun entry => !entry.1.sameKey (str key)

/-- The members that a loop over a value visits: the items of a list, the characters of a text,
the keys of a mapping. -/
def members (v : Value) : Except TypeFault (List Value) :=
  match v with
  | list items => .ok items
  | str s => .ok (s.toList.map fun c => str c.toString)
  | map entries => .ok (entries.map (·.1))
  | _ => .error (.notIterable v.typeName)

mutual

/-- A value in the notation of literals: texts are quoted, names of constants are capitalised. -/
def display : Value → String
  | null => "None"
  | bool b => if b then "True" else "False"
  | int n => toString n
  | float x => x.text
  | str s => Text.quoted s
  | date d =>
    "datetime.date(" ++ toString d.year ++ ", " ++ toString d.month ++ ", " ++ toString d.day ++
      ")"
  | list items => "[" ++ ", ".intercalate (displayAll items) ++ "]"
  | map entries => "\x7b" ++ ", ".intercalate (displayEntries entries) ++ "\x7d"

def displayAll : List Value → List String
  | [] => []
  | v :: rest => display v :: displayAll rest

def displayEntries : List (Value × Value) → List String
  | [] => []
  | (k, v) :: rest => (display k ++ ": " ++ display v) :: displayEntries rest

end

/-- A value inside a message: a text stands for itself, a date in its usual form. -/
def shown : Value → String
  | str s => s
  | date d => d.text
  | v => v.display

end Value

end Remedy
