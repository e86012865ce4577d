import DocBatch.Number.Shortest
import DocBatch.Text.Quoted

/-!
# JSON values

A JSON value keeps its object members in the order they were written, duplicates included;
`canonical` is the view used where an object is a dictionary: members sorted by key, the
last of equal keys kept. Numbers are integers (within the 64-bit ranges, signed or not) or
doubles.

`render` writes compact JSON: no blank anywhere, members in their order, strings quoted as
`Quoted.json`, integers in decimal and doubles in `Binary64.scientific` notation.
-/

namespace DocBatch

namespace Json

/-- A JSON number: an integer within `[-2^63, 2^64)`, or a double. -/
inductive Number where
  | int (i : Int)
  | float (x : Binary64)
  deriving Repr, DecidableEq

/-- A JSON value. -/
inductive Value where
  | null
  | bool (b : Bool)
  | num (n : Number)
  | str (s : String)
  | arr (items : List Value)
  | obj (members : List (String × Value))
  deriving Repr, Inhabited

/-- The text of a number. -/
def Number.render : Number → String
  | .int i => toString i
  | .float x => x.scientific

mutual
/-- Compact JSON text of a value. -/
def Value.render : Value → String
  | .null => "null"
  | .bool true => "true"
  | .bool false => "false"
  | .num n => n.render
  | .str s => Quoted.json s
  | .arr items => "[" ++ renderItems items ++ "]"
  | .obj members => "\x7b" ++ renderMembers members ++ "\x7d"

/-- Items separated by commas. -/
def renderItems : List Value → String
  | [] => ""
  | [v] => v.render
  | v :: rest => v.render ++ "," ++ renderItems rest

/-- Members separated by commas. -/
def renderMembers : List (String × Value) → String
  | [] => ""
  | [(k, v)] => Quoted.json k ++ ":" ++ v.render
  | (k, v) :: rest => Quoted.json k ++ ":" ++ v.render ++ "," ++ renderMembers rest
end

/-- Inserts a member into members sorted by key, replacing a member of the same key. -/
def insertSorted {α : Type} (k : String) (v : α) : List (String × α) → List (String × α)
  | [] => [(k, v)]
  | (k', v') :: rest =>
    if k < k' then (k, v) :: (k', v') :: rest
    else if k = k' then (k, v) :: rest
    else (k', v') :: insertSorted k v rest

/-- Members as a dictionary: sorted by key, the last of equal keys kept. -/
def sortMembers {α : Type} (ms : List (String × α)) : List (String × α) :=
  ms.foldl (fun acc (k, v) => insertSorted k v acc) []

/-- The member of a key, the last one if several. -/
def Value.field? (v : Value) (key : String) : Option Value :=
  match v with
  | .obj members => (members.reverse.find? (·.1 == key)).map (·.2)
  | _ => none

/-- A string value's text. -/
def Value.str? : Value → Option String
  | .str s => some s
  | _ => none

/-- An integer value. -/
def Value.int? : Value → Option Int
  | .num (.int i) => some i
  | _ => none

/-- A boolean value. -/
def Value.bool? : Value → Option Bool
  | .bool b => some b
  | _ => none

/-- An array's items. -/
def Value.arr? : Value → Option (List Value)
  | .arr items => some items
  | _ => none

/-- An object's members. -/
def Value.obj? : Value → Option (List (String × Value))
  | .obj members => some members
  | _ => none

/-- A string value. -/
def Value.ofString (s : String) : Value := .str s

/-- A natural number value. -/
def Value.ofNat (n : Nat) : Value := .num (.int n)

/-- An integer value. -/
def Value.ofInt (i : Int) : Value := .num (.int i)

/-- A string, or null. -/
def Value.ofOption (s : Option String) : Value := (s.map Value.str).getD .null

mutual
/-- The dictionary view of a value, all the way down: every object's members sorted by key,
the last of equal keys kept. -/
def Value.canonical : Value → Value
  | .arr items => .arr (canonicalItems items)
  | .obj members => .obj (sortMembers (canonicalMembers members))
  | v => v

/-- Items, each in its dictionary view. -/
def canonicalItems : List Value → List Value
  | [] => []
  | v :: rest => v.canonical :: canonicalItems rest

/-- Members, each value in its dictionary view. -/
def canonicalMembers : List (String × Value) → List (String × Value)
  | [] => []
  | (k, v) :: rest => (k, v.canonical) :: canonicalMembers rest
end

end Json

end DocBatch
