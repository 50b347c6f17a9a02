import ChatQuery.Double

/-!
JSON values. The fields of an object stand in the order in which they are written; `record` and
`insertField` keep them sorted by name, as objects read from a text are.
-/
namespace ChatQuery

inductive Json
  | null
  | bool (b : Bool)
  | int (i : Int)
  | float (x : Double)
  | str (s : String)
  | arr (items : List Json)
  | obj (fields : List (String × Json))

namespace Json

/-- Adds a field to a sorted object. A field of the same name is replaced. -/
def insertField (name : String) (value : Json) : List (String × Json) → List (String × Json)
  | [] => [(name, value)]
  | (other, v) :: rest =>
    if name < other then (name, value) :: (other, v) :: rest
    else if name = other then (name, value) :: rest
    else (other, v) :: insertField name value rest

def sortFields (fields : List (String × Json)) : List (String × Json) :=
  fields.foldl (fun sorted f => insertField f.1 f.2 sorted) []

/-- An object whose fields are sorted by name. -/
def record (fields : List (String × Json)) : Json := .obj (sortFields fields)

def ofOption (text : Option String) : Json :=
  match text with
  | some s => .str s
  | none => .null

def ofStrings (texts : List String) : Json := .arr (texts.map .str)

def field? (name : String) : Json → Option Json
  | .obj fields => (fields.find? (·.1 == name)).map (·.2)
  | _ => none

end Json

end ChatQuery
