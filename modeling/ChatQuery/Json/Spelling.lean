import ChatQuery.Json.Symbol

/-!
JSON values as they are written, before escapes and numbers are given a meaning. A machine with a
stack of open containers builds the value of a text, one symbol at a time.
-/
namespace ChatQuery.Json

inductive Spelling
  | null
  | bool (b : Bool)
  | number (n : Numeral)
  | string (pieces : List Piece)
  | array (items : List Spelling)
  | object (members : List (List Piece × Spelling))

namespace Spelling

/-- A container that is still open, with what it holds so far, last first. -/
inductive Frame
  | array (items : List Spelling)
  | object (members : List (List Piece × Spelling))
  | member (members : List (List Piece × Spelling)) (name : List Piece)

/-- What the machine waits for, or the value it has just completed. -/
inductive Stage
  | value | itemOrEnd | nameOrEnd | name | colon
  | done (s : Spelling)

def scalar? : Symbol → Option Spelling
  | .null => some .null
  | .bool b => some (.bool b)
  | .number n => some (.number n)
  | .string ps => some (.string ps)
  | _ => none

def beginValue? (s : Symbol) (frames : List Frame) : Option (Stage × List Frame) :=
  match s with
  | .beginArray => some (.itemOrEnd, .array [] :: frames)
  | .beginObject => some (.nameOrEnd, .object [] :: frames)
  | s => (scalar? s).map fun v => (.done v, frames)

def step? (s : Symbol) : Stage → List Frame → Option (Stage × List Frame)
  | .value, frames => beginValue? s frames
  | .itemOrEnd, frames =>
    match s, frames with
    | .endArray, .array _ :: outer => some (.done (.array []), outer)
    | s, frames => beginValue? s frames
  | .nameOrEnd, frames =>
    match s, frames with
    | .endObject, .object _ :: outer => some (.done (.object []), outer)
    | .string ps, .object ms :: outer => some (.colon, .member ms ps :: outer)
    | _, _ => none
  | .name, frames =>
    match s, frames with
    | .string ps, .object ms :: outer => some (.colon, .member ms ps :: outer)
    | _, _ => none
  | .colon, frames => if s = .colon then some (.value, frames) else none
  | .done v, frames =>
    match s, frames with
    | .comma, .array vs :: outer => some (.value, .array (v :: vs) :: outer)
    | .endArray, .array vs :: outer => some (.done (.array (v :: vs).reverse), outer)
    | .comma, .member ms k :: outer => some (.name, .object ((k, v) :: ms) :: outer)
    | .endObject, .member ms k :: outer => some (.done (.object ((k, v) :: ms).reverse), outer)
    | _, _ => none

def run? : List Symbol → Stage → List Frame → Option Spelling
  | [], .done v, [] => some v
  | [], _, _ => none
  | s :: ss, stage, frames =>
    match step? s stage frames with
    | none => none
    | some (stage, frames) => run? ss stage frames

/-- The value that a text spells, if it is one JSON value and nothing else. -/
def ofText? (text : String) : Option Spelling := do
  let symbols ← Symbol.all? text.toList
  run? symbols .value []

mutual

/-- How many containers stand inside each other at most. -/
def nesting : Spelling → Nat
  | .array items => nestingItems items + 1
  | .object members => nestingMembers members + 1
  | _ => 0

def nestingItems : List Spelling → Nat
  | [] => 0
  | s :: ss => max (nesting s) (nestingItems ss)

def nestingMembers : List (List Piece × Spelling) → Nat
  | [] => 0
  | (_, s) :: ms => max (nesting s) (nestingMembers ms)

end

end Spelling

end ChatQuery.Json
