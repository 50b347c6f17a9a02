import ChatQuery.Json.Number

/-!
Reading JSON texts. A text is read if every string in it denotes characters, every number is in
range and its containers are not nested too deeply.
-/
namespace ChatQuery.Json

/-- Containers may be nested this deep. -/
def maxNesting : Nat := 127

/-- The character that two code units of a surrogate pair denote. -/
def surrogates (high low : Nat) : Char :=
  Char.ofNat (0x10000 + (high - 0xD800) * 0x400 + (low - 0xDC00))

/-- The characters that the pieces of a string denote. A surrogate code unit that is not part of a
pair denotes none. -/
def letters? : List Piece → Option (List Char)
  | [] => some []
  | .char c :: ps => (letters? ps).map (c :: ·)
  | .code u :: ps =>
    if u < 0xD800 ∨ 0xDFFF < u then (letters? ps).map (Char.ofNat u :: ·)
    else if 0xDC00 ≤ u then none
    else
      match ps with
      | .code v :: ps =>
        if 0xDC00 ≤ v ∧ v ≤ 0xDFFF then (letters? ps).map (surrogates u v :: ·) else none
      | _ => none

def text? (pieces : List Piece) : Option String := (letters? pieces).map String.ofList

namespace Spelling

mutual

/-- The value that a spelling denotes. Of several fields of one name the last counts. -/
def value? : Spelling → Option Json
  | .null => some .null
  | .bool b => some (.bool b)
  | .number n => n.value?
  | .string ps => (text? ps).map .str
  | .array items => (items? items).map .arr
  | .object members => (members? members).map .record

def items? : List Spelling → Option (List Json)
  | [] => some []
  | s :: ss => do
    let v ← value? s
    let vs ← items? ss
    some (v :: vs)

def members? : List (List Piece × Spelling) → Option (List (String × Json))
  | [] => some []
  | (ps, s) :: ms => do
    let name ← text? ps
    let v ← value? s
    let fields ← members? ms
    some ((name, v) :: fields)

end

end Spelling

/-- The value that a text denotes. -/
def read? (text : String) : Option Json := do
  let s ← Spelling.ofText? text
  if s.nesting ≤ maxNesting then s.value? else none

end ChatQuery.Json
