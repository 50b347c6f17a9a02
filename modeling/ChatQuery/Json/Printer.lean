import ChatQuery.Json
import ChatQuery.Double.Shortest

/-!
Writing JSON values: compactly on one line, or with one item a line and an indentation of two
blanks. Numbers are written with the fewest digits that read back.
-/
namespace ChatQuery.Json

def hexDigit (n : Nat) : Char := Nat.digitChar (n % 16)

/-- A character inside a string. Only quotes, backslashes and control characters are escaped. -/
def escaped (c : Char) : List Char :=
  match c with
  | '"' => ['\\', '"']
  | '\\' => ['\\', '\\']
  | '\x08' => ['\\', 'b']
  | '\x0c' => ['\\', 'f']
  | '\n' => ['\\', 'n']
  | '\r' => ['\\', 'r']
  | '\t' => ['\\', 't']
  | c =>
    if c.toNat < 0x20 then ['\\', 'u', '0', '0', hexDigit (c.toNat / 16), hexDigit c.toNat]
    else [c]

def quoted (s : String) : List Char := '"' :: s.toList.flatMap escaped ++ ['"']

/-- From which power of ten of the leading digit to which numbers are written without exponent. -/
def positional (power : Int) : Bool := -5 ≤ power ∧ power ≤ 15

def signed (power : Int) : List Char :=
  (if 0 ≤ power then '+' else '-') :: Nat.toDigits 10 power.natAbs

/-- The number `digits * 10 ^ power`, with at least one place after the point or an exponent. -/
def decimal (digits : Nat) (power : Int) : List Char :=
  let ds := Nat.toDigits 10 digits
  let leading := power + ds.length - 1
  if positional leading then
    if 0 ≤ power then ds ++ List.replicate power.toNat '0' ++ ['.', '0']
    else if 0 ≤ leading then
      ds.take (leading.toNat + 1) ++ '.' :: ds.drop (leading.toNat + 1)
    else '0' :: '.' :: List.replicate (-leading - 1).toNat '0' ++ ds
  else
    match ds with
    | [] => []
    | [d] => d :: 'e' :: signed leading
    | d :: ds => d :: '.' :: ds ++ 'e' :: signed leading

def floatLetters (x : Double) : List Char :=
  let magnitude :=
    if x.mantissa = 0 then ['0', '.', '0'] else decimal x.shortest.1 x.shortest.2
  if x.negative then '-' :: magnitude else magnitude

def integerLetters (i : Int) : List Char :=
  if i < 0 then '-' :: Nat.toDigits 10 i.natAbs else Nat.toDigits 10 i.natAbs

/-- What is written for the simple values. Containers have their own layouts. -/
def scalarLetters : Json → List Char
  | .null => ['n', 'u', 'l', 'l']
  | .bool true => ['t', 'r', 'u', 'e']
  | .bool false => ['f', 'a', 'l', 's', 'e']
  | .int i => integerLetters i
  | .float x => floatLetters x
  | .str s => quoted s
  | .arr _ | .obj _ => []

mutual

def compactLetters : Json → List Char
  | .arr items => '[' :: compactItems items ++ [']']
  | .obj fields => '{' :: compactFields fields ++ ['}']
  | v => scalarLetters v

def compactItems : List Json → List Char
  | [] => []
  | [v] => compactLetters v
  | v :: vs => compactLetters v ++ ',' :: compactItems vs

def compactFields : List (String × Json) → List Char
  | [] => []
  | [(k, v)] => quoted k ++ ':' :: compactLetters v
  | (k, v) :: fs => quoted k ++ ':' :: compactLetters v ++ ',' :: compactFields fs

end

def newline (depth : Nat) : List Char := '\n' :: List.replicate (2 * depth) ' '

mutual

/-- A value whose lines after the first are indented by `depth` steps. -/
def prettyLetters (depth : Nat) : Json → List Char
  | .arr [] => ['[', ']']
  | .arr items => '[' :: prettyItems (depth + 1) items ++ newline depth ++ [']']
  | .obj [] => ['{', '}']
  | .obj fields => '{' :: prettyFields (depth + 1) fields ++ newline depth ++ ['}']
  | v => scalarLetters v

def prettyItems (depth : Nat) : List Json → List Char
  | [] => []
  | [v] => newline depth ++ prettyLetters depth v
  | v :: vs => newline depth ++ prettyLetters depth v ++ ',' :: prettyItems depth vs

def prettyFields (depth : Nat) : List (String × Json) → List Char
  | [] => []
  | [(k, v)] => newline depth ++ quoted k ++ ':' :: ' ' :: prettyLetters depth v
  | (k, v) :: fs =>
    newline depth ++ quoted k ++ ':' :: ' ' :: prettyLetters depth v ++
      ',' :: prettyFields depth fs

end

def compact (v : Json) : String := String.ofList (compactLetters v)

def pretty (v : Json) : String := String.ofList (prettyLetters 0 v)

end ChatQuery.Json
