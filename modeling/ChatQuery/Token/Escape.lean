/-!
Backslash escapes inside quoted strings and object literals. `resolve` reads one character of a
literal: the character meant, and how many further characters its spelling takes.
-/
namespace ChatQuery.Escape

def digit? (radix : Nat) (c : Char) : Option Nat :=
  let value? : Option Nat :=
    if c.isDigit then some (c.toNat - '0'.toNat)
    else if 'a' ≤ c ∧ c ≤ 'f' then some (c.toNat - 'a'.toNat + 10)
    else if 'A' ≤ c ∧ c ≤ 'F' then some (c.toNat - 'A'.toNat + 10)
    else none
  value?.filter (· < radix)

def number? (radix : Nat) : List Char → Option Nat
  | [] => some 0
  | ds => ds.foldlM (fun n d => (digit? radix d).map (n * radix + ·)) 0

/-- The character whose code is spelled by exactly `count` digits at the front of the text. -/
def coded? (radix count : Nat) (cs : List Char) : Option Char :=
  if (cs.take count).length = count then (number? radix (cs.take count)).map Char.ofNat else none

def named? : Char → Option Char
  | 'n' => some '\n'
  | 'r' => some '\r'
  | 't' => some '\t'
  | '\\' => some '\\'
  | '\'' => some '\''
  | '"' => some '"'
  | _ => none

/-- The escape after a backslash: a name, `x` with two hexadecimal digits, or three octal digits. -/
def afterBackslash? : List Char → Option (Char × Nat)
  | [] => none
  | d :: ds =>
    match named? d with
    | some e => some (e, 1)
    | none =>
      if d = 'x' then (coded? 16 2 ds).map (·, 3)
      else (coded? 8 3 (d :: ds)).map (·, 3)

/-- A backslash that begins no escape stands for itself. -/
def resolve (c : Char) (cs : List Char) : Char × Nat :=
  if c = '\\' then (afterBackslash? cs).getD (c, 0) else (c, 0)

theorem resolve_of_ne {c : Char} (h : c ≠ '\\') (cs : List Char) : resolve c cs = (c, 0) := by
  simp [resolve, h]

example : resolve '\\' "n!".toList = ('\n', 1) := by decide
example : resolve '\\' "x41!".toList = ('A', 3) := by decide
example : resolve '\\' "101!".toList = ('A', 3) := by decide
example : resolve '\\' "x4!".toList = ('\\', 0) := by decide
example : resolve '\\' "q".toList = ('\\', 0) := by decide
example : resolve '\\' [] = ('\\', 0) := by decide

end ChatQuery.Escape
