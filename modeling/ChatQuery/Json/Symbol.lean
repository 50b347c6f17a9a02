import ChatQuery.Token.Escape

/-!
The symbols that a JSON text is made of, with strings and numbers as they are written: escaped code
units stay numbers, and numerals stay digits.
-/
namespace ChatQuery.Json

/-- A number as written: an optional sign, digits, and the digits of a fraction and of an exponent
where there are any. -/
structure Numeral where
  negative : Bool
  whole : List Char
  fraction : List Char
  exponent : Option (Bool × List Char)
  deriving DecidableEq

/-- A piece of a string: a character, or a code unit written with four hexadecimal digits. -/
inductive Piece
  | char (c : Char)
  | code (unit : Nat)
  deriving DecidableEq

/-- The symbols of a JSON text. -/
inductive Symbol
  | beginArray | endArray | beginObject | endObject | comma | colon
  | null
  | bool (b : Bool)
  | number (n : Numeral)
  | string (pieces : List Piece)
  deriving DecidableEq

namespace Symbol

def isBlank (c : Char) : Bool := c = ' ' ∨ c = '\t' ∨ c = '\n' ∨ c = '\r'

def named? : Char → Option Char
  | '"' => some '"'
  | '\\' => some '\\'
  | '/' => some '/'
  | 'b' => some '\x08'
  | 'f' => some '\x0c'
  | 'n' => some '\n'
  | 'r' => some '\r'
  | 't' => some '\t'
  | _ => none

/-- The pieces of a string up to its closing quote, and what follows it. Control characters must be
escaped. -/
def pieces : List Char → Option (List Piece × List Char)
  | [] => none
  | '"' :: cs => some ([], cs)
  | '\\' :: 'u' :: a :: b :: c :: d :: cs => do
    let unit ← Escape.number? 16 [a, b, c, d]
    let (ps, rest) ← pieces cs
    some (.code unit :: ps, rest)
  | '\\' :: e :: cs => do
    let c ← named? e
    let (ps, rest) ← pieces cs
    some (.char c :: ps, rest)
  | c :: cs =>
    if c.toNat < 0x20 ∨ c = '\\' then none
    else do
      let (ps, rest) ← pieces cs
      some (.char c :: ps, rest)

/-- The digits at the front, of which there must be one. -/
def digits? (cs : List Char) : Option (List Char × List Char) :=
  match cs.takeWhile Char.isDigit with
  | [] => none
  | ds => some (ds, cs.dropWhile Char.isDigit)

def fraction? : List Char → Option (List Char × List Char)
  | '.' :: cs => digits? cs
  | cs => some ([], cs)

def exponentDigits? : List Char → Option ((Bool × List Char) × List Char)
  | '-' :: cs => (digits? cs).map fun p => ((true, p.1), p.2)
  | '+' :: cs => (digits? cs).map fun p => ((false, p.1), p.2)
  | cs => (digits? cs).map fun p => ((false, p.1), p.2)

def exponent? : List Char → Option (Option (Bool × List Char) × List Char)
  | 'e' :: cs => (exponentDigits? cs).map fun p => (some p.1, p.2)
  | 'E' :: cs => (exponentDigits? cs).map fun p => (some p.1, p.2)
  | cs => some (none, cs)

/-- A number whose sign has been read. A whole part of several digits does not begin with zero. -/
def unsigned? (negative : Bool) (cs : List Char) : Option (Numeral × List Char) := do
  let (whole, cs) ← digits? cs
  if whole.head? = some '0' ∧ whole.length ≠ 1 then none
  else
    let (fraction, cs) ← fraction? cs
    let (exponent, cs) ← exponent? cs
    some (⟨negative, whole, fraction, exponent⟩, cs)

/-- The symbol that begins with `c`, and what follows it. -/
def scan? (c : Char) (cs : List Char) : Option (Symbol × List Char) :=
  match c, cs with
  | '[', _ => some (.beginArray, cs)
  | ']', _ => some (.endArray, cs)
  | '{', _ => some (.beginObject, cs)
  | '}', _ => some (.endObject, cs)
  | ',', _ => some (.comma, cs)
  | ':', _ => some (.colon, cs)
  | '"', _ => (pieces cs).map fun p => (.string p.1, p.2)
  | 'n', 'u' :: 'l' :: 'l' :: rest => some (.null, rest)
  | 't', 'r' :: 'u' :: 'e' :: rest => some (.bool true, rest)
  | 'f', 'a' :: 'l' :: 's' :: 'e' :: rest => some (.bool false, rest)
  | '-', _ => (unsigned? true cs).map fun p => (.number p.1, p.2)
  | _, _ => (unsigned? false (c :: cs)).map fun p => (.number p.1, p.2)

theorem pieces_length {cs rest : List Char} {ps : List Piece} (h : pieces cs = some (ps, rest)) :
    rest.length < cs.length := by
  fun_induction pieces cs generalizing ps with
  | case1 => simp at h
  | case2 cs =>
    obtain ⟨-, rfl⟩ := Prod.mk.inj (Option.some.inj h)
    simp
  | case3 a b c d cs ih =>
    simp only [Option.bind_eq_bind, Option.bind_eq_some_iff, Option.some.injEq,
      Prod.mk.injEq] at h
    obtain ⟨u, -, ⟨qs, r⟩, hr, -, rfl⟩ := h
    have : r.length < cs.length := ih hr
    simp only [List.length_cons]
    omega
  | case4 e cs _ ih =>
    simp only [Option.bind_eq_bind, Option.bind_eq_some_iff, Option.some.injEq,
      Prod.mk.injEq] at h
    obtain ⟨c, -, ⟨qs, r⟩, hr, -, rfl⟩ := h
    have : r.length < cs.length := ih hr
    simp only [List.length_cons]
    omega
  | case5 => simp at h
  | case6 c cs _ _ _ _ ih =>
    simp only [Option.bind_eq_bind, Option.bind_eq_some_iff, Option.some.injEq,
      Prod.mk.injEq] at h
    obtain ⟨⟨qs, r⟩, hr, -, rfl⟩ := h
    have : r.length < cs.length := ih hr
    simp only [List.length_cons]
    omega

theorem length_dropWhile_le {α : Type} (p : α → Bool) (xs : List α) :
    (xs.dropWhile p).length ≤ xs.length := (List.dropWhile_suffix p).length_le

theorem digits?_length {cs ds rest : List Char} (h : digits? cs = some (ds, rest)) :
    rest.length < cs.length := by
  unfold digits? at h
  split at h
  · simp at h
  · rename_i hds
    obtain ⟨-, rfl⟩ := Prod.mk.inj (Option.some.inj h)
    cases cs with
    | nil => exact absurd rfl hds
    | cons c cs =>
      cases hc : c.isDigit with
      | false => exact absurd (by simp [hc]) hds
      | true =>
        rw [List.dropWhile_cons_of_pos hc]
        have := length_dropWhile_le Char.isDigit cs
        simp only [List.length_cons]
        omega

theorem fraction?_length {cs ds rest : List Char} (h : fraction? cs = some (ds, rest)) :
    rest.length ≤ cs.length := by
  unfold fraction? at h
  split at h
  · have := digits?_length h
    simp only [List.length_cons]
    omega
  · obtain ⟨-, rfl⟩ := Prod.mk.inj (Option.some.inj h)
    exact Nat.le_refl _

theorem exponentDigits?_length {cs rest : List Char} {e : Bool × List Char}
    (h : exponentDigits? cs = some (e, rest)) : rest.length < cs.length := by
  unfold exponentDigits? at h
  split at h <;>
  · obtain ⟨⟨ds, r⟩, hd, he⟩ := Option.map_eq_some_iff.mp h
    obtain ⟨-, rfl⟩ := Prod.mk.inj he
    have := digits?_length hd
    simp only [List.length_cons] at *
    omega

theorem exponent?_length {cs rest : List Char} {e : Option (Bool × List Char)}
    (h : exponent? cs = some (e, rest)) : rest.length ≤ cs.length := by
  unfold exponent? at h
  split at h
  · obtain ⟨⟨ds, r⟩, hd, he⟩ := Option.map_eq_some_iff.mp h
    obtain ⟨-, rfl⟩ := Prod.mk.inj he
    have := exponentDigits?_length hd
    simp only [List.length_cons]
    omega
  · obtain ⟨⟨ds, r⟩, hd, he⟩ := Option.map_eq_some_iff.mp h
    obtain ⟨-, rfl⟩ := Prod.mk.inj he
    have := exponentDigits?_length hd
    simp only [List.length_cons]
    omega
  · obtain ⟨-, rfl⟩ := Prod.mk.inj (Option.some.inj h)
    exact Nat.le_refl _

theorem unsigned?_length {negative : Bool} {cs rest : List Char} {n : Numeral}
    (h : unsigned? negative cs = some (n, rest)) : rest.length < cs.length := by
  simp only [unsigned?, Option.bind_eq_bind, Option.bind_eq_some_iff] at h
  obtain ⟨⟨whole, r₁⟩, hw, h⟩ := h
  split at h
  · simp at h
  · simp only [Option.bind_eq_some_iff, Option.some.injEq, Prod.mk.injEq] at h
    obtain ⟨⟨fraction, r₂⟩, hf, ⟨exponent, r₃⟩, he, -, rfl⟩ := h
    have : r₁.length < cs.length := digits?_length hw
    have : r₂.length ≤ r₁.length := fraction?_length hf
    have : r₃.length ≤ r₂.length := exponent?_length he
    show r₃.length < cs.length
    omega

/-- A symbol takes at least one character. -/
theorem scan?_length {c : Char} {cs rest : List Char} {s : Symbol}
    (h : scan? c cs = some (s, rest)) : rest.length ≤ cs.length := by
  unfold scan? at h
  split at h
  case h_7 =>
    obtain ⟨⟨ps, r⟩, hp, he⟩ := Option.map_eq_some_iff.mp h
    obtain ⟨-, rfl⟩ := Prod.mk.inj he
    exact Nat.le_of_lt (pieces_length hp)
  case h_11 =>
    obtain ⟨⟨n, r⟩, hn, he⟩ := Option.map_eq_some_iff.mp h
    obtain ⟨-, rfl⟩ := Prod.mk.inj he
    exact Nat.le_of_lt (unsigned?_length hn)
  case h_12 =>
    obtain ⟨⟨n, r⟩, hn, he⟩ := Option.map_eq_some_iff.mp h
    obtain ⟨-, rfl⟩ := Prod.mk.inj he
    exact Nat.le_of_lt_succ (unsigned?_length hn)
  case h_8 | h_9 | h_10 =>
    obtain ⟨-, rfl⟩ := Prod.mk.inj (Option.some.inj h)
    simp only [List.length_cons]
    omega
  all_goals
    obtain ⟨-, rfl⟩ := Prod.mk.inj (Option.some.inj h)
    exact Nat.le_refl _

/-- The symbols of a text. -/
def all? : List Char → Option (List Symbol)
  | [] => some []
  | c :: cs =>
    if isBlank c then all? cs
    else
      match _h : scan? c cs with
      | none => none
      | some (s, rest) => (all? rest).map (s :: ·)
termination_by cs => cs.length
decreasing_by
  · exact Nat.lt_succ_self _
  · exact Nat.lt_succ_of_le (scan?_length _h)

end Symbol

end ChatQuery.Json
