import ChatQuery.Token
import ChatQuery.Token.Escape

/-!
Reading tokens off a source text. `Lexeme.scan` reads one lexical unit from the front of a text;
a `Cursor` walks over the text one unit at a time and stays at the end once it is there.
-/
namespace ChatQuery

/-- A lexical unit with the characters that spell it. `text` is what a literal or word says, and is
empty for every other unit. -/
structure Lexeme where
  kind : Kind
  text : String
  spelling : List Char
  deriving DecidableEq

namespace Lexeme

def isBlank (c : Char) : Bool := c = ' ' ∨ ('\t' ≤ c ∧ c ≤ '\r')

def isLineEnd (c : Char) : Bool := c = '\n' ∨ c = '\r'

/-- A run of blanks ends right after its first line end. -/
def blanks : List Char → Kind × List Char
  | [] => (.whitespace, [])
  | c :: cs =>
    if isBlank c then
      if isLineEnd c then (.newline, [c]) else ((blanks cs).1, c :: (blanks cs).2)
    else (.whitespace, [])

/-- A string up to its closing quote or the end of the text: what it says and how it is spelled. -/
def quoted (quote : Char) : List Char → List Char × List Char
  | [] => ([], [])
  | c :: cs =>
    if c = quote then ([], [c])
    else
      let unit := Escape.resolve c cs
      let following := quoted quote (cs.drop unit.2)
      (unit.1 :: following.1, c :: cs.take unit.2 ++ following.2)
termination_by cs => cs.length
decreasing_by simp only [List.length_drop, List.length_cons]; omega

/-- An object up to the brace that closes the last of `depth` open ones. Braces that are still open
at the end of the text are closed there. -/
def braced (depth : Nat) : List Char → List Char × List Char
  | [] => (List.replicate depth '}', [])
  | c :: cs =>
    let unit := Escape.resolve c cs
    if unit.1 = '}' ∧ depth ≤ 1 then (['}'], c :: cs.take unit.2)
    else
      let inner := if unit.1 = '{' then depth + 1 else if unit.1 = '}' then depth - 1 else depth
      let following := braced inner (cs.drop unit.2)
      (unit.1 :: following.1, c :: cs.take unit.2 ++ following.2)
termination_by cs => cs.length
decreasing_by simp only [List.length_drop, List.length_cons]; omega

/-- Digits, and a fraction if a digit follows the point. -/
def digits (cs : List Char) : List Char :=
  cs.takeWhile Char.isDigit ++
    match cs.dropWhile Char.isDigit with
    | '.' :: d :: ds => if d.isDigit then '.' :: (d :: ds).takeWhile Char.isDigit else []
    | _ => []

def isWordLetter (c : Char) : Bool := c.isAlphanum ∨ c = '_'

/-- Letters, digits and underscores, and one `!` or `?` after them. -/
def word (cs : List Char) : List Char :=
  cs.takeWhile isWordLetter ++
    match cs.dropWhile isWordLetter with
    | '!' :: _ => ['!']
    | '?' :: _ => ['?']
    | _ => []

/-- A mark stands alone: blanks, a semicolon or the end of the text follow it. -/
def endsMark : List Char → Bool
  | [] => true
  | c :: _ => isBlank c ∨ c = ';'

def bare (kind : Kind) (spelling : List Char) : Lexeme := ⟨kind, "", spelling⟩

def number (c : Char) (cs : List Char) : Lexeme :=
  ⟨.literal .number, String.ofList (c :: digits cs), c :: digits cs⟩

/-- A word that is not reserved is an error that keeps its text. -/
def reserved (c : Char) (cs : List Char) : Lexeme :=
  let letters := c :: word cs
  ⟨((Keyword.ofLetters? letters).map .keyword).getD .error, String.ofList letters, letters⟩

def wordOrNumber (c : Char) (cs : List Char) : Lexeme :=
  if c.isDigit then number c cs
  else if c.isAlpha then reserved c cs
  else bare .error [c]

/-- The lexical unit at the front of `c :: cs`. -/
def scan (c : Char) (cs : List Char) : Lexeme :=
  if isBlank c then bare (blanks (c :: cs)).1 (blanks (c :: cs)).2
  else if c = '#' then bare .comment (c :: cs.takeWhile fun d => !isLineEnd d)
  else if c = ';' then bare .semicolon [c]
  else if c = '{' then
    ⟨.literal .object, String.ofList (c :: (braced 1 cs).1), c :: (braced 1 cs).2⟩
  else if c = '"' ∨ c = '\'' then
    ⟨.literal .string, String.ofList (quoted c cs).1, c :: (quoted c cs).2⟩
  else
    match Mark.ofLetter? c with
    | some m => if endsMark cs then bare (.mark m) [c] else wordOrNumber c cs
    | none => wordOrNumber c cs

/-- The reserved word that the unit is, if it is one. -/
def keyword? (l : Lexeme) : Option Keyword :=
  match l.kind with
  | .keyword k => some k
  | _ => none

/-- Tokens keep the text of literals and reserved words only. -/
def toToken (l : Lexeme) (index : Nat) : Token :=
  ⟨index, l.kind, if l.kind.isLiteral ∨ l.kind.isKeyword then some l.text else none⟩

def endOfText : Lexeme := bare .endOfText []

end Lexeme

/-- A place in a source text: its byte offset and the text from there on. -/
structure Cursor where
  index : Nat
  rest : List Char
  deriving DecidableEq

namespace Cursor

def start (source : String) : Cursor := ⟨0, source.toList⟩

def lexeme (p : Cursor) : Lexeme :=
  match p.rest with
  | [] => Lexeme.endOfText
  | c :: cs => Lexeme.scan c cs

/-- The place after the unit at the cursor. At the end of the text it is the same place. -/
def advance (p : Cursor) : Cursor :=
  match p.rest with
  | [] => p
  | c :: cs =>
    let spelling := (Lexeme.scan c cs).spelling
    ⟨p.index + byteLength spelling, cs.drop (spelling.length - 1)⟩

def atEnd (p : Cursor) : Bool := p.rest.isEmpty

theorem length_advance_lt {p : Cursor} (h : ¬ p.atEnd) :
    p.advance.rest.length < p.rest.length := by
  obtain ⟨i, r⟩ := p
  cases r with
  | nil => simp [atEnd] at h
  | cons c cs => simp only [advance, List.length_drop, List.length_cons]; omega

/-- The places of all units up to and including the end of the text. -/
def places (p : Cursor) : List Cursor :=
  if _ : p.atEnd then [p] else p :: places p.advance
termination_by p.rest.length
decreasing_by exact length_advance_lt ‹_›

def token (p : Cursor) : Token := p.lexeme.toToken p.index

end Cursor

/-- All tokens of a source text. The last one, and only it, is the end of the text. -/
def tokenize (source : String) : List Token :=
  (Cursor.start source).places.map Cursor.token

end ChatQuery
