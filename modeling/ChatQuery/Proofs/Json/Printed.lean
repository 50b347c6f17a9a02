import ChatQuery.Json.Printer
import ChatQuery.Json.Reader
import Mathlib.Data.List.Basic

/-!
What is printed is read back. A printed text is read symbol by symbol whatever follows it, so the
symbols of an object are those of its fields, one field after the other, and these build the object
again.
-/
namespace ChatQuery.Json

variable {cs ds rest : List Char} {ss ts : List Symbol}

/-- How a printed character is read inside a string: a control character that has no name is written
as a code unit. -/
def piece (c : Char) : Piece :=
  match c with
  | '\x08' | '\x0c' | '\n' | '\r' | '\t' => .char c
  | c => if c.toNat < 0x20 then .code c.toNat else .char c

/-- How a printed string is read. -/
def spelled (s : String) : List Piece := s.toList.map piece

lemma number?_hexDigits {n : Nat} (h : n < 0x20) :
    Escape.number? 16 ['0', '0', hexDigit (n / 16), hexDigit n] = some n := by
  revert n
  decide +kernel

lemma pieces_escaped (c : Char) (cs : List Char) :
    Symbol.pieces (escaped c ++ cs) =
      (Symbol.pieces cs).bind fun p => some (piece c :: p.1, p.2) := by
  unfold escaped
  split
  case h_8 quote backslash backspace formFeed lineFeed carriageReturn tab =>
    by_cases control : c.toNat < 0x20
    · have printed : piece c = .code c.toNat := by
        unfold piece
        split <;> simp_all
      rw [if_pos control, printed]
      simp [Symbol.pieces, number?_hexDigits control]
    · have printed : piece c = .char c := by
        unfold piece
        split <;> simp_all
      rw [if_neg control, printed, List.singleton_append, Symbol.pieces,
        if_neg (not_or_intro control backslash)]
      · rfl
      · exact quote
      · exact fun _ _ _ _ _ h _ => backslash h
      · exact fun _ _ h _ => backslash h
  all_goals rfl

/-- A printed string ends at its own closing quote. -/
lemma pieces_letters (cs rest : List Char) :
    Symbol.pieces (cs.flatMap escaped ++ '"' :: rest) = some (cs.map piece, rest) := by
  induction cs with
  | nil => rfl
  | cons c cs ih =>
    rw [List.flatMap_cons, List.append_assoc, pieces_escaped, ih]
    rfl

lemma letters?_piece (c : Char) (ps : List Piece) :
    letters? (piece c :: ps) = (letters? ps).map (c :: ·) := by
  unfold piece
  split
  case h_6 =>
    split_ifs with control
    · have unit : c.toNat < 0xD800 ∨ 0xDFFF < c.toNat := .inl (by omega)
      rw [letters?.eq_def]
      simp only [if_pos unit, Char.ofNat_toNat]
    · rfl
  all_goals rfl

/-- A printed string denotes what was printed. -/
theorem text?_spelled (s : String) : text? (spelled s) = some s := by
  have letters (cs : List Char) : letters? (cs.map piece) = some cs := by
    induction cs with
    | nil => rfl
    | cons c cs ih => rw [List.map_cons, letters?_piece, ih, Option.map_some]
  rw [text?, spelled, letters, Option.map_some, String.ofList_toList]

/-- The letters are read as the symbols, whatever follows. -/
def Prints (cs : List Char) (ss : List Symbol) : Prop :=
  ∀ rest, Symbol.all? (cs ++ rest) = (Symbol.all? rest).map (ss ++ ·)

namespace Prints

lemma append (h : Prints cs ss) (h' : Prints ds ts) : Prints (cs ++ ds) (ss ++ ts) := by
  intro rest
  rw [List.append_assoc, h, h', Option.map_map]
  congr 1
  funext symbols
  simp

lemma of_scan {c : Char} {s : Symbol} (visible : Symbol.isBlank c = false)
    (h : ∀ rest, Symbol.scan? c (cs ++ rest) = some (s, rest)) : Prints (c :: cs) [s] := by
  intro rest
  rw [List.cons_append, Symbol.all?, if_neg (by simp [visible])]
  split
  · next failed =>
    rw [h] at failed
    cases failed
  · next symbol others scanned =>
    rw [h] at scanned
    cases scanned
    rfl

lemma blank (h : ∀ c ∈ cs, Symbol.isBlank c = true) : Prints cs [] := by
  intro rest
  induction cs with
  | nil => simp
  | cons c cs ih =>
    obtain ⟨hc, hcs⟩ := List.forall_mem_cons.mp h
    rw [List.cons_append, Symbol.all?, if_pos hc, ih hcs]

lemma newline (depth : Nat) : Prints (newline depth) [] := by
  refine blank (List.forall_mem_cons.mpr ⟨rfl, fun c hc => ?_⟩)
  rw [List.eq_of_mem_replicate hc]
  rfl

lemma quoted (s : String) : Prints (quoted s) [.string (spelled s)] := by
  refine of_scan rfl fun rest => ?_
  rw [Symbol.scan?, List.append_eq, List.append_assoc, List.singleton_append, pieces_letters]
  rfl

end Prints

/-- Values that are neither numbers nor containers. -/
inductive Simple
  | null
  | bool (b : Bool)
  | text (s : String)

namespace Simple

def ofOption : Option String → Simple
  | none => .null
  | some s => .text s

def toJson : Simple → Json
  | .null => .null
  | .bool b => .bool b
  | .text s => .str s

def symbol : Simple → Symbol
  | .null => .null
  | .bool b => .bool b
  | .text s => .string (spelled s)

def spelling : Simple → Spelling
  | .null => .null
  | .bool b => .bool b
  | .text s => .string (spelled s)

lemma toJson_ofOption (o : Option String) : (ofOption o).toJson = .ofOption o := by
  cases o <;> rfl

lemma prints (depth : Nat) (v : Simple) : Prints (prettyLetters depth v.toJson) [v.symbol] := by
  cases v with
  | null => exact .of_scan rfl fun _ => rfl
  | bool b => cases b <;> exact .of_scan rfl fun _ => rfl
  | text s => exact .quoted s

end Simple

/-- Fields with simple values. -/
abbrev Fields : Type := List (String × Simple)

namespace Fields

def toJson (fs : Fields) : List (String × Json) := fs.map fun f => (f.1, f.2.toJson)

def symbols : Fields → List Symbol
  | [] => []
  | [(k, v)] => [.string (spelled k), .colon, v.symbol]
  | (k, v) :: fs => .string (spelled k) :: .colon :: v.symbol :: .comma :: symbols fs

def spelling (fs : Fields) : List (List Piece × Spelling) :=
  fs.map fun f => (spelled f.1, f.2.spelling)

lemma prints (depth : Nat) (fs : Fields) : Prints (prettyFields depth fs.toJson) fs.symbols := by
  have field (k : String) (v : Simple) :
      Prints (newline depth ++ quoted k ++ ':' :: ' ' :: prettyLetters depth v.toJson)
        [.string (spelled k), .colon, v.symbol] := by
    have colon : Prints [':'] [.colon] := .of_scan rfl fun _ => rfl
    have blank : Prints [' '] [] := .blank (List.forall_mem_singleton.mpr rfl)
    exact ((Prints.newline depth).append (.quoted k)).append
      (colon.append (blank.append (v.prints depth)))
  have comma : Prints [','] [.comma] := .of_scan rfl fun _ => rfl
  induction fs with
  | nil => exact .blank (List.forall_mem_nil _)
  | cons f fs ih =>
    cases fs with
    | nil => exact field f.1 f.2
    | cons g gs => exact (field f.1 f.2).append (comma.append ih)

/-- The symbols of the fields complete the object that is open. -/
lemma run?_symbols (f : String × Simple) (fs : Fields) (ss : List Symbol)
    (ms : List (List Piece × Spelling)) (frames : List Spelling.Frame) :
    Spelling.run? (symbols (f :: fs) ++ .endObject :: ss) .name (.object ms :: frames) =
      Spelling.run? ss (.done (.object (ms.reverse ++ spelling (f :: fs)))) frames := by
  have value (f : String × Simple) (ms : List (List Piece × Spelling)) (ss : List Symbol) :
      Spelling.run? (.string (spelled f.1) :: .colon :: f.2.symbol :: ss) .name
          (.object ms :: frames) =
        Spelling.run? ss (.done f.2.spelling) (.member ms (spelled f.1) :: frames) := by
    obtain ⟨k, v⟩ := f
    cases v <;> rfl
  induction fs generalizing f ms with
  | nil =>
    have closed : Spelling.run? (.endObject :: ss) (.done f.2.spelling)
        (.member ms (spelled f.1) :: frames) =
          Spelling.run? ss (.done (.object ((spelled f.1, f.2.spelling) :: ms).reverse)) frames :=
      rfl
    rw [List.reverse_cons] at closed
    exact (value f ms _).trans closed
  | cons g gs ih =>
    have rest := ih g ((spelled f.1, f.2.spelling) :: ms)
    rw [List.reverse_cons, List.append_assoc] at rest
    exact (value f ms _).trans rest

/-- An object of simple values that is printed is spelled field by field. -/
theorem ofText?_pretty (fs : Fields) :
    Spelling.ofText? (Json.obj fs.toJson).pretty = some (.object fs.spelling) := by
  have opening : Prints ['{'] [.beginObject] := .of_scan rfl fun _ => rfl
  have closing : Prints ['}'] [.endObject] := .of_scan rfl fun _ => rfl
  have read {cs : List Char} {ss : List Symbol} (h : Prints cs ss) : Symbol.all? cs = some ss := by
    simpa [Symbol.all?] using h []
  rw [Spelling.ofText?, pretty, String.toList_ofList]
  cases fs with
  | nil =>
    have letters : prettyLetters 0 (.obj (toJson [])) = ['{'] ++ ['}'] := rfl
    rw [letters, read (opening.append closing)]
    rfl
  | cons f fs =>
    have letters : prettyLetters 0 (.obj (toJson (f :: fs))) =
        ['{'] ++ (prettyFields 1 (toJson (f :: fs)) ++ (newline 0 ++ ['}'])) := by
      simp [prettyLetters, toJson]
    rw [letters, read (opening.append ((prints 1 (f :: fs)).append
      ((Prints.newline 0).append closing)))]
    -- An object that has just been opened takes a name as one does behind a comma.
    have opened : Spelling.run? (.beginObject :: (symbols (f :: fs) ++ [.endObject])) .value [] =
        Spelling.run? (symbols (f :: fs) ++ [.endObject]) .name [.object []] := by
      obtain ⟨k, v⟩ := f
      cases fs <;> rfl
    exact opened.trans (run?_symbols f fs [] [] [])

end Fields

end ChatQuery.Json
