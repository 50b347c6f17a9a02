import ChatQuery.Diagnostic

/-!
Statement trees. A statement is headed by an opening word; its parts are literals and clauses, and a
clause owns the literals that directly follow its word. A mark that directly follows a literal
belongs to that literal, and any other mark belongs to nothing.
-/
namespace ChatQuery

/-- A literal with the mark that follows it. -/
structure Leaf where
  token : Token
  mark : Option Kind
  deriving DecidableEq

inductive Part
  | leaf (l : Leaf)
  | clause (head : Token) (leaves : List Leaf)
  deriving DecidableEq

structure Statement where
  head : Token
  parts : List Part
  deriving DecidableEq

/-- The text of a token, if it says anything. -/
def Token.content? (t : Token) : Option String := t.text.filter (· ≠ "")

/-- A literal that stands in no clause and says something. -/
def Part.isBare : Part → Bool
  | .leaf l => l.token.content?.isSome
  | .clause _ _ => false

/-- What is left of a group of tokens once marks have been joined to their literals. -/
inductive Element
  | leaf (l : Leaf)
  | word (t : Token)
  | stray (t : Token)
  deriving DecidableEq

namespace Element

def ofToken (t : Token) : Element :=
  if t.kind.isLiteral then .leaf ⟨t, none⟩ else if t.kind.isKeyword then .word t else .stray t

def ofTokens : List Token → List Element
  | [] => []
  | [t] => [ofToken t]
  | t :: m :: ts =>
    if t.kind.isLiteral ∧ m.kind.isMark then .leaf ⟨t, some m.kind⟩ :: ofTokens ts
    else ofToken t :: ofTokens (m :: ts)

/-- The literals at the front, which belong to what stands before them, and the parts after them. -/
def grouped : List Element → List Leaf × List Part
  | [] => ([], [])
  | .leaf l :: ps => (l :: (grouped ps).1, (grouped ps).2)
  | .word t :: ps => ([], .clause t (grouped ps).1 :: (grouped ps).2)
  | .stray _ :: ps => ([], (grouped ps).1.map .leaf ++ (grouped ps).2)

def parts (ps : List Element) : List Part := (grouped ps).1.map .leaf ++ (grouped ps).2

end Element

namespace Statement

/-- The tree of one group of tokens, which an opening word must head. -/
def ofGroup? : List Token → Except Diagnostic Statement
  | [] => .error ⟨0, .error⟩
  | head :: ts =>
    if head.kind.isOpener then .ok ⟨head, Element.parts (Element.ofTokens ts)⟩
    else .error ⟨head.index, .error⟩

def splitAtSemicolons : List Token → List (List Token)
  | [] => [[]]
  | t :: ts =>
    match splitAtSemicolons ts with
    | [] => if t.kind = .semicolon then [[], []] else [[t]]
    | g :: gs => if t.kind = .semicolon then [] :: g :: gs else (t :: g) :: gs

/-- The tokens before the end of the text. -/
def body (tokens : List Token) : List Token := tokens.takeWhile (·.kind ≠ .endOfText)

/-- The groups of tokens between semicolons, without layout and without empty groups. A token that
the language does not know refuses the whole text. -/
def groups? (tokens : List Token) : Except Diagnostic (List (List Token)) :=
  match (body tokens).find? (·.kind = .error) with
  | some t => .error ⟨t.index, .error⟩
  | none =>
    .ok ((splitAtSemicolons ((body tokens).filter (!·.kind.isTrivia))).filter (!·.isEmpty))

def ofTokens? (tokens : List Token) : Except Diagnostic (List Statement) := do
  let groups ← groups? tokens
  groups.mapM ofGroup?

end Statement

end ChatQuery
