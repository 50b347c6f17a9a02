import ChatQuery.Statement

/-!
Statements made flat: the opening word, one target and a list of values. The grammar tables decide
which literals of a statement name its target and which are values.
-/
namespace ChatQuery

/-- A literal with a text, and the kind of place it was taken from. -/
structure Operand where
  index : Nat
  key : Kind
  text : String
  mark : Option Kind
  deriving DecidableEq

/-- Literals that say nothing are no operands. -/
def Leaf.operand? (l : Leaf) (key : Kind) : Option Operand :=
  l.token.content?.map fun text => ⟨l.token.index, key, text, l.mark⟩

structure Directive where
  head : Operand
  target : Option Operand
  values : List Operand
  deriving DecidableEq

/-- Whether a clause is headed by one of the words. -/
def Token.isOneOf (t : Token) (words : List Keyword) : Bool := words.any (t.kind = .keyword ·)

/-- Statements whose values are known by the clause they stand in. -/
def Kind.keysByClause : Kind → Bool
  | .keyword .listen | .keyword .read | .keyword .delete => true
  | _ => false

namespace Part

/-- The marked literals that may name the target of a statement with the opening word: those of the
target clauses for words that have them, and the ones outside clauses for all others. -/
def candidates (opening : Kind) : Part → List Leaf
  | .leaf l =>
    if opening.targetClauses.isEmpty ∧ l.token.content?.isSome ∧ l.mark.isSome then [l] else []
  | .clause t leaves =>
    if t.isOneOf opening.targetClauses then leaves.filter (·.mark.isSome) else []

/-- The values in a statement with the opening word. -/
def values (opening : Kind) : Part → List Operand
  | .leaf l => if opening = .keyword .listen then [] else (l.operand? l.token.kind).toList
  | .clause t leaves =>
    if t.isOneOf opening.valueClauses then
      leaves.filterMap fun l => l.operand? (if opening.keysByClause then t.kind else l.token.kind)
    else []

end Part

namespace Statement

def candidates (s : Statement) : List Leaf := s.parts.flatMap (Part.candidates s.head.kind)

/-- The last candidate names the target, unless it says nothing. -/
def target? (s : Statement) : Option Operand :=
  s.candidates.getLast?.bind fun l => l.operand? l.token.kind

def values (s : Statement) : List Operand := s.parts.flatMap (Part.values s.head.kind)

def directive (s : Statement) : Directive where
  head := ⟨s.head.index, s.head.kind, s.head.text.getD s.head.kind.label, none⟩
  target := s.target?
  values := s.values

end Statement

end ChatQuery
