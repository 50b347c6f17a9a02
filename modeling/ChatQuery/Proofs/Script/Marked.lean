import ChatQuery.Proofs.Compile.Order
import ChatQuery.Proofs.Script.Plain
import ChatQuery.Proofs.Script.Statements

/-!
Statements of marked literals: an opening word and texts between quotes, each with a mark behind it.
What is seen of such a text is the literal and its mark, and its tree has one leaf for each of them.
-/
namespace ChatQuery

variable {text : String} {listener : Listener}

/-- A text between quotes with a mark behind it. -/
def markedText (text : String) (m : Mark) : List Char :=
  ' ' :: '"' :: (guarded ['\\', '"'] text.toList ++ ['"', m.letter])

/-- The literal that is seen of it. -/
def markedLeaf (text : String) (m : Mark) : Leaf :=
  ⟨⟨0, .literal .string, some text⟩, some (.mark m)⟩

lemma seen_markedText (text : String) (m : Mark) {rest : List Char}
    (ended : Lexeme.endsMark rest = true) : seen (markedText text m ++ rest) =
      (markedLeaf text m).token :: ⟨0, .mark m, none⟩ :: seen rest := by
  have spelled : markedText text m ++ rest =
      ' ' :: '"' :: (guarded ['\\', '"'] text.toList ++ '"' :: m.letter :: rest) := by
    simp [markedText]
  rw [spelled, seen_blank (by decide), seen_string (by decide), seen_mark m ended,
    String.ofList_toList]
  rfl

lemma operand?_markedLeaf (m : Mark) (some_text : text ≠ "") :
    (markedLeaf text m).operand? (markedLeaf text m).token.kind =
      some ⟨0, .literal .string, text, some (.mark m)⟩ :=
  Leaf.operand?_of_content (Option.filter_eq_some_iff.mpr ⟨rfl, decide_eq_true some_text⟩) _

/-- The tokens of marked literals. -/
def markedTokens (ls : List (String × Mark)) : List Token :=
  ls.flatMap fun l => [(markedLeaf l.1 l.2).token, ⟨0, .mark l.2, none⟩]

lemma Element.parts_marked (ls : List (String × Mark)) :
    parts (ofTokens (markedTokens ls)) = ls.map fun l => .leaf (markedLeaf l.1 l.2) := by
  have leaves : ofTokens (markedTokens ls) =
      (ls.map fun l => markedLeaf l.1 l.2).map .leaf := by
    induction ls with
    | nil => rfl
    | cons l ls ih => exact congrArg (.leaf (markedLeaf l.1 l.2) :: ·) ih
  rw [leaves, parts, grouped_leaves, List.append_nil, List.map_map]
  rfl

/-- The tokens of an opening word with marked literals have that tree. -/
lemma Statement.ofTokens?_marked (o : Opener) (ls : List (String × Mark)) :
    ofTokens? (o.token :: markedTokens ls ++ [⟨0, .semicolon, none⟩, ⟨0, .endOfText, none⟩]) =
      .ok [⟨o.token, ls.map fun l => .leaf (markedLeaf l.1 l.2)⟩] := by
  have content : ∀ t ∈ markedTokens ls, t.kind.isContent = true := by
    intro t ht
    obtain ⟨l, -, hl⟩ := List.mem_flatMap.mp ht
    simp only [List.mem_cons, List.not_mem_nil, or_false] at hl
    rcases hl with rfl | rfl <;> rfl
  rw [ofTokens?_opened o content, Element.parts_marked]

namespace Script

/-- A statement that does not flip the raw flag compiles to its calls. -/
lemma ofDirectives?_single {d : Directive} {calls : List Call}
    (unflipped : d.head.key ≠ .keyword .raw) (h : d.calls? listener = .ok calls) :
    ofDirectives? listener [d] = .ok ⟨calls, 0⟩ := by
  refine (ofDirectives?_eq_ok_iff (List.forall_mem_singleton.mpr unflipped)).mpr
    ⟨[calls], ?_, by rw [List.flatten_singleton]⟩
  rw [List.mapM_cons, h]
  rfl

/-- A text in which a statement of marked literals is seen compiles to the calls of its directive.
-/
theorem compile?_marked {o : Opener} (unflipped : o ≠ .raw) (ls : List (String × Mark))
    {source : String} (hseen : seen source.toList =
      o.token :: markedTokens ls ++ [⟨0, .semicolon, none⟩, ⟨0, .endOfText, none⟩])
    {calls : List Call}
    (hcalls : (Statement.directive ⟨o.token, ls.map fun l => .leaf (markedLeaf l.1 l.2)⟩).calls?
      listener = .ok calls) :
    compile? listener source = .ok ⟨calls, 0⟩ := by
  rw [← toOption_eq_some, toOption_compile?_seen, hseen]
  unfold ofTokens?
  rw [Statement.ofTokens?_marked, toOption_ok, Option.bind_some, List.map_singleton,
    ofDirectives?_single (Opener.kind_ne unflipped) hcalls, toOption_ok]

end Script

end ChatQuery
