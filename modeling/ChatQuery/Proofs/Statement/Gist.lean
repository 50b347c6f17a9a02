import ChatQuery.Proofs.Compile.Gist

/-!
Places do not matter to the trees of statements either: tokens of one gist have trees of one gist,
and these are made flat to directives of one gist. The gist of a token that is a reserved word also
leaves its spelling out.
-/
namespace ChatQuery

/-- The token without its place, and without its spelling if it is a reserved word. -/
def Token.gist (t : Token) : Token := ⟨0, t.kind, if t.kind.isKeyword then none else t.text⟩

@[simp] lemma Token.gist_kind (t : Token) : t.gist.kind = t.kind := (rfl)

def Leaf.gist (l : Leaf) : Leaf := { l with token := { l.token with index := 0 } }

namespace Element

def gist : Element → Element
  | .leaf l => .leaf l.gist
  | .word t => .word t.gist
  | .stray t => .stray t.gist

end Element

namespace Part

def gist : Part → Part
  | .leaf l => .leaf l.gist
  | .clause head leaves => .clause head.gist (leaves.map Leaf.gist)

end Part

def Statement.gist (s : Statement) : Statement := ⟨s.head.gist, s.parts.map Part.gist⟩

lemma Leaf.gist_of_literal {t : Token} (h : t.kind.isLiteral = true) (mark : Option Kind) :
    Leaf.gist ⟨t, mark⟩ = ⟨t.gist, mark⟩ := by
  obtain ⟨i, kind, text⟩ := t
  cases kind with
  | literal l => rfl
  | _ => cases h

namespace Element

lemma gist_ofToken (t : Token) : ofToken t.gist = (ofToken t).gist := by
  unfold ofToken
  rw [Token.gist_kind]
  split_ifs with literal
  · exact congrArg Element.leaf (Leaf.gist_of_literal literal none).symm
  · rfl
  · rfl

lemma gist_ofTokens (ts : List Token) : ofTokens (ts.map Token.gist) = (ofTokens ts).map gist := by
  fun_induction ofTokens ts with
  | case1 => rfl
  | case2 t => exact congrArg (fun e => [e]) (gist_ofToken t)
  | case3 t m ts h ih =>
    rw [List.map_cons, List.map_cons, ofTokens, if_pos (by exact h), ih, List.map_cons]
    exact congrArg (Element.leaf · :: _) (Leaf.gist_of_literal h.1 _).symm
  | case4 t m ts h ih =>
    rw [List.map_cons, List.map_cons, ofTokens, if_neg (by exact h), gist_ofToken]
    exact congrArg _ ih

lemma gist_grouped (es : List Element) :
    grouped (es.map gist) = ((grouped es).1.map Leaf.gist, (grouped es).2.map Part.gist) := by
  induction es with
  | nil => rfl
  | cons e es ih =>
    cases e with
    | leaf l => simp only [List.map_cons, gist, grouped, ih]
    | word t => simp only [List.map_cons, gist, grouped, ih, List.map_nil, Part.gist]
    | stray t =>
      simp only [List.map_cons, gist, grouped, ih, List.map_nil, List.map_append, List.map_map]
      rfl

lemma gist_parts (es : List Element) : parts (es.map gist) = (parts es).map Part.gist := by
  unfold parts
  rw [gist_grouped, List.map_append, List.map_map, List.map_map]
  rfl

end Element

namespace Statement

lemma gist_ofGroup? (ts : List Token) :
    (ofGroup? (ts.map Token.gist)).toOption = (ofGroup? ts).toOption.map gist := by
  cases ts with
  | nil => rfl
  | cons head ts =>
    rw [List.map_cons, ofGroup?, ofGroup?, Token.gist_kind, Element.gist_ofTokens,
      Element.gist_parts]
    split_ifs <;> rfl

lemma gist_splitAtSemicolons (ts : List Token) :
    splitAtSemicolons (ts.map Token.gist) = (splitAtSemicolons ts).map (List.map Token.gist) := by
  induction ts with
  | nil => rfl
  | cons t ts ih =>
    rw [List.map_cons, splitAtSemicolons, splitAtSemicolons, ih, Token.gist_kind]
    cases splitAtSemicolons ts with
    | nil => split_ifs <;> rfl
    | cons g gs => split_ifs <;> rfl

lemma gist_body (ts : List Token) : body (ts.map Token.gist) = (body ts).map Token.gist :=
  List.takeWhile_map ..

lemma gist_groups? (ts : List Token) :
    (groups? (ts.map Token.gist)).toOption =
      (groups? ts).toOption.map (List.map (List.map Token.gist)) := by
  have unknown : ((body ts).map Token.gist).find? (·.kind = .error) =
      ((body ts).find? (·.kind = .error)).map Token.gist := List.find?_map ..
  have seen : ((body ts).map Token.gist).filter (!·.kind.isTrivia) =
      ((body ts).filter (!·.kind.isTrivia)).map Token.gist := List.filter_map ..
  unfold groups?
  rw [gist_body, unknown]
  cases (body ts).find? (·.kind = .error) with
  | some t => rfl
  | none =>
    simp only [Option.map_none, seen, gist_splitAtSemicolons, toOption_ok, Option.map_some,
      List.filter_map]
    congr 3
    funext g
    exact congrArg not List.isEmpty_map

/-- Tokens of one gist have trees of one gist. -/
theorem gist_ofTokens? (ts : List Token) :
    (ofTokens? (ts.map Token.gist)).toOption = (ofTokens? ts).toOption.map (List.map gist) := by
  have trees (gs : List (List Token)) : (gs.map (List.map Token.gist)).mapM
      (fun g => (ofGroup? g).toOption) =
        (gs.mapM fun g => (ofGroup? g).toOption).map (List.map gist) := by
    induction gs with
    | nil => rfl
    | cons g gs ih =>
      simp only [List.map_cons, List.mapM_cons, ih, gist_ofGroup?]
      cases (ofGroup? g).toOption with
      | none => rfl
      | some s => cases gs.mapM fun g => (ofGroup? g).toOption <;> rfl
  unfold ofTokens?
  rw [toOption_bind, gist_groups?, toOption_bind]
  cases (groups? ts).toOption with
  | none => rfl
  | some gs => simpa using trees gs

end Statement

lemma Leaf.gist_operand? (l : Leaf) (key : Kind) :
    l.gist.operand? key = (l.operand? key).map Operand.gist := by
  have said : l.gist.token.content? = l.token.content? := rfl
  unfold operand?
  rw [said, Option.map_map]
  rfl

namespace Part

lemma gist_candidates (opening : Kind) (p : Part) :
    p.gist.candidates opening = (p.candidates opening).map Leaf.gist := by
  cases p with
  | leaf l =>
    have said : l.gist.token.content? = l.token.content? := rfl
    have mark : l.gist.mark = l.mark := rfl
    simp only [gist, candidates, said, mark]
    split_ifs <;> rfl
  | clause t leaves =>
    have head : t.gist.isOneOf opening.targetClauses = t.isOneOf opening.targetClauses := rfl
    simp only [gist, candidates, head]
    split_ifs
    · exact List.filter_map ..
    · rfl

lemma gist_values (opening : Kind) (p : Part) :
    p.gist.values opening = (p.values opening).map Operand.gist := by
  cases p with
  | leaf l =>
    have kind : l.gist.token.kind = l.token.kind := rfl
    simp only [gist, values, Leaf.gist_operand?, kind]
    split_ifs
    · rfl
    · cases l.operand? l.token.kind <;> rfl
  | clause t leaves =>
    have head : t.gist.isOneOf opening.valueClauses = t.isOneOf opening.valueClauses := rfl
    simp only [gist, values, head]
    split_ifs
    · rw [List.filterMap_map, List.map_filterMap]
      exact congrArg (List.filterMap · leaves) (funext fun l => l.gist_operand? t.kind)
    · rw [List.filterMap_map, List.map_filterMap]
      exact congrArg (List.filterMap · leaves) (funext fun l => l.gist_operand? l.token.kind)
    · rfl

end Part

namespace Statement

variable (s : Statement)

lemma gist_target? : s.gist.target? = s.target?.map Operand.gist := by
  have candidates : s.gist.candidates = s.candidates.map Leaf.gist := by
    unfold candidates
    rw [List.map_flatMap, gist, List.flatMap_map]
    exact congrArg (List.flatMap · s.parts) (funext (Part.gist_candidates _))
  unfold target?
  rw [candidates, List.getLast?_map]
  cases s.candidates.getLast? with
  | none => rfl
  | some l => exact l.gist_operand? _

lemma gist_values : s.gist.values = s.values.map Operand.gist := by
  unfold values
  rw [List.map_flatMap, gist, List.flatMap_map]
  exact congrArg (List.flatMap · s.parts) (funext (Part.gist_values _))

/-- Trees of one gist are made flat to directives of one gist. -/
theorem gist_directive : s.gist.directive.gist = s.directive.gist := by
  have twice : Operand.gist ∘ Operand.gist = Operand.gist := rfl
  simp only [directive, Directive.gist, gist_target?, gist_values, Option.map_map, List.map_map,
    twice]
  rfl

end Statement

end ChatQuery
