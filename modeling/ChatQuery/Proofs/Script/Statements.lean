import ChatQuery.Proofs.Compile.Fault
import ChatQuery.Proofs.Statement.Tree

/-!
The statements that are written in a source text, and the literals of a statement that its opening
word takes notice of. A text compiles only if each of its statements does.
-/
namespace ChatQuery

variable {listener : Listener} {source : String} {p : Script}
  {s : Statement} {sts : List Statement} {l : Leaf} {opening : Kind} {text : String}

namespace Script

/-- The statements written in a source text, whether or not the rest of the text is in order. -/
def statements (source : String) : List Statement :=
  (Statement.splitAtSemicolons
    ((Statement.body (tokenize source)).filter (!·.kind.isTrivia))).filterMap
      fun g => (Statement.ofGroup? g).toOption

/-- In a text that is in order these are its statements. -/
lemma statements_eq (h : Statement.ofTokens? (tokenize source) = .ok sts) :
    statements source = sts := by
  obtain ⟨gs, hgroups, hmapM⟩ := bind_eq_ok h
  unfold Statement.groups? at hgroups
  split at hgroups
  · cases hgroups
  · cases hgroups
    rw [← filterMap_of_mapM_eq_ok hmapM, List.filterMap_filter]
    unfold statements
    congr 1
    funext g
    cases g with
    | nil => rfl
    | cons t ts => rfl

/-- In a text that compiles, every statement does, except those that only flip the raw flag. -/
theorem calls?_of_compile? (h : compile? listener source = .ok p) (hs : s ∈ statements source)
    (hraw : s.head.kind ≠ .keyword .raw) : ∃ calls, s.directive.calls? listener = .ok calls := by
  obtain ⟨ds, hds, h⟩ := bind_eq_ok h
  obtain ⟨calls, hcalls, -⟩ := bind_eq_ok h
  unfold directives? at hds
  cases hsts : Statement.ofTokens? (tokenize source) with
  | error d =>
    rw [hsts] at hds
    cases hds
  | ok sts =>
    rw [hsts] at hds
    cases hds
    rw [statements_eq hsts] at hs
    have hd : s.directive ∈ (sts.map Statement.directive).filter (!isToggle ·) :=
      List.mem_filter.mpr ⟨List.mem_map_of_mem hs, congrArg not (decide_eq_false hraw)⟩
    obtain ⟨cs, -, hc⟩ := mem_of_mapM_eq_ok hcalls hd
    exact ⟨cs, hc⟩

end Script

lemma Leaf.operand?_eq_some_iff {key : Kind} {o : Operand} : l.operand? key = some o ↔
    ∃ text, l.token.content? = some text ∧ o = ⟨l.token.index, key, text, l.mark⟩ := by
  rw [operand?, Option.map_eq_some_iff]
  simp only [eq_comm]

lemma Leaf.operand?_of_content (htext : l.token.content? = some text) (key : Kind) :
    l.operand? key = some ⟨l.token.index, key, text, l.mark⟩ :=
  operand?_eq_some_iff.mpr ⟨text, htext, rfl⟩

lemma Leaf.index_of_operand? {key : Kind} {o : Operand} (h : l.operand? key = some o) :
    o.index = l.token.index := by
  obtain ⟨text, -, rfl⟩ := operand?_eq_some_iff.mp h
  rfl

namespace Part

/-- The literals of a part that a statement with the opening word takes notice of: those outside
clauses, and those in the clauses that belong to the word. -/
def ownLeaves (opening : Kind) : Part → List Leaf
  | .leaf l => [l]
  | .clause t leaves =>
    if t.isOneOf (opening.targetClauses ++ opening.valueClauses) then leaves else []

/-- The literals of a part that give values. -/
def valueLeaves (opening : Kind) : Part → List Leaf
  | .leaf l => if opening = .keyword .listen then [] else [l]
  | .clause t leaves => if t.isOneOf opening.valueClauses then leaves else []

section Membership

variable {l' : Leaf} {t : Token} {leaves : List Leaf}

lemma mem_ownLeaves_clause : l ∈ (clause t leaves).ownLeaves opening ↔
    (t.isOneOf opening.targetClauses ∨ t.isOneOf opening.valueClauses) ∧ l ∈ leaves := by
  simp only [ownLeaves, Token.isOneOf, List.any_append, Bool.or_eq_true, List.mem_ite_nil_right]

lemma mem_valueLeaves_leaf : l ∈ (leaf l').valueLeaves opening ↔
    opening ≠ .keyword .listen ∧ l = l' := by
  simp only [valueLeaves, List.mem_ite_nil_left, List.mem_singleton, ne_eq]

lemma mem_valueLeaves_clause : l ∈ (clause t leaves).valueLeaves opening ↔
    t.isOneOf opening.valueClauses ∧ l ∈ leaves := by
  simp only [valueLeaves, List.mem_ite_nil_right]

lemma mem_candidates_leaf : l ∈ (leaf l').candidates opening ↔
    (opening.targetClauses.isEmpty ∧ l'.token.content?.isSome ∧ l'.mark.isSome) ∧ l = l' := by
  simp only [candidates, List.mem_ite_nil_right, List.mem_singleton]

lemma mem_candidates_clause : l ∈ (clause t leaves).candidates opening ↔
    t.isOneOf opening.targetClauses ∧ l ∈ leaves ∧ l.mark.isSome := by
  simp only [candidates, List.mem_ite_nil_right, List.mem_filter]

end Membership

variable {part : Part}

/-- A marked literal either gives a value or may name the target. -/
lemma valueLeaves_or_candidates (hl : l ∈ part.ownLeaves opening) (hmark : l.mark.isSome)
    (htext : l.token.content? = some text) :
    l ∈ part.valueLeaves opening ∨ l ∈ part.candidates opening := by
  cases part with
  | leaf l' =>
    obtain rfl := List.mem_singleton.mp hl
    by_cases hlisten : opening = .keyword .listen
    · subst hlisten
      exact .inr (mem_candidates_leaf.mpr ⟨⟨rfl, Option.isSome_of_eq_some htext, hmark⟩, rfl⟩)
    · exact .inl (mem_valueLeaves_leaf.mpr ⟨hlisten, rfl⟩)
  | clause t leaves =>
    obtain ⟨target | value, hmem⟩ := mem_ownLeaves_clause.mp hl
    · exact .inr (mem_candidates_clause.mpr ⟨target, hmem, hmark⟩)
    · exact .inl (mem_valueLeaves_clause.mpr ⟨value, hmem⟩)

lemma leaf_of_ownLeaves (hl : l ∈ part.ownLeaves opening) : l ∈ part.leaves := by
  cases part with
  | leaf l' => exact hl
  | clause t leaves => exact (mem_ownLeaves_clause.mp hl).2

/-- A literal that gives a value and says something is an operand, with its text and its mark. -/
lemma exists_value (hl : l ∈ part.valueLeaves opening) (htext : l.token.content? = some text) :
    ∃ key, ⟨l.token.index, key, text, l.mark⟩ ∈ part.values opening ∧
      (opening.keysByClause = false → key = l.token.kind) := by
  cases part with
  | leaf l' =>
    obtain ⟨hlisten, rfl⟩ := mem_valueLeaves_leaf.mp hl
    refine ⟨l.token.kind, ?_, fun _ => rfl⟩
    simp only [values, if_neg hlisten, l.operand?_of_content htext, Option.toList_some,
      List.mem_singleton]
  | clause t leaves =>
    obtain ⟨value, hmem⟩ := mem_valueLeaves_clause.mp hl
    refine ⟨if opening.keysByClause then t.kind else l.token.kind, ?_, fun unkeyed => ?_⟩
    · simp only [values, if_pos value]
      exact List.mem_filterMap.mpr ⟨l, hmem, l.operand?_of_content htext _⟩
    · rw [unkeyed, if_neg Bool.false_ne_true]

/-- Each value is one of the literals, known by its own kind unless it is known by its clause. -/
lemma leaf_of_values {o : Operand} (h : o ∈ part.values opening) :
    ∃ l ∈ part.leaves, ∃ key, l.operand? key = some o ∧
      (opening.keysByClause = false → key = l.token.kind) := by
  cases part with
  | leaf l =>
    rw [values] at h
    split_ifs at h
    · cases h
    · exact ⟨l, List.mem_singleton_self l, _, Option.mem_toList.mp h, fun _ => rfl⟩
  | clause t leaves =>
    rw [values] at h
    split at h
    · obtain ⟨l, hl, ho⟩ := List.mem_filterMap.mp h
      exact ⟨l, hl, _, ho, fun unkeyed => if_neg (by rw [unkeyed]; exact Bool.false_ne_true)⟩
    · cases h

end Part

namespace Statement

def ownLeaves (s : Statement) : List Leaf := s.parts.flatMap (Part.ownLeaves s.head.kind)

def valueLeaves (s : Statement) : List Leaf := s.parts.flatMap (Part.valueLeaves s.head.kind)

lemma valueLeaves_or_candidates (hl : l ∈ s.ownLeaves) (hmark : l.mark.isSome)
    (htext : l.token.content? = some text) : l ∈ s.valueLeaves ∨ l ∈ s.candidates := by
  obtain ⟨part, hpart, hl⟩ := List.mem_flatMap.mp hl
  rcases Part.valueLeaves_or_candidates hl hmark htext with h | h
  · exact .inl (List.mem_flatMap.mpr ⟨part, hpart, h⟩)
  · exact .inr (List.mem_flatMap.mpr ⟨part, hpart, h⟩)

/-- Every literal that gives a value and says something is a value. -/
lemma exists_value (hl : l ∈ s.valueLeaves) (htext : l.token.content? = some text) :
    ∃ key, ⟨l.token.index, key, text, l.mark⟩ ∈ s.values ∧
      (s.head.kind.keysByClause = false → key = l.token.kind) := by
  obtain ⟨part, hpart, hl⟩ := List.mem_flatMap.mp hl
  obtain ⟨key, ho, own⟩ := Part.exists_value hl htext
  exact ⟨key, List.mem_flatMap.mpr ⟨part, hpart, ho⟩, own⟩

/-- So it is an operand of the directive. -/
lemma exists_operand_of_value (hl : l ∈ s.valueLeaves) (htext : l.token.content? = some text) :
    ∃ o ∈ s.directive.operands, o.text = text ∧ o.mark = l.mark := by
  obtain ⟨key, ho, -⟩ := exists_value hl htext
  exact ⟨_, List.mem_append_right _ ho, rfl, rfl⟩

/-- The last of the literals that may name the target does, if it says something. -/
lemma target_of_candidates (hl : s.candidates.getLast? = some l)
    (htext : l.token.content? = some text) :
    s.directive.target = some ⟨l.token.index, l.token.kind, text, l.mark⟩ := by
  change s.candidates.getLast?.bind _ = _
  rw [hl]
  exact l.operand?_of_content htext _

lemma exists_operand_of_target (hl : s.candidates.getLast? = some l)
    (htext : l.token.content? = some text) :
    ∃ o ∈ s.directive.operands, o.text = text ∧ o.mark = l.mark := by
  refine ⟨⟨l.token.index, l.token.kind, text, l.mark⟩, ?_, rfl, rfl⟩
  apply List.mem_append_left
  rw [target_of_candidates hl htext]
  exact List.mem_singleton_self _

/-- Where no clause names the target, the literals that may do so stand outside clauses. -/
lemma bare_of_candidates (unclaused : s.head.kind.targetClauses = []) (hl : l ∈ s.candidates) :
    .leaf l ∈ s.parts := by
  obtain ⟨part, hpart, hl⟩ := List.mem_flatMap.mp hl
  cases part with
  | leaf l' =>
    obtain ⟨-, rfl⟩ := Part.mem_candidates_leaf.mp hl
    exact hpart
  | clause t leaves =>
    obtain ⟨inside, -⟩ := Part.mem_candidates_clause.mp hl
    rw [unclaused] at inside
    cases inside

/-- They give values as well, unless the statement listens. -/
lemma valueLeaves_of_candidates (unclaused : s.head.kind.targetClauses = [])
    (hlisten : s.head.kind ≠ .keyword .listen) (hl : l ∈ s.candidates) : l ∈ s.valueLeaves :=
  List.mem_flatMap.mpr
    ⟨_, bare_of_candidates unclaused hl, Part.mem_valueLeaves_leaf.mpr ⟨hlisten, rfl⟩⟩

/-- The target of a statement without target clauses is one of its values. -/
lemma target_mem_values {t : Operand} (unclaused : s.head.kind.targetClauses = [])
    (hlisten : s.head.kind ≠ .keyword .listen) (h : s.directive.target = some t) :
    t ∈ s.directive.values := by
  obtain ⟨l, hlast, ht⟩ := Option.bind_eq_some_iff.mp h
  have bare := bare_of_candidates unclaused (List.mem_of_getLast? hlast)
  refine List.mem_flatMap.mpr ⟨_, bare, ?_⟩
  rw [Part.values, if_neg hlisten, ht]
  exact List.mem_singleton_self t

end Statement

end ChatQuery
