import ChatQuery.Proofs.Script.Statements

/-!
What literals do that say nothing. They give no values. A target is lost when the last of the
literals that may name it says nothing although another one does; it is never a different one.
-/
namespace ChatQuery

/-- If the last element passes a test, it is the last of those that pass. -/
lemma getLast?_filter_of_last {α : Type} {p : α → Bool} {xs : List α}
    (h : ∀ x ∈ xs.getLast?, p x = true) : (xs.filter p).getLast? = xs.getLast? := by
  cases hlast : xs.getLast? with
  | none => rw [List.getLast?_eq_none_iff.mp hlast, List.filter_nil, List.getLast?_nil]
  | some x =>
    obtain ⟨ys, rfl⟩ := List.getLast?_eq_some_iff.mp hlast
    rw [List.filter_append, List.filter_singleton, h x hlast]
    exact List.getLast?_concat

namespace Leaf

variable {l : Leaf}

def isSilent (l : Leaf) : Bool := l.token.content?.isNone

lemma operand?_eq_none_iff {key : Kind} : l.operand? key = none ↔ l.isSilent = true := by
  rw [operand?, Option.map_eq_none_iff, isSilent, Option.isNone_iff_eq_none]

lemma not_silent_of_isSome (h : l.token.content?.isSome = true) : l.isSilent = false := by
  rwa [isSilent, Option.isNone_eq_false_iff]

end Leaf

namespace Part

/-- What is left of a part without its literals that say nothing. -/
def spoken : Part → List Part
  | .leaf l => if l.isSilent then [] else [.leaf l]
  | .clause t leaves => [.clause t (leaves.filter (!·.isSilent))]

lemma values_spoken (opening : Kind) (p : Part) :
    p.spoken.flatMap (values opening) = p.values opening := by
  cases p with
  | leaf l =>
    cases hl : l.isSilent with
    | false => simp [spoken, hl]
    | true => simp [spoken, hl, values, Leaf.operand?_eq_none_iff.mpr hl]
  | clause t leaves =>
    have heard (key : Leaf → Kind) :
        (leaves.filter (!·.isSilent)).filterMap (fun l => l.operand? (key l)) =
          leaves.filterMap fun l => l.operand? (key l) := by
      rw [List.filterMap_filter]
      congr 1
      funext l
      cases hl : l.isSilent with
      | false => rfl
      | true => exact (Leaf.operand?_eq_none_iff.mpr hl).symm
    rw [spoken, List.flatMap_singleton, values, values]
    split_ifs
    · exact heard fun _ => t.kind
    · exact heard fun l => l.token.kind
    · rfl

/-- Outside clauses only literals that say something may name the target. -/
lemma not_silent_of_mem_candidates {opening : Kind} {l m : Leaf}
    (h : m ∈ candidates opening (.leaf l)) :
    m = l ∧ l.isSilent = false := by
  obtain ⟨⟨-, content, -⟩, same⟩ := mem_candidates_leaf.mp h
  exact ⟨same, Leaf.not_silent_of_isSome content⟩

lemma candidates_spoken (opening : Kind) (p : Part) :
    p.spoken.flatMap (candidates opening) = (p.candidates opening).filter (!·.isSilent) := by
  cases p with
  | leaf l =>
    cases hl : l.isSilent with
    | false =>
      have speaking : ∀ m ∈ candidates opening (.leaf l), (!m.isSilent) = true := by
        intro m hm
        rw [(not_silent_of_mem_candidates hm).1, hl]
        rfl
      rw [List.filter_eq_self.mpr speaking]
      simp [spoken, hl]
    | true =>
      have none : candidates opening (.leaf l) = [] := by
        rw [List.eq_nil_iff_forall_not_mem]
        intro m hm
        exact Bool.false_ne_true ((not_silent_of_mem_candidates hm).2.symm.trans hl)
      simp [spoken, hl, none]
  | clause t leaves =>
    rw [spoken, List.flatMap_singleton, candidates, candidates]
    split_ifs
    · rw [List.filter_filter, List.filter_filter]
      exact List.filter_congr fun l _ => Bool.and_comm ..
    · rfl

end Part

namespace Statement

variable (s : Statement)

/-- The statement without its literals that say nothing. -/
def spoken : Statement := ⟨s.head, s.parts.flatMap Part.spoken⟩

lemma values_spoken : s.spoken.values = s.values := by
  unfold values spoken
  rw [List.flatMap_assoc]
  congr 1
  funext p
  exact p.values_spoken s.head.kind

lemma candidates_spoken : s.spoken.candidates = s.candidates.filter (!·.isSilent) := by
  unfold candidates spoken
  rw [List.flatMap_assoc, List.filter_flatMap]
  congr 1
  funext p
  exact p.candidates_spoken s.head.kind

/-- Where no clause may name the target, only literals that say something may. -/
lemma not_silent_of_unclaused {l : Leaf} (unclaused : s.head.kind.targetClauses = [])
    (hl : l ∈ s.candidates) : l.isSilent = false := by
  obtain ⟨p, -, hl⟩ := List.mem_flatMap.mp hl
  cases p with
  | leaf l' =>
    obtain ⟨rfl, speaking⟩ := Part.not_silent_of_mem_candidates hl
    exact speaking
  | clause t leaves =>
    obtain ⟨inside, -⟩ := Part.mem_candidates_clause.mp hl
    rw [unclaused] at inside
    cases inside

lemma target?_eq_none_iff :
    s.target? = none ↔ ∀ l ∈ s.candidates.getLast?, l.isSilent = true := by
  simp only [target?, Option.bind_eq_none_iff, Leaf.operand?_eq_none_iff, Option.mem_def]

lemma spoken_target?_eq_none_iff :
    s.spoken.target? = none ↔ ∀ l ∈ s.candidates, l.isSilent = true := by
  rw [target?_eq_none_iff, candidates_spoken]
  constructor
  · intro h
    have none : s.candidates.filter (!·.isSilent) = [] := by
      rw [← List.getLast?_eq_none_iff, Option.eq_none_iff_forall_not_mem]
      intro l hl
      have speaking := (List.mem_filter.mp (List.mem_of_getLast? hl)).2
      rw [h l hl] at speaking
      cases speaking
    simpa using none
  · intro h l hl
    exact h l (List.mem_filter.mp (List.mem_of_getLast? hl)).1

lemma spoken_target?_of_speaking (h : ∀ l ∈ s.candidates.getLast?, (!l.isSilent) = true) :
    s.spoken.target? = s.target? := by
  unfold target?
  rw [candidates_spoken, getLast?_filter_of_last h]

/-- Either the last candidate names the target, or there is none. -/
lemma spoken_target?_or_none : s.target? = s.spoken.target? ∨ s.target? = none := by
  by_cases h : ∀ l ∈ s.candidates.getLast?, (!l.isSilent) = true
  · exact .inl (s.spoken_target?_of_speaking h).symm
  · right
    rw [target?_eq_none_iff]
    intro l hl
    by_contra speaking
    refine h fun m hm => ?_
    rwa [Option.mem_unique hm hl, Bool.not_eq_true', ← Bool.not_eq_true]

/-- Without its literals that say nothing a statement has the same values, and the same literals may
name its target but for those. The last of them names it. So the target is another one exactly if the
last says nothing and some other does not, and then there is none; where no clause names the target
this cannot happen. -/
theorem spoken_directive : s.spoken.values = s.values ∧
    s.spoken.candidates = s.candidates.filter (!·.isSilent) ∧
    (s.target? = s.spoken.target? ∨ s.target? = none) ∧
    (s.target? = s.spoken.target? ↔
      ∀ l ∈ s.candidates.getLast?, l.isSilent = true → ∀ m ∈ s.candidates, m.isSilent = true) ∧
    (s.head.kind.targetClauses = [] → s.directive = s.spoken.directive) := by
  have same_iff : s.target? = s.spoken.target? ↔
      ∀ l ∈ s.candidates.getLast?, l.isSilent = true → ∀ m ∈ s.candidates, m.isSilent = true := by
    constructor
    · intro same l hl silent
      rw [← spoken_target?_eq_none_iff, ← same, target?_eq_none_iff]
      rintro m hm
      rwa [Option.mem_unique hm hl]
    · intro h
      refine s.spoken_target?_or_none.elim id fun none => ?_
      rw [none, eq_comm, spoken_target?_eq_none_iff]
      intro m hm
      have some_last := List.getLast?_isSome.mpr (List.ne_nil_of_mem hm)
      obtain ⟨l, hl⟩ := Option.isSome_iff_exists.mp some_last
      exact h l hl (s.target?_eq_none_iff.mp none l hl) m hm
  refine ⟨s.values_spoken, s.candidates_spoken, s.spoken_target?_or_none, same_iff, ?_⟩
  intro unclaused
  have same : s.target? = s.spoken.target? := by
    rw [same_iff]
    intro l hl silent
    have speaking := s.not_silent_of_unclaused unclaused (List.mem_of_getLast? hl)
    exact absurd silent (by rw [speaking]; exact Bool.false_ne_true)
  rw [directive, directive, same, values_spoken]
  rfl

/-- An empty literal behind the one that names the channel leaves the statement without target. -/
theorem silent_literal_hides_target :
    ∃ s, ofTokens? (tokenize "SEND \"hi\" IN \"228666916018118541\"c \"\"c;") = .ok [s] ∧
      s.target? = none ∧ s.spoken.target? =
        some ⟨13, .literal .string, "228666916018118541", some (.mark .channel)⟩ := by
  let hi : Leaf := ⟨⟨5, .literal .string, some "hi"⟩, none⟩
  let id : Leaf := ⟨⟨13, .literal .string, some "228666916018118541"⟩, some (.mark .channel)⟩
  let empty : Leaf := ⟨⟨35, .literal .string, some ""⟩, some (.mark .channel)⟩
  refine ⟨⟨⟨0, .keyword .send, some "SEND"⟩,
    [.leaf hi, .clause ⟨10, .keyword .«in», some "IN"⟩ [id, empty]]⟩, ?_, ?_, ?_⟩
  · decide +kernel
  · decide
  · decide

end Statement

end ChatQuery
