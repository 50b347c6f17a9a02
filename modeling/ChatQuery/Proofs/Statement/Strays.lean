import ChatQuery.Proofs.Statement.Tree
import ChatQuery.Token.Lexer
import Mathlib.Data.List.TakeWhile

/-!
What marks do that belong to no literal. Outside clauses they do nothing. In a clause the first of
them ends what the clause owns: the literals behind it, up to the next reserved word, stand outside
every clause, and are not lost.
-/
namespace ChatQuery

variable {ts : List Token} {head : Token}

/-- The tokens without the marks that do not directly follow a literal. The flag says whether a
literal stands before the tokens. -/
def unstrayed (afterLiteral : Bool) : List Token → List Token
  | [] => []
  | t :: ts =>
    if t.kind.isMark && !afterLiteral then unstrayed false ts
    else t :: unstrayed t.kind.isLiteral ts

lemma unstrayed_cons {t : Token} (h : t.kind.isMark = false) (b : Bool) (ts : List Token) :
    unstrayed b (t :: ts) = t :: unstrayed t.kind.isLiteral ts := by
  rw [unstrayed, h, Bool.false_and]
  rfl

namespace Element

def isWord : Element → Bool
  | .word _ => true
  | _ => false

def isStray : Element → Bool
  | .stray _ => true
  | _ => false

def leaf? : Element → Option Leaf
  | .leaf l => some l
  | _ => none

def literals (es : List Element) : List Leaf := es.filterMap leaf?

/-- The elements before the first reserved word. -/
def run (es : List Element) : List Element := es.takeWhile (!·.isWord)

/-- The literals of a run before its first stray mark. -/
def held (es : List Element) : List Leaf := literals (es.takeWhile (!·.isStray))

/-- The literals of a run behind its first stray mark. -/
def shed (es : List Element) : List Leaf := literals (es.dropWhile (!·.isStray))

/-- Each reserved word, with the run behind it. -/
def clauses : List Element → List (Token × List Element)
  | [] => []
  | .word t :: es => (t, run es) :: clauses es
  | _ :: es => clauses es

lemma held_append_shed (es : List Element) : held es ++ shed es = literals es := by
  unfold held shed literals
  rw [← List.filterMap_append, List.takeWhile_append_dropWhile]

section Grouped

/-- A clause owns the literals of its run before the first stray mark, and the ones behind it stand
on their own. -/
lemma grouped_eq (es : List Element) : grouped es = (held (run es), (shed (run es)).map .leaf ++
    (clauses es).flatMap fun c => .clause c.1 (held c.2) :: (shed c.2).map .leaf) := by
  induction es with
  | nil => rfl
  | cons e es ih =>
    cases e with
    | leaf l =>
      rw [grouped, ih]
      rfl
    | word t =>
      rw [grouped, ih]
      rfl
    | stray t =>
      -- Nothing stands before this mark, so the run sheds even what the rest of it would hold.
      have all : shed (run (.stray t :: es)) = held (run es) ++ shed (run es) :=
        (held_append_shed (run es)).symm
      rw [grouped, ih, all, List.map_append, List.append_assoc]
      rfl

lemma parts_eq (es : List Element) : parts es = (literals (run es)).map .leaf ++
    (clauses es).flatMap fun c => .clause c.1 (held c.2) :: (shed c.2).map .leaf := by
  rw [parts, grouped_eq, ← held_append_shed, List.map_append, List.append_assoc]

end Grouped

section WithoutStrays

lemma literals_filter (es : List Element) :
    literals (es.filter (!·.isStray)) = literals es := by
  unfold literals
  rw [List.filterMap_filter]
  congr 1
  funext e
  cases e <;> rfl

lemma run_filter (es : List Element) :
    run (es.filter (!·.isStray)) = (run es).filter (!·.isStray) := by
  unfold run
  induction es with
  | nil => rfl
  | cons e es ih =>
    cases e with
    | leaf l => simpa [isStray, isWord] using ih
    | word t => rfl
    | stray t => simpa [isStray, isWord] using ih

lemma clauses_filter (es : List Element) :
    clauses (es.filter (!·.isStray)) =
      (clauses es).map fun c => (c.1, c.2.filter (!·.isStray)) := by
  induction es with
  | nil => rfl
  | cons e es ih =>
    cases e with
    | leaf l => exact ih
    | word t =>
      change (t, run (es.filter _)) :: clauses (es.filter _) = _
      rw [run_filter, ih]
      rfl
    | stray t => exact ih

/-- Without stray marks every clause owns all literals of its run. -/
lemma parts_filter (es : List Element) : parts (es.filter (!·.isStray)) =
    (literals (run es)).map .leaf ++
      (clauses es).map fun c => .clause c.1 (literals c.2) := by
  have held_filter (run : List Element) : held (run.filter (!·.isStray)) = literals run := by
    rw [held, List.takeWhile_eq_self_iff.mpr fun e he => (List.mem_filter.mp he).2,
      literals_filter]
  have shed_filter (run : List Element) : shed (run.filter (!·.isStray)) = [] := by
    rw [shed, List.dropWhile_eq_nil_iff.mpr fun e he => (List.mem_filter.mp he).2]
    rfl
  rw [parts_eq, run_filter, literals_filter, clauses_filter, List.flatMap_map]
  simp only [held_filter, shed_filter, List.map_nil]
  rw [← List.map_eq_flatMap]

end WithoutStrays

lemma ofTokens_cons {t : Token}
    (h : t.kind.isLiteral = true → ∀ m ∈ ts.head?, m.kind.isMark = false) :
    ofTokens (t :: ts) = ofToken t :: ofTokens ts := by
  cases ts with
  | nil => rfl
  | cons m ts =>
    rw [ofTokens, if_neg]
    rintro ⟨literal, marked⟩
    exact Bool.false_ne_true ((h literal m rfl).symm.trans marked)

/-- Leaving stray marks out of the tokens leaves them out of the elements, and nothing else. -/
lemma ofTokens_unstrayed (h : ∀ t ∈ ts, t.kind.isContent = true) :
    ofTokens (unstrayed false ts) = (ofTokens ts).filter (!·.isStray) := by
  fun_induction ofTokens ts with
  | case1 => rfl
  | case2 t =>
    have content := h t (List.mem_singleton_self t)
    obtain ⟨index, kind, text⟩ := t
    cases kind with
    | literal l => rfl
    | mark m => rfl
    | keyword k => rfl
    | _ => cases content
  | case3 t m ts marked ih =>
    obtain ⟨literal, mark⟩ := marked
    rw [unstrayed_cons (Kind.not_mark_of_literal literal), literal, unstrayed, Bool.not_true,
      Bool.and_false, Kind.not_literal_of_mark mark]
    change ofTokens (t :: m :: unstrayed false ts) = .leaf ⟨t, some m.kind⟩ :: List.filter _ _
    rw [ofTokens, if_pos ⟨literal, mark⟩, ih fun u hu => h u (by simp [hu])]
  | case4 t m ts unmarked ih =>
    have content := h t List.mem_cons_self
    replace ih := ih fun u hu => h u (List.mem_cons_of_mem t hu)
    obtain ⟨index, kind, text⟩ := t
    cases kind with
    | literal l =>
      have hm : m.kind.isMark = false := by simpa [Kind.isLiteral] using unmarked
      rw [unstrayed_cons rfl, unstrayed_cons hm]
      rw [unstrayed_cons hm] at ih
      rw [ofTokens_cons, ih]
      · rfl
      · rintro - u hu
        cases hu
        exact hm
    | keyword k =>
      rw [unstrayed_cons rfl, ofTokens_cons]
      · exact congrArg (Element.word ⟨index, .keyword k, text⟩ :: ·) ih
      · intro literal
        cases literal
    | mark k => exact ih
    | _ => cases content

/-- Clauses own all literals of their runs just if none of them stands behind a stray mark. -/
lemma shed_eq_nil_iff (cs : List (Token × List Element)) :
    (cs.flatMap fun c => Part.clause c.1 (held c.2) :: (shed c.2).map .leaf) =
      (cs.map fun c => Part.clause c.1 (literals c.2)) ↔ ∀ c ∈ cs, shed c.2 = [] := by
  induction cs with
  | nil => simp
  | cons c cs ih =>
    rw [List.flatMap_cons, List.map_cons, List.forall_mem_cons, ← ih, List.cons_append,
      List.cons.injEq]
    cases hshed : shed c.2 with
    | nil => simp [← held_append_shed c.2, hshed]
    | cons l ls =>
      -- The literal stands where the next clause would.
      have split (ps : List Part) :
          (l :: ls).map Part.leaf ++ ps ≠ cs.map fun c => Part.clause c.1 (literals c.2) := by
        cases cs <;> simp
      exact iff_of_false (fun h => split _ h.2) (fun h => List.cons_ne_nil l ls h.1)

end Element

namespace Statement

/-- What a group says is told by its runs: the literals before its first reserved word, and those
between each reserved word and the next. Without its stray marks each reserved word owns all the
literals of its run. With them it owns those before the first stray mark of its run, and the others
stand behind the clause and in none. So stray marks change the tree exactly if some literal stands
behind one of them in the run of a reserved word. -/
theorem ofGroup?_unstrayed (hhead : head.kind.isOpener = true)
    (hts : ∀ t ∈ ts, t.kind.isContent = true) :
    let es := Element.ofTokens ts
    let first := (Element.literals (Element.run es)).map Part.leaf
    let clauses := Element.clauses es
    ofGroup? (unstrayed false (head :: ts)) =
        .ok ⟨head, first ++ clauses.map fun c => .clause c.1 (Element.literals c.2)⟩ ∧
      ofGroup? (head :: ts) = .ok ⟨head, first ++ clauses.flatMap fun c =>
        .clause c.1 (Element.held c.2) :: (Element.shed c.2).map .leaf⟩ ∧
      (∀ c ∈ clauses, Element.held c.2 ++ Element.shed c.2 = Element.literals c.2) ∧
      (ofGroup? (head :: ts) = ofGroup? (unstrayed false (head :: ts)) ↔
        ∀ c ∈ clauses, Element.shed c.2 = []) := by
  intro es first clauses
  have word := Kind.keyword_of_opener hhead
  have without : ofGroup? (unstrayed false (head :: ts)) =
      .ok ⟨head, first ++ clauses.map fun c => .clause c.1 (Element.literals c.2)⟩ := by
    rw [unstrayed_cons (Kind.not_mark_of_keyword word), Kind.not_literal_of_keyword word, ofGroup?,
      if_pos hhead, Element.ofTokens_unstrayed hts, Element.parts_filter]
  have whole : ofGroup? (head :: ts) = .ok ⟨head, first ++ clauses.flatMap fun c =>
      .clause c.1 (Element.held c.2) :: (Element.shed c.2).map .leaf⟩ := by
    rw [ofGroup?, if_pos hhead, Element.parts_eq]
  refine ⟨without, whole, fun c _ => Element.held_append_shed c.2, ?_⟩
  rw [without, whole, Except.ok.injEq, Statement.mk.injEq, List.append_cancel_left_eq,
    Element.shed_eq_nil_iff]
  exact and_iff_right rfl

/-- The marks in front of the literal, behind its own mark and at the end are stray, but no literal
of the clause stands behind one. -/
theorem ofGroup?_unstrayed_send :
    let send : Token := ⟨0, .keyword .send, some "SEND"⟩
    let mark (index : Nat) : Token := ⟨index, .mark .channel, none⟩
    let hi : Token := ⟨7, .literal .string, some "hi"⟩
    let clause : Token := ⟨12, .keyword .«in», some "IN"⟩
    let id : Token := ⟨15, .literal .string, some "228666916018118541"⟩
    let ts := [mark 5, hi, clause, id, mark 35, mark 37]
    (send.kind.isOpener = true ∧ ∀ t ∈ ts, t.kind.isContent = true) ∧
      ofGroup? (send :: ts) = ofGroup? [send, hi, clause, id, mark 35] := by
  intro send mark hi clause id ts
  have hts : ∀ t ∈ ts, t.kind.isContent = true := by decide
  have opener : send.kind.isOpener = true := rfl
  obtain ⟨-, -, -, same⟩ := ofGroup?_unstrayed opener hts
  exact ⟨⟨opener, hts⟩, same.mpr (by decide)⟩

/-- A mark in front of the literal that names the channel takes it out of its clause. -/
theorem stray_mark_ends_clause :
    let send : Token := ⟨0, .keyword .send, some "SEND"⟩
    let hi : Leaf := ⟨⟨5, .literal .string, some "hi"⟩, none⟩
    let clause : Token := ⟨10, .keyword .«in», some "IN"⟩
    let id : Leaf := ⟨⟨15, .literal .string, some "228666916018118541"⟩, some (.mark .channel)⟩
    ∃ group, groups? (tokenize "SEND \"hi\" IN c \"228666916018118541\"c;") = .ok [group] ∧
      ofGroup? group = .ok ⟨send, [.leaf hi, .clause clause [], .leaf id]⟩ ∧
      ofGroup? (unstrayed false group) = .ok ⟨send, [.leaf hi, .clause clause [id]]⟩ := by
  intro send hi clause id
  let channel (index : Nat) : Token := ⟨index, .mark .channel, none⟩
  exact ⟨[send, hi.token, clause, channel 13, id.token, channel 35], by decide +kernel, by decide,
    by decide⟩

end Statement

end ChatQuery
