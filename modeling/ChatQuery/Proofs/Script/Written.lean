import ChatQuery.Proofs.Script.Statements
import ChatQuery.Proofs.Statement.Groups
import ChatQuery.Proofs.Statement.Strays
import ChatQuery.Proofs.Token.Reread
import ChatQuery.Proofs.Token.Tiling
import Mathlib.Data.List.Flatten

/-!
The literals of a statement are literals of its text, in the order of the text, and its values are
taken from them in that order. The text of an object begins with a brace, so that no object is an
identifier or a token.
-/
namespace ChatQuery

variable {source text : String} {s : Statement} {l : Leaf} {p : Part} {o : Operand} {t : Token}
  {ts : List Token} {opening : Kind}

section Order

namespace Element

lemma literals_ofTokens (ts : List Token) :
    ((literals (ofTokens ts)).map Leaf.token).Sublist ts := by
  have single (t : Token) (es : List Element) :
      (literals (ofToken t :: es)).map Leaf.token =
        (if t.kind.isLiteral then [t] else []) ++ (literals es).map Leaf.token := by
    unfold ofToken
    split_ifs <;> rfl
  fun_induction ofTokens ts with
  | case1 => exact .slnil
  | case2 t =>
    rw [single]
    split_ifs
    · exact .refl _
    · exact List.nil_sublist _
  | case3 t m ts hmarked ih => exact (ih.cons m).cons_cons t
  | case4 t m ts hmarked ih =>
    rw [single]
    split_ifs
    · exact ih.cons_cons t
    · exact ih.cons t

lemma leaves_bare (ls : List Leaf) : (ls.map Part.leaf).flatMap Part.leaves = ls := by
  rw [List.flatMap_map]
  exact List.flatMap_singleton' ls

/-- Grouping literals below their words loses none and keeps their order. -/
lemma leaves_grouped (es : List Element) :
    (grouped es).1 ++ (grouped es).2.flatMap Part.leaves = literals es := by
  induction es with
  | nil => rfl
  | cons e es ih =>
    cases e with
    | leaf l => exact congrArg (l :: ·) ih
    | word t => exact ih
    | stray t =>
      change ((grouped es).1.map Part.leaf ++ (grouped es).2).flatMap Part.leaves = _
      rw [List.flatMap_append, leaves_bare]
      exact ih

lemma leaves_parts (es : List Element) : (parts es).flatMap Part.leaves = literals es := by
  rw [parts, List.flatMap_append, leaves_bare, leaves_grouped]

end Element

/-- A statement of a text is the tree of tokens of the text, in their order. -/
lemma Script.group_of_statements (hs : s ∈ statements source) :
    ∃ ts, (s.head :: ts).Sublist (tokenize source) ∧ s.head.kind.isOpener = true ∧
      s.parts = Element.parts (Element.ofTokens ts) := by
  obtain ⟨group, hgroup, hs⟩ := List.mem_filterMap.mp hs
  rw [Statement.splitAtSemicolons_eq] at hgroup
  have written : group.Sublist (tokenize source) :=
    (Statement.sublist_of_mem_splitOnP hgroup).1.trans
      (List.filter_sublist.trans (List.takeWhile_sublist _))
  have hs := toOption_eq_some.mp hs
  cases group with
  | nil => cases hs
  | cons head ts =>
    rw [Statement.ofGroup?] at hs
    split_ifs at hs with opener
    cases hs
    exact ⟨ts, written, opener, rfl⟩

/-- The literals of a statement, as they stand in the text. -/
theorem leaves_written (hs : s ∈ Script.statements source) :
    ((s.parts.flatMap Part.leaves).map Leaf.token).Sublist (tokenize source) := by
  obtain ⟨ts, written, -, hparts⟩ := Script.group_of_statements hs
  rw [hparts, Element.leaves_parts]
  exact (Element.literals_ofTokens ts).trans ((List.sublist_cons_self s.head ts).trans written)

lemma token_written (hs : s ∈ Script.statements source) (hp : p ∈ s.parts) (hl : l ∈ p.leaves) :
    l.token ∈ tokenize source :=
  (leaves_written hs).subset (List.mem_map_of_mem (List.mem_flatMap.mpr ⟨p, hp, hl⟩))

lemma sound_of_statements (hs : s ∈ Script.statements source) : ∀ p ∈ s.parts, p.Sound := by
  obtain ⟨ts, -, -, hparts⟩ := Script.group_of_statements hs
  rw [hparts]
  exact Element.sound_parts (Element.sound_ofTokens ts)

lemma filterMap_sublist_map {α β : Type} {f : α → Option β} {g : α → β}
    (h : ∀ a b, f a = some b → b = g a) (xs : List α) : (xs.filterMap f).Sublist (xs.map g) := by
  induction xs with
  | nil => exact .slnil
  | cons x xs ih =>
    cases hx : f x with
    | none =>
      rw [List.filterMap_cons_none hx]
      exact ih.cons (g x)
    | some b =>
      rw [List.filterMap_cons_some hx, h x b hx]
      exact ih.cons_cons (g x)

lemma Part.values_written (opening : Kind) (p : Part) :
    ((p.values opening).map Operand.index).Sublist (p.leaves.map (·.token.index)) := by
  have index {f : Leaf → Kind} (l : Leaf) (i : Nat)
      (h : (l.operand? (f l)).map Operand.index = some i) : i = l.token.index := by
    obtain ⟨o, ho, rfl⟩ := Option.map_eq_some_iff.mp h
    exact Leaf.index_of_operand? ho
  have taken (f : Leaf → Kind) (ls : List Leaf) :
      ((ls.filterMap fun l => l.operand? (f l)).map Operand.index).Sublist
        (ls.map (·.token.index)) := by
    rw [List.map_filterMap]
    exact filterMap_sublist_map (index (f := f)) ls
  cases p with
  | leaf l =>
    rw [values]
    split_ifs
    · exact List.nil_sublist _
    · have single : (l.operand? l.token.kind).toList =
          [l].filterMap fun l => l.operand? l.token.kind := by
        cases h : l.operand? l.token.kind <;> simp [h]
      rw [single]
      exact taken _ [l]
  | clause t leaves =>
    rw [values]
    split_ifs
    · exact taken _ leaves
    · exact taken _ leaves
    · exact List.nil_sublist _

/-- The values of a statement stand in its text one behind the other. -/
theorem values_increasing (hs : s ∈ Script.statements source) :
    (s.values.map Operand.index).Pairwise (· < ·) := by
  have taken : (s.values.map Operand.index).Sublist
      (((s.parts.flatMap Part.leaves).map Leaf.token).map Token.index) := by
    rw [Statement.values, List.map_flatMap, List.map_map, List.map_flatMap]
    exact List.Sublist.flatMap_right _ fun p _ => p.values_written s.head.kind
  have reads : Cursor.Reads 0 source.toList (tokenize source) := Cursor.reads_tokens 0 _
  exact reads.increasing.sublist (taken.trans ((leaves_written hs).map Token.index))

end Order

section Objects

/-- The text of an object begins with a brace. -/
lemma braced_of_object (ht : t ∈ tokenize source) (object : t.kind = .literal .object)
    (htext : t.content? = some text) : text.toList.head? = some '{' := by
  have reads : Cursor.Reads 0 source.toList (tokenize source) := Cursor.reads_tokens 0 _
  obtain ⟨-, after, -, -, htoken⟩ := reads.exists_place ht
  cases after with
  | nil =>
    rw [htoken] at object
    cases object
  | cons c cs =>
    have kind : (Lexeme.scan c cs).kind = .literal .object := by
      rw [htoken] at object
      exact object
    obtain ⟨rfl, unit⟩ := Lexeme.scan_of_object kind
    obtain ⟨said, -⟩ := Option.filter_eq_some_iff.mp htext
    have head : t = (Lexeme.scan '{' cs).toToken t.index := htoken
    rw [head, unit] at said
    obtain rfl := Option.some.inj said
    simp

lemma not_snowflake_of_braced (braced : text.toList.head? = some '{') : isSnowflake text = false := by
  obtain ⟨cs, hcs⟩ := List.head?_eq_some_iff.mp braced
  have other : Text.isDigit '{' = false := by decide
  rw [isSnowflake, hcs, List.all_cons, other, Bool.false_and, Bool.and_false]

lemma not_botToken_of_braced (braced : text.toList.head? = some '{') : isBotToken text = false := by
  obtain ⟨cs, hcs⟩ := List.head?_eq_some_iff.mp braced
  have other : ¬ isTokenLetter '{' = true := by decide
  rw [isBotToken, hcs, List.dropWhile_cons_of_neg other]
  rfl

/-- An operand that is written as an object bears no mark that asks for an identifier or a token. -/
lemma Operand.mark_of_braced {m : Mark} (sound : o.fault? = none)
    (braced : o.text.toList.head? = some '{') (mark : o.has m = true) :
    m ∈ [Mark.attachment, .embed] := by
  have snowflake := not_snowflake_of_braced braced
  have botToken := not_botToken_of_braced braced
  unfold fault? at sound
  rw [has_iff.mp mark, snowflake, botToken] at sound
  cases m with
  | attachment | embed => decide
  | _ => cases sound

end Objects

end ChatQuery
