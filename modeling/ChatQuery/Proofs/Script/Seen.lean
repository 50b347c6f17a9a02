import ChatQuery.Proofs.Script.Join
import ChatQuery.Proofs.Token.Literal
import ChatQuery.Proofs.Token.Reread

/-!
What statements see of a source text: its tokens without their places and without layout. A text
compiles to what is seen of it, and what is seen of a text is read off its front: blanks leave
nothing, and words, literals and semicolons leave one token each.
-/
namespace ChatQuery

variable {c quote : Char} {cs gap letters rest spelling text : List Char}

/-- The tokens of a text that statements see. -/
def seen (cs : List Char) : List Token :=
  ((Cursor.tokens ⟨0, cs⟩).map Token.gist).filter (!·.kind.isTrivia)

@[simp] lemma seen_nil : seen [] = [⟨0, .endOfText, none⟩] := by
  unfold seen
  rw [Cursor.tokens_nil]
  rfl

lemma seen_of_tokens {t : Token} {j : Nat}
    (h : Cursor.tokens ⟨0, cs⟩ = t :: Cursor.tokens ⟨j, rest⟩) :
    seen cs = (if t.kind.isTrivia then [] else [t.gist]) ++ seen rest := by
  unfold seen
  rw [h, List.map_cons, Cursor.gist_tokens j 0, List.filter_cons, Token.gist_kind]
  cases t.kind.isTrivia <;> rfl

section Blanks

lemma seen_drop_blanks (cs : List Char) :
    seen cs = seen (cs.drop (Lexeme.blanks cs).2.length) := by
  cases cs with
  | nil => rfl
  | cons c cs =>
    by_cases hc : Lexeme.isBlank c = true
    · have hscan : Lexeme.scan c cs =
          .bare (Lexeme.blanks (c :: cs)).1 (Lexeme.blanks (c :: cs)).2 := by
        rw [Lexeme.scan, if_pos hc]
      obtain ⟨x, rest, rfl, hx, htokens⟩ := Cursor.tokens_step 0 c cs
      have hspelled : (Lexeme.blanks (c :: (x ++ rest))).2 = c :: x := by
        rw [← hx, hscan, Lexeme.bare]
      have htrivia : (Lexeme.scan c (x ++ rest)).kind.isTrivia = true := by
        rw [hscan]
        exact Lexeme.blanks_kind _
      rw [seen_of_tokens htokens, hspelled, List.length_cons, List.drop_succ_cons, List.drop_left]
      rw [if_pos (by exact htrivia), List.nil_append]
    · rw [Lexeme.blanks, if_neg hc]
      rfl

/-- A blank is not seen. Those that follow it in its run are not seen either way. -/
lemma seen_blank (h : Lexeme.isBlank c = true) (cs : List Char) : seen (c :: cs) = seen cs := by
  rw [seen_drop_blanks (c :: cs), Lexeme.blanks, if_pos h]
  split_ifs
  · rfl
  · exact (seen_drop_blanks cs).symm

lemma seen_blanks (h : ∀ c ∈ gap, Lexeme.isBlank c = true) (cs : List Char) :
    seen (gap ++ cs) = seen cs := by
  induction gap with
  | nil => rfl
  | cons c gap ih =>
    obtain ⟨hc, hgap⟩ := List.forall_mem_cons.mp h
    rw [List.cons_append, seen_blank hc, ih hgap]

end Blanks

section Words

/-- A word ends with the text, or before a character that belongs to no word. -/
def endsWord : List Char → Bool
  | [] => true
  | c :: _ => !(Lexeme.isWordLetter c || c == '!' || c == '?')

lemma endsWord_blanks (h : ∀ c ∈ gap, Lexeme.isBlank c = true) (hcs : endsWord cs = true) :
    endsWord (gap ++ cs) = true := by
  cases gap with
  | nil => exact hcs
  | cons c gap =>
    have hcode := code_of_isBlank (List.forall_mem_cons.mp h).1
    have hne (x : Char) (hx : 32 < x.toNat) : c ≠ x := by
      rintro rfl
      omega
    have hletter : Lexeme.isWordLetter c = false := not_isWordLetter_of_code (by omega)
    simp [endsWord, hletter, hne]

lemma word_of_endsWord (hletters : letters.all Lexeme.isWordLetter = true)
    (hcs : endsWord cs = true) : Lexeme.word (letters ++ cs) = letters := by
  have htake : letters.takeWhile Lexeme.isWordLetter = letters :=
    List.takeWhile_eq_self_iff.mpr (List.all_eq_true.mp hletters)
  have hdrop : letters.dropWhile Lexeme.isWordLetter = [] :=
    List.dropWhile_eq_nil_iff.mpr (List.all_eq_true.mp hletters)
  unfold Lexeme.word
  cases cs with
  | nil => rw [List.append_nil, htake, hdrop, List.append_nil]
  | cons d cs =>
    simp only [endsWord, Bool.not_eq_true', Bool.or_eq_false_iff, beq_eq_false_iff_ne] at hcs
    obtain ⟨⟨hletter, hbang⟩, hquery⟩ := hcs
    rw [takeWhile_stop hletter, dropWhile_stop hletter, htake, hdrop]
    simp [hbang, hquery]

/-- A reserved word is one token, in whatever case it is written. -/
lemma seen_word {k : Keyword} (hk : Keyword.ofLetters? (c :: letters) = some k)
    (hcs : endsWord cs = true) :
    seen (c :: (letters ++ cs)) = ⟨0, .keyword k, none⟩ :: seen cs := by
  have hletters : letters.all Lexeme.isWordLetter = true := by
    rw [List.all_eq_true]
    intro d hd
    have alpha := Keyword.isAlpha_of_ofLetters? hk (List.mem_cons_of_mem c hd)
    simp [Lexeme.isWordLetter, Char.isAlphanum, alpha]
  have hword := word_of_endsWord hletters hcs
  have hscan : Lexeme.scan c (letters ++ cs) =
      ⟨.keyword k, String.ofList (c :: letters), c :: letters⟩ := by
    have letters' : Keyword.ofLetters? (c :: Lexeme.word (letters ++ cs)) = some k := by
      rw [hword, hk]
    rw [Lexeme.scan_of_known (.word letters'), hword]
  exact seen_of_tokens ((Cursor.tokens_cons 0 (congrArg Lexeme.spelling hscan) rfl).trans
    (congrArg (· :: _) (congrArg (Lexeme.toToken · 0) hscan)))

end Words

lemma seen_semicolon (cs : List Char) : seen (';' :: cs) = ⟨0, .semicolon, none⟩ :: seen cs :=
  seen_of_tokens (Cursor.tokens_semicolon 0 cs)

lemma seen_string (hquote : quote ∈ ['"', '\'']) (cs rest : List Char) :
    seen (quote :: (guarded ['\\', quote] cs ++ quote :: rest)) =
      ⟨0, .literal .string, some (String.ofList cs)⟩ :: seen rest :=
  seen_of_tokens (Cursor.tokens_string hquote 0 cs rest)

lemma seen_object (hspells : Spells rest spelling text) (henclosed : Enclosed ('{' :: text)) :
    seen ('{' :: (spelling ++ rest)) =
      ⟨0, .literal .object, some (String.ofList ('{' :: text))⟩ :: seen rest :=
  seen_of_tokens (Cursor.tokens_object hspells henclosed 0)

/-- A mark is one token if it stands alone. -/
lemma seen_mark (m : Mark) (ended : Lexeme.endsMark rest = true) :
    seen (m.letter :: rest) = ⟨0, .mark m, none⟩ :: seen rest := by
  have hscan : Lexeme.scan m.letter rest = .bare (.mark m) [m.letter] :=
    Lexeme.scan_of_known (.mark rfl ended)
  exact seen_of_tokens ((Cursor.tokens_cons (x := []) 0 (congrArg Lexeme.spelling hscan) rfl).trans
    (congrArg (· :: _) (congrArg (Lexeme.toToken · 0) hscan)))

namespace Statement

variable {ts : List Token}

lemma body_filter (ts : List Token) :
    body (ts.filter (!·.kind.isTrivia)) = (body ts).filter (!·.kind.isTrivia) := by
  induction ts with
  | nil => rfl
  | cons t ts ih =>
    unfold body at ih ⊢
    by_cases hend : t.kind = .endOfText
    · rw [List.filter_cons_of_pos (by simp [hend, Kind.isTrivia]),
        List.takeWhile_cons_of_neg (by simp [hend]), List.takeWhile_cons_of_neg (by simp [hend])]
      rfl
    · rw [List.takeWhile_cons_of_pos (by simp [hend])]
      by_cases htrivia : t.kind.isTrivia = true
      · rw [List.filter_cons_of_neg (by simp [htrivia]),
          List.filter_cons_of_neg (by simp [htrivia]), ih]
      · rw [List.filter_cons_of_pos (by simp [htrivia]),
          List.filter_cons_of_pos (by simp [htrivia]), List.takeWhile_cons_of_pos (by simp [hend]),
          ih]

/-- Layout makes no difference to the trees of tokens. -/
lemma ofTokens?_filter (ts : List Token) :
    ofTokens? (ts.filter (!·.kind.isTrivia)) = ofTokens? ts := by
  have unknown : ((body ts).filter (!·.kind.isTrivia)).find? (·.kind = .error) =
      (body ts).find? (·.kind = .error) := by
    rw [List.find?_filter]
    congr 1
    funext t
    cases t.kind <;> simp [Kind.isTrivia]
  unfold ofTokens? groups?
  rw [body_filter, unknown, List.filter_filter]
  simp only [Bool.and_self]

end Statement

namespace Script

/-- A text compiles to what is seen of it. -/
theorem toOption_compile?_seen (listener : Listener) (source : String) :
    (compile? listener source).toOption = ofTokens? listener (seen source.toList) := by
  have layout (ts : List Token) :
      ofTokens? listener (ts.filter (!·.kind.isTrivia)) = ofTokens? listener ts := by
    unfold ofTokens?
    rw [Statement.ofTokens?_filter]
  unfold seen
  rw [toOption_compile?, layout, gist_ofTokens?]
  rfl

end Script

end ChatQuery
