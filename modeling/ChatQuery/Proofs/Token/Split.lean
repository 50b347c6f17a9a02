import ChatQuery.Proofs.Token.Scan

/-!
The tokens of a text that is cut at a semicolon. If the tokens have a semicolon there, those before
it are the tokens of the text before it, and those behind it are the tokens of the text behind it.
-/
namespace ChatQuery

variable {i j : Nat} {c : Char} {cs u w : List Char}

namespace Lexeme

lemma blanks_kind (cs : List Char) : (blanks cs).1.isTrivia = true := by
  induction cs with
  | nil => rfl
  | cons c cs ih =>
    unfold blanks
    split_ifs
    · rfl
    · exact ih
    · rfl

lemma wordOrNumber_kind (c : Char) (cs : List Char) :
    (wordOrNumber c cs).kind ≠ .endOfText := by
  unfold wordOrNumber
  split_ifs
  · exact Kind.noConfusion
  · change ((Keyword.ofLetters? (c :: word cs)).map Kind.keyword).getD .error ≠ .endOfText
    cases Keyword.ofLetters? (c :: word cs) <;> exact Kind.noConfusion
  · exact Kind.noConfusion

/-- What is read from a text that has not ended is not its end. -/
lemma scan_kind (c : Char) (cs : List Char) : (scan c cs).kind ≠ .endOfText := by
  unfold scan
  split_ifs
  · intro h
    have trivia := blanks_kind (c :: cs)
    change (blanks (c :: cs)).1 = .endOfText at h
    rw [h] at trivia
    cases trivia
  · exact Kind.noConfusion
  · exact Kind.noConfusion
  · exact Kind.noConfusion
  · exact Kind.noConfusion
  · cases Mark.ofLetter? c with
    | none => exact wordOrNumber_kind c cs
    | some m => exact Kind.noConfusion
  · cases Mark.ofLetter? c <;> exact wordOrNumber_kind c cs

end Lexeme

namespace Cursor

/-- The tokens from a place to the end of the text. -/
def tokens (p : Cursor) : List Token := p.places.map token

@[simp] lemma tokens_nil (i : Nat) : tokens ⟨i, []⟩ = [⟨i, .endOfText, none⟩] := by
  unfold tokens places
  rfl

lemma tokens_cons (i : Nat) {x rest : List Char} (h : (Lexeme.scan c cs).spelling = c :: x)
    (hcs : cs = x ++ rest) :
    tokens ⟨i, c :: cs⟩ =
      (Lexeme.scan c cs).toToken i :: tokens ⟨i + byteLength (c :: x), rest⟩ := by
  have hrest : cs.drop ((c :: x).length - 1) = rest := by
    rw [hcs]
    exact List.drop_left
  have hadvance : advance ⟨i, c :: cs⟩ = ⟨i + byteLength (c :: x), rest⟩ := by
    simp only [advance, h, hrest]
  unfold tokens
  rw [places, dif_neg (by simp [atEnd]), hadvance]
  rfl

/-- The first token of a text, and the text behind it. -/
lemma tokens_step (i : Nat) (c : Char) (cs : List Char) :
    ∃ x rest, cs = x ++ rest ∧ (Lexeme.scan c cs).spelling = c :: x ∧
      tokens ⟨i, c :: cs⟩ =
        (Lexeme.scan c cs).toToken i :: tokens ⟨i + byteLength (c :: x), rest⟩ := by
  obtain ⟨x, hx, rest, rfl⟩ := Lexeme.scan_spelling c cs
  exact ⟨x, rest, rfl, hx, tokens_cons i hx rfl⟩

lemma tokens_semicolon (i : Nat) (w : List Char) :
    tokens ⟨i, ';' :: w⟩ = ⟨i, .semicolon, none⟩ :: tokens ⟨i + 1, w⟩ :=
  tokens_cons (x := []) i rfl rfl

/-- The first unit of a text that a semicolon ends either takes the semicolon and all before it, or
it is the first unit of the text without the semicolon, whatever stands behind that. -/
lemma tokens_first (i : Nat) (c : Char) (cs : List Char) :
    (∃ t e, t.index = i ∧ e.kind = .endOfText ∧ tokens ⟨i, c :: (cs ++ [';'])⟩ = [t, e]) ∨
      ∃ x rest t, cs = x ++ rest ∧ t.index = i ∧ t.kind ≠ .endOfText ∧
        tokens ⟨i, c :: cs⟩ = t :: tokens ⟨i + byteLength (c :: x), rest⟩ ∧
        ∀ w, tokens ⟨i, c :: (cs ++ ';' :: w)⟩ =
          t :: tokens ⟨i + byteLength (c :: x), rest ++ ';' :: w⟩ := by
  obtain ⟨x, rest, hcs, hx, htokens⟩ := tokens_step i c (cs ++ [';'])
  rcases Nat.lt_or_ge cs.length x.length with beyond | within
  · left
    have hrest : rest = [] := by
      have hl := congrArg List.length hcs
      rw [List.length_append, List.length_append, List.length_singleton] at hl
      exact List.eq_nil_of_length_eq_zero (by omega)
    rw [hrest, tokens_nil] at htokens
    exact ⟨_, _, rfl, rfl, htokens⟩
  · right
    have hscan (w : List Char) : Lexeme.scan c (cs ++ ';' :: w) = Lexeme.scan c cs :=
      Lexeme.scan_within (v := []) (by rw [hx]; exact Nat.succ_le_succ within)
    rw [hscan] at hx
    obtain ⟨rest, rfl⟩ : x <+: cs :=
      List.prefix_of_prefix_length_le ⟨_, hcs.symm⟩ (List.prefix_append _ _) within
    refine ⟨x, rest, _, rfl, rfl, Lexeme.scan_kind c _, tokens_cons i hx rfl, ?_⟩
    intro w
    have hw : (x ++ rest) ++ ';' :: w = x ++ (rest ++ ';' :: w) := List.append_assoc _ _ _
    rw [tokens_cons i ((congrArg _ (hscan w)).trans hx) hw, hscan]

/-- A semicolon that is a token of its own cuts the tokens in two. -/
theorem tokens_split (i : Nat) (u : List Char)
    (h : ∃ t ∈ tokens ⟨i, u ++ [';']⟩, t.kind = .semicolon ∧ t.index = i + byteLength u) :
    ∃ ts, (∀ t ∈ ts, t.kind ≠ .endOfText) ∧
      tokens ⟨i, u⟩ = ts ++ [⟨i + byteLength u, .endOfText, none⟩] ∧
      ∀ w, tokens ⟨i, u ++ ';' :: w⟩ =
        ts ++ ⟨i + byteLength u, .semicolon, none⟩ :: tokens ⟨i + byteLength u + 1, w⟩ := by
  -- The tokens of `u` are taken off one by one, so the induction is on its length.
  induction hn : u.length using Nat.strongRecOn generalizing i u with
  | ind n ih =>
    cases u with
    | nil => exact ⟨[], List.forall_mem_nil _, tokens_nil i, fun w => tokens_semicolon i w⟩
    | cons c cs =>
      obtain ⟨t, ht, hkind, hindex⟩ := h
      have later : t.index ≠ i := by
        have hc := c.utf8Size_pos
        change t.index = i + (c.utf8Size + byteLength cs) at hindex
        omega
      rcases tokens_first i c cs with ⟨a, e, ha, he, hend⟩ | ⟨x, rest, a, rfl, ha, hne, hu, hw⟩
      · rw [List.cons_append, hend, List.mem_cons, List.mem_singleton] at ht
        rcases ht with rfl | rfl
        · exact absurd ha later
        · exact absurd (he.symm.trans hkind) Kind.noConfusion
      · rw [List.cons_append, hw, List.mem_cons] at ht
        have ht := ht.resolve_left fun h => later (h ▸ ha)
        have hbytes : i + byteLength (c :: (x ++ rest)) =
            i + byteLength (c :: x) + byteLength rest := by
          rw [← List.cons_append, byteLength_append, Nat.add_assoc]
        have shorter : rest.length < n := by
          rw [← hn, List.length_cons, List.length_append]
          omega
        rw [hbytes] at hindex ⊢
        obtain ⟨ts, hts, hrest, hsplit⟩ := ih rest.length shorter (i + byteLength (c :: x)) rest
          ⟨t, ht, hkind, hindex⟩ rfl
        refine ⟨a :: ts, List.forall_mem_cons.mpr ⟨hne, hts⟩, ?_, ?_⟩
        · rw [hu, hrest]
          rfl
        · intro w
          rw [List.cons_append, hw, hsplit]
          rfl

end Cursor

end ChatQuery
