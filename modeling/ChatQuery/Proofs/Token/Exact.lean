import ChatQuery.Proofs.Token.Literal

/-!
Objects that are literals as they stand. The scanner takes exactly a text, and changes nothing in
it, just if the braces of the text enclose it and none of its backslashes begins an escape.
-/
namespace ChatQuery

variable {cs rest : List Char} {depth : Nat}

/-- No backslash of the text begins an escape. -/
def Unescaped (cs : List Char) : Prop :=
  ∀ after, '\\' :: after <:+ cs → Escape.resolve '\\' after = ('\\', 0)

instance (cs : List Char) : Decidable (Unescaped cs) :=
  decidable_of_iff
    (∀ t ∈ cs.tails, t.head? = some '\\' → Escape.resolve '\\' t.tail = ('\\', 0)) <| by
    simp only [List.mem_tails]
    constructor
    · intro h after hafter
      exact h _ hafter rfl
    · intro h t ht hhead
      obtain ⟨after, rfl⟩ := List.head?_eq_some_iff.mp hhead
      exact h after ht

lemma unescaped_cons_iff {c : Char} (h : c ≠ '\\') : Unescaped (c :: cs) ↔ Unescaped cs := by
  unfold Unescaped
  constructor
  · intro hall after hafter
    exact hall after (List.suffix_cons_iff.mpr (.inr hafter))
  · intro hall after hafter
    rcases List.suffix_cons_iff.mp hafter with heq | hafter
    · exact absurd (List.cons.inj heq).1.symm h
    · exact hall after hafter

example : Unescaped "\\u007d \\/ \\b \\f".toList := by decide

example : ¬Unescaped "\\n".toList := by decide

namespace Spells

variable {spelling text : List Char} {c d : Char}

lemma length_le (h : Spells rest spelling text) : text.length ≤ spelling.length := by
  induction h with
  | nil => exact Nat.le_refl _
  | cons c more unit following ih =>
    simp only [List.length_cons, List.length_append]
    omega

lemma exists_cons (h : Spells rest spelling (d :: text)) :
    ∃ c more tail, spelling = c :: (more ++ tail) ∧
      Escape.resolve c (more ++ (tail ++ rest)) = (d, more.length) ∧ Spells rest tail text := by
  cases h with
  | cons c more unit following => exact ⟨c, more, _, rfl, unit, following⟩

/-- The first unit of a text, in front of a spelling. -/
lemma cons_taken (hdrop : cs.drop (Escape.resolve c cs).2 = spelling ++ rest)
    (following : Spells rest spelling text) :
    Spells rest (c :: (cs.take (Escape.resolve c cs).2 ++ spelling))
      ((Escape.resolve c cs).1 :: text) := by
  refine .cons c _ ?_ following
  rw [← hdrop, List.take_append_drop, List.length_take, min_eq_left (Escape.resolve_length c cs)]

/-- A character of a text that spells itself is a unit of its own. -/
lemma self_cons (h : Spells rest (c :: cs) (c :: cs)) :
    Escape.resolve c (cs ++ rest) = (c, 0) ∧ Spells rest cs cs := by
  obtain ⟨c', more, tail, heq, unit, following⟩ := h.exists_cons
  obtain ⟨rfl, happend⟩ := List.cons.inj heq
  have hlength := congrArg List.length happend
  rw [List.length_append] at hlength
  have hle := following.length_le
  obtain rfl : more = [] := List.eq_nil_of_length_eq_zero (by omega)
  obtain rfl : cs = tail := happend
  exact ⟨unit, following⟩

end Spells

/-- A text spells itself just if no backslash in it begins an escape, be it with the help of what
follows the text. -/
lemma spells_self_iff : Spells rest cs cs ↔
    ∀ after, '\\' :: after <:+ cs → Escape.resolve '\\' (after ++ rest) = ('\\', 0) := by
  induction cs with
  | nil => exact iff_of_true .nil fun after hafter => by cases List.suffix_nil.mp hafter
  | cons c cs ih =>
    constructor
    · intro h after hafter
      obtain ⟨hunit, hself⟩ := h.self_cons
      rcases List.suffix_cons_iff.mp hafter with heq | hafter
      · obtain ⟨rfl, rfl⟩ := List.cons.inj heq
        exact hunit
      · exact ih.mp hself after hafter
    · intro h
      refine .cons c [] ?_ (ih.mpr fun after hafter => ?_)
      · by_cases hc : c = '\\'
        · rw [hc] at h ⊢
          exact h cs List.suffix_rfl
        · exact Escape.resolve_of_ne hc _
      · exact h after (List.suffix_cons_iff.mpr (.inr hafter))

/-- In a text that ends with a brace no escape reaches behind it. -/
lemma unescaped_iff (hlast : cs.getLast? = some '}') : Unescaped cs ↔ Spells rest cs cs := by
  have within {after : List Char} (hafter : '\\' :: after <:+ cs) :
      Escape.resolve '\\' (after ++ rest) = Escape.resolve '\\' after := by
    obtain ⟨before, rfl⟩ := hafter
    rw [List.getLast?_append, List.getLast?_cons, Option.some_or] at hlast
    cases hend : after.getLast? with
    | none =>
      rw [hend] at hlast
      cases hlast
    | some e =>
      rw [hend] at hlast
      obtain rfl : e = '}' := Option.some.inj hlast
      obtain ⟨u, rfl⟩ := List.getLast?_eq_some_iff.mp hend
      rw [List.append_assoc, Escape.resolve_within (by decide)]
      exact Escape.resolve_within (by decide) _ _ _
  rw [spells_self_iff]
  refine forall_congr' fun after => forall_congr' fun hafter => ?_
  rw [within hafter]

namespace Lexeme

/-- What the scanner reads closes the open braces. It is spelled by what the scanner takes, but for
the braces that are still open where the text ends. -/
theorem braced_spells (hdepth : 0 < depth) (cs : List Char) : ∃ said missing rest,
    cs = (braced depth cs).2 ++ rest ∧
      (braced depth cs).1 = said ++ List.replicate missing '}' ∧
      Spells rest (braced depth cs).2 said ∧ Closes depth (braced depth cs).1 ∧
      (missing = 0 ∨ rest = []) := by
  fun_induction braced depth cs with
  | case1 depth => exact ⟨[], depth, [], rfl, rfl, .nil, .replicate depth, .inr rfl⟩
  | case2 depth c cs unit h =>
    obtain rfl : depth = 1 := by omega
    have hspells : Spells (cs.drop unit.2) (c :: (cs.take unit.2 ++ [])) [unit.1] :=
      Spells.cons_taken rfl .nil
    rw [h.1, List.append_nil] at hspells
    exact ⟨['}'], 0, cs.drop unit.2, by simp, rfl, hspells, Closes.last, .inl rfl⟩
  | case3 depth c cs unit h inner following ih =>
    obtain ⟨hinner, hpos⟩ : (Closes depth (unit.1 :: following.1) ↔ Closes inner following.1) ∧ _ :=
      Closes.inner_iff hdepth h
    obtain ⟨said, missing, rest, happend, hsaid, hspells, hcloses, hend⟩ := ih hpos
    refine ⟨unit.1 :: said, missing, rest, ?_, ?_, Spells.cons_taken happend hspells,
      hinner.mpr hcloses, hend⟩
    · rw [List.append_assoc, ← happend, List.cons_append, List.take_append_drop]
    · exact congrArg (unit.1 :: ·) hsaid

/-- An object that ends before its text does is spelled by what the scanner takes. -/
theorem spells_of_braced (hdepth : 0 < depth) (cs : List Char) : (braced depth cs).2 = cs ∨
    ∃ rest, cs = (braced depth cs).2 ++ rest ∧
      Spells rest (braced depth cs).2 (braced depth cs).1 ∧ Closes depth (braced depth cs).1 := by
  obtain ⟨said, missing, rest, happend, hsaid, hspells, hcloses, rfl | rfl⟩ :=
    braced_spells hdepth cs
  · rw [List.replicate_zero, List.append_nil] at hsaid
    rw [← hsaid] at hspells
    exact .inr ⟨rest, happend, hspells, hcloses⟩
  · rw [List.append_nil] at happend
    exact .inl happend.symm

/-- The scanner takes exactly a text, as it stands, just if the text is enclosed and unescaped. -/
theorem scan_object_iff (hlast : cs.getLast? = some '}') (hrest : rest ≠ []) :
    scan '{' (cs ++ rest) = ⟨.literal .object, String.ofList ('{' :: cs), '{' :: cs⟩ ↔
      Enclosed ('{' :: cs) ∧ Unescaped cs := by
  constructor
  · intro h
    have hscan : scan '{' (cs ++ rest) = ⟨.literal .object,
        String.ofList ('{' :: (braced 1 (cs ++ rest)).1), '{' :: (braced 1 (cs ++ rest)).2⟩ := by
      simp [scan, isBlank]
    obtain ⟨-, hsaid, hspelled⟩ := Lexeme.mk.inj (hscan.symm.trans h)
    have hsaid := (List.cons.inj (String.ofList_injective hsaid)).2
    have hspelled := (List.cons.inj hspelled).2
    have hread := spells_of_braced Nat.one_pos (cs ++ rest)
    rw [hsaid, hspelled] at hread
    rcases hread with hend | ⟨rest', happend, hspells, hcloses⟩
    · exact absurd (List.self_eq_append_right.mp hend) hrest
    · obtain rfl := List.append_cancel_left happend
      exact ⟨enclosed_cons_iff.mpr hcloses, (unescaped_iff hlast).mpr hspells⟩
  · rintro ⟨henclosed, hunescaped⟩
    exact scan_object ((unescaped_iff hlast).mp hunescaped) henclosed

end Lexeme

end ChatQuery
