import ChatQuery.Proofs.Token.Braces
import ChatQuery.Proofs.Token.Split

/-!
Texts that are written as literals. A backslash before the characters that would end a literal, or
would begin an escape in it, makes them stand for themselves, so that the literal says what was
written into it and ends where it was meant to end.
-/
namespace ChatQuery

variable {c d quote : Char} {cs rest spelling text : List Char} {depth : Nat}

/-- The text with a backslash before each of the characters. -/
def guarded (chars cs : List Char) : List Char :=
  cs.flatMap fun c => if c ∈ chars then ['\\', c] else [c]

section Guarded

variable {chars : List Char}

lemma guarded_cons_of_mem (h : c ∈ chars) (cs : List Char) :
    guarded chars (c :: cs) = '\\' :: c :: guarded chars cs := by
  simp [guarded, h]

lemma guarded_cons_of_notMem (h : c ∉ chars) (cs : List Char) :
    guarded chars (c :: cs) = c :: guarded chars cs := by
  simp [guarded, h]

end Guarded

/-- A spelling of a text, in front of other text: each character of the text is spelled by one
unit. -/
inductive Spells (rest : List Char) : List Char → List Char → Prop
  | nil : Spells rest [] []
  | cons (c : Char) (more : List Char) {d : Char} {spelling text : List Char}
      (unit : Escape.resolve c (more ++ (spelling ++ rest)) = (d, more.length))
      (following : Spells rest spelling text) : Spells rest (c :: (more ++ spelling)) (d :: text)

namespace Escape

lemma resolve_guarded (h : c ∈ ['\\', '"', '\'']) (cs : List Char) :
    resolve '\\' (c :: cs) = (c, 1) := by
  simp only [List.mem_cons, List.not_mem_nil, or_false] at h
  rcases h with rfl | rfl | rfl <;> rfl

end Escape

lemma spells_guarded (cs rest : List Char) : Spells rest (guarded ['\\'] cs) cs := by
  induction cs with
  | nil => exact .nil
  | cons c cs ih =>
    by_cases hc : c = '\\'
    · rw [hc, guarded_cons_of_mem (List.mem_singleton_self _)]
      exact .cons '\\' ['\\'] (Escape.resolve_guarded (by decide) _) ih
    · rw [guarded_cons_of_notMem (by simpa using hc)]
      exact .cons c [] (Escape.resolve_of_ne hc _) ih

namespace Lexeme

/-- A text between quotes, with its backslashes and those quotes guarded, is what the string
says. -/
theorem quoted_guarded (hquote : quote ∈ ['"', '\'']) (cs rest : List Char) :
    quoted quote (guarded ['\\', quote] cs ++ quote :: rest) =
      (cs, guarded ['\\', quote] cs ++ [quote]) := by
  have hslash : '\\' ≠ quote := by
    rintro rfl
    exact absurd hquote (by decide)
  induction cs with
  | nil => exact (quoted.eq_2 quote quote rest).trans (if_pos rfl)
  | cons c cs ih =>
    by_cases hc : c ∈ ['\\', quote]
    · have unit := Escape.resolve_guarded (c := c) (by
        rcases List.mem_cons.mp hc with rfl | hc
        · exact List.mem_cons_self
        · rw [List.mem_singleton.mp hc]
          exact List.mem_cons_of_mem _ hquote) (guarded ['\\', quote] cs ++ quote :: rest)
      rw [guarded_cons_of_mem hc, List.cons_append, List.cons_append, quoted, if_neg hslash]
      simp only [unit, List.drop_succ_cons, List.drop_zero, List.take_succ_cons, List.take_zero, ih]
      rfl
    · have hne : c ≠ '\\' ∧ c ≠ quote := by simpa using hc
      rw [guarded_cons_of_notMem hc, List.cons_append, quoted, if_neg hne.2]
      simp only [Escape.resolve_of_ne hne.1, List.drop_zero, List.take_zero, ih]
      rfl

/-- An object ends with the text that it spells if the open braces are closed just there. -/
theorem braced_of_spells (hspells : Spells rest spelling text) (hcloses : Closes depth text)
    (hdepth : 0 < depth) : braced depth (spelling ++ rest) = (text, spelling) := by
  induction hspells generalizing depth with
  | nil => exact absurd rfl (hcloses.ne_nil hdepth)
  | @cons c more d spelling text unit following ih =>
    rw [List.cons_append, List.append_assoc, braced]
    simp only [unit, List.take_left, List.drop_left]
    by_cases last : d = '}' ∧ depth ≤ 1
    · obtain ⟨rfl, hle⟩ := last
      obtain rfl : depth = 1 := by omega
      obtain rfl := hcloses.eq_nil
      cases following
      rw [if_pos ⟨rfl, hle⟩, List.append_nil]
    · obtain ⟨hinner, hpos⟩ := Closes.inner_iff hdepth last
      rw [if_neg last, ih (hinner.mp hcloses) hpos]
      rfl

lemma scan_string (hquote : quote ∈ ['"', '\'']) (cs rest : List Char) :
    scan quote (guarded ['\\', quote] cs ++ quote :: rest) =
      ⟨.literal .string, String.ofList cs, quote :: (guarded ['\\', quote] cs ++ [quote])⟩ := by
  have hquoted := quoted_guarded hquote cs rest
  simp only [List.mem_cons, List.not_mem_nil, or_false] at hquote
  rcases hquote with rfl | rfl <;> simp [scan, isBlank, hquoted]

lemma scan_object (hspells : Spells rest spelling text) (henclosed : Enclosed ('{' :: text)) :
    scan '{' (spelling ++ rest) =
      ⟨.literal .object, String.ofList ('{' :: text), '{' :: spelling⟩ := by
  have hbraced := braced_of_spells hspells (enclosed_cons_iff.mp henclosed) Nat.one_pos
  simp [scan, isBlank, hbraced]

end Lexeme

namespace Cursor

/-- A guarded text between quotes is one token, and the tokens go on behind it. -/
theorem tokens_string (hquote : quote ∈ ['"', '\'']) (i : Nat) (cs rest : List Char) :
    tokens ⟨i, quote :: (guarded ['\\', quote] cs ++ quote :: rest)⟩ =
      ⟨i, .literal .string, some (String.ofList cs)⟩ ::
        tokens ⟨i + byteLength (quote :: (guarded ['\\', quote] cs ++ [quote])), rest⟩ := by
  have hscan := Lexeme.scan_string hquote cs rest
  rw [tokens_cons i (congrArg Lexeme.spelling hscan) (List.append_cons _ quote rest), hscan]
  rfl

/-- So is a spelling of a text that its own braces enclose. -/
theorem tokens_object (hspells : Spells rest spelling text) (henclosed : Enclosed ('{' :: text))
    (i : Nat) : tokens ⟨i, '{' :: (spelling ++ rest)⟩ =
      ⟨i, .literal .object, some (String.ofList ('{' :: text))⟩ ::
        tokens ⟨i + byteLength ('{' :: spelling), rest⟩ := by
  have hscan := Lexeme.scan_object hspells henclosed
  rw [tokens_cons i (congrArg Lexeme.spelling hscan) rfl, hscan]
  rfl

end Cursor

end ChatQuery
