import ChatQuery.Token.Lexer
import Mathlib.Tactic.Common

/-!
What one lexical unit depends on. A unit is spelled by the front of the text, and a literal that has
been closed is read again wherever its spelling stands. A semicolon ends every unit except comments,
strings and objects, and these too do not depend on what stands behind a semicolon that they do not
reach.
-/
namespace ChatQuery

variable {u v w cs rest : List Char} {c d e quote : Char}

section Runs

variable {p : Char → Bool}

lemma takeWhile_stop (h : p d = false) (u v : List Char) :
    (u ++ d :: v).takeWhile p = u.takeWhile p := by
  rw [List.takeWhile_append, List.takeWhile_cons_of_neg (by simp [h])]
  split_ifs with hu
  · rw [List.append_nil]
    exact ((List.takeWhile_prefix p).eq_of_length hu).symm
  · rfl

lemma dropWhile_stop (h : p d = false) (u v : List Char) :
    (u ++ d :: v).dropWhile p = u.dropWhile p ++ d :: v := by
  rw [List.dropWhile_append, List.dropWhile_cons_of_neg (by simp [h])]
  split_ifs with hu
  · rw [List.isEmpty_iff.mp hu]
    rfl
  · rfl

end Runs

namespace Escape

lemma number?_eq_foldlM (radix : Nat) (ds : List Char) :
    number? radix ds = ds.foldlM (fun n d => (digit? radix d).map (n * radix + ·)) 0 := by
  cases ds <;> rfl

lemma number?_eq_none {radix : Nat} (h : digit? radix d = none) (u v : List Char) :
    number? radix (u ++ d :: v) = none := by
  rw [number?_eq_foldlM, List.foldlM_append]
  rw [Option.bind_eq_bind, Option.bind_eq_none_iff]
  intro n _
  rw [List.foldlM_cons, h]
  rfl

lemma coded?_stop {radix : Nat} (h : digit? radix d = none) (count : Nat) (u v : List Char) :
    coded? radix count (u ++ d :: v) = coded? radix count u := by
  rcases Nat.lt_or_ge u.length count with short | long
  · have hu : (u.take count).length ≠ count := by
      rw [List.length_take]
      omega
    obtain ⟨k, hk⟩ : ∃ k, count - u.length = k + 1 := ⟨count - u.length - 1, by omega⟩
    have ht : (u ++ d :: v).take count = u ++ d :: v.take k := by
      rw [List.take_append, List.take_of_length_le (Nat.le_of_lt short), hk, List.take_succ_cons]
    unfold coded?
    rw [if_neg hu, ht, number?_eq_none h, Option.map_none, ite_self]
  · unfold coded?
    rw [List.take_append_of_le_length long]

lemma afterBackslash?_cons_stop (hoctal : digit? 8 d = none) (hhex : digit? 16 d = none)
    (c : Char) (u v : List Char) :
    afterBackslash? (c :: (u ++ d :: v)) = afterBackslash? (c :: u) := by
  have octal : coded? 8 3 (c :: (u ++ d :: v)) = coded? 8 3 (c :: u) :=
    coded?_stop hoctal 3 (c :: u) v
  rw [afterBackslash?, afterBackslash?, coded?_stop hhex, octal]

lemma afterBackslash?_stop (hd : d ∈ [';', '}']) (u v : List Char) :
    afterBackslash? (u ++ d :: v) = afterBackslash? u := by
  have stops : named? d = none ∧ d ≠ 'x' ∧ digit? 8 d = none ∧ digit? 16 d = none := by
    simp only [List.mem_cons, List.not_mem_nil, or_false] at hd
    rcases hd with rfl | rfl <;> decide
  obtain ⟨hname, hx, hoctal, hhex⟩ := stops
  cases u with
  | nil =>
    have hcode : coded? 8 3 ([] ++ d :: v) = none := coded?_stop hoctal 3 [] v
    simp only [List.nil_append] at hcode ⊢
    simp [afterBackslash?, hname, hx, hcode]
  | cons e u => exact afterBackslash?_cons_stop hoctal hhex e u v

/-- An escape reaches neither behind a semicolon nor behind a closing brace. -/
theorem resolve_within (hd : d ∈ [';', '}']) (c : Char) (u v : List Char) :
    resolve c (u ++ d :: v) = resolve c u := by
  unfold resolve
  rw [afterBackslash?_stop hd]

lemma length_of_coded? {radix count : Nat} (h : (coded? radix count cs).isSome) :
    count ≤ cs.length := by
  unfold coded? at h
  split_ifs at h with ht
  · rw [List.length_take] at ht
    omega
  · cases h

lemma length_of_afterBackslash? {e : Char × Nat} (h : afterBackslash? cs = some e) :
    e.2 ≤ cs.length := by
  unfold afterBackslash? at h
  split at h
  · cases h
  · split at h
    · cases h
      exact Nat.succ_le_succ (Nat.zero_le _)
    · split_ifs at h
      · obtain ⟨d, hd, rfl⟩ := Option.map_eq_some_iff.mp h
        exact Nat.succ_le_succ (length_of_coded? (Option.isSome_of_eq_some hd))
      · obtain ⟨d, hd, rfl⟩ := Option.map_eq_some_iff.mp h
        exact length_of_coded? (Option.isSome_of_eq_some hd)

theorem resolve_length (c : Char) (cs : List Char) : (resolve c cs).2 ≤ cs.length := by
  unfold resolve
  split_ifs
  · cases h : afterBackslash? cs with
    | none => exact Nat.zero_le _
    | some e => exact length_of_afterBackslash? h
  · exact Nat.zero_le _

lemma coded?_eq_some_iff {radix count : Nat} {a : Char} (v : List Char) :
    coded? radix count u = some a ↔ coded? radix count (u ++ v) = some a ∧ count ≤ u.length := by
  have append (hlength : count ≤ u.length) :
      coded? radix count (u ++ v) = coded? radix count u := by
    unfold coded?
    rw [List.take_append_of_le_length hlength]
  constructor
  · intro h
    have hlength := length_of_coded? (Option.isSome_of_eq_some h)
    exact ⟨(append hlength).trans h, hlength⟩
  · rintro ⟨h, hlength⟩
    exact (append hlength).symm.trans h

/-- A text begins with an escape just if the escape lies within it. -/
lemma afterBackslash?_eq_some_iff {r : Char × Nat} (v : List Char) :
    afterBackslash? u = some r ↔ afterBackslash? (u ++ v) = some r ∧ r.2 ≤ u.length := by
  have coded {x y : Option Char} (h : ∀ a, x = some a ↔ y = some a ∧ 3 ≤ u.length) :
      x.map (·, 3) = some r ↔ y.map (·, 3) = some r ∧ r.2 ≤ u.length := by
    simp only [Option.map_eq_some_iff, h]
    constructor
    · rintro ⟨a, ⟨ha, hlength⟩, rfl⟩
      exact ⟨⟨a, ha, rfl⟩, hlength⟩
    · rintro ⟨⟨a, ha, rfl⟩, hlength⟩
      exact ⟨a, ⟨ha, hlength⟩, rfl⟩
  cases u with
  | nil =>
    have pos (h : afterBackslash? v = some r) : 0 < r.2 := by
      unfold afterBackslash? at h
      split at h
      · cases h
      · split at h
        · cases h
          exact Nat.one_pos
        · split_ifs at h <;> obtain ⟨a, -, rfl⟩ := Option.map_eq_some_iff.mp h <;> simp
    constructor
    · intro h
      cases h
    · rintro ⟨h, hlength⟩
      have hpos := pos h
      simp only [List.length_nil] at hlength
      omega
  | cons d u =>
    rw [List.cons_append, afterBackslash?, afterBackslash?]
    cases hname : named? d with
    | some a =>
      simp only [Option.some.injEq, List.length_cons]
      constructor
      · rintro rfl
        exact ⟨rfl, by simp⟩
      · exact And.left
    | none =>
      dsimp only
      split_ifs with hex
      · apply coded
        intro a
        rw [coded?_eq_some_iff v, List.length_cons, Nat.succ_le_succ_iff]
      · apply coded
        intro a
        rw [← List.cons_append]
        exact coded?_eq_some_iff v

/-- What a character means is known from the front of the text that spells it. -/
theorem resolve_of_prefix (h : u <+: cs) (hlength : (resolve c cs).2 ≤ u.length) :
    resolve c u = resolve c cs := by
  obtain ⟨v, rfl⟩ := h
  unfold resolve at hlength ⊢
  split_ifs at hlength ⊢
  · cases hall : afterBackslash? (u ++ v) with
    | some r =>
      rw [hall] at hlength
      rw [(afterBackslash?_eq_some_iff v).mpr ⟨hall, hlength⟩]
    | none =>
      have hnone : afterBackslash? u = none := by
        rw [Option.eq_none_iff_forall_ne_some]
        intro r hr
        rw [((afterBackslash?_eq_some_iff v).mp hr).1] at hall
        cases hall
      rw [hnone]
  · rfl

/-- An escape is read again in front of any text. -/
theorem resolve_taken (h : resolve c cs ≠ ('\\', 0)) (rest : List Char) :
    resolve c (cs.take (resolve c cs).2 ++ rest) = resolve c cs := by
  by_cases slash : c = '\\'
  · subst slash
    unfold resolve at h ⊢
    rw [if_pos rfl] at h ⊢
    cases hr : afterBackslash? cs with
    | none =>
      rw [hr] at h
      exact absurd rfl h
    | some r =>
      have htaken : afterBackslash? (cs.take r.2) = some r := by
        rw [afterBackslash?_eq_some_iff (cs.drop r.2), List.take_append_drop, List.length_take]
        have hlength := length_of_afterBackslash? hr
        exact ⟨hr, by omega⟩
      simp only [if_true, Option.getD_some]
      rw [((afterBackslash?_eq_some_iff rest).mp htaken).1, Option.getD_some]
  · rw [resolve_of_ne slash, resolve_of_ne slash]

/-- No escape reaches behind a quote, a backslash or a closing brace. -/
theorem resolve_upTo (he : e ∈ ['"', '\'', '\\', '}']) (c : Char) (u v w : List Char) :
    resolve c (u ++ e :: v) = resolve c (u ++ e :: w) := by
  have hcode : digit? 8 e = none ∧ digit? 16 e = none := by
    simp only [List.mem_cons, List.not_mem_nil, or_false] at he
    rcases he with rfl | rfl | rfl | rfl <;> decide
  obtain ⟨hoctal, hhex⟩ := hcode
  have same : afterBackslash? (u ++ e :: v) = afterBackslash? (u ++ e :: w) := by
    cases u with
    | nil =>
      have code (t : List Char) : coded? 8 3 (e :: t) = none := coded?_stop hoctal 3 [] t
      simp only [List.mem_cons, List.not_mem_nil, or_false] at he
      rcases he with rfl | rfl | rfl | rfl <;> simp [afterBackslash?, named?, code]
    | cons a u =>
      have stop (t : List Char) := afterBackslash?_cons_stop hoctal hhex a u t
      simp only [List.cons_append, stop]
  unfold resolve
  rw [same]

end Escape

namespace Lexeme

lemma blanks_prefix (cs : List Char) : (blanks cs).2 <+: cs := by
  induction cs with
  | nil => exact List.prefix_rfl
  | cons c cs ih =>
    unfold blanks
    split_ifs
    · exact ⟨cs, rfl⟩
    · exact (List.cons_prefix_cons).mpr ⟨rfl, ih⟩
    · exact List.nil_prefix

lemma take_append_prefix {n : Nat} (h : u <+: cs.drop n) : cs.take n ++ u <+: cs := by
  obtain ⟨rest, hr⟩ := h
  refine ⟨rest, ?_⟩
  rw [List.append_assoc, hr, List.take_append_drop]

lemma quoted_prefix (quote : Char) (cs : List Char) : (quoted quote cs).2 <+: cs := by
  fun_induction quoted quote cs with
  | case1 => exact List.prefix_rfl
  | case2 cs => exact ⟨cs, rfl⟩
  | case3 c cs h unit following ih => exact List.cons_prefix_cons.mpr ⟨rfl, take_append_prefix ih⟩

lemma braced_prefix (depth : Nat) (cs : List Char) : (braced depth cs).2 <+: cs := by
  fun_induction braced depth cs with
  | case1 => exact List.prefix_rfl
  | case2 depth c cs unit h => exact List.cons_prefix_cons.mpr ⟨rfl, List.take_prefix _ _⟩
  | case3 depth c cs unit h inner following ih =>
    exact List.cons_prefix_cons.mpr ⟨rfl, take_append_prefix ih⟩

lemma digits_prefix (cs : List Char) : digits cs <+: cs := by
  have split : cs.takeWhile Char.isDigit ++ cs.dropWhile Char.isDigit = cs :=
    List.takeWhile_append_dropWhile
  unfold digits
  nth_rewrite 3 [← split]
  rw [List.prefix_append_right_inj]
  split
  · next hd =>
    rw [hd]
    split_ifs
    · exact List.cons_prefix_cons.mpr ⟨rfl, List.takeWhile_prefix _⟩
    · exact List.nil_prefix
  · exact List.nil_prefix

lemma word_prefix (cs : List Char) : word cs <+: cs := by
  have split : cs.takeWhile isWordLetter ++ cs.dropWhile isWordLetter = cs :=
    List.takeWhile_append_dropWhile
  unfold word
  nth_rewrite 3 [← split]
  rw [List.prefix_append_right_inj]
  split
  · next hd =>
    rw [hd]
    exact List.cons_prefix_cons.mpr ⟨rfl, List.nil_prefix⟩
  · next hd =>
    rw [hd]
    exact List.cons_prefix_cons.mpr ⟨rfl, List.nil_prefix⟩
  · exact List.nil_prefix

lemma wordOrNumber_spelling (c : Char) (cs : List Char) :
    ∃ u, (wordOrNumber c cs).spelling = c :: u ∧ u <+: cs := by
  unfold wordOrNumber
  split_ifs
  · exact ⟨_, rfl, digits_prefix cs⟩
  · exact ⟨_, rfl, word_prefix cs⟩
  · exact ⟨_, rfl, List.nil_prefix⟩

/-- What spells a unit is the front of the text, and not empty. -/
theorem scan_spelling (c : Char) (cs : List Char) :
    ∃ u, (scan c cs).spelling = c :: u ∧ u <+: cs := by
  unfold scan
  split_ifs with blank
  · refine ⟨(blanks (c :: cs)).2.tail, ?_⟩
    have h := blanks_prefix (c :: cs)
    unfold blanks at h ⊢
    rw [if_pos blank] at h ⊢
    split_ifs
    · exact ⟨rfl, List.nil_prefix⟩
    · exact ⟨rfl, blanks_prefix cs⟩
  · exact ⟨_, rfl, List.takeWhile_prefix _⟩
  · exact ⟨_, rfl, List.nil_prefix⟩
  · exact ⟨_, rfl, braced_prefix 1 cs⟩
  · exact ⟨_, rfl, quoted_prefix c cs⟩
  · cases Mark.ofLetter? c with
    | none => exact wordOrNumber_spelling c cs
    | some m => exact ⟨_, rfl, List.nil_prefix⟩
  · cases Mark.ofLetter? c <;> exact wordOrNumber_spelling c cs

lemma blanks_stop (u v : List Char) : blanks (u ++ ';' :: v) = blanks u := by
  induction u with
  | nil => rfl
  | cons c u ih => rw [List.cons_append, blanks, blanks, ih]

lemma digits_stop (u v : List Char) : digits (u ++ ';' :: v) = digits u := by
  unfold digits
  rw [takeWhile_stop (by decide), dropWhile_stop (by decide)]
  congr 1
  cases u.dropWhile Char.isDigit with
  | nil => rfl
  | cons c ds =>
    by_cases point : c = '.'
    · subst point
      cases ds with
      | nil => rfl
      | cons d ds =>
        have ht := takeWhile_stop (p := Char.isDigit) (d := ';') (by decide) (d :: ds) v
        rw [List.cons_append] at ht
        simp only [List.cons_append, ht]
    · simp [point]

lemma word_stop (u v : List Char) : word (u ++ ';' :: v) = word u := by
  unfold word
  rw [takeWhile_stop (by decide), dropWhile_stop (by decide)]
  congr 1
  generalize u.dropWhile isWordLetter = ds
  cases ds with
  | nil => rfl
  | cons c ds =>
    rw [List.cons_append]
    split <;> simp_all

lemma endsMark_stop (u v : List Char) : endsMark (u ++ ';' :: v) = endsMark u := by
  cases u <;> rfl

lemma wordOrNumber_stop (c : Char) (u v : List Char) :
    wordOrNumber c (u ++ ';' :: v) = wordOrNumber c u := by
  unfold wordOrNumber number reserved
  rw [digits_stop, word_stop]

lemma takeWhile_within {p : Char → Bool} (hp : p ';' = true)
    (h : ((u ++ ';' :: v).takeWhile p).length ≤ u.length) :
    (u ++ ';' :: w).takeWhile p = u.takeWhile p := by
  rw [List.takeWhile_append] at h ⊢
  split_ifs at h ⊢ with hu
  · rw [List.takeWhile_cons_of_pos hp, List.length_append, List.length_cons] at h
    omega
  · rfl

/-- A string that ends before its text does has its closing quote. -/
lemma mem_of_quoted (h : (quoted quote cs).2 ≠ cs) : quote ∈ (quoted quote cs).2 := by
  fun_induction quoted quote cs with
  | case1 => exact absurd rfl h
  | case2 cs => exact List.mem_singleton_self _
  | case3 c cs hc unit following ih =>
    have hdrop : following.2 ≠ cs.drop unit.2 := by
      intro hdrop
      exact h (by rw [List.cons_append, hdrop, List.take_append_drop])
    exact List.mem_append_right _ (ih hdrop)

/-- An object that ends before its text does has a brace that closes it, which may be escaped. -/
lemma mem_of_braced {depth : Nat} (h : (braced depth cs).2 ≠ cs) :
    ∃ e ∈ (braced depth cs).2, e ∈ ['"', '\'', '\\', '}'] := by
  fun_induction braced depth cs with
  | case1 => exact absurd rfl h
  | case2 depth c cs unit hc =>
    refine ⟨c, List.mem_cons_self, ?_⟩
    by_cases slash : c = '\\'
    · simp [slash]
    · have hunit : unit = (c, 0) := Escape.resolve_of_ne slash cs
      rw [hunit] at hc
      have hbrace : c = '}' := hc.1
      simp [hbrace]
  | case3 depth c cs unit hc inner following ih =>
    have hdrop : following.2 ≠ cs.drop unit.2 := by
      intro hdrop
      exact h (by rw [List.cons_append, hdrop, List.take_append_drop])
    obtain ⟨e, hmem, he⟩ := ih hdrop
    exact ⟨e, List.mem_append_right _ hmem, he⟩

/-- A character of a literal is read again, if the literal has been closed behind it or nothing else
follows it. -/
lemma resolve_again (c : Char) {taken : List Char}
    (htaken : taken <+: cs.drop (Escape.resolve c cs).2)
    (hclosed : rest = [] ∨ ∃ e ∈ taken, e ∈ ['"', '\'', '\\', '}']) :
    Escape.resolve c (cs.take (Escape.resolve c cs).2 ++ (taken ++ rest)) =
      Escape.resolve c cs := by
  have hlength := Escape.resolve_length c cs
  have hfront : Escape.resolve c (cs.take (Escape.resolve c cs).2 ++ taken) =
      Escape.resolve c cs := by
    apply Escape.resolve_of_prefix <| take_append_prefix htaken
    simp only [List.length_append, List.length_take]
    omega
  refine Eq.trans ?_ hfront
  rcases hclosed with rfl | ⟨e, hmem, he⟩
  · rw [List.append_nil]
  · obtain ⟨u, v, rfl⟩ := List.append_of_mem hmem
    rw [List.append_assoc, List.cons_append, ← List.append_assoc, ← List.append_assoc]
    exact Escape.resolve_upTo he c _ _ _

lemma take_again (c : Char) (cs taken : List Char) :
    (cs.take (Escape.resolve c cs).2 ++ taken).take (Escape.resolve c cs).2 =
        cs.take (Escape.resolve c cs).2 ∧
      (cs.take (Escape.resolve c cs).2 ++ taken).drop (Escape.resolve c cs).2 = taken := by
  have hlength : (cs.take (Escape.resolve c cs).2).length = (Escape.resolve c cs).2 := by
    rw [List.length_take, Nat.min_eq_left (Escape.resolve_length c cs)]
  constructor
  · conv_lhs => rw [← hlength]
    simp
  · exact List.drop_left' hlength

lemma quoted_again (hquote : quote ∈ ['"', '\''])
    (hclosed : rest = [] ∨ (quoted quote cs).2 ≠ cs) :
    quoted quote ((quoted quote cs).2 ++ rest) = quoted quote cs := by
  fun_induction quoted quote cs with
  | case1 =>
    rcases hclosed with rfl | h
    · rw [List.append_nil, quoted]
    · exact absurd rfl h
  | case2 cs => rw [List.singleton_append, quoted, if_pos rfl]
  | case3 c cs hc unit following ih =>
    have hfollowing : rest = [] ∨ following.2 ≠ cs.drop unit.2 := by
      refine hclosed.imp_right fun h hdrop => h ?_
      rw [List.cons_append, hdrop, List.take_append_drop]
    have hunit : Escape.resolve c (cs.take unit.2 ++ (following.2 ++ rest)) = unit := by
      apply resolve_again c <| quoted_prefix quote _
      refine hfollowing.imp_right fun h => ⟨quote, mem_of_quoted h, ?_⟩
      simp only [List.mem_cons, List.not_mem_nil, or_false] at hquote ⊢
      tauto
    obtain ⟨htake, hdrop⟩ := take_again c cs (following.2 ++ rest)
    rw [List.cons_append, List.cons_append, List.append_assoc, quoted, if_neg hc]
    simp only [hunit]
    rw [htake, hdrop, ih hfollowing]
    rfl

lemma braced_again {depth : Nat} (hclosed : rest = [] ∨ (braced depth cs).2 ≠ cs) :
    braced depth ((braced depth cs).2 ++ rest) = braced depth cs := by
  fun_induction braced depth cs with
  | case1 depth =>
    rcases hclosed with rfl | h
    · rw [List.append_nil, braced]
    · exact absurd rfl h
  | case2 depth c cs unit hc =>
    have hunit : Escape.resolve c (cs.take unit.2 ++ rest) = unit := by
      apply Escape.resolve_taken
      intro heq
      have hfirst : unit.1 = '\\' := congrArg Prod.fst heq
      rw [hc.1] at hfirst
      exact absurd hfirst (by decide)
    obtain ⟨htake, -⟩ := take_again c cs rest
    rw [List.cons_append, braced]
    simp only [hunit]
    rw [if_pos hc, htake]
  | case3 depth c cs unit hc inner following ih =>
    have hfollowing : rest = [] ∨ following.2 ≠ cs.drop unit.2 := by
      refine hclosed.imp_right fun h hdrop => h ?_
      rw [List.cons_append, hdrop, List.take_append_drop]
    have hunit : Escape.resolve c (cs.take unit.2 ++ (following.2 ++ rest)) = unit :=
      resolve_again c ( braced_prefix inner _) (hfollowing.imp_right mem_of_braced)
    obtain ⟨htake, hdrop⟩ := take_again c cs (following.2 ++ rest)
    have hinner : braced inner (following.2 ++ rest) = following := ih hfollowing
    change braced depth (c :: (cs.take unit.2 ++ following.2 ++ rest)) = _
    rw [List.append_assoc, braced]
    simp only [hunit]
    rw [if_neg hc, htake, hdrop]
    exact congrArg (fun f : List Char × List Char => (unit.1 :: f.1, c :: cs.take unit.2 ++ f.2))
      hinner

/-- A literal that ends before a semicolon does not depend on what stands behind the semicolon. -/
lemma within_of_again {f : List Char → List Char × List Char} (front : ∀ cs, (f cs).2 <+: cs)
    (again : ∀ cs rest, (f cs).2 ≠ cs → f ((f cs).2 ++ rest) = f cs)
    (h : (f (u ++ ';' :: v)).2.length ≤ u.length) : f (u ++ ';' :: w) = f u := by
  obtain ⟨rest, hu⟩ : (f (u ++ ';' :: v)).2 <+: u :=
    List.prefix_of_prefix_length_le (front _) (List.prefix_append _ _) h
  have hne : (f (u ++ ';' :: v)).2 ≠ u ++ ';' :: v := by
    intro heq
    rw [heq, List.length_append, List.length_cons] at h
    omega
  have alone := again _ rest hne
  have behind := again _ (rest ++ ';' :: w) hne
  rw [← List.append_assoc, hu] at behind
  rw [hu] at alone
  exact behind.trans alone.symm

/-- A unit that ends before a semicolon does not depend on what stands behind the semicolon. -/
theorem scan_within (h : (scan c (u ++ ';' :: v)).spelling.length ≤ u.length + 1) :
    scan c (u ++ ';' :: w) = scan c u := by
  unfold scan at h ⊢
  simp only [endsMark_stop, wordOrNumber_stop] at h ⊢
  split_ifs at h ⊢ with blank comment semicolon object string
  · rw [← List.cons_append, blanks_stop]
  · rw [takeWhile_within (by decide) (Nat.le_of_succ_le_succ h)]
  · rfl
  · have hw := within_of_again ( braced_prefix 1) (fun _ _ hne => braced_again (.inr hne))
      (Nat.le_of_succ_le_succ h) (w := w)
    rw [hw]
  · have hquote : c ∈ ['"', '\''] := by simpa using string
    have hw := within_of_again ( quoted_prefix c) (fun _ _ hne => quoted_again hquote (.inr hne))
      (Nat.le_of_succ_le_succ h) (w := w)
    rw [hw]
  · rfl
  · rfl

end Lexeme

end ChatQuery
