import ChatQuery.Proofs.Token.Split
import ChatQuery.Text.Digit
import Mathlib.Data.List.TakeWhile

/-!
Units that are read again. What spells a unit is read as the same unit wherever it is put, alone or
in front of other text, as long as the unit cannot go on with the first character of that text.
-/
namespace ChatQuery

variable {c d e quote : Char} {cs u v w x rest : List Char}

section Runs

variable {p : Char → Bool}

/-- A run is read again in front of what does not belong to it. -/
lemma takeWhile_again (hrest : ∀ d ∈ rest.head?, p d = false) (cs : List Char) :
    (cs.takeWhile p ++ rest).takeWhile p = cs.takeWhile p ∧
      (cs.takeWhile p ++ rest).dropWhile p = rest := by
  have hrun : ∀ d ∈ cs.takeWhile p, p d = true := fun _ => List.mem_takeWhile_imp
  rw [List.takeWhile_append_of_pos hrun, List.dropWhile_append_of_pos hrun]
  cases rest with
  | nil => simp
  | cons d rest => simp [hrest d rfl]

lemma dropWhile_of_append (h : cs.takeWhile p ++ rest = cs) : cs.dropWhile p = rest := by
  have hsplit : cs.takeWhile p ++ cs.dropWhile p = cs.takeWhile p ++ rest := by
    rw [h, List.takeWhile_append_dropWhile]
  exact List.append_cancel_left hsplit

/-- The character at which a run stops does not belong to it. -/
lemma not_of_takeWhile_append (h : cs.takeWhile p ++ d :: v = cs) : p d = false := by
  have hdrop : cs.dropWhile p = d :: v := dropWhile_of_append h
  have hhead := List.head_dropWhile_not p (l := cs) (by simp [hdrop])
  simpa [hdrop] using hhead

end Runs

namespace Lexeme

/-- Whether a unit could go on with the character. Nothing is said of unknown units. -/
def goesOn : Kind → Char → Bool
  | .whitespace, d => isBlank d
  | .comment, d => !isLineEnd d
  | .literal .number, d => d.isDigit || d == '.'
  | .mark _, d => !(isBlank d || d == ';')
  | .keyword _, d => isWordLetter d || d == '!' || d == '?'
  | .newline, _ | .semicolon, _ | .literal .string, _ | .literal .object, _ => false
  | .error, _ | .endOfText, _ => true

lemma blanks_again (cs : List Char)
    (hrest : ∀ d ∈ rest.head?, goesOn (blanks cs).1 d = false) :
    blanks ((blanks cs).2 ++ rest) = blanks cs := by
  have stop (hblank : ∀ d ∈ rest.head?, isBlank d = false) : blanks rest = (.whitespace, []) := by
    cases rest with
    | nil => rfl
    | cons d rest => simp [blanks, hblank d rfl]
  induction cs with
  | nil => exact stop hrest
  | cons c cs ih =>
    by_cases blank : isBlank c = true
    · by_cases line : isLineEnd c = true
      · simp [blanks, blank, line]
      · simp only [blanks, blank, line, if_true, if_false, Bool.false_eq_true] at hrest ⊢
        simp [blanks, blank, line, ih hrest]
    · simp only [blanks, blank, if_false, Bool.false_eq_true] at hrest ⊢
      exact stop hrest

/-- A number is a run of digits, or two of them with a point between. -/
lemma digits_cases (cs : List Char) : digits cs = cs.takeWhile Char.isDigit ∨
    ∃ d ds, d.isDigit = true ∧ cs.dropWhile Char.isDigit = '.' :: d :: ds ∧
      digits cs = cs.takeWhile Char.isDigit ++ '.' :: (d :: ds).takeWhile Char.isDigit := by
  unfold digits
  split
  · next d ds hdrop =>
    split_ifs with fraction
    · exact .inr ⟨d, ds, fraction, hdrop, rfl⟩
    · exact .inl (List.append_nil _)
  · exact .inl (List.append_nil _)

lemma digits_again (hrest : ∀ d ∈ rest.head?, (d.isDigit || d == '.') = false) (cs : List Char) :
    digits (digits cs ++ rest) = digits cs := by
  have hdigit : ∀ d ∈ rest.head?, d.isDigit = false := fun d hd =>
    (Bool.or_eq_false_iff.mp (hrest d hd)).1
  rcases digits_cases cs with h | ⟨d, ds, fraction, -, h⟩
  · obtain ⟨htake, hdrop⟩ := takeWhile_again hdigit cs
    rw [h]
    unfold digits
    rw [htake, hdrop]
    cases rest with
    | nil => simp
    | cons d rest =>
      have hpoint : d ≠ '.' := by
        rintro rfl
        exact absurd (hrest '.' rfl) (by decide)
      simp [hpoint]
  · have stop : ∀ e ∈ ('.' :: ((d :: ds).takeWhile Char.isDigit ++ rest)).head?,
        e.isDigit = false := by
      rintro e ⟨⟩
      rfl
    obtain ⟨htake, hdrop⟩ := takeWhile_again stop cs
    obtain ⟨hfraction, -⟩ := takeWhile_again hdigit (d :: ds)
    rw [List.takeWhile_cons_of_pos fraction] at h htake hdrop hfraction
    rw [h, List.append_assoc, List.cons_append]
    unfold digits
    rw [htake, hdrop]
    simp only [List.cons_append] at hfraction ⊢
    rw [if_pos fraction, hfraction]

/-- A word is a run of its letters, or one with a mark behind it. -/
lemma word_cases (cs : List Char) : word cs = cs.takeWhile isWordLetter ∨
    ∃ d ds, (d = '!' ∨ d = '?') ∧ cs.dropWhile isWordLetter = d :: ds ∧
      word cs = cs.takeWhile isWordLetter ++ [d] := by
  unfold word
  split
  · next ds hdrop => exact .inr ⟨'!', ds, .inl rfl, hdrop, rfl⟩
  · next ds hdrop => exact .inr ⟨'?', ds, .inr rfl, hdrop, rfl⟩
  · exact .inl (List.append_nil _)

lemma word_again (hrest : ∀ d ∈ rest.head?, (isWordLetter d || d == '!' || d == '?') = false)
    (cs : List Char) : word (word cs ++ rest) = word cs := by
  rcases word_cases cs with h | ⟨d, ds, hd, -, h⟩
  · have hletter : ∀ d ∈ rest.head?, isWordLetter d = false := by
      intro d hd
      have hall := hrest d hd
      simp only [Bool.or_eq_false_iff] at hall
      exact hall.1.1
    obtain ⟨htake, hdrop⟩ := takeWhile_again hletter cs
    rw [h]
    unfold word
    rw [htake, hdrop]
    cases rest with
    | nil => simp
    | cons d rest =>
      have hne : d ≠ '!' ∧ d ≠ '?' := by
        constructor <;> rintro rfl <;> exact absurd (hrest _ rfl) (by decide)
      simp [hne]
  · have stop : ∀ e ∈ (d :: rest).head?, isWordLetter e = false := by
      rintro e ⟨⟩
      rcases hd with rfl | rfl <;> decide
    obtain ⟨htake, hdrop⟩ := takeWhile_again stop cs
    rw [h, List.append_assoc, List.singleton_append]
    unfold word
    rw [htake, hdrop]
    rcases hd with rfl | rfl <;> rfl

end Lexeme

section Codes

lemma code_of_isBlank (h : Lexeme.isBlank c = true) : c.toNat ≤ 32 := by
  rcases of_decide_eq_true h with rfl | ⟨-, hle⟩
  · exact Nat.le_refl _
  · exact Nat.le_trans hle (by decide)

lemma code_of_isAlpha (h : c.isAlpha = true) : 65 ≤ c.toNat ∧ c.toNat ≤ 122 := by
  rcases Bool.or_eq_true_iff.mp h with h | h
  · obtain ⟨hge, hle⟩ := of_decide_eq_true h
    exact ⟨hge, Nat.le_trans hle (by decide)⟩
  · have hge : 97 ≤ c.toNat := of_decide_eq_true (Bool.and_eq_true_iff.mp h).1
    exact ⟨by omega, of_decide_eq_true (Bool.and_eq_true_iff.mp h).2⟩

lemma code_of_isWordLetter (h : Lexeme.isWordLetter c = true) : 48 ≤ c.toNat := by
  rcases of_decide_eq_true h with h | rfl
  · rcases Bool.or_eq_true_iff.mp h with h | h
    · have hle := (code_of_isAlpha h).1
      omega
    · exact (Text.code_of_ascii h).1
  · decide

lemma not_isBlank_of_code (h : 32 < c.toNat) : Lexeme.isBlank c = false := by
  by_contra blank
  have hle := code_of_isBlank (eq_true_of_ne_false blank)
  omega

lemma not_isDigit_of_code (h : c.toNat < 48 ∨ 57 < c.toNat) : c.isDigit = false := by
  by_contra digit
  have hle := Text.code_of_ascii (eq_true_of_ne_false digit)
  omega

lemma not_isWordLetter_of_code (h : c.toNat < 48) : Lexeme.isWordLetter c = false := by
  by_contra letter
  have hle := code_of_isWordLetter (eq_true_of_ne_false letter)
  omega

end Codes

lemma Mark.ofLetter?_eq_some_iff {m : Mark} : ofLetter? c = some m ↔ c = m.letter := by
  constructor
  · intro h
    unfold ofLetter? at h
    have found := List.find?_some h
    exact (beq_iff_eq.mp found).symm
  · rintro rfl
    exact ofLetter?_letter m

namespace Keyword

variable {k : Keyword} {letters : List Char}

lemma word_of_ofLetters? (h : ofLetters? letters = some k) :
    letters.map Char.toLower = k.word.toList := by
  unfold ofLetters? at h
  have found := List.find?_some h
  exact (beq_iff_eq.mp found).symm

lemma isAlpha_of_ofLetters? (h : ofLetters? letters = some k) (hc : c ∈ letters) :
    c.isAlpha = true := by
  have lower : c.toLower.isLower = true := by
    have hword : k.word.toList.all Char.isLower = true := by cases k <;> decide
    apply List.all_eq_true.mp hword
    rw [← word_of_ofLetters? h]
    exact List.mem_map_of_mem hc
  unfold Char.toLower at lower
  split at lower
  · next upper => exact Bool.or_eq_true_iff.mpr (.inl (decide_eq_true upper))
  · exact Bool.or_eq_true_iff.mpr (.inr lower)

/-- No reserved word is a single letter. -/
lemma two_le_of_ofLetters? (h : ofLetters? letters = some k) : 2 ≤ letters.length := by
  have hword : 2 ≤ k.word.toList.length := by cases k <;> decide
  rwa [← word_of_ofLetters? h, List.length_map] at hword

end Keyword

namespace Lexeme

/-- The units that the language knows, each with what it asks of the text. -/
inductive Known (c : Char) (cs : List Char) : Lexeme → Prop
  | blanks (first : isBlank c = true) :
    Known c cs (bare (blanks (c :: cs)).1 (blanks (c :: cs)).2)
  | comment (first : c = '#') : Known c cs (bare .comment (c :: cs.takeWhile (!isLineEnd ·)))
  | semicolon (first : c = ';') : Known c cs (bare .semicolon [c])
  | object (first : c = '{') :
    Known c cs ⟨.literal .object, String.ofList (c :: (braced 1 cs).1), c :: (braced 1 cs).2⟩
  | string (first : c ∈ ['"', '\'']) :
    Known c cs ⟨.literal .string, String.ofList (quoted c cs).1, c :: (quoted c cs).2⟩
  | mark {m : Mark} (first : c = m.letter) (ended : endsMark cs = true) :
    Known c cs (bare (.mark m) [c])
  | number (first : c.isDigit = true) : Known c cs (number c cs)
  | word {k : Keyword} (letters : Keyword.ofLetters? (c :: word cs) = some k) :
    Known c cs ⟨.keyword k, String.ofList (c :: word cs), c :: word cs⟩

lemma reserved_eq (c : Char) (cs : List Char) : reserved c cs =
    ⟨((Keyword.ofLetters? (c :: word cs)).map .keyword).getD .error, String.ofList (c :: word cs),
      c :: word cs⟩ := rfl

/-- What is known of a text is known by its first unit. -/
lemma known_of_scan (hkind : (scan c cs).kind ≠ .error) : Known c cs (scan c cs) := by
  have other (h : (wordOrNumber c cs).kind ≠ .error) : Known c cs (wordOrNumber c cs) := by
    unfold wordOrNumber at h ⊢
    split_ifs at h ⊢ with digit alpha
    · exact .number digit
    · rw [reserved_eq] at h ⊢
      cases hk : Keyword.ofLetters? (c :: word cs) with
      | none =>
        rw [hk] at h
        exact absurd rfl h
      | some k => exact .word hk
    · exact absurd rfl h
  unfold scan at hkind ⊢
  split_ifs at hkind ⊢ with blank comment semicolon object string
  · exact .blanks blank
  · exact .comment comment
  · exact .semicolon semicolon
  · exact .object object
  · exact .string (by simpa using string)
  · next ended =>
    cases hm : Mark.ofLetter? c with
    | none =>
      rw [hm] at hkind
      exact other hkind
    | some m => exact .mark (Mark.ofLetter?_eq_some_iff.mp hm) ended
  · cases hm : Mark.ofLetter? c <;> rw [hm] at hkind <;> exact other hkind

/-- An object is read from a brace on. -/
lemma scan_of_object (hkind : (scan c cs).kind = .literal .object) : c = '{' ∧
    scan c cs = ⟨.literal .object, String.ofList (c :: (braced 1 cs).1), c :: (braced 1 cs).2⟩ := by
  have known : Known c cs (scan c cs) := known_of_scan (by rw [hkind]; exact Kind.noConfusion)
  generalize scan c cs = unit at known hkind
  cases known with
  | object first => exact ⟨first, rfl⟩
  | blanks first =>
    have trivia := blanks_kind (c :: cs)
    rw [show (blanks (c :: cs)).1 = .literal .object from hkind] at trivia
    cases trivia
  | comment | semicolon | string | mark | number | word => cases hkind

lemma endsMark_cons_iff {m : Mark} : endsMark (d :: v) = true ↔ goesOn (.mark m) d = false := by
  simp only [endsMark, goesOn, decide_eq_true_eq, Bool.not_eq_false', Bool.or_eq_true, beq_iff_eq]

lemma endsMark_of_prefix (h : u <+: cs) (hu : u ≠ []) : endsMark u = endsMark cs := by
  obtain ⟨v, rfl⟩ := h
  cases u with
  | nil => exact absurd rfl hu
  | cons d u => rfl

lemma scan_of_code (hcode : 48 ≤ c.toNat ∧ c.toNat ≤ 122) (hne : c ≠ ';') (cs : List Char) :
    scan c cs =
      match Mark.ofLetter? c with
      | some m => if endsMark cs then bare (.mark m) [c] else wordOrNumber c cs
      | none => wordOrNumber c cs := by
  have other (d : Char) (hd : d.toNat < 48 ∨ 122 < d.toNat) : c ≠ d := by
    rintro rfl
    omega
  have blank : isBlank c = false := not_isBlank_of_code (by omega)
  cases hm : Mark.ofLetter? c <;> simp [scan, blank, hne, other, hm]

lemma isBlank_of_isAlpha (h : c.isAlpha = true) : isBlank c = false := by
  have hcode := code_of_isAlpha h
  exact not_isBlank_of_code (by omega)

lemma isDigit_of_isAlpha (h : c.isAlpha = true) : c.isDigit = false := by
  have hcode := code_of_isAlpha h
  exact not_isDigit_of_code (by omega)

/-- Where a reserved word is read, no mark ends with its first letter. -/
lemma endsMark_of_letters {k : Keyword} (h : Keyword.ofLetters? (c :: word cs) = some k) :
    endsMark cs = false := by
  have htwo := Keyword.two_le_of_ofLetters? h
  have alpha : ∀ d ∈ word cs, d.isAlpha = true := fun d hd =>
    Keyword.isAlpha_of_ofLetters? h (List.mem_cons_of_mem c hd)
  have hne : word cs ≠ [] := by
    intro hnil
    simp [hnil] at htwo
  rw [← endsMark_of_prefix ( word_prefix cs) hne]
  cases hword : word cs with
  | nil => exact absurd hword hne
  | cons d ds =>
    have hd := alpha d (by simp [hword])
    have hsemicolon : d ≠ ';' := by
      rintro rfl
      exact absurd hd (by decide)
    simp [endsMark, isBlank_of_isAlpha hd, hsemicolon]

lemma scan_of_known {l : Lexeme} (h : Known c cs l) : scan c cs = l := by
  cases h with
  | blanks first => rw [scan, if_pos first]
  | comment first =>
    subst first
    rfl
  | semicolon first =>
    subst first
    rfl
  | object first =>
    subst first
    simp [scan, isBlank]
  | string first =>
    simp only [List.mem_cons, List.not_mem_nil, or_false] at first
    rcases first with rfl | rfl <;> simp [scan, isBlank]
  | @mark m first ended =>
    subst first
    rw [scan_of_code (by cases m <;> decide) (by cases m <;> decide), Mark.ofLetter?_letter]
    exact if_pos ended
  | number first =>
    have hcode := Text.code_of_ascii first
    have hmark : Mark.ofLetter? c = none := by
      rw [Option.eq_none_iff_forall_ne_some]
      intro m hm
      rw [Mark.ofLetter?_eq_some_iff.mp hm] at first
      cases m <;> exact absurd first (by decide)
    rw [scan_of_code (by omega) (by rintro rfl; exact absurd first (by decide)), hmark]
    exact if_pos first
  | @word k letters =>
    have alpha := Keyword.isAlpha_of_ofLetters? letters List.mem_cons_self
    have hcode := code_of_isAlpha alpha
    have hword : wordOrNumber c cs =
        ⟨.keyword k, String.ofList (c :: word cs), c :: word cs⟩ := by
      simp [wordOrNumber, isDigit_of_isAlpha alpha, alpha, reserved_eq, letters]
    rw [scan_of_code (by omega) (by rintro rfl; exact absurd alpha (by decide)), hword]
    cases Mark.ofLetter? c with
    | none => rfl
    | some m => simp [endsMark_of_letters letters]

/-- A known unit is read again in front of any text with whose first character it cannot go on. A
literal that only the end of the text has closed is read again at the end of a text. -/
theorem scan_again (hx : (scan c cs).spelling = c :: x) (hknown : (scan c cs).kind ≠ .error)
    (hrest : ∀ d ∈ rest.head?, goesOn (scan c cs).kind d = false) (hclosed : rest = [] ∨ x ≠ cs) :
    scan c (x ++ rest) = scan c cs := by
  have known := known_of_scan hknown
  generalize scan c cs = l at hx hrest known
  apply scan_of_known
  cases known with
  | blanks first =>
    have hspelled : (blanks (c :: cs)).2 = c :: x := hx
    have again := blanks_again (c :: cs) hrest
    rw [hspelled, List.cons_append] at again
    rw [← again]
    exact .blanks first
  | comment first =>
    obtain rfl := (List.cons.inj hx).2
    have stop : ∀ d ∈ rest.head?, (!isLineEnd d) = false := hrest
    have again := @Known.comment c (cs.takeWhile (!isLineEnd ·) ++ rest) first
    rwa [(takeWhile_again stop cs).1] at again
  | semicolon first => exact .semicolon first
  | object first =>
    obtain rfl := (List.cons.inj hx).2
    have again := @Known.object c ((braced 1 cs).2 ++ rest) first
    rwa [braced_again hclosed] at again
  | string first =>
    obtain rfl := (List.cons.inj hx).2
    have again := @Known.string c ((quoted c cs).2 ++ rest) first
    rwa [quoted_again first hclosed] at again
  | mark first ended =>
    obtain rfl := (List.cons.inj hx).2
    refine .mark first ?_
    cases rest with
    | nil => rfl
    | cons d rest =>
      exact endsMark_cons_iff.mpr (hrest d rfl)
  | number first =>
    obtain rfl := (List.cons.inj hx).2
    have again := @Known.number c (digits cs ++ rest) first
    unfold number at again ⊢
    rwa [digits_again hrest] at again
  | word letters =>
    obtain rfl := (List.cons.inj hx).2
    have same := word_again hrest cs
    have again := @Known.word c (word cs ++ rest) _ (same.symm ▸ letters)
    rwa [same] at again

lemma blanks_end (h : (blanks cs).2 ++ d :: v = cs) : goesOn (blanks cs).1 d = false := by
  induction cs with
  | nil => simp at h
  | cons c cs ih =>
    by_cases blank : isBlank c = true
    · by_cases line : isLineEnd c = true
      · simp [blanks, blank, line, goesOn]
      · simp only [blanks, blank, line, if_true, if_false, Bool.false_eq_true, List.cons_append,
          List.cons.injEq, true_and] at h ⊢
        exact ih h
    · simp only [blanks, blank, if_false, Bool.false_eq_true, List.nil_append,
        List.cons.injEq] at h ⊢
      obtain ⟨rfl, -⟩ := h
      exact eq_false_of_ne_true blank

lemma digits_end (h : digits cs ++ d :: v = cs) : d.isDigit = false := by
  rcases digits_cases cs with hcase | ⟨e, ds, fraction, hdrop, hcase⟩
  · rw [hcase] at h
    exact not_of_takeWhile_append h
  · have hfraction : (e :: ds).takeWhile Char.isDigit ++ d :: v = e :: ds := by
      rw [hcase, List.append_assoc, List.cons_append] at h
      have hpoint := dropWhile_of_append h
      rw [hdrop] at hpoint
      exact (List.cons.inj hpoint).2.symm
    exact not_of_takeWhile_append hfraction

lemma word_end {k : Keyword} (letters : Keyword.ofLetters? (c :: word cs) = some k)
    (h : word cs ++ d :: v = cs) : (isWordLetter d || d == '!' || d == '?') = false := by
  rcases word_cases cs with hcase | ⟨e, ds, he, -, hcase⟩
  · have hrun : cs.takeWhile isWordLetter ++ d :: v = cs := hcase ▸ h
    have hdrop : cs.dropWhile isWordLetter = d :: v := dropWhile_of_append hrun
    unfold word at hcase
    rw [hdrop] at hcase
    have hnil := List.append_right_eq_self.mp hcase
    have hne : d ≠ '!' ∧ d ≠ '?' := by
      constructor <;> rintro rfl <;> cases hnil
    simp [not_of_takeWhile_append hrun, hne]
  · -- A reserved word has letters only.
    have alpha := Keyword.isAlpha_of_ofLetters? letters
      (c := e) (List.mem_cons_of_mem _ (by simp [hcase]))
    rcases he with rfl | rfl <;> exact absurd alpha (by decide)

/-- Where a text goes on behind a known unit, the unit could not go on, unless with a point, with
which no known unit begins. -/
theorem goesOn_of_end (h : (scan c cs).spelling ++ d :: v = c :: cs)
    (hknown : (scan c cs).kind ≠ .error) (hpoint : d ≠ '.') :
    goesOn (scan c cs).kind d = false := by
  have known := known_of_scan hknown
  generalize scan c cs = l at h known
  cases known with
  | blanks first => exact blanks_end h
  | comment first => exact not_of_takeWhile_append (List.cons.inj h).2
  | semicolon first => rfl
  | object first => rfl
  | string first => rfl
  | mark first ended =>
    obtain rfl := (List.cons.inj h).2
    exact endsMark_cons_iff.mp ended
  | number first =>
    have hdigit := digits_end (List.cons.inj h).2
    simp [number, goesOn, hdigit, hpoint]
  | word letters => exact word_end letters (List.cons.inj h).2

end Lexeme

end ChatQuery
