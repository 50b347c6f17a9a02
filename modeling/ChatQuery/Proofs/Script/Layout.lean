import ChatQuery.Proofs.Script.Seen
import ChatQuery.Proofs.Statement.Groups
import ChatQuery.Proofs.Token.Tiling

/-!
Layout and the case of reserved words. A text is changed at the place of one of its tokens: blanks
and comments are put in there, or the reserved word there is spelled with other letters. Statements
see nothing of it, so the text compiles to what it has compiled to before.
-/
namespace ChatQuery

variable {c d e : Char} {cs x rest rest' before after gap text letters : List Char} {i : Nat}
  {t : Token} {ts : List Token} {k : Kind}

/-- Blanks and comments, each comment with the line end that closes it. -/
inductive Layout : List Char → Prop
  | nil : Layout []
  | blank {c : Char} {gap : List Char} (blank : Lexeme.isBlank c = true) (more : Layout gap) :
    Layout (c :: gap)
  | comment {text gap : List Char} {c : Char} (inside : ∀ d ∈ text, Lexeme.isLineEnd d = false)
    (closed : Lexeme.isLineEnd c = true) (more : Layout gap) : Layout ('#' :: (text ++ c :: gap))

/-- The text with what stands between two byte offsets written anew. -/
def splice (source : String) (start stop : Nat) (text : String) : String :=
  String.Pos.Raw.extract source ⟨0⟩ ⟨start⟩ ++ text ++
    String.Pos.Raw.extract source ⟨stop⟩ ⟨source.utf8ByteSize⟩

lemma toList_splice {source : String} {middle : List Char}
    (h : source.toList = before ++ middle ++ after) (text : String) :
    (splice source (byteLength before) (byteLength before + byteLength middle) text).toList =
      before ++ (text.toList ++ after) := by
  have first := String.extract_of_valid [] before (middle ++ after)
  have last := String.extract_of_valid (before ++ middle) after []
  simp only [utf8Len_eq, byteLength_append, List.append_nil, List.nil_append, byteLength,
    Nat.zero_add, ← List.append_assoc] at first last
  rw [← h, String.ofList_toList] at first last
  unfold splice
  rw [← byteLength_toList, h, byteLength_append, byteLength_append, first, last]
  simp

section Units

/-- A unit leaves its token to be seen, unless it is layout. -/
lemma seen_unit (hx : (Lexeme.scan c (x ++ rest)).spelling = c :: x) :
    seen (c :: (x ++ rest)) =
      (if (Lexeme.scan c (x ++ rest)).kind.isTrivia then []
        else [((Lexeme.scan c (x ++ rest)).toToken 0).gist]) ++ seen rest :=
  seen_of_tokens (Cursor.tokens_cons 0 hx rfl)

/-- Behind a unit that is read again a text may be changed for one that is seen alike. -/
lemma seen_behind (hx : (Lexeme.scan c (x ++ rest)).spelling = c :: x)
    (again : Lexeme.scan c (x ++ rest') = Lexeme.scan c (x ++ rest)) (h : seen rest' = seen rest) :
    seen (c :: (x ++ rest')) = seen (c :: (x ++ rest)) := by
  rw [seen_unit (again ▸ hx), seen_unit hx, again, h]

lemma isBlank_of_isLineEnd (h : Lexeme.isLineEnd c = true) : Lexeme.isBlank c = true := by
  rcases of_decide_eq_true h with rfl | rfl <;> rfl

lemma seen_comment (inside : ∀ d ∈ text, Lexeme.isLineEnd d = false)
    (closed : ∀ d ∈ rest.head?, Lexeme.isLineEnd d = true) :
    seen ('#' :: (text ++ rest)) = seen rest := by
  have run : (text ++ rest).takeWhile (!Lexeme.isLineEnd ·) = text := by
    rw [List.takeWhile_append_of_pos fun d hd => by simp [inside d hd]]
    cases rest with
    | nil => simp
    | cons d rest => simp [closed d rfl]
  have hscan : Lexeme.scan '#' (text ++ rest) = .bare .comment ('#' :: text) := by
    change Lexeme.bare .comment ('#' :: (text ++ rest).takeWhile (!Lexeme.isLineEnd ·)) = _
    rw [run]
  rw [seen_unit (congrArg Lexeme.spelling hscan), hscan]
  rfl

/-- Layout is not seen. -/
lemma seen_layout (layout : Layout gap) (cs : List Char) : seen (gap ++ cs) = seen cs := by
  induction layout with
  | nil => rfl
  | blank blank more ih => rw [List.cons_append, seen_blank blank, ih]
  | @comment text gap c inside closed more ih =>
    have hcomment : seen ('#' :: (text ++ c :: (gap ++ cs))) = seen (c :: (gap ++ cs)) :=
      seen_comment inside (by rintro d ⟨⟩; exact closed)
    rw [List.cons_append, List.append_assoc, List.cons_append, hcomment,
      seen_blank (isBlank_of_isLineEnd closed), ih]

/-- An open comment takes layout into itself, up to the first line end. -/
lemma seen_comment_layout (layout : Layout gap) (inside : ∀ d ∈ text, Lexeme.isLineEnd d = false)
    (closed : ∀ d ∈ rest.head?, Lexeme.isLineEnd d = true) :
    seen ('#' :: (text ++ (gap ++ rest))) = seen rest := by
  induction layout generalizing text with
  | nil => exact seen_comment inside closed
  | @blank c gap blank more ih =>
    by_cases line : Lexeme.isLineEnd c = true
    · rw [seen_comment inside (by rintro d ⟨⟩; exact line), List.cons_append, seen_blank blank,
        seen_layout more]
    · have hlonger := @ih (text ++ [c]) (by
        simp only [List.mem_append, List.mem_singleton]
        rintro d (hd | rfl)
        · exact inside d hd
        · exact eq_false_of_ne_true line)
      rwa [List.append_assoc] at hlonger
  | @comment text' gap c inside' closed' more ih =>
    have hlonger : ∀ d ∈ text ++ '#' :: text', Lexeme.isLineEnd d = false := by
      simp only [List.mem_append, List.mem_cons]
      rintro d (hd | rfl | hd)
      · exact inside d hd
      · rfl
      · exact inside' d hd
    have hcomment := @seen_comment (c :: (gap ++ rest)) _ hlonger (by rintro d ⟨⟩; exact closed')
    rw [seen_blank (isBlank_of_isLineEnd closed'), seen_layout more, List.append_assoc] at hcomment
    rwa [List.cons_append, List.append_assoc]

end Units

section Edges

/-- Only blanks and comments go on with a blank. -/
lemma goesOn_of_isBlank (hd : Lexeme.isBlank d = true) (hunit : k ≠ .error ∧ k ≠ .endOfText)
    (htrivia : k.isTrivia = false) : Lexeme.goesOn k d = false := by
  have hcode := code_of_isBlank hd
  have hdigit : d.isDigit = false := not_isDigit_of_code (by omega)
  have hletter : Lexeme.isWordLetter d = false := not_isWordLetter_of_code (by omega)
  have hne (a : Char) (ha : 32 < a.toNat) : d ≠ a := by
    rintro rfl
    omega
  cases k with
  | literal l => cases l <;> simp [Lexeme.goesOn, hdigit, hne]
  | mark m => simp [Lexeme.goesOn, hd]
  | keyword k => simp [Lexeme.goesOn, hletter, hne]
  | error => exact absurd rfl hunit.1
  | endOfText => exact absurd rfl hunit.2
  | semicolon => rfl
  | _ => cases htrivia

/-- What cannot go on with one letter cannot go on with any other. -/
lemma goesOn_of_isAlpha (hd : d.isAlpha = true) (he : e.isAlpha = true)
    (h : Lexeme.goesOn k d = false) : Lexeme.goesOn k e = false := by
  have hcode := code_of_isAlpha he
  have hne (a : Char) (ha : a.toNat < 65) : e ≠ a := by
    rintro rfl
    omega
  cases k with
  | whitespace => exact Lexeme.isBlank_of_isAlpha he
  | comment =>
    have hline : Lexeme.isLineEnd d = true := by simpa [Lexeme.goesOn] using h
    have hblank := Lexeme.isBlank_of_isAlpha hd
    simp [isBlank_of_isLineEnd hline] at hblank
  | literal l =>
    cases l with
    | number => simp [Lexeme.goesOn, Lexeme.isDigit_of_isAlpha he, hne]
    | _ => rfl
  | mark m =>
    have hsemicolon : d ≠ ';' := by
      rintro rfl
      exact absurd hd (by decide)
    simp [Lexeme.goesOn, Lexeme.isBlank_of_isAlpha hd, hsemicolon] at h
  | keyword k => simp [Lexeme.goesOn, Lexeme.isWordLetter, Char.isAlphanum, hd] at h
  | newline => rfl
  | semicolon => rfl
  | _ => cases h

end Edges

namespace Cursor

/-- No known token begins with a point. -/
lemma Reads.ne_point (h : Reads i (e :: cs) ts) (known : ∀ u ∈ ts, u.kind ≠ .error) : e ≠ '.' := by
  rintro rfl
  generalize hcs : '.' :: cs = ds at h
  cases h with
  | done => cases hcs
  | @unit _ c x rest ts spelling more =>
    obtain ⟨rfl, rfl⟩ := List.cons.inj hcs
    exact known _ List.mem_cons_self rfl

/-- What stands behind the place of a token may be changed for a text that is seen alike, if the
unit right before it is seen alike too. -/
theorem Reads.seen_replace (h : Reads i (before ++ after) ts) (known : ∀ u ∈ ts, u.kind ≠ .error)
    (hafter : after ≠ []) (ht : t ∈ ts) (hindex : t.index = i + byteLength before)
    (hseen : seen rest = seen after)
    (edge : ∀ c x, (Lexeme.scan c (x ++ after)).spelling = c :: x →
      (Lexeme.scan c (x ++ after)).kind ≠ .error →
      seen (c :: (x ++ rest)) = seen (c :: (x ++ after))) :
    seen (before ++ rest) = seen (before ++ after) := by
  generalize hcs : before ++ after = cs at h
  induction h generalizing before with
  | done i => exact absurd (List.append_eq_nil_iff.mp hcs).2 hafter
  | @unit i c x behind ts spelling more ih =>
    cases before with
    | nil =>
      rw [← hcs]
      exact hseen
    | cons b before =>
      obtain ⟨rfl, htext⟩ := List.cons.inj hcs
      obtain ⟨hfirst, hlater⟩ := List.forall_mem_cons.mp known
      have htail : t ∈ ts := by
        have hpos := byteLength_pos b before
        refine (List.mem_cons.mp ht).resolve_left ?_
        rintro rfl
        change i = _ at hindex
        omega
      have hle := more.le_index htail
      -- The unit lies before the place, since the place is that of a later token.
      obtain ⟨y, rfl, rfl⟩ : ∃ y, before = x ++ y ∧ behind = y ++ after := by
        rcases List.append_eq_append_iff.mp htext with ⟨y, hx, hy⟩ | hy
        · rw [hx, ← List.cons_append, byteLength_append] at hle
          cases y with
          | nil => exact ⟨[], by simpa using hx.symm, hy.symm⟩
          | cons e y =>
            have hpos := byteLength_pos e y
            omega
        · exact hy
      rw [← List.cons_append, byteLength_append, ← Nat.add_assoc] at hindex
      have hbehind := ih hlater htail hindex rfl
      rw [List.cons_append, List.append_assoc]
      cases y with
      | nil => exact edge b x spelling hfirst
      | cons e y =>
        have hends : Lexeme.goesOn (Lexeme.scan b (x ++ (e :: y ++ after))).kind e = false := by
          apply Lexeme.goesOn_of_end (v := y ++ after) ?_ hfirst (more.ne_point hlater)
          rw [spelling]
          rfl
        refine seen_behind spelling ?_ hbehind
        exact Lexeme.scan_again spelling hfirst (by rintro d ⟨⟩; exact hends) (.inr (by simp))

end Cursor

section Changes

lemma Lexeme.isBlank_of_mem_blanks (cs : List Char) : ∀ c ∈ (blanks cs).2, isBlank c = true := by
  induction cs with
  | nil => exact List.forall_mem_nil _
  | cons c cs ih =>
    unfold blanks
    split_ifs with blank line
    · simpa using blank
    · exact List.forall_mem_cons.mpr ⟨blank, ih⟩
    · exact List.forall_mem_nil _

/-- A text that begins with a blank, and is layout otherwise, is not seen behind any unit. -/
lemma edge_layout (hc : Lexeme.isBlank c = true) (layout : Layout (c :: gap)) (hafter : after ≠ [])
    (hx : (Lexeme.scan d (x ++ after)).spelling = d :: x)
    (hknown : (Lexeme.scan d (x ++ after)).kind ≠ .error) :
    seen (d :: (x ++ (c :: gap ++ after))) = seen (d :: (x ++ after)) := by
  have hgap : seen (c :: gap ++ after) = seen after := seen_layout layout after
  have other (htrivia : (Lexeme.scan d (x ++ after)).kind.isTrivia = false) :
      seen (d :: (x ++ (c :: gap ++ after))) = seen (d :: (x ++ after)) := by
    refine seen_behind hx (Lexeme.scan_again hx hknown ?_ (.inr (by simpa using hafter))) hgap
    rintro e ⟨⟩
    exact goesOn_of_isBlank hc ⟨hknown, Lexeme.scan_kind d _⟩ htrivia
  have known := Lexeme.known_of_scan hknown
  generalize hl : Lexeme.scan d (x ++ after) = l at hx hknown known other
  cases known with
  | blanks first =>
    have hspelled : (Lexeme.blanks (d :: (x ++ after))).2 = d :: x := hx
    have run : ∀ e ∈ d :: x, Lexeme.isBlank e = true := hspelled ▸ Lexeme.isBlank_of_mem_blanks _
    rw [← List.cons_append, ← List.cons_append, seen_blanks run, seen_blanks run, hgap]
  | comment first =>
    subst first
    have run : (x ++ after).takeWhile (!Lexeme.isLineEnd ·) = x := (List.cons.inj hx).2
    have inside : ∀ e ∈ x, Lexeme.isLineEnd e = false := by
      rw [← run]
      intro e he
      simpa using List.mem_takeWhile_imp he
    have closed : ∀ e ∈ after.head?, Lexeme.isLineEnd e = true := by
      intro e he
      obtain ⟨v, rfl⟩ := List.head?_eq_some_iff.mp he
      simpa using not_of_takeWhile_append (congrArg (· ++ e :: v) run)
    rw [seen_comment_layout layout inside closed, seen_comment inside closed]
  | _ => exact other rfl

/-- The first letter of a text may be changed for another behind any unit. -/
lemma edge_letter (hc : c.isAlpha = true) (he : e.isAlpha = true)
    (hseen : seen (e :: rest) = seen (c :: cs))
    (hx : (Lexeme.scan d (x ++ c :: cs)).spelling = d :: x)
    (hknown : (Lexeme.scan d (x ++ c :: cs)).kind ≠ .error) :
    seen (d :: (x ++ e :: rest)) = seen (d :: (x ++ c :: cs)) := by
  have hpoint : c ≠ '.' := by
    rintro rfl
    exact absurd hc (by decide)
  have hends := Lexeme.goesOn_of_end (by rw [hx]; rfl) hknown hpoint
  refine seen_behind hx (Lexeme.scan_again hx hknown ?_ (.inr (by simp))) hseen
  rintro _ ⟨⟩
  exact goesOn_of_isAlpha hc he hends

end Changes

lemma Lexeme.scan_of_keyword {w : Keyword} (h : (scan c cs).kind = .keyword w) :
    Keyword.ofLetters? (c :: word cs) = some w ∧
      scan c cs = ⟨.keyword w, String.ofList (c :: word cs), c :: word cs⟩ := by
  have known := @known_of_scan c cs (by rw [h]; exact Kind.noConfusion)
  generalize scan c cs = l at h known
  cases known with
  | word letters =>
    cases h
    exact ⟨letters, rfl⟩
  | blanks first =>
    have trivia := blanks_kind (c :: cs)
    change (blanks (c :: cs)).1 = .keyword w at h
    rw [h] at trivia
    cases trivia
  | _ => cases h

lemma Kind.exists_of_isKeyword (h : k.isKeyword = true) : ∃ w, k = .keyword w := by
  cases k with
  | keyword w => exact ⟨w, rfl⟩
  | _ => cases h

/-- The text of a keyword token stands at its place. -/
lemma Cursor.exists_word (hkind : (token ⟨i, after⟩).kind.isKeyword = true) :
    ∃ c x rest w, after = c :: x ++ rest ∧ Keyword.ofLetters? (c :: x) = some w ∧
      endsWord rest = true ∧ (token ⟨i, after⟩).text = some (String.ofList (c :: x)) := by
  cases after with
  | nil => cases hkind
  | cons c cs =>
    obtain ⟨w, hw⟩ := Kind.exists_of_isKeyword hkind
    obtain ⟨letters, hscan⟩ := Lexeme.scan_of_keyword hw
    obtain ⟨rest, hrest⟩ := Lexeme.word_prefix cs
    refine ⟨c, Lexeme.word cs, rest, w, by rw [List.cons_append, hrest], letters, ?_, ?_⟩
    · cases rest with
      | nil => rfl
      | cons d v => exact congrArg not (Lexeme.word_end letters hrest)
    · change ((Lexeme.scan c cs).toToken i).text = _
      rw [hscan]
      rfl

lemma toList_toLower (s : String) : s.toLower.toList = s.toList.map Char.toLower :=
  String.toList_map

lemma Keyword.ofLetters?_recased {letters' : List Char}
    (h : letters'.map Char.toLower = letters.map Char.toLower) :
    ofLetters? letters' = ofLetters? letters := by
  unfold ofLetters?
  rw [h]

section Splices

variable {source : String}

/-- Layout that begins with a blank is not seen at the place of a token. -/
lemma seen_splice_layout (known : ∀ u ∈ tokenize source, u.kind ≠ .error)
    (ht : t ∈ tokenize source) (hend : t.kind ≠ .endOfText) {gap : String}
    (hblank : gap.toList.head?.any Lexeme.isBlank = true) (layout : Layout gap.toList) :
    seen (splice source t.index t.index gap).toList = seen source.toList := by
  have reads : Cursor.Reads 0 source.toList (tokenize source) := Cursor.reads_tokens 0 _
  obtain ⟨before, after, hsource, hindex, htoken⟩ := reads.exists_place ht
  have hafter : after ≠ [] := by
    rintro rfl
    exact hend (congrArg Token.kind htoken)
  obtain ⟨c, hc, hblank⟩ := (Option.any_eq_true _ _).mp hblank
  obtain ⟨gap', hgap⟩ := List.head?_eq_some_iff.mp hc
  have hwhole : source.toList = before ++ [] ++ after := by rwa [List.append_nil]
  have hspliced := toList_splice hwhole gap
  rw [hgap] at layout hspliced
  have hreplaced := Cursor.Reads.seen_replace (hsource ▸ reads) known hafter ht hindex
    (seen_layout layout after) (fun _ _ => edge_layout hblank layout hafter)
  rw [hindex, Nat.zero_add, hsource, ← hreplaced, ← hspliced]
  rfl

/-- The case of a reserved word is not seen. -/
lemma seen_splice_word (known : ∀ u ∈ tokenize source, u.kind ≠ .error)
    (ht : t ∈ tokenize source) (hkeyword : t.kind.isKeyword = true) :
    ∃ word, t.text = some word ∧ ∀ word' : String, word'.toLower = word.toLower →
      seen (splice source t.index (t.index + word.utf8ByteSize) word').toList =
        seen source.toList := by
  have reads : Cursor.Reads 0 source.toList (tokenize source) := Cursor.reads_tokens 0 _
  obtain ⟨before, after, hsource, hindex, htoken⟩ := reads.exists_place ht
  rw [htoken] at hkeyword
  obtain ⟨c, x, rest, w, rfl, letters, hends, htext⟩ := Cursor.exists_word hkeyword
  refine ⟨_, (congrArg Token.text htoken).trans htext, ?_⟩
  intro word' hcase
  have hcase' : word'.toList.map Char.toLower = (c :: x).map Char.toLower := by
    rw [← toList_toLower, hcase, toList_toLower, String.toList_ofList]
  obtain ⟨e, y, hword'⟩ : ∃ e y, word'.toList = e :: y := by
    apply List.exists_cons_of_length_pos
    have hlength := congrArg List.length hcase'
    simp only [List.length_map, List.length_cons] at hlength
    omega
  have letters' : Keyword.ofLetters? (e :: y) = some w := by
    rw [← hword', Keyword.ofLetters?_recased hcase', letters]
  have hseen : seen (e :: (y ++ rest)) = seen (c :: (x ++ rest)) :=
    (seen_word letters' hends).trans (seen_word letters hends).symm
  have alpha := Keyword.isAlpha_of_ofLetters? letters List.mem_cons_self
  have alpha' := Keyword.isAlpha_of_ofLetters? letters' List.mem_cons_self
  have hreplaced := Cursor.Reads.seen_replace (hsource ▸ reads) known (by simp) ht hindex hseen
    (fun _ _ => edge_letter alpha alpha' hseen)
  have hspliced := toList_splice (by rwa [List.append_assoc]) word'
  have hbytes := byteLength_toList (String.ofList (c :: x))
  rw [String.toList_ofList] at hbytes
  rw [hindex, Nat.zero_add, ← hbytes, hspliced, hword', hsource]
  exact hreplaced

end Splices

namespace Script

variable {listener : Listener} {source : String} {p : Script}

/-- A text that compiles has no unknown token. -/
lemma known_of_compile? (h : compile? listener source = .ok p) :
    ∀ t ∈ tokenize source, t.kind ≠ .error := by
  have hsome := (toOption_compile? listener source).symm.trans (toOption_eq_some.mpr h)
  obtain ⟨trees, htrees, -⟩ := Option.bind_eq_some_iff.mp hsome
  have known := Statement.known_of_ofTokens? (toOption_eq_some.mp htrees)
  obtain ⟨front, hfront, hne⟩ := (Cursor.reads_tokens 0 source.toList).ends
  have hall : tokenize source = front ++ [_] := hfront
  rw [hall, Statement.body_ended hne rfl] at known
  rw [hall]
  exact List.forall_mem_append.mpr ⟨known, by simp⟩

/-- A text compiles as before if layout that begins with a blank is put in at the place of one of
its tokens, or if a reserved word of it is written in another case. -/
theorem compile?_splice (h : compile? listener source = .ok p) :
    (∀ t ∈ tokenize source, t.kind ≠ .endOfText → ∀ gap : String,
      gap.toList.head?.any Lexeme.isBlank = true → Layout gap.toList →
        compile? listener (splice source t.index t.index gap) = .ok p) ∧
      ∀ t ∈ tokenize source, t.kind.isKeyword = true → ∃ word, t.text = some word ∧
        ∀ word' : String, word'.toLower = word.toLower →
          compile? listener (splice source t.index (t.index + word.utf8ByteSize) word') =
            .ok p := by
  have known := known_of_compile? h
  have same {source' : String} (hseen : seen source'.toList = seen source.toList) :
      compile? listener source' = .ok p := by
    rw [← toOption_eq_some, toOption_compile?_seen, hseen, ← toOption_compile?_seen,
      toOption_eq_some, h]
  constructor
  · intro t ht hend gap hblank layout
    exact same (seen_splice_layout known ht hend hblank layout)
  · intro t ht hkeyword
    obtain ⟨word, htext, hrecased⟩ := seen_splice_word known ht hkeyword
    exact ⟨word, htext, fun word' hcase => same (hrecased word' hcase)⟩

/-- Layout with a comment is put in right behind a comment, and a word is written anew. -/
theorem compile?_splice_send :
    let source := "send 'a'#b\nin '228666916018118541'c"
    let newline : Token := ⟨10, .newline, none⟩
    let word : Token := ⟨11, .keyword .«in», some "in"⟩
    newline ∈ tokenize source ∧ word ∈ tokenize source ∧
      ∃ p, compile? .discard source = .ok p ∧
        compile? .discard "send 'a'#b #d\n\nin '228666916018118541'c" = .ok p ∧
        compile? .discard "send 'a'#b\nIn '228666916018118541'c" = .ok p := by
  intro source newline word
  have hnewline : newline ∈ tokenize source := by decide +kernel
  have hword : word ∈ tokenize source := by decide +kernel
  obtain ⟨p, hp⟩ : ∃ p, compile? .discard source = .ok p := exists_of_isOk (by decide +kernel)
  obtain ⟨laid, recased⟩ := compile?_splice hp
  have layout : Layout (' ' :: '#' :: (['d'] ++ ['\n'])) :=
    .blank rfl (.comment (List.forall_mem_singleton.mpr rfl) rfl .nil)
  have hlaid := laid newline hnewline (by decide) " #d\n" (by decide) (by simpa using layout)
  obtain ⟨_, ⟨⟩, anew⟩ := recased word hword rfl
  have hcase : "In".toLower = "in".toLower := by
    rw [← String.toList_inj, toList_toLower, toList_toLower]
    simp
  have hrecased := anew "In" hcase
  have gapped : splice source 10 10 " #d\n" = "send 'a'#b #d\n\nin '228666916018118541'c" := by
    decide +kernel
  have written : splice source 11 13 "In" = "send 'a'#b\nIn '228666916018118541'c" := by
    decide +kernel
  exact ⟨hnewline, hword, p, hp, gapped ▸ hlaid, written ▸ hrecased⟩

end Script

end ChatQuery
