import ChatQuery.Proofs.Token.Exact
import ChatQuery.Proofs.Token.Tiling

/-!
Objects are balanced, whatever the source. What an object says is its slice of the source with the
escapes resolved; only where the source ends within it are the missing braces put behind it.
-/
namespace ChatQuery

variable {i : Nat} {c : Char} {cs rest before spelling text p : List Char} {t : Token}
  {ts front after : List Token} {source : String}

/-- What a text means, with its escapes resolved. -/
def Escape.resolved : List Char → List Char
  | [] => []
  | c :: cs => (resolve c cs).1 :: resolved (cs.drop (resolve c cs).2)
termination_by cs => cs.length
decreasing_by simp only [List.length_drop, List.length_cons]; omega

/-- What follows a spelling does not change what it means. -/
lemma Spells.resolved_eq (h : Spells rest spelling text) : Escape.resolved spelling = text := by
  induction h with
  | nil => rw [Escape.resolved]
  | @cons c more d spelling text unit following ih =>
    have alone : Escape.resolve c (more ++ spelling) = (d, more.length) := by
      rw [← unit, ← List.append_assoc]
      apply Escape.resolve_of_prefix (List.prefix_append _ _)
      rw [List.append_assoc, unit, List.length_append]
      exact Nat.le_add_right _ _
    rw [Escape.resolved, alone, List.drop_left, ih]

/-- Within a text that its braces enclose one of them is open everywhere. -/
lemma Enclosed.above (h : Enclosed cs) (hp : p <+: cs) (hne : p ≠ []) (hproper : p ≠ cs) :
    p.count '}' < p.count '{' := by
  obtain ⟨tail, rfl⟩ := List.head?_eq_some_iff.mp h.opened
  cases p with
  | nil => exact absurd rfl hne
  | cons d p =>
    obtain ⟨rfl, htail⟩ := List.cons_prefix_cons.mp hp
    have hopen := (enclosed_cons_iff.mp h).above Nat.one_pos htail fun heq =>
      hproper (congrArg _ heq)
    have hdepth : braceDepth ('{' :: p) = (1 : Nat) + braceDepth p := braceDepth_cons '{' p
    rw [← hdepth, braceDepth] at hopen
    omega

namespace Lexeme

/-- What an object says is enclosed by its braces. It is what its spelling means, or, where the text
ends within the object, that with the braces that are missing. -/
lemma enclosed_of_object (hkind : (scan c cs).kind = .literal .object) :
    Enclosed (scan c cs).text.toList ∧
      ∃ missing,
        (scan c cs).text.toList =
          Escape.resolved (scan c cs).spelling ++ List.replicate missing '}' ∧
        (missing = 0 ∨ (scan c cs).spelling = c :: cs) := by
  obtain ⟨rfl, hscan⟩ := scan_of_object hkind
  obtain ⟨said, missing, rest, happend, hsaid, hspells, hcloses, hend⟩ :=
    braced_spells Nat.one_pos cs
  have hresolved : Escape.resolved ('{' :: (braced 1 cs).2) = '{' :: said := by
    rw [Escape.resolved, Escape.resolve_of_ne (by decide), List.drop_zero, hspells.resolved_eq]
  rw [hscan]
  simp only [String.toList_ofList]
  refine ⟨enclosed_cons_iff.mpr hcloses, missing, ?_, hend.imp_right ?_⟩
  · rw [hresolved, hsaid, List.cons_append]
  · rintro rfl
    rw [List.append_nil] at happend
    exact congrArg _ happend.symm

end Lexeme

/-- A token, the unit that it is read from, and the token behind it. -/
lemma Cursor.Reads.exists_next (h : Reads i cs ts) (hsource : source.toList = before ++ cs)
    (hi : i = byteLength before) (hts : ts = front ++ t :: after) (hkind : t.kind ≠ .endOfText) :
    ∃ c cs next, t = (Lexeme.scan c cs).toToken t.index ∧ after.head? = some next ∧
      String.Pos.Raw.extract source ⟨t.index⟩ ⟨next.index⟩ =
        String.ofList (Lexeme.scan c cs).spelling ∧
      ((Lexeme.scan c cs).spelling = c :: cs → next.kind = .endOfText) := by
  induction h generalizing before front with
  | done i =>
    cases front with
    | nil =>
      obtain ⟨rfl, -⟩ := List.cons.inj hts
      exact absurd rfl hkind
    | cons u front => simp at hts
  | @unit i c x rest ts spelling more ih =>
    cases front with
    | nil =>
      obtain ⟨rfl, rfl⟩ := List.cons.inj hts
      obtain ⟨next, us, hnext, hindex⟩ := more.exists_head
      refine ⟨c, x ++ rest, next, rfl, by rw [hnext]; rfl, ?_, ?_⟩
      · rw [spelling, hindex]
        exact extract_unit hsource hi
      · intro hwhole
        have hrest : rest = [] := by
          rw [spelling] at hwhole
          exact List.self_eq_append_right.mp (List.cons.inj hwhole).2
        subst hrest
        cases more
        obtain ⟨rfl, -⟩ := List.cons.inj hnext
        rfl
    | cons u front =>
      obtain ⟨-, hmore⟩ := List.cons.inj hts
      refine @ih (before ++ c :: x) front ?_ ?_ hmore
      · rw [hsource, List.append_assoc]
        rfl
      · rw [hi, byteLength_append]

/-- Every object of a source begins with a brace, has more opening than closing braces before its
end, and as many of both in all. It says what its slice of the source means; or else its slice,
which then goes up to the end of the source, lacks closing braces, and these are put behind it. -/
theorem objects_balanced (htokens : tokenize source = front ++ t :: after)
    (object : t.kind = .literal .object) :
    ∃ text next, t.text = some text ∧ after.head? = some next ∧
      text.toList.head? = some '{' ∧
      (∀ p, p <+: text.toList → p ≠ [] → p ≠ text.toList → p.count '}' < p.count '{') ∧
      text.toList.count '}' = text.toList.count '{' ∧
      let said := Escape.resolved
        (String.Pos.Raw.extract source ⟨t.index⟩ ⟨next.index⟩).toList
      (text.toList = said ∨
        said.count '}' < said.count '{' ∧ next.kind = .endOfText ∧
          text.toList = said ++ List.replicate (said.count '{' - said.count '}') '}') := by
  have reads : Cursor.Reads 0 source.toList (tokenize source) := Cursor.reads_tokens 0 _
  obtain ⟨c, cs, next, htoken, hnext, hslice, hend⟩ :=
    reads.exists_next (List.nil_append _).symm rfl htokens (by rw [object]; exact Kind.noConfusion)
  have hkind : (Lexeme.scan c cs).kind = .literal .object := by
    rw [htoken] at object
    exact object
  obtain ⟨henclosed, missing, hsaid, hclosed⟩ := Lexeme.enclosed_of_object hkind
  have hcount : (Lexeme.scan c cs).text.toList.count '}' =
      (Lexeme.scan c cs).text.toList.count '{' := by
    have hzero := henclosed.closed
    unfold braceDepth at hzero
    omega
  refine ⟨(Lexeme.scan c cs).text, next, ?_, hnext, henclosed.opened,
    fun p hp hne hproper => henclosed.above hp hne hproper, hcount, ?_⟩
  · rw [htoken, Lexeme.toToken, hkind]
    rfl
  · intro said
    have hslice : said = Escape.resolved (Lexeme.scan c cs).spelling := by
      unfold said
      rw [hslice, String.toList_ofList]
    rw [← hslice] at hsaid
    rcases hclosed with rfl | hwhole
    · left
      rw [hsaid, List.replicate_zero, List.append_nil]
    · cases missing with
      | zero =>
        left
        rw [hsaid, List.replicate_zero, List.append_nil]
      | succ missing =>
        right
        have hbraces : said.count '}' + (missing + 1) = said.count '{' := by
          rw [hsaid, List.count_append, List.count_append, List.count_replicate_self,
            List.count_replicate] at hcount
          simpa using hcount
        refine ⟨by omega, hend hwhole, ?_⟩
        rw [hsaid]
        congr 2
        omega

/-- Braces that escapes spell count like others, and an escape that the end of the source cuts off
is none. -/
theorem objects_balanced_unclosed :
    let source := "READ \x7b\\x7b\"a\\175\\x7"
    let text := "\x7b\x7b\"a\x7d\\x7\x7d"
    let said := Escape.resolved (String.Pos.Raw.extract source ⟨5⟩ ⟨19⟩).toList
    tokenize source = [⟨0, .keyword .read, some "READ"⟩, ⟨4, .whitespace, none⟩] ++
        ⟨5, .literal .object, some text⟩ :: [⟨19, .endOfText, none⟩] ∧
      (∀ p, p <+: text.toList → p ≠ [] → p ≠ text.toList → p.count '}' < p.count '{') ∧
      text.toList = said ++ ['}'] := by
  intro source text said
  have htokens : tokenize source = [⟨0, .keyword .read, some "READ"⟩, ⟨4, .whitespace, none⟩] ++
      ⟨5, .literal .object, some text⟩ :: [⟨19, .endOfText, none⟩] := by decide +kernel
  obtain ⟨said', next, htext, hnext, -, hinside, -, hsaid⟩ := objects_balanced htokens rfl
  obtain rfl := Option.some.inj htext
  obtain rfl := Option.some.inj hnext
  refine ⟨htokens, hinside, ?_⟩
  have hmissing : said.count '{' - said.count '}' = 1 := by decide +kernel
  rcases hsaid with hsame | ⟨-, -, hclosed⟩
  · have hopen : text.toList ≠ said := by decide +kernel
    exact absurd hsame hopen
  · rw [hclosed]
    exact congrArg (fun missing => said ++ List.replicate missing '}') hmissing

end ChatQuery
