import ChatQuery.Proofs.Statement.Gist
import ChatQuery.Proofs.Token.Split
import ChatQuery.Script
import Mathlib.Data.Option.NAry

/-!
Source texts that are joined by a semicolon. The statements before it and those behind it compile
apart from each other, so a joined text compiles to the calls of its two parts, one after another.
-/
namespace ChatQuery

variable {t e : Token} {ts us : List Token}

namespace Statement

lemma splitAtSemicolons_append (h : t.kind = .semicolon) (ts us : List Token) :
    splitAtSemicolons (ts ++ t :: us) = splitAtSemicolons ts ++ splitAtSemicolons us := by
  have ne_nil (us : List Token) : splitAtSemicolons us ≠ [] := by
    cases us with
    | nil => exact List.cons_ne_nil _ _
    | cons u us =>
      unfold splitAtSemicolons
      split <;> split_ifs <;> exact List.cons_ne_nil _ _
  induction ts with
  | nil =>
    obtain ⟨g, gs, hg⟩ := List.exists_cons_of_ne_nil (ne_nil us)
    have hc : splitAtSemicolons (t :: us) = [] :: g :: gs := by
      rw [splitAtSemicolons, hg]
      exact if_pos h
    rw [List.nil_append, hc, hg]
    rfl
  | cons a ts ih =>
    obtain ⟨g, gs, hg⟩ := List.exists_cons_of_ne_nil (ne_nil ts)
    rw [List.cons_append, splitAtSemicolons, splitAtSemicolons, ih, hg]
    split_ifs <;> rfl

lemma body_append (h : ∀ t ∈ ts, t.kind ≠ .endOfText) (us : List Token) :
    body (ts ++ us) = ts ++ body us := by
  exact List.takeWhile_append_of_pos fun t ht => decide_eq_true (h t ht)

lemma body_ended (h : ∀ t ∈ ts, t.kind ≠ .endOfText) (he : e.kind = .endOfText) :
    body (ts ++ [e]) = ts := by
  rw [body_append h, body, List.takeWhile_cons_of_neg (by simp [he]), List.append_nil]

lemma groups?_append (h : ∀ t ∈ ts, t.kind ≠ .endOfText) (ht : t.kind = .semicolon)
    (he : e.kind = .endOfText) (us : List Token) :
    (groups? (ts ++ t :: us)).toOption =
      Option.map₂ (· ++ ·) (groups? (ts ++ [e])).toOption (groups? us).toOption := by
  have joined : body (ts ++ t :: us) = ts ++ t :: body us := by
    rw [body_append h, body, List.takeWhile_cons_of_pos (by simp [ht])]
    rfl
  unfold groups?
  rw [joined, body_ended h he, List.find?_append, List.find?_cons_of_neg (by simp [ht]),
    List.filter_append, List.filter_cons_of_pos (by simp [ht, Kind.isTrivia]),
    splitAtSemicolons_append ht, List.filter_append]
  cases ts.find? (·.kind = .error) with
  | some a => rfl
  | none => cases (body us).find? (·.kind = .error) <;> rfl

end Statement

section Optional

variable {α β : Type}

lemma mapM_append_map₂ (f : α → Option β) (xs ys : List α) :
    (xs ++ ys).mapM f = Option.map₂ (· ++ ·) (xs.mapM f) (ys.mapM f) := by
  rw [List.mapM_append]
  cases xs.mapM f with
  | none => rfl
  | some bs => cases ys.mapM f <;> rfl

/-- What takes appended lists apart also does so where the lists may be missing. -/
lemma map₂_append_bind {f : List α → Option β} {join : β → β → β}
    (h : ∀ xs ys, f (xs ++ ys) = Option.map₂ join (f xs) (f ys)) (x y : Option (List α)) :
    (Option.map₂ (· ++ ·) x y).bind f = Option.map₂ join (x.bind f) (y.bind f) := by
  cases x with
  | none => rfl
  | some xs =>
    cases y with
    | none => exact (Option.map₂_none_right _ _).symm
    | some ys => exact h xs ys

end Optional

namespace Script

/-- Two scripts, one after the other. -/
def join (p q : Script) : Script := ⟨p.calls ++ q.calls, p.toggles + q.toggles⟩

variable (listener : Listener)

lemma ofDirectives?_append (ds es : List Directive) :
    (ofDirectives? listener (ds ++ es)).toOption =
      Option.map₂ join (ofDirectives? listener ds).toOption
        (ofDirectives? listener es).toOption := by
  unfold ofDirectives?
  simp only [toOption_bind, toOption_mapM, List.filter_append, List.countP_append, mapM_append_map₂]
  cases (ds.filter (!isToggle ·)).mapM fun d => (d.calls? listener).toOption with
  | none => rfl
  | some calls =>
    cases (es.filter (!isToggle ·)).mapM fun d => (d.calls? listener).toOption with
    | none => rfl
    | some calls' => simp [join]

lemma gist_ofDirectives? (ds : List Directive) :
    (ofDirectives? listener (ds.map Directive.gist)).toOption =
      (ofDirectives? listener ds).toOption := by
  have compiled : (ds.map Directive.gist).filter (!isToggle ·) =
      (ds.filter (!isToggle ·)).map Directive.gist := List.filter_map ..
  have toggles : (ds.map Directive.gist).countP isToggle = ds.countP isToggle := List.countP_map ..
  unfold ofDirectives?
  rw [compiled, toggles, toOption_bind, toOption_bind, toOption_mapM, toOption_mapM, List.mapM_map]
  congr 2
  exact funext fun d => d.gist_calls? listener

/-- What a list of tokens compiles to, if it does. -/
def ofTokens? (ts : List Token) : Option Script :=
  (Statement.ofTokens? ts).toOption.bind fun sts =>
    (ofDirectives? listener (sts.map Statement.directive)).toOption

lemma toOption_compile? (source : String) :
    (compile? listener source).toOption = ofTokens? listener (tokenize source) := by
  unfold compile? directives? ofTokens?
  rw [toOption_bind, toOption_map, Option.bind_map]
  rfl

/-- Tokens of one gist compile to the same script. -/
theorem gist_ofTokens? (ts : List Token) :
    ofTokens? listener (ts.map Token.gist) = ofTokens? listener ts := by
  have flat : (Directive.gist ∘ Statement.directive) ∘ Statement.gist =
      Directive.gist ∘ Statement.directive := funext Statement.gist_directive
  unfold ofTokens?
  rw [Statement.gist_ofTokens?, Option.bind_map]
  congr 1
  funext sts
  change (ofDirectives? listener ((sts.map Statement.gist).map Statement.directive)).toOption = _
  rw [← gist_ofDirectives?, List.map_map, List.map_map, flat, ← List.map_map,
    gist_ofDirectives?]

/-- The tokens before a semicolon and those behind it compile apart from each other. -/
theorem ofTokens?_append (h : ∀ t ∈ ts, t.kind ≠ .endOfText) (ht : t.kind = .semicolon)
    (he : e.kind = .endOfText) (us : List Token) :
    ofTokens? listener (ts ++ t :: us) =
      Option.map₂ join (ofTokens? listener (ts ++ [e])) (ofTokens? listener us) := by
  have flat (ss ss' : List Statement) :
      (ofDirectives? listener ((ss ++ ss').map Statement.directive)).toOption =
        Option.map₂ join (ofDirectives? listener (ss.map Statement.directive)).toOption
          (ofDirectives? listener (ss'.map Statement.directive)).toOption := by
    rw [List.map_append, ofDirectives?_append]
  unfold ofTokens? Statement.ofTokens?
  simp only [toOption_bind, toOption_mapM]
  rw [Statement.groups?_append h ht he, map₂_append_bind (mapM_append_map₂ _),
    map₂_append_bind flat]

end Script

namespace Cursor

/-- Where a text begins does not matter to the gist of its tokens. -/
lemma gist_tokens (i j : Nat) (cs : List Char) :
    (tokens ⟨i, cs⟩).map Token.gist = (tokens ⟨j, cs⟩).map Token.gist := by
  induction hn : cs.length using Nat.strongRecOn generalizing i j cs with
  | ind n ih =>
    cases cs with
    | nil =>
      rw [tokens_nil, tokens_nil]
      rfl
    | cons c cs =>
      obtain ⟨x, rest, rfl, hx, hi⟩ := tokens_step i c cs
      rw [hi, tokens_cons j hx rfl, List.map_cons, List.map_cons,
        ih rest.length (by simp at hn; omega) _ (j + byteLength (c :: x)) rest rfl]
      rfl

end Cursor

namespace Script

lemma tokenize_eq (source : String) : tokenize source = Cursor.tokens ⟨0, source.toList⟩ := rfl

/-- A text that is cut at a semicolon compiles to what its two parts compile to. -/
theorem toOption_compile?_join (listener : Listener) {s₁ : String} (s₂ : String)
    (h : ∃ t ∈ tokenize (s₁ ++ ";"), t.kind = .semicolon ∧ t.index = s₁.utf8ByteSize) :
    (compile? listener (s₁ ++ ";" ++ s₂)).toOption =
      Option.map₂ join (compile? listener s₁).toOption (compile? listener s₂).toOption := by
  obtain ⟨ts, hne, hend, hsplit⟩ := Cursor.tokens_split 0 s₁.toList (by
    rw [byteLength_toList, Nat.zero_add]
    rw [tokenize_eq, String.toList_append] at h
    exact h)
  have hjoined : (s₁ ++ ";" ++ s₂).toList = s₁.toList ++ ';' :: s₂.toList := by
    rw [String.toList_append, String.toList_append, List.append_assoc]
    rfl
  have cut := ofTokens?_append listener (t := ⟨0 + byteLength s₁.toList, .semicolon, none⟩)
    (e := ⟨0 + byteLength s₁.toList, .endOfText, none⟩) hne rfl rfl
  simp only [toOption_compile?, tokenize_eq]
  rw [hjoined, hsplit, hend, cut]
  rw [← gist_ofTokens? listener (Cursor.tokens ⟨_, s₂.toList⟩), Cursor.gist_tokens _ 0,
    gist_ofTokens?]

end Script

end ChatQuery
