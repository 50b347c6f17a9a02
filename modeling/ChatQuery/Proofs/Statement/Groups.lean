import ChatQuery.Proofs.Statement.Tree
import ChatQuery.Proofs.Success

/-!
The groups that a list of tokens falls into, and what becomes of them. A list is refused just at its
first unknown token, or else at the head of the first group that does not begin a statement;
otherwise each group has its tree.
-/
namespace ChatQuery.Statement

variable {ts group : List Token} {s : Statement}

/-- The groups of tokens that semicolons separate, up to the end of the text, without layout and
without empty groups. -/
def groups (ts : List Token) : List (List Token) :=
  (((ts.takeWhile (·.kind ≠ .endOfText)).filter (!·.kind.isTrivia)).splitOnP
    (·.kind = .semicolon)).filter (!·.isEmpty)

lemma splitAtSemicolons_eq (ts : List Token) :
    splitAtSemicolons ts = ts.splitOnP (·.kind = .semicolon) := by
  induction ts with
  | nil => rfl
  | cons t ts ih =>
    obtain ⟨g, gs, hsplit⟩ :=
      List.exists_cons_of_ne_nil (List.splitOnP_ne_nil (·.kind = .semicolon) ts)
    rw [splitAtSemicolons, ih, List.splitOnP_cons_eq_if_modifyHead, hsplit]
    simp only [decide_eq_true_eq]
    rfl

/-- What is split off is a part of the list, in which nothing splits it further. -/
lemma sublist_of_mem_splitOnP {α : Type} {p : α → Bool} {xs ys : List α}
    (hys : ys ∈ xs.splitOnP p) : ys.Sublist xs ∧ ∀ a ∈ ys, p a = false := by
  induction xs generalizing ys with
  | nil =>
    rw [List.splitOnP_nil, List.mem_singleton] at hys
    rw [hys]
    exact ⟨.slnil, List.forall_mem_nil _⟩
  | cons x xs ih =>
    have later {zs : List α} (hzs : zs ∈ xs.splitOnP p) :
        zs.Sublist (x :: xs) ∧ ∀ a ∈ zs, p a = false :=
      ⟨(ih hzs).1.cons x, (ih hzs).2⟩
    obtain ⟨g, gs, hsplit⟩ := List.exists_cons_of_ne_nil (List.splitOnP_ne_nil p xs)
    rw [List.splitOnP_cons_eq_if_modifyHead] at hys
    rw [hsplit] at hys ih later
    split_ifs at hys with hx
    · rcases List.mem_cons.mp hys with rfl | hys
      · exact ⟨List.nil_sublist _, List.forall_mem_nil _⟩
      · exact later hys
    · rcases List.mem_cons.mp hys with rfl | hys
      · obtain ⟨part, separate⟩ := ih List.mem_cons_self
        exact ⟨part.cons_cons x, List.forall_mem_cons.mpr ⟨eq_false_of_ne_true hx, separate⟩⟩
      · exact later (List.mem_cons_of_mem g hys)

/-- Groups are made of tokens before the end of the text, and not of layout or semicolons. -/
lemma mem_body_of_mem_groups (hgroup : group ∈ groups ts) {t : Token} (ht : t ∈ group) :
    t ∈ body ts ∧ t.kind.isTrivia = false ∧ t.kind ≠ .semicolon := by
  obtain ⟨part, separate⟩ := sublist_of_mem_splitOnP (List.mem_filter.mp hgroup).1
  obtain ⟨hbody, htrivia⟩ := List.mem_filter.mp (part.subset ht)
  exact ⟨hbody, by simpa using htrivia, of_decide_eq_false (separate t ht)⟩

lemma kind_of_mem_body {t : Token} (ht : t ∈ body ts) : t.kind ≠ .endOfText :=
  of_decide_eq_true (List.all_eq_true.mp List.all_takeWhile t ht)

/-- In a text without unknown tokens groups consist of literals, marks and reserved words. -/
lemma isContent_of_mem_groups (hknown : ∀ t ∈ body ts, t.kind ≠ .error) (hgroup : group ∈ groups ts)
    {t : Token} (ht : t ∈ group) : t.kind.isContent = true := by
  obtain ⟨hbody, htrivia, hsemicolon⟩ := mem_body_of_mem_groups hgroup ht
  exact Kind.isContent_of_ne (kind_of_mem_body hbody) (hknown t hbody) hsemicolon htrivia

/-- Why a list of tokens is refused. -/
inductive Refused (ts : List Token) : Diagnostic → Prop
  /-- The first unknown token before the end of the text. -/
  | unknown (before after : List Token) (t : Token) (split : body ts = before ++ t :: after)
    (known : ∀ u ∈ before, u.kind ≠ .error) (error : t.kind = .error) :
    Refused ts ⟨t.index, .error⟩
  /-- The head of the first group that no opening word heads. -/
  | unopened (known : ∀ t ∈ body ts, t.kind ≠ .error) (before after : List (List Token))
    (head : Token) (rest : List Token) (split : groups ts = before ++ (head :: rest) :: after)
    (opened : ∀ g ∈ before, ∃ t rest, g = t :: rest ∧ t.kind.isOpener = true)
    (closed : head.kind.isOpener = false) : Refused ts ⟨head.index, .error⟩

lemma groups?_of_unknown {before after : List Token} {t : Token}
    (split : body ts = before ++ t :: after) (known : ∀ u ∈ before, u.kind ≠ .error)
    (error : t.kind = .error) : groups? ts = .error ⟨t.index, .error⟩ := by
  have first : (body ts).find? (·.kind = .error) = some t := by
    rw [List.find?_eq_some_iff_append]
    refine ⟨decide_eq_true error, before, after, split, ?_⟩
    intro u hu
    simpa using known u hu
  unfold groups?
  rw [first]

lemma groups?_of_known (known : ∀ t ∈ body ts, t.kind ≠ .error) :
    groups? ts = .ok (groups ts) := by
  have none : (body ts).find? (·.kind = .error) = none := by
    rw [List.find?_eq_none]
    intro t ht
    simpa using known t ht
  unfold groups?
  rw [none, splitAtSemicolons_eq]
  rfl

/-- Tokens that a semicolon ends are one group. -/
lemma groups?_of_content (hne : group ≠ []) (hcontent : ∀ t ∈ group, t.kind.isContent = true)
    {semicolon stop : Token} (hsemicolon : semicolon.kind = .semicolon)
    (hstop : stop.kind = .endOfText) : groups? (group ++ [semicolon, stop]) = .ok [group] := by
  have other {k : Kind} (hk : k.isContent = false) : ∀ t ∈ group, t.kind ≠ k := by
    rintro t ht rfl
    exact Bool.false_ne_true (hk.symm.trans (hcontent t ht))
  have hbody : body (group ++ [semicolon, stop]) = group ++ [semicolon] := by
    unfold body
    rw [List.takeWhile_append_of_pos (by simpa using other rfl)]
    simp [hsemicolon, hstop]
  have hseen : (group ++ [semicolon]).filter (!·.kind.isTrivia) = group ++ [semicolon] := by
    rw [List.filter_eq_self]
    intro t ht
    rcases List.mem_append.mp ht with ht | ht
    · simp [Kind.not_trivia_of_content (hcontent t ht)]
    · simp [List.mem_singleton.mp ht, hsemicolon, Kind.isTrivia]
  have hsplit : (group ++ [semicolon]).splitOnP (·.kind = .semicolon) = [group, []] :=
    List.splitOnP_append_cons_of_forall_mem (fun t ht => decide_eq_false (other rfl t ht)) _
      (decide_eq_true hsemicolon) []
  rw [groups?_of_known]
  · change Except.ok ((((body (group ++ [semicolon, stop])).filter _).splitOnP _).filter _) = _
    rw [hbody, hseen, hsplit]
    simp [hne]
  · rw [hbody]
    refine List.forall_mem_append.mpr ⟨other rfl, ?_⟩
    simp [hsemicolon]

/-- Either some token is unknown and there is a first one, or all are known. -/
lemma unknown_or_known (ts : List Token) :
    (∃ before after t, body ts = before ++ t :: after ∧ (∀ u ∈ before, u.kind ≠ .error) ∧
      t.kind = .error) ∨ ∀ t ∈ body ts, t.kind ≠ .error := by
  cases h : (body ts).find? (·.kind = .error) with
  | none =>
    right
    intro t ht
    simpa using List.find?_eq_none.mp h t ht
  | some t =>
    left
    obtain ⟨herror, before, after, split, known⟩ := List.find?_eq_some_iff_append.mp h
    refine ⟨before, after, t, split, ?_, of_decide_eq_true herror⟩
    intro u hu
    simpa using known u hu

/-- A list that has trees has no unknown token. -/
lemma known_of_ofTokens? {trees : List Statement} (h : ofTokens? ts = .ok trees) :
    ∀ t ∈ body ts, t.kind ≠ .error := by
  obtain ⟨gs, hgroups, -⟩ := bind_eq_ok h
  rcases unknown_or_known ts with ⟨before, after, t, split, known, error⟩ | known
  · rw [groups?_of_unknown split known error] at hgroups
    cases hgroups
  · exact known

/-- Each tree is that of a group. -/
lemma group_of_ofTokens? {trees : List Statement} (h : ofTokens? ts = .ok trees)
    (hs : s ∈ trees) : ∃ group ∈ groups ts, ofGroup? group = .ok s := by
  have hgroups := groups?_of_known (known_of_ofTokens? h)
  unfold ofTokens? at h
  rw [hgroups] at h
  have htrees : (groups ts).mapM ofGroup? = .ok trees := h
  rw [← filterMap_of_mapM_eq_ok htrees] at hs
  obtain ⟨group, hgroup, hs⟩ := List.mem_filterMap.mp hs
  exact ⟨group, hgroup, toOption_eq_some.mp hs⟩

lemma ofGroup?_eq_error {d : Diagnostic} (h : ofGroup? group = .error d) (hne : group ≠ []) :
    ∃ head rest, group = head :: rest ∧ head.kind.isOpener = false ∧ d = ⟨head.index, .error⟩ := by
  cases group with
  | nil => exact absurd rfl hne
  | cons head rest =>
    simp only [ofGroup?] at h
    split_ifs at h with opener
    cases h
    exact ⟨head, rest, rfl, eq_false_of_ne_true opener, rfl⟩

lemma opened_of_ofGroup? (h : ofGroup? group = .ok s) :
    ∃ t rest, group = t :: rest ∧ t.kind.isOpener = true := by
  cases group with
  | nil => cases h
  | cons t rest =>
    simp only [ofGroup?] at h
    split_ifs at h with opener
    exact ⟨t, rest, rfl, opener⟩

theorem ofTokens?_eq_error_iff {d : Diagnostic} : ofTokens? ts = .error d ↔ Refused ts d := by
  unfold ofTokens?
  rcases unknown_or_known ts with ⟨before, after, t, split, known, error⟩ | known
  · rw [groups?_of_unknown split known error]
    constructor
    · intro h
      cases h
      exact .unknown before after t split known error
    · intro h
      cases h with
      | unknown before' after' u split' known' error' =>
        have same := (groups?_of_unknown split known error).symm.trans
          (groups?_of_unknown split' known' error')
        exact congrArg (· >>= fun gs => gs.mapM ofGroup?) same
      | unopened known' =>
        exact absurd error (known' t (by rw [split]; simp))
  · rw [groups?_of_known known]
    change (groups ts).mapM ofGroup? = .error d ↔ _
    rw [mapM_eq_error_iff]
    constructor
    · rintro ⟨before, group, after, split, opened, refused⟩
      have hmem : group ∈ groups ts := by
        rw [split]
        simp
      have hne : group ≠ [] := by simpa using (List.mem_filter.mp hmem).2
      obtain ⟨head, rest, rfl, closed, rfl⟩ := ofGroup?_eq_error refused hne
      refine .unopened known before after head rest split ?_ closed
      intro g hg
      obtain ⟨s, hs⟩ := opened g hg
      exact opened_of_ofGroup? hs
    · intro h
      cases h with
      | unknown before after t split known' error =>
        exact absurd error (known t (by rw [split]; simp))
      | unopened known' before after head rest split opened closed =>
        refine ⟨before, head :: rest, after, split, ?_, ?_⟩
        · intro g hg
          obtain ⟨t, rest, rfl, opener⟩ := opened g hg
          exact ⟨_, if_pos opener⟩
        · exact if_neg (by rw [closed]; exact Bool.false_ne_true)

/-- Tokens are refused exactly at the first unknown token or at the head of the first group that no
opening word heads. Otherwise there is one tree for each group, in order; read in preorder it gives
back the tokens of its group but for the marks that follow no literal, its reserved words are its
root and children of its root, and nothing stands below anything else. -/
theorem ofTokens?_reads_groups (ts : List Token) :
    (∀ d, ofTokens? ts = .error d ↔ Refused ts d) ∧
      ∀ trees, ofTokens? ts = .ok trees →
        List.Forall₂ (fun group s => s.node.preorder = items false group ∧ s.node.Shaped)
          (groups ts) trees := by
  refine ⟨fun d => ofTokens?_eq_error_iff, ?_⟩
  intro trees h
  obtain ⟨gs, hgroups, htrees⟩ := bind_eq_ok h
  rcases unknown_or_known ts with ⟨before, after, t, split, known, error⟩ | known
  · rw [groups?_of_unknown split known error] at hgroups
    cases hgroups
  · rw [groups?_of_known known] at hgroups
    cases hgroups
    refine forall₂_of_mapM_eq_ok htrees ?_
    intro group hgroup s hs
    exact ofGroup?_eq_ok (fun t ht => isContent_of_mem_groups known hgroup ht) hs

/-- Of the three marks here only the one behind a literal is left, and nothing is read behind the
end of the text. -/
theorem ofTokens?_reads_groups_send :
    let send : Token := ⟨0, .keyword .send, some "SEND"⟩
    let channel : Token := ⟨5, .mark .channel, none⟩
    let hi : Token := ⟨7, .literal .string, some "hi"⟩
    let clause : Token := ⟨12, .keyword .«in», some "IN"⟩
    let id : Token := ⟨15, .literal .string, some "228666916018118541"⟩
    let ts := [send, channel, hi, clause, channel, id, channel, ⟨40, .semicolon, none⟩,
      ⟨41, .endOfText, none⟩, ⟨41, .error, none⟩]
    ∃ s, ofTokens? ts = .ok [s] ∧ s.node.Shaped ∧
      s.node.preorder =
        [.token send, .token hi, .token clause, .token id, .mark (.mark .channel)] := by
  intro send channel hi clause id ts
  have htrees : ofTokens? ts = .ok [⟨send, [.leaf ⟨hi, none⟩, .clause clause [],
      .leaf ⟨id, some (.mark .channel)⟩]⟩] := by decide
  have hgroups : groups ts = [[send, channel, hi, clause, channel, id, channel]] := by decide
  have spec := (ofTokens?_reads_groups ts).2 _ htrees
  rw [hgroups] at spec
  obtain ⟨⟨preorder, shaped⟩, -⟩ := List.forall₂_cons.mp spec
  exact ⟨_, htrees, shaped, preorder⟩

end ChatQuery.Statement
