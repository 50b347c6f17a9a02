import ChatQuery.Proofs.Compile.Generators
import ChatQuery.Proofs.Script.Statements
import ChatQuery.Proofs.Statement.Groups
import ChatQuery.Proofs.Token.Tiling

/-!
Why a text does not compile can be shown. What is blamed is a token of the text, from which a
diagnostic has its place on through the tree and the directive of a statement; and the rendering
shows the line of that place with a caret under it.
-/
namespace ChatQuery

section Places

variable {l : Leaf} {p : Part} {o : Operand} {t : Token} {ts : List Token} {opening : Kind}

lemma mem_of_mem_items {afterLiteral : Bool} (h : .token t ∈ items afterLiteral ts) : t ∈ ts := by
  induction ts generalizing afterLiteral with
  | nil => cases h
  | cons u ts ih =>
    rcases List.mem_append.mp h with h | h
    · split_ifs at h <;> simp at h
      simp [h]
    · exact List.mem_cons_of_mem u (ih h)

lemma Node.mem_preorderAll {n : Node} {ns : List Node} {x : Item} (hn : n ∈ ns)
    (hx : x ∈ n.preorder) : x ∈ preorderAll ns := by
  obtain ⟨before, after, rfl⟩ := List.append_of_mem hn
  simp [preorderAll, hx]

lemma Part.mem_preorder (h : l ∈ p.leaves) : .token l.token ∈ p.node.preorder := by
  have own : .token l.token ∈ l.node.preorder := by simp [Element.preorder_leaf]
  cases p with
  | leaf l' =>
    obtain rfl := List.mem_singleton.mp h
    exact own
  | clause t leaves =>
    exact List.mem_cons_of_mem _ (Node.mem_preorderAll (List.mem_map_of_mem h) own)

namespace Part

lemma leaf_of_candidates (h : l ∈ p.candidates opening) : l ∈ p.leaves := by
  cases p with
  | leaf l' =>
    rw [candidates] at h
    split_ifs at h
    · exact h
    · cases h
  | clause t leaves =>
    rw [candidates] at h
    split_ifs at h
    · exact (List.mem_filter.mp h).1
    · cases h

end Part

namespace Statement

variable {s : Statement}

/-- The operands of a statement stand where literals of it do. -/
lemma leaf_of_operands (h : o ∈ s.directive.operands) :
    ∃ p ∈ s.parts, ∃ l ∈ p.leaves, o.index = l.token.index := by
  rcases List.mem_append.mp h with h | h
  · obtain ⟨l, hlast, ho⟩ := Option.bind_eq_some_iff.mp (Option.mem_toList.mp h)
    obtain ⟨p, hp, hl⟩ := List.mem_flatMap.mp (List.mem_of_getLast? hlast)
    exact ⟨p, hp, l, Part.leaf_of_candidates hl, Leaf.index_of_operand? ho⟩
  · obtain ⟨p, hp, ho⟩ := List.mem_flatMap.mp h
    obtain ⟨l, hl, key, ho, -⟩ := Part.leaf_of_values ho
    exact ⟨p, hp, l, hl, Leaf.index_of_operand? ho⟩

/-- Where a statement can be blamed, one of its tokens stands. -/
theorem token_of_places {group : List Token} (hgroup : ∀ t ∈ group, t.kind.isContent = true)
    (hs : ofGroup? group = .ok s) {i : Nat} (hi : i ∈ s.directive.places) :
    ∃ t ∈ group, t.index = i := by
  have preorder := (ofGroup?_eq_ok hgroup hs).1
  have of_item {t : Token} (ht : .token t ∈ s.node.preorder) : t ∈ group :=
    mem_of_mem_items (preorder ▸ ht)
  rcases List.mem_cons.mp hi with rfl | hi
  · exact ⟨s.head, of_item (by simp [node, Node.preorder]), rfl⟩
  · obtain ⟨o, ho, rfl⟩ := List.mem_map.mp hi
    obtain ⟨p, hp, l, hl, hindex⟩ := leaf_of_operands ho
    have below := Node.mem_preorderAll (List.mem_map_of_mem hp) (Part.mem_preorder hl)
    exact ⟨l.token, of_item (by simp [node, Node.preorder, below]), hindex.symm⟩

end Statement

end Places

namespace Script

variable {listener : Listener} {source : String} {d : Diagnostic}

/-- What is blamed is a token before the end of the text that is no layout. -/
theorem token_of_error (h : compile? listener source = .error d) :
    ∃ t ∈ Statement.body (tokenize source), t.index = d.index ∧ t.kind.isTrivia = false := by
  unfold compile? directives? at h
  cases hsts : Statement.ofTokens? (tokenize source) with
  | error d' =>
    rw [hsts] at h
    cases h
    cases Statement.ofTokens?_eq_error_iff.mp hsts with
    | unknown before after t split known error =>
      exact ⟨t, by simp [split], rfl, by simp [error, Kind.isTrivia]⟩
    | unopened known before after head rest split opened closed =>
      have hgroup : head :: rest ∈ Statement.groups (tokenize source) := by simp [split]
      obtain ⟨hbody, htrivia, -⟩ := Statement.mem_body_of_mem_groups hgroup List.mem_cons_self
      exact ⟨head, hbody, rfl, htrivia⟩
  | ok sts =>
    rw [hsts] at h
    have known := Statement.known_of_ofTokens? hsts
    have hds : ofDirectives? listener (sts.map Statement.directive) = .error d := h
    obtain ⟨s, hs, hd⟩ : ∃ s ∈ sts, s.directive.calls? listener = .error d := by
      unfold ofDirectives? at hds
      cases hcalls : ((sts.map Statement.directive).filter (!isToggle ·)).mapM
          (Directive.calls? listener) with
      | ok calls =>
        rw [hcalls] at hds
        cases hds
      | error d' =>
        rw [hcalls] at hds
        cases hds
        obtain ⟨before, x, after, split, -, hx⟩ := mapM_eq_error_iff.mp hcalls
        have hmem : x ∈ (sts.map Statement.directive).filter (!isToggle ·) := by simp [split]
        obtain ⟨s, hs, rfl⟩ := List.mem_map.mp (List.mem_filter.mp hmem).1
        exact ⟨s, hs, hx⟩
    have blamed : d.index ∈ s.directive.places := by
      have yields := s.directive.calls?_yields listener
      rwa [hd] at yields
    obtain ⟨group, hgroup, hgs⟩ := Statement.group_of_ofTokens? hsts hs
    obtain ⟨t, ht, hindex⟩ := Statement.token_of_places
      (fun t ht => Statement.isContent_of_mem_groups known hgroup ht) hgs blamed
    obtain ⟨hbody, htrivia, -⟩ := Statement.mem_body_of_mem_groups hgroup ht
    exact ⟨t, hbody, hindex, htrivia⟩

end Script

namespace Diagnostic

lemma splitAtByte_byteLength (before after : List Char) :
    splitAtByte (byteLength before) (before ++ after) = (before, after) := by
  induction before with
  | nil => cases after <;> rfl
  | cons c before ih =>
    obtain ⟨n, hn⟩ : ∃ n, byteLength (c :: before) = n + 1 :=
      Nat.exists_eq_succ_of_ne_zero (byteLength_pos c before).ne'
    have hrest : n + 1 - c.utf8Size = byteLength before := by
      rw [← hn, byteLength, Nat.add_sub_cancel_left]
    rw [hn, List.cons_append, splitAtByte, hrest, ih]

/-- The last line of a text, and the lines above it. -/
lemma exists_above (cs : List Char) : ∃ above, cs = above ++ lastLine cs ∧
    (∀ c ∈ above.getLast?, c = '\n') ∧ '\n' ∉ lastLine cs := by
  refine ⟨(cs.reverse.dropWhile (· ≠ '\n')).reverse, ?_, ?_, ?_⟩
  · unfold lastLine
    rw [← List.reverse_append, List.takeWhile_append_dropWhile, List.reverse_reverse]
  · intro c hc
    rw [List.getLast?_reverse] at hc
    have hstop := List.head?_dropWhile_not (· ≠ '\n') cs.reverse
    rw [hc] at hstop
    simpa using hstop
  · intro hmem
    unfold lastLine at hmem
    simpa using List.mem_takeWhile_imp (List.mem_reverse.mp hmem)

/-- A place on a line of a text: the lines above, the line up to the place and from there on, and
the lines below. -/
structure OnLine (cs : List Char) (offset : Nat) (above left right below : List Char) : Prop where
  text : cs = above ++ (left ++ right) ++ below
  place : offset = byteLength (above ++ left)
  line : '\n' ∉ left ++ right
  begins : ∀ c ∈ above.getLast?, c = '\n'
  ends : ∀ c ∈ below.head?, c = '\n'

/-- The rendering shows the line of the place, a caret below it, and the numbers of the line and of
the column. -/
theorem render_onLine {d : Diagnostic} {source : String} {before after : List Char}
    (hsource : source.toList = before ++ after) (hindex : d.index = byteLength before) :
    ∃ above left right below, OnLine source.toList d.index above left right below ∧
      d.render source = String.ofList (left ++ right) ++ "\n" ++
        String.ofList (List.replicate left.length ' ') ++ "^ " ++ d.message ++ "\n  --> " ++
        toString ((above ++ left).count '\n' + 1) ++ ":" ++ toString (left.length + 1) ++ " (" ++
        toString d.index ++ ")" := by
  obtain ⟨above, hbefore, begins, left_line⟩ := exists_above before
  have hafter := List.takeWhile_append_dropWhile (p := (· ≠ '\n')) (l := after)
  refine ⟨above, lastLine before, after.takeWhile (· ≠ '\n'), after.dropWhile (· ≠ '\n'),
    ⟨?_, ?_, ?_, begins, ?_⟩, ?_⟩
  · rw [List.append_assoc, List.append_assoc, hafter, ← List.append_assoc, ← hbefore, hsource]
  · rw [← hbefore, hindex]
  · rw [List.mem_append, not_or]
    refine ⟨left_line, fun hmem => ?_⟩
    simpa using List.mem_takeWhile_imp hmem
  · intro c hc
    have hstop := List.head?_dropWhile_not (· ≠ '\n') after
    rw [hc] at hstop
    simpa using hstop
  · unfold render
    rw [hsource, hindex, splitAtByte_byteLength, ← hbefore]

end Diagnostic

namespace Script

variable {listener : Listener} {source : String} {d : Diagnostic}

/-- If a text does not compile, the diagnostic stands at a token of it that is neither its end nor
layout, so within the text and between two characters; and it can be shown: under the line where it
stands, at the column where it stands, and with the numbers of both. -/
theorem error_shown (h : compile? listener source = .error d) :
    (∃ t ∈ tokenize source, t.index = d.index ∧ t.kind ≠ .endOfText ∧ t.kind.isTrivia = false) ∧
      d.index < source.utf8ByteSize ∧ (String.Pos.Raw.mk d.index).IsValid source ∧
      ∃ above left right below, Diagnostic.OnLine source.toList d.index above left right below ∧
        d.render source = String.ofList (left ++ right) ++ "\n" ++
          String.ofList (List.replicate left.length ' ') ++ "^ " ++ d.message ++ "\n  --> " ++
          toString ((above ++ left).count '\n' + 1) ++ ":" ++ toString (left.length + 1) ++ " (" ++
          toString d.index ++ ")" := by
  obtain ⟨t, hbody, hindex, htrivia⟩ := token_of_error h
  have ht : t ∈ tokenize source := List.takeWhile_subset _ hbody
  have hend := Statement.kind_of_mem_body hbody
  have reads : Cursor.Reads 0 source.toList (tokenize source) := Cursor.reads_tokens 0 _
  obtain ⟨before, after, hsource, hplace, htoken⟩ := reads.exists_place ht
  rw [Nat.zero_add, hindex] at hplace
  refine ⟨⟨t, ht, hindex, hend, htrivia⟩, ?_, ?_, Diagnostic.render_onLine hsource hplace⟩
  · cases after with
    | nil => exact absurd (congrArg Token.kind htoken) hend
    | cons c after =>
      have hpos := byteLength_pos c after
      rw [← byteLength_toList, hsource, byteLength_append]
      omega
  · rw [hplace]
    exact isValid_byteLength hsource

/-- An identifier on the second line is blamed, behind a character of two bytes. -/
theorem error_shown_channel :
    let source := "RAW;\nSEND 'é' IN 'x'c"
    let d : Diagnostic := ⟨18, .mark .channel⟩
    compile? .discard source = .error d ∧
      (∃ t ∈ tokenize source, t.index = 18 ∧ t.kind ≠ .endOfText ∧ t.kind.isTrivia = false) ∧
      d.render source =
        "SEND 'é' IN 'x'c\n            ^ Invalid channel ID\n  --> 2:13 (18)" := by
  intro source d
  have refused : (compile? .discard source).map (fun _ => ()) = .error d := by decide +kernel
  have h := eq_error_of_map refused
  exact ⟨h, (error_shown h).1, by decide +kernel⟩

end Script

end ChatQuery
