import ChatQuery.Proofs.Compile.Edits

/-!
Readings and deletions as they are written. Their window is what the clauses of its words say, and the
messages to delete are those named outside clauses. So the order of the parts plays no part, except
among parts of one sort.
-/
namespace ChatQuery

variable {listener : Listener} {s : Statement} {calls : List Call} {ps qs : List Part} {p : Part}
  {opening : Kind} {word : Keyword} {o : Operand} {text : String}

namespace Part

/-- The word of a clause; literals outside clauses have none. -/
def word? : Part → Option Kind
  | .leaf _ => none
  | .clause t _ => some t.kind

/-- The message that a literal outside clauses names. -/
def bareMessage? : Part → Option String
  | .leaf l => l.message?
  | .clause _ _ => none

/-- The same parts in another order, but clauses of one word and literals outside clauses each in
the order they had. -/
structure Rearranged (ps qs : List Part) : Prop where
  perm : ps.Perm qs
  order : ∀ word : Option Kind, ps.filter (·.word? = word) = qs.filter (·.word? = word)

/-- What only parts with a word speak of is known from these parts. -/
lemma flatMap_of_word {α : Type} {f : Part → List α} {word : Option Kind}
    (silent : ∀ p : Part, p.word? ≠ word → f p = []) (ps : List Part) :
    ps.flatMap f = (ps.filter (·.word? = word)).flatMap f := by
  induction ps with
  | nil => rfl
  | cons p ps ih =>
    by_cases own : p.word? = word
    · rw [List.filter_cons_of_pos (by simpa using own), List.flatMap_cons, List.flatMap_cons, ih]
    · rw [List.filter_cons_of_neg (by simpa using own), List.flatMap_cons, silent p own, ih]
      rfl

lemma Rearranged.flatMap_eq {α : Type} (h : Rearranged ps qs) {f : Part → List α}
    {word : Option Kind} (silent : ∀ p : Part, p.word? ≠ word → f p = []) :
    qs.flatMap f = ps.flatMap f := by
  rw [flatMap_of_word silent ps, flatMap_of_word silent qs, h.order word]

/-- Neighbours of different sorts may change places. -/
lemma Rearranged.swap {p q : Part} (other : p.word? ≠ q.word?) (before after : List Part) :
    Rearranged (before ++ p :: q :: after) (before ++ q :: p :: after) where
  perm := (List.Perm.swap q p after).append_left before
  order word := by
    rw [List.filter_append, List.filter_append]
    by_cases first : p.word? = word
    · have second : q.word? ≠ word := fun same => other (first.trans same.symm)
      simp [first, second]
    · simp [List.filter_cons, first]

lemma named_of_word (h : p.word? ≠ some (.keyword word)) : p.named word = [] := by
  cases p with
  | leaf l => rfl
  | clause t leaves => exact if_neg fun own => h (congrArg some own)

lemma bareMessage?_of_word (h : p.word? ≠ none) : p.bareMessage?.toList = [] := by
  cases p with
  | leaf l => exact absurd rfl h
  | clause t leaves => rfl

/-- A reading is aimed outside clauses. -/
lemma candidates_read (h : p.word? ≠ none) : p.candidates (.keyword .read) = [] := by
  cases p with
  | leaf l => exact absurd rfl h
  | clause t leaves => rfl

/-- A deletion is aimed by its `IN` clauses. -/
lemma candidates_delete (h : p.word? ≠ some (.keyword .«in»)) :
    p.candidates (.keyword .delete) = [] := by
  cases p with
  | leaf l => rfl
  | clause t leaves =>
    have other : t.kind ≠ .keyword .«in» := fun own => h (congrArg some own)
    simp [candidates, Token.isOneOf, Kind.targetClauses, other]

end Part

namespace Statement

/-- The window that the clauses of a statement speak of. -/
def window (s : Statement) : Window where
  limit := ((s.named .limit).getLast?.map decimal).getD 50
  before := (s.named .before).getLast?
  after := (s.named .after).getLast?
  around := (s.named .around).getLast?

/-- The messages that the literals outside clauses name. -/
def bareMessages (s : Statement) : List String :=
  s.parts.flatMap fun p => p.bareMessage?.toList

/-- A statement that reads or deletes, with nothing but literals outside its clauses. -/
structure IsWindowed (s : Statement) : Prop where
  opening : s.head.kind = .keyword .read ∨ s.head.kind = .keyword .delete
  bare : ∀ l, .leaf l ∈ s.parts → l.token.kind.isLiteral = true

namespace IsWindowed

variable (h : s.IsWindowed)

include h

lemma keyed : s.head.kind.keysByClause = true := (Kind.valueClauses_of_window h.opening).1

lemma valueClauses : s.head.kind.valueClauses = windowWords :=
  (Kind.valueClauses_of_window h.opening).2

lemma values_leaf (l : Leaf) :
    Part.values s.head.kind (.leaf l) = (l.operand? l.token.kind).toList := by
  have other : s.head.kind ≠ .keyword .listen := by
    rcases h.opening with opening | opening <;> rw [opening] <;> decide
  exact if_neg other

lemma textsWith_values (hword : word ∈ s.head.kind.valueClauses) :
    textsWith (.keyword word) s.values = s.named word := by
  rw [values, textsWith_flatMap]
  refine List.flatMap_congr fun p hp => ?_
  cases p with
  | leaf l =>
    rw [h.values_leaf, Part.named, textsWith_eq_nil]
    intro o ho key
    rw [key_of_operand? (Option.mem_toList.mp ho)] at key
    have literal := h.bare l hp
    rw [key] at literal
    cases literal
  | clause t leaves => exact Part.textsWith_values_clause h.keyed hword t leaves

/-- The values fill in the window that the clauses speak of. -/
lemma filled_values : Window.standard.filled s.values = s.window := by
  have texts {word : Keyword} (hword : word ∈ windowWords) :=
    h.textsWith_values (h.valueClauses ▸ hword)
  unfold Window.filled window
  rw [texts (by decide), texts (by decide), texts (by decide), texts (by decide)]
  simp only [Window.standard, Option.or_none]

lemma deletions_part (hp : p ∈ s.parts) :
    Directive.deletions (p.values s.head.kind) = p.bareMessage?.toList.map .deleteMessage := by
  cases p with
  | leaf l =>
    rw [h.values_leaf, Part.bareMessage?, ← l.message?_eq l.token.kind]
    cases operand : l.operand? l.token.kind with
    | none => rfl
    | some o =>
      have outside : o.isAnchor = false := by
        rw [Operand.isAnchor_eq, decide_eq_false_iff_not]
        rintro ⟨word, -, key⟩
        have literal := h.bare l hp
        rw [← key_of_operand? operand, key] at literal
        cases literal
      cases message : o.has .message <;>
        simp [Directive.deletions, Option.filter, outside, message]
  | clause t leaves =>
    have anchor : ∀ o ∈ Part.values s.head.kind (.clause t leaves), o.isAnchor = true := by
      intro o ho
      have key := Part.key_of_values_clause h.keyed ho
      rw [h.valueClauses] at key
      rwa [Operand.isAnchor_eq, decide_eq_true_iff]
    have none_deleted : (Part.values s.head.kind (.clause t leaves)).filter
        (fun o => !o.isAnchor && o.has .message) = [] := by
      rw [List.filter_eq_nil_iff]
      intro o ho
      simp [anchor o ho]
    rw [Directive.deletions, none_deleted]
    rfl

/-- The messages that the values of a deletion name are those named outside clauses. -/
lemma deletions_values : Directive.deletions s.values = s.bareMessages.map .deleteMessage := by
  rw [values, Directive.deletions, List.filter_flatMap, List.map_flatMap, bareMessages,
    List.map_flatMap]
  exact List.flatMap_congr fun p hp => h.deletions_part hp

lemma any_limit : s.values.any (·.key = .keyword .limit) = !(s.named .limit).isEmpty := by
  rw [← h.textsWith_values (by rw [h.valueClauses]; decide), Bool.eq_iff_iff, Bool.not_eq_true',
    List.isEmpty_eq_false_iff, ne_eq, textsWith_eq_nil, List.any_eq_true]
  push Not
  simp only [decide_eq_true_eq]

lemma isLimit_of_fits (fits : ∀ o ∈ s.values, o.Fits) : ∀ text ∈ s.named .limit, IsLimit text := by
  rw [← h.textsWith_values (by rw [h.valueClauses]; decide)]
  refine List.forall_mem_map.mpr fun o ho => ?_
  obtain ⟨value, key⟩ := List.mem_filter.mp ho
  have fit := fits o value
  rwa [Operand.Fits, of_decide_eq_true key] at fit

end IsWindowed

section Rearranging

variable {s' : Statement}

/-- A reading or deletion with its parts rearranged. -/
lemma IsWindowed.rearranged (h : s.IsWindowed) (parts : Part.Rearranged s.parts ps) :
    IsWindowed { s with parts := ps } :=
  ⟨h.opening, fun l hl => h.bare l (parts.perm.mem_iff.mpr hl)⟩

lemma named_rearranged (parts : Part.Rearranged s.parts ps) (word : Keyword) :
    named { s with parts := ps } word = s.named word :=
  parts.flatMap_eq fun _ => Part.named_of_word

lemma window_rearranged (parts : Part.Rearranged s.parts ps) :
    window { s with parts := ps } = s.window := by
  simp only [window, named_rearranged parts]

lemma bareMessages_rearranged (parts : Part.Rearranged s.parts ps) :
    bareMessages { s with parts := ps } = s.bareMessages :=
  parts.flatMap_eq fun _ => Part.bareMessage?_of_word

lemma values_rearranged (parts : Part.Rearranged s.parts ps) :
    s.values.Perm (values { s with parts := ps }) :=
  parts.perm.flatMap_right _

lemma IsWindowed.target_rearranged (h : s.IsWindowed) (parts : Part.Rearranged s.parts ps) :
    target? { s with parts := ps } = s.target? := by
  have same : candidates { s with parts := ps } = s.candidates := by
    unfold candidates
    rcases h.opening with opening | opening <;> rw [opening]
    · exact parts.flatMap_eq fun _ => Part.candidates_read
    · exact parts.flatMap_eq fun _ => Part.candidates_delete
  rw [target?, target?, same]

end Rearranging

namespace IsWindowed

variable (h : s.IsWindowed)

include h

lemma readCalls?_iff : s.directive.readCalls? = .ok calls ↔ ∃ t, s.target? = some t ∧
    (t.has .channel = true → isSnowflake t.text = true) ∧ s.values ≠ [] ∧
    (∀ o ∈ s.values, o.Fits) ∧
    calls = (if t.has .channel then [.selectChannel t.text] else []) ++
      [.readChannel s.window] := by
  rw [← h.filled_values]
  exact Directive.readCalls?_eq_ok_iff

lemma deleteCalls?_iff : s.directive.deleteCalls? = .ok calls ↔
    ∃ selection, s.directive.channelCalls? = .ok selection ∧
      (∀ o ∈ s.values, o.FitsDeletion) ∧
      calls = selection ++ (s.bareMessages.map .deleteMessage ++
        if s.named .limit = [] then [] else [.deleteMessages s.window]) := by
  have bulk : (if s.values.any (·.key = .keyword .limit) then
      [Call.deleteMessages s.window] else []) =
      if s.named .limit = [] then [] else [.deleteMessages s.window] := by
    rw [h.any_limit]
    cases s.named .limit <;> rfl
  rw [← bulk, ← h.deletions_values, ← h.filled_values]
  exact Directive.deleteCalls?_eq_ok_iff

lemma readCalls?_rearranged (parts : Part.Rearranged s.parts ps)
    (hcalls : s.directive.readCalls? = .ok calls) :
    (directive { s with parts := ps }).readCalls? = .ok calls := by
  obtain ⟨t, target, snowflake, some_value, fits, rfl⟩ := h.readCalls?_iff.mp hcalls
  have values := values_rearranged parts
  refine (h.rearranged parts).readCalls?_iff.mpr
    ⟨t, (h.target_rearranged parts).trans target, snowflake, ?_, ?_, ?_⟩
  · exact fun none => some_value (values.trans (none ▸ .refl _)).eq_nil
  · exact fun o ho => fits o (values.mem_iff.mpr ho)
  · rw [window_rearranged parts]

lemma deleteCalls?_rearranged (parts : Part.Rearranged s.parts ps)
    (hcalls : s.directive.deleteCalls? = .ok calls) :
    (directive { s with parts := ps }).deleteCalls? = .ok calls := by
  obtain ⟨selection, hselection, fits, rfl⟩ := h.deleteCalls?_iff.mp hcalls
  have target : (directive { s with parts := ps }).target = s.directive.target :=
    h.target_rearranged parts
  refine (h.rearranged parts).deleteCalls?_iff.mpr ⟨selection, ?_, ?_, ?_⟩
  · rw [← hselection, Directive.channelCalls?, Directive.channelCalls?, target]
  · exact fun o ho => fits o ((values_rearranged parts).mem_iff.mpr ho)
  · rw [bareMessages_rearranged parts, named_rearranged parts, window_rearranged parts]

lemma sound_rearranged (parts : Part.Rearranged s.parts ps)
    (sound : ∀ o ∈ s.directive.operands, o.fault? = none) :
    ∀ o ∈ (directive { s with parts := ps }).operands, o.fault? = none := by
  obtain ⟨target, values⟩ := List.forall_mem_append.mp sound
  refine List.forall_mem_append.mpr ⟨?_, fun o ho => ?_⟩
  · intro o ho
    have same : (directive { s with parts := ps }).target = s.directive.target :=
      h.target_rearranged parts
    exact target o (same ▸ ho)
  · exact values o ((values_rearranged parts).mem_iff.mpr ho)

/-- A statement that compiles compiles to the same calls when its parts are rearranged. -/
lemma calls?_rearranged (parts : Part.Rearranged s.parts ps)
    (hcalls : s.directive.calls? listener = .ok calls) :
    (directive { s with parts := ps }).calls? listener = .ok calls := by
  have sound := h.sound_rearranged parts (Directive.sound_of_calls? hcalls)
  rcases h.opening with opening | opening
  · have own := Directive.openerCalls?_of_calls? .read opening hcalls
    exact Directive.calls?_eq_ok_iff.mpr ⟨.read, opening, sound, h.readCalls?_rearranged parts own⟩
  · have own := Directive.openerCalls?_of_calls? .delete opening hcalls
    exact Directive.calls?_eq_ok_iff.mpr
      ⟨.delete, opening, sound, h.deleteCalls?_rearranged parts own⟩

end IsWindowed

/-- What a reading or a deletion compiles to, and that rearranging its parts changes nothing: its
window holds the last limit and the last anchors of its clauses, and every limit is one. A reading
ends in the one reading of that window. A deletion deletes the messages named outside clauses, and
then those of the window if some clause names a limit. -/
theorem window_calls (windowed : s.IsWindowed) (h : s.directive.calls? listener = .ok calls) :
    (∀ text ∈ s.named .limit, IsLimit text) ∧
    (s.head.kind = .keyword .read →
      calls = (s.directive.selection? .read).toList ++ [.readChannel s.window]) ∧
    (s.head.kind = .keyword .delete →
      calls = (s.target?.map fun t => .selectChannel t.text).toList ++
        (s.bareMessages.map .deleteMessage ++
          if s.named .limit = [] then [] else [.deleteMessages s.window])) ∧
    ∀ parts, Part.Rearranged s.parts parts →
      (directive { s with parts := parts }).calls? listener = .ok calls := by
  have rearranged (parts : List Part) (hparts : Part.Rearranged s.parts parts) :=
    windowed.calls?_rearranged hparts h
  rcases windowed.opening with opening | opening
  · have own := Directive.openerCalls?_of_calls? .read opening h
    obtain ⟨t, target, -, -, fits, hcalls⟩ := windowed.readCalls?_iff.mp own
    rw [Directive.selection_of_read (d := s.directive) target] at hcalls
    refine ⟨windowed.isLimit_of_fits fits, fun _ => hcalls, fun other => ?_, rearranged⟩
    cases opening.symm.trans other
  · have own := Directive.openerCalls?_of_calls? .delete opening h
    obtain ⟨selection, hselection, fits, hcalls⟩ := windowed.deleteCalls?_iff.mp own
    obtain ⟨-, rfl⟩ := Directive.channelCalls?_eq_ok_iff.mp hselection
    refine ⟨windowed.isLimit_of_fits fun o ho => (fits o ho).1, fun other => ?_, fun _ => hcalls,
      rearranged⟩
    cases opening.symm.trans other

/-- The message is deleted before those of the window, also where its literal stands behind the
first limit; the last limit counts, and the empty literal behind it says nothing. -/
theorem window_calls_delete :
    let message : Part :=
      .leaf ⟨⟨27, .literal .string, some "364140226775784869"⟩, some (.mark .message)⟩
    let limit : Part := .clause ⟨7, .keyword .limit, some "LIMIT"⟩
      [⟨⟨13, .literal .number, some "7"⟩, none⟩, ⟨⟨15, .literal .string, some "007"⟩, none⟩,
        ⟨⟨21, .literal .string, some ""⟩, none⟩]
    let s : Statement := ⟨⟨0, .keyword .delete, some "DELETE"⟩, [limit, message]⟩
    s.IsWindowed ∧ Part.Rearranged s.parts [message, limit] ∧
      s.directive.calls? .discard =
        .ok [.deleteMessage "364140226775784869", .deleteMessages ⟨7, none, none, none⟩] ∧
      (directive { s with parts := [message, limit] }).calls? .discard =
        .ok [.deleteMessage "364140226775784869", .deleteMessages ⟨7, none, none, none⟩] := by
  intro message limit s
  have windowed : s.IsWindowed := by
    refine ⟨.inr rfl, fun l hl => ?_⟩
    simp only [s, message, limit, List.mem_cons, reduceCtorEq, Part.leaf.injEq, List.not_mem_nil,
      or_false, false_or] at hl
    rw [hl]
    rfl
  have parts : Part.Rearranged s.parts [message, limit] :=
    .swap (p := limit) (q := message) (by decide) [] []
  obtain ⟨calls, h⟩ : ∃ calls, s.directive.calls? .discard = .ok calls :=
    exists_of_isOk (by decide +kernel)
  obtain ⟨-, -, deletes, rearranged⟩ := window_calls windowed h
  have same : calls =
      [.deleteMessage "364140226775784869", .deleteMessages ⟨7, none, none, none⟩] := by
    have target : s.target? = none := by decide
    have messages : s.bareMessages = ["364140226775784869"] := by decide
    have limits : s.named .limit ≠ [] := by decide
    have window : s.window = ⟨7, none, none, none⟩ := by decide +kernel
    rw [deletes rfl, target, messages, if_neg limits, window]
    rfl
  rw [same] at h rearranged
  exact ⟨windowed, parts, h, rearranged _ parts⟩

end Statement

end ChatQuery
