import ChatQuery.Proofs.Compile.Fault

/-!
What a listener wants to hear. Of the standard events these are the ones that its statement
includes, or all but those that it excludes; how often and in which order they are named plays no
part, and neither do names of other events.
-/
namespace ChatQuery

/-- What the listener that a call registers wants to hear. -/
def Call.subscription? : Call → Option Subscription
  | .listenClient sub | .listenGuild sub | .listenChannel sub => some sub
  | _ => none

/-- What the literals in a clause of the word name. -/
def Part.named (word : Keyword) : Part → List String
  | .leaf _ => []
  | .clause t leaves =>
    if t.kind = .keyword word then leaves.filterMap (·.token.content?) else []

/-- The names that stand in the clauses of a word. -/
def Statement.named (s : Statement) (word : Keyword) : List String :=
  s.parts.flatMap (Part.named word)

/-- The texts of the operands with a key. -/
def textsWith (key : Kind) (os : List Operand) : List String :=
  (os.filter (·.key = key)).map Operand.text

lemma textsWith_eq_nil {key : Kind} {os : List Operand} :
    textsWith key os = [] ↔ ∀ o ∈ os, o.key ≠ key := by
  simp [textsWith]

lemma textsWith_flatMap (key : Kind) (f : Part → List Operand) (parts : List Part) :
    textsWith key (parts.flatMap f) = parts.flatMap fun p => textsWith key (f p) := by
  simp only [textsWith, List.filter_flatMap, List.map_flatMap]

lemma key_of_operand? {l : Leaf} {key : Kind} {o : Operand} (h : l.operand? key = some o) :
    o.key = key := by
  obtain ⟨text, -, rfl⟩ := Option.map_eq_some_iff.mp h
  rfl

lemma textsWith_operands (key : Kind) (leaves : List Leaf) :
    textsWith key (leaves.filterMap (·.operand? key)) =
      leaves.filterMap (·.token.content?) := by
  have all : (leaves.filterMap (·.operand? key)).filter (·.key = key) =
      leaves.filterMap (·.operand? key) := by
    rw [List.filter_eq_self]
    intro o ho
    obtain ⟨l, -, hl⟩ := List.mem_filterMap.mp ho
    exact decide_eq_true (key_of_operand? hl)
  rw [textsWith, all, List.map_filterMap]
  apply List.filterMap_congr
  intro l _
  rw [Leaf.operand?, Option.map_map]
  exact Option.map_id'

/-- The words whose clauses narrow what a listener hears. -/
def narrowing : List Keyword := Kind.valueClauses (.keyword .listen)

namespace Part

variable {p : Part} {word : Keyword} {opening : Kind}

lemma values_clause (keyed : opening.keysByClause = true) (t : Token) (leaves : List Leaf) :
    values opening (.clause t leaves) =
      if t.isOneOf opening.valueClauses then leaves.filterMap (·.operand? t.kind) else [] := by
  simp only [values, keyed, if_true]

/-- Where values are known by their clauses, those of a word are what its clauses name. -/
lemma textsWith_values_clause (keyed : opening.keysByClause = true)
    (hword : word ∈ opening.valueClauses) (t : Token) (leaves : List Leaf) :
    textsWith (.keyword word) (values opening (.clause t leaves)) =
      (clause t leaves).named word := by
  rw [values_clause keyed, named]
  split_ifs with among own own
  · rw [own]
    exact textsWith_operands _ leaves
  · rw [textsWith_eq_nil]
    intro o ho
    obtain ⟨l, -, hl⟩ := List.mem_filterMap.mp ho
    rwa [key_of_operand? hl]
  · exact absurd (List.any_eq_true.mpr ⟨word, hword, decide_eq_true own⟩) among
  · rfl

/-- Where values are known by their clauses, those of a clause are known by one of the words. -/
lemma key_of_values_clause (keyed : opening.keysByClause = true) {t : Token} {leaves : List Leaf}
    {o : Operand} (h : o ∈ values opening (.clause t leaves)) :
    ∃ word ∈ opening.valueClauses, o.key = .keyword word := by
  rw [values_clause keyed] at h
  split_ifs at h with among
  · obtain ⟨l, -, hl⟩ := List.mem_filterMap.mp h
    obtain ⟨word, hword, kind⟩ := List.any_eq_true.mp among
    exact ⟨word, hword, (key_of_operand? hl).trans (of_decide_eq_true kind)⟩
  · cases h

lemma key_of_values_listen {o : Operand} (h : o ∈ values (.keyword .listen) p) :
    ∃ word ∈ narrowing, o.key = .keyword word := by
  cases p with
  | leaf l => simp [values] at h
  | clause t leaves => exact key_of_values_clause rfl h

lemma textsWith_values_listen (hword : word ∈ narrowing) (p : Part) :
    textsWith (.keyword word) (values (.keyword .listen) p) = p.named word := by
  cases p with
  | leaf l => simp [values, textsWith, named]
  | clause t leaves => exact textsWith_values_clause rfl hword t leaves

end Part

namespace Directive

variable {d : Directive} {listener : Listener} {calls : List Call}

/-- If all values are known by one word, the first of them is. -/
lemma key_of_head {key : Kind} (some_named : d.values ≠ []) (h : ∀ o ∈ d.values, o.key = key) :
    d.values.head?.map Operand.key = some key := by
  obtain ⟨o, os, hos⟩ := List.exists_cons_of_ne_nil some_named
  rw [hos]
  exact congrArg some (h o (hos ▸ List.mem_cons_self))

lemma any_text_eq (os : List Operand) (e : String) :
    (os.any fun o => o.text == e) = decide (e ∈ os.map Operand.text) := by
  rw [Bool.eq_iff_iff, List.any_eq_true, decide_eq_true_iff, List.mem_map]
  simp only [beq_iff_eq]

lemma events_of_include (some_named : d.values ≠ [])
    (h : ∀ o ∈ d.values, o.key = .keyword .«include») :
    d.events = standardEvents.filter fun e => e ∈ d.values.map Operand.text := by
  rw [events, key_of_head some_named h]
  simp only [any_text_eq]

lemma events_of_exclude (some_named : d.values ≠ [])
    (h : ∀ o ∈ d.values, o.key = .keyword .exclude) :
    d.events = standardEvents.filter fun e => e ∉ d.values.map Operand.text := by
  rw [events, key_of_head some_named h]
  simp only [any_text_eq, decide_not]

lemma events_of_nothing (h : d.values = []) : d.events = standardEvents := by
  rw [events, h]
  rfl

/-- Selecting the target registers no listener. -/
lemma subscription?_of_scopeCalls? {k : Keyword} (h : d.scopeCalls? k = .ok calls) :
    calls.filterMap Call.subscription? = [] := by
  have selection {o : Operand} {m : Mark} {make : String → Call}
      (quiet : ∀ id, (make id).subscription? = none)
      (hid : (o.id? m).map (fun id => [make id]) = .ok calls) :
      calls.filterMap Call.subscription? = [] := by
    cases h : o.id? m with
    | error e =>
      rw [h] at hid
      cases hid
    | ok id =>
      rw [h] at hid
      cases hid
      simp [quiet]
  unfold scopeCalls? at h
  split at h
  · cases h
    rfl
  · split_ifs at h
    · exact selection (fun _ => rfl) h
    · exact selection (fun _ => rfl) h

/-- A listening statement registers one listener, and nothing else does in its calls. -/
theorem subscription?_of_calls? (opening : d.head.key = .keyword .listen)
    (h : d.calls? listener = .ok calls) :
    calls.filterMap Call.subscription? = [⟨listener, d.events⟩] := by
  have hcalls := openerCalls?_of_calls? .listen opening h
  obtain ⟨selection, hselection, hcalls⟩ := bind_eq_ok hcalls
  cases hcalls
  rw [List.filterMap_append, subscription?_of_scopeCalls? hselection]
  split <;> rfl

end Directive

namespace Statement

variable {s : Statement}

lemma values_listen (opening : s.head.kind = .keyword .listen) :
    s.values = s.parts.flatMap (Part.values (.keyword .listen)) := by
  rw [values, opening]

lemma textsWith_values (opening : s.head.kind = .keyword .listen) {word : Keyword}
    (hword : word ∈ narrowing) : textsWith (.keyword word) s.values = s.named word := by
  rw [values_listen opening, textsWith_flatMap]
  exact congrArg s.parts.flatMap (funext (Part.textsWith_values_listen hword))

/-- Where a word names nothing, no value is known by it. -/
lemma key_ne_of_unnamed (opening : s.head.kind = .keyword .listen) {word : Keyword}
    (hword : word ∈ narrowing) (unnamed : s.named word = []) :
    ∀ o ∈ s.values, o.key ≠ .keyword word := by
  rwa [← textsWith_values opening hword, textsWith_eq_nil] at unnamed

lemma key_of_values (opening : s.head.kind = .keyword .listen) {o : Operand} (ho : o ∈ s.values) :
    o.key = .keyword .«include» ∨ o.key = .keyword .exclude := by
  rw [values_listen opening] at ho
  obtain ⟨p, -, hp⟩ := List.mem_flatMap.mp ho
  obtain ⟨word, hword, key⟩ := Part.key_of_values_listen hp
  rw [key]
  simpa [narrowing, Kind.valueClauses] using hword

/-- Values that are all known by one word have the texts that its clauses name. -/
lemma texts_of_values (opening : s.head.kind = .keyword .listen) {word : Keyword}
    (hword : word ∈ narrowing) (h : ∀ o ∈ s.values, o.key = .keyword word) :
    s.values.map Operand.text = s.named word := by
  have all : s.values.filter (·.key = .keyword word) = s.values :=
    List.filter_eq_self.mpr fun o ho => decide_eq_true (h o ho)
  rw [← textsWith_values opening hword, textsWith, all]

/-- What the clauses of a listening statement leave of the standard events. -/
theorem events_directive (opening : s.head.kind = .keyword .listen) :
    (s.named .«include» ≠ [] → s.named .exclude = [] →
        s.directive.events = standardEvents.filter (· ∈ s.named .«include»)) ∧
      (s.named .exclude ≠ [] → s.named .«include» = [] →
        s.directive.events = standardEvents.filter (· ∉ s.named .exclude)) ∧
      (s.named .«include» = [] → s.named .exclude = [] → s.directive.events = standardEvents) := by
  have hinclude : Keyword.«include» ∈ narrowing := by decide
  have hexclude : Keyword.exclude ∈ narrowing := by decide
  have key {o : Operand} (ho : o ∈ s.values) := key_of_values opening ho
  refine ⟨fun named unnamed => ?_, fun named unnamed => ?_, fun included excluded => ?_⟩
  · have all : ∀ o ∈ s.values, o.key = .keyword .«include» := fun o ho =>
      (key ho).resolve_right (key_ne_of_unnamed opening hexclude unnamed o ho)
    have texts := texts_of_values opening hinclude all
    have some_named : s.values ≠ [] := fun h => named (by rw [← texts, h]; rfl)
    rw [← texts]
    exact Directive.events_of_include some_named all
  · have all : ∀ o ∈ s.values, o.key = .keyword .exclude := fun o ho =>
      (key ho).resolve_left (key_ne_of_unnamed opening hinclude unnamed o ho)
    have texts := texts_of_values opening hexclude all
    have some_named : s.values ≠ [] := fun h => named (by rw [← texts, h]; rfl)
    rw [← texts]
    exact Directive.events_of_exclude some_named all
  · have none_named : s.values = [] := by
      refine List.eq_nil_iff_forall_not_mem.mpr fun o ho => ?_
      rcases key ho with hkey | hkey
      · exact key_ne_of_unnamed opening hinclude included o ho hkey
      · exact key_ne_of_unnamed opening hexclude excluded o ho hkey
    exact Directive.events_of_nothing none_named

end Statement

end ChatQuery
