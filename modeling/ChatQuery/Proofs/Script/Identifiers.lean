import ChatQuery.Proofs.Script.Statements
import ChatQuery.Proofs.Statement.Silent

/-!
Malformed identifiers. A literal that is marked as a guild, a channel, a message or a user and is no
identifier refuses the whole text, unless a later literal of its statement names the target for it.
Literals that give no value are left out where the last of those that may name the target says
nothing.
-/
namespace ChatQuery

/-- The marks of literals that are identifiers. -/
def Mark.identifies : Mark → Bool
  | .guild | .channel | .message | .user => true
  | _ => false

/-- The literal says something and is marked as an identifier, but is none. -/
def Leaf.Malformed (l : Leaf) : Prop :=
  ∃ m text, l.mark = some (.mark m) ∧ m.identifies = true ∧ l.token.content? = some text ∧
    isSnowflake text = false

namespace Statement

/-- The last of the literals that may name the target says something, if there are any. -/
def LastSpeaks (s : Statement) : Prop := ∀ l ∈ s.candidates.getLast?, l.isSilent = false

/-- The literal gives no value, and a later one names the target: it says something, and of those
that may name the target it is the last. -/
def Supersedes (s : Statement) (l : Leaf) : Prop :=
  l ∉ s.valueLeaves ∧ ∃ before between later,
    s.candidates = before ++ l :: (between ++ [later]) ∧ later.isSilent = false

/-- A marked literal that gives no value names the target, unless a later one does. -/
lemma last_or_superseded {s : Statement} {l : Leaf} {text : String} (last : s.LastSpeaks)
    (hl : l ∈ s.ownLeaves) (hmark : l.mark.isSome) (htext : l.token.content? = some text)
    (other : l ∉ s.valueLeaves) :
    s.candidates.getLast? = some l ∨ s.Supersedes l := by
  have candidate : l ∈ s.candidates :=
    (s.valueLeaves_or_candidates hl hmark htext).resolve_left other
  obtain ⟨before, after, hsplit⟩ := List.append_of_mem candidate
  rcases List.eq_nil_or_concat' after with rfl | ⟨between, later, rfl⟩
  · left
    rw [hsplit]
    exact List.getLast?_concat
  · right
    refine ⟨other, before, between, later, hsplit, last later ?_⟩
    rw [hsplit, ← List.cons_append, ← List.append_assoc]
    exact List.getLast?_concat

end Statement

lemma Operand.fault?_of_malformed {o : Operand} {m : Mark} (hmark : o.mark = some (.mark m))
    (hm : m.identifies = true) (htext : isSnowflake o.text = false) : o.fault? ≠ none := by
  unfold fault?
  rw [hmark, htext]
  cases m with
  | guild => exact Option.some_ne_none _
  | channel => exact Option.some_ne_none _
  | message => exact Option.some_ne_none _
  | user => exact Option.some_ne_none _
  | _ => cases hm

/-- Wherever a malformed identifier stands among the literals that its statement takes notice of,
the text is refused, unless the literal gives no value and a later one names the target. Literals
that give no value are left out where the last of those that may name the target says nothing. -/
theorem malformed_refused (listener : Listener) {source : String} {s : Statement} {l : Leaf}
    (hs : s ∈ Script.statements source) (hraw : s.head.kind ≠ .keyword .raw)
    (hl : l ∈ s.ownLeaves) (hbad : l.Malformed) (settled : l ∈ s.valueLeaves ∨ s.LastSpeaks) :
    (∃ d, Script.compile? listener source = .error d) ∨ s.Supersedes l := by
  obtain ⟨m, text, hmark, hm, htext, hsnow⟩ := hbad
  -- A text that compiles has no operand of this text and mark.
  have refused (hop : ∃ o ∈ s.directive.operands, o.text = text ∧ o.mark = l.mark) :
      ∃ d, Script.compile? listener source = .error d := by
    obtain ⟨o, ho, rfl, homark⟩ := hop
    cases hc : Script.compile? listener source with
    | error d => exact ⟨d, rfl⟩
    | ok p =>
      obtain ⟨calls, hcalls⟩ := Script.calls?_of_compile? hc hs hraw
      exact absurd (Directive.sound_of_calls? hcalls o ho)
        (o.fault?_of_malformed (homark.trans hmark) hm hsnow)
  by_cases hvalue : l ∈ s.valueLeaves
  · exact .inl (refused (s.exists_operand_of_value hvalue htext))
  · have last := settled.resolve_left hvalue
    have marked := Option.isSome_of_eq_some hmark
    rcases Statement.last_or_superseded last hl marked htext hvalue with target | superseded
    · exact .inl (refused (s.exists_operand_of_target target htext))
    · exact .inr superseded

theorem malformed_refused_delete :
    ∃ s ∈ Script.statements "DELETE \"1\"m IN \"228666916018118541\"c;", ∃ l ∈ s.ownLeaves,
      l.Malformed ∧
        ∃ d, Script.compile? .discard "DELETE \"1\"m IN \"228666916018118541\"c;" = .error d := by
  let l : Leaf := ⟨⟨7, .literal .string, some "1"⟩, some (.mark .message)⟩
  let channel : Leaf :=
    ⟨⟨15, .literal .string, some "228666916018118541"⟩, some (.mark .channel)⟩
  let s : Statement :=
    ⟨⟨0, .keyword .delete, some "DELETE"⟩,
      [.leaf l, .clause ⟨12, .keyword .«in», some "IN"⟩ [channel]]⟩
  have hs : s ∈ Script.statements "DELETE \"1\"m IN \"228666916018118541\"c;" := by decide +kernel
  have hl : l ∈ s.ownLeaves := by decide
  have value : l ∈ s.valueLeaves := by decide
  have hbad : l.Malformed := ⟨.message, "1", rfl, rfl, rfl, by decide⟩
  rcases malformed_refused .discard hs (by decide) hl hbad (.inl value) with refused | superseded
  · exact ⟨s, hs, l, hl, hbad, refused⟩
  · exact absurd value superseded.1

/-- A malformed identifier is not noticed where a later literal names the target. -/
theorem malformed_superseded :
    ¬ ∀ source, ∀ s ∈ Script.statements source, s.head.kind ≠ .keyword .raw →
      ∀ l ∈ s.ownLeaves, l.Malformed → ∃ d, Script.compile? .discard source = .error d := by
  intro refused
  let l : Leaf := ⟨⟨7, .literal .string, some "1"⟩, some (.mark .guild)⟩
  let guild : Leaf := ⟨⟨12, .literal .string, some "364140226775784869"⟩, some (.mark .guild)⟩
  let s : Statement := ⟨⟨0, .keyword .listen, some "LISTEN"⟩, [.leaf l, .leaf guild]⟩
  have hs : s ∈ Script.statements "LISTEN \"1\"g \"364140226775784869\"g;" := by decide +kernel
  have hbad : l.Malformed := ⟨.guild, "1", rfl, rfl, rfl, by decide⟩
  have compiles :
      (Script.compile? .discard "LISTEN \"1\"g \"364140226775784869\"g;").isOk = true := by
    decide +kernel
  obtain ⟨d, hd⟩ := refused _ s hs (by decide) l (by decide) hbad
  rw [hd] at compiles
  cases compiles

end ChatQuery
