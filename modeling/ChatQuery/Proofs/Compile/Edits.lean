import ChatQuery.Proofs.Compile.Order
import ChatQuery.Proofs.Script.Identifiers
import ChatQuery.Proofs.Statement.Silent

/-!
The message that an edit changes. It is the one its target names, or else the one that the last
literal names of those marked as messages, whether that stands in a `WITH` clause or in none. An edit
without any is refused at its opening word.
-/
namespace ChatQuery

variable {listener : Listener} {d : Directive} {s : Statement} {calls : List Call}
  {named : Option String} {id : String}

/-- The message that a literal names which is marked as one. -/
def Leaf.message? (l : Leaf) : Option String :=
  if l.mark = some (.mark .message) then l.token.content? else none

/-- The messages that the literals of a part of an edit name, each with whether its literal stands
outside clauses. -/
def Part.messages : Part → List (String × Bool)
  | .leaf l => (l.message?.map (·, true)).toList
  | .clause t leaves =>
    if t.isOneOf [.«with»] then (leaves.filterMap Leaf.message?).map (·, false) else []

namespace Statement

def messages (s : Statement) : List (String × Bool) := s.parts.flatMap Part.messages

/-- The message that a target names which is marked as one. -/
def targetMessage? (s : Statement) : Option String :=
  (s.target?.filter (·.has .message)).map Operand.text

/-- The message of the target, or else of the last literal. -/
def edited? (s : Statement) : Option String :=
  s.targetMessage?.or (s.messages.getLast?.map (·.1))

/-- The message of the target, or else of the last literal outside clauses. -/
def named? (s : Statement) : Option String :=
  s.targetMessage?.or ((s.messages.filter (·.2)).getLast?.map (·.1))

end Statement

section Messages

lemma Leaf.message?_eq (l : Leaf) (key : Kind) :
    ((l.operand? key).filter (·.has .message)).map Operand.text = l.message? := by
  unfold operand? message?
  cases l.token.content? with
  | none => simp
  | some text =>
    simp only [Option.map_some, Option.filter, Operand.has, decide_eq_true_eq]
    split_ifs <;> rfl

/-- The values of an edit that are marked as messages are those of its literals. -/
lemma Part.messages_eq (p : Part) :
    ((p.values (.keyword .edit)).filter (·.has .message)).map Operand.text =
      p.messages.map (·.1) := by
  cases p with
  | leaf l =>
    have other : Kind.keyword .edit ≠ .keyword .listen := by decide
    rw [values, if_neg other, messages, ← Option.toList_filter, ← Option.toList_map,
      l.message?_eq, ← Option.toList_map, Option.map_map]
    exact congrArg Option.toList (congrFun Option.map_id l.message?).symm
  | clause t leaves =>
    have each : ((leaves.filterMap fun l => l.operand? l.token.kind).filter (·.has .message)).map
        Operand.text = leaves.filterMap Leaf.message? := by
      rw [List.filter_filterMap, List.map_filterMap]
      congr 1
      funext l
      exact l.message?_eq _
    have own : values (.keyword .edit) (.clause t leaves) =
        if t.isOneOf [.«with»] then leaves.filterMap fun l => l.operand? l.token.kind else [] := rfl
    rw [own, messages]
    split_ifs
    · rw [each, List.map_map]
      exact (List.map_id _).symm
    · rfl

lemma Statement.messages_eq (hedit : s.head.kind = .keyword .edit) :
    (s.values.filter (·.has .message)).map Operand.text = s.messages.map (·.1) := by
  unfold values messages
  rw [hedit, List.filter_flatMap, List.map_flatMap, List.map_flatMap]
  congr 1
  funext p
  exact p.messages_eq

end Messages

namespace Directive

lemma editedId?_eq_ok (h : d.editedId? named = .ok id) :
    named.or (((d.values.filter (·.has .message)).map Operand.text).getLast?) = some id := by
  cases named with
  | some id' =>
    cases h
    rfl
  | none =>
    rw [Option.none_or, List.getLast?_map]
    unfold editedId? at h
    cases last : (d.values.filter (·.has .message)).getLast? with
    | none =>
      rw [last] at h
      cases h
    | some o =>
      rw [last] at h
      exact congrArg some (Operand.id?_eq_ok_iff.mp h).2

lemma editTarget?_of_channel (sound : ∀ o ∈ d.operands, o.fault? = none)
    (aimed : ∀ t ∈ d.target, t.has .channel = true) :
    ∃ selection, d.editTarget? = .ok (selection, none) := by
  unfold editTarget?
  cases target : d.target with
  | none => exact ⟨[], rfl⟩
  | some t =>
    have channel := aimed t target
    have snowflake : isSnowflake t.text = true := by
      by_contra malformed
      have mark := Operand.has_iff.mp channel
      refine t.fault?_of_malformed mark rfl (eq_false_of_ne_true malformed) ?_
      exact sound t (List.mem_append_left _ (Option.mem_toList.mpr target))
    dsimp only
    rw [if_pos channel, Operand.id?, if_pos snowflake]
    exact ⟨_, rfl⟩

end Directive

namespace Statement

/-- An edit that compiles changes the message of its target, or else that of its last literal. -/
lemma editMessage_of_calls? (hedit : s.head.kind = .keyword .edit)
    (h : s.directive.calls? listener = .ok calls) :
    ∃ id body, s.edited? = some id ∧ MessageBody.ofOperands? s.values = .ok body ∧
      calls = (s.directive.selection? .edit).toList ++ [.editMessage ⟨id, body⟩] := by
  replace h := Directive.openerCalls?_of_calls? .edit hedit h
  obtain ⟨⟨selection, named⟩, htarget, h⟩ := bind_eq_ok h
  obtain ⟨id, hid, h⟩ := bind_eq_ok h
  obtain ⟨body, hbody, h⟩ := bind_eq_ok h
  cases h
  obtain ⟨rfl, rfl⟩ := Directive.editTarget?_eq_ok htarget
  refine ⟨id, body, ?_, hbody, rfl⟩
  rw [edited?, ← List.getLast?_map, ← messages_eq hedit]
  exact Directive.editedId?_eq_ok hid

lemma edited_of_calls? (hedit : s.head.kind = .keyword .edit)
    (h : s.directive.calls? listener = .ok calls) :
    ∃ id body, s.edited? = some id ∧ MessageBody.Conveys body s.values ∧
      calls = (s.directive.selection? .edit).toList ++ [.editMessage ⟨id, body⟩] := by
  obtain ⟨id, body, hid, hbody, hcalls⟩ := editMessage_of_calls? hedit h
  exact ⟨id, body, hid, MessageBody.conveys_of_ofOperands? hbody, hcalls⟩

/-- An edit that names no message is refused at its opening word, if its operands are sound and its
target can be selected. -/
lemma refused_of_unnamed (hedit : s.head.kind = .keyword .edit) (unnamed : s.edited? = none)
    (sound : ∀ o ∈ s.directive.operands, o.fault? = none)
    (aimed : ∀ t ∈ s.target?, t.has .channel = true) :
    s.directive.calls? listener = .error ⟨s.head.index, .keyword .edit⟩ := by
  have opening : Opener.ofKind? s.directive.head.key = some .edit :=
    Opener.ofKind?_eq_some.mpr hedit
  have nothing : (s.directive.values.filter (·.has .message)).getLast? = none := by
    obtain ⟨-, last⟩ := Option.or_eq_none_iff.mp unnamed
    rwa [← List.getLast?_map, ← messages_eq hedit, List.getLast?_map, Option.map_eq_none_iff]
      at last
  obtain ⟨selection, htarget⟩ := Directive.editTarget?_of_channel sound aimed
  unfold Directive.calls?
  rw [opening, Directive.fault?_eq_none.mpr sound]
  change s.directive.editCalls? = _
  unfold Directive.editCalls?
  rw [htarget]
  change (s.directive.editedId? none >>= _) = _
  rw [Directive.editedId?, nothing]
  rfl

/-- The message of an edit is that of its target, or else that of the last literal marked as one, in
a `WITH` or in no clause; without any the edit is refused at its opening word. A `WITH` has no say
if the target names one, or if the last of these literals stands in no clause. -/
theorem edit_changes (hedit : s.head.kind = .keyword .edit) (listener : Listener) :
    (∀ calls, s.directive.calls? listener = .ok calls →
      ∃ id body, s.edited? = some id ∧ MessageBody.Conveys body s.values ∧
        calls = (s.directive.selection? .edit).toList ++ [.editMessage ⟨id, body⟩]) ∧
    (s.edited? = none → (∀ o ∈ s.directive.operands, o.fault? = none) →
      (∀ t ∈ s.target?, t.has .channel = true) →
        s.directive.calls? listener = .error ⟨s.head.index, .keyword .edit⟩) ∧
    (s.targetMessage?.isSome = true ∨ (∀ m ∈ s.messages.getLast?, m.2 = true) →
      s.named? = s.edited?) := by
  refine ⟨fun calls => edited_of_calls? hedit, fun unnamed => refused_of_unnamed hedit unnamed, ?_⟩
  rintro (target | bare)
  · obtain ⟨id, hid⟩ := Option.isSome_iff_exists.mp target
    rw [named?, edited?, hid, Option.some_or, Option.some_or]
  · rw [named?, edited?, getLast?_filter_of_last bare]

theorem edit_changes_channel :
    let message := "343341358242773387"
    let channel := "228666916018118541"
    let s : Statement := ⟨⟨0, .keyword .edit, some "EDIT"⟩,
      [.leaf ⟨⟨5, .literal .string, some message⟩, some (.mark .message)⟩,
        .clause ⟨27, .keyword .«in», some "IN"⟩
          [⟨⟨30, .literal .string, some channel⟩, some (.mark .channel)⟩],
        .clause ⟨52, .keyword .«with», some "WITH"⟩
          [⟨⟨57, .literal .string, some "new text"⟩, none⟩]]⟩
    s.head.kind = .keyword .edit ∧ s.named? = s.edited? ∧ ∃ body,
      s.directive.calls? .discard =
        .ok [.selectChannel channel, .editMessage ⟨message, body⟩] := by
  intro message channel s
  obtain ⟨compiles, -, unheard⟩ := edit_changes (s := s) rfl .discard
  obtain ⟨calls, h⟩ : ∃ calls, s.directive.calls? .discard = .ok calls :=
    exists_of_isOk (by decide +kernel)
  obtain ⟨id, body, hid, -, rfl⟩ := compiles calls h
  cases (show s.edited? = some message by decide).symm.trans hid
  exact ⟨rfl, unheard (.inr (by decide)), body, h⟩

/-- A message in the text of the edit is edited in place of the one that is named outside. -/
theorem edit_changes_quoted :
    let source := "EDIT \"343341358242773387\"m WITH \"364140226775784869\"m \"new text\";"
    ∃ s, ofTokens? (tokenize source) = .ok [s] ∧ s.named? = some "343341358242773387" ∧
      ∃ body, s.directive.calls? .discard =
        .ok [.editMessage ⟨"364140226775784869", body⟩] := by
  intro source
  let s : Statement := ⟨⟨0, .keyword .edit, some "EDIT"⟩,
    [.leaf ⟨⟨5, .literal .string, some "343341358242773387"⟩, some (.mark .message)⟩,
      .clause ⟨27, .keyword .«with», some "WITH"⟩
        [⟨⟨32, .literal .string, some "364140226775784869"⟩, some (.mark .message)⟩,
          ⟨⟨54, .literal .string, some "new text"⟩, none⟩]]⟩
  obtain ⟨calls, h⟩ : ∃ calls, s.directive.calls? .discard = .ok calls :=
    exists_of_isOk (by decide +kernel)
  obtain ⟨id, body, hid, -, rfl⟩ := edited_of_calls? rfl h
  cases (show s.edited? = some "364140226775784869" by decide).symm.trans hid
  exact ⟨s, by decide +kernel, by decide, body, h⟩

end Statement

end ChatQuery
