import ChatQuery.Proofs.Compile.Edits
import ChatQuery.Proofs.Script.Written

/-!
What becomes of the values of a message. Each adds one attachment, one embed or one line, as its mark
and its kind say, and the message is what they add, in the order of the text. Only values that are
marked as what they do not name add nothing: numbers as embeds or mentions, and identifiers or tokens.
-/
namespace ChatQuery

variable {listener : Listener} {source : String} {s : Statement} {calls : List Call} {o : Operand}
  {p : Contribution} {parts : List Contribution}

namespace Contribution

def attachment? : Contribution → Option String
  | .attachment name => some name
  | _ => none

def embed? : Contribution → Option Json
  | .embed value => some value
  | _ => none

def line? : Contribution → Option String
  | .line text => some text
  | _ => none

end Contribution

/-- The message that some contributions make up, each kind of them in order. -/
def MessageBody.made (parts : List Contribution) : MessageBody where
  content := String.join ((parts.filterMap Contribution.line?).map (· ++ "\n"))
  attachments := parts.filterMap Contribution.attachment?
  embeds := parts.filterMap Contribution.embed?

/-- What a value adds to a message, as its mark and its kind say. -/
inductive Operand.Adds (o : Operand) : Contribution → Prop
  | attachment (mark : o.has .attachment = true) : Adds o (.attachment o.text)
  | object {v : Json} (key : o.key = .literal .object) (mark : o.mark = none ∨ o.has .embed = true)
    (read : Json.read? o.text = some v) : Adds o (.embed v)
  | embed {v : Json} (key : o.key = .literal .string) (mark : o.has .embed = true)
    (read : Json.read? o.text = some v) : Adds o (.embed v)
  | mention (key : o.key = .literal .string) (mark : o.has .mention = true)
    (user : isSnowflake o.text = true) : Adds o (.line ("<@" ++ o.text ++ ">"))
  | line (key : o.key = .literal .string ∨ o.key = .literal .number) (mark : o.mark = none) :
    Adds o (.line o.text)
  | number (key : o.key = .literal .number) (mark : o.has .embed = true ∨ o.has .mention = true) :
    Adds o .nothing
  | named {m : Mark} (among : m ∈ [Mark.token, .guild, .channel, .message, .user])
    (mark : o.has m = true) : Adds o .nothing

/-- A value adds one thing to one field. -/
lemma Operand.adds_unique : Relator.RightUnique Operand.Adds := by
  intro o p q h h'
  cases h <;> cases h' <;> simp_all [Operand.has] <;> grind

namespace MessageBody

/-- A message is made of what it was made of before and what follows. -/
lemma foldl_add_eq_made (parts : List Contribution) : parts.foldl add empty = made parts := by
  induction parts with
  | nil => rfl
  | cons p parts ih =>
    have step : (empty.add p).append (made parts) = made (p :: parts) := by
      cases p <;>
        simp [made, append, add, empty, Contribution.attachment?, Contribution.embed?,
          Contribution.line?, List.filterMap_cons]
    rw [List.foldl_cons, foldl_add, ih, step]

end MessageBody

/-- What an operand contributes is what a value adds that is written as it. -/
lemma Operand.adds_of_contribution? (literal : o.key.isLiteral = true)
    (marked : ∀ k ∈ o.mark, k.isMark = true) (sound : o.fault? = none)
    (braced : o.key = .literal .object → o.text.toList.head? = some '{')
    (h : o.contribution? = .ok p) : o.Adds p := by
  have marks : o.mark = none ∨ ∃ m, o.has m = true := by
    cases mark : o.mark with
    | none => exact .inl rfl
    | some k =>
      obtain ⟨m, rfl⟩ : ∃ m, k = .mark m := by
        have hk := marked k mark
        cases k with
        | mark m => exact ⟨m, rfl⟩
        | _ => cases hk
      exact .inr ⟨m, has_iff.mpr mark⟩
  unfold contribution? at h
  split_ifs at h with attached embedded mentioned plain
  · cases h
    exact .attachment attached
  · obtain ⟨v, hv, rfl⟩ := map_eq_ok h
    have read := json?_eq_ok_iff.mp hv
    rcases embedded with key | ⟨key, mark⟩
    · refine .object key ?_ read
      rcases marks with unmarked | ⟨m, mark⟩
      · exact .inl unmarked
      · have among := mark_of_braced sound (braced key) mark
        simp only [List.mem_cons, List.not_mem_nil, or_false] at among
        rcases among with rfl | rfl
        · exact absurd mark attached
        · exact .inr mark
    · exact .embed key mark read
  · obtain ⟨id, hid, rfl⟩ := map_eq_ok h
    obtain ⟨user, rfl⟩ := id?_eq_ok_iff.mp hid
    exact .mention mentioned.1 mentioned.2 user
  · cases h
    exact .line plain.1 plain.2
  · cases h
    rw [not_or] at embedded
    have written : o.key = .literal .string ∨ o.key = .literal .number := by
      cases key : o.key with
      | literal kind =>
        cases kind with
        | object => exact absurd key embedded.1
        | string => exact .inl rfl
        | number => exact .inr rfl
      | _ =>
        rw [key] at literal
        cases literal
    rcases marks with unmarked | ⟨m, mark⟩
    · exact absurd ⟨written, unmarked⟩ plain
    have numeric {m : Mark} (mark : o.has m = true)
        (other : ¬(o.key = .literal .string ∧ o.has m = true)) : o.key = .literal .number :=
      written.resolve_left fun key => other ⟨key, mark⟩
    cases m with
    | attachment => exact absurd mark attached
    | embed => exact .number (numeric mark embedded.2) (.inl mark)
    | mention => exact .number (numeric mark mentioned) (.inr mark)
    | token | guild | channel | message | user => exact .named (by decide) mark

namespace Statement

/-- The values of an unkeyed statement of a text are literals with the marks that follow them, and
those that are objects begin with a brace. -/
lemma written_value (hs : s ∈ Script.statements source) (unkeyed : s.head.kind.keysByClause = false)
    (ho : o ∈ s.values) : o.key.isLiteral = true ∧ (∀ k ∈ o.mark, k.isMark = true) ∧
      (o.key = .literal .object → o.text.toList.head? = some '{') := by
  obtain ⟨part, hpart, ho⟩ := List.mem_flatMap.mp ho
  obtain ⟨l, hl, key, hl', own⟩ := Part.leaf_of_values ho
  obtain ⟨text, htext, rfl⟩ := Leaf.operand?_eq_some_iff.mp hl'
  have sound := (sound_of_statements hs part hpart).leaf hl
  cases own unkeyed
  refine ⟨sound.literal, sound.mark, fun object => ?_⟩
  exact braced_of_object (token_written hs hpart hl) object htext

/-- A message that is sent is made of the values. -/
lemma sendMessage_of_calls? (opening : s.head.kind = .keyword .send)
    (h : s.directive.calls? listener = .ok calls) :
    ∃ body, MessageBody.ofOperands? s.values = .ok body ∧
      calls = (s.directive.selection? .send).toList ++ [.sendMessage body] := by
  replace h := Directive.openerCalls?_of_calls? .send opening h
  obtain ⟨selection, hselection, h⟩ := bind_eq_ok h
  obtain ⟨rfl, -⟩ := Directive.channelCalls?_eq_ok hselection
  split_ifs at h
  · cases h
  · obtain ⟨body, hbody, h⟩ := bind_eq_ok h
    cases h
    exact ⟨body, hbody, rfl⟩

/-- The message of a statement that compiles is made of what its values add. -/
lemma made_of_values (hs : s ∈ Script.statements source)
    (unkeyed : s.head.kind.keysByClause = false) (h : s.directive.calls? listener = .ok calls)
    {body : MessageBody} (hbody : MessageBody.ofOperands? s.values = .ok body) :
    ∃ parts, List.Forall₂ Operand.Adds s.values parts ∧ body = .made parts := by
  obtain ⟨parts, hparts, hbody⟩ := bind_eq_ok hbody
  cases hbody
  refine ⟨parts, forall₂_of_mapM_eq_ok hparts fun o ho p => ?_, MessageBody.foldl_add_eq_made parts⟩
  obtain ⟨literal, marked, braced⟩ := written_value hs unkeyed ho
  have sound := Directive.sound_of_calls? h o (List.mem_append_right _ ho)
  exact o.adds_of_contribution? literal marked sound braced

/-- No value of a message is lost, except numbers that are marked as embeds or mentions. The values
stand one behind the other in the text, each adds the one thing that its mark and its kind say, and
the message that is sent or that replaces another is made of just that, in this order. -/
theorem values_made (hs : s ∈ Script.statements source)
    (opening : s.head.kind = .keyword .send ∨ s.head.kind = .keyword .edit)
    (h : s.directive.calls? listener = .ok calls) :
    (s.values.map Operand.index).Pairwise (· < ·) ∧
      ∃ parts, (∀ ps, List.Forall₂ Operand.Adds s.values ps ↔ ps = parts) ∧
        (s.head.kind = .keyword .send →
          calls = (s.directive.selection? .send).toList ++ [.sendMessage (.made parts)]) ∧
        (s.head.kind = .keyword .edit → ∃ id, s.edited? = some id ∧
          calls = (s.directive.selection? .edit).toList ++
            [.editMessage ⟨id, .made parts⟩]) := by
  have only {ps parts : List Contribution} (adds : List.Forall₂ Operand.Adds s.values parts) :
      List.Forall₂ Operand.Adds s.values ps ↔ ps = parts :=
    ⟨fun other => Operand.adds_unique.forall₂ other adds, fun same => same ▸ adds⟩
  refine ⟨values_increasing hs, ?_⟩
  rcases opening with opening | opening
  · obtain ⟨body, hbody, rfl⟩ := sendMessage_of_calls? opening h
    obtain ⟨parts, adds, rfl⟩ := made_of_values hs (by rw [opening]; rfl) h hbody
    refine ⟨parts, fun ps => only adds, fun _ => rfl, fun other => ?_⟩
    cases opening.symm.trans other
  · obtain ⟨id, body, hid, hbody, rfl⟩ := editMessage_of_calls? opening h
    obtain ⟨parts, adds, rfl⟩ := made_of_values hs (by rw [opening]; rfl) h hbody
    refine ⟨parts, fun ps => only adds, fun other => ?_, fun _ => ⟨id, hid, rfl⟩⟩
    cases opening.symm.trans other

/-- A line, an attachment, a number that is no embed, and a mention. -/
theorem values_made_send :
    let source := "SEND 'hi' 'a.png'A 5E '382158480187811123'M IN '228666916018118541'c;"
    let parts : List Contribution :=
      [.line "hi", .attachment "a.png", .nothing, .line "<@382158480187811123>"]
    ∃ s ∈ Script.statements source, s.head.kind = .keyword .send ∧
      List.Forall₂ Operand.Adds s.values parts ∧ s.directive.calls? .discard =
        .ok [.selectChannel "228666916018118541", .sendMessage (.made parts)] := by
  intro source parts
  let s : Statement := ⟨⟨0, .keyword .send, some "SEND"⟩,
    [.leaf ⟨⟨5, .literal .string, some "hi"⟩, none⟩,
      .leaf ⟨⟨10, .literal .string, some "a.png"⟩, some (.mark .attachment)⟩,
      .leaf ⟨⟨19, .literal .number, some "5"⟩, some (.mark .embed)⟩,
      .leaf ⟨⟨22, .literal .string, some "382158480187811123"⟩, some (.mark .mention)⟩,
      .clause ⟨44, .keyword .«in», some "IN"⟩
        [⟨⟨47, .literal .string, some "228666916018118541"⟩, some (.mark .channel)⟩]]⟩
  have hs : s ∈ Script.statements source := by decide +kernel
  obtain ⟨calls, h⟩ : ∃ calls, s.directive.calls? .discard = .ok calls :=
    exists_of_isOk (by decide +kernel)
  have adds : List.Forall₂ Operand.Adds s.values parts :=
    .cons (.line (.inl rfl) rfl) (.cons (.attachment rfl) (.cons (.number rfl (.inl rfl))
      (.cons (.mention rfl rfl (by decide +kernel)) .nil)))
  obtain ⟨-, made, only, sends, -⟩ := values_made hs (.inl rfl) h
  obtain rfl := (only parts).mp adds
  rw [sends rfl] at h
  exact ⟨s, hs, rfl, adds, h⟩

/-- Numbers that are marked as embeds or mentions are lost, though they are JSON or name a user. -/
theorem marked_number_lost :
    (∃ s ∈ Script.statements "SEND 5E;",
      s.values = [⟨5, .literal .number, "5", some (.mark .embed)⟩] ∧
      (Json.read? "5").isSome = true ∧
      s.directive.calls? .discard = .ok [.sendMessage ⟨"", [], []⟩]) ∧
    ∃ s ∈ Script.statements "SEND 382158480187811123M;",
      s.values = [⟨5, .literal .number, "382158480187811123", some (.mark .mention)⟩] ∧
      isSnowflake "382158480187811123" = true ∧
      s.directive.calls? .discard = .ok [.sendMessage ⟨"", [], []⟩] := by
  constructor
  · let s : Statement := ⟨⟨0, .keyword .send, some "SEND"⟩,
      [.leaf ⟨⟨5, .literal .number, some "5"⟩, some (.mark .embed)⟩]⟩
    exact ⟨s, by decide +kernel, rfl, by decide +kernel, rfl⟩
  · let s : Statement := ⟨⟨0, .keyword .send, some "SEND"⟩,
      [.leaf ⟨⟨5, .literal .number, some "382158480187811123"⟩, some (.mark .mention)⟩]⟩
    have compiles : s.directive.calls? .discard = .ok [.sendMessage ⟨"", [], []⟩] :=
      Directive.calls?_eq_ok_iff.mpr ⟨.send, rfl, by decide +kernel, rfl⟩
    exact ⟨s, by decide +kernel, rfl, by decide +kernel, compiles⟩

end Statement

end ChatQuery
