import ChatQuery.Proofs.Compile.Bodies
import ChatQuery.Proofs.Compile.Windows

/-!
The calls of a directive, in order. What is selected comes first, and it is the target; after it come
the calls of the opening word. Only a `USE` connects and selects what its values say.
-/
namespace ChatQuery

def Call.isSelection : Call → Bool
  | .selectGuild _ | .selectChannel _ => true
  | _ => false

/-- The marks of the targets that a statement with the opening word selects. -/
def Opener.selects : Opener → List Mark
  | .listen | .fetch => [.guild, .channel]
  | .read | .delete | .send | .edit => [.channel]
  | .«show» => [.guild]
  | .use | .presence | .raw => []

namespace Operand

/-- The selection of an operand that has one of the marks. -/
def selection? (marks : List Mark) (o : Operand) : Option Call :=
  if .guild ∈ marks ∧ o.has .guild then some (.selectGuild o.text)
  else if .channel ∈ marks ∧ o.has .channel then some (.selectChannel o.text)
  else none

/-- The call that a value of a `USE` stands for, as its mark says. -/
inductive Opens (o : Operand) : Call → Prop
  | login (mark : o.has .token = true) : Opens o (.login o.text)
  | guild (mark : o.has .guild = true) : Opens o (.selectGuild o.text)
  | channel (mark : o.has .channel = true) : Opens o (.selectChannel o.text)

/-- The call that fetches a value, as its mark says. Users are members `within` a target. -/
inductive Fetches (within : Bool) (o : Operand) : Call → Prop
  | guild (mark : o.has .guild = true) : Fetches within o (.fetchGuild o.text)
  | channel (mark : o.has .channel = true) : Fetches within o (.fetchChannel o.text)
  | message (mark : o.has .message = true) :
    Fetches within o (.readChannel ⟨1, none, none, some o.text⟩)
  | member (mark : o.has .user = true) (target : within = true) :
    Fetches within o (.fetchMember o.text)
  | user (mark : o.has .user = true) (target : within = false) : Fetches within o (.fetchUser o.text)

lemma selects_nothing_of_fetches {within : Bool} {os : List Operand} {calls : List Call}
    (h : List.Forall₂ (Fetches within) os calls) : ∀ c ∈ calls, c.isSelection = false := by
  induction h with
  | nil => exact List.forall_mem_nil _
  | cons fetches _ ih => exact List.forall_mem_cons.mpr ⟨by cases fetches <;> rfl, ih⟩

end Operand

namespace Directive

/-- The selection of the target, where the opening word selects targets with its mark. -/
def selection? (d : Directive) (opener : Opener) : Option Call :=
  d.target.bind (Operand.selection? opener.selects)

/-- The values of a deletion that name a message. -/
def doomed (d : Directive) : List Operand := d.values.filter fun o => !o.isAnchor && o.has .message

/-- The calls that come after the selection, one row or more for each opening word but `USE`. -/
inductive Works (listener : Listener) (d : Directive) : Opener → List Call → Prop
  | listenClient (unselected : d.selection? .listen = none) :
    Works listener d .listen [.listenClient ⟨listener, d.events⟩]
  | listenGuild {id : String} (selected : d.selection? .listen = some (.selectGuild id)) :
    Works listener d .listen [.listenGuild ⟨listener, d.events⟩]
  | listenChannel {id : String} (selected : d.selection? .listen = some (.selectChannel id)) :
    Works listener d .listen [.listenChannel ⟨listener, d.events⟩]
  | fetch {calls : List Call}
    (each : List.Forall₂ (Operand.Fetches d.target.isSome) d.values calls) :
    Works listener d .fetch calls
  | read (window : Window) : Works listener d .read [.readChannel window]
  | delete (window : Window) :
    Works listener d .delete (d.doomed.map (fun o => .deleteMessage o.text) ++
      if d.values.any (·.key = .keyword .limit) then [.deleteMessages window] else [])
  | send {body : MessageBody} (conveys : body.Conveys d.values) :
    Works listener d .send [.sendMessage body]
  | edit (id : String) {body : MessageBody} (conveys : body.Conveys d.values) :
    Works listener d .edit [.editMessage ⟨id, body⟩]
  | showGuild {id : String} (selected : d.selection? .«show» = some (.selectGuild id)) :
    Works listener d .«show» [.showChannels none, .showMembers none]
  | showGuilds (unselected : d.selection? .«show» = none) :
    Works listener d .«show» [.showGuilds none]
  | presence {o : Operand} {v : Json} (only : d.values = [o]) (object : o.key = .literal .object)
    (read : Json.read? o.text = some v) : Works listener d .presence [.updatePresence v]
  | ignored (other : ∀ o, d.values = [o] → o.key ≠ .literal .object) : Works listener d .presence []
  | raw : Works listener d .raw []

variable {listener : Listener} {d : Directive} {opener : Opener} {calls work : List Call}
  {o : Operand} {c : Call}

/-- What comes after the selection selects nothing. -/
lemma Works.selects_nothing (h : Works listener d opener work) :
    ∀ c ∈ work, c.isSelection = false := by
  cases h with
  | fetch each => exact Operand.selects_nothing_of_fetches each
  | delete window =>
    simp only [List.forall_mem_append, List.forall_mem_map]
    refine ⟨fun _ _ => rfl, ?_⟩
    split_ifs <;> simp [Call.isSelection]
  | _ => simp [Call.isSelection]

/-- The calls of a directive come in the order of its opening word. -/
structure InOrder (listener : Listener) (d : Directive) (opener : Opener) (calls : List Call) :
    Prop where
  split : ∃ work, calls = (d.selection? opener).toList ++ work ∧ Works listener d opener work
  aimed : opener ∈ [.listen, .fetch, .delete, .send] → d.target.isSome = true →
    (d.selection? opener).isSome = true

section Selections

lemma selection?_of_target {t : Operand} (target : d.target = some t) (opener : Opener) :
    d.selection? opener = t.selection? opener.selects := by
  rw [selection?, target]
  rfl

lemma selection?_eq_some (h : d.selection? opener = some c) :
    (∃ id, c = .selectGuild id) ∨ ∃ id, c = .selectChannel id := by
  obtain ⟨t, -, ht⟩ := Option.bind_eq_some_iff.mp h
  unfold Operand.selection? at ht
  split_ifs at ht <;> cases ht
  · exact .inl ⟨_, rfl⟩
  · exact .inr ⟨_, rfl⟩

/-- A target that must be a channel is selected. -/
lemma channelCalls?_eq_ok_iff : d.channelCalls? = .ok calls ↔
    (∀ t ∈ d.target, t.has .channel = true ∧ isSnowflake t.text = true) ∧
      calls = (d.target.map fun t => .selectChannel t.text).toList := by
  unfold channelCalls?
  cases d.target with
  | none => simp
  | some t =>
    unfold Operand.id?
    dsimp only
    split_ifs with channel snowflake
    · simp [Except.map, channel, snowflake, eq_comm (a := calls)]
    · simp [Except.map, snowflake]
    · simp [channel]

lemma channelCalls?_eq_ok (h : d.channelCalls? = .ok calls) :
    calls = (d.target.bind (Operand.selection? [.channel])).toList ∧
      (d.target.isSome = true →
        (d.target.bind (Operand.selection? [.channel])).isSome = true) := by
  obtain ⟨sound, rfl⟩ := channelCalls?_eq_ok_iff.mp h
  cases target : d.target with
  | none => exact ⟨rfl, nofun⟩
  | some t => simp [Operand.selection?, (sound t target).1]

lemma scopeCalls?_eq_ok {k : Keyword} (h : d.scopeCalls? k = .ok calls) :
    calls = (d.target.bind (Operand.selection? [.guild, .channel])).toList ∧
      (d.target.isSome = true →
        (d.target.bind (Operand.selection? [.guild, .channel])).isSome = true) := by
  unfold scopeCalls? at h
  cases target : d.target with
  | none =>
    rw [target] at h
    cases h
    exact ⟨rfl, nofun⟩
  | some t =>
    rw [target] at h
    dsimp only at h
    split_ifs at h with guild channel
    · obtain rfl := Operand.eq_of_map_id? h
      simp [Operand.selection?, guild]
    · obtain rfl := Operand.eq_of_map_id? h
      simp [Operand.selection?, guild, channel]

end Selections

lemma listenCalls?_inOrder (h : d.listenCalls? listener = .ok calls) :
    d.InOrder listener .listen calls := by
  obtain ⟨selection, hselection, h⟩ := bind_eq_ok h
  obtain ⟨hselection, aimed⟩ := scopeCalls?_eq_ok hselection
  change selection = (d.selection? .listen).toList at hselection
  cases h
  refine ⟨⟨_, congrArg (· ++ _) hselection, ?_⟩, fun _ => aimed⟩
  rw [hselection]
  cases selected : d.selection? .listen with
  | none => exact .listenClient selected
  | some c =>
    rcases selection?_eq_some selected with ⟨id, rfl⟩ | ⟨id, rfl⟩
    · exact .listenGuild selected
    · exact .listenChannel selected

lemma fetchCall?_eq_ok (h : d.fetchCall? o = .ok c) : o.Fetches d.target.isSome c := by
  unfold fetchCall? at h
  split_ifs at h with guild channel message user target
  · obtain rfl := Operand.eq_of_map_id? h
    exact .guild guild
  · obtain rfl := Operand.eq_of_map_id? h
    exact .channel channel
  · obtain rfl := Operand.eq_of_map_id? h
    exact .message message
  · obtain rfl := Operand.eq_of_map_id? h
    exact .member user target
  · obtain rfl := Operand.eq_of_map_id? h
    exact .user user (eq_false_of_ne_true target)

lemma fetchCalls?_inOrder (h : d.fetchCalls? = .ok calls) : d.InOrder listener .fetch calls := by
  obtain ⟨selection, hselection, h⟩ := bind_eq_ok h
  obtain ⟨hselection, aimed⟩ := scopeCalls?_eq_ok hselection
  split_ifs at h
  · cases h
  · obtain ⟨fetched, hfetched, h⟩ := bind_eq_ok h
    cases h
    refine ⟨⟨fetched, congrArg (· ++ fetched) hselection, .fetch ?_⟩, fun _ => aimed⟩
    exact forall₂_of_mapM_eq_ok hfetched fun _ _ _ => fetchCall?_eq_ok

lemma selection_of_read {t : Operand} (target : d.target = some t) :
    (if t.has .channel then [.selectChannel t.text] else []) = (d.selection? .read).toList := by
  rw [selection?_of_target target]
  split_ifs with channel <;> simp [Operand.selection?, Opener.selects, channel]

lemma readCalls?_inOrder (h : d.readCalls? = .ok calls) : d.InOrder listener .read calls := by
  obtain ⟨t, target, -, -, -, rfl⟩ := readCalls?_eq_ok_iff.mp h
  exact ⟨⟨_, congrArg (· ++ _) (selection_of_read target), .read _⟩, nofun⟩

lemma deleteCalls?_inOrder (h : d.deleteCalls? = .ok calls) : d.InOrder listener .delete calls := by
  obtain ⟨selection, hselection, -, rfl⟩ := deleteCalls?_eq_ok_iff.mp h
  obtain ⟨hselection, aimed⟩ := channelCalls?_eq_ok hselection
  exact ⟨⟨_, congrArg (· ++ _) hselection, .delete _⟩, fun _ => aimed⟩

lemma sendCalls?_inOrder (h : d.sendCalls? = .ok calls) : d.InOrder listener .send calls := by
  obtain ⟨selection, hselection, h⟩ := bind_eq_ok h
  obtain ⟨hselection, aimed⟩ := channelCalls?_eq_ok hselection
  split_ifs at h
  · cases h
  · obtain ⟨body, hbody, h⟩ := bind_eq_ok h
    cases h
    exact ⟨⟨_, congrArg (· ++ _) hselection, .send (MessageBody.conveys_of_ofOperands? hbody)⟩,
      fun _ => aimed⟩

/-- A channel target is selected, and a message target names the message. -/
lemma editTarget?_eq_ok {selection : List Call} {named : Option String}
    (h : d.editTarget? = .ok (selection, named)) : selection = (d.selection? .edit).toList ∧
      named = (d.target.filter (·.has .message)).map Operand.text := by
  unfold editTarget? at h
  cases target : d.target with
  | none =>
    rw [target] at h
    cases h
    rw [selection?, target]
    exact ⟨rfl, rfl⟩
  | some t =>
    rw [target] at h
    rw [selection?_of_target target]
    dsimp only at h
    split_ifs at h with channel message
    · cases Operand.eq_of_map_id? h
      have other : t.has .message = false := by
        rw [Operand.has, Operand.has_iff.mp channel]
        rfl
      simp [Operand.selection?, Opener.selects, channel, Option.filter, other]
    · cases Operand.eq_of_map_id? h
      simp [Operand.selection?, Opener.selects, channel, Option.filter, message]

lemma editCalls?_inOrder (h : d.editCalls? = .ok calls) : d.InOrder listener .edit calls := by
  obtain ⟨⟨selection, named⟩, htarget, h⟩ := bind_eq_ok h
  obtain ⟨id, -, h⟩ := bind_eq_ok h
  obtain ⟨body, hbody, h⟩ := bind_eq_ok h
  cases h
  obtain ⟨selected, -⟩ := editTarget?_eq_ok htarget
  exact ⟨⟨_, congrArg (· ++ _) selected, .edit id (MessageBody.conveys_of_ofOperands? hbody)⟩,
    nofun⟩

lemma showCalls?_inOrder (h : d.showCalls? = .ok calls) : d.InOrder listener .«show» calls := by
  have listed (unselected : d.selection? .«show» = none) :
      ∃ work, [.showGuilds none] = (d.selection? .«show»).toList ++ work ∧
        Works listener d .«show» work := by
    rw [unselected]
    exact ⟨_, rfl, .showGuilds unselected⟩
  refine ⟨?_, nofun⟩
  unfold showCalls? at h
  cases target : d.target with
  | none =>
    rw [target] at h
    cases h
    exact listed (by rw [selection?, target]; rfl)
  | some t =>
    have ofTarget := selection?_of_target target .«show»
    rw [target] at h
    dsimp only at h
    split_ifs at h with guild
    · obtain rfl := Operand.eq_of_map_id? h
      have selected : d.selection? .«show» = some (.selectGuild t.text) := by
        simp [ofTarget, Operand.selection?, Opener.selects, guild]
      rw [selected]
      exact ⟨_, rfl, .showGuild selected⟩
    · cases h
      exact listed (by simp [ofTarget, Operand.selection?, Opener.selects, guild])

lemma presenceCalls?_inOrder (h : d.presenceCalls? = .ok calls) :
    d.InOrder listener .presence calls := by
  have unselected : d.selection? .presence = none := by
    unfold selection?
    cases d.target <;> rfl
  refine ⟨⟨calls, by rw [unselected]; rfl, ?_⟩, nofun⟩
  unfold presenceCalls? presence? at h
  split at h
  · next o ho =>
    split at ho
    · next o' only =>
      split_ifs at ho with object
      cases ho
      obtain ⟨v, hv, rfl⟩ := map_eq_ok h
      exact .presence only object (Operand.json?_eq_ok_iff.mp hv)
    · cases ho
  · next none =>
    cases h
    refine .ignored fun o only object => ?_
    simp [only, object] at none

lemma inOrder_of_openerCalls? (h : d.openerCalls? listener opener = .ok calls)
    (other : opener ≠ .use) : d.InOrder listener opener calls := by
  cases opener with
  | use => exact absurd rfl other
  | listen => exact listenCalls?_inOrder h
  | fetch => exact fetchCalls?_inOrder h
  | read => exact readCalls?_inOrder h
  | delete => exact deleteCalls?_inOrder h
  | send => exact sendCalls?_inOrder h
  | edit => exact editCalls?_inOrder h
  | «show» => exact showCalls?_inOrder h
  | presence => exact presenceCalls?_inOrder h
  | raw =>
    cases h
    refine ⟨⟨[], ?_, .raw⟩, nofun⟩
    unfold selection?
    cases d.target <;> rfl

section Use

lemma useCall?_eq_ok (h : useCall? o = .ok c) : o.Opens c := by
  unfold useCall? at h
  split_ifs at h with login token guild channel
  · cases h
    exact .login login
  · obtain rfl := Operand.eq_of_map_id? h
    exact .guild guild
  · obtain rfl := Operand.eq_of_map_id? h
    exact .channel channel

lemma useCalls?_eq_ok_iff :
    d.useCalls? = .ok calls ↔ d.values ≠ [] ∧ d.values.mapM useCall? = .ok calls := by
  unfold useCalls?
  split_ifs with empty
  · simp_all [refuse]
  · simp_all

/-- A `USE` of some of the values of a `USE` that compiles compiles as well. -/
lemma calls?_of_useCalls? {e : Directive} (opening : e.head.key = .keyword .use)
    (sound : ∀ o ∈ d.operands, o.fault? = none) (values : ∀ o ∈ e.values, o ∈ d.values)
    (target : ∀ t ∈ e.target, t ∈ d.operands) (some_value : e.values ≠ [])
    (h : e.values.mapM useCall? = .ok calls) : e.calls? listener = .ok calls := by
  refine calls?_eq_ok_iff.mpr ⟨.use, opening, ?_, useCalls?_eq_ok_iff.mpr ⟨some_value, h⟩⟩
  intro o ho
  rcases List.mem_append.mp ho with ho | ho
  · exact sound o (target o (Option.mem_toList.mp ho))
  · exact sound o (List.mem_append_right _ (values o ho))

end Use

/-- The calls of a directive that compiles. A `USE` connects and selects what its values say, each
with one call and in their order, and can be cut in two between any of its values. Every other
directive selects its target first, where its opening word selects targets with that mark, and then
come the calls of its row, none of which selects anything; a target of `LISTEN`, `FETCH`, `DELETE`
or `SEND` is always selected. -/
theorem calls_ordered (h : d.calls? listener = .ok calls) :
    ∃ opener : Opener, d.head.key = .keyword opener.keyword ∧
      (opener = .use → List.Forall₂ Operand.Opens d.values calls ∧
        ∀ first second : Directive,
          first.head.key = .keyword .use → second.head.key = .keyword .use →
          first.values ≠ [] → second.values ≠ [] → d.values = first.values ++ second.values →
          (∀ t ∈ first.target, t ∈ d.operands) → (∀ t ∈ second.target, t ∈ d.operands) →
          ∃ p q, first.calls? listener = .ok p ∧ second.calls? listener = .ok q ∧
            calls = p ++ q) ∧
      (opener ≠ .use → ∃ work, calls = (d.selection? opener).toList ++ work ∧
        (∀ c ∈ work, c.isSelection = false) ∧ Works listener d opener work ∧
        (opener ∈ [.listen, .fetch, .delete, .send] → d.target.isSome = true →
          (d.selection? opener).isSome = true)) := by
  obtain ⟨opener, opening, sound, hcalls⟩ := calls?_eq_ok_iff.mp h
  refine ⟨opener, opening, ?_, ?_⟩
  · rintro rfl
    obtain ⟨-, each⟩ := useCalls?_eq_ok_iff.mp hcalls
    refine ⟨forall₂_of_mapM_eq_ok each fun _ _ _ => useCall?_eq_ok, ?_⟩
    intro first second opening₁ opening₂ some₁ some₂ cut target₁ target₂
    rw [cut, List.mapM_append] at each
    obtain ⟨p, hp, each⟩ := bind_eq_ok each
    obtain ⟨q, hq, each⟩ := bind_eq_ok each
    cases each
    have values₁ : ∀ o ∈ first.values, o ∈ d.values := fun o ho =>
      cut ▸ List.mem_append_left _ ho
    have values₂ : ∀ o ∈ second.values, o ∈ d.values := fun o ho =>
      cut ▸ List.mem_append_right _ ho
    exact ⟨p, q, calls?_of_useCalls? opening₁ sound values₁ target₁ some₁ hp,
      calls?_of_useCalls? opening₂ sound values₂ target₂ some₂ hq, rfl⟩
  · intro other
    obtain ⟨⟨work, split, works⟩, aimed⟩ := inOrder_of_openerCalls? hcalls other
    exact ⟨work, split, works.selects_nothing, works, aimed⟩

/-- Users are fetched as members of the guild that the target names. -/
theorem calls_ordered_fetch :
    let id := "228666916018118541"
    let d : Directive := ⟨⟨0, .keyword .fetch, "FETCH", none⟩,
      some ⟨6, .literal .string, id, some (.mark .guild)⟩,
      [⟨27, .literal .string, id, some (.mark .user)⟩,
        ⟨48, .literal .string, id, some (.mark .message)⟩]⟩
    ∃ calls, d.calls? .discard = .ok calls ∧
      calls = [.selectGuild id, .fetchMember id, .readChannel ⟨1, none, none, some id⟩] := by
  intro id d
  obtain ⟨calls, h⟩ : ∃ calls, d.calls? .discard = .ok calls := exists_of_isOk (by decide +kernel)
  refine ⟨calls, h, ?_⟩
  obtain ⟨opener, opening, -, ordered⟩ := calls_ordered h
  obtain rfl : opener = .fetch := by cases opener <;> first | rfl | cases opening
  obtain ⟨work, rfl, -, works, -⟩ := ordered nofun
  cases works with
  | fetch each =>
    obtain - | ⟨member, - | ⟨message, - | -⟩⟩ := each
    cases member <;> cases message <;> first | rfl | contradiction

end Directive

/-- The calls of statements that do not flip the raw flag stand in the order of the statements. -/
lemma Script.ofDirectives?_eq_ok_iff {listener : Listener} {ds : List Directive} {p : Script}
    (unflipped : ∀ d ∈ ds, d.head.key ≠ .keyword .raw) : ofDirectives? listener ds = .ok p ↔
      ∃ css, ds.mapM (Directive.calls? listener) = .ok css ∧ p = ⟨css.flatten, 0⟩ := by
  have compiled (d : Directive) (hd : d ∈ ds) : isToggle d = false :=
    decide_eq_false (unflipped d hd)
  have all : ds.filter (!isToggle ·) = ds :=
    List.filter_eq_self.mpr fun d hd => by simp [compiled d hd]
  have none : ds.countP isToggle = 0 :=
    List.countP_eq_zero.mpr fun d hd => by simp [compiled d hd]
  unfold ofDirectives?
  rw [all, none]
  constructor
  · intro h
    obtain ⟨css, hcss, h⟩ := bind_eq_ok h
    cases h
    exact ⟨css, hcss, rfl⟩
  · rintro ⟨css, hcss, rfl⟩
    rw [hcss]
    rfl

end ChatQuery
