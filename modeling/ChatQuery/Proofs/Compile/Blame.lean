import ChatQuery.Proofs.Compile.Order
import ChatQuery.Proofs.Script.Identifiers

/-!
What a directive is refused for. Malformed operands are blamed before anything else, and of these the
leftmost is. Once none is malformed no token and no identifier is refused any more, but for the
anchors of a window, which are identifiers whether or not they are marked.
-/
namespace ChatQuery

variable {listener : Listener} {d : Directive} {opener : Opener} {o : Operand} {m : Mark}
  {e : Diagnostic}

namespace Operand

/-- The operand is marked as a token or as an identifier and is none. It is blamed for its mark, and
a mention for naming no user. -/
inductive Malformed (o : Operand) : Mark → Prop
  | token (mark : o.has .token = true) (text : isBotToken o.text = false) : Malformed o .token
  | identifier {m : Mark} (identifies : m.identifies = true) (mark : o.has m = true)
    (text : isSnowflake o.text = false) : Malformed o m
  | mention (mark : o.has .mention = true) (text : isSnowflake o.text = false) : Malformed o .user

lemma fault?_eq_some_iff : o.fault? = some e ↔ ∃ m, o.Malformed m ∧ e = ⟨o.index, .mark m⟩ := by
  constructor
  · intro h
    unfold fault? at h
    split at h
    · next mark =>
      split_ifs at h with text
      cases h
      exact ⟨.token, .token (has_iff.mpr mark) (eq_false_of_ne_true text), rfl⟩
    · next mark =>
      split_ifs at h with text
      cases h
      exact ⟨.user, .mention (has_iff.mpr mark) (eq_false_of_ne_true text), rfl⟩
    · cases h
    · cases h
    · next m token mention attachment embed mark =>
      split_ifs at h with text
      cases h
      refine ⟨m, .identifier ?_ (has_iff.mpr mark) (eq_false_of_ne_true text), rfl⟩
      cases m with
      | guild | channel | message | user => rfl
      | token => exact absurd rfl token
      | mention => exact absurd rfl mention
      | attachment => exact absurd rfl attachment
      | embed => exact absurd rfl embed
    · cases h
  · rintro ⟨m, malformed, rfl⟩
    cases malformed with
    | token mark text => simp [fault?, has_iff.mp mark, text]
    | identifier identifies mark text =>
      cases m with
      | guild | channel | message | user => simp [fault?, has_iff.mp mark, text]
      | token | attachment | embed | mention => cases identifies
    | mention mark text => simp [fault?, has_iff.mp mark, text]

lemma fault?_eq_none_iff : o.fault? = none ↔ ∀ m, ¬ o.Malformed m := by
  rw [Option.eq_none_iff_forall_ne_some]
  simp only [ne_eq, fault?_eq_some_iff, not_exists, not_and]
  exact ⟨fun h m malformed => h _ m malformed rfl, fun h e m malformed => absurd malformed (h m)⟩

lemma id?_eq_error (h : o.id? m = .error e) :
    isSnowflake o.text = false ∧ e = ⟨o.index, .mark m⟩ := by
  unfold id? at h
  split_ifs at h with text
  cases h
  exact ⟨eq_false_of_ne_true text, rfl⟩

lemma json?_eq_error (h : o.json? = .error e) :
    Json.read? o.text = none ∧ e = ⟨o.index, .literal .object⟩ := by
  unfold json? at h
  split at h
  · cases h
  · next unread =>
    cases h
    exact ⟨unread, rfl⟩

lemma limit?_eq_error (h : o.limit? = .error e) : e = ⟨o.index, .literal .number⟩ := by
  unfold limit? at h
  dsimp only at h
  split_ifs at h
  cases h
  rfl

/-- No identifier is refused of an operand that is marked as one and is not malformed. -/
lemma map_id?_ne_error {α : Type} {make : String → α} (sound : ∀ n, ¬ o.Malformed n)
    (identifies : m.identifies = true) (mark : o.has m = true) :
    (o.id? m).map make ≠ .error e := by
  unfold id?
  split_ifs with text
  · nofun
  · exact absurd (.identifier identifies mark (eq_false_of_ne_true text)) (sound m)

end Operand

namespace Diagnostic

/-- The leftmost of some diagnostics: those before it are further right, those after it are not
further left. -/
lemma leftmost?_eq_some {ds : List Diagnostic} (h : leftmost? ds = some e) :
    ∃ before after, ds = before ++ e :: after ∧ (∀ d ∈ before, e.index < d.index) ∧
      ∀ d ∈ after, e.index ≤ d.index := by
  induction ds generalizing e with
  | nil => cases h
  | cons d ds ih =>
    unfold leftmost? at h
    cases rest : leftmost? ds with
    | none =>
      rw [rest] at h
      cases h
      rw [leftmost?_eq_none.mp rest]
      exact ⟨[], [], rfl, List.forall_mem_nil _, List.forall_mem_nil _⟩
    | some f =>
      rw [rest] at h
      obtain ⟨before, after, rfl, hbefore, hafter⟩ := ih rest
      dsimp only at h
      split_ifs at h with further
      · cases h
        exact ⟨d :: before, after, rfl, List.forall_mem_cons.mpr ⟨further, hbefore⟩, hafter⟩
      · cases h
        have place : d.index ≤ f.index := Nat.le_of_not_lt further
        refine ⟨[], _, rfl, List.forall_mem_nil _, ?_⟩
        refine List.forall_mem_append.mpr ⟨?_, List.forall_mem_cons.mpr ⟨place, ?_⟩⟩
        · intro g hg
          exact Nat.le_trans place (Nat.le_of_lt (hbefore g hg))
        · intro g hg
          exact Nat.le_trans place (hafter g hg)

end Diagnostic

namespace Directive

/-- The first of the malformed operands that stand leftmost: it is blamed for the mark. -/
structure Blames (d : Directive) (before : List Operand) (o : Operand) (after : List Operand)
    (m : Mark) : Prop where
  operands : d.operands = before ++ o :: after
  malformed : o.Malformed m
  first : ∀ p ∈ before, ∀ n, p.Malformed n → o.index < p.index
  leftmost : ∀ p ∈ after, ∀ n, p.Malformed n → o.index ≤ p.index

lemma blames_of_fault? (h : d.fault? = some e) :
    ∃ before o after m, d.Blames before o after m ∧ e = ⟨o.index, .mark m⟩ := by
  obtain ⟨ds, es, split, hbefore, hafter⟩ := Diagnostic.leftmost?_eq_some h
  obtain ⟨before, rest, operands, rfl, hrest⟩ := List.filterMap_eq_append_iff.mp split
  obtain ⟨silent, o, after, rfl, quiet, fault, rfl⟩ := List.filterMap_eq_cons_iff.mp hrest
  obtain ⟨m, malformed, rfl⟩ := Operand.fault?_eq_some_iff.mp fault
  refine ⟨before ++ silent, o, after, m, ⟨?_, malformed, ?_, ?_⟩, rfl⟩
  · rw [operands, List.append_assoc]
  · intro p hp n bad
    have blamed := Operand.fault?_eq_some_iff.mpr ⟨n, bad, rfl⟩
    rcases List.mem_append.mp hp with hp | hp
    · exact hbefore _ (List.mem_filterMap.mpr ⟨p, hp, blamed⟩)
    · cases (quiet p hp).symm.trans blamed
  · intro p hp n bad
    have blamed := Operand.fault?_eq_some_iff.mpr ⟨n, bad, rfl⟩
    exact hafter _ (List.mem_filterMap.mpr ⟨p, hp, blamed⟩)

/-- What the opening word finds fault with in a directive without malformed operands. Only an anchor
of a window is still asked for an identifier. -/
inductive Objection (d : Directive) : Opener → Diagnostic → Prop
  | empty {opener : Opener} (among : opener ∈ [.use, .fetch, .send]) (none : d.values = []) :
    Objection d opener ⟨d.head.index, .keyword opener.keyword⟩
  | untargeted (none : d.target = none) : Objection d .read ⟨d.head.index, .keyword .read⟩
  | unasked {t : Operand} (target : d.target = some t) (none : d.values = []) :
    Objection d .read ⟨t.index, .keyword .read⟩
  | unnamed (target : ∀ t ∈ d.target, t.has .message = false)
    (values : ∀ o ∈ d.values, o.has .message = false) :
    Objection d .edit ⟨d.head.index, .keyword .edit⟩
  | scope {opener : Opener} {t : Operand} (among : opener ∈ [.listen, .fetch])
    (target : d.target = some t) (other : t.has .guild = false ∧ t.has .channel = false) :
    Objection d opener ⟨t.index, .keyword opener.keyword⟩
  | channel {opener : Opener} {t : Operand} (among : opener ∈ [.delete, .send])
    (target : d.target = some t) (other : t.has .channel = false) :
    Objection d opener ⟨t.index, .mark .channel⟩
  | message {t : Operand} (target : d.target = some t)
    (other : t.has .channel = false ∧ t.has .message = false) :
    Objection d .edit ⟨t.index, .mark .message⟩
  | opened {o : Operand} (value : o ∈ d.values)
    (other : ∀ m ∈ [.token, .guild, .channel], o.has m = false) :
    Objection d .use ⟨o.index, .keyword .use⟩
  | fetched {o : Operand} (value : o ∈ d.values)
    (other : ∀ m ∈ [.guild, .channel, .message, .user], o.has m = false) :
    Objection d .fetch ⟨o.index, .keyword .fetch⟩
  | json {opener : Opener} {o : Operand} (among : opener ∈ [.send, .edit, .presence])
    (value : o ∈ d.values) (unread : Json.read? o.text = none) :
    Objection d opener ⟨o.index, .literal .object⟩
  | limit {opener : Opener} {o : Operand} (among : opener ∈ [.read, .delete])
    (value : o ∈ d.values) (key : o.key = .keyword .limit) (refused : ∀ n, o.limit? ≠ .ok n) :
    Objection d opener ⟨o.index, .literal .number⟩
  | anchor {opener : Opener} {o : Operand} (among : opener ∈ [.read, .delete])
    (value : o ∈ d.values) (key : o.key ∈ [.keyword .before, .keyword .after, .keyword .around])
    (text : isSnowflake o.text = false) : Objection d opener ⟨o.index, .mark .message⟩

section Objections

variable (sound : ∀ o ∈ d.operands, ∀ n, ¬ o.Malformed n)

include sound

lemma sound_of_target {t : Operand} (target : d.target = some t) : ∀ n, ¬ t.Malformed n :=
  sound t (List.mem_append_left _ (Option.mem_toList.mpr target))

lemma sound_of_value (value : o ∈ d.values) : ∀ n, ¬ o.Malformed n :=
  sound o (List.mem_append_right _ value)

lemma channelCalls?_objection (among : opener ∈ [.delete, .send]) (h : d.channelCalls? = .error e) :
    d.Objection opener e := by
  unfold channelCalls? at h
  cases target : d.target with
  | none =>
    rw [target] at h
    cases h
  | some t =>
    rw [target] at h
    dsimp only at h
    split_ifs at h with channel
    · exact absurd h (Operand.map_id?_ne_error (sound_of_target sound target) rfl channel)
    · cases h
      exact .channel among target (eq_false_of_ne_true channel)

lemma scopeCalls?_objection (among : opener ∈ [.listen, .fetch])
    (h : d.scopeCalls? opener.keyword = .error e) : d.Objection opener e := by
  unfold scopeCalls? at h
  cases target : d.target with
  | none =>
    rw [target] at h
    cases h
  | some t =>
    have sound := sound_of_target sound target
    rw [target] at h
    dsimp only at h
    split_ifs at h with guild channel
    · exact absurd h (Operand.map_id?_ne_error sound rfl guild)
    · exact absurd h (Operand.map_id?_ne_error sound rfl channel)
    · cases h
      exact .scope among target ⟨eq_false_of_ne_true guild, eq_false_of_ne_true channel⟩

lemma useCalls?_objection (h : d.useCalls? = .error e) : d.Objection .use e := by
  unfold useCalls? at h
  split_ifs at h with none
  · cases h
    exact .empty (by decide) (List.isEmpty_iff.mp none)
  · obtain ⟨o, value, h⟩ := exists_of_mapM_eq_error h
    have sound := sound_of_value sound value
    unfold useCall? at h
    split_ifs at h with token text guild channel
    · exact absurd (.token token (eq_false_of_ne_true text)) (sound .token)
    · exact absurd h (Operand.map_id?_ne_error sound rfl guild)
    · exact absurd h (Operand.map_id?_ne_error sound rfl channel)
    · cases h
      refine .opened value ?_
      simp [token, guild, channel]

lemma listenCalls?_objection (h : d.listenCalls? listener = .error e) : d.Objection .listen e := by
  rcases bind_eq_error h with h | ⟨selection, -, h⟩
  · exact scopeCalls?_objection sound (by decide) h
  · cases h

lemma fetchCalls?_objection (h : d.fetchCalls? = .error e) : d.Objection .fetch e := by
  rcases bind_eq_error h with h | ⟨selection, -, h⟩
  · exact scopeCalls?_objection sound (by decide) h
  split_ifs at h with none
  · cases h
    exact .empty (by decide) (List.isEmpty_iff.mp none)
  rcases bind_eq_error h with h | ⟨calls, -, h⟩
  · obtain ⟨o, value, h⟩ := exists_of_mapM_eq_error h
    have sound := sound_of_value sound value
    unfold fetchCall? at h
    split_ifs at h with guild channel message user within
    · exact absurd h (Operand.map_id?_ne_error sound rfl guild)
    · exact absurd h (Operand.map_id?_ne_error sound rfl channel)
    · exact absurd h (Operand.map_id?_ne_error sound rfl message)
    · exact absurd h (Operand.map_id?_ne_error sound rfl user)
    · exact absurd h (Operand.map_id?_ne_error sound rfl user)
    · cases h
      refine .fetched value ?_
      simp [guild, channel, message, user]
  · cases h

omit sound in
lemma fill?_objection {w : Window} (among : opener ∈ [.read, .delete]) (value : o ∈ d.values)
    (h : w.fill? o = .error e) : d.Objection opener e := by
  have anchor (key : o.key ∈ [.keyword .before, .keyword .after, .keyword .around])
      (h : o.id? .message = .error e) : d.Objection opener e := by
    obtain ⟨text, rfl⟩ := Operand.id?_eq_error h
    exact .anchor among value key text
  unfold Window.fill? at h
  split at h
  · next key =>
    have h := eq_error_of_map h
    obtain rfl := Operand.limit?_eq_error h
    refine .limit among value key ?_
    rw [h]
    nofun
  · next key => exact anchor (by simp [key]) (eq_error_of_map h)
  · next key => exact anchor (by simp [key]) (eq_error_of_map h)
  · next key => exact anchor (by simp [key]) (eq_error_of_map h)
  · cases h

lemma readCalls?_objection (h : d.readCalls? = .error e) : d.Objection .read e := by
  cases target : d.target with
  | none =>
    rw [readCalls?, target] at h
    cases h
    exact .untargeted target
  | some t =>
    rw [readCalls?_eq target] at h
    rcases bind_eq_error h with h | ⟨selection, -, h⟩
    · split_ifs at h with channel
      exact absurd h (Operand.map_id?_ne_error (sound_of_target sound target) rfl channel)
    split_ifs at h with none
    · cases h
      exact .unasked target (List.isEmpty_iff.mp none)
    rcases bind_eq_error h with h | ⟨window, -, h⟩
    · obtain ⟨o, value, w, h⟩ := exists_of_foldlM_eq_error h
      exact fill?_objection (by decide) value h
    · cases h

lemma deleteCalls?_objection (h : d.deleteCalls? = .error e) : d.Objection .delete e := by
  rcases bind_eq_error h with h | ⟨selection, -, h⟩
  · exact channelCalls?_objection sound (by decide) h
  rcases bind_eq_error h with h | ⟨state, -, h⟩
  · obtain ⟨o, value, state, h⟩ := exists_of_foldlM_eq_error h
    unfold deleteStep? at h
    split_ifs at h with anchor message
    · exact fill?_objection (by decide) value (eq_error_of_map h)
    · exact absurd h (Operand.map_id?_ne_error (sound_of_value sound value) rfl message)
  · cases h

lemma body_objection (among : opener ∈ [.send, .edit])
    (h : MessageBody.ofOperands? d.values = .error e) : d.Objection opener e := by
  rcases bind_eq_error h with h | ⟨parts, -, h⟩
  · obtain ⟨o, value, h⟩ := exists_of_mapM_eq_error h
    unfold Operand.contribution? at h
    split_ifs at h with attached embedded mentioned plain
    · obtain ⟨unread, rfl⟩ := Operand.json?_eq_error (eq_error_of_map h)
      exact .json (by simp at among ⊢; tauto) value unread
    · obtain ⟨text, rfl⟩ := Operand.id?_eq_error (eq_error_of_map h)
      exact absurd (.mention mentioned.2 text) (sound_of_value sound value .user)
  · cases h

lemma sendCalls?_objection (h : d.sendCalls? = .error e) : d.Objection .send e := by
  rcases bind_eq_error h with h | ⟨selection, -, h⟩
  · exact channelCalls?_objection sound (by decide) h
  split_ifs at h with none
  · cases h
    exact .empty (by decide) (List.isEmpty_iff.mp none)
  rcases bind_eq_error h with h | ⟨body, -, h⟩
  · exact body_objection sound (by decide) h
  · cases h

lemma editTarget?_objection (h : d.editTarget? = .error e) : d.Objection .edit e := by
  unfold editTarget? at h
  cases target : d.target with
  | none =>
    rw [target] at h
    cases h
  | some t =>
    have sound := sound_of_target sound target
    rw [target] at h
    dsimp only at h
    split_ifs at h with channel message
    · exact absurd h (Operand.map_id?_ne_error sound rfl channel)
    · exact absurd h (Operand.map_id?_ne_error sound rfl message)
    · cases h
      exact .message target ⟨eq_false_of_ne_true channel, eq_false_of_ne_true message⟩

lemma editedId?_objection (h : d.editedId? (d.target.filter (·.has .message) |>.map Operand.text) =
    .error e) : d.Objection .edit e := by
  cases named : (d.target.filter (·.has .message)).map Operand.text with
  | some id =>
    rw [named] at h
    cases h
  | none =>
    rw [named, editedId?] at h
    split at h
    · next o last =>
      obtain ⟨value, message⟩ := List.mem_filter.mp (List.mem_of_getLast? last)
      have refused : (o.id? .message).map id = .error e := by rw [h]; rfl
      exact absurd refused (Operand.map_id?_ne_error (sound_of_value sound value) rfl message)
    · next last =>
      cases h
      rw [List.getLast?_eq_none_iff, List.filter_eq_nil_iff] at last
      rw [Option.map_eq_none_iff, Option.filter_eq_none_iff] at named
      exact .unnamed (fun t ht => eq_false_of_ne_true (named t ht))
        fun o ho => eq_false_of_ne_true (last o ho)

lemma editCalls?_objection (h : d.editCalls? = .error e) : d.Objection .edit e := by
  rcases bind_eq_error h with h | ⟨⟨selection, named⟩, htarget, h⟩
  · exact editTarget?_objection sound h
  obtain ⟨-, rfl⟩ := editTarget?_eq_ok htarget
  rcases bind_eq_error h with h | ⟨id, -, h⟩
  · exact editedId?_objection sound h
  rcases bind_eq_error h with h | ⟨body, -, h⟩
  · exact body_objection sound (by decide) h
  · cases h

lemma showCalls?_ne_error : d.showCalls? ≠ .error e := by
  unfold showCalls?
  cases target : d.target with
  | none => nofun
  | some t =>
    dsimp only
    split_ifs with guild
    · exact Operand.map_id?_ne_error (sound_of_target sound target) rfl guild
    · nofun

omit sound in
lemma presenceCalls?_objection (h : d.presenceCalls? = .error e) : d.Objection .presence e := by
  unfold presenceCalls? at h
  split at h
  · next o only =>
    obtain ⟨unread, rfl⟩ := Operand.json?_eq_error (eq_error_of_map h)
    refine .json (by decide) ?_ unread
    unfold presence? at only
    split at only
    · next values =>
      split_ifs at only
      cases only
      rw [values]
      exact List.mem_singleton_self o
    · cases only
  · cases h

/-- Without malformed operands an opening word refuses a directive for an objection. -/
lemma openerCalls?_objection (h : d.openerCalls? listener opener = .error e) :
    d.Objection opener e := by
  cases opener with
  | use => exact useCalls?_objection sound h
  | listen => exact listenCalls?_objection sound h
  | fetch => exact fetchCalls?_objection sound h
  | read => exact readCalls?_objection sound h
  | delete => exact deleteCalls?_objection sound h
  | send => exact sendCalls?_objection sound h
  | edit => exact editCalls?_objection sound h
  | «show» => exact absurd h (showCalls?_ne_error sound)
  | presence => exact presenceCalls?_objection h
  | raw => cases h

end Objections

/-- If some operand is malformed, the directive is refused for the first of the malformed operands
that stand leftmost, the target before the values, whatever else is wrong with it. Otherwise it is
refused only for an objection of its opening word; none of these is to a token or an identifier, but
for the anchors of a window. -/
theorem leftmost_blamed (opening : d.head.key = .keyword opener.keyword) (listener : Listener) :
    ((∃ o ∈ d.operands, ∃ m, o.Malformed m) → ∃ before o after m, d.Blames before o after m ∧
      d.calls? listener = .error ⟨o.index, .mark m⟩) ∧
    ((∀ o ∈ d.operands, ∀ m, ¬ o.Malformed m) →
      ∀ e, d.calls? listener = .error e → d.Objection opener e) := by
  have opens : Opener.ofKind? d.head.key = some opener := Opener.ofKind?_eq_some.mpr opening
  constructor
  · rintro ⟨o, ho, m, malformed⟩
    have faulty : d.fault? ≠ none := fun none =>
      Operand.fault?_eq_none_iff.mp (fault?_eq_none.mp none o ho) m malformed
    obtain ⟨e, fault⟩ := Option.ne_none_iff_exists'.mp faulty
    obtain ⟨before, p, after, n, blames, rfl⟩ := blames_of_fault? fault
    refine ⟨before, p, after, n, blames, ?_⟩
    unfold calls?
    rw [opens, fault]
  · intro sound e h
    have faultless : d.fault? = none :=
      fault?_eq_none.mpr fun o ho => Operand.fault?_eq_none_iff.mpr (sound o ho)
    unfold calls? at h
    rw [opens, faultless] at h
    exact openerCalls?_objection sound h

/-- A mention is blamed before the channel behind it and before the object that cannot be read; and
an anchor is refused that has no mark. -/
theorem leftmost_blamed_mention :
    let mention : Operand := ⟨10, .literal .string, "99", some (.mark .mention)⟩
    let send : Directive := ⟨⟨0, .keyword .send, "SEND", none⟩,
      some ⟨27, .literal .string, "1", some (.mark .channel)⟩,
      [⟨5, .literal .object, "\x7b\x7d\x7d", none⟩, mention]⟩
    let read : Directive := ⟨⟨0, .keyword .read, "READ", none⟩,
      some ⟨5, .literal .string, "228666916018118541", some (.mark .channel)⟩,
      [⟨34, .keyword .before, "12", none⟩]⟩
    (mention ∈ send.operands ∧ mention.Malformed .user ∧ ∃ before o after m,
      send.Blames before o after m ∧ o.index = 10 ∧ m = .user) ∧
    ∃ e, read.calls? .discard = .error e ∧ read.Objection .read e := by
  intro mention send read
  have malformed : mention.Malformed .user := .mention rfl (by decide)
  have member : mention ∈ send.operands := by decide
  have sends : send.head.key = .keyword Opener.send.keyword := rfl
  have reads : read.head.key = .keyword Opener.read.keyword := rfl
  obtain ⟨before, o, after, m, blames, h⟩ :=
    (leftmost_blamed sends .discard).1 ⟨mention, member, .user, malformed⟩
  have refused : (send.calls? .discard).map (fun _ => ()) = .error ⟨10, .mark .user⟩ := by
    decide +kernel
  have blamed := h.symm.trans (eq_error_of_map refused)
  simp only [Except.error.injEq, Diagnostic.mk.injEq, Kind.mark.injEq] at blamed
  have sound : ∀ o ∈ read.operands, ∀ m, ¬ o.Malformed m := by
    simp only [← Operand.fault?_eq_none_iff]
    decide +kernel
  have unread : (read.calls? .discard).map (fun _ => ()) = .error ⟨34, .mark .message⟩ := by
    decide +kernel
  have h := eq_error_of_map unread
  exact ⟨⟨member, malformed, before, o, after, m, blames, blamed⟩, _, h,
    (leftmost_blamed reads .discard).2 sound _ h⟩

end Directive

end ChatQuery
