import ChatQuery.Proofs.Compile.Generators
import ChatQuery.Proofs.Compile.Order
import ChatQuery.Proofs.Gateway.Reachable
import ChatQuery.Proofs.Session.Pieces
import ChatQuery.Proofs.Session.Reload
import ChatQuery.Proofs.Session.Selection

/-!
Scripts that only send messages. Every message lands in the channel that its statement names, or
else in the one that was named last before it, whatever else has been sent.
-/
namespace ChatQuery

/-- The channel that is named last by some statements, or else the one selected before them. -/
def destination (before : Option String) (ds : List Directive) : Option String :=
  (ds.filterMap fun d => d.target.map Operand.text).getLast?.or before

lemma destination_cons (before : Option String) (d : Directive) (ds : List Directive) :
    destination before (d :: ds) = destination (destination before [d]) ds := by
  unfold destination
  cases h : d.target with
  | none => simp [h]
  | some t => simp [h, List.getLast?_cons]

lemma destination_isSome {before : Option String} (h : before.isSome = true)
    (ds : List Directive) : (destination before ds).isSome = true := by
  unfold destination
  rw [Option.isSome_or, h, Bool.or_true]

namespace Directive

variable {d : Directive} {listener : Listener} {calls : List Call}

/-- A message is sent to the target, if there is one. -/
lemma sends_of_calls? (opening : d.head.key = .keyword .send)
    (h : d.calls? listener = .ok calls) :
    (∀ t ∈ d.target, isSnowflake t.text = true) ∧ ∃ body : MessageBody, body.Conveys d.values ∧
      calls = (d.target.toList.map fun t => .selectChannel t.text) ++ [.sendMessage body] := by
  have inOrder : d.InOrder listener .send calls :=
    inOrder_of_openerCalls? (openerCalls?_of_calls? .send opening h) nofun
  obtain ⟨⟨work, split, works⟩, aimed⟩ := inOrder
  have selects : d.selection? .send = d.target.map fun t => .selectChannel t.text := by
    cases target : d.target with
    | none =>
      rw [selection?, target]
      rfl
    | some t =>
      have selected := aimed (by decide) (Option.isSome_of_eq_some target)
      rw [selection?_of_target target] at selected ⊢
      unfold Operand.selection? at selected ⊢
      split_ifs at selected ⊢ with guild channel
      · exact absurd guild.1 (by decide)
      · rfl
      · cases selected
  cases works with
  | send conveys =>
    rw [selects, Option.toList_map] at split
    refine ⟨fun t ht => ?_, _, conveys, split⟩
    have member : Call.selectChannel t.text ∈ calls := by
      rw [split, ht]
      exact List.mem_cons_self
    exact wellFormed_of_calls? h _ member

end Directive

namespace Offline

variable {s : Offline} {id : String}

/-- The state with a message stored, in a channel that is selected. -/
def post (s : Offline) (m : StoredMessage) : Offline :=
  { s with messages := m :: s.messages, sent := s.sent + 1, channel := some m.channelId }

lemma call_sendMessage (connected : s.token.isSome = true) (selected : s.channel = some id)
    (body : MessageBody) :
    ∃ v, call (.sendMessage body) s = (.ok v, s.post ⟨s.nextId, id, body⟩) := by
  obtain ⟨token, held⟩ := Option.isSome_iff_exists.mp connected
  have channel : s.selectedChannel? = .ok id := by
    unfold selectedChannel?
    rw [held, selected]
  refine ⟨StoredMessage.toJson ⟨s.nextId, id, body⟩, ?_⟩
  change s.sendMessage body = _
  unfold sendMessage post
  rw [channel, ← selected]

end Offline

namespace Session

variable {s : Session Offline} {d : Directive} {listener : Listener} {calls : List Call}
  {id : String}

/-- The session with a message stored, in a channel that is selected. -/
def post (s : Session Offline) (m : StoredMessage) : Session Offline :=
  { s with gateway := s.gateway.post m, channel := some m.channelId }

/-- The session with another channel selected. -/
def aimed (s : Session Offline) (id : String) : Session Offline :=
  { s with gateway := { s.gateway with channel := some id }, channel := some id }

lemma call_selectChannel (connected : s.gateway.token.isSome = true) (h : isSnowflake id = true) :
    ∃ v, s.call Offline.gateway (.selectChannel id) = (.ok v, s.aimed id) := by
  obtain ⟨v, answer⟩ := Offline.call_selectChannel connected h
  exact ⟨v, call_of_ok answer⟩

lemma call_sendMessage (connected : s.gateway.token.isSome = true)
    (selected : s.gateway.channel = some id) (remembered : s.channel = some id)
    (body : MessageBody) : ∃ v, s.call Offline.gateway (.sendMessage body) =
      (.ok v, s.post ⟨s.gateway.nextId, id, body⟩) := by
  obtain ⟨v, answer⟩ := Offline.call_sendMessage connected selected body
  refine ⟨v, (call_of_ok answer).trans ?_⟩
  rw [post, ← remembered]
  rfl

/-- A statement that sends a message stores just this message, in the channel that it names or else
in the one that is selected. -/
lemma succeeds_send (opening : d.head.key = .keyword .send) (h : d.calls? listener = .ok calls)
    (connected : s.gateway.token.isSome = true)
    (agree : ∀ id, s.gateway.channel = some id → s.channel = some id)
    (aim : destination s.gateway.channel [d] = some id) :
    ∃ made body, calls = made.map Prod.fst ∧ body.Conveys d.values ∧
      Succeeds Offline.gateway s made (s.post ⟨s.gateway.nextId, id, body⟩) := by
  obtain ⟨sound, body, conveys, rfl⟩ := Directive.sends_of_calls? opening h
  cases target : d.target with
  | none =>
    have selected : s.gateway.channel = some id := by simpa [destination, target] using aim
    obtain ⟨v, sent⟩ := call_sendMessage connected selected (agree id selected) body
    exact ⟨[(.sendMessage body, v)], body, rfl, conveys, .next sent (.done _)⟩
  | some t =>
    obtain rfl : t.text = id := by simpa [destination, target] using aim
    obtain ⟨v, selected⟩ := call_selectChannel connected (sound t target)
    obtain ⟨w, sent⟩ := call_sendMessage (s := s.aimed t.text) connected rfl rfl body
    exact ⟨[(.selectChannel t.text, v), (.sendMessage body, w)], body, rfl, conveys,
      .next selected (.next sent (.done _))⟩

/-- The messages of some statements, oldest first. Each conveys what its statement says, goes to the
channel that is named last up to it, and has the next number. -/
inductive Posted : Option String → Nat → List Directive → List StoredMessage → Prop
  | nil (before : Option String) (k : Nat) : Posted before k [] []
  | cons {before : Option String} {k : Nat} {d : Directive} {ds : List Directive} {id : String}
    {body : MessageBody} {sent : List StoredMessage} (aim : destination before [d] = some id)
    (conveys : body.Conveys d.values) (rest : Posted (some id) (k + 1) ds sent) :
    Posted before k (d :: ds) (⟨Offline.numbered k, id, body⟩ :: sent)

namespace Posted

variable {before : Option String} {k : Nat} {ds : List Directive} {sent : List StoredMessage}

lemma length_eq (h : Posted before k ds sent) : sent.length = ds.length := by
  induction h with
  | nil => rfl
  | cons _ _ _ ih => rw [List.length_cons, List.length_cons, ih]

/-- The last of the messages goes where the last of the statements does. -/
lemma last_channel (h : Posted before k ds sent) :
    (sent.getLast?.map StoredMessage.channelId).or before = destination before ds := by
  induction h with
  | nil => rfl
  | @cons before k d ds id body sent aim conveys rest ih =>
    rw [destination_cons, aim, ← ih, List.getLast?_cons]
    cases sent.getLast? <;> rfl

lemma of_getElem? (h : Posted before k ds sent) {i : Nat} {m : StoredMessage}
    (hd : ds[i]? = some d) (hm : sent[i]? = some m) :
    m.body.Conveys d.values ∧ some m.channelId = destination before (ds.take (i + 1)) ∧
      m.id = Offline.numbered (k + i) := by
  induction h generalizing i with
  | nil => cases hd
  | cons aim conveys rest ih =>
    cases i with
    | zero =>
      cases hd
      cases hm
      exact ⟨conveys, aim.symm, rfl⟩
    | succ i =>
      obtain ⟨same, channel, number⟩ := ih hd hm
      refine ⟨same, ?_, ?_⟩
      · rw [List.take_succ_cons, destination_cons, aim]
        exact channel
      · rw [number, Nat.add_right_comm]
        rfl

end Posted

/-- What some messages leave behind. -/
lemma foldl_post (s : Session Offline) (sent : List StoredMessage) :
    sent.foldl post s =
      { s with
        gateway := { s.gateway with
          messages := sent.reverse ++ s.gateway.messages
          sent := s.gateway.sent + sent.length
          channel := (sent.getLast?.map StoredMessage.channelId).or s.gateway.channel }
        channel := (sent.getLast?.map StoredMessage.channelId).or s.channel } := by
  induction sent generalizing s with
  | nil => rfl
  | cons m sent ih =>
    have last (before : Option String) :
        ((m :: sent).getLast?.map StoredMessage.channelId).or before =
          (sent.getLast?.map StoredMessage.channelId).or (some m.channelId) := by
      rw [List.getLast?_cons]
      cases sent.getLast? <;> rfl
    rw [List.foldl_cons, ih, last, last]
    simp [post, Offline.post, Nat.add_assoc, Nat.add_comm 1]

/-- Statements that send messages store just these, one after another. -/
lemma succeeds_sends {ds : List Directive} {css : List (List Call)}
    (each : List.Forall₂ (fun d calls => d.calls? listener = .ok calls) ds css)
    (sends : ∀ d ∈ ds, d.head.key = .keyword .send) (connected : s.gateway.token.isSome = true)
    (agree : ∀ id, s.gateway.channel = some id → s.channel = some id)
    (aim : ∀ d ∈ ds.head?, (destination s.gateway.channel [d]).isSome = true) :
    ∃ made sent, css.flatten = made.map Prod.fst ∧
      Posted s.gateway.channel s.gateway.sent ds sent ∧
      Succeeds Offline.gateway s made (sent.foldl post s) := by
  induction each generalizing s with
  | nil => exact ⟨[], [], rfl, .nil _ _, .done s⟩
  | @cons d calls ds css first rest ih =>
    obtain ⟨opening, sends⟩ := List.forall_mem_cons.mp sends
    obtain ⟨id, aim⟩ := Option.isSome_iff_exists.mp (aim d rfl)
    obtain ⟨made, body, rfl, conveys, stored⟩ :=
      succeeds_send opening first connected agree aim
    -- The message just stored has selected its channel, so the later statements need none.
    obtain ⟨later, sent, hcss, posted, succeeded⟩ :=
      ih (s := s.post ⟨s.gateway.nextId, id, body⟩) sends connected (fun _ h => h)
        fun d _ => destination_isSome rfl [d]
    refine ⟨made ++ later, _, ?_, .cons aim conveys posted, stored.append succeeded⟩
    rw [List.flatten_cons, hcss, List.map_append]

/-- A script that only sends messages does not flip the raw flag. -/
lemma load_sends {t : Session Offline} {source : String} {ds : List Directive}
    (hds : Script.directives? source = .ok ds) (sends : ∀ d ∈ ds, d.head.key = .keyword .send)
    (h : s.load source = .ok t) :
    ∃ css, List.Forall₂ (fun d calls => d.calls? s.listener = .ok calls) ds css ∧
      t = s.enqueue ⟨css.flatten, 0⟩ := by
  obtain ⟨p, hp, rfl⟩ := load_inv h
  obtain ⟨ds', hds', hp⟩ := bind_eq_ok hp
  cases hds.symm.trans hds'
  have unflipped : ∀ d ∈ ds, d.head.key ≠ .keyword .raw := by
    intro d hd
    rw [sends d hd]
    nofun
  obtain ⟨css, hcss, rfl⟩ := (Script.ofDirectives?_eq_ok_iff unflipped).mp hp
  exact ⟨css, forall₂_of_mapM_eq_ok hcss fun _ _ _ h => h, rfl⟩

/-- A script that only sends messages, executed by a connected session over the offline gateway that
has nothing queued, succeeds if its first statement names a channel or one is selected. It stores
one message for each statement, newest first, before those that were there: it conveys what the
statement says, and its channel is the one that is named last up to the statement, or else the one
selected before. The channel of the last message stays selected, and nothing else changes. -/
theorem sent_in_own_channel {listener : Listener} {actions : List Action} {s t : Session Offline}
    {source : String} {ds : List Directive}
    (run : s = (fresh Offline.start listener).play Offline.gateway actions)
    (connected : s.connected = true) (idle : s.queue = [])
    (hds : Script.directives? source = .ok ds) (some_statement : ds ≠ [])
    (sends : ∀ d ∈ ds, d.head.key = .keyword .send) (loaded : s.load source = .ok t)
    (aim : (∃ d ∈ ds.head?, d.target.isSome = true) ∨ s.gateway.channel.isSome = true) :
    let x := t.execute Offline.gateway (.bare false)
    x.result = .ok () ∧ ∃ (sent : List StoredMessage) (channel : String),
      x.session = { s with
        gateway := { s.gateway with
          messages := sent.reverse ++ s.gateway.messages
          sent := s.gateway.sent + ds.length
          channel := some channel }
        channel := some channel } ∧
      destination s.gateway.channel ds = some channel ∧ sent.length = ds.length ∧
      ∀ i d m, ds[i]? = some d → sent[i]? = some m →
        m.body.Conveys d.values ∧
          some m.channelId = destination s.gateway.channel (ds.take (i + 1)) ∧
          m.id = toString (900000000000000000 + (s.gateway.sent + i)) := by
  intro x
  have fresh_linked : (fresh Offline.start listener).Linked := rfl
  have linked : s.Linked := by
    rw [run]
    exact kept_by_moves (fun _ _ h m => h.move m) fresh_linked (reaches_play _ _ actions)
  have agree (id : String) : s.gateway.channel = some id → s.channel = some id := by
    rw [run]
    exact channel_of_play listener actions
  have first_aim : ∀ d ∈ ds.head?, (destination s.gateway.channel [d]).isSome = true := by
    intro d hd
    rcases aim with ⟨d', hd', named⟩ | selected
    · cases hd.symm.trans hd'
      obtain ⟨t, target⟩ := Option.isSome_iff_exists.mp named
      simp [destination, target]
    · exact destination_isSome selected [d]
  obtain ⟨css, each, rfl⟩ := load_sends hds sends loaded
  obtain ⟨made, sent, all, posted, succeeds⟩ :=
    succeeds_sends each sends (linked.symm.trans connected) agree first_aim
  have length := posted.length_eq
  have some_sent : sent ≠ [] := by
    rw [← List.length_pos_iff, length, List.length_pos_iff]
    exact some_statement
  obtain ⟨m, last⟩ : ∃ m, sent.getLast? = some m := ⟨_, List.getLast?_eq_some_getLast some_sent⟩
  have channel := posted.last_channel
  have worked := drain_of_succeeds succeeds
  rw [foldl_post, last, length, ← all] at worked
  rw [last] at channel
  obtain ⟨notices, hx⟩ : ∃ notices, x = _ := execute_enqueue Offline.gateway idle ⟨css.flatten, 0⟩
  rw [worked] at hx
  have unflipped : (s.enqueue ⟨css.flatten, 0⟩).raw = s.raw := Bool.xor_false s.raw
  rw [unflipped] at hx
  rw [hx]
  refine ⟨rfl, sent, m.channelId, ?_, channel.symm, length, fun _ _ _ => posted.of_getElem?⟩
  rw [← idle]
  rfl

/-- A message without a channel of its own follows the one before it. -/
theorem sent_in_own_channel_again :
    let channel := "228666916018118541"
    let source := "SEND \"one\" IN \"228666916018118541\"c; SEND \"two\""
    let s := (fresh Offline.start .discard).play Offline.gateway
      [.execute ⟨some "AAAAAAAAAAAAAAAAAAAAAAAA.BBBBBB.CCCCCCCCCCCCCCCCCCCCCCCCCCC", none, none, false⟩]
    s.connected = true ∧ s.queue = [] ∧ ∃ t m n, s.load source = .ok t ∧
      (t.execute Offline.gateway (.bare false)).result = .ok () ∧
      (t.execute Offline.gateway (.bare false)).session.gateway.messages = [n, m] ∧
      m.channelId = channel ∧ n.channelId = channel := by
  intro channel source s
  let first : Directive := ⟨⟨0, .keyword .send, "SEND", none⟩,
    some ⟨14, .literal .string, channel, some (.mark .channel)⟩,
    [⟨5, .literal .string, "one", none⟩]⟩
  let second : Directive := ⟨⟨37, .keyword .send, "SEND", none⟩, none,
    [⟨42, .literal .string, "two", none⟩]⟩
  have hds : Script.directives? source = .ok [first, second] :=
    toOption_eq_some.mp (by decide +kernel)
  have connected : s.connected = true := by decide +kernel
  have idle : s.queue = [] := List.isEmpty_iff.mp (by decide +kernel)
  obtain ⟨t, loaded⟩ : ∃ t, s.load source = .ok t := exists_of_isOk (by decide +kernel)
  obtain ⟨ok, sent, last, session, -, length, each⟩ :=
    sent_in_own_channel rfl connected idle hds (List.cons_ne_nil _ _) (by decide) loaded
      (.inl ⟨first, rfl, rfl⟩)
  obtain ⟨m, n, rfl⟩ : ∃ m n, sent = [m, n] := List.length_eq_two.mp length
  have nothing : s.gateway.messages = [] := List.isEmpty_iff.mp (by decide +kernel)
  refine ⟨connected, idle, t, m, n, loaded, ok, ?_, ?_, ?_⟩
  · rw [session, nothing]
    rfl
  · exact Option.some.inj (each 0 first m rfl rfl).2.1
  · exact Option.some.inj (each 1 second n rfl rfl).2.1

end Session
end ChatQuery
