import ChatQuery.Proofs.Gateway.Offline
import ChatQuery.Proofs.Success
import Mathlib.Data.List.Nodup

/-!
The states that the offline gateway can come to, and what holds in all of them. No step changes the
identifier or the channel of a stored message; a message that is sent gets the next number, so the
messages stand in the order of their numbers.
-/
namespace ChatQuery

/-- Where a message is found. -/
def StoredMessage.address (m : StoredMessage) : String × String := (m.id, m.channelId)

namespace Offline

variable {s t : Offline}

/-- The states that come about by any calls and closings, and by requests and deletions of pages, in
any order, successful or not. -/
inductive Reachable : Offline → Prop
  | start : Reachable start
  | call (x : Call) {s : Offline} (h : Reachable s) : Reachable (call x s).2
  | destroy {s : Offline} (h : Reachable s) : Reachable (destroy s).2
  | fetch (w : Window) {s : Offline} (h : Reachable s) : Reachable (fetch w s).2
  | delete (ids : List String) {s : Offline} (h : Reachable s) : Reachable (delete ids s).2

/-- What a step does to the messages: it leaves some of them where they are, or it puts a new one in
front of them. -/
inductive Stores (s t : Offline) : Prop
  | keeps
    (addresses : (t.messages.map StoredMessage.address).Sublist
      (s.messages.map StoredMessage.address))
    (sent : t.sent = s.sent)
  | adds (m : StoredMessage) (id : m.id = s.nextId) (channel : s.channel = some m.channelId)
    (messages : t.messages = m :: s.messages) (sent : t.sent = s.sent + 1)

namespace Stores

lemma same (messages : t.messages = s.messages) (sent : t.sent = s.sent) : Stores s t :=
  .keeps (by rw [messages]) sent

lemma fewer (messages : t.messages.Sublist s.messages) (sent : t.sent = s.sent) : Stores s t :=
  .keeps (messages.map _) sent

end Stores

lemma checkConnected_eq_error (h : s.token = none) :
    s.checkConnected = .error .notConnected := by
  unfold checkConnected
  rw [h]
  rfl

lemma selectedChannel?_eq_ok {c : String} (h : s.selectedChannel? = .ok c) :
    s.token ≠ none ∧ s.channel = some c := by
  unfold selectedChannel? at h
  split at h
  · cases h
  · cases h
  · next token d ht hc =>
    cases h
    exact ⟨by rw [ht]; exact Option.some_ne_none _, hc⟩

lemma find?_eq_ok {id : String} {i : Nat} {m : StoredMessage} (h : s.find? id = .ok (i, m)) :
    s.messages[i]? = some m := by
  unfold find? at h
  obtain ⟨c, -, h⟩ := bind_eq_ok h
  obtain ⟨_, -, h⟩ := bind_eq_ok h
  split at h
  · cases h
  · split at h
    · cases h
    · cases h
      assumption

lemma map_set_of_getElem? {α β : Type} {f : α → β} {xs : List α} {i : Nat} {a b : α}
    (ha : xs[i]? = some a) (hb : f b = f a) : (xs.set i b).map f = xs.map f := by
  obtain ⟨hi, rfl⟩ := List.getElem?_eq_some_iff.mp ha
  have hmap : i < (xs.map f).length := by simpa using hi
  rw [List.map_set, hb, ← List.getElem_map f (h := hmap), List.set_getElem_self]

/-- An edited message keeps its address. -/
lemma editMessage_stores (edit : MessageEdit) (s : Offline) : Stores s (s.editMessage edit).2 := by
  unfold editMessage
  cases h : s.find? edit.messageId with
  | error e => exact .same rfl rfl
  | ok found =>
    have unmoved := map_set_of_getElem? (f := StoredMessage.address)
      (b := { found.2 with body := edit.body }) (find?_eq_ok h) rfl
    exact .keeps (unmoved ▸ List.Sublist.refl _) rfl

lemma listen_stores (sub : Subscription) (scope : Except GatewayError Scope) (s : Offline) :
    Stores s (s.listen sub scope).2 := by
  unfold listen
  split <;> exact .same rfl rfl

/-- Only sending adds a message, and no call moves one. -/
theorem call_stores (x : Call) (s : Offline) : Stores s (call x s).2 := by
  cases x with
  | login token =>
    change Stores s (s.login token).2
    unfold login
    split_ifs <;> exact .same rfl rfl
  | selectGuild id =>
    change Stores s (s.selectGuild id).2
    unfold selectGuild
    split <;> exact .same rfl rfl
  | selectChannel id =>
    change Stores s (s.selectChannel id).2
    unfold selectChannel
    split <;> exact .same rfl rfl
  | fetchGuild id => exact .same rfl rfl
  | fetchChannel id => exact .same rfl rfl
  | fetchUser id => exact .same rfl rfl
  | fetchMember id => exact .same rfl rfl
  | showGuilds search => exact .same rfl rfl
  | showChannels search => exact .same rfl rfl
  | showMembers search => exact .same rfl rfl
  | sendMessage body =>
    change Stores s (s.sendMessage body).2
    unfold sendMessage
    cases h : s.selectedChannel? with
    | error e => exact .same rfl rfl
    | ok c => exact .adds ⟨s.nextId, c, body⟩ rfl (selectedChannel?_eq_ok h).2 rfl rfl
  | editMessage edit => exact editMessage_stores edit s
  | deleteMessage id =>
    change Stores s (s.deleteMessage id).2
    unfold deleteMessage
    cases s.find? id with
    | error e => exact .same rfl rfl
    | ok found => exact .fewer (List.eraseIdx_sublist _ _) rfl
  | deleteMessages w =>
    change Stores s (s.deleteMessages w).2
    unfold deleteMessages
    cases h : s.selectedChannel? with
    | error e => exact .same rfl rfl
    | ok c =>
      obtain ⟨all, -, hd⟩ := deleteAll_of_channel h w
      simp only [hd]
      exact .fewer List.filter_sublist rfl
  | readChannel w =>
    change Stores s (s.readChannel w).2
    unfold readChannel
    cases h : s.selectedChannel? with
    | error e => exact .same rfl rfl
    | ok c =>
      obtain ⟨all, ha⟩ := collect_of_channel h w
      simp only [ha]
      exact .same rfl rfl
  | updatePresence presence =>
    change Stores s (s.updatePresence presence).2
    unfold updatePresence
    split <;> exact .same rfl rfl
  | listenClient sub => exact listen_stores sub _ s
  | listenGuild sub => exact listen_stores sub _ s
  | listenChannel sub => exact listen_stores sub _ s

lemma delete_stores (ids : List String) (s : Offline) : Stores s (delete ids s).2 := by
  unfold delete
  split
  · exact .same rfl rfl
  · exact .fewer List.filter_sublist rfl

/-- The identifier of the message that was sent after `k` others. -/
def numbered (k : Nat) : String := toString (firstMessageId + k)

lemma numbered_injective : Function.Injective numbered := by
  intro k l same
  have digits := congrArg String.toList same
  simp only [numbered, Nat.toString_eq_ofList_toDigits, String.toList_ofList] at digits
  have value := congrArg (Nat.ofDigitChars 10 · 0) digits
  simp only [Nat.ofDigitChars_toDigits (by decide : 1 < 10) (by decide)] at value
  exact Nat.add_left_cancel value

/-- What holds in every state: only a connected gateway has selections, and the messages stand in
falling order of the numbers under which they were sent. -/
structure Kept (s : Offline) : Prop where
  linked : s.token = none → s.guild = none ∧ s.channel = none
  ordered : ∃ ks : List Nat, s.messages.map (·.id) = ks.map numbered ∧
    ks.Pairwise (· > ·) ∧ ∀ k ∈ ks, k < s.sent

namespace Kept

/-- No two messages have the same identifier. -/
lemma distinct (h : Kept s) : (s.messages.map (·.id)).Nodup := by
  obtain ⟨ks, hids, hsorted, -⟩ := h.ordered
  rw [hids]
  exact List.Nodup.map numbered_injective (hsorted.imp Nat.ne_of_gt)

lemma ordered_of_stores (h : Kept s) (hst : Stores s t) :
    ∃ ks : List Nat, t.messages.map (·.id) = ks.map numbered ∧
      ks.Pairwise (· > ·) ∧ ∀ k ∈ ks, k < t.sent := by
  obtain ⟨ks, hids, hsorted, hbound⟩ := h.ordered
  cases hst with
  | keeps addresses sent =>
    have fewer : (t.messages.map (·.id)).Sublist (ks.map numbered) := by
      have hfirst := addresses.map Prod.fst
      rw [List.map_map, List.map_map] at hfirst
      exact hids ▸ hfirst
    obtain ⟨ls, hls, heq⟩ := List.sublist_map_iff.mp fewer
    refine ⟨ls, heq, hsorted.sublist hls, ?_⟩
    intro k hk
    rw [sent]
    exact hbound k (hls.subset hk)
  | adds m id channel messages sent =>
    refine ⟨s.sent :: ks, ?_, List.pairwise_cons.mpr ⟨hbound, hsorted⟩, ?_⟩
    · rw [messages, List.map_cons, List.map_cons, hids, id]
      rfl
    · intro k hk
      rw [sent]
      rcases List.mem_cons.mp hk with rfl | hk
      · exact Nat.lt_succ_self _
      · exact Nat.lt_succ_of_lt (hbound k hk)

/-- A call that succeeds selects something only if the gateway is connected. -/
lemma linked_of_goes (h : Kept s) {x : Call} (hx : Goes s x (call x s)) :
    (call x s).2.token = none → (call x s).2.guild = none ∧ (call x s).2.channel = none := by
  generalize call x s = answer at hx
  cases hx with
  | refused check => exact h.linked
  | @answered v t check link =>
    rw [link.token, link.guild, link.channel]
    cases x with
    | login token => exact nofun
    | selectGuild id =>
      intro (disconnected : s.token = none)
      rw [Offline.check, checkConnected_eq_error disconnected] at check
      cases check
    | selectChannel id =>
      intro (disconnected : s.token = none)
      rw [Offline.check, checkConnected_eq_error disconnected] at check
      cases check
    | _ => exact h.linked

end Kept

theorem kept_of_reachable (h : Reachable s) : Kept s := by
  induction h with
  | start => exact ⟨fun _ => ⟨rfl, rfl⟩, [], rfl, List.Pairwise.nil, List.forall_mem_nil _⟩
  | @call x s h ih =>
    exact ⟨ih.linked_of_goes (call_goes x s), ih.ordered_of_stores (call_stores x s)⟩
  | destroy h ih => exact ⟨fun _ => ⟨rfl, rfl⟩, ih.ordered⟩
  | fetch w h ih => exact ih
  | @delete ids s h ih =>
    refine ⟨?_, ih.ordered_of_stores (delete_stores ids s)⟩
    unfold Offline.delete
    split <;> exact ih.linked

end Offline

end ChatQuery
