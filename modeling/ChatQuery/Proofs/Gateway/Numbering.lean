import ChatQuery.Proofs.Gateway.Reading
import ChatQuery.Proofs.Gateway.Requests
import ChatQuery.Proofs.Json.Normal
import Mathlib.Data.List.Nodup

/-!
The identifiers of messages. A message that is sent gets the next number, which no message ever had
before, and no request ever changes the identifier or the channel of a message, so the messages that
are left stand in falling order of their numbers, in channels that are well-formed.
-/
namespace ChatQuery

lemma StoredMessage.field?_toJson (m : StoredMessage) :
    m.toJson.field? "id" = some (.str m.id) := by
  simp [toJson, Json.record, Json.sortFields, Json.field?, Json.find?_insertField]

namespace Offline

variable {s t : Offline}

/-- Numbers of messages are written with 18 digits. -/
lemma digits_numbered {k : Nat} (hk : k < capacity) :
    (numbered k).toList.length = 18 ∧ ∀ c ∈ (numbered k).toList, c.isDigit = true := by
  rw [numbered, Nat.toString_eq_ofList_toDigits, String.toList_ofList]
  exact ⟨numbered_length hk,
    fun c hc => Nat.isDigit_of_mem_toDigits (by decide) (by decide) hc⟩

lemma isSnowflake_numbered {k : Nat} (hk : k < capacity) : isSnowflake (numbered k) = true := by
  obtain ⟨hlength, hdigits⟩ := digits_numbered hk
  exact isSnowflake_iff.mpr ⟨hlength, fun c hc => Text.isDigit_of_ascii (hdigits c hc)⟩

namespace Visit

/-- Whether a message is sent, and successfully. -/
def sends (v : Visit) : Bool :=
  match v.request with
  | .call (.sendMessage _) => v.succeeds
  | _ => false

/-- The identifier with which a successful sending is answered. -/
def issued? (v : Visit) : Option Json :=
  match v.request with
  | .call (.sendMessage body) => (v.met.sendMessage body).1.toOption.bind (Json.field? "id")
  | _ => none

/-- What a request does to the count of messages: it sends the one with the next identifier, or it
leaves the count as it is. -/
inductive Counts (v : Visit) : Prop
  | sent (sends : v.sends = true) (issued : v.issued? = some (.str v.met.nextId))
    (count : (v.met.serve v.request).2.sent = v.met.sent + 1)
  | other (sends : v.sends = false) (issued : v.issued? = none)
    (count : (v.met.serve v.request).2.sent = v.met.sent)

end Visit

lemma send_counts (body : MessageBody) (s : Offline) :
    Visit.Counts ⟨s, .call (.sendMessage body)⟩ := by
  have served : s.serve (.call (.sendMessage body)) =
      (passed (s.sendMessage body).1, (s.sendMessage body).2) := rfl
  cases h : s.selectedChannel? with
  | error e =>
    have refused : s.sendMessage body = (.error e, s) := by simp only [sendMessage, h]
    rw [refused] at served
    refine .other ?_ ?_ ?_
    · simp only [Visit.sends, Visit.succeeds, served]
      rfl
    · simp only [Visit.issued?, refused]
      rfl
    · simp only [served]
  | ok c =>
    let message : StoredMessage := ⟨s.nextId, c, body⟩
    have sent : s.sendMessage body =
        (.ok message.toJson, { s with messages := message :: s.messages, sent := s.sent + 1 }) := by
      simp only [sendMessage, h]
      rfl
    rw [sent] at served
    refine .sent ?_ ?_ ?_
    · simp only [Visit.sends, Visit.succeeds, served]
      rfl
    · simp only [Visit.issued?, sent]
      exact message.field?_toJson
    · simp only [served]

lemma listen_sent (sub : Subscription) (scope : Except GatewayError Scope) (s : Offline) :
    (s.listen sub scope).2.sent = s.sent := by
  unfold listen
  split <;> rfl

lemma serve_counts (s : Offline) (r : Request) : Visit.Counts ⟨s, r⟩ := by
  cases r with
  | destroy => exact .other rfl rfl rfl
  | fetch w => exact .other rfl rfl rfl
  | delete ids => exact .other rfl rfl (delete_sameService ids s).sent
  | call c =>
    cases c with
    | sendMessage body => exact send_counts body s
    | listenClient sub => exact .other rfl rfl (listen_sent _ _ _)
    | listenGuild sub => exact .other rfl rfl (listen_sent _ _ _)
    | listenChannel sub => exact .other rfl rfl (listen_sent _ _ _)
    | _ => exact .other rfl rfl (call_sameService s (by simp [Call.operation])).sent

/-- How many messages have been sent. -/
def sentCount (log : List Visit) : Nat := log.countP Visit.sends

/-- The identifiers of all messages that there ever were, as their senders learnt them. -/
def issued (log : List Visit) : List Json := log.filterMap Visit.issued?

lemma serve_stores (s : Offline) (r : Request) : Stores s (s.serve r).2 := by
  cases r with
  | call c => exact call_stores c s
  | destroy => exact .same rfl rfl
  | fetch w => exact .same rfl rfl
  | delete ids => exact delete_stores ids s

/-- Messages are only ever stored in the selected channel. -/
lemma Stores.wellPlaced (h : Stores s t) (channel : s.channel.all isSnowflake = true)
    (placed : ∀ m ∈ s.messages, isSnowflake m.channelId = true) :
    ∀ m ∈ t.messages, isSnowflake m.channelId = true := by
  cases h with
  | keeps addresses sent =>
    intro m hm
    obtain ⟨n, hn, same⟩ := List.mem_map.mp (addresses.subset (List.mem_map_of_mem hm))
    have unmoved : n.channelId = m.channelId := congrArg Prod.snd same
    rw [← unmoved]
    exact placed n hn
  | adds m id selected messages sent =>
    rw [selected] at channel
    rw [messages]
    exact List.forall_mem_cons.mpr ⟨channel, placed⟩

/-- Only a well-formed channel can be selected. -/
lemma serve_channel (h : s.channel.all isSnowflake = true) (r : Request) :
    (s.serve r).2.channel.all isSnowflake = true := by
  cases r with
  | destroy => rfl
  | fetch w => exact h
  | delete ids =>
    change (delete ids s).2.channel.all isSnowflake = true
    unfold delete
    split <;> exact h
  | call c =>
    change (call c s).2.channel.all isSnowflake = true
    have goes := call_goes c s
    generalize call c s = answer at goes
    cases goes with
    | refused check => exact h
    | @answered v t check link =>
      rw [link.channel]
      cases c with
      | selectChannel id =>
        obtain ⟨_, -, sound⟩ := bind_eq_ok check
        unfold checkId at sound
        split_ifs at sound with hid
        exact hid
      | _ => exact h

/-- What a run of requests keeps, beside what holds of every reachable state. -/
structure Numbered (log : List Visit) (s : Offline) : Prop where
  reachable : Reachable s
  count : s.sent = sentCount log
  issued : issued log = (List.range s.sent).map fun k => .str (numbered k)
  channel : s.channel.all isSnowflake = true
  placed : ∀ m ∈ s.messages, isSnowflake m.channelId = true

lemma Numbered.serve {log : List Visit} (h : Numbered log s) (r : Request) :
    Numbered (log ++ [⟨s, r⟩]) (s.serve r).2 := by
  have reachable := reachable_serve h.reachable r
  have channel := serve_channel h.channel r
  have placed := (serve_stores s r).wellPlaced h.channel h.placed
  cases serve_counts s r with
  | sent sends issued count =>
    refine ⟨reachable, ?_, ?_, channel, placed⟩
    · rw [count, h.count]
      simp [sentCount, sends]
    · rw [count, List.range_succ, List.map_append, ← h.issued]
      simp [Offline.issued, issued, nextId, numbered]
  | other sends issued count =>
    refine ⟨reachable, ?_, ?_, channel, placed⟩
    · rw [count, h.count]
      simp [sentCount, sends]
    · rw [count, ← h.issued]
      simp [Offline.issued, issued]

theorem numbered_after (rs : List Request) : Numbered (start.log rs) (start.after rs) :=
  kept_by_requests ⟨.start, rfl, rfl, rfl, List.forall_mem_nil _⟩ (fun _ _ r h => h.serve r) rs

namespace Numbered

variable {log : List Visit}

lemma mem_issued (h : Numbered log s) {id : String} :
    Json.str id ∈ Offline.issued log ↔ ∃ k < s.sent, numbered k = id := by
  rw [h.issued, List.mem_map]
  simp

lemma nodup_issued (h : Numbered log s) : (Offline.issued log).Nodup := by
  rw [h.issued]
  refine List.Nodup.map ?_ List.nodup_range
  intro k l same
  exact numbered_injective (Json.str.inj same)

/-- The next message gets an identifier that none has had. -/
lemma nextId_notMem_issued (h : Numbered log s) : Json.str s.nextId ∉ Offline.issued log := by
  rw [h.mem_issued]
  rintro ⟨k, hk, same⟩
  exact hk.ne (numbered_injective same)

/-- The identifiers of the messages that are left were all issued. -/
lemma issued_of_mem (h : Numbered log s) (small : s.sent < capacity) {m : StoredMessage}
    (hm : m ∈ s.messages) : isSnowflake m.id = true ∧ Json.str m.id ∈ Offline.issued log := by
  obtain ⟨ks, hids, -, hbound⟩ := (kept_of_reachable h.reachable).ordered
  obtain ⟨k, hk, hmk⟩ := List.mem_map.mp (hids ▸ List.mem_map_of_mem hm)
  have hlt := hbound k hk
  refine ⟨?_, h.mem_issued.mpr ⟨k, hlt, hmk⟩⟩
  rw [← hmk]
  exact isSnowflake_numbered (hlt.trans small)

end Numbered

/-- The answer to a sending names the message that is now the newest. -/
lemma sendMessage_eq_ok {body : MessageBody} {v : Json} (h : s.sendMessage body = (.ok v, t)) :
    ∃ m, t.messages = m :: s.messages ∧ v.field? "id" = some (.str m.id) ∧ m.id = s.nextId := by
  unfold sendMessage at h
  split at h
  · cases h
  · cases h
    exact ⟨_, rfl, StoredMessage.field?_toJson _, rfl⟩

/-- Whatever the gateway was asked for, as long as fewer than `10 ^ 17` messages were sent, the
messages that it holds have different identifiers and stand in falling order of these, as texts and
as numbers. The message that was sent after `k` others is identified by the number `k` above the
first, which has 18 digits, and its channel is well-formed. No identifier is ever issued again. -/
theorem messages_numbered (rs : List Request) (few : sentCount (start.log rs) < 10 ^ 17) :
    let s := start.after rs
    let log := start.log rs
    (s.messages.map (·.id)).Nodup ∧
      (s.messages.Pairwise fun m n => n.id < m.id) ∧
      (∃ ks : List Nat,
        s.messages.map (·.id) = ks.map (fun k => toString (900000000000000000 + k)) ∧
          ks.Pairwise (· > ·) ∧ ∀ k ∈ ks, k < sentCount log) ∧
      (∀ m ∈ s.messages, isSnowflake m.id = true ∧ isSnowflake m.channelId = true ∧
        Json.str m.id ∈ issued log) ∧
      issued log =
        (List.range (sentCount log)).map (fun k => .str (toString (900000000000000000 + k))) ∧
      (issued log).Nodup ∧
      ∀ body v t, s.sendMessage body = (.ok v, t) →
        ∃ m, t.messages = m :: s.messages ∧ v.field? "id" = some (.str m.id) ∧
          isSnowflake m.id = true ∧ Json.str m.id ∉ issued log := by
  intro s log
  have run : Numbered log s := numbered_after rs
  have kept := kept_of_reachable run.reachable
  have small : s.sent < capacity := run.count.trans_lt few
  obtain ⟨ks, hids, hsorted, hbound⟩ := kept.ordered
  refine ⟨kept.distinct, kept.descending small.le, ⟨ks, hids, hsorted, run.count ▸ hbound⟩, ?_,
    run.count ▸ run.issued, run.nodup_issued, ?_⟩
  · intro m hm
    obtain ⟨snowflake, issued⟩ := run.issued_of_mem small hm
    exact ⟨snowflake, run.placed m hm, issued⟩
  · intro body v t hsend
    obtain ⟨m, hmessages, hanswer, hid⟩ := sendMessage_eq_ok hsend
    refine ⟨m, hmessages, hanswer, ?_⟩
    rw [hid]
    exact ⟨isSnowflake_numbered small, run.nextId_notMem_issued⟩

/-- A message that is sent after one was deleted and the connection was opened again gets a third
number. -/
theorem messages_numbered_reopened :
    let opening : List Request :=
      [.call (.login "AAAAAAAAAAAAAAAAAAAAAAAA.BBBBBB.CCCCCCCCCCCCCCCCCCCCCCCCCCC"),
        .call (.selectChannel "228666916018118541")]
    let send : Request := .call (.sendMessage ⟨"hello\n", [], []⟩)
    let requests := opening ++
      [send, send, .call (.deleteMessage "900000000000000000"), .destroy] ++ opening ++ [send]
    sentCount (start.log requests) < 10 ^ 17 ∧
      (start.after requests).messages.map (·.id) = ["900000000000000002", "900000000000000001"] ∧
      ((start.after requests).messages.map (·.id)).Nodup ∧ (issued (start.log requests)).Nodup := by
  intro opening send requests
  have few : sentCount (start.log requests) < 10 ^ 17 := by decide +kernel
  have numbered := messages_numbered requests few
  refine ⟨few, ?_, numbered.1, numbered.2.2.2.2.2.1⟩
  decide +kernel

end Offline
end ChatQuery
