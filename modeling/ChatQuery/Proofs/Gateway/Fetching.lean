import ChatQuery.Proofs.Gateway.Anchors
import ChatQuery.Proofs.Script.Marked

/-!
Fetching a message. A script fetches a message by reading one message around it, and so it gets the
message if the selected channel has it. If not, the page around it begins with the newest message of
the channel, which is then read, or deleted, in its place.
-/
namespace ChatQuery

variable {id : String}

/-- The characters of an identifier need no backslash. -/
lemma guarded_of_isSnowflake (hid : isSnowflake id = true) :
    guarded ['\\', '"'] id.toList = id.toList := by
  obtain ⟨-, digits⟩ := isSnowflake_iff.mp hid
  have plain : ∀ c ∈ id.toList, c ∉ ['\\', '"'] := by
    intro c hc special
    have digit := digits c hc
    simp only [List.mem_cons, List.not_mem_nil, or_false] at special
    rcases special with rfl | rfl <;> exact absurd digit (by decide)
  generalize id.toList = cs at plain
  induction cs with
  | nil => rfl
  | cons c cs ih =>
    obtain ⟨hc, hcs⟩ := List.forall_mem_cons.mp plain
    rw [guarded_cons_of_notMem hc, ih hcs]

/-- The window in which a message is fetched. -/
def Window.single (id : String) : Window := ⟨1, none, none, some id⟩

namespace Directive

/-- A `FETCH` of a message reads one message around it. -/
lemma calls?_fetch {d : Directive} (listener : Listener) (opening : d.head.key = .keyword .fetch)
    (untargeted : d.target = none)
    (values : d.values = [⟨0, .literal .string, id, some (.mark .message)⟩])
    (hid : isSnowflake id = true) : d.calls? listener = .ok [.readChannel (.single id)] := by
  refine calls?_eq_ok_iff.mpr ⟨.fetch, opening, ?_, ?_⟩
  · simp [operands, untargeted, values, Operand.fault?, hid]
  · change d.fetchCalls? = _
    unfold fetchCalls? scopeCalls?
    rw [untargeted, values]
    simp only [List.mapM_cons, List.mapM_nil, fetchCall?, Operand.has, Operand.id?, hid, if_true]
    rfl

end Directive

/-- The source text of a `FETCH` of a message. -/
def fetchSource (id : String) : String := "FETCH \"" ++ id ++ "\"m;"

theorem Script.compile?_fetchSource (listener : Listener) (hid : isSnowflake id = true) :
    compile? listener (fetchSource id) = .ok ⟨[.readChannel (.single id)], 0⟩ := by
  have some_id : id ≠ "" := by
    rintro rfl
    exact absurd hid (by decide)
  have source : (fetchSource id).toList =
      'F' :: (['E', 'T', 'C', 'H'] ++ (markedText id .message ++ [';'])) := by
    simp [fetchSource, markedText, guarded_of_isSnowflake hid, Mark.letter]
  refine compile?_marked (o := .fetch) (by decide) [(id, .message)] ?_ ?_
  · rw [source, seen_word (k := .fetch) (by decide) rfl, seen_markedText _ _ rfl, seen_semicolon,
      seen_nil]
    rfl
  · refine Directive.calls?_fetch listener rfl rfl ?_ hid
    simp [Statement.directive, Statement.values, Part.values, Opener.token, Opener.keyword,
      operand?_markedLeaf, some_id]

namespace Offline

variable {s : Offline} {c : String} {messages : List StoredMessage} {m : StoredMessage}

/-- What reading one message around an identifier comes upon. -/
def fetched (messages : List StoredMessage) (id : String) : List StoredMessage :=
  (messages.drop ((messages.findIdx? (·.id = id)).getD 0)).take 1

lemma fetched_of_mem (distinct : (messages.map (·.id)).Nodup) (hm : m ∈ messages) :
    fetched messages m.id = [m] := by
  obtain ⟨p, hp, rfl⟩ := List.mem_iff_getElem.mp hm
  have place := findIdx?_of_distinct distinct (List.getElem?_eq_getElem hp)
  rw [fetched, place, Option.getD_some, List.drop_eq_getElem_cons hp]
  rfl

lemma fetched_of_absent (absent : ∀ m ∈ messages, m.id ≠ id) :
    fetched messages id = messages.take 1 := by
  have nowhere : messages.findIdx? (·.id = id) = none := by
    rw [List.findIdx?_eq_none_iff]
    intro m hm
    exact decide_eq_false (absent m hm)
  rw [fetched, nowhere, Option.getD_none, List.drop_zero]

lemma fetched_subset (messages : List StoredMessage) (id : String) :
    fetched messages id ⊆ messages :=
  List.Subset.trans (List.take_subset _ _) (List.drop_subset _ _)

lemma collect_fetched (hc : s.selectedChannel? = .ok c) (id : String) :
    source.collect (.single id) s = (.ok (fetched (s.inChannel c) id), s) := by
  have first : source.fetch { Window.single id with limit := min 1 MessageSource.pageSize } s =
      (.ok (fetched (s.inChannel c) id), s) := by
    rw [fetch_of_channel hc]
    simp [page, fetched, Window.single, MessageSource.pageSize]
  have one : (fetched (s.inChannel c) id).length ≤ 1 := List.length_take_le _ _
  -- One message is enough, and behind none nothing is asked for.
  have complete : source.continued (.single id) (fetched (s.inChannel c) id) s =
      (.ok (fetched (s.inChannel c) id), s) := by
    cases hread : fetched (s.inChannel c) id with
    | nil => exact MessageSource.continued_nil _ _ _
    | cons m rest => exact MessageSource.continued_of_full (Nat.le_add_left _ _)
  rw [MessageSource.collect_of_page Nat.one_ne_zero first, complete]
  exact congrArg (fun read => (Except.ok read, s)) (List.take_of_length_le one)

/-- A script that fetches a message reads one message around its identifier. If the selected channel
has the message, just that message is read, and a deletion in the same window takes away nothing
else. If not, it is the newest message of the channel that is read and deleted. -/
theorem fetch_reads_message (h : s.Reachable) (hc : s.channel = some c)
    (hid : isSnowflake id = true) :
    (∀ listener, Script.compile? listener (fetchSource id) =
      .ok ⟨[.readChannel (.single id)], 0⟩) ∧
    ∃ read : List StoredMessage,
      s.call (.readChannel (.single id)) = (.ok (.arr (read.map StoredMessage.toJson)), s) ∧
      (∀ n ∈ s.messages, n ∉ (s.call (.deleteMessages (.single id))).2.messages ↔ n ∈ read) ∧
      (∀ m ∈ s.inChannel c, m.id = id → read = [m]) ∧
      ((∀ m ∈ s.inChannel c, m.id ≠ id) → read = (s.inChannel c).take 1) := by
  have kept := kept_of_reachable h
  have selected := selectedChannel?_of_channel kept hc
  have collected := collect_fetched selected id
  refine ⟨fun listener => Script.compile?_fetchSource listener hid, fetched (s.inChannel c) id,
    readChannel_of_collect selected collected, ?_, ?_, fetched_of_absent⟩
  · intro n hn
    refine (removed_iff selected collected hn).trans ⟨?_, fun hread => ⟨n, hread, rfl⟩⟩
    rintro ⟨m, hread, same⟩
    have stored : m ∈ s.messages := List.mem_of_mem_filter (fetched_subset _ _ hread)
    rwa [← List.inj_on_of_nodup_map kept.distinct stored hn same]
  · rintro m hm rfl
    exact fetched_of_mem (kept.distinct.sublist (List.filter_sublist.map _)) hm

/-- The older of two messages is read, and deleted without the other one. -/
theorem fetch_reads_message_older :
    let s := filled "228666916018118541" 2
    let id := "900000000000000000"
    s.Reachable ∧ s.channel = some "228666916018118541" ∧ isSnowflake id = true ∧
      ∃ m : StoredMessage, m.id = id ∧
        s.call (.readChannel (.single id)) = (.ok (.arr [m.toJson]), s) ∧
        (s.call (.deleteMessages (.single id))).2.messages.map (·.id) = ["900000000000000001"] := by
  intro s id
  have h : s.Reachable := reachable_filled _ _
  have hc : s.channel = some "228666916018118541" := channel_filled (by decide) _
  have hid : isSnowflake id = true := by decide
  have older : id ∈ (s.inChannel "228666916018118541").map (·.id) := by decide +kernel
  obtain ⟨m, hm, same⟩ := List.mem_map.mp older
  obtain ⟨-, read, hread, -, present, -⟩ := fetch_reads_message h hc hid
  rw [present m hm same] at hread
  exact ⟨h, hc, hid, m, same, hread, by decide +kernel⟩

/-- The only message of a channel is read and deleted in place of another one that was never sent.
-/
theorem fetch_reads_another :
    let s := filled "228666916018118541" 1
    let id := "900000000000000007"
    s.Reachable ∧ s.channel = some "228666916018118541" ∧ isSnowflake id = true ∧
      s.messages.map (·.id) = ["900000000000000000"] ∧
      ∃ m : StoredMessage, m.id ≠ id ∧
        s.call (.readChannel (.single id)) = (.ok (.arr [m.toJson]), s) ∧
        (s.call (.deleteMessages (.single id))).2.messages.map (·.id) = [] := by
  intro s id
  have h : s.Reachable := reachable_filled _ _
  have hc : s.channel = some "228666916018118541" := channel_filled (by decide) _
  have read : (fetched (s.inChannel "228666916018118541") id).map (·.id) =
      ["900000000000000000"] := by decide +kernel
  obtain ⟨m, one, same⟩ := List.map_eq_singleton_iff.mp read
  have selected := selectedChannel?_of_channel (kept_of_reachable h) hc
  have hread := readChannel_of_collect selected (collect_fetched selected id)
  rw [one] at hread
  refine ⟨h, hc, by decide, by decide +kernel, m, ?_, hread, by decide +kernel⟩
  rw [same]
  decide

end Offline
end ChatQuery
