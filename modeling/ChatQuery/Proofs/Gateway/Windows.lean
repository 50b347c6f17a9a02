import ChatQuery.Proofs.Gateway.Reading

/-!
What a window shows of the selected channel, also around a message, and what its deletion removes.
A window is read without gaps that its own bounds do not make, so what is read is a part of the
history of the channel, in its order, and just this part is what a deletion takes away.
-/
namespace ChatQuery

namespace Offline

variable {s : Offline} {c : String} {w : Window}

/-- What a window shows of the messages. Without a centre these are the first of those between its
bounds. With one they are a page around the centre, and behind the page all messages above the lower
bound, up to the limit. -/
def shown (messages : List StoredMessage) (w : Window) : List StoredMessage :=
  match w.around with
  | none => (source.between precedes messages w).take w.limit
  | some id =>
    let size := min w.limit MessageSource.pageSize
    let start := (messages.findIdx? (·.id = id)).getD 0 - size / 2
    ((messages.drop start).take size ++
      (messages.drop (start + size)).filter fun m => w.after.all (precedes · m.id)).take w.limit

lemma shown_sublist (messages : List StoredMessage) (w : Window) :
    (shown messages w).Sublist messages := by
  unfold shown
  split
  · exact (List.take_sublist _ _).trans List.filter_sublist
  · next id around =>
    dsimp only
    generalize min w.limit MessageSource.pageSize = size
    generalize (messages.findIdx? (·.id = id)).getD 0 - size / 2 = start
    have split : (messages.drop start).take size ++ messages.drop (start + size) =
        messages.drop start := by
      rw [← List.drop_drop, List.take_append_drop]
    have part := (List.Sublist.refl ((messages.drop start).take size)).append
      (List.filter_sublist (p := fun m => w.after.all (precedes · m.id))
        (l := messages.drop (start + size)))
    rw [split] at part
    exact (List.take_sublist _ _).trans (part.trans (List.drop_sublist start messages))

lemma length_shown_le (messages : List StoredMessage) (w : Window) :
    (shown messages w).length ≤ w.limit := by
  unfold shown
  split <;> exact List.length_take_le _ _

/-- After a page of the channel there come, up to the limit, the messages behind the page. -/
lemma continued_page (serves : source.Serves precedes (s.inChannel c) (· = s)) {start size : Nat}
    (hsize : 0 < size) (hlimit : size ≤ w.limit) :
    source.continued w (((s.inChannel c).drop start).take size) s =
      (.ok ((((s.inChannel c).drop start).take size ++ ((s.inChannel c).drop (start + size)).filter
        fun m => w.after.all (precedes · m.id)).take w.limit), s) := by
  let page := ((s.inChannel c).drop start).take size
  have within : page.length ≤ w.limit := (List.length_take_le _ _).trans hlimit
  cases hlast : page.getLast? with
  | none =>
    -- An empty page begins behind the end of the history.
    have hpage : page = [] := List.getLast?_eq_none_iff.mp hlast
    have nothing : (s.inChannel c).drop start = [] :=
      (List.take_eq_nil_iff.mp hpage).resolve_left (by omega)
    have behind : (s.inChannel c).drop (start + size) = [] := by
      rw [← List.drop_drop, nothing, List.drop_nil]
    change source.continued w page s = (.ok ((page ++ _).take w.limit), s)
    rw [behind, hpage, MessageSource.continued_nil, List.filter_nil, List.append_nil, List.take_nil]
  | some last =>
    have split : s.inChannel c =
        ((s.inChannel c).take start ++ page) ++ (s.inChannel c).drop (start + size) := by
      rw [List.append_assoc, ← List.drop_drop, List.take_append_drop, List.take_append_drop]
    have hend : ((s.inChannel c).take start ++ page).getLast? = some last := by
      rw [List.getLast?_append, hlast]
      rfl
    obtain ⟨t, hcontinued, rfl⟩ := serves.continued_behind rfl hlast within
    rw [serves.between_behind w page.length split hend] at hcontinued
    exact hcontinued

/-- Reading collects what the window shows of the selected channel. -/
theorem collect_shown (h : Kept s) (hsent : s.sent ≤ capacity) (hc : s.channel = some c)
    (w : Window) : source.collect w s = (.ok (shown (s.inChannel c) w), s) := by
  have serves := serves_channel h hsent hc
  cases around : w.around with
  | none =>
    obtain ⟨t, hcollect, rfl⟩ := serves.collect_eq around rfl
    rw [hcollect, shown, around]
  | some id =>
    unfold shown
    rw [around]
    dsimp only
    by_cases none_asked : w.limit = 0
    · rw [MessageSource.collect_of_unwanted none_asked, none_asked, List.take_zero]
    · have some_asked : 0 < min w.limit MessageSource.pageSize := by
        simp only [MessageSource.pageSize]
        omega
      have hpage := fetch_of_channel (selectedChannel?_of_channel h hc)
        { w with limit := min w.limit MessageSource.pageSize }
      simp only [page, around] at hpage
      rw [← around] at hpage
      rw [MessageSource.collect_of_page none_asked hpage,
        continued_page serves some_asked (Nat.min_le_left _ _)]
      simp only [Except.map, List.take_take, Nat.min_self]

/-- Of messages with different identifiers those that are named are picked out. -/
lemma filter_named_of_sublist {part all : List StoredMessage} (h : part.Sublist all)
    (distinct : (all.map (·.id)).Nodup) :
    (all.filter fun m => (part.map (·.id)).contains m.id) = part := by
  induction h with
  | slnil => rfl
  | @cons part all m h ih =>
    obtain ⟨new, distinct⟩ := List.nodup_cons.mp distinct
    have unnamed : m.id ∉ part.map (·.id) := fun hm => new ((h.map _).subset hm)
    rw [List.filter_cons_of_neg (by rwa [List.contains_iff_mem]), ih distinct]
  | @cons_cons part all m h ih =>
    obtain ⟨new, distinct⟩ := List.nodup_cons.mp distinct
    rw [List.filter_cons_of_pos (by simp)]
    congr 1
    refine (List.filter_congr ?_).trans (ih distinct)
    intro n hn
    have other : n.id ≠ m.id := fun same => new (List.mem_map.mpr ⟨n, hn, same⟩)
    rw [List.map_cons, List.contains_cons, beq_false_of_ne other, Bool.false_or]

/-- Deleting a window removes exactly the messages that reading it would have answered with: at most
as many as its limit, all of them in the selected channel. It answers with their identifiers, no two
of which are equal. Nothing but the messages changes, those that are left stand as they stood, and
no other channel loses any. -/
theorem deleteMessages_removes (h : s.Reachable) (hsent : s.sent < 10 ^ 17)
    (hc : s.channel = some c) (w : Window) :
    ∃ removed : List StoredMessage,
      let ids := removed.map (·.id)
      let left : Offline := { s with messages := s.messages.filter fun m => !ids.contains m.id }
      s.readChannel w = (.ok (.arr (removed.map StoredMessage.toJson)), s) ∧
        s.deleteMessages w = (.ok (.ofStrings ids), left) ∧
        removed.Sublist (s.inChannel c) ∧ removed.length ≤ w.limit ∧ ids.Nodup ∧
        (s.messages.filter fun m => ids.contains m.id) = removed ∧
        ∀ d, d ≠ c → left.inChannel d = s.inChannel d := by
  have kept := kept_of_reachable h
  have selected := selectedChannel?_of_channel kept hc
  have collected := collect_shown kept (Nat.le_of_lt hsent) hc w
  have distinct := kept.distinct
  have part := shown_sublist (s.inChannel c) w
  have named := filter_named_of_sublist (part.trans List.filter_sublist) distinct
  refine ⟨shown (s.inChannel c) w, readChannel_of_collect selected collected,
    deleteMessages_of_collect selected collected, part, length_shown_le _ w, ?_, named, ?_⟩
  · exact distinct.sublist ((part.trans List.filter_sublist).map _)
  · intro d other
    simp only [inChannel, List.filter_filter]
    apply List.filter_congr
    intro m hm
    by_cases place : m.channelId = d
    · -- A message of another channel is not removed, so it is not named either.
      have stays : m ∉ shown (s.inChannel c) w := by
        intro gone
        have inside := of_decide_eq_true (List.mem_filter.mp (part.subset gone)).2
        exact other (place.symm.trans inside)
      rw [← named, List.mem_filter, not_and] at stays
      rw [decide_eq_true place, Bool.true_and]
      exact congrArg not (eq_false_of_ne_true (stays hm))
    · rw [decide_eq_false place, Bool.false_and]

/-- Around the second message of a channel it goes, and so does the newest, but not the one that was
sent to another channel between them. -/
theorem deleteMessages_removes_around :
    let select (id : String) (s : Offline) : Offline := (s.call (.selectChannel id)).2
    let send (s : Offline) : Offline := (s.call (.sendMessage ⟨"hello\n", [], []⟩)).2
    let token := "AAAAAAAAAAAAAAAAAAAAAAAA.BBBBBB.CCCCCCCCCCCCCCCCCCCCCCCCCCC"
    let here := "228666916018118541"
    let there := "364140226775784869"
    let s := send (select here (send (select there (send (send (select here
      (start.call (.login token)).2))))))
    let w : Window := ⟨2, none, none, some "900000000000000001"⟩
    s.Reachable ∧ s.sent < 10 ^ 17 ∧ s.channel = some here ∧
      (∃ removed : List StoredMessage,
        s.deleteMessages w = (.ok (.ofStrings (removed.map (·.id))), s.without (removed.map (·.id)))
          ∧ removed.length ≤ 2) ∧
      (s.deleteMessages w).2.messages.map (·.id) =
        ["900000000000000002", "900000000000000000"] := by
  intro select send token here there s w
  have h : s.Reachable :=
    .call _ (.call _ (.call _ (.call _ (.call _ (.call _ (.call _ (.call _ .start)))))))
  have hsent : s.sent < 10 ^ 17 := by decide +kernel
  have hc : s.channel = some here := by decide +kernel
  obtain ⟨removed, -, hdelete, -, hlength, -⟩ := deleteMessages_removes h hsent hc w
  exact ⟨h, hsent, hc, ⟨removed, hdelete, hlength⟩, by decide +kernel⟩

end Offline

end ChatQuery
