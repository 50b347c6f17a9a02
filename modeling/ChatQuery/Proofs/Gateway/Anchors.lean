import ChatQuery.Proofs.Gateway.Windows

/-!
The anchors of a window. A window without a centre is read and deleted between its bounds. One with
a centre begins with the page around it, whatever its bounds are, and what follows that page keeps
to the lower bound.
-/
namespace ChatQuery

namespace MessageSource

variable {σ ι : Type} {source : MessageSource σ ι} {below : String → String → Bool} {w : Window}
  {items all : List ι} {s t : σ}

/-- Every page that is asked for without a centre lies between the bounds of its request. -/
def KeepsBounds (source : MessageSource σ ι) (below : String → String → Bool) : Prop :=
  ∀ w s page t, w.around = none → source.fetch w s = (.ok page, t) →
    ∀ m ∈ page, w.admits below (source.idOf m) = true

/-- What is collected behind some messages lies below the last of them and above the lower bound. -/
lemma continued_keepsBounds (h : source.KeepsBounds below)
    (transitive : ∀ {a b c}, below a b = true → below b c = true → below a c = true)
    (hall : source.continued w items s = (.ok all, t)) :
    ∃ later, all = items ++ later ∧ ∀ m ∈ later,
      w.after.all (below · (source.idOf m)) = true ∧
      ∃ last, items.getLast? = some last ∧ below (source.idOf m) (source.idOf last) = true := by
  fun_induction source.continued w items s with
  | case1 items s short none =>
    cases hall
    exact ⟨[], (List.append_nil _).symm, List.forall_mem_nil _⟩
  | case2 items s short last hlast e u hfetch => cases hall
  | case3 items s short last hlast u hfetch =>
    cases hall
    exact ⟨[], (List.append_nil _).symm, List.forall_mem_nil _⟩
  | case4 items s short last hlast i is u hfetch ih =>
    obtain ⟨later, rfl, hlater⟩ := ih hall
    have hpage : ∀ m ∈ i :: is, w.after.all (below · (source.idOf m)) = true ∧
        below (source.idOf m) (source.idOf last) = true := by
      intro m hm
      have admitted := h _ _ _ _ rfl hfetch m hm
      simp only [Window.admits, nextPage, Option.all_some, Bool.and_eq_true] at admitted
      exact ⟨admitted.2, admitted.1⟩
    refine ⟨i :: is ++ later, List.append_assoc _ _ _, ?_⟩
    intro m hm
    rcases List.mem_append.mp hm with hm | hm
    · exact ⟨(hpage m hm).1, last, hlast, (hpage m hm).2⟩
    · -- Below the last message of the page, and so below the last one before it.
      obtain ⟨hafter, end', hend, hbelow⟩ := hlater m hm
      have inPage : end' ∈ i :: is := by
        rw [List.getLast?_append, List.getLast?_cons, Option.some_or] at hend
        exact List.mem_of_getLast? (List.getLast?_cons.trans hend)
      exact ⟨hafter, last, hlast, transitive hbelow (hpage end' inPage).2⟩
  | case5 items s full =>
    cases hall
    exact ⟨[], (List.append_nil _).symm, List.forall_mem_nil _⟩

end MessageSource

namespace Offline

variable {s : Offline} {c : String} {w : Window}

lemma length_page_le (messages : List StoredMessage) (w : Window) :
    (page messages w).length ≤ w.limit := by
  unfold page
  split <;> exact List.length_take_le _ _

lemma page_sublist (messages : List StoredMessage) (w : Window) :
    (page messages w).Sublist messages := by
  unfold page
  split
  · exact (List.take_sublist _ _).trans (List.drop_sublist _ _)
  · exact (List.take_sublist _ _).trans (List.filter_sublist.trans List.filter_sublist)

lemma admits_of_page {messages : List StoredMessage} (hw : w.around = none) {m : StoredMessage}
    (hm : m ∈ page messages w) : w.admits precedes m.id = true := by
  rw [page_eq messages hw] at hm
  exact (List.mem_filter.mp (List.mem_of_mem_take hm)).2

/-- Reading begins with the first page. What comes behind it lies below it and above the lower bound
of the window. -/
lemma collect_first (hc : s.selectedChannel? = .ok c) (w : Window) :
    let first := page (s.inChannel c) { w with limit := min w.limit MessageSource.pageSize }
    ∃ later, source.collect w s = (.ok (first ++ later), s) ∧ ∀ m ∈ later,
      w.after.all (· < m.id) = true ∧ ∃ n ∈ first, m.id < n.id := by
  intro first
  have keepsBounds : source.KeepsBounds precedes := by
    intro v u items t hv hfetch m hm
    change fetch v u = (.ok items, t) at hfetch
    unfold fetch at hfetch
    obtain ⟨hitems, -⟩ := Prod.mk.inj hfetch
    obtain ⟨d, -, rfl⟩ := map_eq_ok hitems
    exact admits_of_page hv hm
  have short : first.length ≤ w.limit :=
    (length_page_le _ _).trans (Nat.min_le_left _ _)
  by_cases unwanted : w.limit = 0
  · have nothing : first = [] := List.length_eq_zero_iff.mp (by omega)
    refine ⟨[], ?_, List.forall_mem_nil _⟩
    rw [MessageSource.collect_of_unwanted unwanted, nothing, List.append_nil]
  · obtain ⟨all, hall⟩ := continued_of_channel hc w first
    obtain ⟨later, rfl, hlater⟩ := MessageSource.continued_keepsBounds keepsBounds
      (fun hab hbc => decide_eq_true ((of_decide_eq_true hab).trans (of_decide_eq_true hbc))) hall
    refine ⟨later.take (w.limit - first.length), ?_, ?_⟩
    · rw [MessageSource.collect_of_page unwanted (fetch_of_channel hc _), hall]
      change (Except.ok (List.take w.limit (first ++ later)), s) = _
      rw [List.take_append, List.take_of_length_le short]
    · intro m hm
      obtain ⟨hafter, last, hlast, hbelow⟩ := hlater m (List.mem_of_mem_take hm)
      exact ⟨hafter, last, List.mem_of_getLast? hlast, of_decide_eq_true hbelow⟩

lemma admits_iff {id : String} : w.admits precedes id = true ↔
    (∀ b ∈ w.before, id < b) ∧ ∀ a ∈ w.after, a < id := by
  simp [Window.admits, precedes, Option.all_eq_true]

/-- A deletion takes away the messages with the identifiers that are read, in whatever channel. -/
lemma removed_iff {all : List StoredMessage} (hc : s.selectedChannel? = .ok c)
    (hall : source.collect w s = (.ok all, s)) {m : StoredMessage} (hm : m ∈ s.messages) :
    m ∉ (s.deleteMessages w).2.messages ↔ ∃ n ∈ all, n.id = m.id := by
  simp [deleteMessages_of_collect hc hall, without, hm]

/-- The bounds of a window and what is read and deleted of it. Without a centre all of it lies
between the bounds. With one, the page around the centre is the same whatever the bounds are. What
lies behind that page is above the lower bound, and everything lies between the bounds just if the
page does. -/
theorem bounds_kept (h : s.Reachable) (hc : s.channel = some c) (w : Window) :
    let within (m : StoredMessage) : Prop := (∀ b ∈ w.before, m.id < b) ∧ ∀ a ∈ w.after, a < m.id
    let removed (m : StoredMessage) : Prop :=
      m ∈ s.messages ∧ m ∉ (s.deleteMessages w).2.messages
    let first := page (s.inChannel c) { w with limit := min w.limit 100 }
    ∃ later : List StoredMessage,
      s.readChannel w = (.ok (.arr ((first ++ later).map StoredMessage.toJson)), s) ∧
      (w.around = none → (∀ m ∈ first ++ later, within m) ∧ ∀ m, removed m → within m) ∧
      (w.around ≠ none → first = page (s.inChannel c) ⟨min w.limit 100, none, none, w.around⟩) ∧
      ((∀ m ∈ first ++ later, within m) ↔ ∀ m ∈ first, within m) ∧
      ((∀ m, removed m → within m) ↔ ∀ m ∈ first, within m) ∧
      ∀ m ∈ later, ∀ a ∈ w.after, a < m.id := by
  intro within removed first
  have selected := selectedChannel?_of_channel (kept_of_reachable h) hc
  obtain ⟨later, hcollect, hlater⟩ := collect_first selected w
  have behind : ∀ m ∈ later, ∀ a ∈ w.after, a < m.id := by
    intro m hm
    simpa [Option.all_eq_true] using (hlater m hm).1
  have read : (∀ m ∈ first ++ later, within m) ↔ ∀ m ∈ first, within m := by
    refine ⟨fun hall m hm => hall m (List.mem_append_left _ hm), fun hfirst m hm => ?_⟩
    rcases List.mem_append.mp hm with hm | hm
    · exact hfirst m hm
    · obtain ⟨-, n, hn, hlt⟩ := hlater m hm
      exact ⟨fun b hb => hlt.trans ((hfirst n hn).1 b hb), behind m hm⟩
  have deleted : (∀ m, removed m → within m) ↔ ∀ m ∈ first, within m := by
    constructor
    · intro hall m hm
      have stored : m ∈ s.messages :=
        List.mem_of_mem_filter ((page_sublist _ _).subset hm)
      exact hall m ⟨stored, (removed_iff selected hcollect stored).mpr
        ⟨m, List.mem_append_left _ hm, rfl⟩⟩
    · rintro hfirst m ⟨stored, gone⟩
      obtain ⟨n, hn, same⟩ := (removed_iff selected hcollect stored).mp gone
      have hwithin := read.mpr hfirst n hn
      simp only [within] at hwithin ⊢
      rwa [← same]
  refine ⟨later, readChannel_of_collect selected hcollect, ?_, ?_, read, deleted, behind⟩
  · intro around
    have uncentred : ({ w with limit := min w.limit 100 } : Window).around = none := around
    have hfirst : ∀ m ∈ first, within m := fun m hm => admits_iff.mp (admits_of_page uncentred hm)
    exact ⟨read.mpr hfirst, deleted.mpr hfirst⟩
  · intro around
    obtain ⟨centre, centred⟩ := Option.ne_none_iff_exists'.mp around
    simp only [first, page, centred]

/-- The gateway after so many messages were sent to one channel. -/
def filled (channel : String) : Nat → Offline
  | 0 => (call (.selectChannel channel) (call
      (.login "AAAAAAAAAAAAAAAAAAAAAAAA.BBBBBB.CCCCCCCCCCCCCCCCCCCCCCCCCCC") start).2).2
  | n + 1 => (call (.sendMessage ⟨"hello\n", [], []⟩) (filled channel n)).2

lemma reachable_filled (channel : String) (n : Nat) : (filled channel n).Reachable := by
  induction n with
  | zero => exact .call _ (.call _ .start)
  | succ n ih => exact .call _ ih

section Filled

variable {channel : String} (hid : isSnowflake channel = true) (n : Nat)

include hid

lemma filled_linked :
    (filled channel n).selectedChannel? = .ok channel ∧ (filled channel n).sent = n := by
  induction n with
  | zero =>
    simp only [filled, call, selectChannel, checkConnected, checkId, hid]
    exact ⟨rfl, rfl⟩
  | succ n ih =>
    obtain ⟨selected, sent⟩ := ih
    simp only [filled, call, sendMessage, selected, sent, and_true]
    exact selected

lemma channel_filled : (filled channel n).channel = some channel :=
  (selectedChannel?_eq_ok (filled_linked hid n).1).2

lemma sent_filled : (filled channel n).sent = n := (filled_linked hid n).2

end Filled

/-- Of three messages the one between the other two is read. -/
theorem bounds_kept_between :
    let s := filled "228666916018118541" 3
    let w : Window := ⟨5, some "900000000000000002", some "900000000000000000", none⟩
    s.Reachable ∧ s.channel = some "228666916018118541" ∧
      ∃ read : List StoredMessage,
        s.readChannel w = (.ok (.arr (read.map StoredMessage.toJson)), s) ∧
        (∀ m ∈ read, m.id < "900000000000000002" ∧ "900000000000000000" < m.id) ∧
        (s.deleteMessages w).2.messages.map (·.id) =
          ["900000000000000002", "900000000000000000"] := by
  intro s w
  have h : s.Reachable := reachable_filled _ _
  have hc : s.channel = some "228666916018118541" := channel_filled (by decide) _
  obtain ⟨later, hread, between, -⟩ := bounds_kept h hc w
  refine ⟨h, hc, _, hread, ?_, by decide +kernel⟩
  intro m hm
  exact ((between rfl).1 m hm).imp (· _ rfl) (· _ rfl)

/-- A message is read and deleted around itself although it is not below itself. -/
theorem centre_passes_bounds :
    let s := filled "228666916018118541" 1
    let id := "900000000000000000"
    let w : Window := ⟨1, some id, none, some id⟩
    s.Reachable ∧ s.channel = some "228666916018118541" ∧ s.messages.map (·.id) = [id] ∧
      ∃ read : List StoredMessage,
        s.readChannel w = (.ok (.arr (read.map StoredMessage.toJson)), s) ∧
        read.map (·.id) = [id] ∧ ¬ id < id ∧ (s.deleteMessages w).2.messages.map (·.id) = [] := by
  intro s id w
  have h : s.Reachable := reachable_filled _ _
  have hc : s.channel = some "228666916018118541" := channel_filled (by decide) _
  have hsent : s.sent ≤ capacity := by
    rw [sent_filled (by decide)]
    decide
  have kept := kept_of_reachable h
  exact ⟨h, hc, by decide +kernel, shown (s.inChannel "228666916018118541") w,
    readChannel_of_collect (selectedChannel?_of_channel kept hc) (collect_shown kept hsent hc w),
    by decide +kernel, lt_irrefl id, by decide +kernel⟩

/-- The place of a message is found by its identifier. -/
lemma findIdx?_of_distinct {messages : List StoredMessage} (distinct : (messages.map (·.id)).Nodup)
    {p : Nat} {m : StoredMessage} (hm : messages[p]? = some m) :
    messages.findIdx? (·.id = m.id) = some p := by
  obtain ⟨hp, rfl⟩ := List.getElem?_eq_some_iff.mp hm
  rw [List.findIdx?_eq_some_iff_getElem]
  refine ⟨hp, decide_eq_true rfl, ?_⟩
  intro q hq same
  have here : p < (messages.map (·.id)).length := by simpa using hp
  have before : q < (messages.map (·.id)).length := hq.trans here
  have equal : (messages.map (·.id))[q] = (messages.map (·.id))[p] := by simpa using same
  exact hq.ne (distinct.getElem_inj_iff.mp equal)

/-- Without a lower bound nothing is left out behind the page around a message. -/
lemma shown_around {messages : List StoredMessage} (distinct : (messages.map (·.id)).Nodup)
    (hafter : w.after = none) {p : Nat} {m : StoredMessage} (hm : messages[p]? = some m)
    (haround : w.around = some m.id) : shown messages w =
      (messages.drop (p - min w.limit MessageSource.pageSize / 2)).take w.limit := by
  unfold shown
  rw [haround]
  dsimp only
  rw [findIdx?_of_distinct distinct hm, Option.getD_some, hafter]
  simp only [Option.all_none, List.filter_true]
  rw [← List.drop_drop, List.take_append_drop]

/-- Around a message of the channel, and without a lower bound, the messages from half a page above
it on are read. They are a contiguous part of the history of the channel, newest first, no two of
them are the same, and the message is one of them. -/
theorem around_contiguous (h : s.Reachable) (hsent : s.sent < 10 ^ 17) (hc : s.channel = some c)
    (some_wanted : 1 ≤ w.limit) (hafter : w.after = none) {p : Nat} {m : StoredMessage}
    (hm : (s.inChannel c)[p]? = some m) (haround : w.around = some m.id) :
    let start := p - min w.limit 100 / 2
    let read := ((s.inChannel c).drop start).take w.limit
    s.readChannel w = (.ok (.arr (read.map StoredMessage.toJson)), s) ∧
      read.length ≤ w.limit ∧ read <:+: s.inChannel c ∧
      (read.Pairwise fun m n => n.id < m.id) ∧ (read.map (·.id)).Nodup ∧
      read[p - start]? = some m := by
  intro start read
  have kept := kept_of_reachable h
  have selected := selectedChannel?_of_channel kept hc
  have distinct : ((s.inChannel c).map (·.id)).Nodup :=
    kept.distinct.sublist (List.filter_sublist.map _)
  have part : read <:+: s.inChannel c :=
    (List.take_prefix _ _).isInfix.trans (List.drop_suffix _ _).isInfix
  have collected := collect_shown kept (Nat.le_of_lt hsent) hc w
  rw [shown_around distinct hafter hm haround] at collected
  refine ⟨readChannel_of_collect selected collected, List.length_take_le _ _, part, ?_,
    distinct.sublist (part.sublist.map _), ?_⟩
  · exact ((kept.descending (Nat.le_of_lt hsent)).filter _).sublist part.sublist
  · have inside : p - start < w.limit := by omega
    have place : start + (p - start) = p := by omega
    rw [List.getElem?_take_of_lt inside, List.getElem?_drop, place, hm]

/-- Around the middle of 120 messages more than a page is read: all but the newest ten. -/
theorem around_contiguous_middle :
    let s := filled "228666916018118541" 120
    let w : Window := ⟨130, none, none, some "900000000000000059"⟩
    s.Reachable ∧ s.sent < 10 ^ 17 ∧ s.channel = some "228666916018118541" ∧
      ∃ m, m.id = "900000000000000059" ∧
        ∃ read : List StoredMessage,
          s.readChannel w = (.ok (.arr (read.map StoredMessage.toJson)), s) ∧
          read.length = 110 ∧ read[50]? = some m ∧ (read.map (·.id)).Nodup := by
  intro s w
  have h : s.Reachable := reachable_filled _ _
  have hsent : s.sent < 10 ^ 17 := by
    rw [sent_filled (by decide)]
    decide
  have hc : s.channel = some "228666916018118541" := channel_filled (by decide) _
  have middle : (s.inChannel "228666916018118541")[60]?.map (·.id) = some "900000000000000059" := by
    decide +kernel
  obtain ⟨m, hm, hid⟩ := Option.map_eq_some_iff.mp middle
  obtain ⟨hread, -, -, -, distinct, anchor⟩ :=
    around_contiguous (w := w) h hsent hc (by decide) rfl hm (congrArg some hid.symm)
  have place : 60 - (60 - min w.limit 100 / 2) = 50 := by decide
  rw [place] at anchor
  exact ⟨h, hsent, hc, m, hid, _, hread, by decide +kernel, anchor, distinct⟩

end Offline
end ChatQuery
