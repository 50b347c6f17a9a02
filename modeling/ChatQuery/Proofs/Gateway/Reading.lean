import ChatQuery.Proofs.Gateway.Reachable
import ChatQuery.Proofs.History.Paging
import Mathlib.Data.String.Basic

/-!
Reading from the offline gateway. Identifiers are decimals of one length, so their order as texts is
the order in which the messages were sent, and the selected channel is a source that holds its
messages in that order.
-/
namespace ChatQuery

section Decimals

variable {m n : Nat}

lemma append_lt_append_of_lt {u v : List Char} (hlength : u.length = v.length) (huv : u < v)
    (x y : List Char) : u ++ x < v ++ y := by
  induction u generalizing v with
  | nil =>
    rw [List.eq_nil_of_length_eq_zero hlength.symm] at huv
    exact absurd huv (lt_irrefl _)
  | cons c u ih =>
    cases v with
    | nil => cases hlength
    | cons d v =>
      rw [List.cons_append, List.cons_append, List.cons_lt_cons_iff]
      rcases List.cons_lt_cons_iff.mp huv with hcd | ⟨hcd, hrest⟩
      · exact .inl hcd
      · exact .inr ⟨hcd, ih (Nat.succ.inj hlength) hrest⟩

lemma digitChar_lt_digitChar (hmn : m < n) (hn : n < 10) : m.digitChar < n.digitChar := by
  have hm : m.digitChar.toNat = 48 + m := Nat.toNat_digitChar_of_lt_ten (by omega)
  have hn : n.digitChar.toNat = 48 + n := Nat.toNat_digitChar_of_lt_ten hn
  change m.digitChar.toNat < n.digitChar.toNat
  omega

lemma toDigits_of_le (hn : 10 ≤ n) :
    Nat.toDigits 10 n = Nat.toDigits 10 (n / 10) ++ [(n % 10).digitChar] := by
  rw [Nat.toDigits_eq_if (by decide), if_neg (by omega)]

/-- Of two decimals of one length the smaller number has the smaller text. -/
lemma toDigits_lt_toDigits (hmn : m < n)
    (hlength : (Nat.toDigits 10 m).length = (Nat.toDigits 10 n).length) :
    Nat.toDigits 10 m < Nat.toDigits 10 n := by
  induction n using Nat.strongRecOn generalizing m with
  | ind n ih =>
    by_cases hn : n < 10
    · have hm : m < 10 := by omega
      rw [Nat.toDigits_of_lt_base hm, Nat.toDigits_of_lt_base hn]
      exact List.cons_lt_cons_iff.mpr (.inl (digitChar_lt_digitChar hmn hn))
    · have some_digit := Nat.length_toDigits_pos (b := 10) (n := n / 10)
      rw [toDigits_of_le (show 10 ≤ n by omega), List.length_append, List.length_singleton]
        at hlength
      have hm : 10 ≤ m := by
        by_contra small
        rw [Nat.toDigits_of_lt_base (by omega), List.length_singleton] at hlength
        omega
      rw [toDigits_of_le hm, List.length_append, List.length_singleton] at hlength
      rw [toDigits_of_le hm, toDigits_of_le (show 10 ≤ n by omega)]
      -- Either the leading digits differ already, or only the last ones do.
      rcases Nat.lt_or_ge (m / 10) (n / 10) with hlt | hge
      · have hleading := ih (n / 10) (by omega) hlt (by omega)
        exact append_lt_append_of_lt (by omega) hleading _ _
      · have hsame : m / 10 = n / 10 := by omega
        rw [hsame]
        apply List.append_left_lt
        exact List.cons_lt_cons_iff.mpr (.inl (digitChar_lt_digitChar (by omega) (by omega)))

end Decimals

namespace Offline

variable {s : Offline} {c : String} {k l : Nat}

/-- So many messages have identifiers of 18 digits. -/
def capacity : Nat := 10 ^ 17

lemma numbered_length (hk : k < capacity) :
    (Nat.toDigits 10 (firstMessageId + k)).length = 18 := by
  have long : ¬ (Nat.toDigits 10 (firstMessageId + k)).length ≤ 17 := by
    rw [Nat.length_toDigits_le_iff (by decide) (by decide)]
    simp only [firstMessageId]
    omega
  have short : (Nat.toDigits 10 (firstMessageId + k)).length ≤ 18 := by
    rw [Nat.length_toDigits_le_iff (by decide) (by decide)]
    simp only [firstMessageId, capacity] at hk ⊢
    omega
  omega

/-- Later messages have greater identifiers. -/
theorem numbered_lt_numbered (hkl : k < l) (hl : l < capacity) : numbered k < numbered l := by
  have hlength := (numbered_length (hkl.trans hl)).trans (numbered_length hl).symm
  unfold numbered
  rw [String.lt_iff_toList_lt, Nat.toString_eq_ofList_toDigits, Nat.toString_eq_ofList_toDigits,
    String.toList_ofList, String.toList_ofList]
  exact toDigits_lt_toDigits (by omega) hlength

/-- Messages stand in falling order of their identifiers. -/
theorem Kept.descending (h : Kept s) (hsent : s.sent ≤ capacity) :
    s.messages.Pairwise fun m n => n.id < m.id := by
  obtain ⟨ks, hids, hsorted, hbound⟩ := h.ordered
  have sorted : (ks.map numbered).Pairwise fun a b => b < a := by
    rw [List.pairwise_map]
    refine hsorted.imp_of_mem ?_
    intro k l hk _ hlk
    exact numbered_lt_numbered hlk ((hbound k hk).trans_le hsent)
  rw [← hids, List.pairwise_map] at sorted
  exact sorted

lemma selectedChannel?_of_channel (h : Kept s) (hc : s.channel = some c) :
    s.selectedChannel? = .ok c := by
  unfold selectedChannel?
  cases ht : s.token with
  | none =>
    rw [(h.linked ht).2] at hc
    cases hc
  | some token => simp only [hc]

/-- Identifiers in the order of their texts. -/
def precedes (a b : String) : Bool := a < b

lemma page_eq {w : Window} (messages : List StoredMessage) (hw : w.around = none) :
    page messages w = (source.between precedes messages w).take w.limit := by
  unfold page
  rw [hw]
  simp only [List.filter_filter]
  congr 1
  apply List.filter_congr
  intro m _
  exact Bool.and_comm _ _

/-- The offline gateway is a source of the messages in its selected channel. -/
theorem serves_channel (h : Kept s) (hsent : s.sent ≤ capacity) (hc : s.channel = some c) :
    source.Serves precedes (s.inChannel c) (· = s) where
  irreflexive a := decide_eq_false (lt_irrefl a)
  transitive hab hbc :=
    decide_eq_true ((of_decide_eq_true hab).trans (of_decide_eq_true hbc))
  descending := ((h.descending hsent).filter _).imp decide_eq_true
  answers := by
    rintro w s hw rfl
    have hpage := page_eq (s.inChannel c) hw
    refine ⟨_, s, fetch_of_channel (selectedChannel?_of_channel h hc) w, rfl, ?_, ?_, ?_⟩
    · rw [hpage]
      exact List.take_prefix _ _
    · rw [hpage, List.length_take]
      exact Nat.min_le_left _ _
    · intro hnil
      rw [hpage, List.take_eq_nil_iff] at hnil
      exact hnil

end Offline

/-- Reading page by page is one big read. From every source that answers with the front of what lies
between the bounds, however short its pages, a window without a centre is collected as the first of
the messages between its bounds, as many as its limit allows. In every state that it can come to,
the offline gateway is such a source for its selected channel, so reading the channel answers with
exactly these messages. -/
theorem collect_reads_window :
    (∀ {σ ι : Type} {source : MessageSource σ ι} {below : String → String → Bool}
      {messages : List ι} {holds : σ → Prop}, source.Serves below messages holds →
      ∀ (w : Window) (s : σ), w.around = none → holds s →
        ∃ t, source.collect w s =
            (.ok ((messages.filter fun m => w.admits below (source.idOf m)).take w.limit), t) ∧
          holds t) ∧
    ∀ {s : Offline} {c : String}, s.Reachable → s.sent < 10 ^ 17 → s.channel = some c →
      Offline.source.Serves (fun a b => a < b) (s.inChannel c) (· = s) ∧
      ∀ w : Window, w.around = none →
        s.readChannel w =
          (.ok (.arr ((((s.inChannel c).filter fun m =>
            w.before.all (m.id < ·) && w.after.all (· < m.id)).take w.limit).map
              StoredMessage.toJson)), s) := by
  refine ⟨fun h w s hw hs => h.collect_eq hw hs, ?_⟩
  intro s c hreach hsent hc
  have kept := Offline.kept_of_reachable hreach
  have serves := Offline.serves_channel kept (Nat.le_of_lt hsent) hc
  refine ⟨serves, ?_⟩
  intro w hw
  obtain ⟨t, hcollect, rfl⟩ := serves.collect_eq hw rfl
  unfold Offline.readChannel
  rw [Offline.selectedChannel?_of_channel kept hc]
  simp only [hcollect]
  rfl

/-- Texts that are their own identifiers, handed out at most two at a time. -/
def twoAtATime (texts : List String) : MessageSource Unit String where
  idOf := id
  fetch w _ := (.ok ((texts.filter (w.admits fun a b => a < b)).take (min w.limit 2)), ())
  delete _ _ := (.ok (), ())

lemma twoAtATime_serves {texts : List String} (h : texts.Pairwise (· > ·)) :
    (twoAtATime texts).Serves (fun a b => a < b) texts fun _ => True where
  irreflexive a := decide_eq_false (lt_irrefl a)
  transitive hab hbc :=
    decide_eq_true ((of_decide_eq_true hab).trans (of_decide_eq_true hbc))
  descending := h.imp decide_eq_true
  answers := by
    intro w s _ _
    refine ⟨_, (), rfl, trivial, List.take_prefix _ _, ?_, ?_⟩
    · rw [List.length_take]
      omega
    · intro hnil
      rw [List.take_eq_nil_iff] at hnil
      exact hnil.imp (by omega) id

theorem collect_reads_window_in_twos :
    (twoAtATime ["5", "4", "3", "2", "1"]).collect ⟨3, some "5", none, none⟩ () =
        (.ok ["4", "3", "2"], ()) ∧
      ∃ s : Offline, s.Reachable ∧ s.sent < 10 ^ 17 ∧ s.channel = some "228666916018118541" ∧
        ∃ messages : List StoredMessage,
          messages.map (·.id) = ["900000000000000001", "900000000000000000"] ∧
            s.readChannel ⟨5, some "900000000000000002", none, none⟩ =
              (.ok (.arr (messages.map StoredMessage.toJson)), s) := by
  constructor
  · have sorted : ["5", "4", "3", "2", "1"].Pairwise (· > ·) := by decide
    obtain ⟨t, ht, -⟩ := collect_reads_window.1 (twoAtATime_serves sorted)
      ⟨3, some "5", none, none⟩ () rfl trivial
    exact ht
  · let send (s : Offline) : Offline := (s.call (.sendMessage ⟨"hello\n", [], []⟩)).2
    let token := "AAAAAAAAAAAAAAAAAAAAAAAA.BBBBBB.CCCCCCCCCCCCCCCCCCCCCCCCCCC"
    let begun := (Offline.call (.selectChannel "228666916018118541")
      (Offline.call (.login token) .start).2).2
    have hreach : (send (send (send begun))).Reachable :=
      .call _ (.call _ (.call _ (.call _ (.call _ .start))))
    have hsent : (send (send (send begun))).sent < 10 ^ 17 := by decide +kernel
    have hc : (send (send (send begun))).channel = some "228666916018118541" := by decide +kernel
    refine ⟨_, hreach, hsent, hc, _, ?_,
      (collect_reads_window.2 hreach hsent hc).2 ⟨5, some "900000000000000002", none, none⟩ rfl⟩
    decide +kernel

end ChatQuery
