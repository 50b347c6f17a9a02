import ChatQuery.History
import Mathlib.Tactic.Common

/-!
Reading a window page by page. A source that holds messages in descending order and answers every
request without a centre from the front of what lies between the bounds may cut its pages as short
as it likes: collecting gives the window as if it had been read in one piece. What is collected
behind a first page is what lies behind that page and above the lower bound of the window.
-/
namespace ChatQuery

/-- Whether an identifier lies strictly between the bounds of a window. -/
def Window.admits (below : String → String → Bool) (w : Window) (id : String) : Bool :=
  w.before.all (below id ·) && w.after.all (below · id)

namespace MessageSource

variable {σ ι : Type} {source : MessageSource σ ι} {below : String → String → Bool}
  {messages items rest : List ι} {holds : σ → Prop} {w : Window} {s : σ} {last : ι}

/-! ### The steps of the loop -/

section Steps

variable {page : List ι} {e : GatewayError} {t : σ}

lemma continued_nil (source : MessageSource σ ι) (w : Window) (s : σ) :
    source.continued w [] s = (.ok [], s) := by
  rw [continued]
  split_ifs <;> rfl

lemma continued_of_full (full : w.limit ≤ items.length) :
    source.continued w items s = (.ok items, s) := by
  rw [continued, if_neg (Nat.not_lt_of_le full)]

section Wanting

variable (wanting : items.length < w.limit) (collected : items.getLast? = some last)

include wanting collected

lemma continued_of_error
    (h : source.fetch (nextPage w items.length (source.idOf last)) s = (.error e, t)) :
    source.continued w items s = (.error e, t) := by
  rw [continued, if_pos wanting]
  simp only [collected, h]

lemma continued_of_empty
    (h : source.fetch (nextPage w items.length (source.idOf last)) s = (.ok [], t)) :
    source.continued w items s = (.ok items, t) := by
  rw [continued, if_pos wanting]
  simp only [collected, h]

lemma continued_of_page {i : ι} {is : List ι}
    (h : source.fetch (nextPage w items.length (source.idOf last)) s = (.ok (i :: is), t)) :
    source.continued w items s = source.continued w (items ++ i :: is) t := by
  rw [continued, if_pos wanting]
  simp only [collected, h]

end Wanting

lemma collect_of_unwanted (unwanted : w.limit = 0) : source.collect w s = (.ok [], s) := by
  rw [collect, if_pos unwanted]

section Wanted

variable (wanted : w.limit ≠ 0)

include wanted

lemma collect_of_error
    (h : source.fetch { w with limit := min w.limit pageSize } s = (.error e, t)) :
    source.collect w s = (.error e, t) := by
  rw [collect, if_neg wanted, h]

lemma collect_of_page
    (h : source.fetch { w with limit := min w.limit pageSize } s = (.ok page, t)) :
    source.collect w s =
      ((source.continued w page t).1.map (List.take w.limit), (source.continued w page t).2) := by
  rw [collect, if_neg wanted, h]
  simp only
  rcases source.continued w page t with ⟨answer, u⟩
  cases answer <;> rfl

end Wanted

end Steps

/-- What of the messages lies between the bounds of a window. -/
def between (source : MessageSource σ ι) (below : String → String → Bool) (messages : List ι)
    (w : Window) : List ι :=
  messages.filter fun m => w.admits below (source.idOf m)

/-- In the states that satisfy `holds` the source holds the messages, newest first, and a request
without a centre is answered by the front of what lies between its bounds. The page has at most as
many messages as asked for, and is empty only if none was asked for or there is none. -/
structure Serves (source : MessageSource σ ι) (below : String → String → Bool)
    (messages : List ι) (holds : σ → Prop) : Prop where
  irreflexive : ∀ a, below a a = false
  transitive : ∀ {a b c}, below a b = true → below b c = true → below a c = true
  descending : messages.Pairwise fun m n => below (source.idOf n) (source.idOf m) = true
  answers : ∀ w s, w.around = none → holds s →
    ∃ page t, source.fetch w s = (.ok page, t) ∧ holds t ∧
      page <+: source.between below messages w ∧ page.length ≤ w.limit ∧
      (page = [] → w.limit = 0 ∨ source.between below messages w = [])

namespace Serves

lemma asymmetric (h : source.Serves below messages holds) {a b : String}
    (hab : below a b = true) : below b a = false := by
  by_contra hba
  have haa := h.transitive hab (eq_true_of_ne_false hba)
  rw [h.irreflexive] at haa
  cases haa

/-- What lies below a message of the window, and above its lower bound, lies in the window. -/
lemma admits_of_nextPage (h : source.Serves below messages holds) {n : Nat} {id bound : String}
    (hbound : w.admits below bound = true) (hid : (nextPage w n bound).admits below id = true) :
    w.admits below id = true := by
  obtain ⟨limit, before, after, around⟩ := w
  simp only [Window.admits, nextPage, Bool.and_eq_true, Option.all_some] at hbound hid ⊢
  refine ⟨?_, hid.2⟩
  cases before with
  | none => rfl
  | some b => exact h.transitive hid.1 hbound.1

/-- The next request is about exactly what follows the messages collected so far. -/
lemma between_nextPage (h : source.Serves below messages holds) (n : Nat)
    (hw : source.between below messages w = items ++ rest) (hlast : items.getLast? = some last) :
    source.between below messages (nextPage w n (source.idOf last)) = rest := by
  obtain ⟨front, rfl⟩ := List.getLast?_eq_some_iff.mp hlast
  have sorted : (front ++ [last] ++ rest).Pairwise fun m n =>
      below (source.idOf n) (source.idOf m) = true := hw ▸ h.descending.filter _
  have admitted : ∀ m ∈ front ++ [last] ++ rest, w.admits below (source.idOf m) = true := by
    intro m hm
    rw [← hw] at hm
    exact (List.mem_filter.mp hm).2
  obtain ⟨-, -, later⟩ := List.pairwise_append.mp sorted
  obtain ⟨-, -, earlier⟩ := List.pairwise_append.mp (List.pairwise_append.mp sorted).1
  let next : Window := nextPage w n (source.idOf last)
  have narrower : messages.filter (fun m => next.admits below (source.idOf m)) =
      (front ++ [last] ++ rest).filter fun m => next.admits below (source.idOf m) := by
    rw [← hw, between, List.filter_filter]
    apply List.filter_congr
    intro m _
    rw [Bool.eq_iff_iff, Bool.and_eq_true]
    refine ⟨fun hm => ⟨hm, ?_⟩, And.left⟩
    exact h.admits_of_nextPage (admitted last (by simp)) hm
  -- Nothing collected is below the last message, and all that follows is.
  have old : (front ++ [last]).filter (fun m => next.admits below (source.idOf m)) = [] := by
    rw [List.filter_eq_nil_iff]
    intro m hm
    have notBelow : below (source.idOf m) (source.idOf last) = false := by
      rcases List.mem_append.mp hm with hm | hm
      · exact h.asymmetric (earlier m hm last (List.mem_singleton_self last))
      · rw [List.mem_singleton.mp hm]
        exact h.irreflexive _
    simp [next, nextPage, Window.admits, notBelow]
  have new : rest.filter (fun m => next.admits below (source.idOf m)) = rest := by
    rw [List.filter_eq_self]
    intro m hm
    have hbelow := later last (by simp) m hm
    have hafter := admitted m (List.mem_append_right _ hm)
    simp only [Window.admits, Bool.and_eq_true] at hafter
    simp [next, nextPage, Window.admits, hbelow, hafter.2]
  rw [between, narrower, List.filter_append, old, new, List.nil_append]

/-- What follows some messages is asked for down to the lower bound of the window, whatever its other
bounds are. -/
lemma between_behind (h : source.Serves below messages holds) (w : Window) (n : Nat)
    (split : messages = items ++ rest) (hlast : items.getLast? = some last) :
    source.between below messages (nextPage w n (source.idOf last)) =
      rest.filter fun m => w.after.all (below · (source.idOf m)) := by
  have all : source.between below messages ⟨w.limit, none, none, none⟩ = items ++ rest := by
    rw [← split, between, List.filter_eq_self]
    exact fun _ _ => rfl
  rw [← h.between_nextPage n all hlast, between, between, List.filter_filter]
  apply List.filter_congr
  intro m _
  simp only [Window.admits, nextPage, Option.all_none, Bool.and_true]
  exact Bool.and_comm _ _

/-- Continuing after some messages collects, up to the limit, what lies behind the last of them. -/
lemma continued_behind (h : source.Serves below messages holds) (hs : holds s)
    (hlast : items.getLast? = some last) (hlimit : items.length ≤ w.limit) :
    ∃ t, source.continued w items s = (.ok ((items ++ source.between below messages
      (nextPage w items.length (source.idOf last))).take w.limit), t) ∧ holds t := by
  fun_induction source.continued w items s generalizing last with
  | case1 items s short none =>
    rw [none] at hlast
    cases hlast
  | case2 items s short last' hlast' e t hfetch =>
    obtain ⟨page, u, hpage, -⟩ := h.answers (nextPage w items.length (source.idOf last')) s rfl hs
    rw [hpage] at hfetch
    cases hfetch
  | case3 items s short last' hlast' t hfetch =>
    obtain rfl : last = last' := Option.some.inj (hlast.symm.trans hlast')
    obtain ⟨page, u, hpage, hu, -, -, hend⟩ :=
      h.answers (nextPage w items.length (source.idOf last)) s rfl hs
    rw [hpage] at hfetch
    cases hfetch
    have asked : 0 < (nextPage w items.length (source.idOf last)).limit := by
      simp only [nextPage, pageSize]
      omega
    have nothing := (hend rfl).resolve_left (by omega)
    refine ⟨t, ?_, hu⟩
    rw [nothing, List.append_nil, List.take_of_length_le hlimit]
  | case4 items s short last' hlast' i is t hfetch ih =>
    obtain rfl : last = last' := Option.some.inj (hlast.symm.trans hlast')
    obtain ⟨page, u, hpage, hu, ⟨later, hlater⟩, hlength, -⟩ :=
      h.answers (nextPage w items.length (source.idOf last)) s rfl hs
    rw [hpage] at hfetch
    cases hfetch
    have within : (items ++ i :: is).length ≤ w.limit := by
      simp only [nextPage] at hlength
      rw [List.length_append]
      omega
    have hnext : (i :: is).getLast? = some (is.getLast?.getD i) := List.getLast?_cons
    -- What lies behind the new page lies behind its last message in what the request was about.
    have behind : source.between below messages (nextPage w (items ++ i :: is).length
        (source.idOf (is.getLast?.getD i))) = later :=
      h.between_nextPage (w := nextPage w items.length (source.idOf last)) 0 hlater.symm hnext
    obtain ⟨v, hv, hholds⟩ := ih hu (by rw [List.getLast?_append, hnext]; rfl) within
    refine ⟨v, ?_, hholds⟩
    rw [hv, behind, ← hlater, List.append_assoc]
  | case5 items s full =>
    have exact_length : items.length = w.limit := by omega
    exact ⟨s, by rw [← exact_length, List.take_left], hs⟩

/-- Continuing from the front of the window collects it up to its limit. -/
lemma continued_eq (h : source.Serves below messages holds) (hs : holds s)
    (hw : source.between below messages w = items ++ rest) (hlimit : items.length ≤ w.limit)
    (hempty : items = [] → rest = []) :
    ∃ t, source.continued w items s = (.ok ((items ++ rest).take w.limit), t) ∧ holds t := by
  cases hlast : items.getLast? with
  | none =>
    obtain rfl := List.getLast?_eq_none_iff.mp hlast
    rw [hempty rfl, continued_nil]
    exact ⟨s, by rw [List.append_nil, List.take_nil], hs⟩
  | some last =>
    rw [← h.between_nextPage items.length hw hlast]
    exact h.continued_behind hs hlast hlimit

/-- Collecting a window without a centre gives the first of the messages between its bounds, as
many as its limit allows. -/
theorem collect_eq (h : source.Serves below messages holds) (hw : w.around = none) (hs : holds s) :
    ∃ t, source.collect w s =
      (.ok ((source.between below messages w).take w.limit), t) ∧ holds t := by
  by_cases none_asked : w.limit = 0
  · refine ⟨s, ?_, hs⟩
    rw [collect_of_unwanted none_asked, none_asked, List.take_zero]
  · have same : source.between below messages { w with limit := min w.limit pageSize } =
        source.between below messages w := rfl
    obtain ⟨page, t, hfetch, ht, ⟨later, hpage⟩, hlength, hend⟩ :=
      h.answers { w with limit := min w.limit pageSize } s hw hs
    rw [same] at hpage hend
    have some_asked : 0 < pageSize := by decide
    have hlater : page = [] → later = [] := by
      intro hnil
      have hnone := (hend hnil).resolve_left (by simp only; omega)
      rw [hnone] at hpage
      exact (List.append_eq_nil_iff.mp hpage).2
    have hlimit : page.length ≤ w.limit := by
      simp only at hlength
      omega
    obtain ⟨u, hu, hholds⟩ := h.continued_eq ht hpage.symm hlimit hlater
    refine ⟨u, ?_, hholds⟩
    rw [collect_of_page none_asked hfetch, hu, hpage]
    simp only [Except.map, List.take_take, Nat.min_self]

end Serves

/-- Pages are all of a list, cut up. -/
lemma flatten_pages {α : Type} (xs : List α) : (pages xs).flatten = xs := by
  fun_induction pages xs with
  | case1 => rfl
  | case2 xs some ih => rw [List.flatten_cons, ih, List.take_append_drop]

end MessageSource

end ChatQuery
