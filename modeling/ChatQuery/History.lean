import ChatQuery.Gateway

/-!
Paged reading and bulk deletion. A source serves at most a page of messages per request, newest
first, and deletes at most a page at once. Larger windows are walked from newest to oldest.
-/
namespace ChatQuery

/-- Messages of type `ι` that can be read and deleted, with states `σ`. -/
structure MessageSource (σ ι : Type) where
  idOf : ι → String
  fetch : Window → σ → Answer σ (List ι)
  delete : List String → σ → Answer σ Unit

namespace MessageSource

variable {σ ι : Type}

def pageSize : Nat := 100

/-- The request for what follows the last message collected. It keeps the lower bound. -/
def nextPage (w : Window) (collected : Nat) (last : String) : Window :=
  ⟨min (w.limit - collected) pageSize, some last, w.after, none⟩

/-- Requests pages until the limit is reached or a page is empty. -/
def continued (source : MessageSource σ ι) (w : Window) (items : List ι) (s : σ) :
    Answer σ (List ι) :=
  if items.length < w.limit then
    match items.getLast? with
    | none => (.ok items, s)
    | some last =>
      match source.fetch (nextPage w items.length (source.idOf last)) s with
      | (.error e, s) => (.error e, s)
      | (.ok [], s) => (.ok items, s)
      | (.ok (i :: is), s) => continued source w (items ++ i :: is) s
  else (.ok items, s)
termination_by w.limit - items.length
decreasing_by simp only [List.length_append, List.length_cons]; omega

/-- The messages of a window, at most as many as its limit. Only the first request has all anchors
of the window. -/
def collect (source : MessageSource σ ι) (w : Window) (s : σ) : Answer σ (List ι) :=
  if w.limit = 0 then (.ok [], s)
  else
    match source.fetch { w with limit := min w.limit pageSize } s with
    | (.error e, s) => (.error e, s)
    | (.ok page, s) =>
      match continued source w page s with
      | (.error e, s) => (.error e, s)
      | (.ok items, s) => (.ok (items.take w.limit), s)

/-- Cuts a list into pages; only the last one may be shorter. -/
def pages {α : Type} (xs : List α) : List (List α) :=
  if _ : xs = [] then [] else xs.take pageSize :: pages (xs.drop pageSize)
termination_by xs.length
decreasing_by
  have := List.length_pos_iff.mpr ‹_›
  simp only [List.length_drop, pageSize]
  omega

def deletePages (source : MessageSource σ ι) : List (List String) → σ → Answer σ Unit
  | [], s => (.ok (), s)
  | page :: rest, s =>
    match source.delete page s with
    | (.error e, s) => (.error e, s)
    | (.ok _, s) => deletePages source rest s

/-- Deletes the messages of a window, and says which ones these were. -/
def deleteAll (source : MessageSource σ ι) (w : Window) (s : σ) : Answer σ (List String) :=
  match source.collect w s with
  | (.error e, s) => (.error e, s)
  | (.ok items, s) =>
    match source.deletePages (pages (items.map source.idOf)) s with
    | (.error e, s) => (.error e, s)
    | (.ok _, s) => (.ok (items.map source.idOf), s)

end MessageSource

end ChatQuery
