import ChatQuery.History.Scripted
import ChatQuery.Proofs.History.Paging
import ChatQuery.Proofs.Success

/-!
What a source is asked for when a window of it is read or deleted. A source that keeps a record is
asked for the same as the source itself, so the record shows every request with its answer, in
order. Nothing is assumed of the answers: pages may be longer or shorter than asked for, may repeat
messages, and each request may fail. The reads of a record fix what is collected, and what is
collected fixes the deletions that follow.
-/
namespace ChatQuery
namespace MessageSource

variable {σ ι : Type}

/-- A request for a page, and what it was answered with. -/
abbrev Read (ι : Type) : Type := Window × Except GatewayError (List ι)

/-- A request for a deletion, and what it was answered with. -/
abbrev Deletion : Type := List String × Except GatewayError Unit

inductive Exchange (ι : Type)
  | read (r : Read ι)
  | deletion (d : Deletion)

/-- The source with a record of all that it was asked for and answered. -/
def recorded (source : MessageSource σ ι) : MessageSource (σ × List (Exchange ι)) ι where
  idOf := source.idOf
  fetch w s :=
    ((source.fetch w s.1).1, (source.fetch w s.1).2, s.2 ++ [.read (w, (source.fetch w s.1).1)])
  delete ids s :=
    ((source.delete ids s.1).1, (source.delete ids s.1).2,
      s.2 ++ [.deletion (ids, (source.delete ids s.1).1)])

/-- The request that is due after some reads. The first one has all anchors of the window. Another
one comes only if all pages so far had messages in them and do not reach the limit yet. It asks for
at most a page of the messages that are wanting, down from the last one collected. Their number fits
the 32 bits of the limit that it is taken from. -/
inductive Due (source : MessageSource σ ι) (w : Window) (past : List (Read ι)) : Window → Prop
  | first (nothing : past = []) (wanted : 0 < w.limit) :
    Due source w past { w with limit := min w.limit 100 }
  | next {pages : List (List ι)} {last : ι} (answers : past.map Prod.snd = pages.map .ok)
    (productive : [] ∉ pages) (collected : pages.flatten.getLast? = some last)
    (wanting : pages.flatten.length < w.limit)
    (exact_size : w.limit < UInt32.size →
      (UInt32.ofNat (w.limit - pages.flatten.length)).toNat = w.limit - pages.flatten.length) :
    Due source w past
      ⟨min (w.limit - pages.flatten.length) 100, some (source.idOf last), w.after, none⟩

/-- Every request was due after those before it. -/
def Orderly (source : MessageSource σ ι) (w : Window) (reads : List (Read ι)) : Prop :=
  ∀ past r rest, reads = past ++ r :: rest → Due source w past r.1

/-- The reads by which a window is collected. No request is left out at the end: the last one
failed, was answered with an empty page, or reached the limit. -/
structure Walk (source : MessageSource σ ι) (w : Window) (reads : List (Read ι)) : Prop where
  begun : reads = [] ↔ w.limit = 0
  orderly : Orderly source w reads
  sizes : ∀ r ∈ reads, 1 ≤ r.1.limit ∧ r.1.limit ≤ 100
  finished : ∀ pages : List (List ι), reads.map Prod.snd = pages.map .ok →
    w.limit ≤ pages.flatten.length ∨ pages.getLast? = some []
  few : reads.length ≤ w.limit

/-- What the reads answer with: the first failure, or the messages of all pages. -/
def gathered (reads : List (Read ι)) : Except GatewayError (List ι) :=
  (reads.mapM Prod.snd).map List.flatten

/-- A list cut into blocks of 100, of which only the last may be shorter. None is empty. -/
structure Blocks {α : Type} (xs : List α) (blocks : List (List α)) : Prop where
  joined : blocks.flatten = xs
  sizes : ∀ b ∈ blocks, 1 ≤ b.length ∧ b.length ≤ 100
  full : ∀ b ∈ blocks.dropLast, b.length = 100

/-- The deletions of some blocks, and what they come to. They go block by block, in order, until one
fails. -/
inductive Deleted (blocks : List (List String)) : List Deletion → Except GatewayError Unit → Prop
  | all : Deleted blocks (blocks.map (·, .ok ())) (.ok ())
  | failed (front : List (List String)) {back : List (List String)} {block : List String}
    {e : GatewayError} (split : blocks = front ++ block :: back) :
    Deleted blocks (front.map (·, .ok ()) ++ [(block, .error e)]) (.error e)

section Reading

variable {source : MessageSource σ ι} {w request : Window} {reads past : List (Read ι)}
  {pages : List (List ι)} {items page : List ι} {e : GatewayError} {s t : σ}

lemma fetch_recorded (record : List (Exchange ι)) {answer : Except GatewayError (List ι)}
    (h : source.fetch request s = (answer, t)) :
    source.recorded.fetch request (s, record) =
      (answer, t, record ++ [.read (request, answer)]) := by
  simp only [recorded, h]

lemma gathered_of_ok (h : reads.map Prod.snd = pages.map .ok) :
    gathered reads = .ok pages.flatten := by
  induction reads generalizing pages with
  | nil =>
    obtain rfl := List.map_eq_nil_iff.mp h.symm
    rfl
  | cons r reads ih =>
    obtain ⟨page, pages, rfl, hr, h⟩ := List.map_eq_cons_iff.mp h.symm
    obtain ⟨answers, hanswers, hflat⟩ := map_eq_ok (ih h.symm)
    rw [gathered, List.mapM_cons, ← hr, hanswers, List.flatten_cons, ← hflat]
    rfl

/-- A failure behind pages is all that they come to. -/
lemma gathered_of_error (h : past.map Prod.snd = pages.map .ok) :
    gathered (past ++ [((request, .error e) : Read ι)]) = .error e := by
  have failure : (past ++ [((request, .error e) : Read ι)]).mapM Prod.snd = .error e := by
    refine mapM_eq_error_iff.mpr ⟨past, (request, .error e), [], rfl, ?_, rfl⟩
    intro r hr
    obtain ⟨page, -, hpage⟩ := List.mem_map.mp (h ▸ List.mem_map_of_mem hr)
    exact ⟨page, hpage.symm⟩
  rw [gathered, failure]
  rfl

/-- An empty page behind others adds nothing. -/
lemma gathered_of_end (h : past.map Prod.snd = pages.map .ok) :
    gathered (past ++ [((request, .ok []) : Read ι)]) = .ok pages.flatten := by
  have answers : (past ++ [((request, .ok []) : Read ι)]).map Prod.snd =
      (pages ++ [[]]).map .ok := by
    rw [List.map_append, h, List.map_append]
    rfl
  rw [gathered_of_ok answers, List.flatten_append, List.flatten_singleton, List.append_nil]

lemma length_le_flatten (h : [] ∉ pages) : pages.length ≤ pages.flatten.length := by
  induction pages with
  | nil => simp
  | cons page pages ih =>
    have one : 0 < page.length := List.length_pos_iff.mpr fun hp => h (by simp [hp])
    have others := ih fun hp => h (List.mem_cons_of_mem page hp)
    simp only [List.flatten_cons, List.length_append, List.length_cons]
    omega

namespace Due

lemma sizes (h : Due source w past request) : 1 ≤ request.limit ∧ request.limit ≤ 100 := by
  cases h with
  | first nothing wanted => simp only; omega
  | next answers productive collected wanting exact_size => simp only; omega

/-- Before a request that is due there are fewer reads than messages are wanted. -/
lemma length_lt (h : Due source w past request) : past.length < w.limit := by
  cases h with
  | first nothing wanted => rwa [nothing]
  | @next pages last answers productive collected wanting exact_size =>
    have count : past.length = pages.length := by simpa using congrArg List.length answers
    have each := length_le_flatten productive
    omega

end Due

namespace Orderly

lemma nil : Orderly source w ([] : List (Read ι)) := by
  intro past r rest h
  cases past <;> cases h

/-- One more request that is due after the reads keeps them orderly. -/
lemma snoc (h : Orderly source w reads) {r : Read ι} (due : Due source w reads r.1) :
    Orderly source w (reads ++ [r]) := by
  intro past x rest split
  rcases List.eq_nil_or_concat rest with rfl | ⟨front, y, rfl⟩
  · obtain ⟨rfl, hx⟩ := List.append_inj' split rfl
    cases hx
    exact due
  · have shorter : reads ++ [r] = (past ++ x :: front) ++ [y] := by
      simpa using split
    exact h past x front (List.append_inj' shorter rfl).1

/-- Orderly reads that end as they should are a walk. -/
lemma walk (h : Orderly source w reads) (begun : reads = [] ↔ w.limit = 0)
    (finished : ∀ pages : List (List ι), reads.map Prod.snd = pages.map .ok →
      w.limit ≤ pages.flatten.length ∨ pages.getLast? = some []) : Walk source w reads where
  begun := begun
  orderly := h
  sizes := by
    intro r hr
    obtain ⟨past, rest, split⟩ := List.append_of_mem hr
    exact (h past r rest split).sizes
  finished := finished
  few := by
    rcases List.eq_nil_or_concat reads with rfl | ⟨past, r, rfl⟩
    · exact Nat.zero_le _
    · have fewer := (h past r [] (by simp)).length_lt
      simpa [Nat.succ_le_iff] using fewer

end Orderly

/-- Reads that may go on: a page has been asked for, and none was empty. -/
structure Underway (source : MessageSource σ ι) (w : Window) (reads : List (Read ι))
    (pages : List (List ι)) : Prop where
  begun : reads ≠ []
  orderly : Orderly source w reads
  answers : reads.map Prod.snd = pages.map .ok
  productive : [] ∉ pages

/-- One more read that fails or is answered with an empty page is the last one. -/
lemma Orderly.ended (h : Orderly source w reads) {r : Read ι} (due : Due source w reads r.1)
    (unproductive : r.2 = .ok [] ∨ ∃ e, r.2 = .error e) : Walk source w (reads ++ [r]) := by
  refine (h.snoc due).walk ?_ ?_
  · have wanted := due.length_lt
    simp only [List.append_eq_nil_iff, List.cons_ne_nil, and_false, false_iff]
    omega
  · intro pages answers
    rw [List.map_append] at answers
    obtain ⟨front, last, rfl, -, hlast⟩ := List.map_eq_append_iff.mp answers.symm
    obtain ⟨page, rfl, hpage⟩ := List.map_eq_singleton_iff.mp hlast
    rcases unproductive with hempty | ⟨e, herror⟩
    · rw [hempty] at hpage
      cases hpage
      exact .inr (by simp)
    · rw [herror] at hpage
      cases hpage

namespace Underway

lemma first {r : Read ι} (due : Due source w [] r.1) (answer : r.2 = .ok page) (some : page ≠ []) :
    Underway source w [r] [page] where
  begun := List.cons_ne_nil _ _
  orderly := Orderly.nil.snoc due
  answers := by rw [List.map_singleton, answer, List.map_singleton]
  productive := by simpa using some.symm

lemma next (h : Underway source w reads pages) {r : Read ι} (due : Due source w reads r.1)
    (answer : r.2 = .ok page) (some : page ≠ []) :
    Underway source w (reads ++ [r]) (pages ++ [page]) where
  begun := by simp
  orderly := h.orderly.snoc due
  answers := by rw [List.map_append, h.answers, List.map_singleton, answer, List.map_append,
    List.map_singleton]
  productive := by simpa [h.productive] using some.symm

lemma flatten_ne_nil (h : Underway source w reads pages) : pages.flatten ≠ [] := by
  intro nothing
  have count : reads.length = pages.length := by simpa using congrArg List.length h.answers
  have each := length_le_flatten h.productive
  have some := List.length_pos_iff.mpr h.begun
  rw [nothing, List.length_nil] at each
  omega

/-- The request that the loop makes next is the one that is due. -/
lemma due (h : Underway source w reads pages) {last : ι}
    (collected : pages.flatten.getLast? = some last) (wanting : pages.flatten.length < w.limit) :
    Due source w reads (nextPage w pages.flatten.length (source.idOf last)) :=
  .next h.answers h.productive collected wanting fun fits =>
    UInt32.toNat_ofNat_of_lt' (Nat.lt_of_le_of_lt (Nat.sub_le _ _) fits)

/-- When enough has been collected, no request is wanting. -/
lemma full (h : Underway source w reads pages) (enough : w.limit ≤ pages.flatten.length) :
    Walk source w reads := by
  refine h.orderly.walk ?_ ?_
  · refine ⟨fun nothing => absurd nothing h.begun, fun unwanted => ?_⟩
    obtain ⟨r, rest, rfl⟩ := List.exists_cons_of_ne_nil h.begun
    have wanted := (h.orderly [] r rest rfl).length_lt
    omega
  · intro others answers
    have same : others = pages :=
      List.map_injective_iff.mpr (fun _ _ => Except.ok.inj) (answers.symm.trans h.answers)
    rw [same]
    exact .inl enough

end Underway

/-- Continuing makes the requests that are due, one after another, to the end of the walk. -/
lemma continued_walks (h : Underway source w reads pages) (s : σ) :
    ∃ all t, Walk source w all ∧
      source.continued w pages.flatten s = (gathered all, t) ∧
      source.recorded.continued w pages.flatten (s, reads.map .read) =
        (gathered all, t, all.map .read) := by
  generalize hitems : pages.flatten = items
  fun_induction source.continued w items s generalizing reads pages with
  | case1 items s wanting none =>
    subst hitems
    exact absurd (List.getLast?_eq_none_iff.mp none) h.flatten_ne_nil
  | case2 items s wanting last collected e t hfetch =>
    subst hitems
    refine ⟨reads ++ [(_, .error e)], t, h.orderly.ended (h.due collected wanting) (.inr ⟨e, rfl⟩),
      ?_, ?_⟩
    · rw [gathered_of_error h.answers]
    · rw [gathered_of_error h.answers, List.map_append]
      exact continued_of_error wanting collected (fetch_recorded _ hfetch)
  | case3 items s wanting last collected t hfetch =>
    subst hitems
    refine ⟨_, t, h.orderly.ended (r := (_, .ok [])) (h.due collected wanting) (.inl rfl), ?_, ?_⟩
    · rw [gathered_of_end h.answers]
    · rw [gathered_of_end h.answers, List.map_append]
      exact continued_of_empty wanting collected (fetch_recorded _ hfetch)
  | case4 items s wanting last collected i is t hfetch ih =>
    subst hitems
    have further := h.next (r := (_, .ok (i :: is))) (h.due collected wanting) rfl
      (List.cons_ne_nil i is)
    obtain ⟨all, u, walk, plain, kept⟩ := ih further (by simp)
    refine ⟨all, u, walk, plain, ?_⟩
    rw [← kept, List.map_append]
    exact continued_of_page wanting collected (fetch_recorded _ hfetch)
  | case5 items s full =>
    subst hitems
    refine ⟨reads, s, h.full (by omega), ?_, ?_⟩
    · rw [gathered_of_ok h.answers]
    · rw [gathered_of_ok h.answers]
      exact continued_of_full (Nat.le_of_not_lt full)

/-- Whatever the source answers, collecting a window is a walk, and comes to what is gathered on it,
up to the limit. -/
theorem collect_walks (source : MessageSource σ ι) (w : Window) (s : σ) :
    ∃ reads t, Walk source w reads ∧
      source.collect w s = ((gathered reads).map (List.take w.limit), t) ∧
      source.recorded.collect w (s, []) =
        ((gathered reads).map (List.take w.limit), t, reads.map .read) := by
  by_cases unwanted : w.limit = 0
  · have nothing : (gathered ([] : List (Read ι))).map (List.take w.limit) = .ok [] :=
      congrArg Except.ok List.take_nil
    refine ⟨[], s, ?_, ?_, ?_⟩
    · exact Orderly.nil.walk (by simp [unwanted]) fun _ _ => .inl (by simp [unwanted])
    · rw [collect_of_unwanted unwanted, nothing]
    · rw [collect_of_unwanted unwanted, nothing]
      rfl
  · have due : Due source w [] { w with limit := min w.limit 100 } := .first rfl (by omega)
    rcases hfetch : source.fetch { w with limit := min w.limit 100 } s with ⟨answer, t⟩
    have hrecorded := fetch_recorded [] hfetch
    cases answer with
    | error e =>
      refine ⟨[(_, .error e)], t, Orderly.nil.ended due (.inr ⟨e, rfl⟩), ?_, ?_⟩
      · exact collect_of_error unwanted hfetch
      · exact collect_of_error unwanted hrecorded
    | ok page =>
      rw [collect_of_page unwanted hfetch, collect_of_page unwanted hrecorded]
      cases page with
      | nil =>
        refine ⟨[(_, .ok [])], t, Orderly.nil.ended due (.inl rfl), ?_, ?_⟩
        · rw [continued_nil]
          rfl
        · rw [continued_nil]
          rfl
      | cons i is =>
        have underway : Underway source w [(_, .ok (i :: is))] [i :: is] :=
          .first due rfl (List.cons_ne_nil i is)
        obtain ⟨reads, u, walk, plain, kept⟩ := continued_walks underway t
        rw [List.flatten_singleton] at plain kept
        refine ⟨reads, u, walk, ?_, ?_⟩
        · rw [plain]
        · exact congrArg (fun a => (a.1.map (List.take w.limit), a.2)) kept

end Reading

section Deleting

variable {source : MessageSource σ ι}

/-- Pages are the blocks of a list. -/
lemma blocks_pages {α : Type} (xs : List α) : Blocks xs (pages xs) where
  joined := flatten_pages xs
  sizes := by
    fun_induction pages xs with
    | case1 => exact List.forall_mem_nil _
    | case2 xs some ih =>
      refine List.forall_mem_cons.mpr ⟨?_, ih⟩
      have positive := List.length_pos_iff.mpr some
      rw [List.length_take]
      simp only [pageSize]
      omega
  full := by
    fun_induction pages xs with
    | case1 => exact List.forall_mem_nil _
    | case2 xs some ih =>
      by_cases more : pages (xs.drop pageSize) = []
      · simp [more]
      · rw [List.dropLast_cons_of_ne_nil more]
        refine List.forall_mem_cons.mpr ⟨?_, ih⟩
        -- A page follows, so this one is not the end of the list.
        have longer : xs.drop pageSize ≠ [] := by
          intro nothing
          rw [nothing] at more
          exact more (by simp [pages])
        have length : pageSize < xs.length := by simpa using longer
        rw [List.length_take]
        simp only [pageSize] at length ⊢
        omega

lemma delete_recorded {ids : List String} {answer : Except GatewayError Unit} {s t : σ}
    (record : List (Exchange ι)) (h : source.delete ids s = (answer, t)) :
    source.recorded.delete ids (s, record) = (answer, t, record ++ [.deletion (ids, answer)]) := by
  simp only [recorded, h]

/-- Block by block a source is asked to delete, until it fails. -/
lemma deletePages_deletes (source : MessageSource σ ι) (blocks : List (List String)) (s : σ)
    (record : List (Exchange ι)) :
    ∃ deletions answer t, Deleted blocks deletions answer ∧
      source.deletePages blocks s = (answer, t) ∧
      source.recorded.deletePages blocks (s, record) =
        (answer, t, record ++ deletions.map .deletion) := by
  induction blocks generalizing s record with
  | nil => exact ⟨[], .ok (), s, .all, rfl, by simp [deletePages]⟩
  | cons block blocks ih =>
    rcases hdelete : source.delete block s with ⟨answer, t⟩
    have hrecorded := delete_recorded record hdelete
    simp only [deletePages, hdelete, hrecorded]
    cases answer with
    | error e =>
      exact ⟨[(block, .error e)], .error e, t, .failed [] rfl, rfl, rfl⟩
    | ok _ =>
      obtain ⟨deletions, answer, u, deleted, plain, kept⟩ :=
        ih t (record ++ [.deletion (block, .ok ())])
      refine ⟨(block, .ok ()) :: deletions, answer, u, ?_, plain, ?_⟩
      · cases deleted with
        | all => exact .all
        | failed front split =>
          exact .failed (block :: front) (congrArg (block :: ·) split)
      · change source.recorded.deletePages blocks (t, record ++ [.deletion (block, .ok ())]) = _
        rw [kept, List.map_cons, List.append_assoc]
        rfl

lemma deleteAll_of_error {w : Window} {s t : σ} {e : GatewayError}
    (h : source.collect w s = (.error e, t)) : source.deleteAll w s = (.error e, t) := by
  rw [deleteAll, h]

/-- After a successful reading it is the deletion of the pages that decides. -/
lemma deleteAll_of_ok {w : Window} {items : List ι} {answer : Except GatewayError Unit} {s t u : σ}
    (h : source.collect w s = (.ok items, t))
    (hdelete : source.deletePages (pages (items.map source.idOf)) t = (answer, u)) :
    source.deleteAll w s = (answer.map fun _ => items.map source.idOf, u) := by
  rw [deleteAll, h]
  simp only [hdelete]
  cases answer <;> rfl

/-- Reading and deleting a window, whatever the source answers. The requests for pages are those of
a walk, and what is read are the messages of all its pages, up to the limit, or its failure. Only
after a successful reading is anything deleted: the messages that were read, block by block, until a
block fails. -/
theorem requests_in_protocol (source : MessageSource σ ι) (w : Window) (s : σ) :
    ∃ reads t, Walk source w reads ∧
      let found := (gathered reads).map (List.take w.limit)
      source.collect w s = (found, t) ∧
      source.recorded.collect w (s, []) = (found, t, reads.map .read) ∧
      (∀ e, found = .error e →
        source.deleteAll w s = (.error e, t) ∧
        source.recorded.deleteAll w (s, []) = (.error e, t, reads.map .read)) ∧
      ∀ items, found = .ok items →
        let ids := items.map source.idOf
        ∃ blocks deletions answer u, Blocks ids blocks ∧ Deleted blocks deletions answer ∧
          source.deleteAll w s = (answer.map fun _ => ids, u) ∧
          source.recorded.deleteAll w (s, []) =
            (answer.map fun _ => ids, u, reads.map .read ++ deletions.map .deletion) := by
  obtain ⟨reads, t, walk, plain, kept⟩ := collect_walks source w s
  refine ⟨reads, t, walk, plain, kept, ?_, ?_⟩
  · intro e failed
    rw [failed] at plain kept
    exact ⟨deleteAll_of_error plain, deleteAll_of_error kept⟩
  · intro items collected ids
    rw [collected] at plain kept
    obtain ⟨deletions, answer, u, deleted, hplain, hkept⟩ :=
      deletePages_deletes source (pages ids) t (reads.map .read)
    exact ⟨pages ids, deletions, answer, u, blocks_pages ids, deleted,
      deleteAll_of_ok plain hplain, deleteAll_of_ok kept hkept⟩

/-- A message that is answered twice is read and deleted twice, and what a page has too much is left
alone. -/
theorem requests_in_protocol_overlong :
    let s : ScriptedSource := ⟨[.ok ["9", "9"], .ok ["7", "6", "5"]], [], [], []⟩
    let w : Window := ⟨4, some "10", some "3", none⟩
    ∃ (reads : List (Read String)) (deletions : List Deletion) (t : ScriptedSource),
      Walk ScriptedSource.source w reads ∧
      ScriptedSource.source.recorded.deleteAll w (s, []) =
        (.ok ["9", "9", "7", "6"], t, reads.map .read ++ deletions.map .deletion) ∧
      t.requests = [⟨4, some "10", some "3", none⟩, ⟨2, some "9", some "3", none⟩] ∧
      t.batches = [["9", "9", "7", "6"]] := by
  intro s w
  obtain ⟨reads, t, walk, plain, -, -, deleted⟩ := requests_in_protocol ScriptedSource.source w s
  have items : (ScriptedSource.source.collect w s).1 = .ok ["9", "9", "7", "6"] :=
    toOption_eq_some.mp (by decide +kernel)
  have ids : (ScriptedSource.source.deleteAll w s).1 = .ok ["9", "9", "7", "6"] :=
    toOption_eq_some.mp (by decide +kernel)
  rw [plain] at items
  obtain ⟨_, deletions, answer, u, -, -, removed, kept⟩ := deleted _ items
  rw [removed] at ids
  have state : u = (ScriptedSource.source.deleteAll w s).2 := congrArg Prod.snd removed.symm
  refine ⟨reads, deletions, u, walk, ?_, ?_, ?_⟩
  · rw [kept]
    exact congrArg (·, _) ids
  · rw [state]
    decide +kernel
  · rw [state]
    decide +kernel

end Deleting

end MessageSource
end ChatQuery
