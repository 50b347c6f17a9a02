import ChatQuery.Files.Tree
import Mathlib.Data.List.Basic

/-!
What is written to a tree of files is read again. A file is put only where there is no directory, so
all directories stay, and a path leads afterwards to where it led before.
-/
namespace ChatQuery

/-- What has been written is what is read next. -/
def Files.Faithful {σ : Type} (files : Files (StateM σ)) : Prop :=
  ∀ {path text : String} {t t' : σ}, (files.write path text).run t = (.ok (), t') →
    ((files.read path).run t').1 = .ok text.toUTF8

/-- What stands in an entry at the end of some steps down. -/
def Entry.below? : Entry → List String → Option Entry
  | e, [] => some e
  | .file _, _ :: _ => none
  | .directory entries, name :: names => (entries.lookup name).bind (below? · names)

namespace FileTree

variable {t t' : FileTree} {trail trail' found : Trail} {entries inner : List (String × Entry)}
  {names steps : List String} {path : String} {bytes : ByteArray}

/-- A trail through the tree, with what is there at each step. -/
inductive Follows (t : FileTree) : Trail → Prop
  | start : Follows t []
  | step {trail : Trail} {entries : List (String × Entry)} (name : String) (h : Follows t trail)
    (here : t.entry? trail = some (.directory entries)) :
    Follows t ((name, entries.lookup name) :: trail)

lemma Follows.tail (h : t.Follows trail) : t.Follows trail.tail := by
  cases h with
  | start => exact .start
  | step name h here => exact h

lemma below?_append (e : Entry) (names : List String) (name : String) :
    e.below? (names ++ [name]) = (e.below? names).bind (·.below? [name]) := by
  induction names generalizing e with
  | nil => rfl
  | cons step names ih =>
    cases e with
    | file bytes => rfl
    | directory entries =>
      rw [List.cons_append, Entry.below?, Entry.below?, Option.bind_assoc]
      exact congrArg _ (funext fun e => ih e)

lemma Follows.entry?_eq (h : t.Follows trail) :
    t.entry? trail = (Entry.directory t.root).below? (trail.reverse.map (·.1)) := by
  induction h with
  | start => rfl
  | step name h here ih =>
    rw [List.reverse_cons, List.map_append, List.map_singleton, below?_append, ← ih, here]
    simp [Entry.below?, entry?]

lemma lookup_replaced (name sought : String) (e : Entry) (entries : List (String × Entry)) :
    ((name, e) :: entries.filter (·.1 != name)).lookup sought =
      if sought = name then some e else entries.lookup sought := by
  by_cases h : sought = name
  · simp [h]
  · rw [if_neg h, List.lookup_cons, beq_false_of_ne h]
    induction entries with
    | nil => rfl
    | cons entry entries ih =>
      obtain ⟨other, found⟩ := entry
      by_cases hother : other = name
      · have passed : (sought == other) = false := beq_false_of_ne (hother ▸ h)
        rw [List.filter_cons_of_neg (by simp [hother]), List.lookup_cons, passed]
        exact ih
      · rw [List.filter_cons_of_pos (by simp [hother]), List.lookup_cons, List.lookup_cons]
        cases sought == other with
        | false => exact ih
        | true => rfl

/-- One entry is replaced. If it is a directory on the way, the rest is put into it. -/
lemma putIn_cons (e : Entry) (name : String) (names : List String)
    (entries : List (String × Entry)) :
    ∃ r, putIn e (name :: names) entries = (name, r) :: entries.filter (·.1 != name) ∧
      ∀ inner, names ≠ [] → entries.lookup name = some (.directory inner) →
        r = .directory (putIn e names inner) := by
  cases names with
  | nil => exact ⟨e, rfl, fun _ ne => absurd rfl ne⟩
  | cons next names =>
    refine ⟨_, rfl, fun inner _ found => ?_⟩
    rw [found]

/-- What is put somewhere is there. -/
lemma below?_putIn (e : Entry) (ne : names ≠ []) (entries : List (String × Entry)) :
    (Entry.directory (putIn e names entries)).below? names = some e := by
  induction names generalizing entries with
  | nil => exact absurd rfl ne
  | cons name names ih =>
    cases names with
    | nil =>
      rw [putIn, Entry.below?, lookup_replaced, if_pos rfl]
      rfl
    | cons next names =>
      rw [putIn, Entry.below?, lookup_replaced, if_pos rfl]
      · exact ih (List.cons_ne_nil _ _) _
      · exact List.cons_ne_nil _ _

lemma exists_directory {e : Entry} (h : e.below? steps = some (.directory inner)) :
    ∃ entries, e = .directory entries := by
  cases e with
  | directory entries => exact ⟨entries, rfl⟩
  | file bytes => cases steps <;> cases h

/-- Putting something where there is no directory leaves all directories in place. -/
lemma directory_putIn (e : Entry)
    (vacant : ∀ es, (Entry.directory entries).below? names ≠ some (.directory es))
    (h : (Entry.directory entries).below? steps = some (.directory inner)) :
    ∃ es, (Entry.directory (putIn e names entries)).below? steps = some (.directory es) := by
  induction names generalizing entries steps with
  | nil => exact absurd rfl (vacant entries)
  | cons name names ih =>
    obtain ⟨r, put, replaced⟩ := putIn_cons e name names entries
    cases steps with
    | nil => exact ⟨_, rfl⟩
    | cons step steps =>
      obtain ⟨next, hnext, hinner⟩ := Option.bind_eq_some_iff.mp h
      by_cases same : step = name
      · -- Both ways begin with this directory, so the rest of them lies below it.
        subst same
        obtain ⟨below, rfl⟩ := exists_directory hinner
        have vacant' : ∀ es, (Entry.directory below).below? names ≠ some (.directory es) := by
          intro es hes
          refine vacant es ?_
          rw [Entry.below?, hnext]
          exact hes
        have ne : names ≠ [] := by
          rintro rfl
          exact vacant' below rfl
        obtain ⟨es, hes⟩ := ih vacant' hinner
        refine ⟨es, ?_⟩
        rw [put, Entry.below?, lookup_replaced, if_pos rfl, replaced below ne hnext]
        exact hes
      · refine ⟨inner, ?_⟩
        rw [put, Entry.below?, lookup_replaced, if_neg same, hnext]
        exact hinner

/-- Where all directories stay, a walk takes the same steps. -/
lemma walk_again
    (stay : ∀ {steps inner}, (Entry.directory t.root).below? steps = some (.directory inner) →
      ∃ es, (Entry.directory t'.root).below? steps = some (.directory es))
    (h : t.Follows trail) (h' : t'.Follows trail') (same : trail'.map (·.1) = trail.map (·.1))
    (walked : t.walk trail names = .ok found) :
    ∃ found', t'.walk trail' names = .ok found' ∧ t.Follows found ∧ t'.Follows found' ∧
      found'.map (·.1) = found.map (·.1) := by
  induction names generalizing trail trail' with
  | nil =>
    obtain rfl := Except.ok.inj walked
    exact ⟨trail', rfl, h, h', same⟩
  | cons name names ih =>
    rw [walk] at walked
    split at walked
    · cases walked
    · cases walked
    · next entries here =>
      obtain ⟨entries', here'⟩ : ∃ es, t'.entry? trail' = some (.directory es) := by
        rw [h'.entry?_eq, List.map_reverse, same, ← List.map_reverse]
        exact stay (h.entry?_eq.symm.trans here)
      rw [walk, here']
      dsimp only
      split_ifs at walked ⊢
      · exact ih h h' same walked
      · exact ih h.tail h'.tail (by rw [List.map_tail, List.map_tail, same]) walked
      · exact ih (h.step name here) (h'.step name here')
          (by rw [List.map_cons, List.map_cons, same]) walked

lemma exists_walk (located : t.locate path = .ok trail) :
    ∃ names, t.walk [] names = .ok trail ∧
      ∀ u : FileTree, u.working = t.working → u.locate path = u.walk [] names := by
  unfold locate at located
  split_ifs at located with empty long rooted
  · refine ⟨_, located, fun u _ => ?_⟩
    rw [locate, if_neg empty, if_neg long]
    exact congrArg (u.walk []) (if_pos rooted)
  · refine ⟨_, located, fun u working => ?_⟩
    rw [locate, if_neg empty, if_neg long, working]
    exact congrArg (u.walk []) (if_neg rooted)

/-- A path leads to what has been put there. -/
lemma locate_put (e : Entry) (located : t.locate path = .ok trail)
    (vacant : ∀ es, t.entry? trail ≠ some (.directory es)) :
    ∃ found, (t.put trail e).locate path = .ok found ∧
      entry? (t.put trail e) found = some e := by
  obtain ⟨names, walked, again⟩ := exists_walk located
  obtain ⟨-, -, follows, -, -⟩ := walk_again (fun h => ⟨_, h⟩) .start .start rfl walked
  rw [follows.entry?_eq] at vacant
  -- What is replaced is no directory, so the walk can be taken again.
  have stay {steps : List String} {inner : List (String × Entry)}
      (h : (Entry.directory t.root).below? steps = some (.directory inner)) :
      ∃ es, (Entry.directory (t.put trail e).root).below? steps = some (.directory es) :=
    directory_putIn e vacant h
  obtain ⟨found, walked', -, follows', same⟩ := walk_again stay .start .start rfl walked
  have ne : trail.reverse.map (·.1) ≠ [] := fun start => by
    rw [start] at vacant
    exact vacant t.root rfl
  refine ⟨found, (again (t.put trail e) rfl).trans walked', ?_⟩
  rw [follows'.entry?_eq, List.map_reverse, same, ← List.map_reverse]
  exact below?_putIn e ne t.root

/-- What has been written is read from the same path. -/
theorem read_writeBytes (h : writeBytes path bytes t = (.ok (), t')) :
    read path t' = .ok bytes := by
  unfold writeBytes at h
  split at h
  · cases h
  · next trail located =>
    split at h
    · cases h
    · next vacant =>
      obtain ⟨-, rfl⟩ := Prod.mk.inj h
      obtain ⟨found, hfound, there⟩ := locate_put (.file bytes) located vacant
      rw [read, hfound]
      dsimp only
      rw [there]

theorem files_faithful : files.Faithful := by
  intro path text t t' written
  exact read_writeBytes written

end FileTree

end ChatQuery
