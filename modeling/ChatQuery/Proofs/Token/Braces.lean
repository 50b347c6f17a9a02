import Mathlib.Data.List.Infix
import Mathlib.Tactic.Common

/-!
How deep the braces of a text lead. The braces of a text alone decide where it closes the braces
that were open before it.
-/
namespace ChatQuery

variable {c : Char} {cs ds : List Char} {depth : Nat}

/-- How much deeper the braces of a text lead. Every brace counts, wherever it stands. -/
def braceDepth (cs : List Char) : Int := cs.count '{' - cs.count '}'

@[simp] lemma braceDepth_nil : braceDepth [] = 0 := rfl

lemma braceDepth_append (cs ds : List Char) :
    braceDepth (cs ++ ds) = braceDepth cs + braceDepth ds := by
  simp only [braceDepth, List.count_append]
  omega

lemma braceDepth_cons (c : Char) (cs : List Char) :
    braceDepth (c :: cs) = braceDepth [c] + braceDepth cs :=
  braceDepth_append [c] cs

/-- A text that an opening brace begins, and whose depth first returns to zero at its last
character. -/
structure Enclosed (cs : List Char) : Prop where
  opened : cs.head? = some '{'
  closed : braceDepth cs = 0
  inside : ∀ p, p <+: cs → p ≠ [] → p ≠ cs → braceDepth p ≠ 0

instance (cs : List Char) : Decidable (Enclosed cs) :=
  decidable_of_iff (cs.head? = some '{' ∧ braceDepth cs = 0 ∧
      ∀ p ∈ cs.inits, p ≠ [] → p ≠ cs → braceDepth p ≠ 0) <| by
    simp only [List.mem_inits]
    exact ⟨fun ⟨opened, closed, inside⟩ => ⟨opened, closed, inside⟩,
      fun ⟨opened, closed, inside⟩ => ⟨opened, closed, inside⟩⟩

/-- A text at whose end, and nowhere before, all of the open braces are closed. -/
def Closes (depth : Nat) (cs : List Char) : Prop :=
  ∀ p, p <+: cs → (depth + braceDepth p = 0 ↔ p = cs)

/-- What is enclosed closes its first brace at its end. -/
lemma enclosed_cons_iff : Enclosed ('{' :: cs) ↔ Closes 1 cs := by
  have hdepth (p : List Char) : braceDepth ('{' :: p) = (1 : Nat) + braceDepth p :=
    braceDepth_cons '{' p
  constructor
  · intro h p hp
    rw [← hdepth]
    constructor
    · intro hzero
      by_contra hne
      exact h.inside _ (List.cons_prefix_cons.mpr ⟨rfl, hp⟩) (List.cons_ne_nil _ _)
        (fun heq => hne (List.cons.inj heq).2) hzero
    · rintro rfl
      exact h.closed
  · intro h
    refine ⟨rfl, (hdepth cs).trans ((h cs List.prefix_rfl).mpr rfl), ?_⟩
    intro p hp hne hproper hzero
    cases p with
    | nil => exact hne rfl
    | cons d p =>
      obtain ⟨rfl, htail⟩ := List.cons_prefix_cons.mp hp
      rw [hdepth, h p htail] at hzero
      exact hproper (congrArg _ hzero)

namespace Closes

lemma ne_nil (h : Closes depth cs) (hdepth : 0 < depth) : cs ≠ [] := by
  rintro rfl
  have hzero := (h [] List.prefix_rfl).mpr rfl
  rw [braceDepth_nil] at hzero
  omega

/-- The brace that closes the last open one is the last character. -/
lemma eq_nil (h : Closes 1 ('}' :: cs)) : cs = [] := by
  have hfirst := (h ['}'] (List.cons_prefix_cons.mpr ⟨rfl, List.nil_prefix⟩)).mp rfl
  exact (List.cons.inj hfirst).2.symm

lemma nil : Closes 0 [] := by
  intro p hp
  rw [List.prefix_nil.mp hp]
  exact iff_of_true rfl rfl

lemma cons_iff {inner : Nat} (hdepth : 0 < depth) (hinner : inner = depth + braceDepth [c]) :
    Closes depth (c :: cs) ↔ Closes inner cs := by
  have hstep (p : List Char) : depth + braceDepth (c :: p) = inner + braceDepth p := by
    rw [braceDepth_cons, hinner]
    omega
  constructor
  · intro h p hp
    rw [← hstep, h _ (List.cons_prefix_cons.mpr ⟨rfl, hp⟩), List.cons.injEq]
    exact and_iff_right rfl
  · intro h p hp
    cases p with
    | nil =>
      rw [braceDepth_nil]
      exact iff_of_false (by omega) (List.cons_ne_nil c cs).symm
    | cons d p =>
      obtain ⟨rfl, htail⟩ := List.cons_prefix_cons.mp hp
      rw [hstep, h p htail, List.cons.injEq]
      exact (and_iff_right rfl).symm

lemma last : Closes 1 ['}'] := (cons_iff Nat.one_pos rfl).mpr nil

/-- As many closing braces as there are open ones close them. -/
lemma replicate (depth : Nat) : Closes depth (List.replicate depth '}') := by
  induction depth with
  | zero => exact nil
  | succ depth ih =>
    rw [List.replicate_succ]
    refine (cons_iff (Nat.succ_pos depth) ?_).mpr ih
    change (depth : Int) = (depth + 1 : Nat) + -1
    omega

/-- Before the end some of the open braces are still open. -/
lemma above (h : Closes depth cs) (hdepth : 0 < depth) {p : List Char} (hp : p <+: cs)
    (hproper : p ≠ cs) : 0 < depth + braceDepth p := by
  induction p using List.reverseRecOn with
  | nil =>
    rw [braceDepth_nil]
    omega
  | append_singleton q c ih =>
    have hq : q <+: cs := (List.prefix_append q [c]).trans hp
    have hbefore : q ≠ cs := by
      rintro rfl
      have hlength := hp.length_le
      rw [List.length_append, List.length_singleton] at hlength
      omega
    have hsome := mt (h _ hp).mp hproper
    have hstep : -1 ≤ braceDepth [c] := by
      have hcount : [c].count '}' ≤ 1 := List.count_le_length
      unfold braceDepth
      omega
    have hpositive := ih hq hbefore
    rw [braceDepth_append] at hsome ⊢
    omega

/-- The number of open braces behind the first character, if it does not close the last of them. -/
lemma inner_iff (hdepth : 0 < depth) (hlast : ¬(c = '}' ∧ depth ≤ 1)) :
    let inner := if c = '{' then depth + 1 else if c = '}' then depth - 1 else depth
    (Closes depth (c :: cs) ↔ Closes inner cs) ∧ 0 < inner := by
  intro inner
  have hinner : inner = depth + braceDepth [c] ∧ 0 < inner := by
    unfold inner braceDepth
    split_ifs with opens closes
    · rw [opens]
      simp
    · have hmore : ¬depth ≤ 1 := fun hle => hlast ⟨closes, hle⟩
      rw [closes]
      simp
      omega
    · simpa [opens, closes] using hdepth
  exact ⟨cons_iff hdepth hinner.1, hinner.2⟩

end Closes

/-- A text whose braces are balanced by themselves. -/
structure Level (cs : List Char) : Prop where
  settled : braceDepth cs = 0
  above : ∀ p, p <+: cs → 0 ≤ braceDepth p

instance (cs : List Char) : Decidable (Level cs) :=
  decidable_of_iff (braceDepth cs = 0 ∧ ∀ p ∈ cs.inits, 0 ≤ braceDepth p) <| by
    simp only [List.mem_inits]
    exact ⟨fun ⟨settled, above⟩ => ⟨settled, above⟩, fun ⟨settled, above⟩ => ⟨settled, above⟩⟩

lemma Closes.append_of_level (hdepth : 0 < depth) (hlevel : Level cs) (h : Closes depth ds) :
    Closes depth (cs ++ ds) := by
  intro p hp
  rcases List.prefix_or_prefix_of_prefix hp (List.prefix_append cs ds) with hcs | ⟨q, rfl⟩
  · have hnonneg := hlevel.above p hcs
    refine iff_of_false (by omega) ?_
    rintro rfl
    have hlength := hcs.length_le
    rw [List.length_append] at hlength
    have hds : ds = [] := List.eq_nil_of_length_eq_zero (by omega)
    exact h.ne_nil hdepth hds
  · have hq : q <+: ds := (List.prefix_append_right_inj cs).mp hp
    rw [braceDepth_append, hlevel.settled, Int.zero_add, h q hq, List.append_right_inj]

def isBrace (c : Char) : Bool := c = '{' ∨ c = '}'

/-- The braces of a text. -/
def braces (cs : List Char) : List Char := cs.filter isBrace

lemma braces_append (cs ds : List Char) : braces (cs ++ ds) = braces cs ++ braces ds :=
  List.filter_append ..

lemma braceDepth_braces (cs : List Char) : braceDepth (braces cs) = braceDepth cs := by
  unfold braceDepth braces
  rw [List.count_filter rfl, List.count_filter rfl]

/-- A text that ends with a brace closes what its braces close. -/
lemma Closes.of_braces (h : Closes depth (braces cs)) (hlast : cs.getLast? = some '}') :
    Closes depth cs := by
  obtain ⟨front, rfl⟩ := List.getLast?_eq_some_iff.mp hlast
  intro p hp
  rw [← braceDepth_braces, h (braces p) (hp.filter isBrace)]
  constructor
  · intro hbraces
    rcases List.prefix_concat_iff.mp hp with rfl | hp
    · rfl
    · -- The last brace is missing from what stands before it.
      have hle := (hp.filter isBrace).length_le
      have hlen := congrArg List.length hbraces
      rw [braces_append, List.length_append] at hlen
      change (braces p).length ≤ (braces front).length at hle
      change _ = _ + 1 at hlen
      omega
  · rintro rfl
    rfl

end ChatQuery
