import ChatQuery.Proofs.Compile.Subscriptions
import Mathlib.Data.Nat.Digits.Defs

/-!
How windows are filled in. Each field of a window is what the last operand of its word says, and is
left as it was if there is none. Operands that do not fit their word refuse the whole window.
-/
namespace ChatQuery

variable {o : Operand} {os ps : List Operand} {w w' : Window} {d : Directive}
  {calls : List Call}

section Limits

/-- The number that a run of digits denotes. -/
def decimal (text : String) : Nat :=
  Nat.ofDigits 10 (text.toList.reverse.map fun c => c.toNat - '0'.toNat)

/-- A run of ASCII digits that denotes an unsigned number of 32 bits. -/
structure IsLimit (text : String) : Prop where
  some_digit : text ≠ ""
  digits : ∀ c ∈ text.toList, c.isDigit = true
  fits : decimal text < 2 ^ 32

lemma decimal_eq_foldl (text : String) :
    decimal text = text.toList.foldl (fun n c => n * 10 + (c.toNat - '0'.toNat)) 0 := by
  rw [decimal, Nat.ofDigits_eq_foldr, List.foldr_map, List.foldr_reverse]
  congr 1
  funext n c
  rw [Nat.mul_comm, Nat.add_comm]
  rfl

lemma Operand.limit?_eq_ok_iff {n : Nat} :
    o.limit? = .ok n ↔ IsLimit o.text ∧ n = decimal o.text := by
  have admitted : (!o.text.toList.isEmpty && o.text.toList.all Char.isDigit &&
      decide (decimal o.text < UInt32.size)) = true ↔ IsLimit o.text := by
    simp only [Bool.and_eq_true, Bool.not_eq_true', List.isEmpty_eq_false_iff, ne_eq,
      String.toList_eq_nil_iff, List.all_eq_true, decide_eq_true_eq]
    exact ⟨fun ⟨⟨some_digit, digits⟩, fits⟩ => ⟨some_digit, digits, fits⟩,
      fun h => ⟨⟨h.some_digit, h.digits⟩, h.fits⟩⟩
  unfold limit?
  dsimp only
  rw [← decimal_eq_foldl]
  split_ifs with h
  · rw [admitted] at h
    simp [h, eq_comm]
  · rw [admitted] at h
    simp [h]

end Limits

/-- The operand can stand in the clause that it is known by. -/
def Operand.Fits (o : Operand) : Prop :=
  match o.key with
  | .keyword .limit => IsLimit o.text
  | .keyword .before | .keyword .after | .keyword .around => isSnowflake o.text = true
  | _ => True

/-- The words whose clauses say what a window is. -/
def windowWords : List Keyword := Kind.valueClauses (.keyword .read)

lemma Kind.valueClauses_of_window {k : Kind} (h : k = .keyword .read ∨ k = .keyword .delete) :
    k.keysByClause = true ∧ k.valueClauses = windowWords := by
  rcases h with rfl | rfl <;> exact ⟨rfl, rfl⟩

lemma Operand.isAnchor_eq :
    o.isAnchor = decide (∃ word ∈ windowWords, o.key = .keyword word) := by
  simp [isAnchor, windowWords, Kind.valueClauses]

lemma Operand.fits_of_not_anchor (h : o.isAnchor = false) : o.Fits := by
  simp only [isAnchor, Bool.decide_or, Bool.or_eq_false_iff, decide_eq_false_iff_not] at h
  unfold Fits
  split <;> simp_all

namespace Window

/-- The window in which each field is what the last of its operands says, or else as before. -/
def filled (w : Window) (os : List Operand) : Window where
  limit := ((textsWith (.keyword .limit) os).getLast?.map decimal).getD w.limit
  before := (textsWith (.keyword .before) os).getLast?.or w.before
  after := (textsWith (.keyword .after) os).getLast?.or w.after
  around := (textsWith (.keyword .around) os).getLast?.or w.around

lemma filled_nil (w : Window) : w.filled [] = w := rfl

lemma filled_append (w : Window) (os ps : List Operand) :
    w.filled (os ++ ps) = (w.filled os).filled ps := by
  have last (key : Kind) : (textsWith key (os ++ ps)).getLast? =
      (textsWith key ps).getLast?.or (textsWith key os).getLast? := by
    rw [textsWith, List.filter_append, List.map_append, List.getLast?_append]
    rfl
  have limit : (((textsWith (.keyword .limit) ps).getLast?.or
      (textsWith (.keyword .limit) os).getLast?).map decimal).getD w.limit =
      ((textsWith (.keyword .limit) ps).getLast?.map decimal).getD
        (((textsWith (.keyword .limit) os).getLast?.map decimal).getD w.limit) := by
    cases (textsWith (.keyword .limit) ps).getLast? <;> rfl
  simp only [filled, last, limit, Option.or_assoc]

lemma filled_of_not_anchor (h : o.isAnchor = false) : w.filled [o] = w := by
  simp only [Operand.isAnchor, Bool.decide_or, Bool.or_eq_false_iff, decide_eq_false_iff_not] at h
  obtain ⟨limit, before, after, around⟩ := h
  simp [filled, textsWith, limit, before, after, around]

lemma fill?_eq_ok_iff : w.fill? o = .ok w' ↔ o.Fits ∧ w' = w.filled [o] := by
  have anchored (make : String → Window) : (o.id? .message).map make = .ok w' ↔
      isSnowflake o.text = true ∧ w' = make o.text := by
    unfold Operand.id?
    split_ifs with h <;> simp [h, Except.map, eq_comm]
  have limited : o.limit?.map (fun n => { w with limit := n }) = .ok w' ↔
      IsLimit o.text ∧ w' = { w with limit := decimal o.text } := by
    constructor
    · intro h
      obtain ⟨n, hn, rfl⟩ := map_eq_ok h
      obtain ⟨limit, rfl⟩ := Operand.limit?_eq_ok_iff.mp hn
      exact ⟨limit, rfl⟩
    · rintro ⟨limit, rfl⟩
      rw [Operand.limit?_eq_ok_iff.mpr ⟨limit, rfl⟩]
      rfl
  unfold fill?
  split
  · next key =>
    rw [limited]
    simp [Operand.Fits, filled, textsWith, key]
  · next key =>
    rw [anchored]
    simp [Operand.Fits, filled, textsWith, key]
  · next key =>
    rw [anchored]
    simp [Operand.Fits, filled, textsWith, key]
  · next key =>
    rw [anchored]
    simp [Operand.Fits, filled, textsWith, key]
  · next limit before after around =>
    have other : o.isAnchor = false := decide_eq_false (by tauto)
    rw [filled_of_not_anchor other, Except.ok.injEq, and_iff_right (Operand.fits_of_not_anchor other)]
    exact eq_comm

/-- What a loop over operands fills in. -/
lemma foldlM_fill?_eq_ok_iff :
    os.foldlM fill? w = .ok w' ↔ (∀ o ∈ os, o.Fits) ∧ w' = w.filled os := by
  induction os generalizing w with
  | nil => simp [filled_nil, pure, Except.pure, eq_comm]
  | cons o os ih =>
    have step : w.filled (o :: os) = (w.filled [o]).filled os := w.filled_append [o] os
    rw [List.foldlM_cons, List.forall_mem_cons, step]
    constructor
    · intro h
      obtain ⟨next, hnext, h⟩ := bind_eq_ok h
      obtain ⟨fits, rfl⟩ := fill?_eq_ok_iff.mp hnext
      obtain ⟨rest, rfl⟩ := ih.mp h
      exact ⟨⟨fits, rest⟩, rfl⟩
    · rintro ⟨⟨fits, rest⟩, rfl⟩
      rw [fill?_eq_ok_iff.mpr ⟨fits, rfl⟩]
      exact ih.mpr ⟨rest, rfl⟩

end Window

/-- What a deletion asks of an operand: messages that it names are identifiers. -/
def Operand.FitsDeletion (o : Operand) : Prop :=
  o.Fits ∧ (o.isAnchor = false → o.has .message = true → isSnowflake o.text = true)

namespace Directive

/-- The deletions of the messages that operands outside a window name. -/
def deletions (os : List Operand) : List Call :=
  (os.filter fun o => !o.isAnchor && o.has .message).map fun o => .deleteMessage o.text

variable {state final : Window × List Call}

lemma deletions_append (os ps : List Operand) :
    deletions (os ++ ps) = deletions os ++ deletions ps := by
  simp only [deletions, List.filter_append, List.map_append]

lemma deleteStep?_eq_ok_iff : deleteStep? state o = .ok final ↔
    o.FitsDeletion ∧ final = (state.1.filled [o], state.2 ++ deletions [o]) := by
  unfold deleteStep?
  split_ifs with anchor message
  · have asked : o.FitsDeletion ↔ o.Fits := by simp [Operand.FitsDeletion, anchor]
    have kept : deletions [o] = [] := by simp [deletions, anchor]
    rw [asked, kept, List.append_nil]
    constructor
    · intro h
      obtain ⟨w, hw, rfl⟩ := map_eq_ok h
      obtain ⟨fits, rfl⟩ := Window.fill?_eq_ok_iff.mp hw
      exact ⟨fits, rfl⟩
    · rintro ⟨fits, rfl⟩
      rw [Window.fill?_eq_ok_iff.mpr ⟨fits, rfl⟩]
      rfl
  · have outside := eq_false_of_ne_true anchor
    have asked : o.FitsDeletion ↔ isSnowflake o.text = true := by
      simp [Operand.FitsDeletion, Operand.fits_of_not_anchor, outside, message]
    have deleted : deletions [o] = [.deleteMessage o.text] := by simp [deletions, outside, message]
    rw [asked, deleted, Window.filled_of_not_anchor outside]
    unfold Operand.id?
    split_ifs with snowflake <;> simp [snowflake, Except.map, eq_comm]
  · have outside := eq_false_of_ne_true anchor
    have unmarked := eq_false_of_ne_true message
    have asked : o.FitsDeletion := by
      simp [Operand.FitsDeletion, Operand.fits_of_not_anchor, outside, unmarked]
    have kept : deletions [o] = [] := by simp [deletions, unmarked]
    rw [and_iff_right asked, kept, List.append_nil, Window.filled_of_not_anchor outside,
      Except.ok.injEq]
    exact eq_comm

/-- A deletion goes over its operands like a reading, and collects the messages that are to go. -/
lemma foldlM_deleteStep?_eq_ok_iff : os.foldlM deleteStep? state = .ok final ↔
    (∀ o ∈ os, o.FitsDeletion) ∧ final = (state.1.filled os, state.2 ++ deletions os) := by
  induction os generalizing state with
  | nil => simp [Window.filled_nil, deletions, pure, Except.pure, eq_comm]
  | cons o os ih =>
    have window : state.1.filled (o :: os) = (state.1.filled [o]).filled os :=
      state.1.filled_append [o] os
    have deleted : deletions (o :: os) = deletions [o] ++ deletions os := deletions_append [o] os
    rw [List.foldlM_cons, List.forall_mem_cons, window, deleted, ← List.append_assoc]
    constructor
    · intro h
      obtain ⟨next, hnext, h⟩ := bind_eq_ok h
      obtain ⟨fits, rfl⟩ := deleteStep?_eq_ok_iff.mp hnext
      obtain ⟨rest, rfl⟩ := ih.mp h
      exact ⟨⟨fits, rest⟩, rfl⟩
    · rintro ⟨⟨fits, rest⟩, rfl⟩
      rw [deleteStep?_eq_ok_iff.mpr ⟨fits, rfl⟩]
      exact ih.mpr ⟨rest, rfl⟩

/-- A deletion deletes the messages of its window only if it is told a limit. -/
lemma deleteCalls?_eq_ok_iff : d.deleteCalls? = .ok calls ↔
    ∃ selection, d.channelCalls? = .ok selection ∧ (∀ o ∈ d.values, o.FitsDeletion) ∧
      calls = selection ++ (deletions d.values ++ if d.values.any (·.key = .keyword .limit) then
        [.deleteMessages (Window.standard.filled d.values)] else []) := by
  constructor
  · intro h
    obtain ⟨selection, hselection, h⟩ := bind_eq_ok h
    obtain ⟨state, hstate, h⟩ := bind_eq_ok h
    obtain ⟨fits, rfl⟩ := foldlM_deleteStep?_eq_ok_iff.mp hstate
    cases h
    exact ⟨selection, hselection, fits, List.append_assoc _ _ _⟩
  · rintro ⟨selection, hselection, fits, rfl⟩
    unfold deleteCalls?
    rw [hselection, foldlM_deleteStep?_eq_ok_iff.mpr ⟨fits, rfl⟩]
    exact congrArg Except.ok (List.append_assoc _ _ _)

/-- A reading has a target, which it selects if that is a channel, and asks for something. -/
lemma readCalls?_eq_ok_iff : d.readCalls? = .ok calls ↔ ∃ t, d.target = some t ∧
    (t.has .channel = true → isSnowflake t.text = true) ∧ d.values ≠ [] ∧
    (∀ o ∈ d.values, o.Fits) ∧
    calls = (if t.has .channel then [.selectChannel t.text] else []) ++
      [.readChannel (Window.standard.filled d.values)] := by
  have selected {t : Operand} {selection : List Call} :
      (if t.has .channel then (t.id? .channel).map fun id => [.selectChannel id] else .ok []) =
          .ok selection ↔
        (t.has .channel = true → isSnowflake t.text = true) ∧
          selection = if t.has .channel then [.selectChannel t.text] else [] := by
    unfold Operand.id?
    split_ifs with channel snowflake
    · simp [Except.map, channel, snowflake, eq_comm (a := selection)]
    · simp [Except.map, channel, snowflake]
    · simp [channel]
  constructor
  · intro h
    cases target : d.target with
    | none =>
      rw [readCalls?, target] at h
      cases h
    | some t =>
      rw [readCalls?_eq target] at h
      obtain ⟨selection, hselection, h⟩ := bind_eq_ok h
      obtain ⟨snowflake, hselection⟩ := selected.mp hselection
      split_ifs at h with none
      obtain ⟨window, hwindow, h⟩ := bind_eq_ok h
      obtain ⟨fits, rfl⟩ := Window.foldlM_fill?_eq_ok_iff.mp hwindow
      cases h
      exact ⟨t, rfl, snowflake, mt List.isEmpty_iff.mpr none, fits, congrArg (· ++ _) hselection⟩
  · rintro ⟨t, target, snowflake, some_value, fits, rfl⟩
    rw [readCalls?_eq target, selected.mpr ⟨snowflake, rfl⟩]
    change (if d.values.isEmpty then _ else _) = _
    rw [if_neg (mt List.isEmpty_iff.mp some_value), Window.foldlM_fill?_eq_ok_iff.mpr ⟨fits, rfl⟩]
    rfl

end Directive

end ChatQuery
