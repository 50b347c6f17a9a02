import ChatQuery.Proofs.Success
import ChatQuery.Script

/-!
What is wrong with the operands of a directive. A directive only compiles if nothing is wrong with
any of them, whatever its opening word makes of them.
-/
namespace ChatQuery

lemma Diagnostic.leftmost?_eq_none {ds : List Diagnostic} : leftmost? ds = none ↔ ds = [] := by
  cases ds with
  | nil => exact ⟨fun _ => rfl, fun _ => rfl⟩
  | cons d ds =>
    unfold leftmost?
    split
    · simp
    · split_ifs <;> simp

lemma Diagnostic.mem_of_leftmost? {d : Diagnostic} {ds : List Diagnostic}
    (h : leftmost? ds = some d) : d ∈ ds := by
  induction ds generalizing d with
  | nil => cases h
  | cons e ds ih =>
    unfold leftmost? at h
    split at h
    · cases h
      exact List.mem_cons_self
    · next f hf =>
      split_ifs at h <;> cases h
      · exact List.mem_cons_of_mem e (ih hf)
      · exact List.mem_cons_self

namespace Operand

variable {o : Operand} {m : Mark} {id : String} {v : Json}

lemma has_iff : o.has m = true ↔ o.mark = some (.mark m) := decide_eq_true_iff

lemma id?_eq_ok_iff : o.id? m = .ok id ↔ isSnowflake o.text = true ∧ o.text = id := by
  unfold id?
  split_ifs with h <;> simp [h]

lemma eq_of_map_id? {α : Type} {make : String → α} {a : α} (h : (o.id? m).map make = .ok a) :
    make o.text = a := by
  obtain ⟨id, hid, rfl⟩ := map_eq_ok h
  obtain ⟨-, rfl⟩ := id?_eq_ok_iff.mp hid
  rfl

lemma snowflake_of_map_id? {α : Type} {make : String → α} {a : α}
    (h : (o.id? m).map make = .ok a) : isSnowflake o.text = true := by
  obtain ⟨id, hid, -⟩ := map_eq_ok h
  exact (id?_eq_ok_iff.mp hid).1

lemma json?_eq_ok_iff : o.json? = .ok v ↔ Json.read? o.text = some v := by
  unfold json?
  split <;> simp_all

end Operand

namespace Directive

variable {d : Directive}

lemma fault?_eq_none : d.fault? = none ↔ ∀ o ∈ d.operands, o.fault? = none := by
  unfold fault?
  rw [Diagnostic.leftmost?_eq_none, List.filterMap_eq_nil_iff]

/-- A directive compiles to the calls of its opening word, if all its operands are sound. -/
lemma calls?_eq_ok_iff {listener : Listener} {calls : List Call} :
    d.calls? listener = .ok calls ↔ ∃ opener : Opener, d.head.key = .keyword opener.keyword ∧
      (∀ o ∈ d.operands, o.fault? = none) ∧ d.openerCalls? listener opener = .ok calls := by
  simp only [← fault?_eq_none, ← Opener.ofKind?_eq_some]
  unfold calls?
  cases Opener.ofKind? d.head.key with
  | none => simp
  | some opener => cases d.fault? <;> simp

/-- What opens a directive says which calls it compiles to. -/
lemma openerCalls?_of_calls? {listener : Listener} {calls : List Call} (opener : Opener)
    (opening : d.head.key = .keyword opener.keyword) (h : d.calls? listener = .ok calls) :
    d.openerCalls? listener opener = .ok calls := by
  obtain ⟨other, opening', -, hcalls⟩ := calls?_eq_ok_iff.mp h
  rw [← Opener.ofKind?_eq_some] at opening opening'
  cases opening.symm.trans opening'
  exact hcalls

/-- A reading selects its target if that is a channel, and then reads what its values say. -/
lemma readCalls?_eq {t : Operand} (target : d.target = some t) : d.readCalls? =
    (if t.has .channel then (t.id? .channel).map fun id => [.selectChannel id] else .ok []) >>=
      fun selection => if d.values.isEmpty then .error ⟨t.index, .keyword .read⟩
        else d.values.foldlM Window.fill? Window.standard >>= fun window =>
          .ok (selection ++ [.readChannel window]) := by
  unfold readCalls?
  rw [target]
  dsimp only
  split_ifs <;> rfl

/-- A directive that compiles has sound operands. -/
theorem sound_of_calls? {listener : Listener} {calls : List Call}
    (h : d.calls? listener = .ok calls) : ∀ o ∈ d.operands, o.fault? = none := by
  obtain ⟨-, -, sound, -⟩ := calls?_eq_ok_iff.mp h
  exact sound

end Directive

end ChatQuery
