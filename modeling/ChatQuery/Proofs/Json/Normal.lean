import ChatQuery.Json
import Mathlib.Data.String.Basic

/-!
JSON values as they compare. The order of the fields of an object does not count, and neither does
the sign of zero: values are equal if they have the same normal form.
-/
namespace ChatQuery

/-- The number, or the positive zero for the negative one. -/
def Double.normal (x : Double) : Double := { x with negative := x.negative && x.mantissa != 0 }

namespace Json

mutual

/-- The value without negative zeros, and with the fields of its objects sorted by name. Of several
fields of one name there remains the first, which is the one that is found. -/
def normal : Json → Json
  | .float x => .float x.normal
  | .arr items => .arr (normalItems items)
  | .obj fields => .obj (normalFields fields)
  | v => v

def normalItems : List Json → List Json
  | [] => []
  | v :: vs => normal v :: normalItems vs

def normalFields : List (String × Json) → List (String × Json)
  | [] => []
  | (k, v) :: fs => insertField k (normal v) (normalFields fs)

end

variable {fields : List (String × Json)} {f : String × Json}

lemma normalItems_eq_map (items : List Json) : normalItems items = items.map normal := by
  induction items with
  | nil => rfl
  | cons v vs ih => rw [normalItems, ih, List.map_cons]

lemma normalFields_eq_foldr (fields : List (String × Json)) :
    normalFields fields =
      (fields.map fun f => (f.1, f.2.normal)).foldr (fun f => insertField f.1 f.2) [] := by
  induction fields with
  | nil => rfl
  | cons f fs ih => rw [normalFields, ih, List.map_cons, List.foldr_cons]

/-- A field that is inserted is the one that is found under its name. -/
lemma find?_insertField (name sought : String) (value : Json) (fields : List (String × Json)) :
    (insertField name value fields).find? (·.1 == sought) =
      if name = sought then some (name, value) else fields.find? (·.1 == sought) := by
  induction fields with
  | nil => by_cases h : name = sought <;> simp [insertField, h]
  | cons field rest ih =>
    obtain ⟨other, v⟩ := field
    rw [insertField]
    by_cases hname : name = sought
    · subst hname
      rw [if_pos rfl] at ih ⊢
      split_ifs with before same
      · simp
      · simp
      · simp [ih, Ne.symm same]
    · rw [if_neg hname] at ih ⊢
      split_ifs with before same
      · simp [hname]
      · simp [← same, hname]
      · simp [List.find?_cons, ih]

/-- The fields of the normal form are those of the value, in their normal forms. -/
lemma field?_normal (v : Json) (name : String) :
    v.normal.field? name = (v.field? name).map normal := by
  cases v with
  | obj fields =>
    rw [normal, field?, field?]
    induction fields with
    | nil => rfl
    | cons f fs ih =>
      obtain ⟨k, v⟩ := f
      rw [normalFields, find?_insertField]
      by_cases hk : k = name
      · simp [hk]
      · rw [if_neg hk, ih, List.find?_cons_of_neg (by simpa using hk)]
  | _ => rfl

/-- The names of the fields rise. -/
def Sorted (fields : List (String × Json)) : Prop := fields.Pairwise (·.1 < ·.1)

lemma mem_of_mem_insertField {k : String} {v : Json} (h : f ∈ insertField k v fields) :
    f = (k, v) ∨ f ∈ fields := by
  induction fields with
  | nil => simpa [insertField] using h
  | cons g fs ih =>
    rw [insertField] at h
    split_ifs at h
    · exact List.mem_cons.mp h
    · exact (List.mem_cons.mp h).imp id (List.mem_cons_of_mem g)
    · rcases List.mem_cons.mp h with rfl | h
      · exact .inr List.mem_cons_self
      · exact (ih h).imp id (List.mem_cons_of_mem g)

lemma Sorted.insertField (h : Sorted fields) (k : String) (v : Json) :
    Sorted (insertField k v fields) := by
  induction fields with
  | nil => exact List.pairwise_singleton _ _
  | cons g fs ih =>
    obtain ⟨hg, hfs⟩ := List.pairwise_cons.mp h
    rw [Json.insertField]
    split_ifs with before same
    · refine List.pairwise_cons.mpr ⟨?_, h⟩
      exact List.forall_mem_cons.mpr ⟨before, fun f hf => before.trans (hg f hf)⟩
    · exact List.pairwise_cons.mpr ⟨fun f hf => same ▸ hg f hf, hfs⟩
    · refine List.pairwise_cons.mpr ⟨fun f hf => ?_, ih hfs⟩
      rcases mem_of_mem_insertField hf with rfl | hf
      · exact lt_of_le_of_ne (not_lt.mp before) (Ne.symm same)
      · exact hg f hf

lemma sorted_normalFields (fields : List (String × Json)) : Sorted (normalFields fields) := by
  induction fields with
  | nil => exact List.Pairwise.nil
  | cons f fs ih => exact ih.insertField _ _

/-- Sorted fields whose values are normal are left as they are. -/
lemma Sorted.normalFields (h : Sorted fields) (fixed : ∀ f ∈ fields, f.2.normal = f.2) :
    normalFields fields = fields := by
  induction fields with
  | nil => rfl
  | cons f fs ih =>
    obtain ⟨hf, hfs⟩ := List.pairwise_cons.mp h
    obtain ⟨first, others⟩ := List.forall_mem_cons.mp fixed
    rw [Json.normalFields, ih hfs others, first]
    cases fs with
    | nil => rfl
    | cons g gs => rw [Json.insertField, if_pos (hf g List.mem_cons_self)]

mutual

lemma normal_normal : ∀ v : Json, v.normal.normal = v.normal
  | .null | .bool _ | .int _ | .str _ => rfl
  | .float x => by simp [normal, Double.normal]
  | .arr items => by
    rw [normal, normal, normalItems_eq_map (normalItems items)]
    have fixed := List.map_congr_left (normal_of_mem_items items)
    exact congrArg Json.arr (fixed.trans (List.map_id' _))
  | .obj fields => by
    rw [normal, normal, (sorted_normalFields fields).normalFields (normal_of_mem_fields fields)]

lemma normal_of_mem_items : ∀ items : List Json, ∀ v ∈ normalItems items, v.normal = v
  | [] => List.forall_mem_nil _
  | v :: vs => List.forall_mem_cons.mpr ⟨normal_normal v, normal_of_mem_items vs⟩

lemma normal_of_mem_fields :
    ∀ fields : List (String × Json), ∀ f ∈ normalFields fields, f.2.normal = f.2
  | [] => List.forall_mem_nil _
  | (k, v) :: fs => by
    intro f hf
    rcases mem_of_mem_insertField hf with rfl | hf
    · exact normal_normal v
    · exact normal_of_mem_fields fs f hf

end

end Json

end ChatQuery
