import ChatQuery.Proofs.Compile.Fault

/-!
What a message says. Its content, its attachments and its embeds are those of its operands, each in
the order of the operands.
-/
namespace ChatQuery

namespace Operand

/-- The line that an operand adds to the content: its text, or the mention of a user. -/
def line? (o : Operand) : Option String :=
  match o.key, o.mark with
  | .literal .string, none | .literal .number, none => some o.text
  | .literal .string, some (.mark .mention) => some ("<@" ++ o.text ++ ">")
  | _, _ => none

lemma line?_eq_none {o : Operand}
    (h : o.key ≠ .literal .string ∨ o.mark ≠ some (.mark .mention))
    (plain : ¬((o.key = .literal .string ∨ o.key = .literal .number) ∧ o.mark = none)) :
    o.line? = none := by
  unfold line?
  split <;> simp_all

/-- Objects are embedded, and so are strings that are marked for it. -/
def isEmbed (o : Operand) : Bool :=
  !o.has .attachment && (o.key = .literal .object ∨ o.key = .literal .string ∧ o.has .embed)

end Operand

namespace MessageBody

variable {b c : MessageBody} {o : Operand} {os ps : List Operand} {p : Contribution}

/-- The message conveys just what the operands say. -/
structure Conveys (b : MessageBody) (os : List Operand) : Prop where
  content : b.content = String.join ((os.filterMap Operand.line?).map (· ++ "\n"))
  attachments : b.attachments = (os.filter (·.has .attachment)).map Operand.text
  embeds : b.embeds.map some = (os.filter Operand.isEmbed).map (Json.read? ·.text)

def append (b c : MessageBody) : MessageBody :=
  ⟨b.content ++ c.content, b.attachments ++ c.attachments, b.embeds ++ c.embeds⟩

lemma add_eq (b : MessageBody) (p : Contribution) : b.add p = b.append (empty.add p) := by
  cases p <;> simp [add, append, empty, String.append_assoc]

lemma append_assoc (b c d : MessageBody) : (b.append c).append d = b.append (c.append d) := by
  simp [append, String.append_assoc]

lemma foldl_add (b : MessageBody) (parts : List Contribution) :
    parts.foldl add b = b.append (parts.foldl add empty) := by
  induction parts generalizing b with
  | nil => simp [append, empty]
  | cons p parts ih =>
    rw [List.foldl_cons, List.foldl_cons, ih, ih (empty.add p), add_eq b, append_assoc]

lemma Conveys.nil : empty.Conveys [] := ⟨rfl, rfl, rfl⟩

lemma Conveys.append (h : b.Conveys os) (h' : c.Conveys ps) : (b.append c).Conveys (os ++ ps) where
  content := by
    change b.content ++ c.content = _
    rw [h.content, h'.content, List.filterMap_append, List.map_append, String.join_append]
  attachments := by
    change b.attachments ++ c.attachments = _
    rw [h.attachments, h'.attachments, List.filter_append, List.map_append]
  embeds := by
    change (b.embeds ++ c.embeds).map some = _
    rw [List.map_append, h.embeds, h'.embeds, List.filter_append, List.map_append]

/-- What an operand contributes to a message is what it says. -/
lemma conveys_of_contribution? (h : o.contribution? = .ok p) : (empty.add p).Conveys [o] := by
  unfold Operand.contribution? at h
  split_ifs at h with attached embedded mentioned plain
  · cases h
    have quiet : o.line? = none := by
      have mark := Operand.has_iff.mp attached
      exact Operand.line?_eq_none (by simp [mark]) (by simp [mark])
    constructor <;> simp [add, empty, Operand.isEmbed, attached, quiet]
  · obtain ⟨v, hv, rfl⟩ := map_eq_ok h
    have quiet : o.line? = none := by
      rcases embedded with key | ⟨key, marked⟩
      · exact Operand.line?_eq_none (by simp [key]) (by simp [key])
      · have mark := Operand.has_iff.mp marked
        exact Operand.line?_eq_none (by simp [mark]) (by simp [mark])
    have read := Operand.json?_eq_ok_iff.mp hv
    constructor <;> simp [add, empty, Operand.isEmbed, attached, embedded, quiet, read]
  · obtain ⟨id, hid, rfl⟩ := map_eq_ok h
    obtain ⟨-, rfl⟩ := Operand.id?_eq_ok_iff.mp hid
    have line : o.line? = some ("<@" ++ o.text ++ ">") := by
      rw [Operand.line?, mentioned.1, Operand.has_iff.mp mentioned.2]
    constructor <;> simp [add, empty, Operand.isEmbed, attached, embedded, line]
  · cases h
    have line : o.line? = some o.text := by
      rcases plain with ⟨key | key, mark⟩ <;> rw [Operand.line?, key, mark]
    constructor <;> simp [add, empty, Operand.isEmbed, attached, embedded, line]
  · cases h
    have quiet : o.line? = none := by
      refine Operand.line?_eq_none ?_ plain
      rw [Operand.has_iff] at mentioned
      tauto
    constructor <;> simp [add, empty, Operand.isEmbed, attached, embedded, quiet]

theorem conveys_of_ofOperands? (h : ofOperands? os = .ok b) : b.Conveys os := by
  obtain ⟨parts, hparts, hb⟩ := bind_eq_ok h
  cases hb
  clear h
  induction os generalizing parts with
  | nil =>
    cases hparts
    exact Conveys.nil
  | cons o os ih =>
    rw [List.mapM_cons] at hparts
    obtain ⟨p, hp, hparts⟩ := bind_eq_ok hparts
    obtain ⟨more, hmore, hparts⟩ := bind_eq_ok hparts
    cases hparts
    rw [List.foldl_cons, foldl_add]
    exact (conveys_of_contribution? hp).append (ih more hmore)

end MessageBody

end ChatQuery
