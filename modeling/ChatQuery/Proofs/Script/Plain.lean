import ChatQuery.Proofs.Script.Seen
import ChatQuery.Proofs.Statement.Groups

/-!
Plain statements: an opening word and literals, without clauses and marks. The literals of such a
statement are its values and it has no target, so its calls are those of its opening word for the
texts of the literals.
-/
namespace ChatQuery

/-- What a literal without a mark says. -/
structure Literal where
  kind : LiteralKind
  text : String
  nonempty : text ≠ ""

namespace Literal

def token (l : Literal) : Token := ⟨0, .literal l.kind, some l.text⟩

def operand (l : Literal) : Operand := ⟨0, .literal l.kind, l.text, none⟩

lemma operand?_eq (l : Literal) : Leaf.operand? ⟨l.token, none⟩ l.token.kind = some l.operand := by
  have said : l.token.content? = some l.text :=
    Option.filter_eq_some_iff.mpr ⟨rfl, decide_eq_true l.nonempty⟩
  unfold Leaf.operand?
  rw [said]
  rfl

end Literal

namespace Opener

def token (o : Opener) : Token := ⟨0, .keyword o.keyword, none⟩

lemma kind_ne {o p : Opener} (h : o ≠ p) : Kind.keyword o.keyword ≠ .keyword p.keyword := by
  intro heq
  have ho : ofKind? (.keyword o.keyword) = some o := ofKind?_eq_some.mpr rfl
  rw [heq, ofKind?_eq_some.mpr rfl] at ho
  exact h (Option.some.inj ho).symm

/-- The opening word with literals behind it. -/
def plain (o : Opener) (ls : List Literal) : Directive where
  head := ⟨0, .keyword o.keyword, o.keyword.label, none⟩
  target := none
  values := ls.map Literal.operand

end Opener

section Trees

variable (ls : List Literal)

namespace Element

lemma ofTokens_literals :
    ofTokens (ls.map Literal.token) = ls.map fun l => .leaf ⟨l.token, none⟩ := by
  induction ls with
  | nil => rfl
  | cons l ls ih =>
    cases ls with
    | nil => rfl
    | cons m ls =>
      have unmarked : ¬(l.token.kind.isLiteral ∧ m.token.kind.isMark) :=
        fun h => Bool.false_ne_true h.2
      rw [List.map_cons, List.map_cons, ofTokens, if_neg unmarked, ← List.map_cons, ih]
      rfl

lemma grouped_leaves (leaves : List Leaf) : grouped (leaves.map .leaf) = (leaves, []) := by
  induction leaves with
  | nil => rfl
  | cons l leaves ih => rw [List.map_cons, grouped, ih]

lemma parts_literals :
    parts (ofTokens (ls.map Literal.token)) = ls.map fun l => .leaf ⟨l.token, none⟩ := by
  have leaves : (ls.map fun l => Element.leaf ⟨l.token, none⟩) =
      (ls.map fun l => Leaf.mk l.token none).map .leaf := by
    rw [List.map_map]
    rfl
  rw [ofTokens_literals, parts, leaves, grouped_leaves, List.append_nil, List.map_map]
  rfl

end Element

namespace Statement

/-- The tree of a plain statement. -/
def plain (o : Opener) (ls : List Literal) : Statement :=
  ⟨o.token, ls.map fun l => .leaf ⟨l.token, none⟩⟩

/-- Content behind an opening word is one statement. -/
lemma ofTokens?_opened (o : Opener) {ts : List Token}
    (content : ∀ t ∈ ts, t.kind.isContent = true) :
    ofTokens? (o.token :: ts ++ [⟨0, .semicolon, none⟩, ⟨0, .endOfText, none⟩]) =
      .ok [⟨o.token, Element.parts (Element.ofTokens ts)⟩] := by
  have hopener : o.token.kind.isOpener = true := by cases o <;> rfl
  have hgroups : groups? (o.token :: ts ++ [⟨0, .semicolon, none⟩, ⟨0, .endOfText, none⟩]) =
      .ok [o.token :: ts] :=
    groups?_of_content (List.cons_ne_nil _ _) (List.forall_mem_cons.mpr ⟨rfl, content⟩) rfl rfl
  unfold ofTokens?
  rw [hgroups]
  change [o.token :: ts].mapM ofGroup? = _
  rw [List.mapM_cons, ofGroup?, if_pos hopener]
  rfl

/-- The tokens of a plain statement have that tree. -/
lemma ofTokens?_plain (o : Opener) :
    ofTokens? (o.token :: ls.map Literal.token ++ [⟨0, .semicolon, none⟩, ⟨0, .endOfText, none⟩]) =
      .ok [plain o ls] := by
  rw [ofTokens?_opened o (List.forall_mem_map.mpr fun _ _ => rfl), Element.parts_literals]
  rfl

/-- Made flat, its literals are the values. -/
lemma directive_plain {o : Opener} (h : o ≠ .listen) : (plain o ls).directive = o.plain ls := by
  have hcandidates : (plain o ls).candidates = [] := by
    simp [candidates, plain, Part.candidates]
  have hpart (l : Literal) : Part.values o.token.kind (.leaf ⟨l.token, none⟩) = [l.operand] := by
    rw [Part.values, if_neg (by exact Opener.kind_ne h), l.operand?_eq]
    rfl
  have hvalues : (plain o ls).values = ls.map Literal.operand := by
    change (ls.map fun l => Part.leaf ⟨l.token, none⟩).flatMap (Part.values o.token.kind) = _
    rw [List.flatMap_map, List.map_eq_flatMap]
    exact congrArg (List.flatMap · ls) (funext hpart)
  unfold directive target?
  rw [hcandidates, hvalues]
  rfl

end Statement

end Trees

namespace Directive

/-- A message that goes to no target of its own is one call. -/
lemma sendCalls?_plain {ls : List Literal} (hls : ls ≠ []) {body : MessageBody}
    (hbody : MessageBody.ofOperands? (ls.map Literal.operand) = .ok body) :
    (Opener.send.plain ls).sendCalls? = .ok [.sendMessage body] := by
  have htarget : (Opener.send.plain ls).channelCalls? = .ok [] := rfl
  have hvalues : (Opener.send.plain ls).values.isEmpty = false := by simpa [Opener.plain] using hls
  unfold sendCalls?
  rw [htarget, hvalues]
  change (MessageBody.ofOperands? (ls.map Literal.operand) >>= _) = _
  rw [hbody]
  rfl

end Directive

namespace Script

/-- A plain statement compiles to the calls of its opening word. -/
theorem ofTokens?_plain (listener : Listener) {o : Opener} (hlisten : o ≠ .listen)
    (hraw : o ≠ .raw) (ls : List Literal) :
    ofTokens? listener
        (o.token :: ls.map Literal.token ++ [⟨0, .semicolon, none⟩, ⟨0, .endOfText, none⟩]) =
      ((o.plain ls).openerCalls? listener o).toOption.map fun calls => ⟨calls, 0⟩ := by
  have hfault : (o.plain ls).fault? = none := by
    rw [Directive.fault?_eq_none]
    exact List.forall_mem_map.mpr fun l _ => rfl
  have hcalls : (o.plain ls).calls? listener = (o.plain ls).openerCalls? listener o := by
    have hopener : Opener.ofKind? (o.plain ls).head.key = some o := Opener.ofKind?_eq_some.mpr rfl
    unfold Directive.calls?
    rw [hopener, hfault]
  have htoggle : isToggle (o.plain ls) = false := decide_eq_false (Opener.kind_ne hraw)
  unfold ofTokens?
  rw [Statement.ofTokens?_plain, toOption_ok, Option.bind_some, List.map_singleton,
    Statement.directive_plain ls hlisten]
  have hkept : [o.plain ls].filter (!isToggle ·) = [o.plain ls] := by simp [htoggle]
  have hcount : [o.plain ls].countP isToggle = 0 := by simp [htoggle]
  unfold ofDirectives?
  rw [hkept, hcount, List.mapM_cons, hcalls]
  cases (o.plain ls).openerCalls? listener o with
  | error d => rfl
  | ok calls =>
    change some (Script.mk (calls ++ []) 0) = some ⟨calls, 0⟩
    rw [List.append_nil]

/-- A text in which a plain statement is seen compiles to the calls of its opening word. -/
theorem compile?_plain {listener : Listener} {o : Opener} (hlisten : o ≠ .listen) (hraw : o ≠ .raw)
    {ls : List Literal} {source : String}
    (hseen : seen source.toList =
      o.token :: ls.map Literal.token ++ [⟨0, .semicolon, none⟩, ⟨0, .endOfText, none⟩])
    {calls : List Call} (hcalls : (o.plain ls).openerCalls? listener o = .ok calls) :
    compile? listener source = .ok ⟨calls, 0⟩ := by
  rw [← toOption_eq_some, toOption_compile?_seen, hseen, ofTokens?_plain listener hlisten hraw,
    hcalls]
  rfl

end Script

end ChatQuery
