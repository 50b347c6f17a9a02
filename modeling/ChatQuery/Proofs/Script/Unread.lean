import ChatQuery.Proofs.Script.Messages

/-!
Objects that are no JSON. They refuse the whole text wherever they are read, and wherever they are
asked for an identifier, a token or a number. What is left are the places where a literal is taken as
it stands, or not at all. As for malformed identifiers, literals that give no value are left out where
the last of those that may name the target says nothing.
-/
namespace ChatQuery

variable {listener : Listener} {source text : String} {s : Statement} {l : Leaf} {d : Directive}
  {calls : List Call} {o : Operand} {m : Mark} {opener : Opener}

/-- An object that is no JSON. -/
def Leaf.Unread (l : Leaf) : Prop :=
  l.token.kind = .literal .object ∧ ∃ text ∈ l.token.content?, Json.read? text = none

instance (l : Leaf) : Decidable l.Unread := inferInstanceAs (Decidable (_ ∧ _))

/-- The literal bears no mark, or one that asks for neither an identifier nor a token. -/
def Leaf.Unchecked (l : Leaf) : Prop :=
  ∀ m, l.mark = some (.mark m) → m ∈ [Mark.attachment, .embed]

/-- Why a statement does not read one of its literals as JSON, and asks for nothing else. -/
inductive Statement.Overlooks (s : Statement) (l : Leaf) : Prop
  /-- It gives no value, and without mark it names no target. -/
  | unaimed (other : l ∉ s.valueLeaves) (unmarked : l.mark = none)
  /-- It gives no value, and a later literal names the target. -/
  | superseded (later : s.Supersedes l)
  /-- It names an event. -/
  | event (opening : s.head.kind = .keyword .listen) (value : l ∈ s.valueLeaves)
    (unchecked : l.Unchecked)
  /-- It stands outside the clauses of a window. -/
  | outside (opening : s.head.kind = .keyword .read ∨ s.head.kind = .keyword .delete)
    (bare : .leaf l ∈ s.parts) (unchecked : l.Unchecked)
  /-- It stands where only a guild is of interest. -/
  | shown (opening : s.head.kind = .keyword .«show») (value : l ∈ s.valueLeaves)
    (unchecked : l.Unchecked)
  /-- It is not the only value of a presence. -/
  | ignored (opening : s.head.kind = .keyword .presence) (value : l ∈ s.valueLeaves)
    (unchecked : l.Unchecked) (several : 2 ≤ s.values.length)
  /-- It names an attachment. -/
  | attached (opening : s.head.kind = .keyword .send ∨ s.head.kind = .keyword .edit)
    (value : l ∈ s.valueLeaves) (mark : l.mark = some (.mark .attachment))

/-- No clause of a window takes an object. -/
lemma Operand.not_fits_of_braced {word : Keyword} (hword : word ∈ windowWords)
    (key : o.key = .keyword word) (braced : o.text.toList.head? = some '{') : ¬ o.Fits := by
  have snowflake := not_snowflake_of_braced braced
  intro fits
  rw [Operand.Fits, key] at fits
  simp only [windowWords, Kind.valueClauses, List.mem_cons, List.not_mem_nil, or_false] at hword
  rcases hword with rfl | rfl | rfl | rfl
  · have digit := fits.digits '{' (List.mem_of_head? braced)
    revert digit
    decide
  all_goals exact Bool.false_ne_true (snowflake.symm.trans fits)

namespace Directive

/-- The target of a statement that has target clauses, or that listens, is an identifier. -/
lemma snowflake_of_target (aimed : opener ∈ [.listen, .fetch, .delete, .send, .edit])
    (h : d.openerCalls? listener opener = .ok calls) {t : Operand} (target : d.target = some t) :
    isSnowflake t.text = true := by
  have scope {k : Keyword} {selection : List Call} (h : d.scopeCalls? k = .ok selection) :
      isSnowflake t.text = true := by
    rw [scopeCalls?, target] at h
    dsimp only at h
    split_ifs at h <;> exact Operand.snowflake_of_map_id? h
  have channel {selection : List Call} (h : d.channelCalls? = .ok selection) :
      isSnowflake t.text = true :=
    ((channelCalls?_eq_ok_iff.mp h).1 t target).2
  cases opener with
  | listen =>
    obtain ⟨selection, hselection, -⟩ := bind_eq_ok h
    exact scope hselection
  | fetch =>
    obtain ⟨selection, hselection, -⟩ := bind_eq_ok h
    exact scope hselection
  | delete =>
    obtain ⟨selection, hselection, -⟩ := bind_eq_ok h
    exact channel hselection
  | send =>
    obtain ⟨selection, hselection, -⟩ := bind_eq_ok h
    exact channel hselection
  | edit =>
    obtain ⟨edited, hedited, -⟩ := bind_eq_ok h
    rw [editTarget?, target] at hedited
    dsimp only at hedited
    split_ifs at hedited <;> exact Operand.snowflake_of_map_id? hedited
  | _ => simp at aimed

/-- The values of a `USE` are tokens or identifiers. -/
lemma text_of_useCalls? (h : d.useCalls? = .ok calls) (ho : o ∈ d.values) :
    isBotToken o.text = true ∨ isSnowflake o.text = true := by
  unfold useCalls? at h
  split_ifs at h
  · cases h
  · obtain ⟨c, -, hc⟩ := mem_of_mapM_eq_ok h ho
    unfold useCall? at hc
    split_ifs at hc with token text
    · exact .inl text
    · exact .inr (Operand.snowflake_of_map_id? hc)
    · exact .inr (Operand.snowflake_of_map_id? hc)

/-- The values of a `FETCH` are identifiers. -/
lemma text_of_fetchCalls? (h : d.fetchCalls? = .ok calls) (ho : o ∈ d.values) :
    isSnowflake o.text = true := by
  obtain ⟨selection, -, h⟩ := bind_eq_ok h
  split_ifs at h
  · cases h
  · obtain ⟨fetched, hfetched, -⟩ := bind_eq_ok h
    obtain ⟨c, -, hc⟩ := mem_of_mapM_eq_ok hfetched ho
    unfold fetchCall? at hc
    split_ifs at hc <;> exact Operand.snowflake_of_map_id? hc

/-- A presence that is one object is read. -/
lemma several_of_presenceCalls? (h : d.presenceCalls? = .ok calls) (ho : o ∈ d.values)
    (object : o.key = .literal .object) (unread : Json.read? o.text = none) :
    2 ≤ d.values.length := by
  by_contra few
  have single : d.values = [o] := by
    have one : d.values.length = 1 := by
      have some_value := List.length_pos_of_mem ho
      omega
    obtain ⟨p, only⟩ := List.length_eq_one_iff.mp one
    rw [only, List.mem_singleton] at ho
    rw [only, ho]
  have presence : d.presence? = some o := by
    rw [presence?, single]
    exact if_pos object
  rw [presenceCalls?, presence] at h
  obtain ⟨v, hv, -⟩ := map_eq_ok h
  cases unread.symm.trans (Operand.json?_eq_ok_iff.mp hv)

end Directive

/-- Objects of a message are attached, or else read. -/
lemma MessageBody.read_of_ofOperands? {os : List Operand} {body : MessageBody}
    (h : ofOperands? os = .ok body) (ho : o ∈ os) (object : o.key = .literal .object) :
    o.has .attachment = true ∨ Json.read? o.text ≠ none := by
  obtain ⟨parts, hparts, -⟩ := bind_eq_ok h
  obtain ⟨p, -, hp⟩ := mem_of_mapM_eq_ok hparts ho
  unfold Operand.contribution? at hp
  by_cases attached : o.has .attachment = true
  · exact .inl attached
  · rw [if_neg attached, if_pos (.inl object)] at hp
    obtain ⟨v, hv, -⟩ := map_eq_ok hp
    rw [Operand.json?_eq_ok_iff.mp hv]
    exact .inr (Option.some_ne_none v)

namespace Statement

/-- Of a statement that compiles, an object that is a value bears no mark that it is checked for. -/
lemma unchecked_of_sound (sound : ∀ o ∈ s.directive.operands, o.fault? = none)
    (htext : l.token.content? = some text) (braced : text.toList.head? = some '{')
    (hvalue : l ∈ s.valueLeaves) : l.Unchecked := by
  obtain ⟨key, ho, -⟩ := s.exists_value hvalue htext
  intro m hm
  exact Operand.mark_of_braced (sound _ (List.mem_append_right _ ho)) braced
    (Operand.has_iff.mpr hm)

/-- In the clauses of a window there is no object. -/
lemma bare_of_fits (windowed : s.head.kind = .keyword .read ∨ s.head.kind = .keyword .delete)
    (fits : ∀ o ∈ s.values, o.Fits) (htext : l.token.content? = some text)
    (braced : text.toList.head? = some '{') (hvalue : l ∈ s.valueLeaves) : .leaf l ∈ s.parts := by
  obtain ⟨keyed, words⟩ := Kind.valueClauses_of_window windowed
  obtain ⟨part, hpart, hl⟩ := List.mem_flatMap.mp hvalue
  cases part with
  | leaf l' =>
    obtain ⟨-, rfl⟩ := Part.mem_valueLeaves_leaf.mp hl
    exact hpart
  | clause t leaves =>
    obtain ⟨key, ho, -⟩ := Part.exists_value hl htext
    obtain ⟨word, hword, hkey⟩ := Part.key_of_values_clause keyed ho
    have fit := fits _ (List.mem_flatMap.mpr ⟨_, hpart, ho⟩)
    exact absurd fit (Operand.not_fits_of_braced (words ▸ hword) hkey braced)

/-- What is overlooked of the values of a statement that compiles. -/
lemma overlooks_value (hraw : s.head.kind ≠ .keyword .raw)
    (h : s.directive.calls? listener = .ok calls) (object : l.token.kind = .literal .object)
    (htext : l.token.content? = some text) (braced : text.toList.head? = some '{')
    (unread : Json.read? text = none) (hvalue : l ∈ s.valueLeaves) : s.Overlooks l := by
  obtain ⟨opener, opening, sound, hcalls⟩ := Directive.calls?_eq_ok_iff.mp h
  change s.head.kind = .keyword opener.keyword at opening
  have unchecked := unchecked_of_sound sound htext braced hvalue
  have snowflake := not_snowflake_of_braced braced
  have botToken := not_botToken_of_braced braced
  obtain ⟨key, ho, own⟩ := s.exists_value hvalue htext
  have object (unkeyed : s.head.kind.keysByClause = false) : key = .literal .object :=
    (own unkeyed).trans object
  have attached {body : MessageBody} (unkeyed : s.head.kind.keysByClause = false)
      (hbody : MessageBody.ofOperands? s.values = .ok body) :
      l.mark = some (.mark .attachment) := by
    rcases MessageBody.read_of_ofOperands? hbody ho (object unkeyed) with mark | read
    · exact Operand.has_iff.mp mark
    · exact absurd unread read
  cases opener with
  | use =>
    rcases Directive.text_of_useCalls? hcalls ho with text | text
    · exact absurd (botToken.symm.trans text) Bool.false_ne_true
    · exact absurd (snowflake.symm.trans text) Bool.false_ne_true
  | listen => exact .event opening hvalue unchecked
  | fetch =>
    have text := Directive.text_of_fetchCalls? hcalls ho
    exact absurd (snowflake.symm.trans text) Bool.false_ne_true
  | read =>
    obtain ⟨-, -, -, -, fits, -⟩ := Directive.readCalls?_eq_ok_iff.mp hcalls
    exact .outside (.inl opening) (bare_of_fits (.inl opening) fits htext braced hvalue) unchecked
  | delete =>
    obtain ⟨-, -, fits, -⟩ := Directive.deleteCalls?_eq_ok_iff.mp hcalls
    have fits : ∀ o ∈ s.values, o.Fits := fun o ho => (fits o ho).1
    exact .outside (.inr opening) (bare_of_fits (.inr opening) fits htext braced hvalue) unchecked
  | send =>
    obtain ⟨body, hbody, -⟩ := sendMessage_of_calls? opening h
    exact .attached (.inl opening) hvalue (attached (by rw [opening]; rfl) hbody)
  | edit =>
    obtain ⟨id, body, -, hbody, -⟩ := editMessage_of_calls? opening h
    exact .attached (.inr opening) hvalue (attached (by rw [opening]; rfl) hbody)
  | «show» => exact .shown opening hvalue unchecked
  | presence =>
    have object := object (by rw [opening]; rfl)
    exact .ignored opening hvalue unchecked
      (Directive.several_of_presenceCalls? hcalls ho object unread)
  | raw => exact absurd opening hraw

/-- What is overlooked of the other literals: those that name no target. -/
lemma overlooks_other (h : s.directive.calls? listener = .ok calls) (last : s.LastSpeaks)
    (hl : l ∈ s.ownLeaves) (htext : l.token.content? = some text)
    (braced : text.toList.head? = some '{') (other : l ∉ s.valueLeaves) : s.Overlooks l := by
  cases mark : l.mark with
  | none => exact .unaimed other mark
  | some k =>
    have marked := Option.isSome_of_eq_some mark
    rcases last_or_superseded last hl marked htext other with named | superseded
    · have target := target_of_candidates named htext
      obtain ⟨opener, opening, -, hcalls⟩ := Directive.calls?_eq_ok_iff.mp h
      change s.head.kind = .keyword opener.keyword at opening
      -- The target is an identifier for all statements whose target is no value.
      have aimed (aimed : opener ∈ [.listen, .fetch, .delete, .send, .edit]) : s.Overlooks l := by
        have text := Directive.snowflake_of_target aimed hcalls target
        exact absurd ((not_snowflake_of_braced braced).symm.trans text) Bool.false_ne_true
      have value (unclaused : s.head.kind.targetClauses = [])
          (hlisten : s.head.kind ≠ .keyword .listen) : s.Overlooks l :=
        absurd (valueLeaves_of_candidates unclaused hlisten (List.mem_of_getLast? named)) other
      cases opener with
      | listen | fetch | delete | send | edit => exact aimed (by decide)
      | use | read | «show» | presence | raw =>
        exact value (by rw [opening]; rfl) (by rw [opening]; decide)
    · exact .superseded superseded

end Statement

/-- An object that is no JSON refuses the whole text, wherever it stands among the literals that its
statement takes notice of, whatever its mark and whatever stands beside it, unless it stands in one of
the places that are overlooked. Objects that give no value are left out where the last of the literals
that may name the target says nothing. -/
theorem unread_refused (listener : Listener) (hs : s ∈ Script.statements source)
    (hraw : s.head.kind ≠ .keyword .raw) (hl : l ∈ s.ownLeaves) (unread : l.Unread)
    (settled : l ∈ s.valueLeaves ∨ s.LastSpeaks) :
    (∃ d, Script.compile? listener source = .error d) ∨ s.Overlooks l := by
  obtain ⟨object, text, htext, unread⟩ := unread
  cases hc : Script.compile? listener source with
  | error d => exact .inl ⟨d, rfl⟩
  | ok p =>
    right
    obtain ⟨calls, h⟩ := Script.calls?_of_compile? hc hs hraw
    have braced : text.toList.head? = some '{' := by
      obtain ⟨part, hpart, hl⟩ := List.mem_flatMap.mp hl
      exact braced_of_object (token_written hs hpart (Part.leaf_of_ownLeaves hl)) object htext
    by_cases hvalue : l ∈ s.valueLeaves
    · exact Statement.overlooks_value hraw h object htext braced unread hvalue
    · exact Statement.overlooks_other h (settled.resolve_left hvalue) hl htext braced hvalue

/-- An object that is marked as an embed is read, also in a `WITH`. -/
theorem unread_refused_edit :
    let source := "EDIT '343341358242773387'm WITH 'new' {bad}E;"
    ∃ s ∈ Script.statements source, ∃ l ∈ s.ownLeaves, l.Unread ∧
      ∃ d, Script.compile? .discard source = .error d := by
  intro source
  let message : Leaf := ⟨⟨5, .literal .string, some "343341358242773387"⟩, some (.mark .message)⟩
  let text : Leaf := ⟨⟨32, .literal .string, some "new"⟩, none⟩
  let l : Leaf := ⟨⟨38, .literal .object, some "{bad}"⟩, some (.mark .embed)⟩
  let s : Statement := ⟨⟨0, .keyword .edit, some "EDIT"⟩,
    [.leaf message, .clause ⟨27, .keyword .«with», some "WITH"⟩ [text, l]]⟩
  have hs : s ∈ Script.statements source := by decide +kernel
  have hl : l ∈ s.ownLeaves := by decide
  have unread : l.Unread := by decide +kernel
  have value : l ∈ s.valueLeaves := by decide
  refine ⟨s, hs, l, hl, unread, ?_⟩
  rcases unread_refused .discard hs (by decide) hl unread (.inl value) with refused | overlooked
  · exact refused
  · cases overlooked with
    | unaimed other => exact absurd value other
    | superseded later => exact absurd value later.1
    | outside opening => rcases opening with opening | opening <;> cases opening
    | attached _ _ mark => cases mark
    | event opening | shown opening | ignored opening => cases opening

/-- Objects in each of the overlooked places. -/
theorem unread_overlooked :
    let sources := ["SEND 'hi' IN {bad};", "LISTEN {bad};",
      "SEND 'hi' IN {bad}c '228666916018118541'c;", "LISTEN INCLUDE {bad};",
      "READ '228666916018118541'c {bad};", "DELETE {bad};", "SHOW {bad};",
      "PRESENCE {bad} {};", "SEND {bad}A;", "EDIT '343341358242773387'm {bad}A;"]
    ∀ source ∈ sources, (Script.compile? .discard source).isOk = true ∧
      ∃ s ∈ Script.statements source, s.head.kind ≠ .keyword .raw ∧ ∃ l ∈ s.ownLeaves, l.Unread := by
  decide +kernel

end ChatQuery
