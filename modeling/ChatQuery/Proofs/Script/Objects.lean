import ChatQuery.Proofs.Json.Braces
import ChatQuery.Proofs.Script.Literals
import ChatQuery.Proofs.Token.Exact

/-!
Objects of JSON as literals. The scanner counts every brace and resolves its own escapes, in strings
as well, so it takes the text of an object as it stands just if these do no harm; where it does, or
where all backslashes are guarded, a script reads the value of the object.
-/
namespace ChatQuery

variable {c : Char} {letters spelling text : List Char} {s : String} {v : Json}

/-- An object behind an opening word is all that is seen of such a statement. -/
lemma seen_statement {k : Keyword} (hk : Keyword.ofLetters? (c :: letters) = some k)
    (hspells : Spells [' ', ';'] spelling text) (henclosed : Enclosed ('{' :: text)) :
    seen (c :: (letters ++ ' ' :: '{' :: (spelling ++ [' ', ';']))) =
      [⟨0, .keyword k, none⟩, ⟨0, .literal .object, some (String.ofList ('{' :: text))⟩,
        ⟨0, .semicolon, none⟩, ⟨0, .endOfText, none⟩] := by
  rw [seen_word hk rfl, seen_blank (by decide), seen_object hspells henclosed,
    seen_blank (by decide), seen_semicolon, seen_nil]

namespace Directive

variable {l : Literal}

lemma json?_of_read? (hread : Json.read? l.text = some v) : l.operand.json? = .ok v := by
  have htext : l.operand.text = l.text := rfl
  unfold Operand.json?
  rw [htext, hread]

lemma presenceCalls?_object (hkind : l.kind = .object) (hread : Json.read? l.text = some v) :
    (Opener.presence.plain [l]).presenceCalls? = .ok [.updatePresence v] := by
  have hpresence : (Opener.presence.plain [l]).presence? = some l.operand :=
    if_pos (congrArg Kind.literal hkind)
  unfold presenceCalls?
  rw [hpresence]
  change l.operand.json?.map (fun v => [Call.updatePresence v]) = _
  rw [json?_of_read? hread]
  rfl

lemma sendCalls?_object (hkind : l.kind = .object) (hread : Json.read? l.text = some v) :
    (Opener.send.plain [l]).sendCalls? = .ok [.sendMessage ⟨"", [], [v]⟩] := by
  have hembed : l.operand.contribution? = .ok (.embed v) := by
    have hkey : l.operand.key = .literal .object := congrArg Kind.literal hkind
    have hplain : l.operand.has .attachment = false := rfl
    unfold Operand.contribution?
    rw [hplain, if_neg Bool.false_ne_true, if_pos (.inl hkey), json?_of_read? hread]
    rfl
  refine sendCalls?_plain (List.cons_ne_nil _ _) ?_
  unfold MessageBody.ofOperands?
  rw [List.map_singleton, List.mapM_cons, hembed]
  rfl

end Directive

namespace Script

/-- A literal that both a presence and a message read as one value. -/
def Reads (literal : String) (v : Json) : Prop :=
  ∀ listener : Listener,
    compile? listener ("PRESENCE " ++ literal ++ " ;") = .ok ⟨[.updatePresence v], 0⟩ ∧
    compile? listener ("SEND " ++ literal ++ " ;") = .ok ⟨[.sendMessage ⟨"", [], [v]⟩], 0⟩

lemma reads_of_spells (hread : Json.read? s = some v) (hs : s.toList = '{' :: text)
    (henclosed : Enclosed s.toList) (hspells : Spells [' ', ';'] spelling text) :
    Reads (String.ofList ('{' :: spelling)) v := by
  have hne : s ≠ "" := by
    rintro rfl
    cases hs
  let object : Literal := ⟨.object, s, hne⟩
  have hpresence (listener : Listener) :
      (Opener.presence.plain [object]).openerCalls? listener .presence = .ok [.updatePresence v] :=
    Directive.presenceCalls?_object (l := object) rfl hread
  have hsend (listener : Listener) : (Opener.send.plain [object]).openerCalls? listener .send =
      .ok [.sendMessage ⟨"", [], [v]⟩] :=
    Directive.sendCalls?_object (l := object) rfl hread
  have htext : String.ofList ('{' :: text) = s := by rw [← hs, String.ofList_toList]
  rw [hs] at henclosed
  intro listener
  constructor
  · refine compile?_plain (by decide) (by decide) ?_ (hpresence listener)
    have hsource : ("PRESENCE " ++ String.ofList ('{' :: spelling) ++ " ;").toList =
        'P' :: ("RESENCE".toList ++ ' ' :: '{' :: (spelling ++ [' ', ';'])) := by
      simp
    rw [hsource, seen_statement (k := .presence) (by decide) hspells henclosed, htext]
    rfl
  · refine compile?_plain (by decide) (by decide) ?_ (hsend listener)
    have hsource : ("SEND " ++ String.ofList ('{' :: spelling) ++ " ;").toList =
        'S' :: ("END".toList ++ ' ' :: '{' :: (spelling ++ [' ', ';'])) := by
      simp
    rw [hsource, seen_statement (k := .send) (by decide) hspells henclosed, htext]
    rfl

end Script

/-- The scanner takes exactly the text of an object, as it stands, just if the text is enclosed by
its braces and no backslash in it begins an escape. -/
lemma lexeme_object_iff (hs : s.toList = '{' :: text) (hlast : text.getLast? = some '}')
    {r : String} (hr : r ≠ "") : (Cursor.start (s ++ r)).lexeme = ⟨.literal .object, s, s.toList⟩ ↔
      Enclosed s.toList ∧ Unescaped s.toList := by
  have hlexeme : (Cursor.start (s ++ r)).lexeme = Lexeme.scan '{' (text ++ r.toList) := by
    unfold Cursor.start
    rw [String.toList_append, hs]
    rfl
  have hrest : r.toList ≠ [] := by simpa using hr
  have htext : String.ofList ('{' :: text) = s := by rw [← hs, String.ofList_toList]
  rw [hlexeme, hs, unescaped_cons_iff (by decide), ← Lexeme.scan_object_iff hlast hrest, htext]

/-- JSON objects as literals. The scanner takes exactly the text of an object, and changes nothing
in it, just if the braces of the text, wherever they stand, enclose it and none of its backslashes
begins an escape of the scanner; then a presence and a message read the value of the object. They
also do so if all backslashes are guarded, as long as the braces enclose the text, which they do
whenever those within each of its strings are balanced. -/
theorem json_object_read (hread : Json.read? s = some v) (hopen : s.toList.head? = some '{')
    (hclose : s.toList.getLast? = some '}') :
    (∀ r ≠ "", (Cursor.start (s ++ r)).lexeme = ⟨.literal .object, s, s.toList⟩ ↔
      Enclosed s.toList ∧ Unescaped s.toList) ∧
    (Enclosed s.toList → Unescaped s.toList → Script.Reads s v) ∧
    (Enclosed s.toList → Script.Reads (objectSource s) v) ∧
    (Json.BalancedStrings s → Enclosed s.toList) := by
  obtain ⟨text, hs⟩ := List.head?_eq_some_iff.mp hopen
  have hlast : text.getLast? = some '}' := by
    rw [hs] at hclose
    cases text with
    | nil => cases hclose
    | cons c text => exact hclose
  refine ⟨fun r hr => lexeme_object_iff hs hlast hr, ?_, ?_,
    Json.enclosed_of_read? hread hopen hclose⟩
  · intro henclosed hunescaped
    rw [hs, unescaped_cons_iff (by decide)] at hunescaped
    have hspells : Spells [' ', ';'] text text := (unescaped_iff hlast).mp hunescaped
    have hreads := Script.reads_of_spells hread hs henclosed hspells
    rwa [← hs, String.ofList_toList] at hreads
  · intro henclosed
    have hguarded : objectSource s = String.ofList ('{' :: guarded ['\\'] text) := by
      rw [objectSource, hs, guarded_cons_of_notMem (by decide)]
    rw [hguarded]
    exact Script.reads_of_spells hread hs henclosed (spells_guarded text _)

/-- Braces that are balanced within a string do no harm, nor does a brace that is written with
digits. -/
theorem json_object_read_nested :
    let s := "\x7b\"a\x7b\x7d\":[\"\\u007d\"]\x7d"
    let v : Json := .obj [("a\x7b\x7d", .arr [.str "\x7d"])]
    Json.read? s = some v ∧ Json.BalancedStrings s ∧ Unescaped s.toList ∧
      (Cursor.start (s ++ " ;")).lexeme = ⟨.literal .object, s, s.toList⟩ ∧
      Script.Reads s v ∧ Script.Reads (objectSource s) v := by
  intro s v
  have hall : Json.Symbol.all? s.toList = some [.beginObject,
      .string [.char 'a', .char '\x7b', .char '\x7d'], .colon, .beginArray, .string [.code 0x7d],
      .endArray, .endObject] := by decide +kernel
  have hread : Json.read? s = some v := Json.read?_of_symbols hall rfl (by decide)
  have hstrings : Json.BalancedStrings s := by
    intro symbols hsymbols ps hps
    cases hall.symm.trans hsymbols
    simp only [List.mem_cons, List.not_mem_nil, Json.Symbol.string.injEq, reduceCtorEq, false_or,
      or_false] at hps
    rcases hps with rfl | rfl <;> decide
  have hunescaped : Unescaped s.toList := by decide
  obtain ⟨hlexeme, hreads, hguarded, henclosed⟩ := json_object_read hread (by decide) (by decide)
  have henclosed := henclosed hstrings
  exact ⟨hread, hstrings, hunescaped, (hlexeme " ;" (by decide)).mpr ⟨henclosed, hunescaped⟩,
    hreads henclosed hunescaped, hguarded henclosed⟩

/-- A brace in a string ends the literal too early, and an escape of both notations is resolved
before JSON sees it. -/
theorem json_object_misread :
    (Json.read? "\x7b\"a\":\"\x7d\"\x7d" = some (.obj [("a", .str "\x7d")]) ∧
      ¬ Script.Reads "\x7b\"a\":\"\x7d\"\x7d" (.obj [("a", .str "\x7d")])) ∧
    Json.read? "\x7b\"a\":\"\\n\"\x7d" = some (.obj [("a", .str "\n")]) ∧
      ¬ Script.Reads "\x7b\"a\":\"\\n\"\x7d" (.obj [("a", .str "\n")]) := by
  have compiled {source : String} {v : Json} (h : Script.Reads source v) :
      (Script.compile? .discard ("PRESENCE " ++ source ++ " ;")).toOption.map (·.calls.length) =
        some 1 := by
    rw [(h .discard).1]
    rfl
  have brace : Json.Symbol.all? "\x7b\"a\":\"\x7d\"\x7d".toList = some [.beginObject,
      .string [.char 'a'], .colon, .string [.char '\x7d'], .endObject] := by decide +kernel
  have escape : Json.Symbol.all? "\x7b\"a\":\"\\n\"\x7d".toList = some [.beginObject,
      .string [.char 'a'], .colon, .string [.char '\n'], .endObject] := by decide +kernel
  refine ⟨⟨Json.read?_of_symbols brace rfl (by decide), ?_⟩,
    Json.read?_of_symbols escape rfl (by decide), ?_⟩
  · intro h
    exact absurd (compiled h) (by decide +kernel)
  · intro h
    exact absurd (compiled h) (by decide +kernel)

end ChatQuery
