import ChatQuery.Proofs.Script.Plain

/-!
Messages of guarded texts. Whatever the texts say, a `SEND` of them sends just these texts, and a
guarded object is read as just that object.
-/
namespace ChatQuery

/-- A text as a literal of a statement: between quotes of a kind, some blanks before them. -/
structure Quotation where
  gap : List Char
  quote : Char
  text : String
  blank : ∀ c ∈ gap, Lexeme.isBlank c = true
  quotes : quote ∈ ['"', '\'']
  nonempty : text ≠ ""

namespace Quotation

def spelling (q : Quotation) : List Char :=
  q.gap ++ q.quote :: (guarded ['\\', q.quote] q.text.toList ++ [q.quote])

def literal (q : Quotation) : Literal := ⟨.string, q.text, q.nonempty⟩

lemma seen_spelling (q : Quotation) (rest : List Char) :
    seen (q.spelling ++ rest) = q.literal.token :: seen rest := by
  have happend : q.spelling ++ rest =
      q.gap ++ q.quote :: (guarded ['\\', q.quote] q.text.toList ++ q.quote :: rest) := by
    simp [spelling]
  rw [happend, seen_blanks q.blank, seen_string q.quotes, String.ofList_toList]
  rfl

lemma seen_flatMap (qs : List Quotation) (rest : List Char) :
    seen (qs.flatMap spelling ++ rest) = (qs.map literal).map Literal.token ++ seen rest := by
  induction qs with
  | nil => rfl
  | cons q qs ih =>
    rw [List.flatMap_cons, List.append_assoc, seen_spelling, ih]
    rfl

lemma endsWord_flatMap (qs : List Quotation) {rest : List Char} (hrest : endsWord rest = true) :
    endsWord (qs.flatMap spelling ++ rest) = true := by
  cases qs with
  | nil => exact hrest
  | cons q qs =>
    rw [List.flatMap_cons, spelling, List.append_assoc, List.append_assoc, List.cons_append]
    refine endsWord_blanks q.blank ?_
    have hquote := q.quotes
    simp only [List.mem_cons, List.not_mem_nil, or_false] at hquote
    rcases hquote with h | h <;> rw [h] <;> rfl

end Quotation

namespace MessageBody

/-- The message of some lines. -/
def ofLines (texts : List String) : MessageBody := ⟨String.join (texts.map (· ++ "\n")), [], []⟩

lemma foldl_lines (texts : List String) (content : String) :
    (texts.map Contribution.line).foldl add ⟨content, [], []⟩ =
      ⟨content ++ (ofLines texts).content, [], []⟩ := by
  induction texts generalizing content with
  | nil => simp [ofLines]
  | cons text texts ih =>
    rw [List.map_cons, List.foldl_cons, add, ih]
    simp [ofLines, String.join_cons, String.append_assoc]

/-- Quoted texts are the lines of a message. -/
lemma ofOperands?_quotations (qs : List Quotation) :
    ofOperands? ((qs.map Quotation.literal).map Literal.operand) =
      .ok (ofLines (qs.map Quotation.text)) := by
  have hline (q : Quotation) :
      q.literal.operand.contribution? = .ok (.line q.text) := rfl
  have hparts : ((qs.map Quotation.literal).map Literal.operand).mapM Operand.contribution? =
      .ok ((qs.map Quotation.text).map .line) := by
    rw [List.map_map, List.mapM_map, List.map_map]
    exact (congrArg (List.mapM · qs) (funext hline)).trans List.mapM_pure
  unfold ofOperands?
  rw [hparts]
  change Except.ok (((qs.map Quotation.text).map Contribution.line).foldl add ⟨"", [], []⟩) = _
  rw [foldl_lines, String.empty_append]
  rfl

end MessageBody

/-- The source text of a message of quoted texts. -/
def sendSource (qs : List Quotation) (gap : List Char) : String :=
  "SEND" ++ String.ofList (qs.flatMap Quotation.spelling ++ (gap ++ [';']))

namespace Script

theorem compile?_sendSource (listener : Listener) {qs : List Quotation} (hqs : qs ≠ [])
    {gap : List Char} (hgap : ∀ c ∈ gap, Lexeme.isBlank c = true) :
    compile? listener (sendSource qs gap) =
      .ok ⟨[.sendMessage (.ofLines (qs.map Quotation.text))], 0⟩ := by
  refine compile?_plain (o := .send) (by decide) (by decide) ?_
    (Directive.sendCalls?_plain (by simpa using hqs) (MessageBody.ofOperands?_quotations qs))
  · have hsource : (sendSource qs gap).toList =
        'S' :: (['E', 'N', 'D'] ++ (qs.flatMap Quotation.spelling ++ (gap ++ [';']))) := by
      simp [sendSource]
    have hends : endsWord (qs.flatMap Quotation.spelling ++ (gap ++ [';'])) = true :=
      Quotation.endsWord_flatMap qs (endsWord_blanks hgap rfl)
    rw [hsource, seen_word (k := .send) (by decide) hends,
      Quotation.seen_flatMap, seen_blanks hgap, seen_semicolon, seen_nil]
    rfl

end Script

/-- The source text of an object whose backslashes are guarded. -/
def objectSource (s : String) : String := String.ofList (guarded ['\\'] s.toList)

/-- It is one token, which says what the object says, and the tokens go on where it ends. -/
lemma tokenize_objectSource {s : String} (henclosed : Enclosed s.toList) (r : String) :
    tokenize (objectSource s ++ r) = ⟨0, .literal .object, some s⟩ ::
      Cursor.tokens ⟨(objectSource s).utf8ByteSize, r.toList⟩ := by
  obtain ⟨cs, hcs⟩ := List.head?_eq_some_iff.mp henclosed.opened
  have hguarded : guarded ['\\'] s.toList = '{' :: guarded ['\\'] cs := by
    rw [hcs, guarded_cons_of_notMem (by decide)]
  have hsource : (objectSource s ++ r).toList = '{' :: (guarded ['\\'] cs ++ r.toList) := by
    simp [objectSource, hguarded]
  have hend : (objectSource s).utf8ByteSize = 0 + byteLength ('{' :: guarded ['\\'] cs) := by
    rw [Nat.zero_add, ← hguarded, ← byteLength_toList, objectSource, String.toList_ofList]
  have hsame : String.ofList ('{' :: cs) = s := by
    rw [← hcs, String.ofList_toList]
  rw [hcs] at henclosed
  rw [Script.tokenize_eq, hsource, Cursor.tokens_object (spells_guarded cs r.toList) henclosed,
    hend, hsame]

/-- Guarded literals say what was written into them. A `SEND` of quoted texts sends these texts,
each on a line of its own, whatever the texts, the quotes and the blanks are; and an object whose
backslashes are guarded is read as the object, and ends where it was meant to end, whatever text
follows. -/
theorem literals_read_back :
    (∀ (listener : Listener) (qs : List Quotation) (gap : List Char), qs ≠ [] →
      (∀ c ∈ gap, Lexeme.isBlank c = true) →
      Script.compile? listener (sendSource qs gap) =
        .ok ⟨[.sendMessage (.ofLines (qs.map Quotation.text))], 0⟩) ∧
    ∀ s r : String, Enclosed s.toList →
      tokenize (objectSource s ++ r) = ⟨0, .literal .object, some s⟩ ::
        Cursor.tokens ⟨(objectSource s).utf8ByteSize, r.toList⟩ :=
  ⟨fun listener _ _ hqs hgap => Script.compile?_sendSource listener hqs hgap,
    fun _ r henclosed => tokenize_objectSource henclosed r⟩

/-- Backslashes and quotes of either kind are read back, in a message and in an object. -/
theorem literals_read_back_backslash :
    let qs : List Quotation :=
      [⟨['\t'], '\'', "it's \\x41", List.forall_mem_singleton.mpr rfl, by decide, by decide⟩,
        ⟨[], '"', "#;", List.forall_mem_nil _, by decide, by decide⟩]
    sendSource qs [' '] = "SEND\t'it\\'s \\\\x41'\"#;\" ;" ∧
    Script.compile? .discard (sendSource qs [' ']) =
      .ok ⟨[.sendMessage ⟨"it's \\x41\n#;\n", [], []⟩], 0⟩ ∧
    objectSource "\x7b\\n\x7d" = "\x7b\\\\n\x7d" ∧
    tokenize (objectSource "\x7b\\n\x7d" ++ "g") =
      [⟨0, .literal .object, some "\x7b\\n\x7d"⟩, ⟨5, .mark .guild, none⟩,
        ⟨6, .endOfText, none⟩] := by
  intro qs
  refine ⟨by decide, ?_, by decide, ?_⟩
  · have sent := literals_read_back.1 .discard qs [' '] (List.cons_ne_nil _ _)
      (List.forall_mem_singleton.mpr rfl)
    have lines : MessageBody.ofLines (qs.map Quotation.text) = ⟨"it's \\x41\n#;\n", [], []⟩ := by
      rfl
    rw [sent, lines]
  · have mark : Cursor.tokens ⟨5, ['g']⟩ = [⟨5, .mark .guild, none⟩, ⟨6, .endOfText, none⟩] := by
      have hscan : (Lexeme.scan 'g' []).spelling = ['g'] := rfl
      rw [Cursor.tokens_cons 5 hscan (List.append_nil []).symm, Cursor.tokens_nil]
      rfl
    rw [literals_read_back.2 _ "g" (by decide)]
    exact congrArg _ mark

end ChatQuery
