import ChatQuery.Json.Reader
import ChatQuery.Proofs.Token.Braces
import ChatQuery.Proofs.Token.Scan

/-!
The braces of a JSON text. They are those of its objects and those that stand in its strings; the
former are balanced, so where the latter are as well, the braces of an object enclose its text.
-/
namespace ChatQuery.Json

/-- The character that stands in the text for a piece of a string, or is named by an escape there. A
code unit is written with digits. -/
def Piece.char? : Piece → Option Char
  | .char c => some c
  | .code _ => none

/-- The braces that stand in the text of a string. -/
def bracesWithin (ps : List Piece) : List Char := braces (ps.filterMap Piece.char?)

/-- The braces that stand in the text of a symbol. -/
def Symbol.braces : Symbol → List Char
  | .beginObject => ['{']
  | .endObject => ['}']
  | .string ps => bracesWithin ps
  | _ => []

section Texts

variable {c : Char} {cs ds rest : List Char} {ps : List Piece}

lemma braces_cons_of_not (h : isBrace c = false) (cs : List Char) : braces (c :: cs) = braces cs :=
  List.filter_cons_of_neg (by simp [h])

lemma braces_eq_nil (h : ∀ c ∈ ds, isBrace c = false) : braces ds = [] :=
  List.filter_eq_nil_iff.mpr fun c hc => by simp [h c hc]

lemma braces_of_number? {n : Nat} (h : Escape.number? 16 ds = some n) : braces ds = [] := by
  refine braces_eq_nil ?_
  intro c hc
  obtain ⟨u, v, rfl⟩ := List.append_of_mem hc
  by_contra hbrace
  have hdigit : Escape.digit? 16 c = none := by
    simp only [isBrace, decide_eq_false_iff_not, not_not] at hbrace
    rcases hbrace with rfl | rfl <;> rfl
  rw [Escape.number?_eq_none hdigit] at h
  cases h

lemma not_brace_of_named? {e : Char} (h : Symbol.named? e = some c) :
    isBrace e = false ∧ isBrace c = false := by
  unfold Symbol.named? at h
  split at h <;> cases h <;> decide

lemma bracesWithin_char (c : Char) (ps : List Piece) :
    bracesWithin (.char c :: ps) = braces [c] ++ bracesWithin ps := braces_append [c] _

lemma braces_of_pieces (h : Symbol.pieces cs = some (ps, rest)) :
    braces cs = bracesWithin ps ++ braces rest := by
  fun_induction Symbol.pieces cs generalizing ps with
  | case1 => cases h
  | case2 cs =>
    obtain ⟨rfl, rfl⟩ := Prod.mk.inj (Option.some.inj h)
    rfl
  | case3 a b c d cs ih =>
    simp only [Option.bind_eq_bind, Option.bind_eq_some_iff, Option.some.injEq,
      Prod.mk.injEq] at h
    obtain ⟨u, hu, ⟨qs, r⟩, hr, rfl, rfl⟩ := h
    have hdigits : braces (a :: b :: c :: d :: cs) = braces [a, b, c, d] ++ braces cs :=
      braces_append [a, b, c, d] cs
    rw [braces_cons_of_not rfl, braces_cons_of_not rfl, hdigits, braces_of_number? hu, ih hr]
    rfl
  | case4 e cs _ ih =>
    simp only [Option.bind_eq_bind, Option.bind_eq_some_iff, Option.some.injEq,
      Prod.mk.injEq] at h
    obtain ⟨c, hc, ⟨qs, r⟩, hr, rfl, rfl⟩ := h
    obtain ⟨he, hc⟩ := not_brace_of_named? hc
    rw [braces_cons_of_not rfl, braces_cons_of_not he, bracesWithin_char, braces_cons_of_not hc,
      ih hr]
    rfl
  | case5 => cases h
  | case6 c cs _ _ _ _ ih =>
    simp only [Option.bind_eq_bind, Option.bind_eq_some_iff, Option.some.injEq,
      Prod.mk.injEq] at h
    obtain ⟨⟨qs, r⟩, hr, rfl, rfl⟩ := h
    rw [bracesWithin_char, List.append_assoc, ← ih hr]
    exact braces_append [c] cs

lemma braces_of_digits? (h : Symbol.digits? cs = some (ds, rest)) : braces cs = braces rest := by
  have htake : braces (cs.takeWhile Char.isDigit) = [] := by
    refine braces_eq_nil ?_
    intro c hc
    have hdigit := List.all_eq_true.mp List.all_takeWhile c hc
    by_contra hbrace
    simp only [isBrace, decide_eq_false_iff_not, not_not] at hbrace
    rcases hbrace with rfl | rfl <;> cases hdigit
  have hrest : rest = cs.dropWhile Char.isDigit := by
    unfold Symbol.digits? at h
    split at h
    · cases h
    · exact (Prod.mk.inj (Option.some.inj h)).2.symm
  rw [hrest]
  nth_rewrite 1 [← List.takeWhile_append_dropWhile (p := Char.isDigit) (l := cs)]
  rw [braces_append, htake, List.nil_append]

lemma braces_of_fraction? (h : Symbol.fraction? cs = some (ds, rest)) :
    braces cs = braces rest := by
  unfold Symbol.fraction? at h
  split at h
  · rw [braces_cons_of_not rfl, braces_of_digits? h]
  · obtain ⟨-, rfl⟩ := Prod.mk.inj (Option.some.inj h)
    rfl

lemma braces_of_exponentDigits? {e : Bool × List Char}
    (h : Symbol.exponentDigits? cs = some (e, rest)) : braces cs = braces rest := by
  unfold Symbol.exponentDigits? at h
  split at h
  · obtain ⟨⟨ds, r⟩, hd, he⟩ := Option.map_eq_some_iff.mp h
    obtain ⟨-, rfl⟩ := Prod.mk.inj he
    rw [braces_cons_of_not rfl, braces_of_digits? hd]
  · obtain ⟨⟨ds, r⟩, hd, he⟩ := Option.map_eq_some_iff.mp h
    obtain ⟨-, rfl⟩ := Prod.mk.inj he
    rw [braces_cons_of_not rfl, braces_of_digits? hd]
  · obtain ⟨⟨ds, r⟩, hd, he⟩ := Option.map_eq_some_iff.mp h
    obtain ⟨-, rfl⟩ := Prod.mk.inj he
    exact braces_of_digits? hd

lemma braces_of_exponent? {e : Option (Bool × List Char)}
    (h : Symbol.exponent? cs = some (e, rest)) : braces cs = braces rest := by
  unfold Symbol.exponent? at h
  split at h
  · obtain ⟨⟨ds, r⟩, hd, he⟩ := Option.map_eq_some_iff.mp h
    obtain ⟨-, rfl⟩ := Prod.mk.inj he
    rw [braces_cons_of_not rfl, braces_of_exponentDigits? hd]
  · obtain ⟨⟨ds, r⟩, hd, he⟩ := Option.map_eq_some_iff.mp h
    obtain ⟨-, rfl⟩ := Prod.mk.inj he
    rw [braces_cons_of_not rfl, braces_of_exponentDigits? hd]
  · obtain ⟨-, rfl⟩ := Prod.mk.inj (Option.some.inj h)
    rfl

lemma braces_of_unsigned? {negative : Bool} {n : Numeral}
    (h : Symbol.unsigned? negative cs = some (n, rest)) : braces cs = braces rest := by
  simp only [Symbol.unsigned?, Option.bind_eq_bind, Option.bind_eq_some_iff] at h
  obtain ⟨⟨whole, r₁⟩, hw, h⟩ := h
  split at h
  · cases h
  · simp only [Option.bind_eq_some_iff, Option.some.injEq, Prod.mk.injEq] at h
    obtain ⟨⟨fraction, r₂⟩, hf, ⟨exponent, r₃⟩, he, -, rfl⟩ := h
    rw [braces_of_digits? hw, braces_of_fraction? hf, braces_of_exponent? he]

lemma braces_of_scan? {s : Symbol} (h : Symbol.scan? c cs = some (s, rest)) :
    braces (c :: cs) = s.braces ++ braces rest := by
  unfold Symbol.scan? at h
  split at h
  case h_7 =>
    obtain ⟨⟨ps, r⟩, hp, he⟩ := Option.map_eq_some_iff.mp h
    obtain ⟨rfl, rfl⟩ := Prod.mk.inj he
    rw [braces_cons_of_not rfl]
    exact braces_of_pieces hp
  case h_11 =>
    obtain ⟨⟨n, r⟩, hn, he⟩ := Option.map_eq_some_iff.mp h
    obtain ⟨rfl, rfl⟩ := Prod.mk.inj he
    rw [braces_cons_of_not rfl]
    exact braces_of_unsigned? hn
  case h_12 =>
    obtain ⟨⟨n, r⟩, hn, he⟩ := Option.map_eq_some_iff.mp h
    obtain ⟨rfl, rfl⟩ := Prod.mk.inj he
    exact braces_of_unsigned? hn
  all_goals
    obtain ⟨rfl, rfl⟩ := Prod.mk.inj (Option.some.inj h)
    rfl

/-- The braces of a text are those of its symbols. -/
theorem braces_of_all? {symbols : List Symbol} (h : Symbol.all? cs = some symbols) :
    braces cs = symbols.flatMap Symbol.braces := by
  fun_induction Symbol.all? cs generalizing symbols with
  | case1 =>
    cases h
    rfl
  | case2 c cs hblank ih =>
    have hbrace : isBrace c = false := by
      simp only [Symbol.isBlank, decide_eq_true_eq] at hblank
      rcases hblank with rfl | rfl | rfl | rfl <;> rfl
    rw [braces_cons_of_not hbrace, ih h]
  | case3 c cs hblank hscan => cases h
  | case4 c cs hblank s rest hscan ih =>
    obtain ⟨ss, hss, rfl⟩ := Option.map_eq_some_iff.mp h
    rw [braces_of_scan? hscan, ih hss, List.flatMap_cons]

end Texts

namespace Spelling

/-- Whether a frame is that of an object. -/
def Frame.isObject : Frame → Bool
  | .array _ => false
  | .object _ | .member _ _ => true

/-- How many objects are open. -/
def openObjects (frames : List Frame) : Nat := frames.countP Frame.isObject

/-- The change in the number of open objects that a symbol makes. -/
def weight : Symbol → Int
  | .beginObject => 1
  | .endObject => -1
  | _ => 0

variable {s : Symbol} {stage stage' : Stage} {frames frames' : List Frame}

lemma openObjects_cons (f : Frame) (frames : List Frame) :
    openObjects (f :: frames) = openObjects frames + if f.isObject then 1 else 0 :=
  List.countP_cons

/-- What a step does to the open containers. -/
inductive Moves (s : Symbol) (stage : Stage) (stage' : Stage) : List Frame → List Frame → Prop
  | stays {frames : List Frame} (pending : ∀ v, stage ≠ .done v) (even : weight s = 0) :
    Moves s stage stage' frames frames
  | opens {frames : List Frame} (f : Frame) (pending : ∀ v, stage ≠ .done v)
    (up : weight s = if f.isObject then 1 else 0) : Moves s stage stage' frames (f :: frames)
  | closes {frames : List Frame} (f : Frame) (done : ∃ v, stage' = .done v)
    (down : weight s = - if f.isObject then 1 else 0) : Moves s stage stage' (f :: frames) frames
  | replaces {frames : List Frame} (f g : Frame) (same : f.isObject = g.isObject)
    (even : weight s = 0) : Moves s stage stage' (f :: frames) (g :: frames)

lemma moves_of_beginValue? (hstage : ∀ v, stage ≠ .done v)
    (h : beginValue? s frames = some (stage', frames')) : Moves s stage stage' frames frames' := by
  unfold beginValue? at h
  split at h
  · cases h
    exact .opens (.array []) hstage rfl
  · cases h
    exact .opens (.object []) hstage rfl
  · obtain ⟨v, hv, he⟩ := Option.map_eq_some_iff.mp h
    cases he
    refine .stays hstage ?_
    cases s <;> cases hv <;> rfl

lemma moves_of_step? (h : step? s stage frames = some (stage', frames')) :
    Moves s stage stage' frames frames' := by
  unfold step? at h
  split at h
  · exact moves_of_beginValue? (fun _ => Stage.noConfusion) h
  · split at h
    · cases h
      exact .closes _ ⟨_, rfl⟩ rfl
    · exact moves_of_beginValue? (fun _ => Stage.noConfusion) h
  · split at h
    · cases h
      exact .closes _ ⟨_, rfl⟩ rfl
    · cases h
      exact .replaces _ _ rfl rfl
    · cases h
  · split at h
    · cases h
      exact .replaces _ _ rfl rfl
    · cases h
  · split_ifs at h with hcolon
    cases h
    exact .stays (fun _ => Stage.noConfusion) (by rw [hcolon]; rfl)
  · split at h
    · cases h
      exact .replaces _ _ rfl rfl
    · cases h
      exact .closes _ ⟨_, rfl⟩ rfl
    · cases h
      exact .replaces _ _ rfl rfl
    · cases h
      exact .closes _ ⟨_, rfl⟩ rfl
    · cases h

/-- The machine reads an object: either the outermost container is one, or the object is
complete. -/
def ReadsObject (stage : Stage) (frames : List Frame) : Prop :=
  (frames = [] ∧ ∃ v, stage = .done v) ∨ ∃ f, frames.getLast? = some f ∧ f.isObject = true

lemma openObjects_pos {f : Frame} (hlast : frames.getLast? = some f) (hf : f.isObject = true) :
    0 < openObjects frames :=
  List.countP_pos_iff.mpr ⟨f, List.mem_of_getLast? hlast, hf⟩

lemma Moves.openObjects_eq (h : Moves s stage stage' frames frames') :
    (openObjects frames' : Int) = openObjects frames + weight s := by
  cases h with
  | stays pending even => rw [even, Int.add_zero]
  | opens f pending up =>
    rw [openObjects_cons, up]
    split_ifs <;> rfl
  | closes f done down =>
    rw [openObjects_cons, down]
    split_ifs <;> omega
  | replaces f g same even => rw [openObjects_cons, openObjects_cons, same, even, Int.add_zero]

lemma ReadsObject.pending (h : ReadsObject stage frames) (hstage : ∀ v, stage ≠ .done v) :
    ∃ f, frames.getLast? = some f ∧ f.isObject = true := by
  rcases h with ⟨-, v, hv⟩ | outermost
  · exact absurd hv (hstage v)
  · exact outermost

lemma ReadsObject.cons {f : Frame} (h : ReadsObject stage (f :: frames)) :
    (frames.getLast?.getD f).isObject = true := by
  rcases h with ⟨hnil, -⟩ | ⟨g, hg, hobject⟩
  · cases hnil
  · rw [List.getLast?_cons, Option.some.injEq] at hg
    rw [hg]
    exact hobject

/-- As long as there are symbols the object is not complete, and it stays the outermost
container. -/
lemma Moves.readsObject (h : Moves s stage stage' frames frames')
    (hreads : ReadsObject stage frames) : 0 < openObjects frames ∧ ReadsObject stage' frames' := by
  cases h with
  | stays pending even =>
    obtain ⟨g, hg, hobject⟩ := hreads.pending pending
    exact ⟨openObjects_pos hg hobject, .inr ⟨g, hg, hobject⟩⟩
  | opens f pending up =>
    obtain ⟨g, hg, hobject⟩ := hreads.pending pending
    refine ⟨openObjects_pos hg hobject, .inr ⟨g, ?_, hobject⟩⟩
    rw [List.getLast?_cons, hg]
    rfl
  | closes f done down =>
    have houter := hreads.cons
    refine ⟨openObjects_pos List.getLast?_cons houter, ?_⟩
    cases hlast : frames'.getLast? with
    | none => exact .inl ⟨List.getLast?_eq_none_iff.mp hlast, done⟩
    | some g =>
      rw [hlast] at houter
      exact .inr ⟨g, hlast, houter⟩
  | @replaces outer f g same even =>
    have houter := hreads.cons
    refine ⟨openObjects_pos List.getLast?_cons houter, .inr ⟨_, List.getLast?_cons, ?_⟩⟩
    cases hlast : outer.getLast? with
    | none =>
      rw [hlast] at houter
      exact same ▸ houter
    | some e =>
      rw [hlast] at houter
      exact houter

lemma closes_braces {symbols : List Symbol} {before after : Nat} (hpos : 0 < before)
    (hweight : (after : Int) = before + weight s)
    (hlevel : ∀ ps, s = .string ps → Level (bracesWithin ps))
    (h : Closes after (symbols.flatMap Symbol.braces)) :
    Closes before ((s :: symbols).flatMap Symbol.braces) := by
  have same (h : weight s = 0) : after = before := by
    rw [h] at hweight
    omega
  rw [List.flatMap_cons]
  cases s with
  | beginObject => exact (Closes.cons_iff hpos hweight).mpr h
  | endObject => exact (Closes.cons_iff hpos hweight).mpr h
  | string ps =>
    obtain rfl := same rfl
    exact h.append_of_level hpos (hlevel ps rfl)
  | _ =>
    obtain rfl := same rfl
    exact h

/-- What is left of an object closes the objects that are open, just at its end. -/
theorem closes_of_run? {symbols : List Symbol} {v : Spelling}
    (hlevel : ∀ ps, .string ps ∈ symbols → Level (bracesWithin ps))
    (hreads : ReadsObject stage frames) (hrun : run? symbols stage frames = some v) :
    Closes (openObjects frames) (symbols.flatMap Symbol.braces) := by
  induction symbols generalizing stage frames with
  | nil =>
    unfold run? at hrun
    split at hrun
    · exact .nil
    · cases hrun
    · contradiction
  | cons s symbols ih =>
    simp only [run?] at hrun
    split at hrun
    · cases hrun
    · next stage' frames' hstep =>
      have hmoves := moves_of_step? hstep
      obtain ⟨hpos, hreads'⟩ := hmoves.readsObject hreads
      refine closes_braces hpos hmoves.openObjects_eq ?_
        (ih (fun ps hps => hlevel ps (List.mem_cons_of_mem s hps)) hreads' hrun)
      rintro ps rfl
      exact hlevel ps List.mem_cons_self

end Spelling

/-- A text is read by its symbols. -/
lemma read?_of_symbols {text : String} {symbols : List Symbol} {spelling : Spelling}
    (hsymbols : Symbol.all? text.toList = some symbols)
    (hrun : Spelling.run? symbols .value [] = some spelling)
    (hnesting : spelling.nesting ≤ maxNesting) : read? text = spelling.value? := by
  have htext : Spelling.ofText? text = some spelling := by
    unfold Spelling.ofText?
    rw [hsymbols]
    exact hrun
  unfold read?
  rw [htext]
  exact if_pos hnesting

/-- The braces within each string of a text are balanced. -/
def BalancedStrings (text : String) : Prop :=
  ∀ symbols, Symbol.all? text.toList = some symbols →
    ∀ ps, .string ps ∈ symbols → Level (bracesWithin ps)

/-- The text of an object is enclosed by its braces, if those within its strings are balanced. -/
theorem enclosed_of_read? {text : String} {v : Json} (hread : read? text = some v)
    (hopen : text.toList.head? = some '{') (hclose : text.toList.getLast? = some '}')
    (hstrings : BalancedStrings text) : Enclosed text.toList := by
  obtain ⟨cs, hcs⟩ := List.head?_eq_some_iff.mp hopen
  obtain ⟨spelling, htext, -⟩ := Option.bind_eq_some_iff.mp hread
  obtain ⟨symbols, hsymbols, hrun⟩ := Option.bind_eq_some_iff.mp htext
  have hstrings := hstrings symbols hsymbols
  rw [hcs] at hsymbols hclose ⊢
  obtain ⟨inner, hinner, rfl⟩ : ∃ inner, Symbol.all? cs = some inner ∧
      .beginObject :: inner = symbols := by
    have hscan : Symbol.scan? '{' cs = some (.beginObject, cs) := rfl
    rw [Symbol.all?, if_neg (by decide)] at hsymbols
    split at hsymbols
    · cases hsymbols
    · next s rest hs =>
      cases hscan.symm.trans hs
      exact Option.map_eq_some_iff.mp hsymbols
  have hcloses : Closes 1 (inner.flatMap Symbol.braces) :=
    Spelling.closes_of_run? (fun ps hps => hstrings ps (List.mem_cons_of_mem _ hps))
      (.inr ⟨.object [], rfl, rfl⟩) hrun
  have hlast : cs.getLast? = some '}' := by
    cases cs with
    | nil => cases hclose
    | cons c cs => exact hclose
  rw [← braces_of_all? hinner] at hcloses
  exact enclosed_cons_iff.mpr (hcloses.of_braces hlast)

end ChatQuery.Json
