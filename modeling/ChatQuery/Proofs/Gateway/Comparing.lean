import ChatQuery.Proofs.Compile.Generators
import ChatQuery.Proofs.Gateway.Anchors
import ChatQuery.Proofs.Gateway.Numbering
import Mathlib.Data.Nat.Digits.Defs

/-!
Identifiers as texts and as numbers. The identifiers that a script names are 18 decimal digits,
which need not be ASCII, while stored messages are numbered in ASCII. So the two orders agree on an
anchor of ASCII digits, and an anchor with other digits stands above all identifiers that it agrees
with up to the first of these.
-/
namespace ChatQuery

variable {c d : Char} {u v cs : List Char} {id anchor : String}

namespace Text

/-- The value of a decimal digit: its place in its run of ten. -/
def digitValue (c : Char) : Nat :=
  match digitRanges.find? fun r => r.1 ≤ c.toNat && c.toNat ≤ r.2 with
  | some r => (c.toNat - r.1) % 10
  | none => 0

lemma digitValue_lt (c : Char) : digitValue c < 10 := by
  unfold digitValue
  split
  · exact Nat.mod_lt _ (by decide)
  · decide

/-- ASCII has the first of all runs of digits. -/
lemma ascii_or_above (h : isDigit c = true) : c.isDigit = true ∨ 0x660 ≤ c.toNat := by
  obtain ⟨r, hr, low, high⟩ := exists_of_inRanges h
  have ranges : ∀ r ∈ digitRanges, r = (0x30, 0x39) ∨ 0x660 ≤ r.1 := by decide
  rcases ranges r hr with rfl | above
  · left
    simp only [Char.isDigit, Bool.and_eq_true, decide_eq_true_eq, ge_iff_le, UInt32.le_iff_toNat_le]
    exact ⟨low, high⟩
  · exact .inr (above.trans low)

lemma digitValue_of_ascii (h : c.isDigit = true) : digitValue c = c.toNat - 0x30 := by
  have range := code_of_ascii h
  have first : digitRanges.find? (fun r => r.1 ≤ c.toNat && c.toNat ≤ r.2) = some (0x30, 0x39) := by
    rw [digitRanges, List.find?_cons_of_pos (by simpa using range)]
  rw [digitValue, first]
  exact Nat.mod_eq_of_lt (by omega)

end Text

/-- The number that a run of decimal digits denotes, in whatever script they are. -/
def number (cs : List Char) : Nat := Nat.ofDigits 10 (cs.reverse.map Text.digitValue)

lemma number_cons (c : Char) (cs : List Char) :
    number (c :: cs) = number cs + 10 ^ cs.length * Text.digitValue c := by
  unfold number
  rw [List.reverse_cons, List.map_append, Nat.ofDigits_append, List.length_map, List.length_reverse,
    List.map_singleton, Nat.ofDigits_singleton]

lemma number_lt (cs : List Char) : number cs < 10 ^ cs.length := by
  have small := Nat.ofDigits_lt_base_pow_length (b := 10) (l := cs.reverse.map Text.digitValue)
    (by decide) (List.forall_mem_map.mpr fun c _ => Text.digitValue_lt c)
  rwa [List.length_map, List.length_reverse] at small

/-- The first digit decides which number is less. -/
lemma number_lt_number (hlength : u.length = v.length)
    (h : Text.digitValue c < Text.digitValue d) : number (c :: u) < number (d :: v) := by
  have hu := number_lt u
  have hstep := Nat.mul_le_mul_left (10 ^ u.length) (Nat.succ_le_of_lt h)
  rw [number_cons, number_cons, ← hlength]
  rw [Nat.mul_succ] at hstep
  omega

/-- The text agrees with the digits up to the first of its digits that is not ASCII. -/
def Outranks (text digits : List Char) : Prop :=
  ∃ front d back, text = front ++ d :: back ∧ d.isDigit = false ∧ front <+: digits

lemma outranks_of_foreign (h : d.isDigit = false) (u v : List Char) : Outranks (d :: v) u :=
  ⟨[], d, v, rfl, h, List.nil_prefix⟩

lemma outranks_cons_iff (h : d.isDigit = true) :
    Outranks (d :: v) (c :: u) ↔ d = c ∧ Outranks v u := by
  constructor
  · rintro ⟨front, e, back, heq, foreign, agree⟩
    cases front with
    | nil =>
      obtain ⟨rfl, -⟩ := List.cons.inj heq
      rw [h] at foreign
      cases foreign
    | cons f front =>
      obtain ⟨rfl, rfl⟩ := List.cons.inj heq
      obtain ⟨rfl, hfront⟩ := List.cons_prefix_cons.mp agree
      exact ⟨rfl, front, e, back, rfl, foreign, hfront⟩
  · rintro ⟨rfl, front, e, back, rfl, foreign, agree⟩
    exact ⟨d :: front, e, back, rfl, foreign, List.cons_prefix_cons.mpr ⟨rfl, agree⟩⟩

/-- How ASCII digits stand to a text of as many digits. -/
inductive Ranks (u v : List Char) : Prop
  | outranked (foreign : Outranks v u) (before : u < v)
  | below (plain : ¬ Outranks v u) (before : u < v) (less : number u < number v)
  | same (plain : ¬ Outranks v u) (eq : u = v)
  | above (plain : ¬ Outranks v u) (behind : v < u) (greater : number v < number u)

namespace Ranks

lemma cons (hlength : u.length = v.length) (hc : c.isDigit = true) (h : Ranks u v) :
    Ranks (c :: u) (c :: v) := by
  have outranks : Outranks (c :: v) (c :: u) ↔ Outranks v u := by
    rw [outranks_cons_iff hc, eq_self_iff_true, true_and]
  have numbers {x y : List Char} (hxy : x.length = y.length) (hlt : number x < number y) :
      number (c :: x) < number (c :: y) := by
    rw [number_cons, number_cons, hxy]
    omega
  have before {x y : List Char} (hxy : x < y) : c :: x < c :: y :=
    List.cons_lt_cons_iff.mpr (.inr ⟨rfl, hxy⟩)
  cases h with
  | outranked foreign lt => exact .outranked (outranks.mpr foreign) (before lt)
  | below plain lt less => exact .below (mt outranks.mp plain) (before lt) (numbers hlength less)
  | same plain eq => exact .same (mt outranks.mp plain) (congrArg _ eq)
  | above plain lt greater =>
    exact .above (mt outranks.mp plain) (before lt) (numbers hlength.symm greater)

/-- The first difference decides. -/
theorem of_digits (hlength : u.length = v.length) (hu : ∀ c ∈ u, c.isDigit = true)
    (hv : ∀ d ∈ v, Text.isDigit d = true) : Ranks u v := by
  induction u generalizing v with
  | nil =>
    obtain rfl := List.eq_nil_of_length_eq_zero hlength.symm
    refine .same ?_ rfl
    rintro ⟨front, d, back, heq, -⟩
    simp at heq
  | cons c u ih =>
    cases v with
    | nil => cases hlength
    | cons d v =>
      obtain ⟨hc, hus⟩ := List.forall_mem_cons.mp hu
      obtain ⟨hd, hvs⟩ := List.forall_mem_cons.mp hv
      have hrest : u.length = v.length := Nat.succ.inj hlength
      have range := Text.code_of_ascii hc
      have first (hcd : c.toNat < d.toNat) : c :: u < d :: v :=
        List.cons_lt_cons_iff.mpr (.inl hcd)
      by_cases ascii : d.isDigit = true
      · have outranks := outranks_cons_iff (u := u) (v := v) (c := c) ascii
        have hvalues := Text.digitValue_of_ascii hc
        have hvalues' := Text.digitValue_of_ascii ascii
        have range' := Text.code_of_ascii ascii
        rcases Nat.lt_trichotomy c.toNat d.toNat with hlt | heq | hgt
        · refine .below (fun h => ?_) (first hlt) (number_lt_number hrest (by omega))
          rw [(outranks.mp h).1] at hlt
          exact Nat.lt_irrefl _ hlt
        · obtain rfl := Char.toNat_inj.mp heq
          exact (ih hrest hus hvs).cons hrest hc
        · refine .above (fun h => ?_) (List.cons_lt_cons_iff.mpr (.inl hgt))
            (number_lt_number hrest.symm (by omega))
          rw [(outranks.mp h).1] at hgt
          exact Nat.lt_irrefl _ hgt
      · -- A digit that is not ASCII stands above all that are, whatever its value is.
        rw [Bool.not_eq_true] at ascii
        have far : 0x660 ≤ d.toNat :=
          (Text.ascii_or_above hd).resolve_left (by simp [ascii])
        exact .outranked (outranks_of_foreign ascii (c :: u) v) (first (by omega))

end Ranks

/-- All digits are ASCII. -/
def IsPlain (text : String) : Prop := ∀ c ∈ text.toList, c.isDigit = true

instance (text : String) : Decidable (IsPlain text) :=
  decidable_of_iff (text.toList.all Char.isDigit = true) List.all_eq_true

lemma not_outranks_of_plain (h : IsPlain anchor) : ¬ Outranks anchor.toList u := by
  rintro ⟨front, d, back, heq, foreign, -⟩
  have plain := h d (by simp [heq])
  rw [foreign] at plain
  cases plain

/-- As texts the two compare as their numbers do. -/
structure ComparesAsNumber (id anchor : String) : Prop where
  before : id < anchor ↔ number id.toList < number anchor.toList
  after : anchor < id ↔ number anchor.toList < number id.toList
  same : id = anchor ↔ number id.toList = number anchor.toList

/-- As texts the two compare as their numbers do, but that the anchor stands above what it outranks.
-/
structure ComparesAsForeign (id anchor : String) : Prop where
  before : id < anchor ↔
    number id.toList < number anchor.toList ∨ Outranks anchor.toList id.toList
  after : anchor < id ↔
    number anchor.toList < number id.toList ∧ ¬ Outranks anchor.toList id.toList
  different : id ≠ anchor

lemma Ranks.compares (h : Ranks id.toList anchor.toList) (hid : IsPlain id) :
    (IsPlain anchor → ComparesAsNumber id anchor) ∧
      (¬ IsPlain anchor → ComparesAsForeign id anchor) := by
  have texts {a b : String} : a < b ↔ a.toList < b.toList := String.lt_iff_toList_lt
  cases h with
  | outranked foreign before =>
    have hbefore := texts.mpr before
    refine ⟨fun plain => absurd foreign (not_outranks_of_plain plain),
      fun _ => ⟨?_, ?_, hbefore.ne⟩⟩
    · exact iff_of_true hbefore (.inr foreign)
    · exact iff_of_false hbefore.asymm fun h => h.2 foreign
  | below alike before less =>
    have hbefore := texts.mpr before
    have below : id < anchor ↔ number id.toList < number anchor.toList := iff_of_true hbefore less
    have above : ¬ anchor < id := hbefore.asymm
    refine ⟨fun _ => ⟨below, iff_of_false above less.asymm, iff_of_false hbefore.ne less.ne⟩,
      fun _ => ⟨?_, ?_, hbefore.ne⟩⟩
    · exact iff_of_true hbefore (.inl less)
    · exact iff_of_false above fun h => less.asymm h.1
  | same alike eq =>
    obtain rfl := String.toList_inj.mp eq
    exact ⟨fun _ => ⟨by simp, by simp, by simp⟩, fun foreign => absurd hid foreign⟩
  | above alike behind greater =>
    have hbehind := texts.mpr behind
    have below : ¬ id < anchor := hbehind.asymm
    refine ⟨fun _ => ⟨iff_of_false below greater.asymm, iff_of_true hbehind greater,
      iff_of_false hbehind.ne' greater.ne'⟩, fun _ => ⟨?_, ?_, hbehind.ne'⟩⟩
    · exact iff_of_false below (not_or_intro greater.asymm alike)
    · exact iff_of_true hbehind ⟨greater, alike⟩

/-- The identifiers that bound or centre a window. -/
def Window.anchors (w : Window) : List String :=
  w.before.toList ++ w.after.toList ++ w.around.toList

/-- The identifiers in the arguments of a call. -/
def Call.ids : Call → List String
  | .selectGuild id | .selectChannel id | .fetchGuild id | .fetchChannel id | .fetchUser id
  | .fetchMember id | .deleteMessage id => [id]
  | .editMessage edit => [edit.messageId]
  | .deleteMessages window | .readChannel window => window.anchors
  | .login _ | .showGuilds _ | .showChannels _ | .showMembers _ | .sendMessage _
  | .updatePresence _ | .listenClient _ | .listenGuild _ | .listenChannel _ => []

lemma Window.WellFormed.anchors {w : Window} (h : w.WellFormed) :
    ∀ id ∈ w.anchors, isSnowflake id = true := by
  have optional {o : Option String} (ho : o.all isSnowflake = true) :
      ∀ id ∈ o.toList, isSnowflake id = true := by
    cases o with
    | none => exact List.forall_mem_nil _
    | some id => exact List.forall_mem_singleton.mpr ho
  exact List.forall_mem_append.mpr
    ⟨List.forall_mem_append.mpr ⟨optional h.before, optional h.after⟩, optional h.around⟩

lemma Call.WellFormed.ids {c : Call} (h : c.WellFormed) : ∀ id ∈ c.ids, isSnowflake id = true := by
  cases c with
  | selectGuild | selectChannel | fetchGuild | fetchChannel | fetchUser | fetchMember
  | deleteMessage | editMessage => exact List.forall_mem_singleton.mpr h
  | deleteMessages | readChannel => exact Window.WellFormed.anchors h
  | _ => exact List.forall_mem_nil _

namespace Offline

variable {s : Offline} {m : StoredMessage} {p : Script} {listener : Listener} {source : String}
  {x : Call}

/-- Stored messages have identifiers of 18 ASCII digits. -/
lemma Kept.plain (h : Kept s) (small : s.sent ≤ capacity) (hm : m ∈ s.messages) :
    m.id.toList.length = 18 ∧ IsPlain m.id := by
  obtain ⟨ks, hids, -, hbound⟩ := h.ordered
  have hid : m.id ∈ s.messages.map (·.id) := List.mem_map_of_mem hm
  rw [hids] at hid
  obtain ⟨k, hk, hmk⟩ := List.mem_map.mp hid
  rw [← hmk]
  exact digits_numbered ((hbound k hk).trans_le small)

/-- Every identifier in the calls of a script consists of 18 decimal digits. If these are ASCII
digits, it compares with the identifiers of all messages, as a text, just as the two compare as
numbers. If not, it is no message's, and it comes behind all messages whose identifiers it agrees
with up to its first other digit, whatever its number is. -/
theorem ids_compared (h : Script.compile? listener source = .ok p) (hx : x ∈ p.calls)
    (hid : id ∈ x.ids) :
    id.toList.length = 18 ∧ (∀ d ∈ id.toList, Text.isDigit d = true) ∧
      ∀ {s : Offline}, s.Reachable → s.sent < 10 ^ 17 → ∀ m ∈ s.messages,
        m.id.toList.length = 18 ∧ IsPlain m.id ∧
        (IsPlain id → ComparesAsNumber m.id id) ∧ (¬ IsPlain id → ComparesAsForeign m.id id) := by
  obtain ⟨hlength, hdigits⟩ :=
    isSnowflake_iff.mp ((Script.wellFormed_of_compile? h x hx).ids id hid)
  refine ⟨hlength, hdigits, ?_⟩
  intro s hreach hsent m hm
  obtain ⟨hstored, hplain⟩ := (kept_of_reachable hreach).plain hsent.le hm
  exact ⟨hstored, hplain,
    (Ranks.of_digits (hstored.trans hlength.symm) hplain hdigits).compares hplain⟩

lemma exists_naming
    (h : ((Script.compile? listener source).map (·.calls.any (id ∈ ·.ids))).toOption = some true) :
    ∃ p x, Script.compile? listener source = .ok p ∧ x ∈ p.calls ∧ id ∈ x.ids := by
  cases hp : Script.compile? listener source with
  | error d =>
    rw [hp] at h
    cases h
  | ok p =>
    rw [hp] at h
    obtain ⟨x, hx, hid⟩ := List.any_eq_true.mp (Option.some.inj h)
    exact ⟨p, x, rfl, hx, of_decide_eq_true hid⟩

/-- Of two messages the older one is before the newer one, by text and by number. -/
theorem ids_compared_before :
    let source := "READ \"228666916018118541\"c BEFORE \"900000000000000001\";"
    let s := filled "228666916018118541" 2
    let anchor := "900000000000000001"
    s.Reachable ∧ s.sent < 10 ^ 17 ∧
      s.messages.map (·.id) = ["900000000000000001", "900000000000000000"] ∧
      ∃ p x, Script.compile? .discard source = .ok p ∧ x ∈ p.calls ∧ anchor ∈ x.ids ∧
        ∀ m ∈ s.messages, ComparesAsNumber m.id anchor := by
  intro source s anchor
  have hreach : s.Reachable := reachable_filled _ _
  have hsent : s.sent < 10 ^ 17 := by
    rw [sent_filled (by decide)]
    decide
  obtain ⟨p, x, hp, hx, hid⟩ :
      ∃ p x, Script.compile? .discard source = .ok p ∧ x ∈ p.calls ∧ anchor ∈ x.ids :=
    exists_naming (by decide +kernel)
  refine ⟨hreach, hsent, by decide +kernel, p, x, hp, hx, hid, fun m hm => ?_⟩
  obtain ⟨-, -, compared⟩ := ids_compared hp hx hid
  exact (compared hreach hsent m hm).2.2.1 (by decide +kernel)

/-- The only message is before an anchor of Arabic digits although its number is not less. -/
theorem foreign_anchor_outranks :
    let source := "READ \"228666916018118541\"c BEFORE \"٠٠٠٠٠٠٠٠٠٠٠٠٠٠٠٠٠١\";"
    let s := filled "228666916018118541" 1
    let anchor := "٠٠٠٠٠٠٠٠٠٠٠٠٠٠٠٠٠١"
    s.Reachable ∧ s.sent < 10 ^ 17 ∧ s.messages.map (·.id) = ["900000000000000000"] ∧
      (∃ p x, Script.compile? .discard source = .ok p ∧ x ∈ p.calls ∧ anchor ∈ x.ids) ∧
      ¬ IsPlain anchor ∧ number anchor.toList = 1 ∧
      number "900000000000000000".toList = 900000000000000000 ∧ "900000000000000000" < anchor := by
  intro source s anchor
  have hreach : s.Reachable := reachable_filled _ _
  have hsent : s.sent < 10 ^ 17 := by
    rw [sent_filled (by decide)]
    decide
  have named : ∃ p x, Script.compile? .discard source = .ok p ∧ x ∈ p.calls ∧ anchor ∈ x.ids :=
    exists_naming (by decide +kernel)
  exact ⟨hreach, hsent, by decide +kernel, named, by decide +kernel, by decide +kernel,
    by decide +kernel, by decide +kernel⟩

end Offline

end ChatQuery
