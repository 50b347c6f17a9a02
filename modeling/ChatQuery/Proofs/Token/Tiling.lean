import ChatQuery.Proofs.Token.Reread
import Mathlib.Data.String.Basic

/-!
The tokens of a text tile it. They begin at the front of the text and end with its end, the texts
between their places are put together to the whole text, and each of these texts, read alone, gives
its token again. A cursor that has come to the end stays there.
-/
namespace ChatQuery

variable {i : Nat} {c : Char} {cs x rest before : List Char} {t u : Token} {ts : List Token}
  {source : String}

lemma utf8Len_eq (cs : List Char) : String.utf8Len cs = byteLength cs := by
  induction cs with
  | nil => rfl
  | cons c cs ih => rw [String.utf8Len_cons, ih, byteLength, Nat.add_comm]

lemma byteLength_pos (c : Char) (x : List Char) : 0 < byteLength (c :: x) :=
  Nat.add_pos_left c.utf8Size_pos _

/-- Between two characters of a text is a boundary of it. -/
lemma isValid_byteLength {after : List Char} (h : source.toList = before ++ after) :
    (String.Pos.Raw.mk (byteLength before)).IsValid source := by
  rw [String.Pos.Raw.isValid_iff_exists_append]
  refine ⟨String.ofList before, String.ofList after, ?_, ?_⟩
  · rw [← String.ofList_append, ← h, String.ofList_toList]
  · have hbefore := byteLength_toList (String.ofList before)
    rw [String.toList_ofList] at hbefore
    rw [hbefore]
    rfl

namespace Cursor

/-- The tokens of a text from an offset on, as they are read off its front one after another. -/
inductive Reads : Nat → List Char → List Token → Prop
  | done (i : Nat) : Reads i [] [⟨i, .endOfText, none⟩]
  | unit {i : Nat} {c : Char} {x rest : List Char} {ts : List Token}
    (spelling : (Lexeme.scan c (x ++ rest)).spelling = c :: x)
    (more : Reads (i + byteLength (c :: x)) rest ts) :
    Reads i (c :: (x ++ rest)) ((Lexeme.scan c (x ++ rest)).toToken i :: ts)

theorem reads_tokens (i : Nat) (cs : List Char) : Reads i cs (tokens ⟨i, cs⟩) := by
  induction hn : cs.length using Nat.strongRecOn generalizing i cs with
  | ind n ih =>
    cases cs with
    | nil =>
      rw [tokens_nil]
      exact .done i
    | cons c cs =>
      obtain ⟨x, rest, rfl, hx, htokens⟩ := tokens_step i c cs
      rw [htokens]
      refine .unit hx (ih rest.length ?_ _ rest rfl)
      simp only [List.length_cons, List.length_append] at hn
      omega

namespace Reads

lemma exists_head (h : Reads i cs ts) : ∃ t us, ts = t :: us ∧ t.index = i := by
  cases h with
  | done i => exact ⟨_, _, rfl, rfl⟩
  | unit spelling more => exact ⟨_, _, rfl, rfl⟩

/-- Each token is the one that is read at its place. -/
theorem exists_place (h : Reads i cs ts) (ht : t ∈ ts) :
    ∃ before after, cs = before ++ after ∧ t.index = i + byteLength before ∧
      t = Cursor.token ⟨t.index, after⟩ := by
  induction h with
  | done i =>
    obtain rfl := List.mem_singleton.mp ht
    exact ⟨[], [], rfl, rfl, rfl⟩
  | @unit i c x rest ts spelling more ih =>
    rcases List.mem_cons.mp ht with rfl | ht
    · exact ⟨[], c :: (x ++ rest), rfl, rfl, rfl⟩
    · obtain ⟨before, after, rfl, hindex, htoken⟩ := ih ht
      refine ⟨c :: x ++ before, after, by simp, ?_, htoken⟩
      rw [hindex, byteLength_append, Nat.add_assoc]

lemma le_index (h : Reads i cs ts) (ht : t ∈ ts) : i ≤ t.index := by
  obtain ⟨before, after, -, hindex, -⟩ := h.exists_place ht
  omega

theorem increasing (h : Reads i cs ts) : (ts.map Token.index).Pairwise (· < ·) := by
  induction h with
  | done i => exact List.pairwise_singleton _ _
  | @unit i c x rest ts spelling more ih =>
    rw [List.map_cons, List.pairwise_cons]
    refine ⟨List.forall_mem_map.mpr fun t ht => ?_, ih⟩
    have hle := more.le_index ht
    have hpos := byteLength_pos c x
    change i < t.index
    omega

theorem ends (h : Reads i cs ts) :
    ∃ front, ts = front ++ [⟨i + byteLength cs, .endOfText, none⟩] ∧
      ∀ t ∈ front, t.kind ≠ .endOfText := by
  induction h with
  | done i => exact ⟨[], rfl, List.forall_mem_nil _⟩
  | @unit i c x rest ts spelling more ih =>
    obtain ⟨front, hts, hfront⟩ := ih
    have hfirst : ((Lexeme.scan c (x ++ rest)).toToken i).kind ≠ .endOfText :=
      Lexeme.scan_kind c _
    have hbytes : i + byteLength (c :: (x ++ rest)) =
        i + byteLength (c :: x) + byteLength rest := by
      rw [← List.cons_append, byteLength_append, Nat.add_assoc]
    refine ⟨_ :: front, ?_, List.forall_mem_cons.mpr ⟨hfirst, hfront⟩⟩
    rw [hts, hbytes]
    rfl

end Reads

end Cursor

/-- The tokens before the last, each with the text from its place up to the next place. -/
def tiles (source : String) : List Token → List (Token × String)
  | t :: u :: ts =>
    (t, String.Pos.Raw.extract source ⟨t.index⟩ ⟨u.index⟩) :: tiles source (u :: ts)
  | _ => []

/-- The text between two places. -/
lemma extract_unit (hsource : source.toList = before ++ (x ++ rest)) (hi : i = byteLength before) :
    String.Pos.Raw.extract source ⟨i⟩ ⟨i + byteLength x⟩ = String.ofList x := by
  have hextract := String.extract_of_valid before x rest
  rwa [List.append_assoc, ← hsource, String.ofList_toList, utf8Len_eq, utf8Len_eq, ← hi]
    at hextract

namespace Cursor.Reads

lemma tiles_unit (more : Reads (i + byteLength (c :: x)) rest ts)
    (hsource : source.toList = before ++ (c :: x ++ rest)) (hi : i = byteLength before)
    (ht : t.index = i) :
    tiles source (t :: ts) = (t, String.ofList (c :: x)) :: tiles source ts := by
  obtain ⟨u, us, rfl, hu⟩ := more.exists_head
  rw [tiles, ht, hu, extract_unit hsource hi]

/-- What is between the places of a text are the spellings of its units. -/
theorem exists_of_mem_tiles (h : Reads i cs ts) (hsource : source.toList = before ++ cs)
    (hi : i = byteLength before) {p : Token × String} (hp : p ∈ tiles source ts) :
    ∃ c x rest, (Lexeme.scan c (x ++ rest)).spelling = c :: x ∧ p.2 = String.ofList (c :: x) ∧
      p.1 = (Lexeme.scan c (x ++ rest)).toToken p.1.index := by
  induction h generalizing before with
  | done i => cases hp
  | @unit i c x rest ts spelling more ih =>
    rw [more.tiles_unit hsource hi rfl, List.mem_cons] at hp
    rcases hp with rfl | hp
    · exact ⟨c, x, rest, spelling, rfl, rfl⟩
    · refine @ih (before ++ c :: x) ?_ ?_ hp
      · rw [hsource, List.append_assoc]
        rfl
      · rw [hi, byteLength_append]

theorem tiles_join (h : Reads i cs ts) (hsource : source.toList = before ++ cs)
    (hi : i = byteLength before) :
    (tiles source ts).map Prod.fst = ts.dropLast ∧
      String.join ((tiles source ts).map Prod.snd) = String.ofList cs := by
  induction h generalizing before with
  | done i => exact ⟨rfl, rfl⟩
  | @unit i c x rest ts spelling more ih =>
    obtain ⟨hfst, hsnd⟩ := @ih (before ++ c :: x)
      (by rw [hsource, List.append_assoc]; rfl) (by rw [hi, byteLength_append])
    obtain ⟨u, us, hts, -⟩ := more.exists_head
    rw [more.tiles_unit hsource hi rfl, List.map_cons, List.map_cons, hfst]
    constructor
    · rw [hts]
      rfl
    · rw [String.join_cons, hsnd, ← String.ofList_append]
      rfl

end Cursor.Reads

namespace Cursor

variable {p : Cursor} {n : Nat}

/-- A step of the cursor loses nothing of the text. -/
lemma advance_total (p : Cursor) :
    p.advance.index + byteLength p.advance.rest = p.index + byteLength p.rest := by
  obtain ⟨i, r⟩ := p
  cases r with
  | nil => rfl
  | cons c cs =>
    obtain ⟨x, hx, rest, rfl⟩ := Lexeme.scan_spelling c cs
    simp only [advance, hx, List.length_cons, Nat.add_sub_cancel, List.drop_left]
    rw [← List.cons_append, byteLength_append, Nat.add_assoc]

lemma iterate_total (p : Cursor) (n : Nat) :
    (advance^[n] p).index + byteLength (advance^[n] p).rest = p.index + byteLength p.rest := by
  induction n generalizing p with
  | zero => rfl
  | succ n ih => rw [Function.iterate_succ_apply, ih, advance_total]

lemma iterate_of_atEnd (h : p.rest = []) (n : Nat) : advance^[n] p = p := by
  have stays : advance p = p := by
    unfold advance
    rw [h]
  exact Function.iterate_fixed stays n

/-- The places of a text are where its cursor comes to. -/
lemma places_getElem? (h : n < p.places.length) : p.places[n]? = some (advance^[n] p) := by
  induction n generalizing p with
  | zero =>
    unfold places
    split_ifs <;> rfl
  | succ n ih =>
    rw [places] at h ⊢
    split_ifs at h ⊢ with hend
    · simp at h
    · rw [List.getElem?_cons_succ, Function.iterate_succ_apply]
      exact ih (Nat.lt_of_succ_lt_succ h)

/-- Behind the last place there is nothing. -/
lemma rest_of_places_le (h : p.places.length ≤ n + 1) : (advance^[n] p).rest = [] := by
  induction n generalizing p with
  | zero =>
    rw [places] at h
    split_ifs at h with hend
    · exact List.isEmpty_iff.mp hend
    · rw [places] at h
      split_ifs at h <;> simp at h
  | succ n ih =>
    rw [places] at h
    split_ifs at h with hend
    · have hrest := List.isEmpty_iff.mp hend
      rw [iterate_of_atEnd hrest]
      exact hrest
    · rw [Function.iterate_succ_apply]
      exact ih (Nat.le_of_succ_le_succ h)

end Cursor

/-- Tokens that tile a text. -/
structure Tiling (source : String) (ts : List Token) : Prop where
  ends : ∃ front, ts = front ++ [⟨source.utf8ByteSize, .endOfText, none⟩] ∧
    ∀ t ∈ front, t.kind ≠ .endOfText
  first : ts.head?.map Token.index = some 0
  increasing : (ts.map Token.index).Pairwise (· < ·)
  boundaries : ∀ t ∈ ts, (String.Pos.Raw.mk t.index).IsValid source
  tokens : (tiles source ts).map Prod.fst = ts.dropLast
  nonempty : ∀ p ∈ tiles source ts, p.2 ≠ ""
  joined : String.join ((tiles source ts).map Prod.snd) = source
  alone : ∀ p ∈ tiles source ts, p.1.kind ≠ .error →
    tokenize p.2 = [{ p.1 with index := 0 }, ⟨p.2.utf8ByteSize, .endOfText, none⟩]

/-- A unit, read alone, is the same unit. -/
lemma tokenize_alone (hx : (Lexeme.scan c (x ++ rest)).spelling = c :: x)
    (hknown : (Lexeme.scan c (x ++ rest)).kind ≠ .error) :
    tokenize (String.ofList (c :: x)) =
      [(Lexeme.scan c (x ++ rest)).toToken 0, ⟨byteLength (c :: x), .endOfText, none⟩] := by
  have again : Lexeme.scan c x = Lexeme.scan c (x ++ rest) := by
    have hscan := @Lexeme.scan_again c (x ++ rest) x [] hx hknown (by rintro d ⟨⟩) (.inl rfl)
    rwa [List.append_nil] at hscan
  have htokens := Cursor.tokens_cons 0 (again ▸ hx) (List.append_nil x).symm
  rw [again, Cursor.tokens_nil, Nat.zero_add] at htokens
  change Cursor.tokens ⟨0, (String.ofList (c :: x)).toList⟩ = _
  rw [String.toList_ofList, htokens]

/-- The tokens of a text tile it, in the order in which a cursor finds them; and once the cursor has
found the end of the text, it finds nothing else. -/
theorem tokenize_tiles (source : String) :
    Tiling source (tokenize source) ∧
      (∀ n < (tokenize source).length,
        (tokenize source)[n]? = some (Cursor.advance^[n] (.start source)).token) ∧
      ∀ n, (tokenize source).length ≤ n + 1 →
        let p := Cursor.advance^[n] (.start source)
        p.index = source.utf8ByteSize ∧ p.lexeme.kind = .endOfText ∧ p.lexeme.text = "" ∧
          p.lexeme.keyword? = none := by
  have reads : Cursor.Reads 0 source.toList (tokenize source) := Cursor.reads_tokens 0 _
  have hbytes := byteLength_toList source
  have whole : source.toList = [] ++ source.toList := rfl
  obtain ⟨hfst, hsnd⟩ := reads.tiles_join whole rfl
  refine ⟨⟨?_, ?_, reads.increasing, ?_, hfst, ?_, ?_, ?_⟩, ?_, ?_⟩
  · simpa [hbytes] using reads.ends
  · obtain ⟨t, us, hts, ht⟩ := reads.exists_head
    rw [hts, ← ht]
    rfl
  · intro t ht
    obtain ⟨before, after, happend, hindex, -⟩ := reads.exists_place ht
    rw [hindex, Nat.zero_add]
    exact isValid_byteLength happend
  · intro p hp
    obtain ⟨c, x, rest, -, hspelled, -⟩ := reads.exists_of_mem_tiles whole rfl hp
    rw [hspelled]
    simp
  · rw [hsnd, String.ofList_toList]
  · intro p hp hknown
    obtain ⟨c, x, rest, hx, hspelled, htoken⟩ :=
      reads.exists_of_mem_tiles whole rfl hp
    rw [htoken] at hknown
    rw [hspelled, tokenize_alone hx hknown, htoken, ← byteLength_toList, String.toList_ofList]
    rfl
  · intro n hn
    unfold tokenize at hn ⊢
    rw [List.length_map] at hn
    rw [List.getElem?_map, Cursor.places_getElem? hn]
    rfl
  · intro n hn p
    have hrest : p.rest = [] := Cursor.rest_of_places_le (by simpa [tokenize] using hn)
    have htotal := Cursor.iterate_total (.start source) n
    have hlexeme : p.lexeme = .endOfText := by
      unfold Cursor.lexeme
      rw [hrest]
    refine ⟨?_, by rw [hlexeme]; rfl, by rw [hlexeme]; rfl, by rw [hlexeme]; rfl⟩
    change p.index + byteLength p.rest = 0 + byteLength source.toList at htotal
    rw [hrest, hbytes, Nat.zero_add] at htotal
    exact htotal

end ChatQuery
