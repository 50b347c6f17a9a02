import ChatQuery.Kind

/-! Tokens: the lexical units of a source text, each with the byte offset at which it starts. -/
namespace ChatQuery

/-- The number of bytes that a list of characters takes in UTF-8. -/
def byteLength : List Char → Nat
  | [] => 0
  | c :: cs => c.utf8Size + byteLength cs

theorem byteLength_append (cs ds : List Char) :
    byteLength (cs ++ ds) = byteLength cs + byteLength ds := by
  induction cs with
  | nil => exact (Nat.zero_add _).symm
  | cons c cs ih =>
    simp only [List.cons_append, byteLength]
    rw [ih, Nat.add_assoc]

theorem byteLength_toList (s : String) : byteLength s.toList = s.utf8ByteSize := by
  suffices h : ∀ cs : List Char, byteLength cs = (String.ofList cs).utf8ByteSize by
    rw [h, String.ofList_toList]
  intro cs
  induction cs with
  | nil => rfl
  | cons c cs ih =>
    have split : String.ofList (c :: cs) = String.singleton c ++ String.ofList cs := by
      rw [String.singleton_eq_ofList, ← String.ofList_append]
      rfl
    rw [byteLength, ih, split, String.utf8ByteSize_append, String.utf8ByteSize_singleton]

/-- A lexical unit. Only literals and reserved words carry a text. -/
structure Token where
  index : Nat
  kind : Kind
  text : Option String
  deriving DecidableEq

end ChatQuery
