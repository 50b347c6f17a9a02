import ChatQuery.Statement
import Mathlib.Tactic.Common

/-!
The trees of statements. A tree read in preorder gives back the tokens of its group, all but the
marks that follow no literal, and its reserved words stand at its root and right below it.
-/
namespace ChatQuery

/-- What stands at one place of a tree: a token, or the mark of the literal before it. -/
inductive Item
  | token (t : Token)
  | mark (kind : Kind)
  deriving DecidableEq

/-- Trees with a token at each node, and with a mark at some. -/
inductive Node
  | node (token : Token) (mark : Option Kind) (children : List Node)

namespace Node

def token : Node → Token
  | .node t _ _ => t

def children : Node → List Node
  | .node _ _ ns => ns

mutual

/-- The token of a node, then its mark, then what stands below it. -/
def preorder : Node → List Item
  | .node t m ns => .token t :: (m.toList.map .mark ++ preorderAll ns)

def preorderAll : List Node → List Item
  | [] => []
  | n :: ns => preorder n ++ preorderAll ns

end

@[simp] lemma preorderAll_append (ns ms : List Node) :
    preorderAll (ns ++ ms) = preorderAll ns ++ preorderAll ms := by
  induction ns with
  | nil => rfl
  | cons n ns ih => simp only [List.cons_append, preorderAll, ih, List.append_assoc]

/-- Nodes other than the root that are reserved words are children of the root, and only nodes that
are reserved words have children. -/
structure Shaped (root : Node) : Prop where
  head : root.token.kind.isKeyword = true
  inner : ∀ n ∈ root.children, n.children ≠ [] → n.token.kind.isKeyword = true
  outer : ∀ n ∈ root.children, ∀ m ∈ n.children,
    m.token.kind.isKeyword = false ∧ m.children = []

end Node

def Leaf.node (l : Leaf) : Node := .node l.token l.mark []

def Part.node : Part → Node
  | .leaf l => l.node
  | .clause t leaves => .node t none (leaves.map Leaf.node)

def Part.leaves : Part → List Leaf
  | .leaf l => [l]
  | .clause _ leaves => leaves

def Statement.node (s : Statement) : Node := .node s.head none (s.parts.map Part.node)

/-- The tokens of a group in order, without the marks that do not directly follow a literal. The
flag says whether a literal stands before the tokens. -/
def items (afterLiteral : Bool) : List Token → List Item
  | [] => []
  | t :: ts =>
    (if t.kind.isMark then if afterLiteral then [.mark t.kind] else [] else [.token t]) ++
      items t.kind.isLiteral ts

/-- The kinds of the tokens that groups consist of. -/
def Kind.isContent (k : Kind) : Bool := k.isLiteral || k.isMark || k.isKeyword

lemma Kind.isContent_of_ne {k : Kind} (hend : k ≠ .endOfText) (herror : k ≠ .error)
    (hsemicolon : k ≠ .semicolon) (htrivia : k.isTrivia = false) : k.isContent = true := by
  cases k with
  | literal l => rfl
  | mark m => rfl
  | keyword k => rfl
  | endOfText => exact absurd rfl hend
  | error => exact absurd rfl herror
  | semicolon => exact absurd rfl hsemicolon
  | whitespace => cases htrivia
  | newline => cases htrivia
  | comment => cases htrivia

section Kinds

variable {k : Kind}

lemma Kind.not_trivia_of_content (h : k.isContent = true) : k.isTrivia = false := by
  cases k with
  | whitespace => cases h
  | newline => cases h
  | comment => cases h
  | _ => rfl

lemma Kind.not_mark_of_literal (h : k.isLiteral = true) : k.isMark = false := by
  cases k with
  | literal l => rfl
  | _ => cases h

lemma Kind.not_keyword_of_literal (h : k.isLiteral = true) : k.isKeyword = false := by
  cases k with
  | literal l => rfl
  | _ => cases h

lemma Kind.not_literal_of_mark (h : k.isMark = true) : k.isLiteral = false := by
  cases k with
  | mark m => rfl
  | _ => cases h

lemma Kind.not_mark_of_keyword (h : k.isKeyword = true) : k.isMark = false := by
  cases k with
  | keyword k => rfl
  | _ => cases h

lemma Kind.not_literal_of_keyword (h : k.isKeyword = true) : k.isLiteral = false := by
  cases k with
  | keyword k => rfl
  | _ => cases h

lemma Kind.keyword_of_opener (h : k.isOpener = true) : k.isKeyword = true := by
  cases k with
  | keyword k => rfl
  | _ => cases h

end Kinds

/-- A literal, and a mark if anything follows it. -/
structure Leaf.Sound (l : Leaf) : Prop where
  literal : l.token.kind.isLiteral = true
  mark : ∀ k ∈ l.mark, k.isMark = true

namespace Element

/-- What an element says; stray marks say nothing. -/
def items : Element → List Item
  | .leaf l => l.node.preorder
  | .word t => [.token t]
  | .stray _ => []

lemma preorder_leaf (l : Leaf) : l.node.preorder = .token l.token :: l.mark.toList.map .mark := by
  simp [Leaf.node, Node.preorder, Node.preorderAll]

/-- Grouping literals below their words changes nothing in the order of what is said. -/
lemma preorder_grouped (es : List Element) :
    Node.preorderAll ((grouped es).1.map Leaf.node) ++
      Node.preorderAll ((grouped es).2.map Part.node) = es.flatMap items := by
  induction es with
  | nil => rfl
  | cons e es ih =>
    rw [List.flatMap_cons, ← ih]
    cases e with
    | leaf l => simp [grouped, Node.preorderAll, items]
    | word t => simp [grouped, Node.preorderAll, Node.preorder, Part.node, items]
    | stray t => simp [grouped, Node.preorderAll, items, Function.comp_def, Part.node]

lemma preorder_parts (es : List Element) :
    Node.preorderAll ((parts es).map Part.node) = es.flatMap items := by
  rw [← preorder_grouped, parts, List.map_append, Node.preorderAll_append, List.map_map]
  rfl

lemma items_ofToken {t : Token} (h : t.kind.isContent = true) :
    (ofToken t).items = ChatQuery.items false [t] := by
  obtain ⟨index, kind, text⟩ := t
  cases kind with
  | literal l => rfl
  | mark m => rfl
  | keyword k => rfl
  | _ => cases h

/-- Joining marks to their literals loses only the marks that follow no literal. -/
lemma items_ofTokens {ts : List Token} (h : ∀ t ∈ ts, t.kind.isContent = true) :
    (ofTokens ts).flatMap items = ChatQuery.items false ts := by
  fun_induction ofTokens ts with
  | case1 => rfl
  | case2 t => rw [List.flatMap_singleton, items_ofToken (h t (List.mem_singleton_self t))]
  | case3 t m ts hmarked ih =>
    rw [List.flatMap_cons, ih fun u hu => h u (by simp [hu]), items, preorder_leaf]
    simp [ChatQuery.items, hmarked.1, hmarked.2, Kind.not_literal_of_mark hmarked.2,
      Kind.not_mark_of_literal hmarked.1]
  | case4 t m ts hmarked ih =>
    rw [List.flatMap_cons, ih fun u hu => h u (List.mem_cons_of_mem t hu),
      items_ofToken (h t List.mem_cons_self)]
    -- After a literal no mark follows here, so nothing depends on the flag.
    cases hliteral : t.kind.isLiteral with
    | false => simp [ChatQuery.items, hliteral]
    | true =>
      have unmarked : m.kind.isMark = false := by simpa [hliteral] using hmarked
      simp [ChatQuery.items, unmarked]

/-- Elements whose literals are literals with marks and whose words are reserved words. -/
def Sound : Element → Prop
  | .leaf l => l.Sound
  | .word t => t.kind.isKeyword = true
  | .stray _ => True

lemma sound_ofToken (t : Token) : (ofToken t).Sound := by
  unfold ofToken
  split_ifs with literal keyword
  · exact ⟨literal, nofun⟩
  · exact keyword
  · trivial

lemma sound_ofTokens (ts : List Token) : ∀ e ∈ ofTokens ts, e.Sound := by
  fun_induction ofTokens ts with
  | case1 => exact List.forall_mem_nil _
  | case2 t => exact List.forall_mem_singleton.mpr (sound_ofToken t)
  | case3 t m ts hmarked ih =>
    have sound : Leaf.Sound ⟨t, some m.kind⟩ :=
      ⟨hmarked.1, fun k hk => Option.some.inj hk ▸ hmarked.2⟩
    exact List.forall_mem_cons.mpr ⟨sound, ih⟩
  | case4 t m ts hmarked ih => exact List.forall_mem_cons.mpr ⟨sound_ofToken t, ih⟩

end Element

/-- Parts whose literals are literals with marks and whose heads are reserved words. -/
def Part.Sound : Part → Prop
  | .leaf l => l.Sound
  | .clause t leaves => t.kind.isKeyword = true ∧ ∀ l ∈ leaves, l.Sound

lemma Part.Sound.leaf {p : Part} (h : p.Sound) {l : Leaf} (hl : l ∈ p.leaves) : l.Sound := by
  cases p with
  | leaf l' =>
    obtain rfl := List.mem_singleton.mp hl
    exact h
  | clause t leaves => exact h.2 l hl

namespace Element

lemma sound_grouped {es : List Element} (h : ∀ e ∈ es, e.Sound) :
    (∀ l ∈ (grouped es).1, l.Sound) ∧ ∀ p ∈ (grouped es).2, p.Sound := by
  induction es with
  | nil => exact ⟨List.forall_mem_nil _, List.forall_mem_nil _⟩
  | cons e es ih =>
    obtain ⟨he, hes⟩ := List.forall_mem_cons.mp h
    obtain ⟨leaves, others⟩ := ih hes
    cases e with
    | leaf l => exact ⟨List.forall_mem_cons.mpr ⟨he, leaves⟩, others⟩
    | word t => exact ⟨List.forall_mem_nil _, List.forall_mem_cons.mpr ⟨⟨he, leaves⟩, others⟩⟩
    | stray t =>
      refine ⟨List.forall_mem_nil _, List.forall_mem_append.mpr ⟨?_, others⟩⟩
      exact List.forall_mem_map.mpr leaves

lemma sound_parts {es : List Element} (h : ∀ e ∈ es, e.Sound) : ∀ p ∈ parts es, p.Sound := by
  obtain ⟨leaves, others⟩ := sound_grouped h
  exact List.forall_mem_append.mpr ⟨List.forall_mem_map.mpr leaves, others⟩

end Element

namespace Statement

variable {group : List Token} {s : Statement}

lemma shaped_of_sound (hhead : s.head.kind.isKeyword = true) (hparts : ∀ p ∈ s.parts, p.Sound) :
    s.node.Shaped := by
  refine ⟨hhead, List.forall_mem_map.mpr ?_, List.forall_mem_map.mpr ?_⟩
  · intro p hp
    cases p with
    | leaf l => exact fun none => absurd rfl none
    | clause t leaves => exact fun _ => (hparts _ hp).1
  · intro p hp
    cases p with
    | leaf l => exact List.forall_mem_nil _
    | clause t leaves =>
      refine List.forall_mem_map.mpr ?_
      intro l hl
      exact ⟨Kind.not_keyword_of_literal ((hparts _ hp).2 l hl).literal, rfl⟩

/-- The tree of a group says what the group says, and has the shape of a statement. -/
theorem ofGroup?_eq_ok (hgroup : ∀ t ∈ group, t.kind.isContent = true)
    (h : ofGroup? group = .ok s) : s.node.preorder = items false group ∧ s.node.Shaped := by
  cases group with
  | nil => cases h
  | cons head ts =>
    obtain ⟨hhead, hts⟩ := List.forall_mem_cons.mp hgroup
    simp only [ofGroup?] at h
    split_ifs at h with opener
    cases h
    have keyword := Kind.keyword_of_opener opener
    refine ⟨?_, shaped_of_sound keyword (Element.sound_parts (Element.sound_ofTokens ts))⟩
    simp [node, Node.preorder, Element.preorder_parts, Element.items_ofTokens hts, items,
      Kind.not_mark_of_keyword keyword, Kind.not_literal_of_keyword keyword]

end Statement

end ChatQuery
