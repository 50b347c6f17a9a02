/-!
The lexical kinds of the statement language: its reserved words, the letters that mark a literal,
the three kinds of literal, and the layout kinds. The grammar tables say which words open a
statement and which clauses name its target or carry its values.
-/
namespace ChatQuery

/-- The reserved words. -/
inductive Keyword
  | use | listen | «include» | exclude | fetch | «from» | read | limit | before | after | around
  | delete | send | «in» | edit | «with» | «show» | presence | raw
  deriving DecidableEq

namespace Keyword

def all : List Keyword :=
  [.use, .listen, .«include», .exclude, .fetch, .«from», .read, .limit, .before, .after, .around,
    .delete, .send, .«in», .edit, .«with», .«show», .presence, .raw]

def word : Keyword → String
  | .use => "use"
  | .listen => "listen"
  | .«include» => "include"
  | .exclude => "exclude"
  | .fetch => "fetch"
  | .«from» => "from"
  | .read => "read"
  | .limit => "limit"
  | .before => "before"
  | .after => "after"
  | .around => "around"
  | .delete => "delete"
  | .send => "send"
  | .«in» => "in"
  | .edit => "edit"
  | .«with» => "with"
  | .«show» => "show"
  | .presence => "presence"
  | .raw => "raw"

/-- A reserved word is recognised in any mixture of upper and lower case ASCII letters. -/
def ofLetters? (letters : List Char) : Option Keyword :=
  all.find? fun k => k.word.toList == letters.map Char.toLower

/-- Diagnostics show reserved words in capitals. -/
def label (k : Keyword) : String :=
  String.ofList (k.word.toList.map Char.toUpper)

theorem mem_all (k : Keyword) : k ∈ all := by cases k <;> decide

theorem ofLetters?_word (k : Keyword) : ofLetters? k.word.toList = some k := by cases k <;> decide

end Keyword

/-- The letters that may follow a literal and say what it stands for. -/
inductive Mark
  | token | guild | channel | message | user | attachment | embed | mention
  deriving DecidableEq

namespace Mark

def all : List Mark := [.token, .guild, .channel, .message, .user, .attachment, .embed, .mention]

def letter : Mark → Char
  | .token => 't'
  | .guild => 'g'
  | .channel => 'c'
  | .message => 'm'
  | .user => 'u'
  | .attachment => 'A'
  | .embed => 'E'
  | .mention => 'M'

def ofLetter? (c : Char) : Option Mark :=
  all.find? fun m => m.letter == c

theorem mem_all (m : Mark) : m ∈ all := by cases m <;> decide

theorem ofLetter?_letter (m : Mark) : ofLetter? m.letter = some m := by cases m <;> decide

end Mark

inductive LiteralKind
  | number | string | object
  deriving DecidableEq

/-- What a token is. `error` is the kind of a character or word that the language does not know. -/
inductive Kind
  | endOfText | whitespace | newline | semicolon | comment | error
  | literal (l : LiteralKind)
  | mark (m : Mark)
  | keyword (k : Keyword)
  deriving DecidableEq

namespace Kind

def all : List Kind :=
  [.endOfText, .whitespace, .newline, .semicolon, .comment, .error, .literal .number,
    .literal .string, .literal .object] ++ Mark.all.map .mark ++ Keyword.all.map .keyword

theorem mem_all (k : Kind) : k ∈ all := by
  cases k with
  | literal l => cases l <;> decide
  | mark m => simp [all, Mark.mem_all]
  | keyword k => simp [all, Keyword.mem_all]
  | _ => decide

def label : Kind → String
  | .endOfText => "EOF"
  | .whitespace => "Whitespace"
  | .newline => "Newline"
  | .semicolon => "Semicolon"
  | .comment => "Comment"
  | .error => "Error"
  | .literal .number => "Number"
  | .literal .string => "String"
  | .literal .object => "Object"
  | .mark m => m.letter.toString
  | .keyword k => k.label

def isKeyword : Kind → Bool
  | .keyword _ => true
  | _ => false

def isMark : Kind → Bool
  | .mark _ => true
  | _ => false

def isLiteral : Kind → Bool
  | .literal _ => true
  | _ => false

/-- Layout that no statement sees. -/
def isTrivia : Kind → Bool
  | .whitespace | .newline | .comment => true
  | _ => false

/-- The clauses whose literals name the target of a statement. -/
def targetClauses : Kind → List Keyword
  | .keyword .fetch => [.«from»]
  | .keyword .delete | .keyword .send | .keyword .edit => [.«in»]
  | _ => []

/-- The clauses whose literals are values of a statement. -/
def valueClauses : Kind → List Keyword
  | .keyword .listen => [.«include», .exclude]
  | .keyword .read | .keyword .delete => [.limit, .before, .after, .around]
  | .keyword .edit => [.«with»]
  | _ => []

end Kind

/-- The reserved words that may open a statement. -/
inductive Opener
  | use | listen | fetch | read | delete | send | edit | «show» | presence | raw
  deriving DecidableEq

namespace Opener

def ofKind? : Kind → Option Opener
  | .keyword .use => some .use
  | .keyword .listen => some .listen
  | .keyword .fetch => some .fetch
  | .keyword .read => some .read
  | .keyword .delete => some .delete
  | .keyword .send => some .send
  | .keyword .edit => some .edit
  | .keyword .«show» => some .«show»
  | .keyword .presence => some .presence
  | .keyword .raw => some .raw
  | _ => none

def keyword : Opener → Keyword
  | .use => .use
  | .listen => .listen
  | .fetch => .fetch
  | .read => .read
  | .delete => .delete
  | .send => .send
  | .edit => .edit
  | .«show» => .«show»
  | .presence => .presence
  | .raw => .raw

theorem ofKind?_eq_some {k : Kind} {o : Opener} :
    ofKind? k = some o ↔ k = .keyword o.keyword := by
  constructor
  · intro h
    unfold ofKind? at h
    split at h <;> cases h <;> rfl
  · rintro rfl
    cases o <;> rfl

end Opener

def Kind.isOpener (k : Kind) : Bool := (Opener.ofKind? k).isSome

end ChatQuery
