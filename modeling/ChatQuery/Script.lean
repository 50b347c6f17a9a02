import ChatQuery.Compile
import ChatQuery.Notice
import ChatQuery.Token.Lexer

/-!
Compiled scripts. A script compiles only if each of its statements does; the notices of the
statements before the one that fails are reported all the same.
-/
namespace ChatQuery

/-- The calls of a source text, and how often it flips the raw flag. -/
structure Script where
  calls : List Call
  toggles : Nat

namespace Script

def directives? (source : String) : Except Diagnostic (List Directive) :=
  (Statement.ofTokens? (tokenize source)).map (·.map Statement.directive)

def isToggle (d : Directive) : Bool := d.head.key = .keyword .raw

/-- Statements that only flip the raw flag are counted and not compiled. -/
def ofDirectives? (listener : Listener) (ds : List Directive) : Except Diagnostic Script := do
  let calls ← (ds.filter (!isToggle ·)).mapM (Directive.calls? listener)
  .ok ⟨calls.flatten, ds.countP isToggle⟩

def compile? (listener : Listener) (source : String) : Except Diagnostic Script := do
  let ds ← directives? source
  ofDirectives? listener ds

/-- The notices of the statements that compile before the first one that does not. -/
def noticesOf (listener : Listener) (ds : List Directive) : List Notice :=
  ((ds.filter (!isToggle ·)).takeWhile fun d => (d.calls? listener).isOk).filterMap fun d =>
    d.ignored?.map fun p => .presenceShape p.1 p.2

def notices (listener : Listener) (source : String) : List Notice :=
  match directives? source with
  | .ok ds => noticesOf listener ds
  | .error _ => []

/-- The calls as one JSON value. -/
def callsJson (s : Script) : Json := .arr (s.calls.map Call.toJson)

end Script

end ChatQuery
