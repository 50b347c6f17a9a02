import ChatQuery.Token

/-!
Why a script is refused. A diagnostic names the byte offset of what was rejected and the kind of
thing that was expected there; it can be shown under the line of the source text that it points to.
-/
namespace ChatQuery

structure Diagnostic where
  index : Nat
  kind : Kind
  deriving DecidableEq

namespace Diagnostic

def messageOf : Kind → String
  | .keyword _ => "Invalid keyword value / vague keyword annotation"
  | .mark .token => "Invalid bot token"
  | .mark .guild => "Invalid guild ID"
  | .mark .channel => "Invalid channel ID"
  | .mark .message => "Invalid message ID"
  | .mark .user => "Invalid user ID"
  | .literal .object => "Invalid JSON object"
  | .literal .number => "Invalid number"
  | _ => "Invalid keyword"

def message (d : Diagnostic) : String := messageOf d.kind

def describe (d : Diagnostic) : String := d.message ++ " at offset " ++ toString d.index

/-- Splits a text at a byte offset, or at its end if that comes first. -/
def splitAtByte : Nat → List Char → List Char × List Char
  | _, [] => ([], [])
  | 0, cs => ([], cs)
  | n + 1, c :: cs =>
    let (before, after) := splitAtByte (n + 1 - c.utf8Size) cs
    (c :: before, after)

/-- The characters of the last line. -/
def lastLine (cs : List Char) : List Char := (cs.reverse.takeWhile (· ≠ '\n')).reverse

/-- The line that the diagnostic points to, a caret under the character, and where that is. -/
def render (d : Diagnostic) (source : String) : String :=
  let (before, after) := splitAtByte d.index source.toList
  let column := (lastLine before).length
  let line := lastLine before ++ after.takeWhile (· ≠ '\n')
  String.ofList line ++ "\n" ++ String.ofList (List.replicate column ' ') ++ "^ " ++ d.message ++
    "\n  --> " ++ toString (before.count '\n' + 1) ++ ":" ++ toString (column + 1) ++
    " (" ++ toString d.index ++ ")"

end Diagnostic

end ChatQuery
