import ChatQuery.Event
import ChatQuery.Text.Hidden

/-!
Texts shown for inspection: in quotes, with escapes for quotes, backslashes and characters that
cannot be seen.
-/
namespace ChatQuery.Text

def shownChar (c : Char) : List Char :=
  match c with
  | '"' => ['\\', '"']
  | '\\' => ['\\', '\\']
  | '\n' => ['\\', 'n']
  | '\r' => ['\\', 'r']
  | '\t' => ['\\', 't']
  | '\x00' => ['\\', '0']
  | c =>
    if isHidden c then '\\' :: 'u' :: '{' :: Nat.toDigits 16 c.toNat ++ ['}'] else [c]

def shown (text : String) : String :=
  String.ofList ('"' :: text.toList.flatMap shownChar ++ ['"'])

def shownList (texts : List String) : String :=
  "[" ++ ", ".intercalate (texts.map shown) ++ "]"

end ChatQuery.Text

namespace ChatQuery.Subscription

/-- A subscription for inspection. Its listener is not shown. -/
def shown (s : Subscription) : String :=
  "ListenOptions \x7b include_events: " ++ Text.shownList s.events ++ ", .. \x7d"

end ChatQuery.Subscription
