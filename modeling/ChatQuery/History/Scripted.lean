import ChatQuery.History

/-!
A source of messages that answers from prepared lists and keeps a record of what it was asked. Its
messages are their own identifiers.
-/
namespace ChatQuery

structure ScriptedSource where
  pages : List (Except GatewayError (List String))
  deletions : List (Option GatewayError)
  requests : List Window
  batches : List (List String)

namespace ScriptedSource

/-- Pages beyond the prepared ones are empty. -/
def fetch (w : Window) (s : ScriptedSource) : Answer ScriptedSource (List String) :=
  (s.pages.head?.getD (.ok []), { s with pages := s.pages.tail, requests := s.requests ++ [w] })

/-- Deletions beyond the prepared ones succeed. -/
def delete (ids : List String) (s : ScriptedSource) : Answer ScriptedSource Unit :=
  (match s.deletions.head?.join with
    | some e => .error e
    | none => .ok (),
   { s with deletions := s.deletions.tail, batches := s.batches ++ [ids] })

def source : MessageSource ScriptedSource String := ⟨id, fetch, delete⟩

end ScriptedSource

end ChatQuery
