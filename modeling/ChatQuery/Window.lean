import ChatQuery.Json

/-!
A window on the history of a channel: at most `limit` messages, older than `before`, newer than
`after`, or around a message.
-/
namespace ChatQuery

structure Window where
  limit : Nat
  before : Option String
  after : Option String
  around : Option String
  deriving DecidableEq

namespace Window

/-- A script that names no limit reads this many messages. -/
def standard : Window := ⟨50, none, none, none⟩

/-- Anchors that are absent are not written. -/
def anchor (name : String) (id : Option String) : List (String × Json) :=
  id.toList.map fun i => (name, .str i)

def toJson (w : Window) : Json :=
  .obj (("limit", .int w.limit) :: anchor "before" w.before ++ anchor "after" w.after ++
    anchor "around" w.around)

end Window

end ChatQuery
