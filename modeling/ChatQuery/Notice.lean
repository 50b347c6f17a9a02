/-! Notices for the log. They report what went wrong without stopping anything. -/
namespace ChatQuery

inductive Notice
  | presenceShape (index values : Nat)
  | invalidGuild (id : String)
  | invalidChannel (id : String)
  | closeFailed
  | malformedSettings
  | queueCleared (discarded : Nat)
  deriving DecidableEq

namespace Notice

def message : Notice → String
  | .presenceShape _ _ => "PRESENCE expects a single JSON object; statement ignored"
  | .invalidGuild _ => "ignoring invalid guild ID"
  | .invalidChannel _ => "ignoring invalid channel ID"
  | .closeFailed => "failed to close connection"
  | .malformedSettings => "malformed config file, using defaults"
  | .queueCleared _ => "execution failed, call stack cleared"

/-- A failed execution is an error; everything else is a warning. -/
def isError : Notice → Bool
  | .queueCleared _ => true
  | _ => false

end Notice

end ChatQuery
