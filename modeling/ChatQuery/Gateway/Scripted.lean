import ChatQuery.Gateway

/-!
A gateway that answers each call with its name and number, fails where it is told to, and keeps a
record of the calls.
-/
namespace ChatQuery

/-- The `nth` call of an operation fails with the error. -/
structure PlannedFailure where
  operation : Operation
  nth : Nat
  error : GatewayError

structure Scripted where
  failures : List PlannedFailure
  destroyError : Option GatewayError
  hidesToken : Bool
  token : Option String
  calls : List Call
  destroyed : Nat

namespace Scripted

def start (failures : List PlannedFailure) (destroyError : Option GatewayError)
    (hidesToken : Bool) : Scripted :=
  ⟨failures, destroyError, hidesToken, none, [], 0⟩

/-- How many calls of an operation have been made. -/
def count (s : Scripted) (o : Operation) : Nat := s.calls.countP (·.operation = o)

def planned? (s : Scripted) (o : Operation) (n : Nat) : Option GatewayError :=
  (s.failures.find? fun f => f.operation = o && f.nth == n).map (·.error)

/-- A login that succeeds is remembered. -/
def call (c : Call) (s : Scripted) : Answer Scripted Json :=
  let n := s.count c.operation + 1
  let recorded := { s with calls := s.calls ++ [c] }
  match s.planned? c.operation n with
  | some e => (.error e, recorded)
  | none =>
    (.ok (.record [("command", .str c.operation.name), ("n", .int n)]),
      match c with
      | .login token => { recorded with token := some token }
      | _ => recorded)

def destroy (s : Scripted) : Answer Scripted Unit :=
  (match s.destroyError with
    | some e => .error e
    | none => .ok (),
   { s with token := none, destroyed := s.destroyed + 1 })

def gateway : Gateway Scripted :=
  ⟨fun s => if s.hidesToken then none else s.token, call, destroy⟩

end Scripted

end ChatQuery
