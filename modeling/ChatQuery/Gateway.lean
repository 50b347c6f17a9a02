import ChatQuery.Call

/-!
The boundary to the platform. A gateway is any machine that answers each call with a value or an
error and may change its state in doing so.
-/
namespace ChatQuery

inductive GatewayError
  | notConnected
  | noGuildSelected
  | noChannelSelected
  | invalidId (what id : String)
  | notFound (what id : String)
  | api (status : Nat) (text : String)
  | other (text : String)
  deriving DecidableEq

def GatewayError.message : GatewayError → String
  | .notConnected => "client is not connected"
  | .noGuildSelected => "no guild selected"
  | .noChannelSelected => "no channel selected"
  | .invalidId what id => "invalid " ++ what ++ " ID: " ++ id
  | .notFound what id => what ++ " " ++ id ++ " not found"
  | .api status text => "API error " ++ toString status ++ ": " ++ text
  | .other text => text

/-- What a step over a state answers, and the state after it. -/
abbrev Answer (σ α : Type) : Type := Except GatewayError α × σ

/-- A platform with states `σ`. `token` is the token of the connection, if there is one. -/
structure Gateway (σ : Type) where
  token : σ → Option String
  call : Call → σ → Answer σ Json
  destroy : σ → Answer σ Unit

end ChatQuery
