import ChatQuery.Gateway
import ChatQuery.Script

/-!
Sessions. A session queues the calls of scripts and makes them in order against a gateway, keeping
track of the connection and of what is selected. A call that fails empties the queue.
-/
namespace ChatQuery

/-- A call that failed, with the state of the session at that moment. -/
structure CallError where
  operation : Operation
  connected : Bool
  guildSelected : Bool
  channelSelected : Bool
  cause : Option GatewayError
  deriving DecidableEq

namespace CallError

def message (e : CallError) : String :=
  match e.cause with
  | some cause => cause.message
  | none => e.operation.name ++ " failed"

def describe (e : CallError) : String :=
  "error running " ++ e.operation.name ++ ": " ++ e.message ++ "\n  [STATE]\n  Client: " ++
    (if e.connected then "connected" else "not connected") ++ "\n  Guild: " ++
    (if e.guildSelected then "selected" else "not selected") ++ "\n  Channel: " ++
    (if e.channelSelected then "selected" else "not selected")

end CallError

/-- Why an execution stopped: a malformed token that was to be used, or a call that failed. -/
inductive Failure
  | script (d : Diagnostic)
  | call (e : CallError)
  deriving DecidableEq

namespace Failure

def describe : Failure → String
  | .script d => d.describe
  | .call e => e.describe

/-- The description with the kind of failure before it. -/
def labelled : Failure → String
  | .script d => "ParseError: " ++ d.describe
  | .call e => "RuntimeError: " ++ e.describe

end Failure

structure Session (σ : Type) where
  gateway : σ
  queue : List Call
  connected : Bool
  guild : Option String
  channel : Option String
  raw : Bool
  listener : Listener

/-- What to connect with and to select before the queue is worked off, and whether to close the
connection afterwards. -/
structure Arguments where
  token : Option String
  guild : Option String
  channel : Option String
  close : Bool

/-- What comes before the queue: calls, and notices about arguments that are left out. -/
inductive Step
  | call (c : Call)
  | notice (n : Notice)

/-- How an execution went: the values that queued calls were answered with, and the notices. -/
structure Execution (σ : Type) where
  result : Except Failure Unit
  reports : List (Operation × Json)
  notices : List Notice
  session : Session σ

/-- An execution that failed empties the queue. -/
def Execution.settle {σ : Type} (x : Execution σ) : Execution σ :=
  match x.result with
  | .ok _ => x
  | .error _ =>
    { x with
      notices := x.notices ++ [.queueCleared x.session.queue.length]
      session := { x.session with queue := [] } }

namespace Session

variable {σ : Type}

def start (gateway : σ) : Session σ := ⟨gateway, [], false, none, none, false, .discard⟩

/-- Queues the calls of a source text. If it does not compile, nothing changes. -/
def load (s : Session σ) (source : String) : Except Diagnostic (Session σ) :=
  (Script.compile? s.listener source).map fun script =>
    { s with queue := s.queue ++ script.calls, raw := s.raw ^^ (script.toggles % 2 == 1) }

/-- What a successful call changes: logins connect, and selections are remembered. -/
def remember (s : Session σ) : Call → Session σ
  | .login _ => { s with connected := true }
  | .selectGuild id => { s with guild := some id }
  | .selectChannel id => { s with channel := some id }
  | _ => s

def errorOf (s : Session σ) (c : Call) (cause : GatewayError) : CallError :=
  ⟨c.operation, s.connected, s.guild.isSome, s.channel.isSome, some cause⟩

def call (g : Gateway σ) (c : Call) (s : Session σ) : Except CallError Json × Session σ :=
  match g.call c s.gateway with
  | (.error e, gateway) => (.error (s.errorOf c e), { s with gateway })
  | (.ok v, gateway) => (.ok v, { s with gateway }.remember c)

/-- Takes the steps in order until a call fails. -/
def takeSteps (g : Gateway σ) :
    List Step → Session σ → Except CallError Unit × List Notice × Session σ
  | [], s => (.ok (), [], s)
  | .notice n :: steps, s =>
    let (r, ns, s) := takeSteps g steps s
    (r, n :: ns, s)
  | .call c :: steps, s =>
    match s.call g c with
    | (.error e, s) => (.error e, [], s)
    | (.ok _, s) => takeSteps g steps s

/-- Makes the calls of a queue in order until one fails. A call has left the queue when it is
made. -/
def drain (g : Gateway σ) :
    List Call → Session σ → Except CallError Unit × List (Operation × Json) × Session σ
  | [], s => (.ok (), [], { s with queue := [] })
  | c :: cs, s =>
    match { s with queue := cs }.call g c with
    | (.error e, s) => (.error e, [], s)
    | (.ok v, s) =>
      let (r, reports, s) := drain g cs s
      (r, (c.operation, v) :: reports, s)

/-- Whether a token is to be used: a session that is connected ignores it. -/
def login? (s : Session σ) (a : Arguments) : Option String := if s.connected then none else a.token

/-- Selects the identifiers that are given and well-formed, and reports the malformed ones. -/
def startSteps (s : Session σ) (a : Arguments) : List Step :=
  (s.login? a).toList.map (fun t => .call (.login t)) ++
    a.guild.toList.map (fun id =>
      if isSnowflake id then .call (.selectGuild id) else .notice (.invalidGuild id)) ++
    a.channel.toList.map fun id =>
      if isSnowflake id then .call (.selectChannel id) else .notice (.invalidChannel id)

/-- Connects and selects, then works off the queue. -/
def run (g : Gateway σ) (a : Arguments) (s : Session σ) : Execution σ :=
  if (s.login? a).any (!isBotToken ·) then ⟨.error (.script ⟨0, .mark .token⟩), [], [], s⟩
  else
    match s.takeSteps g (s.startSteps a) with
    | (.error e, notices, s) => ⟨.error (.call e), [], notices, s⟩
    | (.ok _, notices, s) =>
      match s.drain g s.queue with
      | (.error e, reports, s) => ⟨.error (.call e), reports, notices, s⟩
      | (.ok _, reports, s) => ⟨.ok (), reports, notices, s⟩

/-- Closes the connection. The selection is kept, for `reload`. -/
def close (g : Gateway σ) (s : Session σ) : List Notice × Session σ :=
  match g.destroy s.gateway with
  | (.error _, gateway) => ([.closeFailed], { s with gateway, connected := false })
  | (.ok _, gateway) => ([], { s with gateway, connected := false })

def execute (g : Gateway σ) (a : Arguments) (s : Session σ) : Execution σ :=
  let x := (s.run g a).settle
  if a.close then
    let (notices, session) := x.session.close g
    { x with notices := x.notices ++ notices, session }
  else x

/-- What restores a connection: the login with its token, and what was selected. -/
def reloadSteps (s : Session σ) (token : String) : List Step :=
  .call (.login token) :: (s.guild.toList.map fun id => .call (.selectGuild id)) ++
    s.channel.toList.map fun id => .call (.selectChannel id)

/-- Closes the connection and opens it again. Answers whether there was one. -/
def reload (g : Gateway σ) (s : Session σ) : Except CallError Bool × List Notice × Session σ :=
  match s.connected, g.token s.gateway with
  | true, some token =>
    let (closing, s) := s.close g
    match s.takeSteps g (s.reloadSteps token) with
    | (.error e, notices, s) => (.error e, closing ++ notices, s)
    | (.ok _, notices, s) => (.ok true, closing ++ notices, s)
  | _, _ => (.ok false, [], s)

end Session

end ChatQuery
