import ChatQuery.CommandLine
import ChatQuery.Gateway.Offline
import ChatQuery.Session

/-!
The program: checks a script, runs it against the offline gateway, or manages the settings. What it
writes and its exit code are values; only the files are reached through operations.
-/
namespace ChatQuery.CommandLine

/-- What a run of the program writes, and its exit code. -/
structure Outcome where
  code : Nat
  out : String
  err : String
  deriving DecidableEq

namespace Outcome

def success (out : String) : Outcome := ⟨0, out, ""⟩

def failure (err : String) : Outcome := ⟨1, "", err⟩

/-- A command line that is not well-formed. -/
def usage : Outcome := ⟨2, "", "Usage: dql [OPTIONS] <COMMAND>\n"⟩

end Outcome

variable {m : Type → Type} [Monad m]

/-- Why a script was refused, with the file it stands in. -/
def refusal (file source : String) (d : Diagnostic) : Outcome :=
  .failure (file ++ ": " ++ d.render source ++ "\n")

def checkSource (file source : String) : Outcome :=
  match Script.compile? .discard source with
  | .ok script => .success (script.callsJson.pretty ++ "\n")
  | .error d => refusal file source d

def checkFile (files : Files m) (file : String) : m Outcome := do
  match ← files.readText file with
  | .error e => return .failure (e.describe ++ "\n")
  | .ok source => return checkSource file source

/-- The line or lines that report the answer to a call. -/
def report (raw : Bool) (r : Operation × Json) : String :=
  let line : Json := .record [("command", .str r.1.name), ("result", r.2)]
  (if raw then line.compact else line.pretty) ++ "\n"

def runSource (file source : String) (settings : Settings) (options : RunOptions) : Outcome :=
  match (Session.start Offline.start).load source with
  | .error d => refusal file source d
  | .ok session =>
    let s := settings.override options.token options.guild options.channel
    let x := session.execute Offline.gateway
      ⟨s.token, s.guildId, s.channelId, s.closeOnFinish && !options.keepOpen⟩
    let out := String.join (x.reports.map (report session.raw))
    match x.result with
    | .ok _ => .success out
    | .error f => ⟨1, out, f.describe ++ "\n"⟩

def noLiveGateway : String :=
  "No live gateway is built into this binary. Pass --dry-run to use the in-memory gateway.\n"

def runFile (files : Files m) (env : Environment) (file : String) (options : RunOptions) :
    m Outcome := do
  if !options.dryRun then return .failure noLiveGateway
  let settings ← Settings.load files env
  match ← files.readText file with
  | .error e => return .failure (e.describe ++ "\n")
  | .ok source => return runSource file source settings options

def initSettings (files : Files m) (env : Environment) : m Outcome := do
  let path := Settings.path env
  if ← files.isThere path then
    return .success ("Config file already exists at: " ++ path ++ "\n")
  match ← Settings.save files env (Settings.standard env) with
  | .error e => return .failure (e.describe ++ "\n")
  | .ok _ => return .success ("Initialized new config file at: " ++ path ++ "\n")

def answer (files : Files m) (env : Environment) : Request → m Outcome
  | .check file => checkFile files file
  | .run file options => runFile files env file options
  | .showSettings => do return .success ((← Settings.load files env).text ++ "\n")
  | .settingsPath => return .success (Settings.path env ++ "\n")
  | .initSettings => initSettings files env
  | .help => return .success Outcome.usage.err

/-- A run of the program. -/
def program (files : Files m) (env : Environment) (arguments : List String) : m Outcome :=
  match request? arguments with
  | none => return .usage
  | some request => answer files env request

end ChatQuery.CommandLine
