import ChatQuery.Files
import ChatQuery.Json.Printer
import ChatQuery.Json.Reader
import ChatQuery.Notice

/-!
Settings: what to connect with and to select when nothing else is said. There is one file of settings
per environment, and variables of the environment take precedence over it.
-/
namespace ChatQuery

/-- The variables that the program looks at. -/
structure Environment where
  home : Option String
  name : Option String
  token : Option String
  guild : Option String
  channel : Option String
  deriving DecidableEq

/-- The name of the environment, by which its file of settings is found. -/
def Environment.label (env : Environment) : String := env.name.getD "default"

structure Settings where
  token : Option String
  guildId : Option String
  channelId : Option String
  closeOnFinish : Bool
  envName : String
  deriving DecidableEq

namespace Settings

def standard (env : Environment) : Settings := ⟨none, none, none, true, env.label⟩

/-- Replaces what is given. -/
def override (s : Settings) (token guild channel : Option String) : Settings :=
  { s with
    token := token.or s.token
    guildId := guild.or s.guildId
    channelId := channel.or s.channelId }

def applyEnvironment (s : Settings) (env : Environment) : Settings :=
  s.override env.token env.guild env.channel

def toJson (s : Settings) : Json :=
  .obj [("token", .ofOption s.token), ("guild_id", .ofOption s.guildId),
    ("channel_id", .ofOption s.channelId), ("close_on_finish", .bool s.closeOnFinish),
    ("env_name", .str s.envName)]

def text (s : Settings) : String := s.toJson.pretty

/-- Settings as far as a file names them. -/
structure Draft where
  token : Option (Option String)
  guildId : Option (Option String)
  channelId : Option (Option String)
  closeOnFinish : Option Bool
  envName : Option String

namespace Draft

def empty : Draft := ⟨none, none, none, none, none⟩

def optionalText? : Json.Spelling → Option (Option String)
  | .null => some none
  | .string ps => (Json.text? ps).map some
  | _ => none

def text? : Json.Spelling → Option String
  | .string ps => Json.text? ps
  | _ => none

def flag? : Json.Spelling → Option Bool
  | .bool b => some b
  | _ => none

/-- Takes over a member of an object. A known name may be given once; unknown names are left out,
whatever their value is. -/
def member? (d : Draft) (name : String) (s : Json.Spelling) : Option Draft :=
  match name with
  | "token" =>
    if d.token.isSome then none else (optionalText? s).map fun v => { d with token := some v }
  | "guild_id" =>
    if d.guildId.isSome then none else (optionalText? s).map fun v => { d with guildId := some v }
  | "channel_id" =>
    if d.channelId.isSome then none
    else (optionalText? s).map fun v => { d with channelId := some v }
  | "close_on_finish" =>
    if d.closeOnFinish.isSome then none else (flag? s).map fun v => { d with closeOnFinish := some v }
  | "env_name" =>
    if d.envName.isSome then none else (text? s).map fun v => { d with envName := some v }
  | _ => some d

def members? (ms : List (List Json.Piece × Json.Spelling)) : Option Draft :=
  ms.foldlM (fun d m => (Json.text? m.1).bind (d.member? · m.2)) empty

/-- The names of the fields in the order in which a list gives them. -/
def names : List String := ["token", "guild_id", "channel_id", "close_on_finish", "env_name"]

/-- The fields of a list by their places. Fields at its end may be missing. -/
def items? (ss : List Json.Spelling) : Option Draft :=
  if names.length < ss.length then none
  else (names.zip ss).foldlM (fun d p => d.member? p.1 p.2) empty

/-- Fields that are not named have their standard values. -/
def fill (d : Draft) (env : Environment) : Settings where
  token := d.token.getD none
  guildId := d.guildId.getD none
  channelId := d.channelId.getD none
  closeOnFinish := d.closeOnFinish.getD true
  envName := d.envName.getD env.label

end Draft

/-- Settings are an object, or a list of its fields in order. -/
def ofText? (env : Environment) (text : String) : Option Settings :=
  match Json.Spelling.ofText? text with
  | some (.object ms) => (Draft.members? ms).map (·.fill env)
  | some (.array ss) => (Draft.items? ss).map (·.fill env)
  | _ => none

/-- The settings that a text holds; a malformed text stands for the standard ones. -/
def ofText (env : Environment) (text : String) : Settings :=
  (ofText? env text).getD (standard env)

def notices (env : Environment) (text : String) : List Notice :=
  if (ofText? env text).isSome then [] else [.malformedSettings]

/-- Where the settings of an environment are kept. -/
def path (env : Environment) : String :=
  Path.join (Path.join (Path.join (env.home.getD ".") ".dql") env.label) "config.json"

variable {m : Type → Type} [Monad m]

/-- The settings in effect. A file that cannot be read stands for the standard ones. -/
def load (files : Files m) (env : Environment) : m Settings := do
  let s ← match ← files.readText (path env) with
    | .ok text => pure (ofText env text)
    | .error _ => pure (standard env)
  return s.applyEnvironment env

def save (files : Files m) (env : Environment) (s : Settings) : m (Except FileError Unit) :=
  files.writeInside (path env) s.text

end Settings

end ChatQuery
