import ChatQuery.Settings

/-!
Reading the arguments of a command line. Each command has its own options; options stand before or
after other arguments, and no argument after `--` is an option.
-/
namespace ChatQuery.CommandLine

/-- What to run a script with. -/
structure RunOptions where
  dryRun : Bool
  token : Option String
  guild : Option String
  channel : Option String
  keepOpen : Bool
  deriving DecidableEq

/-- What a command line asks for. -/
inductive Request
  | check (file : String)
  | run (file : String) (options : RunOptions)
  | showSettings
  | settingsPath
  | initSettings
  | help
  deriving DecidableEq

/-- What a command takes: switches, options with a value, files, and commands inside it. -/
structure Grammar where
  switches : List String
  options : List String
  files : Nat
  commands : List String
  hasVersion : Bool

/-- What has been read of the arguments of one command. -/
structure Reading where
  switches : List String
  values : List (String × String)
  files : List String

def Reading.empty : Reading := ⟨[], [], []⟩

/-- How reading the arguments of a command ends: with all of them read, or at a command inside. -/
inductive Ending
  | complete (r : Reading)
  | command (name : String) (rest : List String)
  | help

namespace Grammar

/-- A switch is given at most once. -/
def switch? (g : Grammar) (name : String) (r : Reading) : Option Reading :=
  if g.switches.contains name ∧ !r.switches.contains name then
    some { r with switches := name :: r.switches }
  else none

/-- An option is given at most once. -/
def option? (g : Grammar) (name value : String) (r : Reading) : Option Reading :=
  if g.options.contains name ∧ (r.values.lookup name).isNone then
    some { r with values := (name, value) :: r.values }
  else none

/-- A file has a name. -/
def file? (g : Grammar) (file : String) (r : Reading) : Option Reading :=
  if file ≠ "" ∧ r.files.length < g.files then some { r with files := r.files ++ [file] } else none

/-- The one-letter switches of one argument. -/
def letters? (g : Grammar) : List Char → Reading → Option (Reading ⊕ Unit)
  | [], r => some (.inl r)
  | 'v' :: cs, r => (g.switch? "verbose" r).bind (letters? g cs)
  | 'h' :: _, _ => some (.inr ())
  | 'V' :: _, _ => if g.hasVersion then some (.inr ()) else none
  | _ :: _, _ => none

def asksHelp (g : Grammar) (name : String) : Bool :=
  name = "help" ∨ (name = "version" ∧ g.hasVersion)

/-- An argument that begins with a hyphen is no value, unless it is nothing but the hyphen. -/
def isValue (argument : String) : Bool :=
  argument.toList.head? ≠ some '-' ∨ argument = "-"

/-- Reads the arguments of a command, as far as the next command inside it. An option that stands
apart from its value waits for the next argument. -/
def read? (g : Grammar) : Option String → List String → Reading → Option Ending
  | none, [], r => some (.complete r)
  | some _, [], _ => none
  | some name, argument :: rest, r =>
    if isValue argument then (g.option? name argument r).bind (read? g none rest) else none
  | none, argument :: rest, r =>
    match argument.toList with
    | ['-', '-'] => (rest.foldlM (fun r f => g.file? f r) r).map .complete
    | '-' :: '-' :: cs =>
      let name := String.ofList (cs.takeWhile (· ≠ '='))
      match cs.dropWhile (· ≠ '=') with
      | _ :: value => (g.option? name (String.ofList value) r).bind (read? g none rest)
      | [] =>
        if g.asksHelp name then some .help
        else if g.options.contains name then read? g (some name) rest r
        else (g.switch? name r).bind (read? g none rest)
    | '-' :: c :: cs =>
      match g.letters? (c :: cs) r with
      | none => none
      | some (.inl r) => read? g none rest r
      | some (.inr _) => some .help
    | _ =>
      if g.commands.contains argument then some (.command argument rest)
      else (g.file? argument r).bind (read? g none rest)

end Grammar

def top : Grammar := ⟨["verbose"], [], 0, ["check", "run", "config", "help"], true⟩

def check : Grammar := ⟨["verbose"], [], 1, [], false⟩

def run : Grammar :=
  ⟨["verbose", "dry-run", "keep-open"], ["token", "guild", "channel"], 1, [], false⟩

def config : Grammar := ⟨["verbose"], [], 0, ["show", "path", "init", "help"], false⟩

def plain : Grammar := ⟨["verbose"], [], 0, [], false⟩

/-- What help can be asked for about the settings: everything, or one command. -/
def configTopics : List (List String) := [] :: config.commands.map fun name => [name]

/-- What help can be asked for: everything, or a command by the names that lead to it. -/
def topics : List (List String) :=
  [] :: (top.commands.map fun name => [name]) ++ config.commands.map fun name => ["config", name]

/-- The arguments of a command with none inside it. -/
def final? (g : Grammar) (rest : List String) (request : Reading → Option Request) :
    Option Request :=
  match g.read? none rest .empty with
  | some (.complete r) => request r
  | some .help => some .help
  | _ => none

/-- The one file of a command. -/
def fileOf? (r : Reading) : Option String :=
  match r.files with
  | [file] => some file
  | _ => none

def checkRequest? (r : Reading) : Option Request := (fileOf? r).map .check

def runRequest? (r : Reading) : Option Request :=
  (fileOf? r).map fun file =>
    .run file ⟨r.switches.contains "dry-run", r.values.lookup "token", r.values.lookup "guild",
      r.values.lookup "channel", r.switches.contains "keep-open"⟩

def helpRequest? (topics : List (List String)) (names : List String) : Option Request :=
  if topics.contains names then some .help else none

def configRequest? (rest : List String) : Option Request :=
  match config.read? none rest .empty with
  | some (.command "show" rest) => final? plain rest fun _ => some .showSettings
  | some (.command "path" rest) => final? plain rest fun _ => some .settingsPath
  | some (.command "init" rest) => final? plain rest fun _ => some .initSettings
  | some (.command _ rest) => helpRequest? configTopics rest
  | some .help => some .help
  | _ => none

/-- What a command line asks for, if it is well-formed. -/
def request? (arguments : List String) : Option Request :=
  match top.read? none arguments .empty with
  | some (.command "check" rest) => final? check rest checkRequest?
  | some (.command "run" rest) => final? run rest runRequest?
  | some (.command "config" rest) => configRequest? rest
  | some (.command _ rest) => helpRequest? topics rest
  | some .help => some .help
  | _ => none

end ChatQuery.CommandLine
