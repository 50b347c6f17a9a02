import ChatQuery.CommandLine.Program

/-! The program on the files and the environment of the operating system. -/
namespace ChatQuery.CommandLine

/-- The error that the operating system reports. -/
def fileErrorOf : IO.Error → FileError
  | .noFileOrDirectory .. => .notFound
  | .noSuchThing .. => .notFound
  | .permissionDenied .. => .permissionDenied
  | .alreadyExists .. => .alreadyExists
  | .invalidArgument _ 36 _ => .nameTooLong
  | .inappropriateType _ _ "not a directory" => .notADirectory
  | .inappropriateType _ _ "is a directory" => .isADirectory
  | e => .other 0 (toString e)

def attempt {α : Type} (action : IO α) : IO (Except FileError α) := do
  match ← action.toBaseIO with
  | .ok a => return .ok a
  | .error e => return .error (fileErrorOf e)

/-- A path is a directory if there is something at the step into it. -/
def systemFiles : Files IO where
  read path := attempt (IO.FS.readBinFile path)
  write path text := attempt (IO.FS.writeFile path text)
  createDirectory path := attempt (IO.FS.createDir path)
  isDirectory path := do
    match ← attempt (IO.FS.createDir (path ++ "/.")) with
    | .error .alreadyExists => return true
    | _ => return false

def systemEnvironment : IO Environment := do
  return ⟨← IO.getEnv "HOME", ← IO.getEnv "DQL_ENV", ← IO.getEnv "DQL_TOKEN",
    ← IO.getEnv "DQL_GUILD", ← IO.getEnv "DQL_CHANNEL"⟩

end ChatQuery.CommandLine

def main (arguments : List String) : IO UInt32 := do
  let env ← ChatQuery.CommandLine.systemEnvironment
  let outcome ←
    ChatQuery.CommandLine.program ChatQuery.CommandLine.systemFiles env arguments
  (← IO.getStdout).putStr outcome.out
  (← IO.getStderr).putStr outcome.err
  return outcome.code.toUInt32
