/-!
Files as the program sees them: a few operations in a monad, each of which may fail with an error of
the operating system. Directories are created together with the ones they stand in.
-/
namespace ChatQuery

inductive FileError
  | notFound | permissionDenied | alreadyExists | notADirectory | isADirectory | nameTooLong
  | notText
  | other (code : Nat) (text : String)
  deriving DecidableEq

namespace FileError

def kind : FileError → String
  | .notFound => "NotFound"
  | .permissionDenied => "PermissionDenied"
  | .alreadyExists => "AlreadyExists"
  | .notADirectory => "NotADirectory"
  | .isADirectory => "IsADirectory"
  | .nameTooLong => "InvalidFilename"
  | .notText => "InvalidData"
  | .other _ _ => "Uncategorized"

/-- The number and the text of the operating system. -/
def system? : FileError → Option (Nat × String)
  | .notFound => some (2, "No such file or directory")
  | .permissionDenied => some (13, "Permission denied")
  | .alreadyExists => some (17, "File exists")
  | .notADirectory => some (20, "Not a directory")
  | .isADirectory => some (21, "Is a directory")
  | .nameTooLong => some (36, "File name too long")
  | .notText => none
  | .other code text => some (code, text)

/-- How an error that ends the program is shown. -/
def describe (e : FileError) : String :=
  match e.system? with
  | some (code, text) =>
    "Error: IO(Os \x7b code: " ++ toString code ++ ", kind: " ++ e.kind ++ ", message: \"" ++ text ++
      "\" \x7d)"
  | none =>
    "Error: IO(Error \x7b kind: " ++ e.kind ++
      ", message: \"stream did not contain valid UTF-8\" \x7d)"

end FileError

/-- The operations on files. `createDirectory` creates one directory in one that is there. -/
structure Files (m : Type → Type) where
  read : String → m (Except FileError ByteArray)
  write : String → String → m (Except FileError Unit)
  createDirectory : String → m (Except FileError Unit)
  isDirectory : String → m Bool

namespace Path

/-- Joins a path and what comes after it. An absolute path replaces what is before it. -/
def join (base part : String) : String :=
  if part.toList.head? = some '/' then part
  else if base = "" ∨ base.toList.getLast? = some '/' then base ++ part
  else base ++ "/" ++ part

/-- Cuts a path at its slashes. -/
def parts : List Char → List (List Char)
  | [] => [[]]
  | '/' :: cs => [] :: parts cs
  | c :: cs =>
    match parts cs with
    | [] => [[c]]
    | p :: ps => (c :: p) :: ps

/-- Parts that name no step. -/
def isIdle (part : List Char) : Bool := part = [] ∨ part = ['.']

/-- The texts of a path up to the end of each part that names a step, after the text that is done. -/
def steps (done : List Char) : List (List Char) → List (List Char)
  | [] => []
  | part :: rest =>
    let text := done ++ part
    if isIdle part then steps (text ++ ['/']) rest else text :: steps (text ++ ['/']) rest

/-- The directories that a path goes through, its own directory last, as the path writes them. -/
def directories (path : String) : List String :=
  (steps [] (parts path.toList)).dropLast.map String.ofList

end Path

namespace Files

variable {m : Type → Type} [Monad m]

/-- The text of a file, which must be UTF-8. -/
def readText (files : Files m) (path : String) : m (Except FileError String) := do
  match ← files.read path with
  | .error e => return .error e
  | .ok bytes =>
    match String.fromUTF8? bytes with
    | some text => return .ok text
    | none => return .error .notText

/-- Something that is no file to read may still be a directory. -/
def isThere (files : Files m) (path : String) : m Bool := do
  match ← files.read path with
  | .ok _ => return true
  | .error _ => files.isDirectory path

/-- Creates the first of a list of directories in the second, that one in the third, and so on.
Directories that are there already are left alone. -/
def createFrom (files : Files m) : List String → m (Except FileError Unit)
  | [] => return .ok ()
  | path :: outer => do
    match ← files.createDirectory path with
    | .ok _ => return .ok ()
    | .error .notFound =>
      match ← createFrom files outer with
      | .error e => return .error e
      | .ok _ =>
        match ← files.createDirectory path with
        | .ok _ => return .ok ()
        | .error e => return if ← files.isDirectory path then .ok () else .error e
    | .error e => return if ← files.isDirectory path then .ok () else .error e

/-- Writes a file and creates the directories it stands in. -/
def writeInside (files : Files m) (path text : String) : m (Except FileError Unit) := do
  match ← files.createFrom (Path.directories path).reverse with
  | .error e => return .error e
  | .ok _ => files.write path text

end Files

end ChatQuery
