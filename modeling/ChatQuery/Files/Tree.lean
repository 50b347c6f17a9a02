import ChatQuery.Files

/-!
A tree of files in memory. Paths are followed step by step from the root or from the working
directory; every step must start in a directory.
-/
namespace ChatQuery

inductive Entry
  | file (bytes : ByteArray)
  | directory (entries : List (String × Entry))

/-- The entries of the root, and the names of the steps to the working directory. -/
structure FileTree where
  root : List (String × Entry)
  working : List String

/-- Where a path leads: the names of its steps, each with what is there, the last step first. -/
abbrev Trail : Type := List (String × Option Entry)

namespace FileTree

/-- A tree with nothing but its working directory. -/
def start : FileTree := ⟨[("work", .directory [])], ["work"]⟩

/-- What is at the end of a trail. The root is a directory. -/
def entry? (t : FileTree) : Trail → Option Entry
  | [] => some (.directory t.root)
  | step :: _ => step.2

def maxNameBytes : Nat := 255

def maxPathBytes : Nat := 4095

/-- Follows the steps of a path. -/
def walk (t : FileTree) (trail : Trail) : List String → Except FileError Trail
  | [] => .ok trail
  | name :: names =>
    match t.entry? trail with
    | none => .error .notFound
    | some (.file _) => .error .notADirectory
    | some (.directory entries) =>
      if name = "" ∨ name = "." then walk t trail names
      else if name = ".." then walk t trail.tail names
      else if maxNameBytes < name.utf8ByteSize then .error .nameTooLong
      else walk t ((name, entries.lookup name) :: trail) names

def locate (t : FileTree) (path : String) : Except FileError Trail :=
  if path = "" then .error .notFound
  else if maxPathBytes < path.utf8ByteSize then .error .nameTooLong
  else
    let names := (Path.parts path.toList).map String.ofList
    t.walk [] (if path.toList.head? = some '/' then names else t.working ++ names)

/-- The entries after something has been put where the names lead. -/
def putIn (e : Entry) : List String → List (String × Entry) → List (String × Entry)
  | [], entries => entries
  | [name], entries => (name, e) :: entries.filter (·.1 != name)
  | name :: names, entries =>
    let inner :=
      match entries.lookup name with
      | some (.directory inner) => inner
      | _ => []
    (name, .directory (putIn e names inner)) :: entries.filter (·.1 != name)

def put (t : FileTree) (trail : Trail) (e : Entry) : FileTree :=
  { t with root := putIn e (trail.reverse.map (·.1)) t.root }

def read (path : String) (t : FileTree) : Except FileError ByteArray :=
  match t.locate path with
  | .error e => .error e
  | .ok trail =>
    match t.entry? trail with
    | none => .error .notFound
    | some (.directory _) => .error .isADirectory
    | some (.file bytes) => .ok bytes

def writeBytes (path : String) (bytes : ByteArray) (t : FileTree) :
    Except FileError Unit × FileTree :=
  match t.locate path with
  | .error e => (.error e, t)
  | .ok trail =>
    match t.entry? trail with
    | some (.directory _) => (.error .isADirectory, t)
    | _ => (.ok (), t.put trail (.file bytes))

def createDirectory (path : String) (t : FileTree) : Except FileError Unit × FileTree :=
  match t.locate path with
  | .error e => (.error e, t)
  | .ok trail =>
    match t.entry? trail with
    | some _ => (.error .alreadyExists, t)
    | none => (.ok (), t.put trail (.directory []))

def isDirectory (path : String) (t : FileTree) : Bool :=
  match t.locate path with
  | .error _ => false
  | .ok trail =>
    match t.entry? trail with
    | some (.directory _) => true
    | _ => false

/-- The file operations, with the tree as their state. -/
def files : Files (StateM FileTree) where
  read path := do return read path (← get)
  write path text := modifyGet (writeBytes path text.toUTF8)
  createDirectory path := modifyGet (createDirectory path)
  isDirectory path := do return isDirectory path (← get)

end FileTree

end ChatQuery
