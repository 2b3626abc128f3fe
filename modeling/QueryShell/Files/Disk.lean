import QueryShell.Program.Call
import QueryShell.Text.Cut
import QueryShell.Text.Utf8

/-
A file system in memory: files and directories below one directory, which is also the root. It
answers the calls that programs make to files, with the reasons that the operating system would give.
-/
namespace QueryShell

/-- Files and directories, each by the names on the way to it. -/
structure Disk where
  files : List (List String × List UInt8) := []
  directories : List (List String) := [[]]
deriving Repr

namespace Disk

/-! ## Reasons -/

def noSuchFile : String := "No such file or directory (os error 2)"
def alreadyExists : String := "File exists (os error 17)"
def notADirectory : String := "Not a directory (os error 20)"
def isADirectory : String := "Is a directory (os error 21)"

/-! ## Paths -/

/-- The names of a path. -/
def names (path : String) : List String :=
  (Text.cutAt '/' path.toList).map String.ofList

/-- Takes one step from a directory. -/
def step (d : Disk) (place : List String) (name : String) : Except String (List String) :=
  if name = "" ∨ name = "." then .ok place
  else if name = ".." then .ok place.dropLast
  else
    let next := place ++ [name]
    if d.directories.contains next then .ok next
    else if (d.files.lookup next).isSome then .error notADirectory
    else .error noSuchFile

/-- Where a path leads, and whether only a directory can be there. -/
def locate (d : Disk) (path : String) : Except String (List String × Bool) := do
  if path.isEmpty then throw noSuchFile
  let all := names path
  let named := all.filter (· ≠ "")
  let last := named.getLastD "."
  let parent ← named.dropLast.foldlM d.step []
  if last = "." ∨ last = ".." then return (← d.step parent last, true)
  else return (parent ++ [last], all.getLastD "" = "")

/-! ## Calls -/

/-- Looks at a path. -/
def read (d : Disk) (path : String) : Found :=
  match d.locate path with
  | .error _ => .nothing
  | .ok (place, onlyDirectory) =>
    if d.directories.contains place then .unreadable isADirectory
    else
      match d.files.lookup place with
      | some bytes => if onlyDirectory then .nothing else .bytes bytes
      | none => .nothing

/-- Puts bytes into a file. -/
def put (d : Disk) (path : String) (bytes : List UInt8) : Except String Disk := do
  let (place, onlyDirectory) ← d.locate path
  if onlyDirectory || d.directories.contains place then throw isADirectory
  else return { d with files := (place, bytes) :: d.files.filter (·.1 ≠ place) }

/-- Makes the directories on the way that are not there yet. -/
def makeFrom (d : Disk) (place : List String) : List String → Except String Disk
  | [] => .ok d
  | name :: rest =>
    match d.step place name with
    | .ok next => d.makeFrom next rest
    | .error reason =>
      let next := place ++ [name]
      if reason = noSuchFile then
        makeFrom { d with directories := next :: d.directories } next rest
      else .error (if rest.isEmpty then alreadyExists else notADirectory)

/-- Makes a directory and those above it. -/
def makeDirectory (d : Disk) (path : String) : Except String Disk :=
  d.makeFrom [] (names path)

/-- Puts bytes into a file and makes the directories on the way; where that fails, nothing changes. -/
def install (d : Disk) (path : String) (bytes : List UInt8) : Disk :=
  let above := ((names path).dropLast).map (· ++ "/")
  let d := (d.makeDirectory (String.join above)).toOption.getD d
  (d.put path bytes).toOption.getD d

/-- Does something that can fail. -/
def attempt (d : Disk) : Except String Disk → Except String Unit × Disk
  | .ok d => (.ok (), d)
  | .error reason => (.error reason, d)

/-- Answers a call. -/
def answer : (c : Files.Call) → Disk → c.Reply × Disk
  | .read path, d => (d.read path, d)
  | .makeDirectory path, d => d.attempt (d.makeDirectory path)
  | .write path contents, d => d.attempt (d.put path (Text.Utf8.bytes contents))

end Disk

end QueryShell
