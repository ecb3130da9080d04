import Cuaderno.Fields
import Cuaderno.Fault
import Cuaderno.Text.Piece

/-!
# Files of a folder

A snapshot is read from a file, and may be written to one. Paths are taken from a folder that holds
files only. Empty steps of a path and steps to the same place count for nothing, and a step upwards
leads out of the folder, to a folder that shows nothing. Names and paths have a greatest length.
-/

namespace Cuaderno.CommandLine

inductive PathFault where
  | notFound
  /-- The path leads to a folder; the path is given without idle steps. -/
  | isFolder (path : String)
  /-- The path leads through a file; the path is given without idle steps. -/
  | throughFile (path : String)
  /-- A name or the whole path is too long; the path is given without idle steps. -/
  | tooLong (path : String)
  /-- The system refuses for a reason of its own. -/
  | refused (reason : String)
  deriving DecidableEq, Repr

def PathFault.message : PathFault → String
  | notFound => "[Errno 2] No such file or directory"
  | isFolder path => "[Errno 21] Is a directory: " ++ shownText path
  | throughFile path => "[Errno 20] Not a directory: " ++ shownText path
  | tooLong path => "[Errno 36] File name too long: " ++ shownText path
  | refused reason => reason

/-- A folder of files with their texts, by name. -/
structure Folder where
  files : List (String × String) := []
  deriving DecidableEq, Repr

namespace Folder

/-- The steps of a path, without idle ones. -/
def steps (path : String) : List String :=
  ((Text.cut '/' path.toList).map String.ofList).filter fun s => s != "" && s != "."

/-- What an absolute path starts with; nothing for any other path. Of slashes in front, two alone
are kept apart from one, and more than two are one. -/
def root (path : String) : String :=
  match path.toList with
  | ['/', '/'] => "//"
  | '/' :: '/' :: c :: _ => if c = '/' then "/" else "//"
  | '/' :: _ => "/"
  | _ => ""

def pathOf (root : String) (steps : List String) : String :=
  if root = "" && steps.isEmpty then "." else root ++ "/".intercalate steps

def maxName : Nat := 255

def maxPath : Nat := 4095

/-- The name in the folder that a path begins with, and the steps behind it. -/
def route (path : String) : Except PathFault (String × List String) :=
  let steps := steps path
  let whole := pathOf (root path) steps
  if maxPath < whole.utf8ByteSize then .error (.tooLong whole)
  else
    match steps.dropWhile (· == "..") with
    | [] => .error (.isFolder whole)
    | name :: rest =>
      if maxName < name.utf8ByteSize then .error (.tooLong whole)
      else if root path ≠ "" || steps.head? = some ".." then .error .notFound
      else .ok (name, rest)

/-- The name of the file that a path leads to, whether or not the file exists. -/
def place (f : Folder) (path : String) : Except PathFault String :=
  match route path with
  | .error e => .error e
  | .ok (name, []) => .ok name
  | .ok (name, _ :: _) =>
    if (f.files.lookup name).isSome then .error (.throughFile (pathOf (root path) (steps path)))
    else .error .notFound

def read (f : Folder) (path : String) : Except PathFault String :=
  match f.place path with
  | .ok name => (f.files.lookup name).elim (.error .notFound) .ok
  | .error e => .error e

def write (f : Folder) (path text : String) : Except PathFault Folder :=
  (f.place path).map fun name => ⟨Fields.put name text f.files⟩

end Folder

def withLineFeeds : List Char → List Char
  | '\r' :: '\n' :: cs => '\n' :: withLineFeeds cs
  | '\r' :: cs => '\n' :: withLineFeeds cs
  | c :: cs => c :: withLineFeeds cs
  | [] => []

end Cuaderno.CommandLine
