/-!
# Files

The files that counters are read from, as two functions: the text of a file and the names in a
directory. `FileTree` is a finite set of files and directories with these two functions; a
directory exists if it is listed or if something lies in it.
-/

namespace HostTelemetry

/-- The names from the root of a tree to one of its nodes. -/
abbrev Path := List String

def Path.text (p : Path) : String := "/".intercalate p

inductive FileError where
  | notFound
  | notADirectory
  | isADirectory
  | notText
deriving DecidableEq, Repr

def FileError.message : FileError → String
  | .notFound => "No such file or directory (os error 2)"
  | .notADirectory => "Not a directory (os error 20)"
  | .isADirectory => "Is a directory (os error 21)"
  | .notText => "stream did not contain valid UTF-8"

structure Files where
  read : Path → Except FileError String
  list : Path → Except FileError (List String)

structure FileTree where
  files : List (Path × ByteArray)
  directories : List Path

namespace FileTree

def content? (t : FileTree) (p : Path) : Option ByteArray := t.files.lookup p

/-- What lies in a directory, as paths that start at it. -/
def inside (t : FileTree) (p : Path) : List Path :=
  (t.files.map (·.1) ++ t.directories).filterMap fun q => p.isPrefixOf? q

/-- Whether a path is a directory: something is listed at or below it, and it is no file. -/
def isDirectory (t : FileTree) (p : Path) : Bool :=
  (t.content? p).isNone && !(t.inside p).isEmpty

/-- Why there is nothing at a path: a file stands in the way, or some name on it is missing. -/
def missing (t : FileTree) (p : Path) : FileError :=
  if t.files.any fun f => f.1.isPrefixOf p && f.1 != p then .notADirectory else .notFound

def read (t : FileTree) (p : Path) : Except FileError String :=
  match t.content? p with
  | some bytes =>
    match String.fromUTF8? bytes with
    | some s => .ok s
    | none => .error .notText
  | none => if t.isDirectory p then .error .isADirectory else .error (t.missing p)

def list (t : FileTree) (p : Path) : Except FileError (List String) :=
  if t.isDirectory p then .ok ((t.inside p).filterMap List.head?).eraseDups
  else if (t.content? p).isSome then .error .notADirectory
  else .error (t.missing p)

def toFiles (t : FileTree) : Files := ⟨t.read, t.list⟩

end FileTree

end HostTelemetry
