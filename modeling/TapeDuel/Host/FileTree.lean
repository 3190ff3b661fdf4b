import TapeDuel.Failure

/-!
# Files

A file tree holds files under paths from its root. A path is walked one component
after the other: every component but the last has to be a directory, even one that a
later `..` leaves again. A directory exists when it was made or when a file lies below
it.
-/

namespace TapeDuel

/-- Why a file cannot be read. -/
inductive FileFlaw where
  | missing
  /-- A component that is a file stands where a directory is needed. -/
  | notDirectory
  /-- The path leads to a directory. -/
  | isDirectory
  /-- The path holds a NUL, which no name has. -/
  | unnameable
  /-- The path or one of its components is too long. -/
  | tooLong
deriving DecidableEq, Repr

namespace FileFlaw

/-- The failure of reading a path as it was given. -/
def failure (path : String) : FileFlaw → Failure
  | missing => .missingFile s!"open {path}"
  | notDirectory => .plain s!"open {path}: not a directory"
  | isDirectory => .plain s!"read {path}: is a directory"
  | unnameable => .plain s!"open {path}: invalid argument"
  | tooLong => .plain s!"open {path}: file name too long"

end FileFlaw

/-- Files by the components of their paths, and directories that exist without them. -/
structure FileTree where
  files : List (List String × Text)
  directories : List (List String)

namespace FileTree

/-- The components of a path; the empty ones stand for slashes without a name between
them. -/
def components (path : String) : List String :=
  path.splitOn "/"

/-- Whether a path is reckoned from the root. -/
def isAbsolute (path : String) : Bool :=
  path.toList.head? = some '/'

/-- The content of a file. -/
def file? (tree : FileTree) (place : List String) : Option Text :=
  (tree.files.find? fun f => f.1 == place).map Prod.snd

/-- Whether a place is a directory. -/
def isDirectory (tree : FileTree) (place : List String) : Bool :=
  place.isEmpty || tree.directories.any (place.isPrefixOf ·)
    || tree.files.any fun f => place.isPrefixOf f.1 && place.length < f.1.length

/-- The most bytes of a component. -/
def maxName : Nat :=
  255

/-- The most bytes of a path. -/
def maxPath : Nat :=
  4095

/-- Walks from the directory `place`. -/
def walk (tree : FileTree) (place : List String) :
    List String → Except FileFlaw (List String)
  | [] => .ok place
  | name :: rest =>
    if name = "" || name = "." then walk tree place rest
    else if name = ".." then walk tree place.dropLast rest
    else if maxName < name.utf8ByteSize then .error .tooLong
    else
      let next := place ++ [name]
      if tree.isDirectory next then walk tree next rest
      else
        match tree.file? next with
        | none => .error .missing
        | some _ => if rest.isEmpty then .ok next else .error .notDirectory

/-- The place that a path leads to from the directory `place`. -/
def resolve (tree : FileTree) (place : List String) (path : String) :
    Except FileFlaw (List String) :=
  if path.toList.contains '\x00' then .error .unnameable
  else if path = "" then .error .missing
  else if maxPath < path.utf8ByteSize then .error .tooLong
  else tree.walk (if isAbsolute path then [] else place) (components path)

/-- Reads the file that a path leads to from the directory `place`. -/
def read (tree : FileTree) (place : List String) (path : String) :
    Except FileFlaw Text := do
  let found ← tree.resolve place path
  match tree.file? found with
  | some content => return content
  | none => throw .isDirectory

/-- Whether something stands at a path. -/
def holds (tree : FileTree) (place : List String) (path : String) : Bool :=
  (tree.resolve place path).isOk

/-- The tree with a file put in, in place of an older one. -/
def put (tree : FileTree) (place : List String) (content : Text) : FileTree :=
  { tree with files := (place, content) :: tree.files.filter fun f => f.1 != place }

end FileTree

end TapeDuel
