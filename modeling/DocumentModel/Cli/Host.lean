/-!
# What a program sees of its host

The program reads text files and environment variables and knows its current directory. `Host` has
these as operations in a monad. `FileTree` is a host in memory: a directory, which is called its
root, with all that is in it.
-/

namespace DocumentModel

namespace Cli

/-- Why a file cannot be read. -/
inductive FileError
  | missing
  | notDirectory
  | isDirectory
  | nameTooLong
  | other (details : String)
  deriving DecidableEq, Repr

def FileError.message : FileError → String
  | .missing => "No such file or directory (os error 2)"
  | .notDirectory => "Not a directory (os error 20)"
  | .isDirectory => "Is a directory (os error 21)"
  | .nameTooLong => "File name too long (os error 36)"
  | .other details => details

structure Host (m : Type → Type) where
  /-- An absolute path. -/
  currentDirectory : m String
  isFile : String → m Bool
  readText : String → m (Except FileError String)
  lookUp? : String → m (Option String)

/-! ## Paths -/

/-- The parts of a path between slashes. -/
def splitPath (path : String) : List String := path.splitOn "/"

/-- A path and the paths of the directories it is in, the nearest first. -/
def ancestors (path : String) : List String :=
  let parts := splitPath path
  (List.range parts.length).map fun n =>
    match parts.take (parts.length - n) with
    | [""] => "/"
    | kept => "/".intercalate kept

/-- The path of a file in a directory. -/
def fileIn (directory name : String) : String :=
  if directory.endsWith "/" then directory ++ name else directory ++ "/" ++ name

/-! ## Files in memory -/

/-- Files and directories by the parts of their paths below the root. -/
structure FileTree where
  root : String
  files : List (List String × String)
  current : List String := []
  environment : List (String × String) := []

namespace FileTree

/-- What is at a path: the text of a file, or a directory. -/
inductive Item
  | file (text : String)
  | directory

def item? (t : FileTree) (path : List String) : Option Item :=
  match t.files.find? (·.1 = path) with
  | some file => some (.file file.2)
  | none =>
    if path.isPrefixOf t.current || t.files.any (path.isPrefixOf ·.1) then some .directory else none

def nameLimit : Nat := 255

/-- Follows the parts of a path from outside the root, where nothing but directories is known. -/
def followOutside (parts : List String) : Except FileError Item :=
  if parts.all fun p => p = "" || p = "." || p = ".." then .ok .directory else .error .missing

/-- Follows the parts of a path from a directory on. -/
def follow (t : FileTree) : List String → List String → Except FileError Item
  | _, [] => .ok .directory
  | here, part :: rest =>
    if part = "" || part = "." then follow t here rest
    else if part = ".." then
      if here.isEmpty then followOutside rest else follow t here.dropLast rest
    else if nameLimit < part.utf8ByteSize then .error .nameTooLong
    else match t.item? (here ++ [part]) with
      | none => .error .missing
      | some .directory => follow t (here ++ [part]) rest
      | some (.file text) => if rest.isEmpty then .ok (.file text) else .error .notDirectory

/-- What is at a path, which is relative to the current directory or starts with the root. -/
def find (t : FileTree) (path : String) : Except FileError Item :=
  let parts := splitPath path
  if path = "" then .error .missing
  else if parts.head? = some t.root then t.follow [] (parts.drop 1)
  else if parts.head? = some "" then followOutside parts
  else t.follow t.current parts

def readText (t : FileTree) (path : String) : Except FileError String :=
  match t.find path with
  | .ok (.file text) => .ok text
  | .ok .directory => .error .isDirectory
  | .error e => .error e

def host (t : FileTree) : Host Id where
  currentDirectory := "/".intercalate (t.root :: t.current)
  isFile path := (t.readText path) matches .ok _
  readText := t.readText
  lookUp? name := t.environment.lookup name

end FileTree

end Cli

end DocumentModel
