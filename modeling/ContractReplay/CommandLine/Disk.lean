/-!
# Disks

Commands read and write whole text files through a disk, which may be the one of
the machine or one that is kept in memory.  A disk in memory has a directory for
every proper beginning of the path of a file, and those that its working
directory is in.

A path is followed from name to name.  The first name that does not lead on says
why the path leads nowhere, so a path may have several faults and still fail for
one of them only.
-/

namespace ContractReplay.CommandLine

/-- Why a file could not be read or written. -/
inductive DiskError where
  | notFound
  | notDirectory
  | isDirectory
  | nameTooLong
  | zeroInName
  | notText
  | other (words : String)
deriving DecidableEq

/-- The words for why a file could not be read or written. -/
def DiskError.message : DiskError → String
  | .notFound => "No such file or directory (os error 2)"
  | .notDirectory => "Not a directory (os error 20)"
  | .isDirectory => "Is a directory (os error 21)"
  | .nameTooLong => "File name too long (os error 36)"
  | .zeroInName => "file name contained an unexpected NUL byte"
  | .notText => "stream did not contain valid UTF-8"
  | .other words => words

/-- Reading and writing of whole text files. -/
structure Disk (m : Type → Type) where
  read : String → m (Except DiskError String)
  write : String → String → m (Except DiskError Unit)

/-! ## Routes -/

/-- The most bytes that a name in a path may have. -/
def longestName : Nat := 255

/-- The most bytes that a path may have. -/
def longestPath : Nat := 4095

/-- A path as it is followed: whether it starts at the root, the names of the directories that it
passes, the name that it ends at, and whether slashes come after that name. -/
structure Route where
  fromRoot : Bool
  passed : List String
  last : String
  endsWithSlash : Bool
deriving DecidableEq

/-- The route of a path.  Slashes next to one another count as one, and a path of slashes alone
ends where it starts. -/
def Route.ofPath (path : String) : Except DiskError Route :=
  let names := (path.splitOn "/").filter (· != "")
  if path.toList.contains '\x00' then .error .zeroInName
  else if path.isEmpty then .error .notFound
  else if longestPath < path.utf8ByteSize then .error .nameTooLong
  else .ok ⟨path.startsWith "/", names.dropLast, names.getLast?.getD ".", path.endsWith "/"⟩

/-! ## A disk in memory -/

/-- The files of a disk in memory: the names on the way from the root to the working directory and
to each file, and the contents of the files. -/
structure Files where
  workingDirectory : List String
  entries : List (List String × String)

namespace Files

/-- What a name in a directory leads to. -/
inductive Place where
  | file (path : List String) (contents : String)
  | directory (path : List String)
  | vacant (path : List String)

/-- The contents of the file with a path. -/
def contents? (files : Files) (path : List String) : Option String :=
  files.entries.lookup path

/-- Whether a path is that of a directory. -/
def isDirectory (files : Files) (path : List String) : Bool :=
  path.isPrefixOf files.workingDirectory ||
    files.entries.any fun entry => path.isPrefixOf entry.1 && path != entry.1

/-- What a name leads to from a directory; the root is the directory above itself. -/
def enter (files : Files) (directory : List String) (name : String) : Except DiskError Place :=
  if name = "." then .ok (.directory directory)
  else if name = ".." then .ok (.directory directory.dropLast)
  else if longestName < name.utf8ByteSize then .error .nameTooLong
  else
    let path := directory ++ [name]
    match files.contents? path with
    | some contents => .ok (.file path contents)
    | none => .ok (if files.isDirectory path then .directory path else .vacant path)

/-- The directory to which some names lead one after the other. -/
def descend (files : Files) (directory : List String) :
    List String → Except DiskError (List String)
  | [] => .ok directory
  | name :: later =>
    match files.enter directory name with
    | .error failure => .error failure
    | .ok (.directory inner) => descend files inner later
    | .ok (.file _ _) => .error .notDirectory
    | .ok (.vacant _) => .error .notFound

/-- The directory in which the last name of a route is looked up. -/
def lastDirectory (files : Files) (route : Route) : Except DiskError (List String) :=
  files.descend (if route.fromRoot then [] else files.workingDirectory) route.passed

/-- The contents of a file.  Nothing but a directory can have slashes after its name. -/
def read (files : Files) (path : String) : Except DiskError String := do
  let route ← Route.ofPath path
  let directory ← files.lastDirectory route
  match ← files.enter directory route.last with
  | .file _ contents => if route.endsWithSlash then throw .notDirectory else return contents
  | .directory _ => throw .isDirectory
  | .vacant _ => throw .notFound

/-- The files after one is written, anew or in the place of an old one.  Slashes at the end of the
path are refused before the last name is looked up. -/
def write (files : Files) (path contents : String) : Except DiskError Files := do
  let route ← Route.ofPath path
  let directory ← files.lastDirectory route
  if route.endsWithSlash then throw .isDirectory
  match ← files.enter directory route.last with
  | .directory _ => throw .isDirectory
  | .file written _ | .vacant written =>
    return { files with
      entries := (written, contents) :: files.entries.filter (·.1 != written) }

end Files

/-- The disk in memory, as a state that writing changes. -/
def memoryDisk : Disk (StateM Files) where
  read := fun path files => (files.read path, files)
  write := fun path contents files =>
    match files.write path contents with
    | .ok changed => (.ok (), changed)
    | .error failure => (.error failure, files)

end ContractReplay.CommandLine
