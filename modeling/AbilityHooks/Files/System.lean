import AbilityHooks.Files.Access

/-!
# File systems as values

A file system is a list of directories and files by their names from the root, with a working
directory where relative paths begin. Any step can be made to fail at any place, as on a full or
broken device or where a file may not be read.
-/

namespace AbilityHooks

/-- What stands at a place. -/
inductive FileEntry where
  | directory
  | file (bytes : ByteArray)

/-- The names from the root to a file or directory. -/
abbrev Location := List String

/-- The steps that can fail although nothing is wrong with the paths. -/
inductive FileStep where
  | read
  | createDirectory
  | createTemporary
  | append
  | flush
  | rename
  deriving DecidableEq, Repr

/-- Directories and files. -/
structure FileSystem where
  entries : List (Location × FileEntry)
  working : Location := []
  refuses : FileStep → Location → Option FileError := fun _ _ => none

namespace FileSystem

/-- What stands at a place. The root is always a directory. -/
def lookup? (system : FileSystem) (place : Location) : Option FileEntry :=
  if place = [] then some .directory
  else (system.entries.find? (·.1 == place)).map (·.2)

/-- The content of the file at a place. -/
def file? (system : FileSystem) (place : Location) : Option ByteArray :=
  match system.lookup? place with
  | some (.file bytes) => some bytes
  | _ => none

/-- Whether a directory stands at a place. -/
def isDirectory (system : FileSystem) (place : Location) : Bool :=
  match system.lookup? place with
  | some .directory => true
  | _ => false

/-- Put something at a place, in place of what stands there. -/
def put (system : FileSystem) (place : Location) (entry : FileEntry) : FileSystem :=
  { system with entries := (place, entry) :: system.entries.filter (·.1 != place) }

/-- Take away what stands at a place. -/
def erase (system : FileSystem) (place : Location) : FileSystem :=
  { system with entries := system.entries.filter (·.1 != place) }

/-- The place that one more segment leads to. The place before it must be a directory. -/
def step (system : FileSystem) (place : Location) (segment : String) :
    Except FileError Location :=
  match system.lookup? place with
  | none => .error .notFound
  | some (.file _) => .error .notDirectory
  | some .directory =>
    if segment == "" || segment == "." then .ok place
    else if segment == ".." then .ok place.dropLast
    else if 255 < segment.utf8ByteSize then .error .nameTooLong
    else .ok (place ++ [segment])

/-- The place where a path begins. -/
def start (system : FileSystem) (path : String) : Location :=
  if Path.isAbsolute path then [] else system.working

/-- The place of a path. Everything before its last segment must be there. -/
def locate (system : FileSystem) (path : String) : Except FileError Location :=
  if path.toList.contains '\x00' then .error .nulInName
  else if path == "" then .error .notFound
  else (Path.segments path).foldlM system.step (system.start path)

/-- The text of a file. -/
def read (system : FileSystem) (path : String) : Except FileError String :=
  match system.locate path with
  | .error failure => .error failure
  | .ok place =>
    match system.refuses .read place, system.lookup? place with
    | some failure, _ => .error failure
    | none, none => .error .notFound
    | none, some .directory => .error .isDirectory
    | none, some (.file bytes) =>
      match String.fromUTF8? bytes with
      | some text => .ok text
      | none => .error .notText

/-- Go down a list of segments and make a directory wherever nothing is there. What was made
stays when a later segment cannot be passed or its directory is refused. -/
def makeBelow (system : FileSystem) (place : Location) :
    List String → FileSystem × Except FileError Location
  | [] => (system, .ok place)
  | segment :: rest =>
    match system.step place segment with
    | .error failure => (system, .error failure)
    | .ok next =>
      match system.lookup? next with
      | some _ => system.makeBelow next rest
      | none =>
        match system.refuses .createDirectory next with
        | some failure => (system, .error failure)
        | none => (system.put next .directory).makeBelow next rest

/-- Make a directory and whatever is missing above it. -/
def createDirectories (system : FileSystem) (path : String) :
    FileSystem × Except FileError Unit :=
  if path.toList.contains '\x00' then (system, .error .nulInName)
  else
    match system.makeBelow (system.start path) (Path.segments path) with
    | (made, .error failure) => (made, .error failure)
    | (made, .ok place) =>
      (made, if made.isDirectory place then .ok () else .error .alreadyExists)

/-- A name for a new file, by its number. -/
def temporaryName (number : Nat) : String := ".tmp" ++ number.repr

/-- The first of the names for new files that nothing in a directory has. There is none if a
directory is so full that all names that are tried are in use. -/
def unusedName? (system : FileSystem) (directory : Location) : Option String :=
  ((List.range (min (system.entries.length + 1) 0x80000000)).map temporaryName).find? fun name =>
    (system.lookup? (directory ++ [name])).isNone

/-- Make an empty file with an unused name in a directory. -/
def createTemporary (system : FileSystem) (directory : String) :
    FileSystem × Except FileError String :=
  match system.locate (directory ++ "/") with
  | .error failure => (system, .error failure)
  | .ok place =>
    match system.refuses .createTemporary place, system.unusedName? place with
    | some failure, _ => (system, .error failure)
    | none, none => (system, .error (.other "too many temporary files exist"))
    | none, some name =>
      (system.put (place ++ [name]) (.file .empty), .ok (directory ++ "/" ++ name))

/-- Write a text at the end of a file. If only the flush is refused, the text is in the file
although the operation fails. -/
def append (system : FileSystem) (path text : String) : FileSystem × Except FileError Unit :=
  match system.locate path with
  | .error failure => (system, .error failure)
  | .ok place =>
    match system.refuses .append place, system.lookup? place with
    | some failure, _ => (system, .error failure)
    | none, none => (system, .error .notFound)
    | none, some .directory => (system, .error .isDirectory)
    | none, some (.file bytes) =>
      let written := system.put place (.file (bytes ++ text.toUTF8))
      match system.refuses .flush place with
      | some failure => (written, .error failure)
      | none => (written, .ok ())

/-- Whether the last segment of a path names something: a root, a point or two points
cannot be given away. -/
def namesEntry (path : String) : Bool :=
  match (Path.segments path).getLast? with
  | some segment => segment != "" && segment != "." && segment != ".."
  | none => false

/-- Give a file another path, in place of a file that has it. -/
def rename (system : FileSystem) (source target : String) : FileSystem × Except FileError Unit :=
  match system.locate source, system.locate target with
  | .error failure, _ => (system, .error failure)
  | _, .error failure => (system, .error failure)
  | .ok here, .ok there =>
    if !namesEntry target then (system, .error .busy)
    else
      match system.refuses .rename there, system.lookup? here with
      | some failure, _ => (system, .error failure)
      | none, some (.file bytes) =>
        if system.isDirectory there then (system, .error .isDirectory)
        else ((system.erase here).put there (.file bytes), .ok ())
      | none, _ => (system, .error .notFound)

/-- Take a file away, if it is there. -/
def remove (system : FileSystem) (path : String) : FileSystem :=
  match system.locate path with
  | .ok place => if (system.file? place).isSome then system.erase place else system
  | .error _ => system

/-- Operations on a file system that is a state. -/
def access : FileAccess (StateM FileSystem) where
  read path := fun system => (system.read path, system)
  createDirectories path := fun system => (system.createDirectories path).swap
  createTemporary directory := fun system => (system.createTemporary directory).swap
  append path text := fun system => (system.append path text).swap
  rename source target := fun system => (system.rename source target).swap
  remove path := fun system => ((), system.remove path)

end FileSystem

end AbilityHooks
