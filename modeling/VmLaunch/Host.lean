import VmLaunch.Text.Pieces

/-!
# The host

A run sees the machine that it runs on as variables, files and directories. A path is
followed name by name, from the root or from the working directory, and every place on
the way must be a directory: a step up leads nowhere from a file, nor from a place
where nothing is. Where its user is at home a host tells itself, by whatever it knows
of the user beside the variables.
-/

namespace VmLaunch

/-- A place on a host: the names that lead to it from the root. -/
abbrev Place := List String

/-- Why a host refuses a path. -/
inductive FileError where
  | missing
  | occupied
  | notDirectory
  | directory
  | longName
  deriving DecidableEq, Inhabited

/-- The wording of an error. -/
def FileError.message : FileError → String
  | .missing => "No such file or directory (os error 2)"
  | .occupied => "File exists (os error 17)"
  | .notDirectory => "Not a directory (os error 20)"
  | .directory => "Is a directory (os error 21)"
  | .longName => "File name too long (os error 36)"

namespace Host

/-- Whether a path begins at the root. -/
def isAbsolute (path : String) : Bool :=
  Text.startsWith path "/"

/-- Whether a path ends with the mark of a directory. -/
def endsOpen (path : String) : Bool :=
  path.toList.getLast? == some '/'

/-- A path that is taken from a directory. -/
def within (directory path : String) : String :=
  if isAbsolute path then path
  else if directory == "" || endsOpen directory then directory ++ path
  else directory ++ "/" ++ path

end Host

/-- The directories of a user: where the user is at home, and where what programs keep for the user
lies. -/
structure UserDirectories where
  home? : Option String
  config? : Option String
  deriving DecidableEq, Inhabited

/-- The directories of a user by convention, as far as variables name them. -/
def UserDirectories.ofVariables (environment : List (String × String)) : UserDirectories :=
  let home? := (environment.lookup "HOME").filter (· != "")
  let config? := (environment.lookup "XDG_CONFIG_HOME").filter Host.isAbsolute
  { home?, config? := config?.or (home?.map fun home => Host.within home ".config") }

/-- Environment variables, files and directories. The working directory and whatever
leads to it, to a file or to one of `directories` is a directory too. What `locate` makes
of the variables is up to the system: it may know a user of whom no variable tells. -/
structure Host where
  environment : List (String × String)
  directory : Place
  files : List (Place × String)
  directories : List Place := []
  locate : List (String × String) → UserDirectories := UserDirectories.ofVariables
  deriving Inhabited

/-- A change of the host. What was done before a change failed stays done. -/
abbrev Change (ε α : Type) := EStateM ε Host α

namespace Host

/-- The value of a variable. -/
def valueOf? (host : Host) (name : String) : Option String :=
  host.environment.lookup name

/-- The names on a path. -/
def names (path : String) : List String :=
  (Text.pieces '/' path).filter (· != "")

/-- The names on the way to what a path names. -/
def parentNames (path : String) : List String :=
  ((names path).filter (· != ".")).dropLast

/-- Whether a place is a directory. -/
def isDirectory (host : Host) (place : Place) : Bool :=
  place.isPrefixOf host.directory ||
    host.directories.any (fun directory => place.isPrefixOf directory) ||
    host.files.any fun file => place.isPrefixOf file.1.dropLast

/-- The text of the file at a place. -/
def textAt? (host : Host) (place : Place) : Option String :=
  host.files.lookup place

/-- Where a path begins. -/
def start (host : Host) (path : String) : Place :=
  if isAbsolute path then [] else host.directory

/-- Where a name leads to from a directory. -/
def follow (place : Place) (name : String) : Place :=
  if name == "." then place
  else if name == ".." then place.dropLast
  else place ++ [name]

/-- Whether a name has more bytes than a file may bear. -/
def isLongName (name : String) : Bool :=
  decide (255 < name.utf8ByteSize)

/-- Go on from a place by a name. -/
def step (host : Host) (place : Place) (name : String) : Except FileError Place :=
  if host.isDirectory place then
    if isLongName name then .error .longName else .ok (follow place name)
  else if (host.textAt? place).isSome then .error .notDirectory
  else .error .missing

/-- The place of the file that a path names, whether or not there is one. -/
def filePlace (host : Host) (path : String) : Except FileError Place := do
  let place ← (names path).foldlM host.step (host.start path)
  if endsOpen path || host.isDirectory place then .error .directory else .ok place

/-- The text of the file that a path names. -/
def read? (host : Host) (path : String) : Option String :=
  match host.filePlace path with
  | .ok place => host.textAt? place
  | .error _ => none

/-- The host with a file at a place. -/
def put (host : Host) (place : Place) (text : String) : Host :=
  { host with files := (place, text) :: host.files.filter fun file => file.1 != place }

/-- Make directories where names lead to from a directory. -/
def makeDirectories : Place → List String → Change FileError Unit
  | _, [] => pure ()
  | place, name :: rest => do
    let host ← get
    let next := follow place name
    if isLongName name then throw .longName
    else if host.isDirectory next then makeDirectories next rest
    else if (host.textAt? next).isSome then
      throw (if rest.isEmpty then .occupied else .notDirectory)
    else
      set { host with directories := next :: host.directories }
      makeDirectories next rest

/-- Make the directory of a file; the place of the file. -/
def prepare (path : String) : Change FileError Place := do
  makeDirectories ((← get).start path) (parentNames path)
  match (← get).filePlace path with
  | .ok place => return place
  | .error cause => throw cause

/-- Write a file. -/
def write (path text : String) : Change FileError Unit := do
  let place ← prepare path
  modify (·.put place text)

/-- Write a text at the end of a file, which need not be there before. -/
def append (path text : String) : Change FileError Unit := do
  let place ← prepare path
  modify fun host => host.put place ((host.textAt? place).getD "" ++ text)

/-- The directory in which the user is at home. -/
def homeDirectory? (host : Host) : Option String :=
  (host.locate host.environment).home?

/-- The directory of the user's configuration. -/
def configDirectory? (host : Host) : Option String :=
  (host.locate host.environment).config?

end Host

end VmLaunch
