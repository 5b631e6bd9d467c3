import Phrasebook.Files.Path

/-!
# File systems

A file system is a tree of directories and regular files, kept as the list of its nodes by
location, together with the working directory in which relative paths start. Paths are resolved
step by step: every step but the last must start in a directory that is there, also a step up or a
step that stays.

Operations that change the tree return the tree as it is afterwards even if they fail, since
directories made before the failure stay.
-/

set_option autoImplicit false

namespace Phrasebook

/-- A place in a tree: the names that lead to it from the root. -/
abbrev Location := List Text

/-- What stands at a location. -/
inductive Node where
  /-- A directory. -/
  | directory
  /-- A regular file with this content. -/
  | file (content : Bytes)
  deriving DecidableEq, Repr

/-- A tree of directories and regular files, and the directory in which relative paths start. -/
structure FileSystem where
  /-- The nodes below the root. -/
  nodes : List (Location × Node)
  /-- The working directory. -/
  workingDirectory : Location
  deriving DecidableEq, Repr

namespace FileSystem

/-- The path of the working directory. -/
def workingPath (fs : FileSystem) : Path :=
  Path.separator :: Text.joinWith [Path.separator] fs.workingDirectory

/-! ## Nodes by location -/

/-- The node at a location. The root is always a directory. -/
def node? (fs : FileSystem) (l : Location) : Option Node :=
  if l = [] then some .directory else fs.nodes.lookup l

/-- The tree with a node put at a location, in place of what stood there. -/
def put (fs : FileSystem) (l : Location) (n : Node) : FileSystem :=
  { fs with nodes := (l, n) :: fs.nodes.filter fun entry => entry.1 != l }

/-! ## Resolving paths -/

/-- Where the resolution of a path starts. -/
def origin (fs : FileSystem) (p : Path) : Location :=
  if Path.isAbsolute p then [] else fs.workingDirectory

/-- The location that one step leads to, if it starts in a directory and leads to a node. -/
def follow? (fs : FileSystem) (l : Location) (s : Path.Step) : Option Location :=
  if fs.node? l = some .directory then
    match s with
    | .stay => some l
    | .up => some l.dropLast
    | .down name => if (fs.node? (l ++ [name])).isSome then some (l ++ [name]) else none
  else none

/-- The location that steps lead to. -/
def walk? (fs : FileSystem) (l : Location) (steps : List Path.Step) : Option Location :=
  steps.foldlM fs.follow? l

/-- The location of the node that a path names. -/
def locate? (fs : FileSystem) (p : Path) : Option Location :=
  if Path.isUsable p then fs.walk? (fs.origin p) (Path.steps p) else none

/-- The node that a path names. -/
def nodeAt? (fs : FileSystem) (p : Path) : Option Node :=
  match fs.locate? p with
  | none => none
  | some l => fs.node? l

/-! ## Looking -/

/-- Whether a path names anything. -/
def pathExists (fs : FileSystem) (p : Path) : Bool := (fs.nodeAt? p).isSome

/-- Whether a path names a directory. -/
def isDirectory (fs : FileSystem) (p : Path) : Bool := fs.nodeAt? p == some .directory

/-- The content of the regular file that a path names. -/
def readBytes? (fs : FileSystem) (p : Path) : Option Bytes :=
  match fs.nodeAt? p with
  | some (.file content) => some content
  | _ => none

/-- The text of the regular file that a path names, if its content is UTF-8. -/
def readText? (fs : FileSystem) (p : Path) : Option Text :=
  match fs.readBytes? p with
  | none => none
  | some content => Text.decode? content

/-- The regular files below a location, with the names that lead to each from there. -/
def filesBelow (fs : FileSystem) (l : Location) : List (Location × Bytes) :=
  fs.nodes.filterMap fun entry =>
    match entry.2 with
    | .file content =>
        if l.isPrefixOf entry.1 then some (entry.1.drop l.length, content) else none
    | .directory => none

/-! ## Changing -/

/-- Whether an entry of this name can be made. -/
def fits (name : Text) : Bool := Text.byteLength name ≤ Path.maxNameLength

/-- The tree after an attempt to walk down steps while missing directories are made, and the
location reached, if the attempt did not fail. -/
def makeSteps (fs : FileSystem) (l : Location) : List Path.Step → FileSystem × Option Location
  | [] => (fs, some l)
  | .stay :: later => fs.makeSteps l later
  | .up :: later => fs.makeSteps l.dropLast later
  | .down name :: later =>
      match fs.node? (l ++ [name]) with
      | some .directory => fs.makeSteps (l ++ [name]) later
      | some (.file _) => (fs, none)
      | none =>
          if fits name then (fs.put (l ++ [name]) .directory).makeSteps (l ++ [name]) later
          else (fs, none)

/-- The tree after an attempt to make a directory and all directories on the way to it, and
whether the directory is there now. -/
def makeDirectories (fs : FileSystem) (p : Path) : FileSystem × Bool :=
  if Path.isUsable p then
    let made := fs.makeSteps (fs.origin p) (Path.steps p)
    (made.1, made.2.isSome)
  else (fs, false)

/-- The location at which a file can be written under a path: its last step must lead down from a
directory that is there, and not to a directory. -/
def writable? (fs : FileSystem) (p : Path) : Option Location :=
  if Path.isUsable p then
    match (Path.steps p).getLast? with
    | some (.down name) =>
        match fs.walk? (fs.origin p) (Path.steps p).dropLast with
        | none => none
        | some l =>
            if fs.node? l = some .directory then
              match fs.node? (l ++ [name]) with
              | some .directory => none
              | some (.file _) => some (l ++ [name])
              | none => if fits name then some (l ++ [name]) else none
            else none
    | _ => none
  else none

/-- The tree with a file written under a path, in place of the file that it named. -/
def writeBytes? (fs : FileSystem) (p : Path) (content : Bytes) : Option FileSystem :=
  match fs.writable? p with
  | none => none
  | some l => some (fs.put l (.file content))

/-- The tree without what a path names and without everything below it. -/
def remove (fs : FileSystem) (p : Path) : FileSystem :=
  match fs.locate? p with
  | none => fs
  | some l => { fs with nodes := fs.nodes.filter fun entry => !l.isPrefixOf entry.1 }

end FileSystem

end Phrasebook
