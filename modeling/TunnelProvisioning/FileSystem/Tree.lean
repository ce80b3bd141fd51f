import TunnelProvisioning.FileSystem.Basic

/-! # File trees

A file system held as a tree of directories, in which a path is walked component by component. The
walk stops at the first component that is too long, that is missing, or that stands below something
other than a directory.
-/

namespace TunnelProvisioning

/-- A file, a device that reads as empty, or a directory with its named entries. -/
inductive FileTree where
  | file (content : List UInt8)
  | device
  | directory (entries : List (List UInt8 × FileTree))

namespace FileTree

def separator : UInt8 := 0x2F

/-- The full stop, which names a directory itself, and twice the one above. -/
def fullStop : UInt8 := 0x2E

/-- An error of a walk along a path. -/
private def notDirectory : IoError := .numbered 20

private def isDirectory : IoError := .numbered 21

private def nameTooLong : IoError := .numbered 36

/-- The components of a path, empty ones included. -/
def components (octets : List UInt8) : List (List UInt8) :=
  octets.splitOn separator

def entry (tree : FileTree) (name : List UInt8) : Except IoError FileTree :=
  match tree with
  | directory entries =>
    if 255 < name.length then .error nameTooLong
    else
      match entries.find? (·.1 = name) with
      | some (_, found) => .ok found
      | none => .error .missing
  | _ => .error notDirectory

def isFolder : FileTree → Bool
  | directory _ => true
  | _ => false

/-- Follows components downwards. The trees above the present one are kept for the way back. -/
def walk : FileTree → List FileTree → List (List UInt8) → Except IoError FileTree
  | here, _, [] => .ok here
  | here, above, name :: rest =>
    if name = [] ∨ name = [fullStop] then
      if here.isFolder then walk here above rest else .error notDirectory
    else if name = [fullStop, fullStop] then
      if here.isFolder then
        match above with
        | parent :: above => walk parent above rest
        | [] => walk here [] rest
      else .error notDirectory
    else do
      let next ← here.entry name
      walk next (here :: above) rest

/-- What a path leads to, from the root or from the current directory. -/
def resolve (root current : FileTree) (path : Path) : Except IoError FileTree :=
  if path.octets.contains 0 then
    .error (.described .invalidInput "file name contained an unexpected NUL byte")
  else if path.isEmpty then .error .missing
  else if 4096 ≤ path.octets.length then .error nameTooLong
  else if path.octets.head? = some separator then walk root [] (components path.octets)
  else walk current [root] (components path.octets)

/-- Puts a tree at a place, with the directories that lead there. -/
def place (item : FileTree) : List (List UInt8) → FileTree → FileTree
  | [], _ => item
  | name :: rest, tree =>
    let entries := match tree with
      | directory entries => entries
      | _ => []
    let below := match entries.find? (·.1 = name) with
      | some (_, found) => found
      | none => directory []
    directory (entries.filter (·.1 ≠ name) ++ [(name, place item rest below)])

def placeAt (item : FileTree) (text : String) (tree : FileTree) : FileTree :=
  place item ((components (Path.ofText text).octets).filter (· ≠ [])) tree

def usualDirectories : List String :=
  ["bin", "boot", "dev", "etc", "home", "lib", "media", "mnt", "opt", "proc", "root", "run", "sbin",
    "srv", "sys", "tmp", "usr", "var"]

/-- A root directory with the usual directories, which are empty but for a null device. -/
def bareRoot : FileTree :=
  device.placeAt "dev/null"
    (usualDirectories.foldl (fun tree name => (directory []).placeAt name tree) (directory []))

def fileSystem (root current : FileTree) : FileSystem where
  isPresent path :=
    match resolve root current path with
    | .ok _ => true
    | .error _ => false
  read path := do
    match ← resolve root current path with
    | file content => return content
    | device => return []
    | directory _ => throw isDirectory
  openNode path := do
    match ← resolve root current path with
    | directory _ => throw isDirectory
    | _ => return ()

end FileTree

end TunnelProvisioning
