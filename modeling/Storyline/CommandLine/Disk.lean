import Storyline.CommandLine.FileSystem

/-!
# Files as a value

A model of the files and folders that a program can reach: those in the folder where it starts, and
those around it. Of the folders around, which lie in each other up to the root, only one is kept,
because a program cannot know how far the root is.

Left out is what else can stop an operation or change where it leads. There are no links, so names
lead straight down and `..` straight up. There are no permissions, so every file can be read and
every folder can be written to. A disk never gets full and no device fails, so nothing is written
halfway. Nobody else changes a file while the program runs. So no operation on a disk fails with
`FileError.other`.
-/

namespace Storyline.CommandLine

/-- Where something is: the names that lead straight down to it. -/
structure Place where
  /-- Whether they lead from the folders around the start folder. -/
  around : Bool
  /-- The names. -/
  names : List String
  deriving DecidableEq, Repr

namespace Place

/-- The folder where the program starts. -/
def start : Place := ⟨false, []⟩

/-- The folders around it, the root among them. -/
def root : Place := ⟨true, []⟩

/-- The folder that a place is in. -/
def up (place : Place) : Place :=
  if place.names = [] then root else { place with names := place.names.dropLast }

/-- The place of a name in a folder. -/
def down (place : Place) (name : String) : Place :=
  { place with names := place.names ++ [name] }

/-- Whether a place is on the straight way to another one. -/
def isAbove (place other : Place) : Bool :=
  place.around == other.around && place.names.isPrefixOf other.names

end Place

/-- Files with their contents, and folders. -/
structure Disk where
  /-- The files. -/
  files : List (Place × ByteArray) := []
  /-- Folders that are there whether or not they contain files. -/
  folders : List Place := []

namespace Disk

/-- What every system has: an empty file, and a folder for what is not kept. -/
def bare : Disk where
  files := [(⟨true, ["dev", "null"]⟩, .empty)]
  folders := [⟨true, ["tmp"]⟩]

/-- A disk with some files in the start folder. -/
def ofFiles (files : List (String × ByteArray)) : Disk :=
  { bare with
    files := bare.files ++ files.map fun (name, contents) ↦
      (⟨false, (Path.ofText name).names.filter (· ≠ Path.here)⟩, contents) }

/-- What can be at a place. -/
inductive Entry where
  | file (contents : ByteArray)
  | folder

/-- What is at a place. -/
def entry? (disk : Disk) (place : Place) : Option Entry :=
  match disk.files.find? fun file ↦ file.1 = place with
  | some (_, contents) => some (.file contents)
  | none =>
    if place.names = [] ∨ place ∈ disk.folders ∨ disk.files.any fun file ↦ place.isAbove file.1 then
      some .folder
    else none

/-- Follows names from a place. Only at the last name there may be nothing. -/
def follow (disk : Disk) (place : Place) : List String → Except FileError Place
  | [] => .ok place
  | name :: names =>
    match disk.entry? place with
    | none => .error .notFound
    | some (.file _) => .error .notFolder
    | some .folder =>
      if name = Path.here then disk.follow place names
      else if name = Path.up then disk.follow place.up names
      else if name.utf8ByteSize > Path.maxNameLength then .error .nameTooLong
      else disk.follow (place.down name) names

/-- The place that a written path leads to. -/
def locate (disk : Disk) (text : String) : Except FileError Place :=
  let path := Path.ofText text
  if text = "" then .error .notFound
  else if text.utf8ByteSize > Path.maxLength then .error .nameTooLong
  else disk.follow (if path.absolute then .root else .start) path.names

/-- What a written path leads to. -/
def find (disk : Disk) (text : String) : Except FileError Entry := do
  match disk.entry? (← disk.locate text) with
  | none => .error .notFound
  | some .folder => return .folder
  | some (.file contents) =>
    if (Path.ofText text).slashed then .error .notFolder else return .file contents

/-- The contents of the file that a written path leads to. -/
def read (disk : Disk) (text : String) : Except FileError ByteArray := do
  match ← disk.find text with
  | .folder => .error .isFolder
  | .file contents => return contents

/-- Whether a written path leads to a folder. -/
def isFolder (disk : Disk) (text : String) : Bool :=
  match disk.find text with
  | .ok .folder => true
  | _ => false

/-- Makes a folder where there is nothing. -/
def addFolder (disk : Disk) (text : String) : Except FileError Disk := do
  let place ← disk.locate text
  match disk.entry? place with
  | some _ => .error .exists
  | none => return { disk with folders := disk.folders ++ [place] }

/-- Gives the file at a place its contents. -/
def put (disk : Disk) (place : Place) (contents : ByteArray) : Disk :=
  if disk.files.any fun file ↦ file.1 = place then
    { disk with
      files := disk.files.map fun file ↦ if file.1 = place then (place, contents) else file }
  else { disk with files := disk.files ++ [(place, contents)] }

/-- Writes the file that a written path leads to. -/
def write (disk : Disk) (text : String) (contents : ByteArray) : Except FileError Disk := do
  let place ← disk.locate text
  match disk.entry? place with
  | some .folder => .error .isFolder
  | _ => if (Path.ofText text).slashed then .error .isFolder else return disk.put place contents

/-- The files of the start folder that are not on an earlier disk, or with other contents. -/
def changesSince (disk earlier : Disk) : List (String × ByteArray) :=
  (disk.files.filter fun (place, contents) ↦ !place.around &&
    !earlier.files.any fun (old, before) ↦ old = place && before.data = contents.data).map
  fun (place, contents) ↦ (Path.toText false place.names, contents)

/-- Applies a change to the disk; one that fails leaves it as it was. -/
def attempt (change : Disk → Except FileError Disk) : StateM Disk (Except FileError Unit) :=
  modifyGet fun disk ↦
    match change disk with
    | .ok changed => (.ok (), changed)
    | .error e => (.error e, disk)

instance : FileSystem (StateM Disk) where
  isPresent text := return (← get).find text matches .ok _
  isFolder text := return (← get).isFolder text
  readText text := do
    return match (← get).read text with
      | .ok contents => match String.fromUTF8? contents with
        | some s => .ok s
        | none => .error .notText
      | .error e => .error e
  makeFolder text := attempt (·.addFolder text)
  writeText text s := attempt (·.write text s.toUTF8)

end Disk

end Storyline.CommandLine
