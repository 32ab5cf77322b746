import WorkerMemory.SystemError
import WorkerMemory.Text.Split

/-! # Files below the working directory -/

namespace WorkerMemory

inductive FileNode where
  | file (text : String)
  | directory
  deriving DecidableEq, Repr

/-- Files and directories by path; the directories above a file need not be listed. -/
abbrev Files := List (List String × FileNode)

namespace Files

/-- The root directory, in front of the parts of an absolute path. -/
def root : String := "/"

/-- The parts of a text around a character. -/
def partsAround (sep : Char) (text : String) : List String :=
  (Text.splitOn sep text.toList).map String.ofList

def components (path : String) : List String :=
  let parts := (partsAround '/' path).filter fun c => c != "" && c != "."
  if path.toList.head? = some '/' then root :: parts else parts

/-- A slash at the end of a path asks for a directory. -/
def asksForDirectory (path : String) : Bool := path.toList.getLast? = some '/'

/-- The files whose paths are given as text. -/
def ofList (entries : List (String × FileNode)) : Files :=
  entries.map fun (path, node) => (components path, node)

/-- The working directory and those above it are there. -/
def isAbove (place : List String) : Bool := place.all (· == "..") || place == [root]

def nodeAt (files : Files) (place : List String) : Option FileNode :=
  if isAbove place then some .directory
  else match files.lookup place with
    | some node => some node
    | none => if files.any fun (p, _) => place.isPrefixOf p then some .directory else none

/-- The directory above another; above the root directory there is none. -/
def parent (place : List String) : List String :=
  if place = [root] then place
  else if isAbove place then place ++ [".."]
  else place.dropLast

/-- Goes from a directory along the parts of a path. -/
def walk (files : Files) : (place parts : List String) → Except SystemError (List String)
  | place, [] => .ok place
  | place, part :: parts =>
    match files.nodeAt place with
    | some .directory =>
      if part = ".." then walk files (parent place) parts
      else
        match files.nodeAt (place ++ [part]) with
        | some _ => walk files (place ++ [part]) parts
        | none => .error .noSuchFile
    | _ => .error .notADirectory

/-- The place of a path that exists. -/
def locate (files : Files) (path : String) : Except SystemError (List String) := do
  if path.isEmpty then throw .noSuchFile
  let place ← files.walk [] (components path)
  if asksForDirectory path && files.nodeAt place != some .directory then throw .notADirectory
  return place

def exists? (files : Files) (path : String) : Option FileNode :=
  (files.locate path).toOption.bind files.nodeAt

/-- The last part of a path, if it is a name. -/
def fileName? (path : String) : Option String :=
  (components path).getLast?.filter fun c => c != ".." && c != root

/-- What stands after the last dot of a name, unless the name starts there. -/
def extension? (path : String) : Option String := do
  let name ← fileName? path
  match (partsAround '.' name).reverse with
  | last :: stem :: more => if more.isEmpty && stem.isEmpty then none else some last
  | _ => none

/-- A path without the parts that lead nowhere. -/
def tidy (path : String) : String :=
  match components path with
  | "/" :: parts => root ++ String.intercalate "/" parts
  | parts => String.intercalate "/" parts

/-! ## Making files -/

/-- Adds a directory that is not there yet. -/
def makeDirectory (files : Files) (parts : List String) : Except SystemError Files := do
  let place ← files.walk [] parts.dropLast
  match files.nodeAt place, parts.getLast? with
  | some .directory, some name =>
    if name = ".." then return files
    match files.nodeAt (place ++ [name]) with
    | none => return (place ++ [name], .directory) :: files
    | some .directory => return files
    | some (.file _) => throw .fileExists
  | some .directory, none => return files
  | _, _ => throw .notADirectory

/-- Adds a directory and all that are missing above it. -/
def makeDirectories (files : Files) (parts : List String) : Except SystemError Files :=
  if parts.isEmpty then .ok files
  else match files.makeDirectory parts with
    | .ok files => .ok files
    | .error e =>
      if e = .noSuchFile then do
        (← makeDirectories files parts.dropLast).makeDirectory parts
      else .error e
termination_by parts.length
decreasing_by
  have : parts ≠ [] := by simp_all
  have := List.length_pos_iff.2 this
  simp only [List.length_dropLast]
  omega

/-- The text of a file that is written on at its end; a missing file starts out empty, and a
directory cannot be written on. -/
def openForAppending (files : Files) (path : String) : Except SystemError String := do
  match components path with
  | [] => throw (if path.isEmpty then .noSuchFile else .isADirectory)
  | parts =>
    let place ← files.walk [] parts.dropLast
    unless files.nodeAt place = some .directory do throw .notADirectory
    match (files.walk place (parts.drop (parts.length - 1))).map files.nodeAt with
    | .ok (some (.file text)) => if asksForDirectory path then throw .notADirectory else return text
    | .ok _ => throw .isADirectory
    | .error e =>
      if e != .noSuchFile then throw e
      if asksForDirectory path then throw .isADirectory else return ""

end Files

end WorkerMemory
