import WorkerMemory.Files
import WorkerMemory.Json.Value
import WorkerMemory.Settings.Layers
import WorkerMemory.Toml.Document
import WorkerMemory.Yaml.Document

/-! # Loading the settings

A settings file is laid over the defaults, and the environment over the file. -/

namespace WorkerMemory

/-! ## Formats -/

inductive SettingsFormat where
  | toml
  | json
  | yaml
  deriving DecidableEq, Repr

mutual

/-- A JSON value. An integer beyond 63 bits becomes a float. -/
def Loose.ofJson : Json.Value → Loose
  | .null => .null
  | .bool b => .bool b
  | .number (.int n) =>
    match Integer.int64? n with
    | some n => .int n
    | none => .float (UInt64.ofNat n.toNat).toFloat
  | .number (.real x) => .float x
  | .string s => .text s
  | .array elements => .list (listOfJson elements)
  | .object members => .table (tableOfJson members)

def listOfJson : List Json.Value → List Loose
  | [] => []
  | v :: elements => Loose.ofJson v :: listOfJson elements

def tableOfJson : List (String × Json.Value) → List (String × Loose)
  | [] => []
  | (key, v) :: members => (key, Loose.ofJson v) :: tableOfJson members

end

namespace SettingsFormat

def ofExtension? : String → Option SettingsFormat
  | "toml" => some toml
  | "json" => some json
  | "yaml" | "yml" => some yaml
  | _ => none

def extensions : List String := ["toml", "json", "yaml", "yml"]

def parseJson? (text : String) : Option (List (String × Loose)) :=
  match Json.Reader.whole (Json.Reader.value 0) text with
  | .ok v => match Loose.ofJson v with
    | .table entries => some entries
    | _ => none
  | .error _ => none

/-- The entries of a text, or none if it is not in the format or holds no table. -/
def parse? (format : SettingsFormat) (text : String) : Option (List (String × Loose)) :=
  match format with
  | toml => Toml.parse? text
  | json => parseJson? text
  | yaml => Yaml.parse? text

end SettingsFormat

/-! ## Files -/

/-- A file of settings that has been found. -/
structure SettingsFile where
  path : String
  format : SettingsFormat
  text : String

namespace SettingsFile

/-- What a path names is a file with the extension of its format. If it is a directory, a file of
that name with an extension will do. -/
def find (files : Files) (path : String) : Except SettingsError SettingsFile :=
  match files.exists? path with
  | none => .error (.fileNotFound path)
  | some (.file text) => match (Files.extension? path).bind SettingsFormat.ofExtension? with
    | some format => .ok { path, format, text }
    | none => .error (.load (.unknownFormat path))
  | some .directory =>
    let beside (extension : String) : Option SettingsFile := do
      let format ← SettingsFormat.ofExtension? extension
      let name := Files.tidy path ++ "." ++ extension
      match files.exists? name with
      | some (.file text) => some { path := name, format, text }
      | _ => none
    match SettingsFormat.extensions.findSome? beside with
    | some file => .ok file
    | none => .error (.load (.notAFile path))

def withoutByteOrderMark (text : String) : String :=
  match text.toList with
  | '\ufeff' :: cs => String.ofList cs
  | _ => text

def entries (file : SettingsFile) : Except SettingsError (List (String × Loose)) :=
  match file.format.parse? (withoutByteOrderMark file.text) with
  | some entries => .ok entries
  | none => .error (.load (.malformedFile (Files.tidy file.path)))

def layers (file : SettingsFile) : Except SettingsError Layers := do
  return Layers.setAll [] (Files.tidy file.path) (← file.entries)

end SettingsFile

/-! ## All sources -/

namespace Settings

/-- The settings that remain when the environment has been laid over a file. -/
def ofSources (file : Layers) (environment : List (String × String)) :
    Except SettingsError Settings := do
  let layers := file.setAll Environment.origin (Environment.entries environment)
  match layers.settings with
  | .ok s =>
    s.validate
    return s
  | .error cause => throw (.load cause)

def load (files : Files) (environment : List (String × String)) (path : Option String) :
    Except SettingsError Settings := do
  let file ← match path with
    | none => pure []
    | some path => (← SettingsFile.find files path).layers
  ofSources file environment

end Settings

end WorkerMemory
