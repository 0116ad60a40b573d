import Courier.Config.Arrangement
import Courier.Config.Assignments
import Courier.Config.Convert
import Courier.Config.Directory
import Courier.Config.Json
import Courier.Config.Toml

/-! # Layers of the configuration

Settings come from a file with defaults, a file for the mode in which the
program runs, and the environment; what comes later wins. Both files may be
absent. Files in TOML and JSON are read here; for other formats readers have to be
given, and without one such a file is unreadable. Nothing fixes the order in which
files of different formats are looked for, nor the one in which the members of a
table are laid.
-/

namespace Courier.Config

inductive FileFormat where
  | toml
  | json
  | yaml
  | ini
  | ron
  | json5
  deriving DecidableEq, Repr

namespace FileFormat

def all : List FileFormat :=
  [.toml, .json, .yaml, .ini, .ron, .json5]

def endings : FileFormat → List String
  | .toml => ["toml"]
  | .json => ["json"]
  | .yaml => ["yaml", "yml"]
  | .ini => ["ini"]
  | .ron => ["ron"]
  | .json5 => ["json5"]

end FileFormat

/-- How a text is read as a layer, for each format that is not read here. -/
structure Readers where
  yaml : String → Option Layer
  ini : String → Option Layer
  ron : String → Option Layer
  json5 : String → Option Layer

namespace Readers

/-- No text is a layer. -/
def none : Readers := ⟨fun _ => .none, fun _ => .none, fun _ => .none, fun _ => .none⟩

def read? (r : Readers) : FileFormat → String → Option Layer
  | .toml, s => Toml.read? s
  | .json, s => readJson? s
  | .yaml, s => r.yaml s
  | .ini, s => r.ini s
  | .ron, s => r.ron s
  | .json5, s => r.json5 s

end Readers

/-- What the configuration is made from. -/
structure Sources where
  environment : Environment
  /-- The text of the file at a path, if there is one. -/
  file? : String → Option String
  readers : Readers := .none
  /-- The formats in the order in which their files are looked for. -/
  formats : List FileFormat := FileFormat.all
  formats_perm : formats.Perm FileFormat.all := by exact .refl _
  /-- How the tables are arranged, for each layer. -/
  arrangement : Nat → Arrangement := fun _ => .asRead

namespace Sources

/-- Variables in this file are added to the environment. -/
def variablesFile : String := ".env"

def fullEnvironment (s : Sources) : Except Error Environment :=
  match s.file? variablesFile with
  | some text =>
      match s.environment.addText? text with
      | some env => .ok env
      | none => .error .badVariable
  | none => .ok s.environment

end Sources

/-- The format that the ending of a file name tells. A name that begins with
its only point has no ending. -/
def formatOf? (path : String) : Option FileFormat :=
  let name := ((pathParts path).getLast?.getD []).reverse
  let ending := name.takeWhile (· ≠ '.')
  let stem := (name.dropWhile (· ≠ '.')).drop 1
  if stem = [] then none
  else FileFormat.all.find? fun f => f.endings.any fun e => e.toList = ending.reverse

/-- The files that may hold a layer, with their formats. A file with just the
name of the layer comes first, unless the name is that of a directory; if its
ending tells no format, there is no layer. -/
def candidates (formats : List FileFormat) (name : String) : List (String × Option FileFormat) :=
  let path := plainPath name
  let isPlain := !name.endsWith "/" && !name.endsWith "/."
  let exact := if isPlain then [(path, formatOf? path)] else []
  if (pathParts name).getLast? = some upward then []
  else exact ++ formats.flatMap fun f => f.endings.map fun e => (path ++ "." ++ e, some f)

namespace Sources

def readFile (s : Sources) (path : String) (format : Option FileFormat) (text : String) :
    Except Error Layer :=
  match format with
  | none => .ok []
  | some f =>
      match s.readers.read? f text with
      | some layer => .ok layer
      | none => .error (.unreadable path)

/-- What the file of a layer sets; nothing, if there is none. -/
def fileLayer (s : Sources) (name : String) : Except Error Layer :=
  match (candidates s.formats name).findSome? fun (path, f) => (s.file? path).map (path, f, ·) with
  | some (path, f, text) => s.readFile path f text
  | none => .ok []

end Sources

def defaultsName : String := "config/default"

/-- The name of the layer for the mode that the environment tells. -/
def modeName (env : Environment) : String :=
  "config/" ++ (env.get? "RUN_MODE").getD "development"

namespace Sources

/-- Each layer with its tables arranged. -/
def arranged (s : Sources) (layers : List Layer) : List Layer :=
  layers.mapIdx fun i layer => (s.arrangement i).layer layer

/-- The layers in the order in which they are laid. -/
def layers (s : Sources) (env : Environment) : Except Error (List Layer) := do
  let defaults ← s.fileLayer defaultsName
  let mode ← s.fileLayer (modeName env)
  return s.arranged [defaults, mode, env.layer]

end Sources

def ofLayers (layers : List Layer) : Value :=
  layers.foldl overlay (.table [])

/-- The settings, and the environment that they were made with. -/
def load (s : Sources) : Except Error (Environment × Settings) := do
  let env ← s.fullEnvironment
  let settings ← (ofLayers (← s.layers env)).settings
  return (env, settings)

end Courier.Config
