import PageLinker.Toml.Document
import PageLinker.Tree.Layout

/-!
# Settings

The settings name the build directory, the extension of page files and the index file.  Their
values are kept as they were given, whatever their type, since a value of the wrong type fails
only when it is used.
-/

namespace PageLinker

/-- The settings of a build. -/
structure Settings where
  directory : Toml.Value := .text ""
  extension : Toml.Value := .text ".js"
  indexFile : Toml.Value := .text "index.js"

namespace Settings

def defaultPath : Path := Path.here.join "pagegen.toml"

/-- The build directory when neither the settings nor the environment name one. -/
def defaultDirectory : Path := Path.here.join "build"

/-- The name of the environment variable that can name the build directory. -/
def directoryVariable : String := "PAGEGEN_BUILD_DIR"

/-- The text of a new settings file, which states the defaults. -/
def template : String :=
  Lines.terminated
    ["[build]",
     "# falls back to PAGEGEN_BUILD_DIR env, then \"build\"",
     "dir = \"\"",
     "",
     "[index]",
     "extension = \".js\"",
     "index_file = \"index.js\""]

/-- The value of a name in a table of settings, or the default.  What should be a table must be
one. -/
def field (section? : Option Toml.Value) (name : String) (default : Toml.Value) :
    Except Failure Toml.Value :=
  match section? with
  | none => .ok default
  | some (.table fields) => .ok ((Toml.Fields.find? fields name).getD default)
  | some _ => .error (.mistyped .table)

/-- The settings that a document makes. -/
def ofDocument (document : Toml.Fields) : Except Failure Settings := do
  let build := document.find? "build"
  let index := document.find? "index"
  let defaults : Settings := {}
  let directory ← field build "dir" defaults.directory
  let extension ← field index "extension" defaults.extension
  let indexFile ← field index "index_file" defaults.indexFile
  pure { directory, extension, indexFile }

def parse (content : ByteArray) : Except Failure Settings :=
  match String.fromUTF8? content with
  | none => .error .notText
  | some text =>
      match Toml.parse text with
      | none => .error .malformedSettings
      | some document => ofDocument document

/-- The build directory: from the settings, else from the environment, else the default.  An empty
value counts as none. -/
def buildDirectory (settings : Settings) (environment : Option String) : Except Failure Path :=
  if settings.directory.isGiven then
    match settings.directory.text? with
    | some directory => .ok (Path.ofString directory)
    | none => .error (.mistyped .directory)
  else
    match environment with
    | none => .ok defaultDirectory
    | some directory =>
        if directory == "" then .ok defaultDirectory else .ok (Path.ofString directory)

/-- How the files of the build tree are named. -/
def layout (settings : Settings) : Layout where
  extension := settings.extension.text?
  indexFile := settings.indexFile.text?

end Settings

end PageLinker
