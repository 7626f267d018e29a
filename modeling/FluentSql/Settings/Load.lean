import FluentSql.Document.Merge
import FluentSql.Settings.Decode
import FluentSql.Settings.FileTree
import FluentSql.Settings.Overrides
import FluentSql.Toml.Reader

/-!
# Loading settings

Settings are loaded from a TOML or JSON text that is merged over the defaults. The text is
given or read from a file.
-/

namespace FluentSql

inductive SettingsFormat where
  | toml
  | json
  deriving DecidableEq

namespace SettingsFormat

def name : SettingsFormat → String
  | toml => "TOML"
  | json => "JSON"

def read? : SettingsFormat → String → Option OrderedDocument
  | toml, text => Toml.read? text
  | json, text => OrderedDocument.read? text

end SettingsFormat

/-- Why settings could not be loaded. -/
inductive LoadFault where
  | unreadable (format : SettingsFormat) (path : String) (fault : FileFault)
  | malformed (format : SettingsFormat)
  | misfit (format : SettingsFormat) (fault : DecodeFault)

namespace LoadFault

def text : LoadFault → String
  | unreadable format path fault =>
    "Failed to read " ++ format.name ++ " file '" ++ path ++ "': " ++ fault.text
  | malformed format => "Failed to parse " ++ format.name
  | misfit format fault =>
    "Failed to deserialize settings from " ++ format.name ++ ": " ++ fault.text

def toError (f : LoadFault) : Error :=
  .configuration f.text

end LoadFault

namespace Settings

/-- The settings of a document that is laid over the defaults. -/
def ofOverlay (d : Document) : Decoded Settings :=
  ofDocument (usual.toDocument.merge d)

def load (format : SettingsFormat) (text : String) : Except LoadFault Settings :=
  match format.read? text with
  | none => .error (.malformed format)
  | some d => (ofOverlay d.tree).mapError (.misfit format)

/-- Loads the file at a path. -/
def loadFile (files : FileTree) (format : SettingsFormat) (path : String) :
    Except LoadFault Settings :=
  match files.read path with
  | .error fault => .error (.unreadable format path fault)
  | .ok text => load format text

/-- The defaults under an environment. -/
def ofEnvironment (env : Environment) : Settings :=
  usual.override env

end Settings

end FluentSql
