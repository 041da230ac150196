import BenchGate.Config.Basic
import BenchGate.Files.Tree
import BenchGate.Yaml.Document

/-!
# Loading the configuration

The configuration of a directory stands in one file of a fixed name. A directory without that
file has the default configuration; a file that cannot be read or understood is a failure, never
the default.
-/

namespace BenchGate.Config

/-- The name of the file. -/
def fileName : String := ".perfcompare.yaml"

/-- The configuration in a text. -/
def parse (text : String) : Except ConfigError Config :=
  match Yaml.read? text with
  | none => .error (.malformed text)
  | some document => ofDatum document

/-- The configuration in the file at `path`, which messages call `shown`. -/
def read (tree : Tree) (path shown : String) : Except ConfigError Config :=
  match tree.read path with
  | .ok content => parse (Utf8.decode content)
  | .error .missing => .ok {}
  | .error cause => .error (.unreadable shown cause)

/-- The path of the file of a directory. -/
def pathIn (directory : String) : String := Path.join directory fileName

/-- The configuration of a directory. -/
def load (tree : Tree) (directory : String) : Except ConfigError Config :=
  read tree (pathIn directory) (pathIn directory)

/-- The configuration of the current directory, whose full path is given. -/
def loadCurrent (tree : Tree) (current : String) : Except ConfigError Config :=
  read tree fileName (pathIn current)

end BenchGate.Config
