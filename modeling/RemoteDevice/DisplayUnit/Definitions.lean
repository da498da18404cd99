import RemoteDevice.DisplayUnit.Cache
import RemoteDevice.Yaml.Value

/-!
Unit definitions: a YAML mapping from names to configurations. All of them are read before one is
taken into the cache, so that a fault in one leaves the cache as it is.
-/
set_option autoImplicit false

namespace RemoteDevice

/-- Why definitions are refused; `found` says what stands in the wrong place. -/
inductive DefinitionError where
  | malformed (fault : Yaml.Fault)
  | notMapping (found : String)
  | nameNotText (found : String)
  | configNotText (name found : String)
  | config (error : ConfigError)
deriving DecidableEq, Repr

def DefinitionError.message : DefinitionError → String
  | malformed _ => "parsing unit definitions"
  | notMapping found => "unit definitions must be a mapping, found " ++ found
  | nameNotText found => "unit name must be a string, found " ++ found
  | configNotText name found => "unit `" ++ name ++ "`: config must be a string, found " ++ found
  | config e => e.message

/-- Why a file of definitions is refused. -/
inductive DefinitionFileError where
  | unreadable (path : String)
  | refused (path : String) (error : DefinitionError)
deriving DecidableEq, Repr

namespace DefinitionFileError

/-- What went wrong in general. -/
def message : DefinitionFileError → String
  | unreadable path => "reading unit definitions: " ++ path
  | refused path _ => "loading unit definitions: " ++ path

/-- The message and the more special one behind it. -/
def messages : DefinitionFileError → List String
  | unreadable path => [(unreadable path).message]
  | refused path e => [(refused path e).message, e.message]

end DefinitionFileError

namespace DisplayUnit

/-- The unit that one pair of the mapping defines. A name may have tags, a configuration may be
left out. -/
def ofDefinition (pair : Yaml.Value × Yaml.Value) : Except DefinitionError DisplayUnit :=
  match pair.1.text?, pair.2 with
  | none, _ => .error (.nameNotText pair.1.kind)
  | some name, .text config => (parse name config).mapError .config
  | some name, .null => (parse name "").mapError .config
  | some name, other => .error (.configNotText name other.kind)

/-- The units of all pairs, or the error of the first pair at fault. -/
def ofDefinitions : List (Yaml.Value × Yaml.Value) → Except DefinitionError (List DisplayUnit)
  | [] => .ok []
  | pair :: rest =>
    match ofDefinition pair with
    | .error e => .error e
    | .ok u => (ofDefinitions rest).map (u :: ·)

/-- The units that a document defines; an empty document defines none. -/
def ofValue : Yaml.Value → Except DefinitionError (List DisplayUnit)
  | .null => .ok []
  | .mapping pairs => ofDefinitions pairs
  | other => .error (.notMapping other.kind)

end DisplayUnit

namespace UnitCache

/-- The units known under the names that a document defines, and the units then known. -/
def loadValue (c : UnitCache) (v : Yaml.Value) :
    Except DefinitionError (List DisplayUnit × UnitCache) :=
  (DisplayUnit.ofValue v).map c.insertAll

def load (c : UnitCache) (yaml : String) :
    Except DefinitionError (List DisplayUnit × UnitCache) :=
  match Yaml.Value.parse yaml with
  | .error fault => .error (.malformed fault)
  | .ok v => c.loadValue v

/-- Loads the definitions in a file, of which `content` is the text if it can be read. -/
def loadFile (c : UnitCache) (path : String) (content : Option String) :
    Except DefinitionFileError (List DisplayUnit × UnitCache) :=
  match content with
  | none => .error (.unreadable path)
  | some yaml => (c.load yaml).mapError (.refused path)

end UnitCache

end RemoteDevice
