/-!
The tokens of YAML: marks of structure, the properties of nodes, and scalars with their text
already unescaped and folded.
-/
set_option autoImplicit false

namespace RemoteDevice.Yaml

/-- How a scalar is written; only plain scalars stand for anything but texts. -/
inductive ScalarStyle where
  | plain
  | quoted
  | block
deriving DecidableEq, Repr

inductive Token where
  | version (major minor : Nat)
  /-- Declares what a tag handle stands for. -/
  | tagHandle (handle expansion : List Char)
  | documentStart
  | documentEnd
  | blockSequenceStart
  | blockMappingStart
  | blockEnd
  | flowSequenceStart
  | flowSequenceEnd
  | flowMappingStart
  | flowMappingEnd
  | blockEntry
  | flowEntry
  | key
  | value
  | alias (name : List Char)
  | anchor (name : List Char)
  | tag (handle suffix : List Char)
  | scalar (style : ScalarStyle) (text : List Char)
  | streamEnd
deriving DecidableEq, Repr

end RemoteDevice.Yaml
