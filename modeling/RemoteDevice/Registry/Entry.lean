import RemoteDevice.Yaml.Document
import RemoteDevice.Yaml.Scalar.Printer

/-!
The entries of a registry, and lists of them as YAML. An entry is written as a mapping with a key
for each of its two fields. When it is read the pairs may come in any order, other keys are
passed over, and every scalar counts as its text.
-/
set_option autoImplicit false

namespace RemoteDevice

/-- What is kept of a device: the name of its type, and the text that it is made from. -/
structure Entry where
  typeName : String
  payload : String
deriving DecidableEq, Repr

namespace Entry

/-- The fields that have been read so far. -/
structure Draft where
  typeName : Option String := none
  payload : Option String := none
deriving DecidableEq, Repr

def Draft.finish : Draft → Except Yaml.Fault Entry
  | ⟨some typeName, some payload⟩ => .ok ⟨typeName, payload⟩
  | _ => .error .missingKey

/-- Reads one pair of a mapping. -/
def readPair (d : Yaml.Document) (draft : Draft) : Yaml.Reader Draft := do
  match ← Yaml.Reader.text d with
  | "type_name" =>
    if draft.typeName.isSome then throw .repeatedKey
    return { draft with typeName := some (← Yaml.Reader.text d) }
  | "payload" =>
    if draft.payload.isSome then throw .repeatedKey
    return { draft with payload := some (← Yaml.Reader.text d) }
  | _ =>
    Yaml.Reader.skip
    return draft

def read (d : Yaml.Document) : Yaml.Reader Entry :=
  Yaml.Reader.follow d do
    match ← Yaml.Reader.next with
    | .mappingStart _ =>
      let draft ← Yaml.Reader.fold .mappingEnd {} (readPair d)
      liftM draft.finish
    | _ => throw .unfitNode

/-- Reads a sequence of entries; a node that is left out stands for no entries. -/
def readAll (d : Yaml.Document) : Yaml.Reader (List Entry) := do
  match ← Yaml.Reader.next with
  | .sequenceStart _ =>
    Yaml.Reader.fold .sequenceEnd [] fun entries => do return entries ++ [← read d]
  | .scalar _ .plain [] => return []
  | _ => throw .unfitNode

/-- The entries that a YAML text lists. -/
def parseAll (text : String) : Except Yaml.Fault (List Entry) :=
  Yaml.Reader.run readAll text.toList

/-- Writes one entry of a sequence; further lines of a value lie two levels deep. -/
def printChars (e : Entry) : List Char :=
  "- type_name: ".toList ++ Yaml.Scalar.print 4 e.typeName.toList ++
    "  payload: ".toList ++ Yaml.Scalar.print 4 e.payload.toList

def printAll (entries : List Entry) : String :=
  if entries.isEmpty then "[]\n" else String.ofList (entries.flatMap printChars)

end Entry

end RemoteDevice
