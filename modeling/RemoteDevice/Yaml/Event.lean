import RemoteDevice.Yaml.Fault
import RemoteDevice.Yaml.Token

/-!
The nodes of a document as a list of events: scalars, aliases, and the starts and ends of
collections around what they hold. The entries of a mapping are its keys and values in turn. The
parser reads the tokens from the left and adds an empty scalar wherever a node is left out; its
fuel is spent once for each node and each entry.
-/
set_option autoImplicit false

namespace RemoteDevice.Yaml

structure NodeProperties where
  anchor : Option (List Char) := none
  tag : Option (List Char) := none
deriving DecidableEq, Repr

/-- The lone mark as a tag only says that a scalar has no other tag. -/
def NodeProperties.ofScalar (p : NodeProperties) : NodeProperties :=
  if p.tag = some ['!'] then { p with tag := none } else p

/-- One event; `α` says how an alias names its target. -/
inductive Event (α : Type) where
  | alias (target : α)
  | scalar (properties : NodeProperties) (style : ScalarStyle) (text : List Char)
  | sequenceStart (properties : NodeProperties)
  | sequenceEnd
  | mappingStart (properties : NodeProperties)
  | mappingEnd
deriving DecidableEq, Repr

namespace Event

/-- The tokens still to be read and the events read so far, the last one first. -/
abbrev Progress : Type := List Token × List (Event (List Char))

/-- The node that stands where nothing is written. -/
def empty : Event (List Char) := scalar {} .plain []

/-- The handles of tags and what they stand for. -/
abbrev Handles : Type := List (List Char × List Char)

def standardHandles : Handles := [(['!'], ['!']), (['!', '!'], "tag:yaml.org,2002:".toList)]

def tagName (handles : Handles) (handle suffix : List Char) : Except Fault (List Char) :=
  if handle.isEmpty then .ok suffix
  else
    match handles.lookup handle with
    | some expansion => .ok (expansion ++ suffix)
    | none => .error .undefinedTagHandle

/-- Reads an anchor and a tag, in either order, as far as they are there. -/
def takeProperties (handles : Handles) :
    List Token → Except Fault (NodeProperties × List Token)
  | .anchor a :: .tag h s :: rest => do return (⟨some a, some (← tagName handles h s)⟩, rest)
  | .anchor a :: rest => .ok (⟨some a, none⟩, rest)
  | .tag h s :: .anchor a :: rest => do return (⟨some a, some (← tagName handles h s)⟩, rest)
  | .tag h s :: rest => do return (⟨none, some (← tagName handles h s)⟩, rest)
  | tokens => .ok ({}, tokens)

/-- Where a node stands: in a flow collection, in a block, or as the key or value of a block
mapping, where a sequence need not be indented. -/
inductive Place where
  | flow
  | block
  | blockPair
deriving DecidableEq, Repr

def endsSequenceEntry : Token → Bool
  | .blockEntry | .blockEnd => true
  | _ => false

def endsLooseEntry : Token → Bool
  | .blockEntry | .key | .value | .blockEnd => true
  | _ => false

def endsBlockPair : Token → Bool
  | .key | .value | .blockEnd => true
  | _ => false

def endsFlowItem : Token → Bool
  | .flowEntry | .flowSequenceEnd => true
  | _ => false

def endsFlowValue : Token → Bool
  | .flowEntry | .flowMappingEnd => true
  | _ => false

def endsFlowKey : Token → Bool
  | .value | .flowEntry | .flowMappingEnd => true
  | _ => false

mutual

/-- Reads a node, or adds an empty one if the next token ends the entry. -/
def nodeUnless (handles : Handles) :
    Nat → (Token → Bool) → Place → Progress → Except Fault Progress
  | 0, _, _, _ => .error .exhausted
  | fuel + 1, ends, place, (tokens, events) =>
    if tokens.head?.any ends then .ok (tokens, empty :: events)
    else node handles fuel place (tokens, events)

def node (handles : Handles) : Nat → Place → Progress → Except Fault Progress
  | 0, _, _ => .error .exhausted
  | _ + 1, _, (.alias name :: tokens, events) => .ok (tokens, .alias name :: events)
  | fuel + 1, place, (tokens, events) => do
    let (properties, tokens) ← takeProperties handles tokens
    match tokens with
    | .scalar style text :: rest => .ok (rest, .scalar properties.ofScalar style text :: events)
    | .flowSequenceStart :: rest =>
      flowSequence handles fuel true (rest, .sequenceStart properties :: events)
    | .flowMappingStart :: rest =>
      flowMapping handles fuel true (rest, .mappingStart properties :: events)
    | .blockEntry :: _ =>
      if place = .blockPair then
        looseSequence handles fuel (tokens, .sequenceStart properties :: events)
      else unwritten properties tokens events
    | .blockSequenceStart :: rest =>
      if place = .flow then unwritten properties tokens events
      else blockSequence handles fuel (rest, .sequenceStart properties :: events)
    | .blockMappingStart :: rest =>
      if place = .flow then unwritten properties tokens events
      else blockMapping handles fuel (rest, .mappingStart properties :: events)
    | _ => unwritten properties tokens events

/-- A node of which no more than the properties is written. -/
def unwritten (properties : NodeProperties) (tokens : List Token)
    (events : List (Event (List Char))) : Except Fault Progress :=
  if properties = {} then .error .unexpectedToken
  else .ok (tokens, .scalar properties .plain [] :: events)

/-- Reads entries up to the end of an indented sequence. -/
def blockSequence (handles : Handles) : Nat → Progress → Except Fault Progress
  | 0, _ => .error .exhausted
  | fuel + 1, (.blockEntry :: tokens, events) => do
    blockSequence handles fuel (← nodeUnless handles fuel endsSequenceEntry .block (tokens, events))
  | _ + 1, (.blockEnd :: tokens, events) => .ok (tokens, .sequenceEnd :: events)
  | _ + 1, _ => .error .unexpectedToken

/-- Reads the entries of a sequence that is not indented, as far as there are any. -/
def looseSequence (handles : Handles) : Nat → Progress → Except Fault Progress
  | 0, _ => .error .exhausted
  | fuel + 1, (.blockEntry :: tokens, events) => do
    looseSequence handles fuel (← nodeUnless handles fuel endsLooseEntry .block (tokens, events))
  | _ + 1, (tokens, events) => .ok (tokens, .sequenceEnd :: events)

/-- Reads the value of a pair if there is a colon, and adds an empty one otherwise. -/
def valueIfMarked (handles : Handles) :
    Nat → (Token → Bool) → Place → Progress → Except Fault Progress
  | 0, _, _, _ => .error .exhausted
  | fuel + 1, ends, place, (.value :: tokens, events) =>
    nodeUnless handles fuel ends place (tokens, events)
  | _ + 1, _, _, (tokens, events) => .ok (tokens, empty :: events)

/-- Reads pairs up to the end of a block mapping. -/
def blockMapping (handles : Handles) : Nat → Progress → Except Fault Progress
  | 0, _ => .error .exhausted
  | fuel + 1, (.key :: tokens, events) => do
    let keyed ← nodeUnless handles fuel endsBlockPair .blockPair (tokens, events)
    blockMapping handles fuel (← valueIfMarked handles fuel endsBlockPair .blockPair keyed)
  | _ + 1, (.blockEnd :: tokens, events) => .ok (tokens, .mappingEnd :: events)
  | _ + 1, _ => .error .unexpectedToken

/-- Reads entries up to the end of a flow sequence; all but the first follow a comma. -/
def flowSequence (handles : Handles) : Nat → Bool → Progress → Except Fault Progress
  | 0, _, _ => .error .exhausted
  | _ + 1, _, (.flowSequenceEnd :: tokens, events) => .ok (tokens, .sequenceEnd :: events)
  | fuel + 1, false, (.flowEntry :: tokens, events) => flowItem handles fuel (tokens, events)
  | fuel + 1, true, progress => flowItem handles fuel progress
  | _ + 1, false, _ => .error .unexpectedToken

/-- Reads one entry of a flow sequence and goes on. An entry with a key is a mapping of one pair;
where the key is left out, the token after it is passed over. -/
def flowItem (handles : Handles) : Nat → Progress → Except Fault Progress
  | 0, _ => .error .exhausted
  | _ + 1, (.flowSequenceEnd :: tokens, events) => .ok (tokens, .sequenceEnd :: events)
  | fuel + 1, (.key :: tokens, events) => do
    let events := .mappingStart {} :: events
    let keyed ←
      match tokens with
      | .value :: rest | .flowEntry :: rest | .flowSequenceEnd :: rest =>
        .ok (rest, empty :: events)
      | _ => node handles fuel .flow (tokens, events)
    let (tokens, events) ← valueIfMarked handles fuel endsFlowItem .flow keyed
    flowSequence handles fuel false (tokens, .mappingEnd :: events)
  | fuel + 1, progress => do
    flowSequence handles fuel false (← node handles fuel .flow progress)

/-- Reads pairs up to the end of a flow mapping; all but the first follow a comma. -/
def flowMapping (handles : Handles) : Nat → Bool → Progress → Except Fault Progress
  | 0, _, _ => .error .exhausted
  | _ + 1, _, (.flowMappingEnd :: tokens, events) => .ok (tokens, .mappingEnd :: events)
  | fuel + 1, false, (.flowEntry :: tokens, events) => flowPair handles fuel (tokens, events)
  | fuel + 1, true, progress => flowPair handles fuel progress
  | _ + 1, false, _ => .error .unexpectedToken

/-- Reads one pair of a flow mapping and goes on. -/
def flowPair (handles : Handles) : Nat → Progress → Except Fault Progress
  | 0, _ => .error .exhausted
  | _ + 1, (.flowMappingEnd :: tokens, events) => .ok (tokens, .mappingEnd :: events)
  | fuel + 1, (.key :: tokens, events) => do
    let keyed ← nodeUnless handles fuel endsFlowKey .flow (tokens, events)
    flowMapping handles fuel false (← valueIfMarked handles fuel endsFlowValue .flow keyed)
  | fuel + 1, progress => do
    let (tokens, events) ← node handles fuel .flow progress
    flowMapping handles fuel false (tokens, empty :: events)

end

/-- Reads the directives in front of a document: at most one version, and each handle once. -/
def directives : List Token → Bool → Handles → Except Fault (List Token × Handles)
  | .version major minor :: rest, versioned, handles =>
    if versioned then .error .repeatedDirective
    else if major = 1 ∧ (minor = 1 ∨ minor = 2) then directives rest true handles
    else .error .unsupportedVersion
  | .tagHandle handle expansion :: rest, versioned, handles =>
    if (handles.lookup handle).isSome then .error .repeatedDirective
    else directives rest versioned (handles ++ [(handle, expansion)])
  | tokens, _, handles => .ok (tokens, handles)

/-- Whether a document has no content in front of this token. -/
def leavesDocument : Token → Bool
  | .version _ _ | .tagHandle _ _ | .documentStart | .documentEnd | .streamEnd => true
  | _ => false

/-- The events of the only document in some tokens. -/
def ofTokens (tokens : List Token) : Except Fault (List (Event (List Char))) := do
  let fuel := 4 * tokens.length + 8
  let (rest, events) ←
    match tokens with
    | .streamEnd :: _ => .ok (tokens, [empty])
    | .version _ _ :: _ | .tagHandle _ _ :: _ | .documentStart :: _ =>
      match ← directives tokens false [] with
      | (.documentStart :: rest, declared) =>
        nodeUnless (declared ++ standardHandles) fuel leavesDocument .block (rest, [])
      | _ => .error .unexpectedToken
    | _ => node standardHandles fuel .block (tokens, [])
  match rest.dropWhile (· = .documentEnd) with
  | [.streamEnd] => return events.reverse
  | _ => throw .severalDocuments

end Event

end RemoteDevice.Yaml
