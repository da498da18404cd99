import RemoteDevice.Yaml.Event
import RemoteDevice.Yaml.Token.Lexer

/-!
A document whose aliases lead to places among its events, and readers of its nodes. The anchors
are numbered by how many different names have been seen so far, so an anchor that is defined again
takes a new number, which the next new name takes over. A reader may follow a hundred aliases for
each event of the document and go 128 collections deep.
-/
set_option autoImplicit false

namespace RemoteDevice.Yaml

/-- The number of an anchor and the place of its node. -/
structure Anchor where
  number : Nat
  position : Nat
deriving DecidableEq, Repr

namespace Event

def anchor? : Event (List Char) → Option (List Char)
  | scalar p _ _ | sequenceStart p | mappingStart p => p.anchor
  | _ => none

/-- The event with the number of its target, if it is an alias. -/
def resolve? (numbers : List (List Char × Nat)) : Event (List Char) → Option (Event Nat)
  | .alias name => (numbers.lookup name).map .alias
  | scalar p style text => some (scalar p style text)
  | sequenceStart p => some (sequenceStart p)
  | sequenceEnd => some sequenceEnd
  | mappingStart p => some (mappingStart p)
  | mappingEnd => some mappingEnd

end Event

structure Document where
  events : List (Event Nat)
  /-- The anchors, the last one first. -/
  anchors : List Anchor
deriving DecidableEq, Repr

namespace Document

/-- The names of anchors with their numbers. -/
abbrev Names : Type := List (List Char × Nat)

/-- Gives a name the next number, which stands in the way of an earlier one. -/
def declare (names : Names) (name : List Char) : Names :=
  (name, names.length) :: names.filter fun entry => entry.1 != name

/-- Gives the events from a place on to a document; the aliases name anchors in front of them. -/
def link (names : Names) (position : Nat) (d : Document) :
    List (Event (List Char)) → Except Fault Document
  | [] => .ok { d with events := d.events.reverse }
  | e :: rest =>
    match e.resolve? names with
    | none => .error .undefinedAnchor
    | some resolved =>
      let d := { d with events := resolved :: d.events }
      match e.anchor? with
      | none => link names (position + 1) d rest
      | some name =>
        link (declare names name) (position + 1)
          { d with anchors := ⟨names.length, position⟩ :: d.anchors } rest

/-- The document that a text holds; an empty text holds an empty node. -/
def parse (text : List Char) : Except Fault Document := do
  link [] 0 ⟨[], []⟩ (← Event.ofTokens (← Token.scan text))

/-- The events from the node with the given anchor on. -/
def target (d : Document) (number : Nat) : List (Event Nat) :=
  match d.anchors.find? fun a => a.number = number with
  | some a => d.events.drop a.position
  | none => []

end Document

/-- Where a reader stands. -/
structure Place where
  rest : List (Event Nat)
  /-- How many aliases have been followed. -/
  aliases : Nat := 0
deriving DecidableEq, Repr

/-- Reads nodes from the events. -/
abbrev Reader (α : Type) : Type := StateT Place (Except Fault) α

namespace Reader

variable {α : Type}

def next : Reader (Event Nat) := do
  let place ← get
  match place.rest with
  | [] => throw .unexpectedToken
  | e :: rest =>
    set { place with rest }
    return e

/-- Reads a node, through an alias if there is one. -/
def follow (d : Document) (read : Reader α) : Reader α := do
  let place ← get
  match place.rest with
  | .alias number :: rest =>
    if d.events.length * 100 < place.aliases + 1 then throw .tooManyAliases
    set { place with rest := d.target number, aliases := place.aliases + 1 }
    let a ← read
    modify fun reached => { reached with rest }
    return a
  | _ => read

/-- Reads nodes one after the other, each with what has been read before it, up to the end of the
collection. -/
def foldUntil {σ : Type} (finish : Event Nat) (read : σ → Reader σ) : Nat → σ → Reader σ
  | 0, _ => throw .exhausted
  | fuel + 1, acc => do
    let place ← get
    if place.rest.head? = some finish then
      set { place with rest := place.rest.drop 1 }
      return acc
    else foldUntil finish read fuel (← read acc)

def fold {σ : Type} (finish : Event Nat) (start : σ) (read : σ → Reader σ) : Reader σ := do
  foldUntil finish read ((← get).rest.length + 1) start

/-- Passes over a node without looking into it; `depth` counts the open collections around it. -/
def skipNode : Nat → Nat → Reader Unit
  | 0, _ => throw .exhausted
  | fuel + 1, depth => do
    let after ← match ← next with
      | .sequenceStart _ | .mappingStart _ => pure (depth + 1)
      | .sequenceEnd | .mappingEnd => pure (depth - 1)
      | _ => pure depth
    if after = 0 then return () else skipNode fuel after

def skip : Reader Unit := do
  skipNode ((← get).rest.length + 1) 0

/-- Reads a scalar as its text, whatever it stands for. -/
def text (d : Document) : Reader String :=
  follow d do
    match ← next with
    | .scalar _ _ s => return String.ofList s
    | _ => throw .unfitNode

/-- What the reader makes of a whole document. -/
def run (read : Document → Reader α) (text : List Char) : Except Fault α := do
  let d ← Document.parse text
  let (a, _) ← StateT.run (read d) { rest := d.events }
  return a

end Reader

/-- How deep collections may lie in one another. -/
def maxDepth : Nat := 128

end RemoteDevice.Yaml
