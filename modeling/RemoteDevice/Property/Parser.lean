import RemoteDevice.Property.Basic
import RemoteDevice.Text.Blank
import RemoteDevice.Text.Quoted

/-!
Reading a property text, in one pass over its characters. A backslash makes the next character
stand for itself, a plain `;` ends a segment, and the first plain `=` in a segment ends its key. A
blank segment says nothing, every other one is a pair or malformed, and the first malformed segment
decides the error.
-/
set_option autoImplicit false

namespace RemoteDevice

/-- Why a property text is refused; the segment is the source text, without surrounding blanks. -/
inductive PropertyError where
  | missingSeparator (segment : String)
  | emptyKey (segment : String)
  | trailingEscape
deriving DecidableEq, Repr

namespace PropertyError

/-- The part of the text at fault. -/
def segment : PropertyError → String
  | missingSeparator s => s
  | emptyKey s => s
  | trailingEscape => "\\"

def message : PropertyError → String
  | missingSeparator s => "segment " ++ Text.quoted s ++ " has no '='"
  | emptyKey s => "segment " ++ Text.quoted s ++ " has an empty key"
  | trailingEscape => "dangling escape at end of input"

end PropertyError

namespace Properties

/-- A segment as far as it has been read. -/
structure Segment where
  key : List Char := []
  value : List Char := []
  /-- The segment as it was written. -/
  raw : List Char := []
  hasSeparator : Bool := false
deriving DecidableEq, Repr

namespace Segment

/-- Adds a character that stands for itself, written as `source`. -/
def push (seg : Segment) (c : Char) (source : List Char) : Segment :=
  if seg.hasSeparator then { seg with value := seg.value ++ [c], raw := seg.raw ++ source }
  else { seg with key := seg.key ++ [c], raw := seg.raw ++ source }

/-- Ends the key. -/
def separate (seg : Segment) : Segment :=
  { seg with raw := seg.raw ++ ['='], hasSeparator := true }

def excerpt (seg : Segment) : String := String.ofList (Text.trimChars seg.raw)

/-- Puts what a complete segment says into the properties. -/
def finish (seg : Segment) (p : Properties) : Except PropertyError Properties :=
  let key := String.ofList (Text.trimChars seg.key)
  if !seg.hasSeparator then
    if key.isEmpty then .ok p else .error (.missingSeparator seg.excerpt)
  else if key.isEmpty then .error (.emptyKey seg.excerpt)
  else .ok (p.insert key (String.ofList (Text.trimChars seg.value)))

end Segment

/-- Reads the rest of a text, with the segment that it goes on with and what was read before. -/
def parseFrom (seg : Segment) (p : Properties) : List Char → Except PropertyError Properties
  | [] => seg.finish p
  | ['\\'] => .error .trailingEscape
  | '\\' :: c :: rest => parseFrom (seg.push c ['\\', c]) p rest
  | c :: rest =>
    if c = ';' then do
      let p ← seg.finish p
      parseFrom {} p rest
    else if c = '=' && !seg.hasSeparator then parseFrom seg.separate p rest
    else parseFrom (seg.push c [c]) p rest

def parse (s : String) : Except PropertyError Properties := parseFrom {} ∅ s.toList

end Properties

end RemoteDevice
