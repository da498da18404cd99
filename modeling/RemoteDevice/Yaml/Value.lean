import RemoteDevice.Yaml.Document
import RemoteDevice.Yaml.Scalar

/-!
The values of YAML documents. The keys of a mapping are pairwise different, where two mappings
count as the same if they hold the same pairs in any order.
-/
set_option autoImplicit false

namespace RemoteDevice.Yaml

inductive Value where
  | null
  | bool (b : Bool)
  | number (n : Number)
  | text (s : String)
  | sequence (items : List Value)
  | mapping (pairs : List (Value × Value))
  | tagged (tag : String) (value : Value)

namespace Value

/-- What a value is, with an article where it takes one. -/
def kind : Value → String
  | null => "null"
  | bool _ => "a boolean"
  | number _ => "a number"
  | text _ => "a string"
  | sequence _ => "a sequence"
  | mapping _ => "a mapping"
  | tagged _ _ => "a tagged value"

/-- The value without its tags. -/
def untagged : Value → Value
  | tagged _ v => v.untagged
  | v => v

/-- The text that a value is, tags apart. -/
def text? (v : Value) : Option String :=
  match v.untagged with
  | text s => some s
  | _ => none

/-- A tag without a leading exclamation mark. -/
def bareTag (tag : String) : List Char :=
  match tag.toList with
  | '!' :: x :: rest => x :: rest
  | l => l

mutual

/-- Whether two keys are the same. -/
def same (v w : Value) : Bool :=
  match v, w with
  | null, null => true
  | bool a, bool b => a == b
  | number a, number b => a.same b
  | text a, text b => a == b
  | sequence as, sequence bs => sameItems as bs
  | mapping as, mapping bs => as.length == bs.length && samePairs as bs
  | tagged s a, tagged t b => bareTag s == bareTag t && a.same b
  | _, _ => false
termination_by structural v

def sameItems (as bs : List Value) : Bool :=
  match as, bs with
  | [], [] => true
  | a :: as, b :: bs => a.same b && sameItems as bs
  | _, _ => false
termination_by structural as

/-- Whether each pair of the first list is in the second. -/
def samePairs (as bs : List (Value × Value)) : Bool :=
  match as with
  | [] => true
  | a :: as => (bs.any fun b => samePair a b) && samePairs as bs
termination_by structural as

def samePair (a b : Value × Value) : Bool :=
  match a with
  | (key, value) => key.same b.1 && value.same b.2
termination_by structural a

end

def ofScalar : Scalar → Value
  | .null => null
  | .bool b => bool b
  | .number n => number n
  | .text s => text (String.ofList s)

/-- What a scalar stands for. A tag of its own is left to the caller. -/
def readScalar (tag : Option (List Char)) (style : ScalarStyle) (s : List Char) :
    Except Fault Value :=
  match tag.bind fun t => Scalar.tagged? t s with
  | some scalar => scalar.map ofScalar
  | none =>
    if style = .plain && tag.isNone then (Scalar.ofPlain s).map ofScalar
    else .ok (text (String.ofList s))

/-- The name of a tag of the application, which an exclamation mark opens. The mark alone is a name
as well. -/
def ownTag? : Option (List Char) → Option String
  | some ['!'] => some "!"
  | some ('!' :: name) => some (String.ofList name)
  | _ => none

/-- Puts the tag around the value of a node; the value is read without it. -/
def withTag (tag : Option (List Char)) (read : Option (List Char) → Reader Value) : Reader Value :=
  match ownTag? tag with
  | none => read tag
  | some name => return tagged name (← read none)

/-- Reads the value of a key and adds the pair. -/
def readPair (read : Reader Value) (pairs : List (Value × Value)) :
    Reader (List (Value × Value)) := do
  let key ← read
  if pairs.any fun p => p.1.same key then throw .repeatedKey
  return pairs ++ [(key, ← read)]

/-- Reads a node that is no alias; `deeper` reads the nodes in a collection, if there may be any. -/
def readWith (deeper : Option (Reader Value)) : Reader Value := do
  match ← Reader.next with
  | .scalar p style s => withTag p.tag fun tag => liftM (readScalar tag style s)
  | .sequenceStart p => withTag p.tag fun _ => do
    let some read := deeper | throw .nestedTooDeeply
    return sequence (← Reader.fold .sequenceEnd [] fun items => do return items ++ [← read])
  | .mappingStart p => withTag p.tag fun _ => do
    let some read := deeper | throw .nestedTooDeeply
    return mapping (← Reader.fold .mappingEnd [] (readPair read))
  | _ => throw .unexpectedToken

/-- Reads a node with at most the given number of collections in one another. -/
def readNode (d : Document) : Nat → Reader Value
  | 0 => readWith none
  | depth + 1 => readWith (some (Reader.follow d (readNode d depth)))

/-- The value of the document that a text holds. -/
def parse (text : String) : Except Fault Value :=
  Reader.run (fun d => readNode d maxDepth) text.toList

end Value

end RemoteDevice.Yaml
