import RemoteDevice.Yaml.Token.Scalar
import RemoteDevice.Yaml.Token

/-!
The tokens of node properties, anchors and tags, and those of directives. A tag is a handle with a
suffix or, in angle brackets, a whole name; percent escapes in it stand for the bytes of
characters.
-/
set_option autoImplicit false

namespace RemoteDevice.Yaml

namespace TagText

/-- The characters that stand for themselves in a tag. -/
def isTagChar (verbatim : Bool) (x : Char) : Bool :=
  isWord x || ";/?:@&=+$.!~*'()".toList.contains x || (verbatim && ",[]".toList.contains x)

/-- The byte that a percent sign and two digits stand for. -/
def octet? : List Char → Option Nat
  | '%' :: a :: b :: _ => QuotedScalar.hexNumber? [a, b]
  | _ => none

/-- The number of bytes of a character and the part of its code that the first byte holds. -/
def leadingOctet? (octet : Nat) : Option (Nat × Nat) :=
  if octet < 0x80 then some (1, octet)
  else if octet < 0xC0 then none
  else if octet < 0xE0 then some (2, octet % 0x20)
  else if octet < 0xF0 then some (3, octet % 0x10)
  else if octet < 0xF8 then some (4, octet % 0x08)
  else none

/-- Adds `n` more bytes to a code. -/
def trailingOctets : Nat → Nat → List Char → Option Nat
  | 0, code, _ => some code
  | n + 1, code, l => do
    let octet ← octet? l
    if 0x80 ≤ octet ∧ octet < 0xC0 then trailingOctets n (code * 64 + octet % 64) (l.drop 3)
    else none

/-- The smallest code that takes the given number of bytes. -/
def smallestCode : Nat → Nat
  | 1 => 0
  | 2 => 0x80
  | 3 => 0x800
  | _ => 0x10000

/-- The character that percent escapes stand for, and the number of its bytes. -/
def escaped? (l : List Char) : Option (Char × Nat) := do
  let (n, start) ← leadingOctet? (← octet? l)
  let code ← trailingOctets (n - 1) start (l.drop 3)
  if smallestCode n ≤ code ∧ code.isValidChar then some (Char.ofNat code, n) else none

/-- Reads the characters of a tag with the escapes resolved; `done` holds those read so far, the
last one first. -/
def read (verbatim : Bool) : Nat → List Char → Cursor → Except Fault (List Char × Cursor)
  | 0, _, _ => .error .exhausted
  | fuel + 1, done, c =>
    match c.rest with
    | [] => .ok (done.reverse, c)
    | x :: _ =>
      if x = '%' then
        match escaped? c.rest with
        | none => .error .malformedTag
        | some (y, n) => read verbatim fuel (y :: done) (c.skip (3 * n))
      else if isTagChar verbatim x then read verbatim fuel (x :: done) (c.skip 1)
      else .ok (done.reverse, c)

/-- Reads characters of which there has to be one at least. -/
def readSome (verbatim : Bool) (fuel : Nat) (c : Cursor) : Except Fault (List Char × Cursor) := do
  let (text, next) ← read verbatim fuel [] c
  if next.index = c.index then throw .malformedTag
  return (text, next)

/-- Reads an exclamation mark, word characters and a closing mark if there is one. -/
def readHandle (c : Cursor) : Except Fault (List Char × Cursor) :=
  if !c.sees '!' then .error .malformedTag
  else
    let (name, c) := (c.skip 1).span isWord
    if c.sees '!' then .ok ('!' :: name ++ ['!'], c.skip 1) else .ok ('!' :: name, c)

/-- Whether the text between the marks can name a handle, so that a suffix has to follow. -/
def isHandle (handle : List Char) : Bool := 1 < handle.length && handle.getLast? == some '!'

end TagText

namespace Token

/-- Reads an anchor or alias after its mark. -/
def readName (c : Cursor) : Except Fault (List Char × Cursor) :=
  let (name, c) := c.span isWord
  let ends : Char → Bool := fun x => isSeparator x || "?:,]\x7d%@\x60".toList.contains x
  if name.isEmpty || !startsOrEnds ends c.rest then .error .malformedName else .ok (name, c)

/-- Reads a tag. The lone mark has no handle and itself as the suffix. -/
def readTag (inFlow : Bool) (fuel : Nat) (c : Cursor) : Except Fault (Token × Cursor) := do
  let (token, c) ←
    if c.ahead? 1 = some '<' then do
      let (name, c) ← TagText.readSome true fuel (c.skip 2)
      if !c.sees '>' then throw .malformedTag
      pure (tag [] name, c.skip 1)
    else do
      let (handle, c) ← TagText.readHandle c
      if TagText.isHandle handle then
        let (suffix, c) ← TagText.readSome false fuel c
        pure (tag handle suffix, c)
      else
        let (more, c) ← TagText.read false fuel [] c
        match handle.drop 1 ++ more with
        | [] => pure (tag [] ['!'], c)
        | suffix => pure (tag ['!'] suffix, c)
  if !endsWord c.rest && !(inFlow && c.sees ',') then throw .malformedTag
  return (token, c)

/-- Reads a number of at most nine digits. -/
def readVersionNumber (c : Cursor) : Except Fault (Nat × Cursor) :=
  let (digits, c) := c.span Char.isDigit
  if digits.isEmpty || 9 < digits.length then .error .malformedDirective
  else .ok (Nat.ofDigitChars 10 digits 0, c)

def readVersion (c : Cursor) : Except Fault (Token × Cursor) := do
  let (major, c) ← readVersionNumber (c.skipWhile isSpaceOrTab)
  if !c.sees '.' then throw .malformedDirective
  let (minor, c) ← readVersionNumber (c.skip 1)
  return (version major minor, c)

def readTagHandle (fuel : Nat) (c : Cursor) : Except Fault (Token × Cursor) := do
  let (handle, c) ← TagText.readHandle (c.skipWhile isSpaceOrTab)
  if handle != ['!'] && !TagText.isHandle handle then throw .malformedDirective
  let after := c.skipWhile isSpaceOrTab
  if after.index = c.index then throw .malformedDirective
  let (expansion, c) ← TagText.readSome true fuel after
  if !endsWord c.rest then throw .malformedDirective
  return (tagHandle handle expansion, c)

/-- Reads a directive with the rest of its line. -/
def readDirective (fuel : Nat) (c : Cursor) : Except Fault (Token × Cursor) := do
  let (name, c) := (c.skip 1).span isWord
  if !endsWord c.rest then throw .malformedDirective
  let (token, c) ←
    if name = "YAML".toList then readVersion c
    else if name = "TAG".toList then readTagHandle fuel c
    else throw .malformedDirective
  let c := c.skipComment
  if !endsLine c.rest then throw .malformedDirective
  return (token, c.skipBreak)

end Token

end RemoteDevice.Yaml
