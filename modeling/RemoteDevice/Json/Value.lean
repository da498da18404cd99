/-!
JSON values and how they are written over several lines: two spaces for each level, and an escape
for quotes, backslashes and controls.
-/
set_option autoImplicit false

namespace RemoteDevice

inductive Json where
  | null
  | bool (b : Bool)
  /-- The number `mantissa / 10 ^ places`; with no places it was written as a whole number. -/
  | number (mantissa : Int) (places : Nat)
  | text (s : String)
  | array (items : List Json)
  | object (members : List (String × Json))
deriving Repr, Inhabited

namespace Json

/-- Whole numbers. -/
def int (n : Int) : Json := number n 0

def hexDigit (n : Nat) : Char := (Nat.toDigits 16 n).headD '0'

/-- The written form of one character between quotes. -/
def escapeChar (c : Char) : List Char :=
  if c = '"' then ['\\', '"']
  else if c = '\\' then ['\\', '\\']
  else if c = '\n' then ['\\', 'n']
  else if c = '\r' then ['\\', 'r']
  else if c = '\t' then ['\\', 't']
  else if c = '\x08' then ['\\', 'b']
  else if c = '\x0c' then ['\\', 'f']
  else if c.toNat < 0x20 then
    ['\\', 'u', '0', '0', hexDigit (c.toNat / 16), hexDigit (c.toNat % 16)]
  else [c]

def quoted (s : String) : List Char := '"' :: s.toList.flatMap escapeChar ++ ['"']

def indentation (level : Nat) : List Char := '\n' :: List.replicate (2 * level) ' '

def numberChars (mantissa : Int) (places : Nat) : List Char :=
  let digits := Nat.toDigits 10 mantissa.natAbs
  let padded := List.replicate (places + 1 - digits.length) '0' ++ digits
  (if mantissa < 0 then ['-'] else []) ++
    (if places = 0 then digits
      else padded.take (padded.length - places) ++ '.' :: padded.drop (padded.length - places))

mutual

/-- The written form of a value inside of `level` collections. -/
def prettyChars (level : Nat) : Json → List Char
  | null => ['n', 'u', 'l', 'l']
  | bool true => ['t', 'r', 'u', 'e']
  | bool false => ['f', 'a', 'l', 's', 'e']
  | number mantissa places => numberChars mantissa places
  | text s => quoted s
  | array [] => ['[', ']']
  | array (item :: rest) =>
    '[' :: indentation (level + 1) ++ prettyChars (level + 1) item ++
      moreItems (level + 1) rest ++ indentation level ++ [']']
  | object [] => ['{', '}']
  | object (member :: rest) =>
    '{' :: indentation (level + 1) ++ memberChars (level + 1) member ++
      moreMembers (level + 1) rest ++ indentation level ++ ['}']

def moreItems (level : Nat) : List Json → List Char
  | [] => []
  | item :: rest => ',' :: indentation level ++ prettyChars level item ++ moreItems level rest

def memberChars (level : Nat) : String × Json → List Char
  | (name, value) => quoted name ++ [':', ' '] ++ prettyChars level value

def moreMembers (level : Nat) : List (String × Json) → List Char
  | [] => []
  | member :: rest =>
    ',' :: indentation level ++ memberChars level member ++ moreMembers level rest

end

def pretty (j : Json) : String := String.ofList (prettyChars 0 j)

end Json

end RemoteDevice
