import RemoteDevice.Yaml.Scalar

/-!
Writing a text as a scalar. It is written as it is where that is read back as the text, and
otherwise between quotes; a text with line feeds is written as a block of lines.
-/
set_option autoImplicit false

namespace RemoteDevice.Yaml.Scalar

/-- How a text is laid out. -/
inductive Layout where
  | plain
  | singleQuoted
  | doubleQuoted
  | literal
deriving DecidableEq, Repr

/-- Words that other readers take for truth values. -/
def isSwitchWord (l : List Char) : Bool :=
  ["y", "Y", "yes", "Yes", "YES", "n", "N", "no", "No", "NO", "on", "On", "ON", "off", "Off",
    "OFF"].any fun s => s.toList == l

/-- Whether the plain text would be, or might be, taken for something else than a text. -/
def isAmbiguous (l : List Char) : Bool :=
  isSwitchWord l || hasNeedlessZero l ||
    match ofPlain l with
    | .ok (text _) => false
    | _ => true

/-- The characters that need no escape in any layout. -/
def isShown (c : Char) : Bool :=
  let n := c.toNat
  c = '\n' || (0x20 ≤ n && n ≤ 0x7E) || (0xA0 ≤ n && n ≤ 0xD7FF) ||
    (0xE000 ≤ n && n ≤ 0xFFFD && c ≠ byteOrderMark)

def isSpace (c : Char) : Bool := c = ' '

/-- Whether a character of the first kind stands right before one of the second. -/
def hasPair (p q : Char → Bool) : List Char → Bool
  | a :: b :: rest => (p a && q b) || hasPair p q (b :: rest)
  | _ => false

/-- Characters that cannot start a plain text. -/
def isIndicator (c : Char) : Bool :=
  isFlowIndicator c ||
    ['#', '&', '*', '!', '|', '>', '\'', '"', '%', '@', '\x60'].contains c

/-- Whether the text starts like a mark of structure. -/
def startsLikeMark : List Char → Bool
  | '-' :: '-' :: '-' :: _ => true
  | '.' :: '.' :: '.' :: _ => true
  | c :: rest => isIndicator c || (['-', '?', ':'].contains c && endsWord rest)
  | [] => false

/-- Whether a key or a comment would be seen in the plain text. -/
def holdsMark (l : List Char) : Bool :=
  l.getLast? = some ':' || hasPair (· = ':') isSeparator l || hasPair isSeparator (· = '#') l

def allowsPlain (l : List Char) : Bool :=
  l.all (fun c => isShown c && !isBreak c) && !startsLikeMark l && !holdsMark l &&
    !l.head?.any isSpace && !l.getLast?.any isSpace

/-- Between single quotes the spaces next to a line break are lost. -/
def allowsSingleQuoted (l : List Char) : Bool :=
  l.all isShown && !hasPair isBreak isSpace l && !hasPair isSpace isBreak l

def allowsLiteral (l : List Char) : Bool :=
  l.all isShown && !hasPair isSpace isBreak l && !l.getLast?.any isSpace

def layout (l : List Char) : Layout :=
  if l.contains '\n' then if allowsLiteral l then .literal else .doubleQuoted
  else if !isAmbiguous l && allowsPlain l then .plain
  else if allowsSingleQuoted l then .singleQuoted
  else .doubleQuoted

/-- The letter of the short escape for a character. -/
def escapeLetter? : Char → Option Char
  | '\x00' => some '0'
  | '\x07' => some 'a'
  | '\x08' => some 'b'
  | '\t' => some 't'
  | '\n' => some 'n'
  | '\x0b' => some 'v'
  | '\x0c' => some 'f'
  | '\r' => some 'r'
  | '\x1b' => some 'e'
  | '"' => some '"'
  | '\\' => some '\\'
  | '\u0085' => some 'N'
  | '\u00a0' => some '_'
  | '\u2028' => some 'L'
  | '\u2029' => some 'P'
  | _ => none

/-- Reading knows every short escape that is written. -/
theorem shortEscape?_of_escapeLetter? {c x : Char} (h : escapeLetter? c = some x) :
    QuotedScalar.shortEscape? x = some c := by
  unfold escapeLetter? at h
  split at h <;> first | (cases h; rfl) | cases h

/-- A number in hexadecimal digits, filled up with zeros. -/
def hexDigits (width n : Nat) : List Char :=
  let digits := (Nat.toDigits 16 n).map Char.toUpper
  List.replicate (width - digits.length) '0' ++ digits

/-- The escape of a character between double quotes. -/
def escape (c : Char) : List Char :=
  match escapeLetter? c with
  | some letter => ['\\', letter]
  | none =>
    let n := c.toNat
    if n ≤ 0xFF then '\\' :: 'x' :: hexDigits 2 n
    else if n ≤ 0xFFFF then '\\' :: 'u' :: hexDigits 4 n
    else '\\' :: 'U' :: hexDigits 8 n

def doubleQuotedChar (c : Char) : List Char :=
  if isShown c && !isBreak c && c ≠ '"' && c ≠ '\\' then [c] else escape c

def doubleQuoted (l : List Char) : List Char := '"' :: l.flatMap doubleQuotedChar ++ ['"']

/-- Starts every line of the text that is not empty with spaces; `fresh` says whether the text
begins on a new line. -/
def indentLines (indent : Nat) (fresh : Bool) : List Char → List Char
  | [] => []
  | c :: rest =>
    if isBreak c then c :: indentLines indent true rest
    else if fresh then List.replicate indent ' ' ++ c :: indentLines indent false rest
    else c :: indentLines indent false rest

/-- The text between single quotes, in which a quote is written twice. The closing quote counts
as a character of its line. -/
def singleQuoted (indent : Nat) (l : List Char) : List Char :=
  let doubled := l.flatMap fun c => if c = '\'' then ['\'', '\''] else [c]
  let closing := if l.getLast?.any isBreak then List.replicate indent ' ' else []
  '\'' :: indentLines indent false doubled ++ closing ++ ['\'']

/-- Says how deep a block is indented, where its first line does not show that. -/
def indentHint (step : Nat) (l : List Char) : List Char :=
  if l.head?.any fun c => isSpace c || isBreak c then Nat.toDigits 10 step else []

/-- Says what becomes of the line breaks at the end of a block: without a hint one of them stays. -/
def chompHint (l : List Char) : List Char :=
  match l.reverse with
  | [] => ['-']
  | [c] => if isBreak c then ['+'] else ['-']
  | c :: d :: _ => if !isBreak c then ['-'] else if isBreak d then ['+'] else []

/-- How much deeper than what holds it a block is indented. -/
def indentStep : Nat := 2

/-- A block of lines with its header. -/
def literal (indent : Nat) (l : List Char) : List Char :=
  '|' :: indentHint indentStep l ++ chompHint l ++ '\n' :: indentLines indent true l

/-- Writes the text and ends the line; `indent` is the depth of further lines. -/
def print (indent : Nat) (l : List Char) : List Char :=
  match layout l with
  | .plain => l ++ ['\n']
  | .singleQuoted => singleQuoted indent l ++ ['\n']
  | .doubleQuoted => doubleQuoted l ++ ['\n']
  | .literal => literal indent l ++ if l.getLast?.any isBreak then [] else ['\n']

end RemoteDevice.Yaml.Scalar
