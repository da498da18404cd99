/-!
The characters of YAML texts, and a place in a text that is read from the left. Lines and columns
are counted in characters; a carriage return with a line feed is one line break.
-/
set_option autoImplicit false

namespace RemoteDevice.Yaml

/-- The characters that a document may hold. -/
def isAllowed (c : Char) : Bool :=
  let n := c.toNat
  n = 0x09 || n = 0x0A || n = 0x0D || (0x20 ≤ n && n ≤ 0x7E) || n = 0x85 ||
    (0xA0 ≤ n && n ≤ 0xD7FF) || (0xE000 ≤ n && n ≤ 0xFFFD) || 0x10000 ≤ n

/-- Line feed, carriage return, next line, line separator and paragraph separator. -/
def isBreak (c : Char) : Bool :=
  c = '\n' || c = '\r' || c = '\u0085' || c = '\u2028' || c = '\u2029'

def isSpaceOrTab (c : Char) : Bool := c = ' ' || c = '\t'

/-- Whether the character separates words, within a line or between lines. -/
def isSeparator (c : Char) : Bool := isSpaceOrTab c || isBreak c

/-- The characters of anchors, directives and tag handles. -/
def isWord (c : Char) : Bool := c.isAlphanum || c = '_' || c = '-'

/-- The characters that separate and enclose entries in flow collections. -/
def isFlowIndicator : Char → Bool
  | ',' | '[' | ']' | '{' | '}' => true
  | _ => false

/-- The byte order mark that may open a text. -/
def byteOrderMark : Char := '\uFEFF'

/-- Whether nothing follows, or a character of the given kind. -/
def startsOrEnds (p : Char → Bool) : List Char → Bool
  | [] => true
  | c :: _ => p c

/-- Whether a text ends a word at its start. -/
def endsWord (l : List Char) : Bool := startsOrEnds isSeparator l

/-- Whether a text ends a line at its start. -/
def endsLine (l : List Char) : Bool := startsOrEnds isBreak l

structure Cursor where
  /-- What is still to be read. -/
  rest : List Char
  index : Nat := 0
  line : Nat := 0
  column : Nat := 0
deriving DecidableEq, Repr

namespace Cursor

/-- The character `n` places ahead. -/
def ahead? (c : Cursor) (n : Nat) : Option Char := c.rest[n]?

/-- Whether the next character is `x`. -/
def sees (c : Cursor) (x : Char) : Bool := c.rest.head? == some x

/-- Moves past `n` characters of the same line. -/
def skip (c : Cursor) (n : Nat) : Cursor :=
  { c with rest := c.rest.drop n, index := c.index + n, column := c.column + n }

/-- Moves past the characters of the line that satisfy `p`, and gives them. -/
def span (c : Cursor) (p : Char → Bool) : List Char × Cursor :=
  let run := c.rest.takeWhile p
  (run, c.skip run.length)

def skipWhile (c : Cursor) (p : Char → Bool) : Cursor := (c.span p).2

/-- What a line break stands for: a line feed, except for the two separators, which stand for
themselves. With it the cursor after the break; at the end of the text there is none. -/
def takeBreak (c : Cursor) : List Char × Cursor :=
  match c.rest with
  | [] => ([], c)
  | '\r' :: '\n' :: rest => (['\n'], ⟨rest, c.index + 2, c.line + 1, 0⟩)
  | x :: rest =>
    let text := if x = '\u2028' || x = '\u2029' then x else '\n'
    ([text], ⟨rest, c.index + 1, c.line + 1, 0⟩)

/-- Moves past a line break, if the cursor is at one. -/
def skipBreak (c : Cursor) : Cursor :=
  if (c.rest.head?.map isBreak).getD false then c.takeBreak.2 else c

/-- Whether a line starts here that consists of the three marks, alone or before a separator. -/
def atMark (c : Cursor) (mark : Char) : Bool :=
  c.column = 0 && c.rest.take 3 == [mark, mark, mark] && endsWord (c.rest.drop 3)

/-- Whether a line that starts or ends a document begins here. -/
def atDocumentMark (c : Cursor) : Bool := c.atMark '-' || c.atMark '.'

/-- Moves to the end of a line that holds no more than spaces and a comment. -/
def skipComment (c : Cursor) : Cursor :=
  let c := c.skipWhile isSpaceOrTab
  if c.sees '#' then c.skipWhile fun x => !isBreak x else c

end Cursor

end RemoteDevice.Yaml
