import RemoteDevice.Yaml.Cursor
import RemoteDevice.Yaml.Fault

/-!
The texts of scalars. Between the lines of a plain or quoted scalar a single line break counts as
a space and of several the first is dropped; so it is in a folded block, except next to lines that
start with a space. The reading loops take the length of the text as their fuel.
-/
set_option autoImplicit false

namespace RemoteDevice.Yaml

/-- What stands between two words of a scalar: spaces, or line breaks with the spaces dropped. -/
inductive Gap where
  | blanks (run : List Char)
  | lines (first more : List Char)
deriving DecidableEq, Repr

namespace Gap

def hasLines : Gap → Bool
  | blanks _ => false
  | lines _ _ => true

/-- The gap as it counts: the first break is folded. -/
def text : Gap → List Char
  | blanks run => run
  | lines ['\n'] [] => [' ']
  | lines ['\n'] more => more
  | lines first more => first ++ more

def addBlank (x : Char) : Gap → Gap
  | blanks run => blanks (run ++ [x])
  | gap => gap

def addBreak (text : List Char) : Gap → Gap
  | blanks _ => lines text []
  | lines first more => lines first (more ++ text)

/-- Reads on to the next word. After a break no tab may stand left of the column `indent`. -/
def read (indent : Int) : Nat → Gap → Cursor → Except Fault (Gap × Cursor)
  | 0, _, _ => .error .exhausted
  | fuel + 1, gap, c =>
    match c.rest with
    | x :: _ =>
      if isSpaceOrTab x then
        if gap.hasLines && x = '\t' && (c.column : Int) < indent then .error .misplacedTab
        else read indent fuel (gap.addBlank x) (c.skip 1)
      else if isBreak x then
        let (text, next) := c.takeBreak
        read indent fuel (gap.addBreak text) next
      else .ok (gap, c)
    | [] => .ok (gap, c)

end Gap

namespace PlainScalar

/-- The characters of one word. A colon before a separator ends it, in a flow collection also a
flow indicator. -/
def word (inFlow : Bool) : List Char → Except Fault (List Char)
  | [] => .ok []
  | x :: rest =>
    if isSeparator x then .ok []
    else if x = ':' && inFlow &&
        (rest.head?.map fun y => isFlowIndicator y || y = '?').getD false then
      .error .ambiguousColon
    else if x = ':' && endsWord rest then .ok []
    else if inFlow && isFlowIndicator x then .ok []
    else (word inFlow rest).map (x :: ·)

/-- Reads the words from the cursor on, each with the gap before it, until a line starts left of
`indent`. Tells also whether line breaks follow the last word. -/
def read (inFlow : Bool) (indent : Int) :
    Nat → Gap → List Char → Cursor → Except Fault (List Char × Bool × Cursor)
  | 0, _, _, _ => .error .exhausted
  | fuel + 1, gap, text, c =>
    if c.atDocumentMark || c.sees '#' then .ok (text, gap.hasLines, c)
    else do
      let run ← word inFlow c.rest
      if run.isEmpty then return (text, gap.hasLines, c)
      let text := text ++ gap.text ++ run
      let c := c.skip run.length
      if !(c.rest.head?.map isSeparator).getD false then return (text, false, c)
      let (gap, c) ← Gap.read indent fuel (.blanks []) c
      if !inFlow && (c.column : Int) < indent then return (text, gap.hasLines, c)
      read inFlow indent fuel gap text c

end PlainScalar

namespace QuotedScalar

def hexDigit? (x : Char) : Option Nat :=
  if x.isDigit then some (x.toNat - '0'.toNat)
  else if 'a' ≤ x ∧ x ≤ 'f' then some (x.toNat - 'a'.toNat + 10)
  else if 'A' ≤ x ∧ x ≤ 'F' then some (x.toNat - 'A'.toNat + 10)
  else none

/-- The number that hexadecimal digits give. -/
def hexNumber? (digits : List Char) : Option Nat :=
  digits.foldlM (fun n x => (hexDigit? x).map fun d => n * 16 + d) 0

/-- The character for the letter of a short escape. -/
def shortEscape? : Char → Option Char
  | '0' => some '\x00'
  | 'a' => some '\x07'
  | 'b' => some '\x08'
  | 't' => some '\t'
  | '\t' => some '\t'
  | 'n' => some '\n'
  | 'v' => some '\x0b'
  | 'f' => some '\x0c'
  | 'r' => some '\r'
  | 'e' => some '\x1b'
  | ' ' => some ' '
  | '"' => some '"'
  | '/' => some '/'
  | '\\' => some '\\'
  | 'N' => some '\u0085'
  | '_' => some '\u00a0'
  | 'L' => some '\u2028'
  | 'P' => some '\u2029'
  | _ => none

/-- The number of digits of an escape by code. -/
def codeLength? : Char → Option Nat
  | 'x' => some 2
  | 'u' => some 4
  | 'U' => some 8
  | _ => none

/-- The character of the escape after a backslash, and the length of the escape without it. -/
def escape (l : List Char) : Except Fault (Char × Nat) :=
  match l with
  | [] => .error .malformedEscape
  | x :: rest =>
    match shortEscape? x, codeLength? x with
    | some y, _ => .ok (y, 1)
    | none, some n =>
      match hexNumber? (rest.take n) with
      | some code =>
        if n ≤ rest.length && code.isValidChar then .ok (Char.ofNat code, n + 1)
        else .error .malformedEscape
      | none => .error .malformedEscape
    | none, none => .error .malformedEscape

/-- Where a run of quoted characters stops. -/
inductive Stop where
  | quote
  | separator
  /-- A line break that a backslash cancels. -/
  | cancelledBreak
deriving DecidableEq, Repr

/-- Reads the characters up to the closing quote or the next separator; `done` holds those read
so far, the last one first. -/
def run (single : Bool) : Nat → List Char → Cursor → Except Fault (List Char × Stop × Cursor)
  | 0, _, _ => .error .exhausted
  | fuel + 1, done, c =>
    match c.rest with
    | [] => .error .unterminatedQuote
    | x :: rest =>
      if isSeparator x then .ok (done.reverse, .separator, c)
      else if single && x = '\'' && rest.head? == some '\'' then
        run single fuel ('\'' :: done) (c.skip 2)
      else if x = (if single then '\'' else '"') then .ok (done.reverse, .quote, c.skip 1)
      else if !single && x = '\\' then
        if (rest.head?.map isBreak).getD false then
          .ok (done.reverse, .cancelledBreak, (c.skip 1).takeBreak.2)
        else
          match escape rest with
          | .error e => .error e
          | .ok (y, n) => run single fuel (y :: done) (c.skip (n + 1))
      else run single fuel (x :: done) (c.skip 1)

/-- Reads the words from the cursor on, up to and with the closing quote. -/
def read (single : Bool) : Nat → List Char → Cursor → Except Fault (List Char × Cursor)
  | 0, _, _ => .error .exhausted
  | fuel + 1, text, c =>
    if c.atDocumentMark then .error .unterminatedQuote
    else
      match run single (fuel + 1) [] c with
      | .error e => .error e
      | .ok (word, .quote, c) => .ok (text ++ word, c)
      | .ok (word, stop, c) =>
        let gap := if stop = .cancelledBreak then Gap.lines [] [] else .blanks []
        match Gap.read 0 (fuel + 1) gap c with
        | .error e => .error e
        | .ok (gap, c) => read single fuel (text ++ word ++ gap.text) c

end QuotedScalar

namespace BlockScalar

/-- What becomes of the line breaks at the end. -/
inductive Chomping where
  | clip
  | strip
  | keep
deriving DecidableEq, Repr

structure Header where
  chomping : Chomping := .clip
  /-- By how much the text is indented, if the header says so. -/
  increment : Option Nat := none
deriving DecidableEq, Repr

def chomping? : Char → Option Chomping
  | '+' => some .keep
  | '-' => some .strip
  | _ => none

/-- An indicator of the indentation, which is a digit but zero. -/
def increment? (l : List Char) : Except Fault (Option Nat) :=
  match l with
  | x :: _ =>
    if x = '0' then .error .malformedBlockHeader
    else if x.isDigit then .ok (some (x.toNat - '0'.toNat))
    else .ok none
  | [] => .ok none

/-- Reads the two indicators in either order, and the rest of the line. -/
def header (c : Cursor) : Except Fault (Header × Cursor) := do
  let chompedFirst := c.rest.head?.bind chomping?
  let c := if chompedFirst.isSome then c.skip 1 else c
  let increment ← increment? c.rest
  let c := if increment.isSome then c.skip 1 else c
  let chompedLast :=
    if chompedFirst.isNone && increment.isSome then c.rest.head?.bind chomping? else none
  let c := if chompedLast.isSome then c.skip 1 else c
  let c := c.skipComment
  if !endsLine c.rest then throw .malformedBlockHeader
  return (⟨(chompedFirst.or chompedLast).getD .clip, increment⟩, c.skipBreak)

/-- Reads blank lines and the indentation of the next line. As long as the indentation is not
known, all spaces belong to it and the deepest line found so far is noted. -/
def blankLines (indent : Option Nat) :
    Nat → Nat → List Char → Cursor → Except Fault (Nat × List Char × Cursor)
  | 0, _, _, _ => .error .exhausted
  | fuel + 1, deepest, breaks, c =>
    let spaces := (c.rest.takeWhile (· = ' ')).length
    let c := c.skip (match indent with | some n => min spaces (n - c.column) | none => spaces)
    let deepest := max deepest c.column
    if c.sees '\t' && (indent.map fun n => decide (c.column < n)).getD true then
      .error .misplacedTab
    else if (c.rest.head?.map isBreak).getD false then
      let (text, next) := c.takeBreak
      blankLines indent fuel deepest (breaks ++ text) next
    else .ok (deepest, breaks, c)

/-- What has been read of a block, and the breaks that may still be folded or chomped. -/
structure Body where
  text : List Char := []
  /-- The break that ends the last line. -/
  lastBreak : List Char := []
  /-- The breaks of the blank lines after it. -/
  blankBreaks : List Char := []
  /-- Whether the last line starts with a space or tab. -/
  spaced : Bool := false
deriving DecidableEq, Repr

/-- The text up to the next line: two lines that do not start with a space are joined. -/
def Body.joined (b : Body) (folded spacedNext : Bool) : List Char :=
  if folded && b.lastBreak == ['\n'] && !b.spaced && !spacedNext then
    b.text ++ (if b.blankBreaks.isEmpty then [' '] else b.blankBreaks)
  else b.text ++ b.lastBreak ++ b.blankBreaks

def Body.chomped (b : Body) : Chomping → List Char
  | .strip => b.text
  | .clip => b.text ++ b.lastBreak
  | .keep => b.text ++ b.lastBreak ++ b.blankBreaks

/-- Reads lines as long as they start at the column `indent`. -/
def lines (folded : Bool) (indent : Nat) : Nat → Body → Cursor → Except Fault (Body × Cursor)
  | 0, _, _ => .error .exhausted
  | fuel + 1, body, c =>
    if c.column ≠ indent || c.rest.isEmpty then .ok (body, c)
    else
      let spaced := (c.rest.head?.map isSpaceOrTab).getD false
      let start := body.joined folded spaced
      let (line, c) := c.span fun x => !isBreak x
      let (lastBreak, c) := c.takeBreak
      match blankLines (some indent) (fuel + 1) 0 [] c with
      | .error e => .error e
      | .ok (_, blankBreaks, c) =>
        lines folded indent fuel ⟨start ++ line, lastBreak, blankBreaks, spaced⟩ c

/-- Reads a block scalar after its indicator. The text is indented deeper than `parent`. -/
def read (folded : Bool) (parent : Int) (fuel : Nat) (c : Cursor) :
    Except Fault (List Char × Cursor) := do
  let (header, c) ← header c
  let given : Option Nat := header.increment.map fun n => parent.toNat + n
  let (deepest, breaks, c) ← blankLines given fuel 0 [] c
  let indent := given.getD (max (max deepest (parent + 1).toNat) 1)
  let (body, c) ← lines folded indent fuel { blankBreaks := breaks } c
  return (body.chomped header.chomping, c)

end BlockScalar

end RemoteDevice.Yaml
