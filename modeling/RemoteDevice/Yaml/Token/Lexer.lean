import RemoteDevice.Yaml.Token.Property

/-!
Cutting a text into tokens. In block style the indentation opens and closes collections, so the
lexer holds the columns of the collections that are open. A key is only recognised by the colon
after it: where a key may start, the place is noted, and the tokens of the key are inserted there
once the colon comes. Such a place is forgotten at the end of the line and after 1024 characters.
-/
set_option autoImplicit false

namespace RemoteDevice.Yaml

/-- A place at which a key may have started. -/
structure KeyStart where
  /-- The number of tokens before it. -/
  position : Nat
  index : Nat
  line : Nat
  column : Nat
  /-- Nothing but a key can start here. -/
  required : Bool
deriving DecidableEq, Repr

structure Lexer where
  cursor : Cursor
  /-- The tokens so far, the last one first. -/
  tokens : List Token := []
  /-- The number of tokens so far. -/
  count : Nat := 0
  /-- The column of the innermost open block collection. -/
  indent : Int := -1
  /-- The columns of the block collections around it. -/
  outer : List Int := []
  /-- Whether a key may start at the cursor. -/
  keyAllowed : Bool := true
  /-- For each open flow collection, from within, and for the block around them. -/
  starts : List (Option KeyStart) := [none]
deriving DecidableEq, Repr

namespace Lexer

def inFlow (s : Lexer) : Bool := 1 < s.starts.length

def push (s : Lexer) (t : Token) : Lexer :=
  { s with tokens := t :: s.tokens, count := s.count + 1 }

/-- Moves past the characters of a mark and adds its token. -/
def mark (s : Lexer) (length : Nat) (t : Token) : Lexer :=
  { s.push t with cursor := s.cursor.skip length }

/-- Inserts tokens, given the last one first, after the first `position` tokens. -/
def insert (s : Lexer) (position : Nat) (ts : List Token) : Lexer :=
  let later := s.count - position
  { s with
    tokens := s.tokens.take later ++ ts ++ s.tokens.drop later
    count := s.count + ts.length }

/-- Forgets the places at which a key can no longer have started. -/
def dropStale (s : Lexer) : Except Fault Lexer :=
  let isStale (k : KeyStart) : Bool :=
    k.line < s.cursor.line || k.index + 1024 < s.cursor.index
  if s.starts.any fun k => k.any fun k => isStale k && k.required then .error .missingColon
  else .ok { s with starts := s.starts.map fun k => k.filter fun k => !isStale k }

/-- Forgets the place in the innermost collection. -/
def dropStart (s : Lexer) : Except Fault Lexer :=
  match s.starts with
  | [] => .ok s
  | k :: outer =>
    if k.any KeyStart.required then .error .missingColon
    else .ok { s with starts := none :: outer }

/-- Notes that a key may start at the cursor. -/
def noteStart (s : Lexer) : Except Fault Lexer :=
  if !s.keyAllowed then .ok s
  else do
    let s ← s.dropStart
    let c := s.cursor
    let start : KeyStart :=
      ⟨s.count, c.index, c.line, c.column, !s.inFlow && s.indent = (c.column : Int)⟩
    return { s with starts := some start :: s.starts.drop 1 }

/-- Closes the block collections that are indented deeper than the column. -/
def unroll (column : Int) (s : Lexer) : Lexer :=
  if s.inFlow then s
  else
    let rec close (s : Lexer) : List Int → Lexer
      | [] => s
      | before :: outer =>
        if column < s.indent then close { s.push .blockEnd with indent := before, outer } outer
        else s
    close s s.outer

/-- Whether the column is deeper than the innermost block collection. -/
def opensBlock (s : Lexer) (column : Nat) : Bool := !s.inFlow && s.indent < (column : Int)

/-- Opens a block collection at the column, if it is deeper than the innermost one. -/
def roll (s : Lexer) (column : Nat) (t : Token) : Lexer :=
  if s.opensBlock column then
    { s.push t with indent := column, outer := s.indent :: s.outer }
  else s

/-- Moves to the next token. Tabs may precede it only where no key may start. -/
def skipToToken : Nat → Lexer → Except Fault Lexer
  | 0, _ => .error .exhausted
  | fuel + 1, s =>
    let c := s.cursor
    let c := if c.index = 0 && c.sees byteOrderMark then c.skip 1 else c
    let c := c.skipWhile fun x => x = ' ' || (x = '\t' && (s.inFlow || !s.keyAllowed))
    let c := if c.sees '#' then c.skipWhile fun x => !isBreak x else c
    if (c.rest.head?.map isBreak).getD false then
      skipToToken fuel
        { s with cursor := c.takeBreak.2, keyAllowed := s.keyAllowed || !s.inFlow }
    else .ok { s with cursor := c }

/-- Ends the block in front of a directive or a mark between documents. -/
def leaveDocument (s : Lexer) : Except Fault Lexer := do
  let s ← (s.unroll (-1)).dropStart
  return { s with keyAllowed := false }

def openFlow (s : Lexer) (t : Token) : Except Fault Lexer := do
  let s ← s.noteStart
  return { s.mark 1 t with starts := none :: s.starts, keyAllowed := true }

def closeFlow (s : Lexer) (t : Token) : Except Fault Lexer := do
  let s ← s.dropStart
  let starts := if s.inFlow then s.starts.drop 1 else s.starts
  return { s.mark 1 t with starts, keyAllowed := false }

def flowEntry (s : Lexer) : Except Fault Lexer := do
  let s ← s.dropStart
  return { s.mark 1 .flowEntry with keyAllowed := true }

def blockEntry (s : Lexer) : Except Fault Lexer := do
  if !s.inFlow && !s.keyAllowed then throw .misplacedIndicator
  let s ← (s.roll s.cursor.column .blockSequenceStart).dropStart
  return { s.mark 1 .blockEntry with keyAllowed := true }

/-- An explicit key. -/
def key (s : Lexer) : Except Fault Lexer := do
  if !s.inFlow && !s.keyAllowed then throw .misplacedIndicator
  let s ← (s.roll s.cursor.column .blockMappingStart).dropStart
  return { s.mark 1 .key with keyAllowed := !s.inFlow }

/-- The colon before a value. It makes the place noted last the start of a key. -/
def value (s : Lexer) : Except Fault Lexer := do
  match s.starts with
  | some start :: outer =>
    let opens := s.opensBlock start.column
    let s := s.insert start.position (if opens then [.key, .blockMappingStart] else [.key])
    let s :=
      if opens then { s with indent := start.column, outer := s.indent :: s.outer } else s
    return { s.mark 1 .value with starts := none :: outer, keyAllowed := false }
  | _ =>
    if !s.inFlow && !s.keyAllowed then throw .misplacedIndicator
    let s := s.roll s.cursor.column .blockMappingStart
    return { s.mark 1 .value with keyAllowed := !s.inFlow }

/-- A token that may be the start of a key, and where the text goes on after it. -/
def property (s : Lexer) (read : Cursor → Except Fault (Token × Cursor)) : Except Fault Lexer := do
  let s ← s.noteStart
  let (t, cursor) ← read s.cursor
  return { s.push t with cursor, keyAllowed := false }

def named (t : List Char → Token) (c : Cursor) : Except Fault (Token × Cursor) := do
  let (name, c) ← Token.readName (c.skip 1)
  return (t name, c)

def quoted (single : Bool) (fuel : Nat) (c : Cursor) : Except Fault (Token × Cursor) := do
  let (text, c) ← QuotedScalar.read single fuel [] (c.skip 1)
  return (.scalar .quoted text, c)

def blockScalar (folded : Bool) (fuel : Nat) (s : Lexer) : Except Fault Lexer := do
  let s ← s.dropStart
  let (text, cursor) ← BlockScalar.read folded s.indent fuel (s.cursor.skip 1)
  return { s.push (.scalar .block text) with cursor, keyAllowed := true }

def plainScalar (fuel : Nat) (s : Lexer) : Except Fault Lexer := do
  let s ← s.noteStart
  let (text, newLine, cursor) ←
    PlainScalar.read s.inFlow (s.indent + 1) fuel (.blanks []) [] s.cursor
  return { s.push (.scalar .plain text) with cursor, keyAllowed := newLine }

/-- Whether a plain scalar may start with the character, given what follows it. -/
def startsPlain (inFlow : Bool) (x : Char) (rest : List Char) : Bool :=
  match x with
  | '-' => !(rest.head?.map isSpaceOrTab).getD false
  | '?' | ':' => !inFlow && !endsWord rest
  | '#' | '&' | '*' | '!' | '|' | '>' | '\'' | '"' | '%' | '@' | '\x60' => false
  | x => !isFlowIndicator x && !isSeparator x

/-- Reads the token that starts with `x` at the cursor. -/
def next (fuel : Nat) (s : Lexer) (x : Char) (rest : List Char) : Except Fault Lexer :=
  let c := s.cursor
  let isIndicator := s.inFlow || endsWord rest
  if c.column = 0 && x = '%' then do
    let s ← s.leaveDocument
    let (t, cursor) ← Token.readDirective fuel s.cursor
    return { s.push t with cursor }
  else if c.atMark '-' then s.leaveDocument.map (·.mark 3 .documentStart)
  else if c.atMark '.' then s.leaveDocument.map (·.mark 3 .documentEnd)
  else if x = '[' then s.openFlow .flowSequenceStart
  else if x = '{' then s.openFlow .flowMappingStart
  else if x = ']' then s.closeFlow .flowSequenceEnd
  else if x = '}' then s.closeFlow .flowMappingEnd
  else if x = ',' then s.flowEntry
  else if x = '-' && endsWord rest then s.blockEntry
  else if x = '?' && isIndicator then s.key
  else if x = ':' && isIndicator then s.value
  else if x = '*' then s.property (named .alias)
  else if x = '&' then s.property (named .anchor)
  else if x = '!' then s.property (Token.readTag s.inFlow fuel)
  else if x = '|' && !s.inFlow then s.blockScalar false fuel
  else if x = '>' && !s.inFlow then s.blockScalar true fuel
  else if x = '\'' then s.property (quoted true fuel)
  else if x = '"' then s.property (quoted false fuel)
  else if startsPlain s.inFlow x rest then s.plainScalar fuel
  else .error .unexpectedCharacter

/-- Reads all tokens that are left. -/
def run : Nat → Lexer → Except Fault (List Token)
  | 0, _ => .error .exhausted
  | fuel + 1, s => do
    let s ← skipToToken (fuel + 1) s
    let s ← s.dropStale
    let s := s.unroll s.cursor.column
    match s.cursor.rest with
    | [] =>
      let s ← s.leaveDocument
      return (s.push .streamEnd).tokens.reverse
    | x :: rest => run fuel (← next (fuel + 1) s x rest)

end Lexer

namespace Token

/-- The tokens of a text. -/
def scan (text : List Char) : Except Fault (List Token) :=
  if !text.all isAllowed then .error .forbiddenCharacter
  else Lexer.run (text.length + 2) { cursor := { rest := text } }

end Token

end RemoteDevice.Yaml
