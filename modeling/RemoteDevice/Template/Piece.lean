import RemoteDevice.Template.Field

/-!
Cutting a template into literal characters and directives. A directive is `%`, flags, digits for
the width, optionally a point and digits for the precision, and one character for the conversion;
every part takes as much as it can. A directive that is too wide or has no conversion ends the
list, because nothing after it is ever looked at.
-/
set_option autoImplicit false

namespace RemoteDevice.Template

def isFlag (c : Char) : Bool := c = '-' || c = '0' || c = '+' || c = ' ' || c = ','

/-- The largest number that digits can give; longer ones stay at it. -/
def numberLimit : Nat := UInt64.size - 1

/-- One more decimal digit after `n`, held at the limit. -/
def appendDigit (n : Nat) (c : Char) : Nat :=
  min (min (n * 10) numberLimit + (c.toNat - '0'.toNat)) numberLimit

/-- The number at the start of the text, if there is one, and what follows its digits. -/
def takeNumber (l : List Char) : Option Nat × List Char :=
  let digits := l.takeWhile Char.isDigit
  (if digits.isEmpty then none else some (digits.foldl appendDigit 0), l.dropWhile Char.isDigit)

def ofFlags (flags : List Char) : Directive where
  left := flags.contains '-'
  zero := flags.contains '0'
  plus := flags.contains '+'
  space := flags.contains ' '
  group := flags.contains ','

/-- The layout of the directive after its `%`, and what follows it. -/
def readLayout (l : List Char) : Directive × List Char :=
  let flags := l.takeWhile isFlag
  let (width, afterWidth) := takeNumber (l.dropWhile isFlag)
  let d := { ofFlags flags with width := width.getD 0 }
  match afterWidth with
  | '.' :: rest =>
    let (precision, after) := takeNumber rest
    ({ d with precision := some (precision.getD 0) }, after)
  | after => (d, after)

inductive Piece where
  | literal (c : Char)
  /-- A complete directive within the limits, and its text. -/
  | directive (layout : Directive) (conversion : Char) (text : List Char)
  /-- A directive above the limits, and the template from it on. -/
  | oversize (rest : List Char)
  /-- A directive that the end of the template cuts off, and its text. -/
  | unfinished (rest : List Char)
deriving DecidableEq, Repr

theorem length_takeNumber_le (l : List Char) : (takeNumber l).2.length ≤ l.length :=
  (List.dropWhile_sublist _).length_le

theorem length_readLayout_le (l : List Char) : (readLayout l).2.length ≤ l.length := by
  have flags : (l.dropWhile isFlag).length ≤ l.length := (List.dropWhile_sublist _).length_le
  have width := length_takeNumber_le (l.dropWhile isFlag)
  simp only [readLayout]
  split
  next rest eq =>
    have precision := length_takeNumber_le rest
    simp only [eq, List.length_cons] at width
    dsimp only
    omega
  next =>
    dsimp only
    omega

def isOversize (d : Directive) : Bool := maxField < d.width || maxField < d.precision.getD 0

def pieces (l : List Char) : List Piece :=
  match l with
  | [] => []
  | c :: rest =>
    if c ≠ '%' then .literal c :: pieces rest
    else if isOversize (readLayout rest).1 then [.oversize (c :: rest)]
    else
      match _split : (readLayout rest).2 with
      | [] => [.unfinished (c :: rest)]
      | conversion :: after =>
        .directive (readLayout rest).1 conversion
          (c :: rest.take (rest.length - after.length)) :: pieces after
termination_by l.length
decreasing_by
  · simp
  · have := length_readLayout_le rest
    simp only [_split, List.length_cons] at this ⊢
    omega

end RemoteDevice.Template
