import RemoteDevice.Yaml.Fault
import RemoteDevice.Yaml.Token.Scalar

/-!
What a plain scalar stands for: nothing, a truth value, a number or a text. Decimal digits with a
needless zero in front are a text, and so are numbers beyond the range of floating point; whole
numbers that take more than 64 bits but not more than 128 are refused.
-/
set_option autoImplicit false

namespace RemoteDevice.Yaml

inductive Number where
  | integer (n : Int)
  | float (x : Float)

/-- Equality of numbers of one kind; what is no number equals itself. -/
def Number.same : Number → Number → Bool
  | integer a, integer b => a == b
  | float a, float b => a == b || (a.isNaN && b.isNaN)
  | _, _ => false

inductive Scalar where
  | null
  | bool (b : Bool)
  | number (n : Number)
  | text (s : List Char)

namespace Scalar

def isNull (l : List Char) : Bool :=
  ["null", "Null", "NULL", "~"].any fun s => s.toList == l

def bool? (l : List Char) : Option Bool :=
  if ["true", "True", "TRUE"].any fun s => s.toList == l then some true
  else if ["false", "False", "FALSE"].any fun s => s.toList == l then some false
  else none

def dropSign : List Char → List Char
  | '+' :: rest => rest
  | '-' :: rest => rest
  | l => l

/-- Digits of which the first is a needless zero. -/
def hasNeedlessZero (l : List Char) : Bool :=
  match dropSign l with
  | '0' :: d :: rest => (d :: rest).all Char.isDigit
  | _ => false

/-- The number that digits to a base give, if there are digits and nothing else. -/
def digits? (base : Nat) (l : List Char) : Option Nat :=
  if l.isEmpty then none
  else l.foldlM (fun n x =>
    (QuotedScalar.hexDigit? x).bind fun d => if d < base then some (n * base + d) else none) 0

/-- The number without its sign; a zero and a letter in front change the base. -/
def magnitude? : List Char → Option Nat
  | '0' :: 'x' :: rest => digits? 16 rest
  | '0' :: 'o' :: rest => digits? 8 rest
  | '0' :: 'b' :: rest => digits? 2 rest
  | l => if hasNeedlessZero l then none else digits? 10 l

/-- A whole number of any size. -/
def integer? : List Char → Option Int
  | '+' :: rest => (magnitude? rest).map Int.ofNat
  | '-' :: rest => (magnitude? rest).map fun n => -(n : Int)
  | l => (magnitude? l).map Int.ofNat

/-- The value of digits with a point and a power of ten: `digits * 10 ^ power`. -/
structure DecimalText where
  digits : List Char
  power : Int
deriving DecidableEq, Repr

/-- A power of ten at the end of a number: the letter, a sign and digits. -/
def power? : List Char → Option Int
  | [] => some 0
  | x :: rest =>
    if x = 'e' ∨ x = 'E' then
      let digits := dropSign rest
      if digits.isEmpty || !digits.all Char.isDigit then none
      else
        let n : Int := Nat.ofDigitChars 10 digits 0
        some (if rest.head? == some '-' then -n else n)
    else none

/-- Digits with at most one point among them and at least one digit, and a power of ten. -/
def decimal? (l : List Char) : Option DecimalText := do
  let whole := l.takeWhile Char.isDigit
  let (fraction, rest) := match l.dropWhile Char.isDigit with
    | '.' :: rest => (rest.takeWhile Char.isDigit, rest.dropWhile Char.isDigit)
    | rest => ([], rest)
  let power ← power? rest
  if whole.isEmpty && fraction.isEmpty then none
  else some ⟨whole ++ fraction, power - fraction.length⟩

/-- The nearest floating-point number. Numbers far out of range are told apart by the place of
their leading digit. -/
def DecimalText.nearest (d : DecimalText) : Float :=
  let n := Nat.ofDigitChars 10 d.digits 0
  let places : Int := ((Nat.toDigits 10 n).length : Int) + d.power
  if n = 0 || places < -400 then 0.0
  else if 400 < places then 1.0 / 0.0
  else if 0 ≤ d.power then Float.ofScientific (n * Nat.pow 10 d.power.toNat) false 0
  else Float.ofScientific n true (-d.power).toNat

/-- A number with a point or a power of ten, if it is in range. -/
def finite? (negative : Bool) (l : List Char) : Option Float := do
  let x := (← decimal? l).nearest
  if x.isFinite then some (if negative then -x else x) else none

def isInfinity (l : List Char) : Bool :=
  [".inf", ".Inf", ".INF"].any fun s => s.toList == l

def float? (l : List Char) : Option Float :=
  if [".nan", ".NaN", ".NAN"].any fun s => s.toList == l then some (0.0 / 0.0)
  else
    match l with
    | '+' :: rest => if isInfinity rest then some (1.0 / 0.0) else finite? false rest
    | '-' :: rest => if isInfinity rest then some (-1.0 / 0.0) else finite? true rest
    | l => if isInfinity l then some (1.0 / 0.0) else finite? false l

/-- Whether so many words of 64 bits hold the number, with a sign or without. -/
def fitsWords (words : Nat) (n : Int) : Bool :=
  let size : Int := Nat.pow UInt64.size words
  decide (-(size / 2) ≤ n ∧ n < size)

/-- The number that a scalar spells. Whole numbers too large even for 128 bits are read as
floating point. -/
def number? (l : List Char) : Except Fault (Option Number) :=
  let asFloat := if hasNeedlessZero l then none else (float? l).map .float
  match integer? l with
  | some n =>
    if fitsWords 1 n then .ok (some (.integer n))
    else if fitsWords 2 n then .error .integerTooLarge
    else .ok asFloat
  | none => .ok asFloat

/-- What a plain scalar without a tag stands for. -/
def ofPlain (l : List Char) : Except Fault Scalar :=
  if l.isEmpty || isNull l then .ok null
  else
    match bool? l with
    | some b => .ok (bool b)
    | none => (number? l).map fun n => (n.map number).getD (text l)

/-- The tags of the kinds of scalars that are not texts. -/
def tagged? (tag l : List Char) : Option (Except Fault Scalar) :=
  let orUnfit (s : Option Scalar) : Except Fault Scalar :=
    match s with
    | some s => .ok s
    | none => .error .unfitScalar
  if tag = "tag:yaml.org,2002:bool".toList then some (orUnfit ((bool? l).map bool))
  else if tag = "tag:yaml.org,2002:float".toList then
    some (orUnfit ((float? l).map fun x => number (.float x)))
  else if tag = "tag:yaml.org,2002:null".toList then
    some (orUnfit (if isNull l then some null else none))
  else if tag = "tag:yaml.org,2002:int".toList then
    some (match integer? l with
      | some n =>
        if fitsWords 1 n then .ok (number (.integer n)) else .error .unfitScalar
      | none => .error .unfitScalar)
  else none

end Scalar

end RemoteDevice.Yaml
