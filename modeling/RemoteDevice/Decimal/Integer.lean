/-!
Reading a whole number in decimal digits with an optional sign, within bounds. The digits are read
from the left, so of a wrong character and an excess over the bounds the one further left decides
the error.
-/
set_option autoImplicit false

namespace RemoteDevice.Decimal

/-- Why a text is not a whole number within the bounds. -/
inductive IntegerError where
  | empty
  | invalidDigit
  | tooLarge
  | tooSmall
deriving DecidableEq, Repr

def IntegerError.message : IntegerError → String
  | empty => "cannot parse integer from empty string"
  | invalidDigit => "invalid digit found in string"
  | tooLarge => "number too large to fit in target type"
  | tooSmall => "number too small to fit in target type"

def digitValue (c : Char) : Nat := c.toNat - '0'.toNat

/-- Appends decimal digits to `n` as long as the number stays within the limit. -/
def readDigits (limit : Nat) (excess : IntegerError) (n : Nat) : List Char → Except IntegerError Nat
  | [] => .ok n
  | c :: rest =>
    if c.isDigit then
      if n * 10 + digitValue c ≤ limit then readDigits limit excess (n * 10 + digitValue c) rest
      else .error excess
    else .error .invalidDigit

/-- Reads a number from `low` to `high`; a minus is only read where numbers below zero are in
bounds. -/
def readInteger (low high : Int) (text : List Char) : Except IntegerError Int :=
  match text with
  | [] => .error .empty
  | ['+'] => .error .invalidDigit
  | ['-'] => .error .invalidDigit
  | '+' :: digits => (readDigits high.toNat .tooLarge 0 digits).map Int.ofNat
  | '-' :: digits =>
    if low < 0 then (readDigits (-low).toNat .tooSmall 0 digits).map fun (n : Nat) => -(n : Int)
    else .error .invalidDigit
  | digits => (readDigits high.toNat .tooLarge 0 digits).map Int.ofNat

/-- Reads a number of 64 bits with a sign. -/
def readInt64 (text : List Char) : Except IntegerError Int64 :=
  (readInteger Int64.minValue.toInt Int64.maxValue.toInt text).map Int64.ofInt

/-- A number read within the limit stays within it. -/
theorem readDigits_le {limit n : Nat} {excess : IntegerError} {text : List Char} {m : Nat}
    (start : n ≤ limit) (h : readDigits limit excess n text = .ok m) : m ≤ limit := by
  induction text generalizing n with
  | nil => simp only [readDigits, Except.ok.injEq] at h; omega
  | cons c rest ih =>
    simp only [readDigits] at h
    split at h
    · split at h
      next fits => exact ih fits h
      next => simp at h
    · simp at h

end RemoteDevice.Decimal
