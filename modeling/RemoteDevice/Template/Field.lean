import RemoteDevice.Decimal.Rounded
import RemoteDevice.Decimal.Shortest
import RemoteDevice.Template.Error

/-!
One formatted field: an argument, a conversion and the directive that says how wide the field is,
what fills it, how the sign shows and whether digits are grouped.
-/
set_option autoImplicit false

namespace RemoteDevice

/-- The value a template formats. -/
inductive Argument where
  | int (value : Int64)
  | float (value : Float)

def Argument.kind : Argument → ArgumentKind
  | int _ => .integer
  | float _ => .float

/-- The layout that a directive asks for. -/
structure Directive where
  left : Bool := false
  zero : Bool := false
  plus : Bool := false
  space : Bool := false
  group : Bool := false
  width : Nat := 0
  precision : Option Nat := none
deriving DecidableEq, Repr, Inhabited

namespace Directive

/-- Fills a signed body up to the width: blanks on the right if left-aligned, otherwise zeros
between sign and body if asked for, otherwise blanks before the sign. -/
def pad (d : Directive) (sign body : List Char) : List Char :=
  let fill := d.width - (sign.length + body.length)
  if d.left then sign ++ body ++ List.replicate fill ' '
  else if d.zero then sign ++ List.replicate fill '0' ++ body
  else List.replicate fill ' ' ++ sign ++ body

/-- Fills a text with blanks; zeros never fill a text. -/
def padText (d : Directive) (text : List Char) : List Char :=
  { d with zero := false }.pad [] text

def sign (d : Directive) (negative : Bool) : List Char :=
  if negative then ['-'] else if d.plus then ['+'] else if d.space then [' '] else []

end Directive

/-- A comma before every digit that starts a further group of three, counted from the right. -/
def groupThousands : List Char → List Char
  | [] => []
  | [c] => [c]
  | c :: rest =>
    if rest.length % 3 = 0 then c :: ',' :: groupThousands rest else c :: groupThousands rest

namespace Directive

def grouped (d : Directive) (digits : List Char) : List Char :=
  if d.group then groupThousands digits else digits

/-- The value with the sign in front and its decimal digits, grouped if asked for. -/
def signedInteger (d : Directive) (v : Int64) : List Char :=
  d.pad (d.sign (v < 0)) (d.grouped (Nat.toDigits 10 v.toInt.natAbs))

/-- The digits of the value as a 64-bit word: a negative value counts down from the top. -/
def word (d : Directive) (base : Nat) (v : Int64) : List Char :=
  d.pad [] (Nat.toDigits base v.toUInt64.toNat)

def nonFinite : Binary64 → List Char
  | .infinite true => "-Infinity".toList
  | .infinite false => "Infinity".toList
  | _ => "NaN".toList

/-- Six places where the directive gives no precision. -/
def places (d : Directive) : Nat := d.precision.getD 6

/-- Positional notation. Zero has no sign, whatever its word says. -/
def fixedFloat (d : Directive) : Binary64 → List Char
  | .finite negative mantissa exponent =>
    let body := Decimal.fixed (.ofBinary mantissa exponent) d.places
    d.pad (d.sign (negative && mantissa != 0))
      { body with whole := d.grouped body.whole }.text
  | other => d.padText (nonFinite other)

/-- The power of ten, signed and with two digits at least. -/
def powerText (mark : Char) (power : Int) : List Char :=
  let digits := Nat.toDigits 10 power.natAbs
  mark :: (if power < 0 then '-' else '+') :: List.replicate (2 - digits.length) '0' ++ digits

def scientificFloat (d : Directive) (mark : Char) : Binary64 → List Char
  | .finite negative mantissa exponent =>
    let body := Decimal.scientific (.ofBinary mantissa exponent) d.places
    d.pad (d.sign (negative && mantissa != 0)) (body.significand.text ++ powerText mark body.power)
  | other => d.padText (nonFinite other)

/-- The argument as it stands, cut to the precision. -/
def plainText (d : Directive) (text : List Char) : List Char :=
  d.padText (match d.precision with | some p => text.take p | none => text)

/-- The field for a conversion that takes the argument. -/
def field (d : Directive) (conversion : Char) (arg : Argument) : Except TemplateError (List Char) :=
  match conversion, arg with
  | 'd', .int v | 'i', .int v => .ok (d.signedInteger v)
  | 'x', .int v => .ok (d.word 16 v)
  | 'X', .int v => .ok (d.pad [] ((Nat.toDigits 16 v.toUInt64.toNat).map Char.toUpper))
  | 'o', .int v => .ok (d.word 8 v)
  | 'f', .float v => .ok (d.fixedFloat (.ofFloat v))
  | 'e', .float v => .ok (d.scientificFloat 'e' (.ofFloat v))
  | 'E', .float v => .ok (d.scientificFloat 'E' (.ofFloat v))
  | 's', .int v => .ok (d.plainText (toString v.toInt).toList)
  | 's', .float v => .ok (d.plainText (Decimal.shortestChars (.ofFloat v)))
  | c, a => .error (.illegalConversion c a.kind)

end Directive

end RemoteDevice
