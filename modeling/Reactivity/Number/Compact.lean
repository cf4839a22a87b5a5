import Reactivity.Number.Shortest

namespace Reactivity.Number

/-!
# Compact number texts

A number is written in as few characters as the notations of the script language
allow: plain digits, hexadecimal, a leading point without a zero, or an exponent.
Each notation replaces the text found so far only if it is strictly shorter.
-/

/-- The decimal digits of a natural number. -/
def decimalDigits
    (value : Nat) :
    List Char :=
  Nat.toDigits 10 value

/-- The digits of a possibly negative integer. -/
def integerText
    (value : Int) :
    List Char :=
  if value < 0 then
    '-' :: decimalDigits (-value).toNat
  else
    decimalDigits value.toNat

/-- A run of zeros. -/
def zeros
    (count : Int) :
    List Char :=
  List.replicate count.toNat '0'

/--
Lay out a decimal: positional with up to 21 places before the point and up to six
zeros after it, and with an exponent otherwise.
-/
def layoutDecimal
    (decimal : Decimal) :
    List Char :=
  let digits := decimalDigits decimal.digits
  let count : Int := digits.length
  let point := decimal.point
  if count ≤ point && point ≤ 21 then
    digits ++ zeros (point - count)
  else if 0 < point && point ≤ 21 then
    digits.take point.toNat ++ '.' :: digits.drop point.toNat
  else if -6 < point && point ≤ 0 then
    '.' :: zeros (-point) ++ digits
  else
    let exponent := integerText (point - 1)
    match digits with
    | [digit] => digit :: 'e' :: exponent
    | first :: rest => first :: '.' :: rest ++ 'e' :: exponent
    | [] => []

/-- The shorter of two texts; the first one when they are equally long. -/
def shorter
    (text candidate : List Char) :
    List Char :=
  if candidate.length < text.length then candidate else text

/-- Write `.00…d` as digits with a negative exponent. -/
def shortenFraction
    (text : List Char) :
    List Char :=
  match text with
  | '.' :: '0' :: rest =>
      let digits := rest.dropWhile (· == '0')
      let exponent := text.length - 1
      if digits.isEmpty then
        text
      else
        shorter text (digits ++ 'e' :: '-' :: decimalDigits exponent)
  | _ => text

/-- Write zeros at the end as an exponent. -/
def shortenZeros
    (text : List Char) :
    List Char :=
  let kept := text.reverse.dropWhile (· == '0') |>.reverse
  let count := text.length - kept.length
  if count == 0 then
    text
  else
    shorter text (kept ++ 'e' :: decimalDigits count)

/-- Read an exponent. -/
def readExponent :
    List Char →
    Int
  | '-' :: digits => -(Int.ofNat (Nat.ofDigitChars 10 digits 0))
  | digits => Int.ofNat (Nat.ofDigitChars 10 digits 0)

/-- Move the point of `i.fex` to the end of the fraction. -/
def shortenPoint
    (text : List Char) :
    List Char :=
  let whole := text.takeWhile (· != '.')
  match text.dropWhile (· != '.') with
  | _ :: tail =>
      let fraction := tail.takeWhile (· != 'e')
      match tail.dropWhile (· != 'e') with
      | _ :: exponent =>
          let moved := readExponent exponent - (fraction.length : Int)
          shorter text (whole ++ fraction ++ 'e' :: integerText moved)
      | [] => text
  | [] => text

/-- The largest number that is tried in hexadecimal. -/
def hexadecimalLimit : Nat := twoTo 128 - 1

/-- The text of a finite magnitude. -/
def compactText
    (significand : Nat)
    (exponent : Int) :
    List Char :=
  match (Magnitude.finite significand exponent).toNat? with
  | some value =>
      if value < 1000 then
        decimalDigits value
      else
        let text := layoutDecimal (shortest significand exponent)
        let hexadecimal := '0' :: 'x' :: Nat.toDigits 16 (min value hexadecimalLimit)
        if hexadecimal.length < text.length then
          hexadecimal
        else
          shortenPoint (shortenZeros text)
  | none =>
      let text := layoutDecimal (shortest significand exponent)
      shortenPoint (shortenZeros (shortenFraction text))

/-- The text of a magnitude. -/
def Magnitude.text :
    Magnitude →
    String
  | .infinite => "Infinity"
  | .finite significand exponent => String.ofList (compactText significand exponent)

/-- The text has digits only, so that a point after it would belong to the number. -/
def isPlainDigits
    (text : String) :
    Bool :=
  text.toList.all Char.isDigit

end Reactivity.Number
