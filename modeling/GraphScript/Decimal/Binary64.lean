/-!
# Doubles as bit patterns

A double is its 64-bit pattern.  Reading a decimal is exact: the decimal is a quotient of natural
numbers, which is rounded once to the nearest double, a tie going to the even significand.
-/

namespace GraphScript

/-- A double-precision number, given by its bits. -/
structure Binary64 where
  /-- The sign bit, eleven bits of exponent and fifty-two bits of fraction. -/
  bits : UInt64
  deriving DecidableEq

namespace Binary64

def signWeight : Nat := Nat.pow 2 63

def exponentWeight : Nat := Nat.pow 2 52

def negative (number : Binary64) : Bool := number.bits.toNat ≥ signWeight

/-- The bits without the sign. -/
def magnitude (number : Binary64) : Nat := number.bits.toNat % signWeight

def exponentField (number : Binary64) : Nat := number.magnitude / exponentWeight

def fractionField (number : Binary64) : Nat := number.magnitude % exponentWeight

def isInfinite (number : Binary64) : Bool :=
  number.exponentField == 2047 && number.fractionField == 0

def isNaN (number : Binary64) : Bool := number.exponentField == 2047 && number.fractionField != 0

def isZero (number : Binary64) : Bool := number.magnitude == 0

def significand (number : Binary64) : Nat :=
  if number.exponentField = 0 then number.fractionField
  else exponentWeight + number.fractionField

def power (number : Binary64) : Int :=
  if number.exponentField = 0 then -1074 else (number.exponentField : Int) - 1075

def ofFields (negative : Bool) (magnitude : Nat) : Binary64 :=
  ⟨UInt64.ofNat ((if negative then signWeight else 0) + magnitude)⟩

def neg (number : Binary64) : Binary64 := ofFields (!number.negative) number.magnitude

def infinity (negative : Bool) : Binary64 := ofFields negative (2047 * exponentWeight)

/-- Not a number. -/
def nan : Binary64 := ofFields false (2047 * exponentWeight + Nat.pow 2 51)

/-- The quotient rounded to the nearest whole number, a half going to the even neighbour. -/
def roundQuotient (numerator denominator : Nat) : Nat :=
  let quotient := numerator / denominator
  let twice := 2 * (numerator % denominator)
  if twice < denominator then quotient
  else if twice > denominator then quotient + 1
  else if quotient % 2 = 0 then quotient
  else quotient + 1

/-- The quotient divided by a power of two, as a pair of natural numbers. -/
def scaleDown (numerator denominator : Nat) (power : Int) : Nat × Nat :=
  if power ≥ 0 then (numerator, denominator * Nat.pow 2 power.toNat)
  else (numerator * Nat.pow 2 (-power).toNat, denominator)

/-- The power of two for which the quotient has a significand of fifty-three bits. -/
def fittingPower (numerator denominator : Nat) : Int :=
  let guess : Int := (numerator.log2 : Int) - (denominator.log2 : Int) - 53
  let (top, bottom) := scaleDown numerator denominator guess
  max (if top / bottom ≥ Nat.pow 2 53 then guess + 1 else guess) (-1074)

def ofQuotient (negative : Bool) (numerator denominator : Nat) : Binary64 :=
  let power := fittingPower numerator denominator
  let (top, bottom) := scaleDown numerator denominator power
  let significand := roundQuotient top bottom
  let magnitude :=
    if significand < exponentWeight then significand
    else (power + 1075).toNat * exponentWeight + (significand - exponentWeight)
  if magnitude ≥ 2047 * exponentWeight then infinity negative else ofFields negative magnitude

def decimalWidth (number : Nat) : Nat := (Nat.toDigits 10 number).length

def ofDecimal (negative : Bool) (digits : Nat) (exponent : Int) : Binary64 :=
  if digits = 0 then ofFields negative 0
  else
    let top : Int := decimalWidth digits + exponent
    if top > 310 then infinity negative
    else if top < -330 then ofFields negative 0
    else if exponent ≥ 0 then ofQuotient negative (digits * Nat.pow 10 exponent.toNat) 1
    else ofQuotient negative digits (Nat.pow 10 (-exponent).toNat)

def truncated (number : Binary64) : Int :=
  let size : Nat :=
    if 0 ≤ number.power then number.significand * Nat.pow 2 number.power.toNat
    else number.significand / Nat.pow 2 (-number.power).toNat
  if number.negative then -(size : Int) else size

end Binary64

end GraphScript

/-! ## Reading numbers -/

namespace GraphScript.Numeral

/-- The blanks that may stand around a number. -/
def isBlank (letter : Char) : Bool :=
  letter == ' ' || (0x09 ≤ letter.toNat && letter.toNat ≤ 0x0d) ||
    (0x1c ≤ letter.toNat && letter.toNat ≤ 0x1f) ||
    (0x2000 ≤ letter.toNat && letter.toNat ≤ 0x200a) ||
    [0x85, 0xa0, 0x1680, 0x2028, 0x2029, 0x202f, 0x205f, 0x3000].contains letter.toNat

def isDigit (letter : Char) : Bool := '0' ≤ letter && letter ≤ '9'

def digitValue (letter : Char) : Nat := letter.toNat - '0'.toNat

def digitsValue (letters : List Char) : Nat :=
  letters.foldl (fun value letter => 10 * value + digitValue letter) 0

/-- The digits at the start, without the single underscores between them, and what follows; the
flag says whether an underscore was just passed. -/
def digitTail : Bool → List Char → List Char × List Char
  | _, [] => ([], [])
  | passed, first :: rest =>
    if isDigit first then
      let (digits, remaining) := digitTail false rest
      (first :: digits, remaining)
    else if first == '_' && !passed then
      let (digits, remaining) := digitTail true rest
      if digits.isEmpty then ([], first :: rest) else (digits, remaining)
    else ([], first :: rest)

/-- A run of at least one digit and what follows it. -/
def digitRun? (letters : List Char) : Option (List Char × List Char) :=
  let (digits, remaining) := digitTail true letters
  if digits.isEmpty then none else some (digits, remaining)

/-- The sign in front of a number: whether it is negative, and the rest. -/
def sign : List Char → Bool × List Char
  | '-' :: rest => (true, rest)
  | '+' :: rest => (false, rest)
  | rest => (false, rest)

/-- A text without the blanks around it. -/
def stripped (text : String) : List Char :=
  ((text.toList.dropWhile isBlank).reverse.dropWhile isBlank).reverse

def readInt? (text : String) : Option Int :=
  let (negative, rest) := sign (stripped text)
  match digitRun? rest with
  | some (digits, []) =>
    let value : Int := digitsValue digits
    some (if negative then -value else value)
  | _ => none

def readExponent? : List Char → Option Int
  | [] => some 0
  | mark :: rest =>
    if mark == 'e' || mark == 'E' then
      let (negative, rest) := sign rest
      match digitRun? rest with
      | some (digits, []) =>
        let value : Int := digitsValue digits
        some (if negative then -value else value)
      | _ => none
    else none

/-- A word without regard to case. -/
def lowered (letters : List Char) : String := String.ofList (letters.map Char.toLower)

def readBinary64? (text : String) : Option Binary64 :=
  let (negative, rest) := sign (stripped text)
  let word := lowered rest
  if word == "inf" || word == "infinity" then some (.infinity negative)
  else if word == "nan" then some (if negative then Binary64.nan.neg else .nan)
  else
    let (whole, rest) :=
      match digitRun? rest with
      | some (digits, remaining) => (digits, remaining)
      | none => ([], rest)
    let (part, rest) :=
      match rest with
      | '.' :: next =>
        match digitRun? next with
        | some (digits, remaining) => (digits, remaining)
        | none => ([], next)
      | _ => ([], rest)
    if whole.isEmpty && part.isEmpty then none
    else
      (readExponent? rest).map fun exponent =>
        Binary64.ofDecimal negative (digitsValue (whole ++ part)) (exponent - part.length)

end GraphScript.Numeral

/-! ## The shortest decimal -/

namespace GraphScript.Binary64

/-- The exact value of the magnitude as a quotient of natural numbers. -/
def quotient (number : Binary64) : Nat × Nat :=
  if number.power ≥ 0 then (number.significand * Nat.pow 2 number.power.toNat, 1)
  else (number.significand, Nat.pow 2 (-number.power).toNat)

/-- The quotient divided by a power of ten, as a pair of natural numbers. -/
def shiftTens (numerator denominator : Nat) (exponent : Int) : Nat × Nat :=
  if exponent ≥ 0 then (numerator, denominator * Nat.pow 10 exponent.toNat)
  else (numerator * Nat.pow 10 (-exponent).toNat, denominator)

/-- The power of ten of the leading digit of a positive quotient. -/
def leadingPower (numerator denominator : Nat) : Int :=
  let guess : Int := (decimalWidth numerator : Int) - (decimalWidth denominator : Int)
  let (top, bottom) := shiftTens numerator denominator guess
  if top ≥ bottom then guess else guess - 1

/-- Of the two decimals around a quotient on one grid, the one to print, if one reads back. -/
def onGrid? (number : Binary64) (exponent : Int) : Option (Nat × Int) :=
  let (numerator, denominator) := number.quotient
  let (top, bottom) := shiftTens numerator denominator exponent
  let low := top / bottom
  let rest := top % bottom
  let readsBack (digits : Nat) : Bool := ofDecimal number.negative digits exponent == number
  match readsBack low, readsBack (low + 1) with
  | true, true =>
    let nearer :=
      if 2 * rest < bottom then low
      else if 2 * rest > bottom then low + 1
      else if low % 2 = 0 then low
      else low + 1
    some (nearer, exponent)
  | true, false => some (low, exponent)
  | false, true => some (low + 1, exponent)
  | false, false => none

/-- The first grid with a decimal that reads back, going from coarse to fine. -/
def firstGrid (number : Binary64) (leading : Int) : List Nat → Nat × Int
  | [] => (number.significand, number.power)
  | count :: rest =>
    match number.onGrid? (leading + 1 - count) with
    | some decimal => decimal
    | none => firstGrid number leading rest

/-- The shortest decimal digits of a finite nonzero magnitude and their power of ten. -/
def shortest (number : Binary64) : Nat × Int :=
  let (numerator, denominator) := number.quotient
  firstGrid number (leadingPower numerator denominator) (List.range' 1 17)

/-- Digits without trailing zeros, and the power of ten that makes up for them. -/
def dropZeros : Nat → Nat → Int → Nat × Int
  | 0, digits, exponent => (digits, exponent)
  | fuel + 1, digits, exponent =>
    if digits ≠ 0 ∧ digits % 10 = 0 then dropZeros fuel (digits / 10) (exponent + 1)
    else (digits, exponent)

def exponentText (exponent : Int) : String :=
  let width := toString exponent.natAbs
  "e" ++ (if exponent < 0 then "-" else "+") ++ (if width.length < 2 then "0" ++ width else width)

/-- The text of a finite nonzero magnitude given by its digits and their power of ten. -/
def decimalText (digits : Nat) (exponent : Int) : String :=
  let letters := (toString digits).toList
  let count : Int := letters.length
  let point := count + exponent
  if -4 < point ∧ point ≤ 16 then
    if point ≤ 0 then
      "0." ++ String.ofList (List.replicate (-point).toNat '0' ++ letters)
    else if point ≥ count then
      String.ofList (letters ++ List.replicate (point - count).toNat '0') ++ ".0"
    else String.ofList (letters.take point.toNat ++ '.' :: letters.drop point.toNat)
  else
    let mantissa :=
      match letters with
      | [] => ""
      | [digit] => String.ofList [digit]
      | digit :: others => String.ofList (digit :: '.' :: others)
    mantissa ++ exponentText (point - 1)

def text (number : Binary64) : String :=
  if number.isNaN then "nan"
  else
    let sign := if number.negative then "-" else ""
    if number.isInfinite then sign ++ "inf"
    else if number.isZero then sign ++ "0.0"
    else
      let (digits, exponent) := number.shortest
      let (digits, exponent) := dropZeros 400 digits exponent
      sign ++ decimalText digits exponent

end GraphScript.Binary64
