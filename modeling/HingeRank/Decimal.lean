import HingeRank.Text

/-!
# Doubles in decimal notation

Doubles are read from decimal numerals, rounded once, and written with as few digits as
tell them apart.
-/

namespace HingeRank.Decimal

/-!
## The exact value of a double

A finite double is a signed integer times a power of two.  Texts of numbers are
computed from that integer and that power in exact arithmetic.
-/

/-- The number `± significand · 2 ^ exponent`. -/
structure Dyadic where
  negative : Bool
  significand : Nat
  exponent : Int
  deriving DecidableEq, Repr

namespace Dyadic

/-- The exact value of a double, unless it is infinite or no number. -/
def ofFloat? (x : Float) : Option Dyadic :=
  let bits : Nat := x.toBits.toNat
  let negative := bits / Nat.pow 2 63 == 1
  let field : Nat := bits / Nat.pow 2 52 % Nat.pow 2 11
  let fraction : Nat := bits % Nat.pow 2 52
  if field = 2047 then none
  else if field = 0 then some ⟨negative, fraction, -1074⟩
  else some ⟨negative, Nat.pow 2 52 + fraction, (field : Int) - 1075⟩

/-- Numerator and denominator of the absolute value. -/
def fraction (x : Dyadic) : Nat × Nat :=
  if x.exponent < 0 then (x.significand, Nat.pow 2 (-x.exponent).toNat)
  else (x.significand * Nat.pow 2 x.exponent.toNat, 1)

end Dyadic

/-!
## Decimal numerals and how they are written

A numeral is a signed integer times a power of ten.  A `Layout` decides what is
written for it: positional notation for exponents in a range and scientific
notation elsewhere.  The exponent always has a sign and at least two digits.
-/

/-- The number of decimal digits, none for zero. -/
def digitCount (n : Nat) : Nat :=
  if n = 0 then 0 else digitCount (n / 10) + 1
termination_by n
decreasing_by omega

/-- The numeral `± digits · 10 ^ exponent`. -/
structure Numeral where
  negative : Bool
  digits : Nat
  exponent : Int
  deriving DecidableEq, Repr

namespace Numeral

/-- Move trailing zeros of the digits into the exponent. -/
def reduced (x : Numeral) : Numeral :=
  if _nonzero : x.digits = 0 then { x with exponent := 0 }
  else if x.digits % 10 = 0 then
    reduced { x with digits := x.digits / 10, exponent := x.exponent + 1 }
  else x
termination_by x.digits
decreasing_by omega

end Numeral

/-- Decisions about the written form of a numeral. -/
structure Layout where
  /-- The least exponent of the first digit that is written positionally. -/
  least : Int
  /-- Exponents from here on are written in scientific notation. -/
  limit : Int
  /-- What follows a whole number written positionally. -/
  wholeEnding : String

namespace Layout

/-- Numbers that read back exactly: whole ones keep a point, and from ten to the
sixteenth power on the notation is scientific. -/
def exact : Layout := ⟨-4, 16, ".0"⟩

/-- Six significant digits for messages, without trailing zeros. -/
def brief : Layout := ⟨-4, 6, ""⟩

private def zeroDigits (count : Nat) : String := String.ofList (List.replicate count '0')

private def exponentText (exponent : Int) : String :=
  let size := exponent.natAbs
  (if exponent < 0 then "e-" else "e+") ++ (if size < 10 then "0" else "") ++ toString size

/-- The written form without its sign. -/
def unsignedText (layout : Layout) (x : Numeral) : String :=
  let x := x.reduced
  if x.digits = 0 then "0" ++ layout.wholeEnding
  else
    let digits := toString x.digits
    let leading := x.exponent + digits.length - 1
    if leading < layout.least || layout.limit ≤ leading then
      let rest := String.ofList (digits.toList.drop 1)
      String.ofList (digits.toList.take 1) ++ (if rest.isEmpty then "" else "." ++ rest) ++
        exponentText leading
    else if 0 ≤ x.exponent then
      digits ++ zeroDigits x.exponent.toNat ++ layout.wholeEnding
    else if 0 ≤ leading then
      let whole := leading.toNat + 1
      String.ofList (digits.toList.take whole) ++ "." ++ String.ofList (digits.toList.drop whole)
    else
      "0." ++ zeroDigits (-leading - 1).toNat ++ digits

/-- The written form of a numeral. -/
def text (layout : Layout) (x : Numeral) : String :=
  (if x.negative then "-" else "") ++ layout.unsignedText x

end Layout

/-!
## Reading a number from text

A number is an optional sign before a decimal numeral, an infinity or `nan`, in
letters of any case.  A numeral has a digit before or after its point and may
end in an exponent.  Digits of every script count, single underscores may stand
between digits, and blanks around the number are ignored.
-/

namespace Numeral

/-- The double nearest to a numeral.  Numerals far outside the range of doubles
are settled by their number of digits. -/
def toFloat (x : Numeral) : Float :=
  let magnitude : Int := digitCount x.digits + x.exponent
  let size :=
    if x.digits = 0 || magnitude < -330 then 0.0
    else if 310 < magnitude then 1.0 / 0.0
    else Float.ofScientific x.digits (x.exponent < 0) x.exponent.natAbs
  if x.negative then -size else size

end Numeral

private def basicDigits (chars : List Char) : List Char × List Char :=
  chars.span fun c => '0' ≤ c && c ≤ '9'

/-- A sign, true for minus, and what follows it. -/
def readSign : List Char → Bool × List Char
  | '-' :: rest => (true, rest)
  | '+' :: rest => (false, rest)
  | chars => (false, chars)

/-- The exponent at the end of a numeral; nothing may follow it. -/
def readExponent? : List Char → Option Int
  | [] => some 0
  | mark :: rest =>
      if mark == 'e' || mark == 'E' then
        let (negative, rest) := readSign rest
        let (digits, rest) := basicDigits rest
        if digits.isEmpty || !rest.isEmpty then none
        else some (if negative then -(Text.readDecimal digits : Int) else Text.readDecimal digits)
      else none

/-- A whole numeral without its sign. -/
def readNumeral? (negative : Bool) (chars : List Char) : Option Numeral :=
  let (whole, rest) := basicDigits chars
  let (fraction, rest) :=
    match rest with
    | '.' :: rest => basicDigits rest
    | rest => ([], rest)
  if whole.isEmpty && fraction.isEmpty then none
  else (readExponent? rest).map fun exponent =>
    ⟨negative, Text.readDecimal (whole ++ fraction), exponent - fraction.length⟩

/-- Each underscore stands between two digits; they are dropped. -/
def dropUnderscores? (previousDigit : Bool) : List Char → Option (List Char)
  | [] => some []
  | '_' :: next :: rest =>
      if previousDigit && next.isDigit then
        (dropUnderscores? true rest).map (next :: ·)
      else none
  | ['_'] => none
  | c :: rest => (dropUnderscores? c.isDigit rest).map (c :: ·)

/-- The double that a text stands for. -/
def readFloat? (text : String) : Option Float := do
  let chars := (Text.trimBlanks text.toList).map Text.toBasicDigit
  let chars ← dropUnderscores? false chars
  let (negative, unsigned) := readSign chars
  let word := String.ofList (unsigned.map Char.toLower)
  if word == "inf" || word == "infinity" then
    return if negative then -1.0 / 0.0 else 1.0 / 0.0
  if word == "nan" then
    return 0.0 / 0.0
  return (← readNumeral? negative unsigned).toFloat

/-!
## Rounding a double to a decimal grid

The exact value is rounded once, to the nearest point of a decimal grid, and a
value half way between two points goes to the even one.
-/

/-- The quotient rounded to the nearest integer, ties to the even one. -/
def roundDiv (numerator denominator : Nat) : Nat :=
  let quotient := numerator / denominator
  let twice := 2 * (numerator % denominator)
  if twice < denominator then quotient
  else if denominator < twice then quotient + 1
  else if quotient % 2 = 0 then quotient
  else quotient + 1

/-- The exponent of the first digit of a positive fraction: the largest `e` with
`10 ^ e ≤ numerator / denominator`. -/
def leadingExponent (numerator denominator : Nat) : Int :=
  if denominator ≤ numerator then (digitCount (numerator / denominator) : Int) - 1
  else -(digitCount ((denominator - 1) / numerator) : Int)

/-- The fraction divided by `10 ^ exponent`, again as numerator and denominator. -/
def shiftDecimal (numerator denominator : Nat) (exponent : Int) : Nat × Nat :=
  if exponent < 0 then (numerator * Nat.pow 10 (-exponent).toNat, denominator)
  else (numerator, denominator * Nat.pow 10 exponent.toNat)

namespace Dyadic

/-- The nearest multiple of `10 ^ exponent`. -/
def roundTo (x : Dyadic) (exponent : Int) : Numeral :=
  let (numerator, denominator) := x.fraction
  let (numerator, denominator) := shiftDecimal numerator denominator exponent
  ⟨x.negative, roundDiv numerator denominator, exponent⟩

/-- The nearest numeral with the given number of digits after the point. -/
def roundPlaces (x : Dyadic) (places : Nat) : Numeral := x.roundTo (-(places : Int))

/-- The nearest numeral with the given number of significant digits. -/
def roundSignificant (x : Dyadic) (digits : Nat) : Numeral :=
  if x.significand = 0 then ⟨x.negative, 0, 0⟩
  else
    let (numerator, denominator) := x.fraction
    x.roundTo (leadingExponent numerator denominator + 1 - digits)

end Dyadic

/-!
## The shortest numeral that reads back

The reals that round to a given double form an interval around it, which
contains its ends exactly when the significand is even.  For one digit, two
digits and so on, the two neighbours of the value on that decimal grid are
tested in exact arithmetic; the first grid with a point inside wins.  Of two
points inside the nearer one is taken, and the even one when both are equally
near.
-/

/-- The reals that round to a positive double, over one denominator. -/
structure RoundingInterval where
  low : Nat
  value : Nat
  high : Nat
  denominator : Nat
  /-- The ends round to the double as well. -/
  closed : Bool

namespace RoundingInterval

/-- Half the gap to either neighbour; the lower gap is halved at a power of two
that is not the least normal number. -/
def ofDyadic (x : Dyadic) : RoundingInterval :=
  let quarter := x.exponent - 2
  let lower := if x.significand = Nat.pow 2 52 ∧ -1074 < x.exponent then 1 else 2
  let factor := if quarter < 0 then 1 else Nat.pow 2 quarter.toNat
  { low := (4 * x.significand - lower) * factor
    value := 4 * x.significand * factor
    high := (4 * x.significand + 2) * factor
    denominator := if quarter < 0 then Nat.pow 2 (-quarter).toNat else 1
    closed := x.significand % 2 == 0 }

/-- The nearer of the two multiples of `10 ^ exponent` around the value that lie
inside, if any does. -/
def nearestOnGrid? (interval : RoundingInterval) (exponent : Int) : Option Nat :=
  let up := if exponent < 0 then Nat.pow 10 (-exponent).toNat else 1
  let unit := if exponent < 0 then interval.denominator
    else interval.denominator * Nat.pow 10 exponent.toNat
  let low := interval.low * up
  let value := interval.value * up
  let high := interval.high * up
  let inside (digits : Nat) : Bool :=
    let point := digits * unit
    if interval.closed then low ≤ point && point ≤ high else low < point && point < high
  let below := value / unit
  let fromBelow := value - below * unit
  let fromAbove := (below + 1) * unit - value
  match inside below, inside (below + 1) with
  | true, true =>
      if fromBelow < fromAbove then some below
      else if fromAbove < fromBelow then some (below + 1)
      else some (if below % 2 = 0 then below else below + 1)
  | true, false => some below
  | false, true => some (below + 1)
  | false, false => none

end RoundingInterval

namespace Dyadic

/-- Try grids with ever more digits. -/
def shortestFrom (x : Dyadic) (interval : RoundingInterval) (leading : Int) :
    (attempts digits : Nat) → Numeral
  | 0, digits => x.roundTo (leading + 1 - digits)
  | attempts + 1, digits =>
      match interval.nearestOnGrid? (leading + 1 - digits) with
      | some found => ⟨x.negative, found, leading + 1 - digits⟩
      | none => shortestFrom x interval leading attempts (digits + 1)

/-- The shortest numeral that reads back as this double; seventeen digits always
do. -/
def shortest (x : Dyadic) : Numeral :=
  if x.significand = 0 then ⟨x.negative, 0, 0⟩
  else
    let (numerator, denominator) := x.fraction
    shortestFrom x (.ofDyadic x) (leadingExponent numerator denominator) 16 1

end Dyadic

/-- The text of a double that reads back as the same double. -/
def exactText (x : Float) : String :=
  match Dyadic.ofFloat? x with
  | some value => Layout.exact.text value.shortest
  | none => if x.isNaN then "nan" else if x < 0 then "-inf" else "inf"

/-- The text of a double with at most six significant digits. -/
def briefText (x : Float) : String :=
  match Dyadic.ofFloat? x with
  | some value => Layout.brief.text (value.roundSignificant 6)
  | none => if x.isNaN then "nan" else if x < 0 then "-inf" else "inf"

end HingeRank.Decimal
