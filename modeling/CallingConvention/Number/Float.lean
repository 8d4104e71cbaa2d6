/-!
# Floating-point words

The words of floating-point numbers and how they are written.
-/

namespace CallingConvention

/-!
## Binary words

The two interchange formats that the floating-point kinds use. A word is a natural number: a sign
bit, then the biased exponent, then the fraction. `Format.decode` reads a word as an exact number
`± m * 2 ^ e`, an infinity or not a number, and `Format.encode` rounds such a number back to a
word, to nearest with ties to the even significand.

Everything is exact arithmetic on natural numbers, so rounding is a statement about quotients
(`roundQuotient`), and the words of the integers and of the other format come from one function.
-/

/-- A number as a floating-point word denotes it. -/
inductive Datum where
  | nan
  | infinite (negative : Bool)
  | finite (negative : Bool) (significand : Nat) (exponent : Int)
  deriving DecidableEq

/-- An interchange format. -/
structure Format where
  /-- How many bits the fraction takes. -/
  fraction : Nat
  /-- How many bits the exponent takes. -/
  exponent : Nat

namespace Format

/-- The 32-bit format. -/
def single : Format := ⟨23, 8⟩

/-- The 64-bit format. -/
def double : Format := ⟨52, 11⟩

variable (f : Format)

/-- The bias of the exponent field. -/
def bias : Nat := Nat.pow 2 (f.exponent - 1) - 1

/-- Exponent of the least positive number, of which every finite number is a multiple. -/
def minExponent : Int := 1 - (f.bias : Int) - f.fraction

/-- The word of infinity without its sign; greater words without a sign are not numbers. -/
def infinity : Nat := (Nat.pow 2 f.exponent - 1) * Nat.pow 2 f.fraction

/-- The sign bit. -/
def signBit : Nat := Nat.pow 2 (f.exponent + f.fraction)

/-- The word of "not a number" that operations give: quiet, positive and without a payload. -/
def quietNan : Nat := f.infinity + Nat.pow 2 (f.fraction - 1)

/-- The word without its sign. -/
def magnitude (word : Nat) : Nat := word % f.signBit

/-- Whether the sign bit is set. -/
def isNegative (word : Nat) : Bool := f.signBit ≤ word % (2 * f.signBit)

/-- Whether a word is not a number. -/
def isNan (word : Nat) : Bool := f.infinity < f.magnitude word

/-- The number that a word denotes. -/
def decode (word : Nat) : Datum :=
  let negative := f.isNegative word
  let field := f.magnitude word / Nat.pow 2 f.fraction
  let rest := f.magnitude word % Nat.pow 2 f.fraction
  if f.isNan word then .nan
  else if f.magnitude word = f.infinity then .infinite negative
  else if field = 0 then .finite negative rest f.minExponent
  else .finite negative (Nat.pow 2 f.fraction + rest) (f.minExponent + (field - 1 : Nat))

end Format

/-! ### Rounding -/

/-- The quotient of `m` by `2 ^ s`, rounded to nearest, and to the even one of two equally near. -/
def roundQuotient (m s : Nat) : Nat :=
  let quotient := m / Nat.pow 2 s
  let rest := m % Nat.pow 2 s
  if 2 * rest < Nat.pow 2 s then quotient
  else if Nat.pow 2 s < 2 * rest then quotient + 1
  else quotient + quotient % 2

/-- The quotient `m * 2 ^ e` rounded to a natural number towards zero. -/
def truncateScaled (m : Nat) (e : Int) : Nat :=
  if 0 ≤ e then m * Nat.pow 2 e.toNat else m / Nat.pow 2 (-e).toNat

namespace Format

variable (f : Format)

/-- The unsigned word of `m * 2 ^ e`, rounded. The exponent is that at which the significand has
`fraction + 1` digits, or the least one, and steps in units of `2 ^ fraction` so that a carry passes
into it. -/
def roundMagnitude (m : Nat) (e : Int) : Nat :=
  if m = 0 then 0
  else
    let exponent :=
      max (e + ((Nat.log2 m + 1 : Nat) : Int) - ((f.fraction + 1 : Nat) : Int)) f.minExponent
    let significand :=
      if e ≤ exponent then roundQuotient m (exponent - e).toNat
      else m * Nat.pow 2 (e - exponent).toNat
    min ((exponent - f.minExponent).toNat * Nat.pow 2 f.fraction + significand) f.infinity

/-- Put a sign on an unsigned word. -/
def withSign (negative : Bool) (word : Nat) : Nat :=
  if negative then f.signBit + word else word

/-- The word nearest to a number. -/
def encode : Datum → Nat
  | .nan => f.quietNan
  | .infinite negative => f.withSign negative f.infinity
  | .finite negative m e => f.withSign negative (f.roundMagnitude m e)

/-- The word nearest to an integer. -/
def ofInt (n : Int) : Nat := f.encode (.finite (n < 0) n.natAbs 0)

/-- The word of another format, carried over. -/
def convertTo (g : Format) (word : Nat) : Nat := g.encode (f.decode word)

/-- The integer part of a number between `lo` and `hi`: numbers outside are taken to the nearer
bound, and what is not a number is zero. -/
def toIntWithin (lo hi : Int) (word : Nat) : Int :=
  match f.decode word with
  | .nan => 0
  | .infinite negative => if negative then lo else hi
  | .finite negative m e =>
    let n : Int := truncateScaled m e
    max lo (min hi (if negative then -n else n))

/-- Every number but the two zeros counts as true, and so does what is not a number. -/
def isTrue (word : Nat) : Bool := f.magnitude word ≠ 0

end Format

/-!
## Decimal text

`Format.shortest` finds the fewest decimal digits that read back as the same word, and among those
the nearest to the exact value; of two equally near the greater is taken. The search is exact: the
numbers that round to a word form an interval around it, and for each count of digits only the two
neighbours of the value on that decimal grid can be the first to fall inside.

`Format.text` writes the digits: positionally, with at least one digit after the point, between
`0.0001` and `10 ^ 16`, and with an exponent elsewhere.
-/

/-- Decimal digits `d` of a number `0.d * 10 ^ point`. -/
structure Digits where
  /-- The digits, read as a number. -/
  digits : Nat
  /-- How many digits there are. -/
  count : Nat
  /-- Where the decimal point is. -/
  point : Int

/-- The least `p` with `numerator / denominator < 10 ^ p`, for a positive quotient. -/
def decimalPoint (numerator denominator : Nat) : Int :=
  if denominator ≤ numerator then (Nat.toDigits 10 (numerator / denominator)).length
  else 1 - ((Nat.toDigits 10 ((denominator - 1) / numerator)).length : Int)

/-- An interval of positive rationals around a value, all over one denominator. -/
structure Vicinity where
  /-- The numerator of the lower end. -/
  low : Nat
  /-- The numerator of the value. -/
  value : Nat
  /-- The numerator of the upper end. -/
  high : Nat
  /-- The denominator of all three. -/
  denominator : Nat
  /-- Whether the ends belong to the interval. -/
  closed : Bool

namespace Vicinity

/-- Whether `n / scale` lies in the interval; the bounds and the value are given at that scale. -/
def contains (v : Vicinity) (n : Nat) : Bool :=
  if v.closed then v.low ≤ n && n ≤ v.high else v.low < n && n < v.high

/-- The point of the decimal grid with `count` digits that is in the interval and nearest to the
value, if there is one. -/
def onGrid? (v : Vicinity) (point : Int) (count : Nat) : Option Digits :=
  let up := Nat.pow 10 ((count : Int) - point).toNat
  let unit := v.denominator * Nat.pow 10 (point - (count : Int)).toNat
  let v' : Vicinity := ⟨v.low * up, v.value * up, v.high * up, v.denominator, v.closed⟩
  let below := v'.value / unit
  let above := below + 1
  let found (n : Nat) : Option Digits := some ⟨n, count, point⟩
  match v'.contains (below * unit) && below != 0, v'.contains (above * unit) with
  | true, true =>
    if v'.value - below * unit < above * unit - v'.value then found below else found above
  | true, false => found below
  | false, true => found above
  | false, false => none

end Vicinity

/-- Drop trailing zeros and move a carry out of the first digit into the point. -/
def Digits.normalize (d : Digits) : Digits :=
  let text := Nat.toDigits 10 d.digits
  let kept := (text.reverse.dropWhile (· == '0')).reverse
  ⟨d.digits / Nat.pow 10 (text.length - kept.length), kept.length,
    d.point + ((text.length : Int) - d.count)⟩

namespace Format

variable (f : Format)

/-- The numbers that round to the positive word `m * 2 ^ e`. Half the distance to the next number
reaches up; it reaches down too, but at a power of two only half as far. -/
def vicinity (m : Nat) (e : Int) : Vicinity :=
  let scale := Nat.pow 2 (e - 2).toNat
  let below := if m = Nat.pow 2 f.fraction && f.minExponent < e then 1 else 2
  ⟨(4 * m - below) * scale, 4 * m * scale, (4 * m + 2) * scale, Nat.pow 2 (2 - e).toNat, m % 2 == 0⟩

/-- The shortest decimal that reads back as `m * 2 ^ e`. Seventeen digits are always enough. -/
def shortest (m : Nat) (e : Int) : Digits :=
  let v := f.vicinity m e
  let point := decimalPoint v.value v.denominator
  (((List.range 17).findSome? fun i ↦ v.onGrid? point (i + 1)).getD ⟨0, 1, 1⟩).normalize

/-- The text of an unsigned number. -/
def finiteText (m : Nat) (e : Int) : String :=
  if m = 0 then "0.0"
  else
    let d := f.shortest m e
    let text := Nat.toDigits 10 d.digits
    let zeros (n : Int) : List Char := List.replicate n.toNat '0'
    if -3 ≤ d.point ∧ d.point ≤ 16 then
      if d.point ≤ 0 then String.ofList ('0' :: '.' :: zeros (-d.point) ++ text)
      else if (text.length : Int) ≤ d.point then
        String.ofList (text ++ zeros (d.point - text.length) ++ ['.', '0'])
      else
        String.ofList (text.take d.point.toNat ++ '.' :: text.drop d.point.toNat)
    else
      let tail := text.drop 1
      String.ofList (text.take 1 ++ (if tail.isEmpty then [] else '.' :: tail) ++ ['e'])
        ++ toString (d.point - 1)

/-- The text of a word. -/
def text (word : Nat) : String :=
  match f.decode word with
  | .nan => "NaN"
  | .infinite negative => if negative then "-inf" else "inf"
  | .finite negative m e => (if negative then "-" else "") ++ f.finiteText m e

end Format

end CallingConvention
