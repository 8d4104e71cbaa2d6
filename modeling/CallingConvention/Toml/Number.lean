import CallingConvention.Toml.Text

/-!
# Numbers and dates in TOML

Integers must fit into 64 bits and dates must exist. A decimal fraction must not be so great that
the nearest 64-bit floating-point number is positive infinity.
-/

namespace CallingConvention.Toml

/-- Digits with single underscores between them. Reading stops before an underscore that no digit
follows. -/
def digits (isDigit : Char → Bool) : List Char → List Char × List Char
  | [] => ([], [])
  | c :: cs =>
    if isDigit c then
      let (text, rest) := digits isDigit cs
      (c :: text, rest)
    else if c = '_' && (cs.head?.any isDigit) then digits isDigit cs
    else ([], c :: cs)

/-- Digits of which the first is no underscore. -/
def digits? (isDigit : Char → Bool) (cs : List Char) : Option (List Char × List Char) :=
  if cs.head?.any isDigit then some (digits isDigit cs) else none

/-- The value of decimal digits. -/
def decimalNumber (digits : List Char) : Nat :=
  digits.foldl (fun n c ↦ 10 * n + (c.toNat - '0'.toNat)) 0

/-- The sign of a number, and whether it is negative. -/
def sign : List Char → Bool × List Char
  | '+' :: cs => (false, cs)
  | '-' :: cs => (true, cs)
  | cs => (false, cs)

/-- A decimal whole number without leading zeros. -/
def whole? : Reader (List Char)
  | '0' :: cs => some (['0'], cs)
  | cs => digits? Char.isDigit cs

/-- Whether an integer fits into 64 bits. -/
def fitsWord (n : Int) : Bool := -Nat.pow 2 63 ≤ n && n < Nat.pow 2 63

/-- The value of digits in a base that is a power of two. -/
def baseNumber (base : Nat) (digits : List Char) : Nat :=
  digits.foldl (fun n c ↦ base * n + (hexNumber? [c]).getD 0) 0

/-- An integer in another base than ten, after its mark. -/
def baseInteger? (base : Nat) (cs : List Char) : Option (Int × List Char) :=
  match digits? (fun c ↦ (hexNumber? [c]).any (· < base)) cs with
  | some (text, rest) =>
    let n : Int := baseNumber base text
    if fitsWord n then some (n, rest) else none
  | none => none

/-- An integer. -/
def integer? : Reader Int
  | '0' :: 'x' :: cs => baseInteger? 16 cs
  | '0' :: 'o' :: cs => baseInteger? 8 cs
  | '0' :: 'b' :: cs => baseInteger? 2 cs
  | cs =>
    let (negative, cs) := sign cs
    match whole? cs with
    | some (text, rest) =>
      let n : Int := decimalNumber text
      let n := if negative then -n else n
      if fitsWord n then some (n, rest) else none
    | none => none

/-- Whether `n * 10 ^ e` rounds to infinity in the 64-bit format. Beyond 310 decimal places in
front of the point every positive number does, and below 309 places none. -/
def isInfinite (n : Nat) (e : Int) : Bool :=
  let places := e + (Nat.toDigits 10 n).length
  let bound := Nat.pow 2 1024 - Nat.pow 2 970
  if n = 0 || places < 309 then false
  else if 310 < places then true
  else bound * Nat.pow 10 (-e).toNat ≤ n * Nat.pow 10 e.toNat

/-- The exponent of a decimal fraction. -/
def exponent? (cs : List Char) : Option (Int × List Char) :=
  match cs with
  | c :: cs =>
    if c = 'e' || c = 'E' then
      let (negative, cs) := sign cs
      (digits? Char.isDigit cs).map fun (text, rest) ↦
        ((if negative then -(decimalNumber text : Int) else decimalNumber text), rest)
    else none
  | [] => none

/-- A floating-point number. -/
def float? (cs : List Char) : Option (Unit × List Char) :=
  let (negative, cs) := sign cs
  match cs with
  | 'i' :: 'n' :: 'f' :: rest => some ((), rest)
  | 'n' :: 'a' :: 'n' :: rest => some ((), rest)
  | _ =>
    match whole? cs with
    | none => none
    | some (text, rest) =>
      let fraction? : Option (List Char × List Char) :=
        match rest with
        | '.' :: rest => digits? Char.isDigit rest
        | _ => none
      let (fraction, rest') := fraction?.getD ([], rest)
      let (exponent, rest'') := (exponent? rest').getD (0, rest')
      if fraction.isEmpty && (exponent? rest').isNone then none
      else if !negative &&
          isInfinite (decimalNumber (text ++ fraction)) (exponent - fraction.length) then none
      else some ((), rest'')

/-! ## Dates and times -/

/-- The value of two digits. -/
def two? (a b : Char) : Option Nat :=
  if a.isDigit && b.isDigit then some (decimalNumber [a, b]) else none

/-- Number of days of a month. -/
def daysIn (year month : Nat) : Nat :=
  if month = 2 then
    if year % 4 = 0 && (year % 100 ≠ 0 || year % 400 = 0) then 29 else 28
  else if month = 4 || month = 6 || month = 9 || month = 11 then 30
  else 31

/-- Skip a date. -/
def date? : List Char → Option (List Char)
  | a :: b :: c :: d :: '-' :: m :: n :: '-' :: x :: y :: rest => do
    let century ← two? a b
    let year := 100 * century + (← two? c d)
    let month ← two? m n
    let day ← two? x y
    if 1 ≤ month && month ≤ 12 && 1 ≤ day && day ≤ daysIn year month then some rest else none
  | _ => none

/-- Skip a time of day. A minute may have a leap second. -/
def time? : List Char → Option (List Char)
  | a :: b :: ':' :: c :: d :: ':' :: e :: f :: rest => do
    let hour ← two? a b
    let minute ← two? c d
    let second ← two? e f
    if hour ≤ 23 && minute ≤ 59 && second ≤ 60 then
      match rest with
      | '.' :: g :: more => some (if g.isDigit then more.dropWhile Char.isDigit else rest)
      | _ => some rest
    else none
  | _ => none

/-- Skip an offset from universal time, if there is one. -/
def skipOffset (cs : List Char) : List Char :=
  match cs with
  | 'Z' :: rest => rest
  | 'z' :: rest => rest
  | s :: a :: b :: ':' :: c :: d :: rest =>
    match two? a b, two? c d with
    | some hour, some minute =>
      if (s = '+' || s = '-') && hour ≤ 23 && minute ≤ 59 then rest else cs
    | _, _ => cs
  | _ => cs

/-- Skip a date, a time, or both with or without an offset. -/
def dateTime? (cs : List Char) : Option (List Char) :=
  match date? cs with
  | some rest =>
    match rest with
    | c :: more =>
      if c = 'T' || c = 't' || c = ' ' then some (((time? more).map skipOffset).getD rest)
      else some rest
    | [] => some rest
  | none => time? cs

end CallingConvention.Toml
