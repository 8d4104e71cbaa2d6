import CallingConvention.Storage

/-!
# Values and pointers as text

The text forms in which a session writes primitive values, the contents of storage and pointers.
A value is its kind and, after a colon, an integer in decimal, a truth value by name, or the word of
a floating-point number in hexadecimal; what is not a number is `nan` whatever its word. A pointer
names storage by what it is and, after a colon, by its identifier.
-/

namespace CallingConvention.Session

/-! ## Writing -/

/-- A word in hexadecimal, with leading zeros up to a number of digits. -/
def hexText (count n : Nat) : String :=
  let digits := Nat.toDigits 16 n
  String.ofList ('0' :: 'x' :: List.replicate (count - digits.length) '0' ++ digits)

/-- A 32-bit floating-point word. -/
def singleText (n : BitVec 32) : String :=
  if Format.single.isNan n.toNat then "nan" else hexText 8 n.toNat

/-- A 64-bit floating-point word. -/
def doubleText (n : BitVec 64) : String :=
  if Format.double.isNan n.toNat then "nan" else hexText 16 n.toNat

/-- A value with its kind. -/
def valueText (v : Value) : String :=
  v.kind.scriptName ++ ":" ++
    match v with
    | .single n => singleText n
    | .double n => doubleText n
    | v => v.text

/-- What storage holds, with addresses written as `pointer` writes them. -/
def payloadText (pointer : Address → String) : Payload → String
  | .value v => valueText v
  | .word n => "i64:" ++ toString n.toInt
  | .triple x y z => "vec3:" ++ singleText x ++ "," ++ singleText y ++ "," ++ singleText z
  | .unit => "unit"
  | .address a => pointer a

/-! ## Reading -/

/-- Split a text at its first colon. -/
def splitColon (text : String) : List Char × Option (List Char) :=
  let (head, rest) := text.toList.span (· != ':')
  (head, rest.tail?)

/-- A natural number in decimal. -/
def naturalOfText? (text : List Char) : Option Nat :=
  if text.isEmpty || !text.all Char.isDigit then none
  else some (text.foldl (fun n c ↦ 10 * n + (c.toNat - '0'.toNat)) 0)

/-- An integer in decimal. -/
def integerOfText? : List Char → Option Int
  | '-' :: digits => (naturalOfText? digits).map fun n ↦ -(n : Int)
  | digits => (naturalOfText? digits).map Int.ofNat

/-- The value of a hexadecimal digit. -/
def hexDigit? (c : Char) : Option Nat :=
  if c.isDigit then some (c.toNat - '0'.toNat)
  else if 'a' ≤ c && c ≤ 'f' then some (c.toNat - 'a'.toNat + 10)
  else none

/-- A word in hexadecimal; `nan` is the word `quiet`. -/
def wordOfText? (quiet : Nat) : List Char → Option Nat
  | ['n', 'a', 'n'] => some quiet
  | '0' :: 'x' :: digits =>
    if digits.isEmpty then none
    else digits.foldl (fun n c ↦ do return 16 * (← n) + (← hexDigit? c)) (some 0)
  | _ => none

/-- A 32-bit floating-point word. -/
def singleOfText? (text : List Char) : Option (BitVec 32) :=
  (wordOfText? Format.single.quietNan text).map (BitVec.ofNat 32)

/-- A 64-bit floating-point word. -/
def doubleOfText? (text : List Char) : Option (BitVec 64) :=
  (wordOfText? Format.double.quietNan text).map (BitVec.ofNat 64)

/-- A value of a kind. -/
def valueOfKind? (k : Kind) (text : List Char) : Option Value :=
  match k with
  | .bool =>
    if text = "true".toList then some (.bool true)
    else if text = "false".toList then some (.bool false)
    else none
  | .signed w => (integerOfText? text).map fun n ↦ .signed w (BitVec.ofInt _ n)
  | .unsigned w => (integerOfText? text).map fun n ↦ .unsigned w (BitVec.ofInt _ n)
  | .single => (singleOfText? text).map .single
  | .double => (doubleOfText? text).map .double

/-- A value with its kind. -/
def valueOfText? (text : String) : Option Value :=
  match splitColon text with
  | (head, some rest) => (Kind.ofScriptName? (String.ofList head)).bind (valueOfKind? · rest)
  | _ => none

/-- A pointer as a script writes it. The last form is the address in an owned handle. -/
inductive Pointer where
  | null
  | object (id : String)
  | region (id : String)
  | cell (id : String)
  | held (id : String)
  deriving DecidableEq

/-- A pointer. -/
def pointerOfText? (text : String) : Option Pointer :=
  match splitColon text with
  | (head, none) => if head = "null".toList then some .null else none
  | (head, some rest) =>
    let id := String.ofList rest
    if head = "obj".toList then some (.object id)
    else if head = "val".toList then some (.region id)
    else if head = "out".toList then some (.cell id)
    else if head = "hnd".toList then some (.held id)
    else none

/-- A pointer as it is written. -/
def Pointer.text : Pointer → String
  | null => "null"
  | object id => "obj:" ++ id
  | region id => "val:" ++ id
  | cell id => "out:" ++ id
  | held id => "hnd:" ++ id

/-- What a script puts into storage. A payload comes with the text that it was written as. -/
inductive Content where
  | plain (p : Payload) (text : String)
  | pointer (p : Pointer)
  deriving DecidableEq

namespace Content

/-- Contents as they are written. -/
def text : Content → String
  | plain _ text => text
  | pointer p => p.text

/-- The shape of the storage that contents are for. -/
def shape : Content → Shape
  | plain p _ => p.shape
  | pointer _ => .address

end Content

/-- The three parts of a text between commas. -/
def threeParts? (text : List Char) : Option (List Char × List Char × List Char) :=
  let (x, rest) := text.span (· != ',')
  let (y, z) := (rest.drop 1).span (· != ',')
  if z.isEmpty then none else some (x, y, z.drop 1)

/-- What a script puts into storage. -/
def contentOfText? (text : String) : Option Content :=
  match splitColon text with
  | (head, none) =>
    if head = "unit".toList then some (.plain .unit text)
    else (pointerOfText? text).map .pointer
  | (head, some rest) =>
    if head = "i64".toList then
      (integerOfText? rest).map fun n ↦ .plain (.word (BitVec.ofInt 64 n)) text
    else if head = "vec3".toList then do
      let (x, y, z) ← threeParts? rest
      return .plain (.triple (← singleOfText? x) (← singleOfText? y) (← singleOfText? z)) text
    else
      match valueOfText? text with
      | some v => some (.plain (.value v) text)
      | none => (pointerOfText? text).map .pointer

end CallingConvention.Session
