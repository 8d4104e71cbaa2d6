import CallingConvention.Number.Float

/-!
# Primitive values

A primitive value is a kind together with bits of that kind's width. Values are converted from one
kind to another through the numbers that they denote.
-/

namespace CallingConvention

/-!
## Kinds

The eleven kinds of primitive value that a script can pass: truth values, signed and unsigned
integers of four widths, and floating-point numbers in two formats. A kind fixes the size of the
storage that holds its values; primitive storage is aligned to its own size.
-/

/-- Number of bits of an integer kind. -/
inductive Width where
  | bits8
  | bits16
  | bits32
  | bits64
  deriving DecidableEq, Inhabited

/-- The number of bits that a width stands for. -/
def Width.bits : Width → Nat
  | .bits8 => 8
  | .bits16 => 16
  | .bits32 => 32
  | .bits64 => 64

/-- The kind of a primitive value. -/
inductive Kind where
  | bool
  | signed (width : Width)
  | unsigned (width : Width)
  | single
  | double
  deriving DecidableEq, Inhabited

namespace Kind

/-- Every kind, in the order in which the kinds are documented to scripts. -/
def all : List Kind :=
  [.bool,
    .signed .bits8, .signed .bits16, .signed .bits32, .signed .bits64,
    .unsigned .bits8, .unsigned .bits16, .unsigned .bits32, .unsigned .bits64,
    .single, .double]

theorem mem_all (k : Kind) : k ∈ all := by
  cases k with
  | signed w => cases w <;> decide
  | unsigned w => cases w <;> decide
  | _ => decide

/-- Number of bits of storage that a value of the kind takes; a truth value takes a byte. -/
def bits : Kind → Nat
  | bool => 8
  | signed w => w.bits
  | unsigned w => w.bits
  | single => 32
  | double => 64

/-- Number of bytes of storage that a value of the kind takes. -/
def size (k : Kind) : Nat := k.bits / 8

/-- Alignment of the storage, which is its size. -/
def align (k : Kind) : Nat := k.size

/-- Integers of either sign; truth values are not integers. -/
def isInteger : Kind → Bool
  | signed _ => true
  | unsigned _ => true
  | _ => false

/-- The two floating-point kinds. -/
def isFloat : Kind → Bool
  | single => true
  | double => true
  | _ => false

/-- The name of the kind in scripts. The 32-bit integers are the ones without a number. -/
def scriptName : Kind → String
  | bool => "bool"
  | signed .bits8 => "int8"
  | signed .bits16 => "int16"
  | signed .bits32 => "int"
  | signed .bits64 => "int64"
  | unsigned .bits8 => "uint8"
  | unsigned .bits16 => "uint16"
  | unsigned .bits32 => "uint"
  | unsigned .bits64 => "uint64"
  | single => "float"
  | double => "double"

/-- The short tag of the kind in diagnostic texts. -/
def tag : Kind → String
  | bool => "Bool"
  | signed .bits8 => "I8"
  | signed .bits16 => "I16"
  | signed .bits32 => "I32"
  | signed .bits64 => "I64"
  | unsigned .bits8 => "U8"
  | unsigned .bits16 => "U16"
  | unsigned .bits32 => "U32"
  | unsigned .bits64 => "U64"
  | single => "F32"
  | double => "F64"

/-- The kind that a script means by a name. -/
def ofScriptName? (name : String) : Option Kind :=
  all.find? fun k ↦ k.scriptName == name

theorem ofScriptName?_scriptName (k : Kind) : ofScriptName? k.scriptName = some k := by
  cases k with
  | signed w => cases w <;> decide
  | unsigned w => cases w <;> decide
  | _ => decide

theorem scriptName_injective {k l : Kind} (h : k.scriptName = l.scriptName) : k = l := by
  have := ofScriptName?_scriptName k
  rw [h, ofScriptName?_scriptName l] at this
  exact (Option.some.inj this).symm

end Kind

/-!
## Values

Conversion between kinds goes through the number that a value denotes: integers wrap modulo the
width of an integer kind and round to a floating-point kind, floating-point numbers truncate and
saturate in an integer kind and round in a narrower format, and whatever is not zero counts as true.

The truth of an integer is decided on its 64-bit floating-point word. `Value.ofInt` states this
detour, which is harmless because rounding never takes an integer other than zero to zero.
-/

/-- A primitive value. Floating-point numbers are kept as words, so two words of zero differ. -/
inductive Value where
  | bool (truth : Bool)
  | signed (width : Width) (bits : BitVec width.bits)
  | unsigned (width : Width) (bits : BitVec width.bits)
  | single (word : BitVec 32)
  | double (word : BitVec 64)
  deriving DecidableEq

instance : Inhabited Value := ⟨.bool false⟩

namespace Value

/-- The kind of a value. -/
def kind : Value → Kind
  | bool _ => .bool
  | signed w _ => .signed w
  | unsigned w _ => .unsigned w
  | single _ => .single
  | double _ => .double

/-! ### Storage -/

/-- The bits of a value as they are stored; truth is the byte one. -/
def word : Value → Nat
  | bool b => b.toNat
  | signed _ n => n.toNat
  | unsigned _ n => n.toNat
  | single n => n.toNat
  | double n => n.toNat

/-- The value of a kind that stored bits make; every byte but zero is truth. -/
def ofWord : Kind → Nat → Value
  | .bool, n => .bool (n % 256 != 0)
  | .signed w, n => .signed w (BitVec.ofNat _ n)
  | .unsigned w, n => .unsigned w (BitVec.ofNat _ n)
  | .single, n => .single (BitVec.ofNat _ n)
  | .double, n => .double (BitVec.ofNat _ n)

/-- The value whose bits are all zero. -/
def zero (k : Kind) : Value := ofWord k 0

@[simp] theorem kind_ofWord (k : Kind) (n : Nat) : (ofWord k n).kind = k := by
  cases k <;> rfl

@[simp] theorem kind_zero (k : Kind) : (zero k).kind = k := kind_ofWord k 0

@[simp] theorem ofWord_word (v : Value) : ofWord v.kind v.word = v := by
  cases v with
  | bool b => cases b <;> rfl
  | _ => simp [kind, word, ofWord]

theorem word_lt (v : Value) : v.word < Nat.pow 2 v.kind.bits := by
  cases v with
  | bool b => cases b <;> simp [word, kind, Kind.bits]
  | signed w n => exact n.isLt
  | unsigned w n => exact n.isLt
  | single n => exact n.isLt
  | double n => exact n.isLt

/-! ### Conversion -/

/-- The value of a kind that an integer becomes. -/
def ofInt (k : Kind) (n : Int) : Value :=
  match k with
  | .bool => .bool (Format.double.isTrue (Format.double.ofInt n))
  | .signed w => .signed w (BitVec.ofInt _ n)
  | .unsigned w => .unsigned w (BitVec.ofInt _ n)
  | .single => .single (BitVec.ofNat _ (Format.single.ofInt n))
  | .double => .double (BitVec.ofNat _ (Format.double.ofInt n))

/-- The value of a kind that a floating-point word becomes. -/
def ofFloat (k : Kind) (f : Format) (n : Nat) : Value :=
  match k with
  | .bool => .bool (Format.double.isTrue (f.convertTo Format.double n))
  | .signed w =>
    .signed w
      (BitVec.ofInt _ (f.toIntWithin (-Nat.pow 2 (w.bits - 1)) (Nat.pow 2 (w.bits - 1) - 1) n))
  | .unsigned w => .unsigned w (BitVec.ofInt _ (f.toIntWithin 0 (Nat.pow 2 w.bits - 1) n))
  | .single => .single (BitVec.ofNat _ (f.convertTo Format.single n))
  | .double => .double (BitVec.ofNat _ (f.convertTo Format.double n))

/-- The integer that a value denotes; truth is one. Floating-point values denote none. -/
def toInt? : Value → Option Int
  | bool b => some b.toNat
  | signed _ n => some n.toInt
  | unsigned _ n => some n.toNat
  | single _ => none
  | double _ => none

/-- Convert a value to a kind. A value of that kind already stays as it is, bit for bit. -/
def convert (v : Value) (k : Kind) : Value :=
  if v.kind = k then v
  else
    match v with
    | bool b => ofInt k b.toNat
    | signed _ n => ofInt k n.toInt
    | unsigned _ n => ofInt k n.toNat
    | single n => ofFloat k Format.single n.toNat
    | double n => ofFloat k Format.double n.toNat

@[simp] theorem kind_ofInt (k : Kind) (n : Int) : (ofInt k n).kind = k := by
  cases k <;> rfl

@[simp] theorem kind_ofFloat (k : Kind) (f : Format) (n : Nat) : (ofFloat k f n).kind = k := by
  cases k <;> rfl

@[simp] theorem kind_convert (v : Value) (k : Kind) : (v.convert k).kind = k := by
  unfold convert
  split
  · assumption
  · cases v <;> simp

theorem convert_of_kind_eq {v : Value} {k : Kind} (h : v.kind = k) : v.convert k = v :=
  if_pos h

/-- A value that denotes an integer converts as that integer does. -/
theorem convert_of_toInt? {v : Value} {k : Kind} {n : Int} (h : v.toInt? = some n)
    (hk : v.kind ≠ k) : v.convert k = ofInt k n := by
  unfold convert
  rw [if_neg hk]
  cases v <;> simp_all [toInt?]

/-- The value itself if it is of kind `k`: reading never converts. -/
def ofKind? (k : Kind) (v : Value) : Option Value :=
  if v.kind = k then some v else none

@[simp] theorem ofKind?_eq_some_iff {k : Kind} {v u : Value} :
    ofKind? k v = some u ↔ v.kind = k ∧ v = u := by
  simp [ofKind?]

/-! ### Text -/

/-- The number that a value denotes, in decimal. -/
def text : Value → String
  | bool b => if b then "true" else "false"
  | signed _ n => toString n.toInt
  | unsigned _ n => toString n.toNat
  | single n => Format.single.text n.toNat
  | double n => Format.double.text n.toNat

/-- The diagnostic text of a value: the tag of its kind around its number. -/
def debugText (v : Value) : String := v.kind.tag ++ "(" ++ v.text ++ ")"

end Value

end CallingConvention
