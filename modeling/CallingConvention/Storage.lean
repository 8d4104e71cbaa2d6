import CallingConvention.Number.Value

/-!
# Storage

An address says what storage starts there (`Address`), storage is a run of bytes (`Byte`), and what
the bytes are depends on how they are read (`Payload`).
-/

namespace CallingConvention

/-!
## Addresses

Storage is never a number here. An address says what kind of storage it starts: a counted object,
a region of plain memory, an out cell, the storage of one argument of a frame, or the return storage
of a frame. Frames, objects, regions and cells are numbered as they come into being and numbers are
not used again, so equal addresses of this kind mean the same storage.

Storage may hold any word where an address is looked for. A word that is neither zero nor where some
storage starts is a stray address: it is not null, and there is nothing to be found there. Instances
without any size need no storage and have stray addresses too (`ScriptType.place`), which different
instances may share.
-/

/-- The start of some storage, the null address, or a stray one. -/
inductive Address where
  | null
  | object (number : Nat)
  | region (number : Nat)
  | cell (number : Nat)
  | argument (frame : Nat) (index : Nat)
  | result (frame : Nat)
  | stray (word : BitVec 64) (word_ne_zero : word ≠ 0)
  deriving DecidableEq

instance : Inhabited Address := ⟨.null⟩

namespace Address

/-- Whether an address is null. -/
def isNull (a : Address) : Bool := a == .null

@[simp] theorem isNull_iff {a : Address} : a.isNull = true ↔ a = .null := by
  simp [isNull]

/-- The diagnostic text of an address, which shows only whether there is any storage. -/
def debugText (a : Address) : String := if a.isNull then "0x0" else "0x?"

/-- The address that a word is when no storage is known to start there. -/
def ofWord (word : BitVec 64) : Address := if h : word = 0 then .null else .stray word h

end Address

/-!
## Bytes

Storage is a run of bytes, and what it holds depends on how it is read. A byte is plain, or it is
one of the bytes of the address of some storage. Where storage lies is not known, so the bytes of
its address say nothing one by one; all of them in order make the address again.

The first byte of a number is its least one. Storage past the last byte that was written holds
zero.
-/

/-- A byte of storage. -/
inductive Byte where
  | plain (bits : BitVec 8)
  | ofAddress (address : Address) (place : Nat)
  deriving DecidableEq

namespace Byte

/-- The byte whose bits are all zero. -/
def zero : Byte := .plain 0

/-! ### Parts of storage -/

/-- The first bytes of storage. -/
def first (count : Nat) (bytes : List Byte) : List Byte := (bytes.take count).rightpad count zero

/-- Write bytes over the first ones of some storage. -/
def overlay (new old : List Byte) : List Byte := new ++ old.drop new.length

@[simp] theorem length_first (count : Nat) (bytes : List Byte) :
    (first count bytes).length = count := by
  rw [first, List.rightpad, List.length_append, List.length_replicate, List.length_take]
  omega

theorem first_overlay {count : Nat} {new : List Byte} (h : new.length = count) (old : List Byte) :
    first count (overlay new old) = new := by
  subst h
  simp [first, overlay, List.rightpad]

theorem getElem?_first (count : Nat) (bytes : List Byte) (i : Nat) :
    (first count bytes)[i]? = if i < count then some (bytes[i]?.getD zero) else none := by
  rw [first, List.rightpad, List.getElem?_append, List.getElem?_replicate, List.length_take]
  by_cases h : i < count
  · rw [if_pos h]
    by_cases k : i < bytes.length
    · rw [if_pos (by omega), List.getElem?_take, if_pos h, List.getElem?_eq_getElem k,
        Option.getD_some]
    · rw [if_neg (by omega), if_pos (by omega), List.getElem?_eq_none (by omega), Option.getD_none]
  · rw [if_neg h]
    by_cases k : i < min count bytes.length
    · omega
    · rw [if_neg k, if_neg (by omega)]

/-- What was taken from other storage is the same there, in all of its parts. -/
theorem first_drop_overlay_first (skip : Nat) {count total : Nat} (h : skip + count ≤ total)
    (bytes old : List Byte) :
    first count ((overlay (first total bytes) old).drop skip) = first count (bytes.drop skip) := by
  apply List.ext_getElem?
  intro i
  rw [getElem?_first, getElem?_first]
  split
  · next lt =>
    have inside : skip + i < total := by omega
    rw [List.getElem?_drop, List.getElem?_drop, overlay,
      List.getElem?_append_left (by simpa using inside), getElem?_first, if_pos inside,
      Option.getD_some]
  · rfl

/-! ### Numbers -/

/-- What a byte counts in a number. A byte of an address counts for one, so that no part of an
address passes for zero. -/
def worth : Byte → Nat
  | plain bits => bits.toNat
  | ofAddress _ _ => 1

/-- The number that bytes make. -/
def number : List Byte → Nat
  | [] => 0
  | b :: bytes => b.worth + 256 * number bytes

/-- A number in as many bytes as asked for. What does not fit is cut off. -/
def ofNumber : Nat → Nat → List Byte
  | 0, _ => []
  | count + 1, n => .plain (BitVec.ofNat 8 n) :: ofNumber count (n / 256)

@[simp] theorem length_ofNumber (count n : Nat) : (ofNumber count n).length = count := by
  induction count generalizing n with
  | zero => rfl
  | succ count ih => rw [ofNumber, List.length_cons, ih]

@[simp] theorem number_ofNumber (count n : Nat) :
    number (ofNumber count n) = n % Nat.pow 256 count := by
  induction count generalizing n with
  | zero => exact (Nat.mod_one n).symm
  | succ count ih =>
    have succ : Nat.pow 256 (count + 1) = 256 * Nat.pow 256 count := Nat.mul_comm _ _
    have split : n % Nat.pow 256 (count + 1) = n % 256 + 256 * (n / 256 % Nat.pow 256 count) := by
      rw [succ, Nat.mod_mul]
    rw [split, ofNumber, number, ih, worth, BitVec.toNat_ofNat]

/-- The word that the first bytes of storage make. -/
def toWord (width count : Nat) (bytes : List Byte) : BitVec width :=
  BitVec.ofNat width (number (first count bytes))

/-- The 64-bit integer that the first bytes of storage make. -/
def toInt (bytes : List Byte) : Int := (toWord 64 8 bytes).toInt

theorem toWord_append {width count : Nat} (h : Nat.pow 256 count = Nat.pow 2 width)
    (n : BitVec width) (rest : List Byte) :
    toWord width count (ofNumber count n.toNat ++ rest) = n := by
  have front : first count (ofNumber count n.toNat ++ rest) = ofNumber count n.toNat := by
    simp [first, List.rightpad]
  have word_lt : n.toNat % Nat.pow 2 width = n.toNat := Nat.mod_eq_of_lt n.isLt
  rw [toWord, front, number_ofNumber, h, word_lt, BitVec.ofNat_toNat, BitVec.setWidth_eq]

end Byte

/-! ### Addresses in storage -/

namespace Address

/-- The bytes of an address. -/
def bytes : Address → List Byte
  | null => Byte.ofNumber 8 0
  | stray word _ => Byte.ofNumber 8 word.toNat
  | a => (List.range 8).map (.ofAddress a)

/-- The address that the first bytes of storage make. -/
def ofBytes (bytes : List Byte) : Address :=
  let bytes := Byte.first 8 bytes
  match bytes.head? with
  | some (.ofAddress a _) =>
    if bytes = a.bytes then a else ofWord (BitVec.ofNat 64 (Byte.number bytes))
  | _ => ofWord (BitVec.ofNat 64 (Byte.number bytes))

@[simp] theorem length_bytes (a : Address) : a.bytes.length = 8 := by
  cases a <;> simp [bytes]

/-- Write bytes over a stored address. -/
def overwrite (stored : Address) (new : List Byte) : Address :=
  ofBytes (Byte.overlay new stored.bytes)

theorem ofBytes_overlay (a : Address) (old : List Byte) :
    ofBytes (Byte.overlay a.bytes old) = a := by
  unfold ofBytes
  rw [Byte.first_overlay a.length_bytes]
  cases a with
  | null => rfl
  | stray word h =>
    have word_lt : word.toNat % Nat.pow 256 8 = word.toNat := Nat.mod_eq_of_lt word.isLt
    have back : BitVec.ofNat 64 (Byte.number (Byte.ofNumber 8 word.toNat)) = word := by
      rw [Byte.number_ofNumber, word_lt, BitVec.ofNat_toNat, BitVec.setWidth_eq]
    simp only [bytes, Byte.ofNumber, List.head?_cons] at back ⊢
    rw [back, ofWord, dif_neg h]
  | _ => simp [bytes, List.range, List.range.loop]

theorem overwrite_bytes (stored a : Address) : stored.overwrite a.bytes = a :=
  ofBytes_overlay a _

end Address

/-!
## Payloads

A payload is what storage holds when it is read in one of five shapes: as a primitive value of a
kind, as a 64-bit integer, as three floating-point numbers, as an address, or as nothing at all.
Every payload has bytes, and `Shape.read_overlay` says that reading in the shape of what was written
gives it back. Read in another shape, the same bytes make another payload.
-/

/-! ### Values in storage -/

namespace Value

/-- The bytes of a value. -/
def bytes (v : Value) : List Byte := Byte.ofNumber v.kind.size v.word

/-- The value of a kind that the first bytes of storage make. -/
def ofBytes (k : Kind) (bytes : List Byte) : Value :=
  ofWord k (Byte.number (Byte.first k.size bytes))

@[simp] theorem length_bytes (v : Value) : v.bytes.length = v.kind.size :=
  Byte.length_ofNumber _ _

@[simp] theorem kind_ofBytes (k : Kind) (bytes : List Byte) : (ofBytes k bytes).kind = k :=
  kind_ofWord _ _

theorem ofBytes_overlay (v : Value) (old : List Byte) :
    ofBytes v.kind (Byte.overlay v.bytes old) = v := by
  have span : Nat.pow 256 v.kind.size = Nat.pow 2 v.kind.bits := by
    cases v.kind with
    | signed w => cases w <;> rfl
    | unsigned w => cases w <;> rfl
    | _ => rfl
  rw [ofBytes, Byte.first_overlay v.length_bytes, bytes, Byte.number_ofNumber, span,
    Nat.mod_eq_of_lt v.word_lt, ofWord_word]

/-- Write bytes over a stored value, which keeps its kind. -/
def overwrite (stored : Value) (new : List Byte) : Value :=
  ofBytes stored.kind (Byte.overlay new stored.bytes)

@[simp] theorem kind_overwrite (stored : Value) (new : List Byte) :
    (stored.overwrite new).kind = stored.kind :=
  kind_ofBytes _ _

theorem overwrite_of_kind_eq {stored v : Value} (h : v.kind = stored.kind) :
    stored.overwrite v.bytes = v := by
  rw [overwrite, ← h, ofBytes_overlay]

end Value

/-! ### Payloads and shapes -/

/-- What storage holds. -/
inductive Payload where
  | value (v : Value)
  | word (n : BitVec 64)
  | triple (x y z : BitVec 32)
  | unit
  | address (a : Address)
  deriving DecidableEq

instance : Inhabited Payload := ⟨.unit⟩

/-- How the instances of a type are laid out, and so how their storage is read. -/
inductive Shape where
  | value (k : Kind)
  | word
  | triple
  | unit
  | address
  deriving DecidableEq

namespace Payload

/-- The shape of a payload. -/
def shape : Payload → Shape
  | value v => .value v.kind
  | word _ => .word
  | triple _ _ _ => .triple
  | unit => .unit
  | address _ => .address

/-- The bytes of a payload. -/
def bytes : Payload → List Byte
  | value v => v.bytes
  | word n => Byte.ofNumber 8 n.toNat
  | triple x y z =>
    Byte.ofNumber 4 x.toNat ++ (Byte.ofNumber 4 y.toNat ++ Byte.ofNumber 4 z.toNat)
  | unit => []
  | address a => a.bytes

/-- The address that a payload is; another payload counts as null. -/
def target : Payload → Address
  | address a => a
  | _ => .null

end Payload

namespace Shape

/-- How many bytes of storage are read. -/
def size : Shape → Nat
  | value k => k.size
  | word => 8
  | triple => 12
  | unit => 0
  | address => 8

/-- What the first bytes of storage hold. -/
def read (bytes : List Byte) : Shape → Payload
  | value k => .value (Value.ofBytes k bytes)
  | word => .word (Byte.toWord 64 8 bytes)
  | triple =>
    .triple (Byte.toWord 32 4 bytes) (Byte.toWord 32 4 (bytes.drop 4))
      (Byte.toWord 32 4 (bytes.drop 8))
  | unit => .unit
  | address => .address (Address.ofBytes bytes)

/-- What storage of a shape holds as long as all of its bytes are zero. -/
def zero (s : Shape) : Payload := s.read []

end Shape

namespace Payload

@[simp] theorem length_bytes (p : Payload) : p.bytes.length = p.shape.size := by
  cases p <;> simp [bytes, shape, Shape.size]

theorem shape_read (bytes : List Byte) (s : Shape) : (s.read bytes).shape = s := by
  cases s <;> simp [Shape.read, shape]

end Payload

/-- Reading in the shape of what was just written gives it back. -/
theorem Shape.read_overlay (p : Payload) (old : List Byte) :
    p.shape.read (Byte.overlay p.bytes old) = p := by
  cases p with
  | value v => exact congrArg Payload.value (v.ofBytes_overlay old)
  | word n => exact congrArg Payload.word (Byte.toWord_append (by decide) n _)
  | triple x y z =>
    have span : Nat.pow 256 4 = Nat.pow 2 32 := by decide
    have skip (n : BitVec 32) (rest : List Byte) :
        (Byte.ofNumber 4 n.toNat ++ rest).drop 4 = rest := by
      simp
    have twice (bytes : List Byte) : bytes.drop 8 = (bytes.drop 4).drop 4 := by
      rw [List.drop_drop]
    simp only [Payload.shape, read, Byte.overlay, Payload.bytes, List.append_assoc, twice, skip,
      Byte.toWord_append span]
  | unit => rfl
  | address a => exact congrArg Payload.address (a.ofBytes_overlay old)

/-- Storage that was copied is read like the storage that it was copied from. -/
theorem Shape.read_overlay_first (s : Shape) (bytes old : List Byte) :
    s.read (Byte.overlay (Byte.first s.size bytes) old) = s.read bytes := by
  have same (count : Nat) (h : count ≤ s.size) :
      Byte.first count (Byte.overlay (Byte.first s.size bytes) old) = Byte.first count bytes := by
    simpa using Byte.first_drop_overlay_first 0 (by omega : 0 + count ≤ s.size) bytes old
  cases s with
  | value k => rw [read, read, Value.ofBytes, Value.ofBytes, same k.size (Nat.le_refl _)]
  | word => rw [read, read, Byte.toWord, Byte.toWord, same 8 (Nat.le_refl _)]
  | triple =>
    simp only [read, Byte.toWord]
    rw [same 4 (by decide), Byte.first_drop_overlay_first 4 (by decide),
      Byte.first_drop_overlay_first 8 (by decide)]
  | unit => rfl
  | address => rw [read, read, Address.ofBytes, Address.ofBytes, same 8 (Nat.le_refl _)]

end CallingConvention
