/-!
# Layouts

A layout is the size and the alignment of storage. Alignments are powers of two, and a size rounded
up to the alignment must stay below half of the 64-bit address range.

`Block` lays out the storage of a counted object: a header with the reference count stands directly
in front of the payload, so that the address of the payload alone leads to the count and, through
an offset kept in the header, back to the start of the block.

Sizes and addresses are numbers of any size in the first half. The second half computes the same
block in 64-bit words, as memory has them: there a sum may be no word, and then there is no result.
-/

namespace CallingConvention

/-- Sizes and addresses inside one block stay below this bound. -/
def addressRange : Nat := Nat.pow 2 63

/-- Whether a number is a power of two. -/
def isPowerOfTwo (n : Nat) : Bool := Nat.pow 2 (Nat.log2 n) == n

private theorem isPowerOfTwo_iff (n : Nat) : isPowerOfTwo n = true ↔ ∃ k, n = Nat.pow 2 k := by
  rw [isPowerOfTwo, beq_iff_eq]
  constructor
  · intro h
    exact ⟨n.log2, h.symm⟩
  · rintro ⟨k, rfl⟩
    exact congrArg (Nat.pow 2) Nat.log2_two_pow

private theorem dvd_of_isPowerOfTwo {m n : Nat} (hm : isPowerOfTwo m = true)
    (hn : isPowerOfTwo n = true) (le : m ≤ n) : m ∣ n := by
  obtain ⟨i, rfl⟩ := (isPowerOfTwo_iff m).mp hm
  obtain ⟨j, rfl⟩ := (isPowerOfTwo_iff n).mp hn
  exact Nat.pow_dvd_pow 2 ((Nat.pow_le_pow_iff_right Nat.one_lt_two).mp le)

/-- The least multiple of `step` that is not below `n`. -/
def roundUp (n step : Nat) : Nat := (n + step - 1) / step * step

theorem dvd_roundUp (n step : Nat) : step ∣ roundUp n step := Nat.dvd_mul_left ..

/-- There is one multiple between a number and its sum with the step. -/
theorem roundUp_eq_of_dvd {n step m : Nat} (multiple : step ∣ m) (above : n ≤ m)
    (near : m < n + step) : roundUp n step = m := by
  obtain ⟨q, rfl⟩ := multiple
  have next : (q + 1) * step = step * q + step := by
    rw [Nat.add_mul, Nat.one_mul, Nat.mul_comm]
  have quotient : (n + step - 1) / step = q := by
    refine Nat.div_eq_of_lt_le ?_ ?_
    · rw [Nat.mul_comm]
      omega
    · omega
  rw [roundUp, quotient, Nat.mul_comm]

theorem le_roundUp (n : Nat) {step : Nat} (positive : 0 < step) : n ≤ roundUp n step := by
  have split := Nat.div_add_mod (n + step - 1) step
  have rest := Nat.mod_lt (n + step - 1) positive
  rw [roundUp, Nat.mul_comm]
  omega

theorem roundUp_lt (n : Nat) {step : Nat} (positive : 0 < step) : roundUp n step < n + step := by
  have below := Nat.div_mul_le_self (n + step - 1) step
  rw [roundUp]
  omega

/-- Size and alignment of storage. -/
structure Layout where
  /-- The number of bytes. -/
  size : Nat
  /-- What the start of the storage is a multiple of. -/
  align : Nat
  /-- Alignments are powers of two. -/
  isPowerOfTwo_align : isPowerOfTwo align = true
  /-- The size does not overflow when it is rounded up to the alignment. -/
  size_le : size + align ≤ addressRange

namespace Layout

theorem align_pos (l : Layout) : 0 < l.align := by
  obtain ⟨k, hk⟩ := (isPowerOfTwo_iff l.align).mp l.isPowerOfTwo_align
  exact hk ▸ Nat.two_pow_pos k

theorem align_lt (l : Layout) : l.align < Nat.pow 2 64 :=
  calc l.align
      ≤ l.size + l.align := Nat.le_add_left _ _
    _ ≤ Nat.pow 2 63 := l.size_le
    _ < Nat.pow 2 64 := by decide

/-- The layout with this size and alignment, if they make one. -/
def ofSizeAlign? (size align : Nat) : Option Layout :=
  if h : isPowerOfTwo align = true ∧ size + align ≤ addressRange then
    some ⟨size, align, h.1, h.2⟩
  else none

theorem size_of_ofSizeAlign? {size align : Nat} {l : Layout}
    (accepted : ofSizeAlign? size align = some l) : l.size = size ∧ l.align = align := by
  unfold ofSizeAlign? at accepted
  split at accepted
  · obtain rfl := Option.some.inj accepted
    exact ⟨rfl, rfl⟩
  · cases accepted

theorem ofSizeAlign?_isSome_iff (size align : Nat) :
    (ofSizeAlign? size align).isSome ↔
      (∃ k, align = Nat.pow 2 k) ∧ size + align ≤ addressRange := by
  rw [← isPowerOfTwo_iff]
  unfold ofSizeAlign?
  split <;> simp_all

/-- The layout of storage whose size is a power of two and its alignment. -/
def square (size : Nat) (h : isPowerOfTwo size = true ∧ size + size ≤ addressRange) : Layout :=
  ⟨size, size, h.1, h.2⟩

theorem fits_square_8 : isPowerOfTwo 8 = true ∧ 8 + 8 ≤ addressRange := by
  decide

/-- The layout of storage for one address. -/
def address : Layout := square 8 fits_square_8

end Layout

/-! ## Blocks of counted objects -/

/-- Size of the header of a counted object: count, flags, destructor, block layout and offset. -/
def headerSize : Nat := 40

/-- Alignment of the header. -/
def headerAlign : Nat := 8

/-- The block that holds a counted object. -/
structure Block where
  /-- The layout of the payload. -/
  payload : Layout

namespace Block

/-- The block is aligned for both of its parts. -/
def align (b : Block) : Nat := max b.payload.align headerAlign

theorem align_pos (b : Block) : 0 < b.align :=
  Nat.lt_of_lt_of_le b.payload.align_pos (Nat.le_max_left ..)

private theorem isPowerOfTwo_align (b : Block) : isPowerOfTwo b.align = true := by
  unfold align
  rcases Nat.le_total b.payload.align headerAlign with h | h
  · rw [Nat.max_eq_right h]
    rfl
  · rw [Nat.max_eq_left h]
    exact b.payload.isPowerOfTwo_align

theorem payload_align_dvd (b : Block) : b.payload.align ∣ b.align :=
  dvd_of_isPowerOfTwo b.payload.isPowerOfTwo_align b.isPowerOfTwo_align (Nat.le_max_left ..)

theorem headerAlign_dvd (b : Block) : headerAlign ∣ b.align :=
  dvd_of_isPowerOfTwo rfl b.isPowerOfTwo_align (Nat.le_max_right ..)

/-- Distance from the start of the block to the payload. -/
def offset (b : Block) : Nat := roundUp headerSize b.align

theorem align_dvd_offset (b : Block) : b.align ∣ b.offset := dvd_roundUp ..

theorem headerSize_le_offset (b : Block) : headerSize ≤ b.offset := le_roundUp _ b.align_pos

/-- Size of the whole block, which ends with the payload. -/
def size (b : Block) : Nat := b.offset + b.payload.size

/-- The layout of the block, if the block fits into the address range. -/
def layout? (b : Block) : Option Layout := Layout.ofSizeAlign? b.size b.align

/-- Address of the payload in a block at `base`. -/
def payloadAt (b : Block) (base : Nat) : Nat := base + b.offset

/-- Address of the header that belongs to a payload. -/
def headerOf (payload : Nat) : Nat := payload - headerSize

/-- Start of the block that a payload belongs to. -/
def baseOf (b : Block) (payload : Nat) : Nat := payload - b.offset

/-- Whether a block that starts on a multiple of its alignment has an aligned payload. -/
def isAligned (b : Block) : Bool := b.offset % b.payload.align == 0

theorem isAligned_eq_true (b : Block) : b.isAligned = true :=
  beq_iff_eq.mpr (Nat.mod_eq_zero_of_dvd (Nat.dvd_trans b.payload_align_dvd b.align_dvd_offset))

end Block

/-! ## Blocks in words -/

namespace Word

/-- Sizes and addresses are below this bound. -/
def range : Nat := Nat.pow 2 64

/-- The sum of two words, if it is a word. -/
def sum? (m n : Nat) : Option Nat := if m + n < range then some (m + n) else none

/-- The difference of two words, if it is a word. -/
def difference? (m n : Nat) : Option Nat := if n ≤ m then some (m - n) else none

/-- The least multiple of `step` that is not below `n`, if it is a word. What `n` has above the
multiple before is made up to a whole step. -/
def roundUp? (n step : Nat) : Option Nat :=
  if n % step = 0 then some n else sum? n (step - n % step)

end Word

/-- What the header of a counted object keeps of the block. -/
structure BlockHeader where
  /-- The layout that the storage was asked for with. -/
  layout : Layout
  /-- How far the payload is from the start of the storage. -/
  offset : Nat

/-- A counted object in memory. -/
structure Placement where
  /-- Where the payload starts. -/
  payload : Nat
  /-- Where the header starts. -/
  header : Nat
  /-- What the header keeps. -/
  kept : BlockHeader

namespace Block

/-- What the header of an object keeps of this block, if the block is a layout. -/
def header? (b : Block) : Option BlockHeader := do
  let offset ← Word.roundUp? headerSize b.align
  let size ← Word.sum? offset b.payload.size
  let layout ← Layout.ofSizeAlign? size b.align
  return ⟨layout, offset⟩

/-- Make an object in storage for this block that starts at `base`. -/
def place? (b : Block) (base : Nat) : Option Placement := do
  let kept ← b.header?
  let payload ← Word.sum? base kept.offset
  let header ← Word.difference? payload headerSize
  return ⟨payload, header, kept⟩

/-- The storage that is freed with an object: where it starts and its layout. All that is known is
where the payload starts, and `headers` tells what header is at an address. -/
def storage? (headers : Nat → Option BlockHeader) (payload : Nat) : Option (Nat × Layout) := do
  let header ← Word.difference? payload headerSize
  let kept ← headers header
  let base ← Word.difference? payload kept.offset
  return (base, kept.layout)

end Block

end CallingConvention
