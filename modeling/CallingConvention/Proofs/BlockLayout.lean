import CallingConvention.Layout

/-!
# Header and payload in their block

Where the payload of a counted object starts is computed forwards from the start of the block, by
rounding the size of the header up to the alignment. Where its header starts is computed backwards
from the payload, and so is the start of the block when the object ends. The size of the header is a
multiple of its own alignment but not of every larger one, and there may be a gap in front of it.
`PartsFit` says that the two computations agree all the same: both parts are aligned, they fill the
block up to its end, and they share no byte.

All of this is about numbers of any size. It is about words as well because a type is a layout: its
size and its alignment together take up half of the range at most, and a header fits into the other
half. A block is therefore refused for its true size and never because of a sum that is no word
(`header?_eq`). The allocator chooses the start of the block, and storage ends within the range.
-/

namespace CallingConvention

/-! ## Computing in words -/

namespace Word

private theorem range_eq : range = addressRange + addressRange := by
  decide

private theorem sum?_eq {m n : Nat} (fits : m + n < range) : sum? m n = some (m + n) := if_pos fits

private theorem difference?_eq {m n : Nat} (le : n ≤ m) :
    difference? m n = some (m - n) := if_pos le

private theorem roundUp?_eq {n step : Nat} (positive : 0 < step) (fits : n + step ≤ range) :
    roundUp? n step = some (roundUp n step) := by
  have rest := Nat.mod_lt n positive
  unfold roundUp?
  split
  · next whole =>
    rw [roundUp_eq_of_dvd (Nat.dvd_of_mod_eq_zero whole) (Nat.le_refl n) (by omega)]
  · next part =>
    have multiple : step ∣ n + (step - n % step) := by
      refine ⟨n / step + 1, ?_⟩
      have split := Nat.div_add_mod n step
      rw [Nat.mul_add, Nat.mul_one]
      omega
    rw [sum?_eq (by omega), roundUp_eq_of_dvd multiple (by omega) (by omega)]

end Word

namespace Block

variable (b : Block)

private theorem align_le : b.align ≤ b.payload.align + headerAlign := by
  unfold align
  omega

private theorem roundUp?_headerSize : Word.roundUp? headerSize b.align = some b.offset := by
  refine Word.roundUp?_eq b.align_pos ?_
  calc headerSize + b.align
      ≤ headerSize + (b.payload.align + headerAlign) := Nat.add_le_add_left b.align_le _
    _ = b.payload.align + (headerSize + headerAlign) := by omega
    _ ≤ addressRange + addressRange :=
      Nat.add_le_add (Nat.le_trans (Nat.le_add_left ..) b.payload.size_le) (by decide)
    _ = Word.range := Word.range_eq.symm

private theorem sum?_offset : Word.sum? b.offset b.payload.size = some b.size := by
  refine Word.sum?_eq ?_
  calc b.offset + b.payload.size
      < headerSize + b.align + b.payload.size :=
        Nat.add_lt_add_right (roundUp_lt _ b.align_pos) _
    _ ≤ headerSize + (b.payload.align + headerAlign) + b.payload.size :=
        Nat.add_le_add_right (Nat.add_le_add_left b.align_le _) _
    _ = b.payload.size + b.payload.align + (headerSize + headerAlign) := by omega
    _ ≤ addressRange + addressRange := Nat.add_le_add b.payload.size_le (by decide)
    _ = Word.range := Word.range_eq.symm

/-- **A block is refused for its true size.** In words it is computed as it is in numbers. -/
theorem header?_eq : b.header? = b.layout?.map (⟨·, b.offset⟩) := by
  simp only [header?, roundUp?_headerSize, sum?_offset, Option.bind_eq_bind, Option.bind_some]
  exact Option.map_eq_bind.symm

variable {b}

private theorem size_of_layout? {l : Layout} (accepted : b.layout? = some l) :
    l.size = b.size ∧ l.align = b.align :=
  Layout.size_of_ofSizeAlign? accepted

private theorem headerSize_le_payloadAt (base : Nat) : headerSize ≤ b.payloadAt base :=
  Nat.le_trans b.headerSize_le_offset (Nat.le_add_left ..)

theorem place?_eq {l : Layout} (accepted : b.layout? = some l) {base : Nat}
    (within : b.payloadAt base < Word.range) :
    b.place? base =
      some ⟨b.payloadAt base, headerOf (b.payloadAt base), ⟨l, b.offset⟩⟩ := by
  have kept : b.header? = some ⟨l, b.offset⟩ := by
    rw [header?_eq, accepted, Option.map_some]
  have payload : Word.sum? base b.offset = some (b.payloadAt base) := Word.sum?_eq within
  have header := Word.difference?_eq (headerSize_le_payloadAt (b := b) base)
  simp only [place?, kept, payload, header, Option.bind_eq_bind, Option.bind_some]
  rfl

theorem storage?_eq {headers : Nat → Option BlockHeader} {l : Layout} {base : Nat}
    (kept : headers (headerOf (b.payloadAt base)) = some ⟨l, b.offset⟩) :
    storage? headers (b.payloadAt base) = some (base, l) := by
  have header := Word.difference?_eq (headerSize_le_payloadAt (b := b) base)
  have start : Word.difference? (b.payloadAt base) b.offset = some base := by
    rw [payloadAt, Word.difference?_eq (Nat.le_add_left ..), Nat.add_sub_cancel]
  rw [← headerOf] at header
  simp only [storage?, header, kept, start, Option.bind_eq_bind, Option.bind_some]
  rfl

/-! ## The parts of a block -/

/-- Whether an address is one of a number of bytes. -/
def Spans (start size a : Nat) : Prop := start ≤ a ∧ a < start + size

/-- What makes a block at `base` fit for its object. -/
structure PartsFit (b : Block) (base : Nat) : Prop where
  /-- The payload is aligned, -/
  payload_aligned : b.payload.align ∣ b.payloadAt base
  /-- and so is the header. -/
  header_aligned : headerAlign ∣ headerOf (b.payloadAt base)
  /-- The header starts in the block -/
  base_le_header : base ≤ headerOf (b.payloadAt base)
  /-- and ends where the payload starts, -/
  header_ends : headerOf (b.payloadAt base) + headerSize = b.payloadAt base
  /-- and the payload ends where the block does. -/
  payload_ends : b.payloadAt base + b.payload.size = base + b.size
  /-- The header and the payload have no byte in common. -/
  apart : ∀ a, Spans (headerOf (b.payloadAt base)) headerSize a →
    ¬ Spans (b.payloadAt base) b.payload.size a
  /-- The payload leads back to the start of the block. -/
  baseOf_payloadAt : b.baseOf (b.payloadAt base) = base

private theorem align_dvd_payloadAt {base : Nat} (aligned : b.align ∣ base) :
    b.align ∣ b.payloadAt base :=
  Nat.dvd_add aligned b.align_dvd_offset

/-- What a session tells of its objects is decided without knowing where they are. -/
private theorem isAligned_iff {base : Nat} (aligned : b.align ∣ base) :
    b.isAligned = true ↔ b.payload.align ∣ b.payloadAt base := by
  rw [isAligned, beq_iff_eq, ← Nat.dvd_iff_mod_eq_zero, payloadAt,
    Nat.dvd_add_right (Nat.dvd_trans b.payload_align_dvd aligned)]

private theorem headerOf_payloadAt (base : Nat) :
    headerOf (b.payloadAt base) + headerSize = b.payloadAt base :=
  Nat.sub_add_cancel (headerSize_le_payloadAt base)

theorem partsFit {base : Nat} (aligned : b.align ∣ base) : b.PartsFit base where
  payload_aligned := (isAligned_iff aligned).mp b.isAligned_eq_true
  header_aligned :=
    Nat.dvd_sub (Nat.dvd_trans b.headerAlign_dvd (align_dvd_payloadAt aligned)) (by decide)
  base_le_header := Nat.le_sub_of_add_le (Nat.add_le_add_left b.headerSize_le_offset base)
  header_ends := headerOf_payloadAt base
  payload_ends := Nat.add_assoc ..
  apart a header payload := by
    rw [Spans, headerOf_payloadAt] at header
    exact absurd header.2 (Nat.not_lt.mpr payload.1)
  baseOf_payloadAt := Nat.add_sub_cancel ..

/-- **A counted object fits its block.** Both parts of the object are aligned and lie in the block,
the payload leads back to its start, and no sum on the way leaves the range of words. -/
theorem parts_fit (b : Block) {base : Nat} (aligned : b.align ∣ base) :
    b.PartsFit base ∧
      ∀ l, b.layout? = some l →
        l.size = b.size ∧ l.align = b.align ∧
        b.header? = some ⟨l, b.offset⟩ ∧
        (base + l.size < Word.range →
          b.place? base = some ⟨b.payloadAt base, headerOf (b.payloadAt base), ⟨l, b.offset⟩⟩) ∧
        ∀ headers : Nat → Option BlockHeader,
          headers (headerOf (b.payloadAt base)) = some ⟨l, b.offset⟩ →
            storage? headers (b.payloadAt base) = some (base, l) := by
  refine ⟨partsFit aligned, fun l accepted ↦ ?_⟩
  obtain ⟨size, align⟩ := size_of_layout? accepted
  refine ⟨size, align, ?_, fun ends ↦ ?_, fun headers kept ↦ storage?_eq kept⟩
  · rw [header?_eq, accepted, Option.map_some]
  · refine place?_eq accepted (Nat.lt_of_le_of_lt ?_ ends)
    calc b.payloadAt base
        ≤ b.payloadAt base + b.payload.size := Nat.le_add_right ..
      _ = base + l.size := by rw [size, (partsFit aligned).payload_ends]

/-- The block of an object of 64 bytes that is aligned to 32. -/
def overaligned : Block := ⟨⟨64, 32, by decide, by decide⟩⟩

/-- A block that starts at an odd multiple of 32. There are 24 bytes in front of the header. -/
theorem parts_fit_overaligned :
    overaligned.align ∣ 4128 ∧ overaligned.PartsFit 4128 ∧
      ∃ l, overaligned.layout? = some l ∧ l.size = 128 ∧ l.align = 32 ∧
        4128 + l.size < Word.range ∧
        overaligned.place? 4128 = some ⟨4192, 4152, ⟨l, 64⟩⟩ ∧
        storage? (fun a ↦ if a = 4152 then some ⟨l, 64⟩ else none) 4192 = some (4128, l) := by
  have aligned : overaligned.align ∣ 4128 := by decide
  have accepted : overaligned.layout? = some ⟨128, 32, by decide, by decide⟩ := rfl
  obtain ⟨parts, computed⟩ := parts_fit overaligned aligned
  obtain ⟨size, align, -, placed, freed⟩ := computed _ accepted
  exact ⟨aligned, parts, _, accepted, size, align, by decide, placed (by decide), freed _ rfl⟩

end Block

end CallingConvention
