import CallingConvention.Number.Value

/-!
# The truth of integers

An integer is true if it is not zero, but a conversion to a truth value does not look at the
integer. It rounds the integer to the 64-bit format first and asks whether the word there is a zero.
Not every 64-bit integer is a number of that format, so that this is right depends on how it rounds:
nothing but zero may become zero (`Format.roundMagnitude_pos`). An integer other than zero is at
least one, which lies far above the least positive number of the format. Its word has an exponent
field that is not zero, whatever rounding does to the significand.
-/

namespace CallingConvention

/-! ## Words that are zero -/

/-- Whether a number is zero. There is one with either sign. -/
def Datum.isZero : Datum → Bool
  | finite _ m _ => m == 0
  | _ => false

namespace Format

variable {f : Format}

private theorem isTrue_eq (room : 0 < f.infinity) (word : Nat) :
    f.isTrue word = !(f.decode word).isZero := by
  have split := Nat.div_add_mod (f.magnitude word) (Nat.pow 2 f.fraction)
  have positive : 0 < Nat.pow 2 f.fraction := Nat.two_pow_pos _
  have true_of_ne (h : f.magnitude word ≠ 0) : f.isTrue word = true := decide_eq_true h
  rw [decode]
  split
  · next nan =>
    -- what is not a number lies above infinity
    have above : f.infinity < f.magnitude word := of_decide_eq_true nan
    exact true_of_ne (by omega)
  · split
    · next infinite => exact true_of_ne (by omega)
    · split
      · next field =>
        rw [field, Nat.mul_zero, Nat.zero_add] at split
        rw [split, isTrue, Datum.isZero]
        cases f.magnitude word <;> rfl
      · next field =>
        have normal : f.magnitude word ≠ 0 := by
          rintro zero
          rw [zero, Nat.zero_div] at field
          exact field rfl
        have significand : (Nat.pow 2 f.fraction +
            f.magnitude word % Nat.pow 2 f.fraction == 0) = false := by
          rw [beq_eq_false_iff_ne]
          omega
        rw [true_of_ne normal, Datum.isZero, significand]
        rfl

/-! ## Words of integers -/

private theorem infinity_lt_signBit (f : Format) : f.infinity < f.signBit := by
  have sign : f.signBit = Nat.pow 2 f.exponent * Nat.pow 2 f.fraction := Nat.pow_add ..
  have exponent : 0 < Nat.pow 2 f.exponent := Nat.two_pow_pos _
  rw [sign, infinity]
  exact Nat.mul_lt_mul_of_pos_right (by omega) (Nat.two_pow_pos _)

private theorem roundMagnitude_lt_signBit (f : Format) (m : Nat) (e : Int) :
    f.roundMagnitude m e < f.signBit := by
  refine Nat.lt_of_le_of_lt ?_ f.infinity_lt_signBit
  unfold roundMagnitude
  split
  · exact Nat.zero_le _
  · exact Nat.min_le_right ..

/-- **Rounding keeps integers off zero.** The exponent of an integer is above the least one. -/
theorem roundMagnitude_pos (wide : 1 < f.bias) {m : Nat} (given : m ≠ 0) :
    0 < f.roundMagnitude m 0 := by
  have digit : 0 < Nat.pow 2 f.fraction := Nat.two_pow_pos _
  have finite : 0 < f.infinity := by
    refine Nat.mul_pos (Nat.sub_pos_of_lt ?_) digit
    refine Nat.one_lt_two_pow fun none ↦ ?_
    rw [bias, none] at wide
    exact absurd wide (by decide)
  rw [roundMagnitude, if_neg given]
  dsimp only
  generalize chosen : max (0 + ((Nat.log2 m + 1 : Nat) : Int) - ((f.fraction + 1 : Nat) : Int))
    f.minExponent = exponent
  have above : f.minExponent < exponent := by
    rw [minExponent] at chosen ⊢
    omega
  have steps : 0 < (exponent - f.minExponent).toNat * Nat.pow 2 f.fraction :=
    Nat.mul_pos (by omega) digit
  omega

private theorem magnitude_withSign {word : Nat} (unsigned : word < f.signBit) (negative : Bool) :
    f.magnitude (f.withSign negative word) = word := by
  unfold magnitude withSign
  split
  · rw [Nat.add_mod_left, Nat.mod_eq_of_lt unsigned]
  · exact Nat.mod_eq_of_lt unsigned

theorem isTrue_ofInt (wide : 1 < f.bias) (n : Int) : f.isTrue (f.ofInt n) = decide (n ≠ 0) := by
  rw [isTrue, ofInt, encode, magnitude_withSign (f.roundMagnitude_lt_signBit _ _)]
  refine decide_eq_decide.mpr ⟨?_, fun given ↦ ?_⟩
  · rintro word rfl
    exact word rfl
  · exact Nat.ne_of_gt (roundMagnitude_pos wide (Int.natAbs_ne_zero.mpr given))

private theorem ofInt_lt (f : Format) (n : Int) : f.ofInt n < 2 * f.signBit := by
  have unsigned := f.roundMagnitude_lt_signBit n.natAbs 0
  rw [ofInt, encode, withSign]
  split <;> omega

end Format

/-! ## Truth values -/

namespace Value

theorem exists_toInt? {v : Value} (whole : v.kind.isFloat = false) : ∃ n, v.toInt? = some n := by
  cases v with
  | single => cases whole
  | double => cases whole
  | _ => exact ⟨_, rfl⟩

private theorem ofInt_bool (n : Int) : ofInt .bool n = .bool (decide (n ≠ 0)) :=
  congrArg bool (Format.isTrue_ofInt (by decide) n)

theorem convert_bool {v : Value} {n : Int} (denotes : v.toInt? = some n) :
    v.convert .bool = .bool (decide (n ≠ 0)) := by
  by_cases truth : v.kind = .bool
  · rw [convert_of_kind_eq truth]
    cases v with
    | bool b =>
      obtain rfl := Option.some.inj denotes
      cases b <;> rfl
    | _ => cases truth
  · rw [convert_of_toInt? denotes truth, ofInt_bool]

private theorem convert_double {v : Value} {n : Int} (denotes : v.toInt? = some n) :
    ∃ word, v.convert .double = .double word ∧ word.toNat = Format.double.ofInt n := by
  have other : v.kind ≠ .double := by
    cases v with
    | double => cases denotes
    | _ => exact Kind.noConfusion
  refine ⟨_, convert_of_toInt? denotes other, ?_⟩
  rw [BitVec.toNat_ofNat]
  exact Nat.mod_eq_of_lt (Format.double.ofInt_lt n)

private theorem toInt?_ofInt_toNat {k : Kind} (integer : k.isInteger = true) (b : Bool) :
    (ofInt k b.toNat).toInt? = some (b.toNat : Int) := by
  cases k with
  | signed w => cases w <;> cases b <;> rfl
  | unsigned w => cases w <;> cases b <;> rfl
  | _ => cases integer

/-- **Truth is exact for integers.** An integer becomes true if and only if it is not zero, however
much the floating-point number that stands between differs from it. -/
theorem truth_of_integer {v : Value} (whole : v.kind.isFloat = false) :
    ∃ n, v.toInt? = some n ∧
      v.convert .bool = .bool (decide (n ≠ 0)) ∧
      (∃ word, v.convert .double = .double word ∧
        (Format.double.decode word.toNat).isZero = decide (n = 0)) ∧
      ∀ k, k.isInteger = true →
        ((v.convert .bool).convert k).kind = k ∧
          ((v.convert .bool).convert k).toInt? = some (if n = 0 then 0 else 1) := by
  obtain ⟨n, denotes⟩ := exists_toInt? whole
  refine ⟨n, denotes, convert_bool denotes, ?_, fun k integer ↦ ⟨kind_convert _ k, ?_⟩⟩
  · obtain ⟨word, becomes, rounded⟩ := convert_double denotes
    have zero := Format.isTrue_eq (f := .double) (by decide) word.toNat
    rw [rounded, Format.isTrue_ofInt (by decide), decide_not] at zero
    exact ⟨word, becomes, rounded ▸ (Bool.not_inj zero).symm⟩
  · have other : (Value.bool (decide (n ≠ 0))).kind ≠ k := by
      rintro rfl
      cases integer
    rw [convert_bool denotes, convert_of_toInt? rfl other, toInt?_ofInt_toNat integer]
    by_cases zero : n = 0 <;> simp [zero]

/-- The greatest 64-bit integer, which the 64-bit format rounds up. -/
theorem truth_of_integer_greatest :
    (unsigned .bits64 (BitVec.allOnes 64)).convert .bool = .bool true ∧
      ((unsigned .bits64 (BitVec.allOnes 64)).convert .bool).convert (.signed .bits8) =
        signed .bits8 1 := by
  obtain ⟨n, denotes, truth, -⟩ := truth_of_integer (v := unsigned .bits64 (BitVec.allOnes 64)) rfl
  obtain rfl : n = 2 ^ 64 - 1 := (Option.some.inj denotes).symm
  rw [truth]
  exact ⟨rfl, rfl⟩

end Value

end CallingConvention
