import CallingConvention.Proofs.BorrowedReturn
import CallingConvention.Proofs.LastWrite
import CallingConvention.Proofs.Truth
import Mathlib.Data.Int.ModEq

/-!
# Integers on their way through a call

An integer that a call passes, reads and returns is coerced three times: to the kind of the
parameter, to the kind that native code asks for and to the kind of the return
(`Function.echoes_iff`). Where the policy converts, each of these takes the integer to the one of
the new kind that is congruent to it modulo 2 to the width (`Value.isResidue_convert`). Kinds of
either sign take part in this alike, as congruence does not know of signs. So no kind on the way
that is at least as wide as the return makes a difference to what is returned.

Where the policy is strict, an integer passes if all kinds are one.
-/

namespace CallingConvention

/-! ## Residues -/

namespace Value

/-- Whether a value is the residue of an integer in a kind. -/
structure IsResidue (k : Kind) (n : Int) (u : Value) : Prop where
  /-- The value is of the kind. -/
  kind : u.kind = k
  /-- It is congruent to the integer modulo 2 to the width of the kind. -/
  congruent : ∃ m, u.toInt? = some m ∧ m ≡ n [ZMOD 2 ^ k.bits]
  /-- No other value of the kind is. -/
  unique : ∀ w m, w.kind = k → w.toInt? = some m → m ≡ n [ZMOD 2 ^ k.bits] → w = u

private theorem toInt_modEq {w : Nat} (x : BitVec w) : x.toInt ≡ x.toNat [ZMOD 2 ^ w] := by
  have bits : ((2 ^ w : Nat) : Int) = 2 ^ w := Int.natCast_pow 2 w
  rw [← bits, BitVec.toInt_eq_toNat_bmod]
  exact Int.bmod_emod

private theorem eq_of_toNat_modEq {w : Nat} {x y : BitVec w}
    (h : (x.toNat : Int) ≡ y.toNat [ZMOD 2 ^ w]) : x = y := by
  have bits : ((2 ^ w : Nat) : Int) = 2 ^ w := Int.natCast_pow 2 w
  rw [← bits, Int.natCast_modEq_iff] at h
  exact BitVec.eq_of_toNat_eq (Nat.ModEq.eq_of_lt_of_lt h x.isLt y.isLt)

private theorem eq_of_modEq {k : Kind} (integer : k.isInteger = true) {u w : Value} {m n : Int}
    (hu : u.kind = k) (hw : w.kind = k) (denotes : u.toInt? = some m) (denotes' : w.toInt? = some n)
    (congruent : m ≡ n [ZMOD 2 ^ k.bits]) : u = w := by
  subst hu
  cases u with
  | signed width x =>
    cases w with
    | signed width' y =>
      obtain rfl := Kind.signed.inj hw
      obtain rfl := Option.some.inj denotes
      obtain rfl := Option.some.inj denotes'
      exact congrArg _ (eq_of_toNat_modEq
        ((toInt_modEq x).symm.trans (congruent.trans (toInt_modEq y))))
    | _ => cases hw
  | unsigned width x =>
    cases w with
    | unsigned width' y =>
      obtain rfl := Kind.unsigned.inj hw
      obtain rfl := Option.some.inj denotes
      obtain rfl := Option.some.inj denotes'
      exact congrArg _ (eq_of_toNat_modEq congruent)
    | _ => cases hw
  | _ => cases integer

private theorem isResidue_of_modEq {k : Kind} (integer : k.isInteger = true) {u : Value} {m n : Int}
    (kind : u.kind = k) (denotes : u.toInt? = some m) (congruent : m ≡ n [ZMOD 2 ^ k.bits]) :
    IsResidue k n u where
  kind := kind
  congruent := ⟨m, denotes, congruent⟩
  unique _ _ kind' denotes' congruent' :=
    eq_of_modEq integer kind' kind denotes' denotes (congruent'.trans congruent.symm)

theorem isResidue_ofInt {k : Kind} (integer : k.isInteger = true) (n : Int) :
    IsResidue k n (ofInt k n) := by
  have bits (w : Nat) : ((2 ^ w : Nat) : Int) = 2 ^ w := Int.natCast_pow 2 w
  cases k with
  | signed w =>
    refine isResidue_of_modEq rfl rfl rfl ?_
    rw [BitVec.toInt_ofInt, Kind.bits, ← bits]
    exact Int.bmod_emod
  | unsigned w =>
    refine isResidue_of_modEq rfl rfl rfl ?_
    have positive : (0 : Int) < ((2 ^ w.bits : Nat) : Int) :=
      Int.natCast_pos.mpr (Nat.two_pow_pos _)
    have residue := Int.emod_nonneg n (Int.ne_of_gt positive)
    rw [BitVec.toNat_ofInt, Kind.bits, Int.toNat_of_nonneg residue, ← bits]
    exact Int.mod_modEq n _
  | _ => cases integer

/-- A value that denotes an integer is converted to its residue. -/
theorem isResidue_convert {k : Kind} (integer : k.isInteger = true) {v : Value} {n : Int}
    (denotes : v.toInt? = some n) : IsResidue k n (v.convert k) := by
  by_cases same : v.kind = k
  · rw [convert_of_kind_eq same]
    exact isResidue_of_modEq integer same denotes rfl
  · rw [convert_of_toInt? denotes same]
    exact isResidue_ofInt integer n

namespace IsResidue

variable {k r : Kind} {m n : Int} {u v : Value}

private theorem of_modEq (h : IsResidue k m u) (congruent : m ≡ n [ZMOD 2 ^ k.bits]) :
    IsResidue k n u where
  kind := h.kind
  congruent := by
    obtain ⟨l, denotes, same⟩ := h.congruent
    exact ⟨l, denotes, same.trans congruent⟩
  unique w l kind denotes same := h.unique w l kind denotes (same.trans congruent.symm)

theorem trans (first : IsResidue k n u) (narrow : r.bits ≤ k.bits) (denotes : u.toInt? = some m)
    (second : IsResidue r m v) : IsResidue r n v := by
  obtain ⟨l, denotes', congruent⟩ := first.congruent
  obtain rfl := Option.some.inj (denotes.symm.trans denotes')
  exact second.of_modEq (congruent.of_dvd (pow_dvd_pow 2 narrow))

private theorem eq_self (h : IsResidue r n v) (kind : u.kind = r) (denotes : u.toInt? = some n) :
    v = u :=
  (h.unique u n kind denotes rfl).symm

end IsResidue

end Value

/-! ## Calls that return what they read -/

/-- Whether a call is well formed as far as it can be told without the argument in place `i`. -/
structure Signature.AcceptsBeside (sig : Signature) (receiver : Option Address)
    (args : List Argument) (policy : Policy) (i : Nat) : Prop where
  /-- There is a receiver for a method, and none for a function. -/
  receiver : sig.FitsReceiver receiver
  /-- There are as many arguments as parameters. -/
  arity : args.length = sig.arity
  /-- Every other argument fits its parameter. -/
  others : ∀ j p arg, j ≠ i → sig.params[j]? = some p → args[j]? = some arg → arg.Fits policy p

namespace Function

/-- A call in which native code reads argument `i` as a kind and returns what it has read. It stores
`x`, reads `y` and returns `z`, and nothing of this is refused. -/
inductive Echoes (fn : Function) (number : Nat) (receiver : Option Address) (args : List Argument)
    (i : Nat) (k : Kind) (x y z : Value) : Prop
  | intro {f : Frame} (entered : (fn.enter number receiver args).1 = .ok f)
      (stored : f.slots[i]? = some (.primitive x)) (read : f.argument i k = .ok y)
      (set : (f.setReturnValue y).answer = .ok ())
      (left : (fn.leave (f.setReturnValue y).frame).1 = .ok (.returned (.primitive z)))

end Function

namespace Frame

variable {f : Frame} {i : Nat} {k r : Kind} {u y z : Value}

private theorem argument_eq_ok_iff (there : f.slots[i]? = some (.primitive u)) :
    f.argument i k = .ok y ↔ f.policy.coerce k u = some y := by
  rw [argument_of_primitive there]
  cases f.policy.coerce k u <;> simp

private theorem setReturnValue_iff (fn : Function) (result : f.result = .primitive u)
    (kind : u.kind = r) (unraised : f.exception = none) :
    (f.setReturnValue y).answer = .ok () ∧
        (fn.leave (f.setReturnValue y).frame).1 = .ok (.returned (.primitive z)) ↔
      f.policy.coerce r y = some z := by
  rw [setReturnValue, result]
  dsimp only
  rw [kind]
  cases coerced : f.policy.coerce r y with
  | none => simp [Reaction.refused]
  | some w =>
    have finished := finish_of_primitive (f := { f with result := .primitive w }) rfl unraised
    simp [Reaction.done, finished]

end Frame

namespace Function

variable {fn : Function} {number : Nat} {receiver : Option Address} {args : List Argument}
  {i : Nat} {q : Param} {p k r : Kind} {v x y z : Value}

/-- Whether there is such a call is decided by three coercions. -/
theorem echoes_iff (param : fn.signature.params[i]? = some q) (passed : q.slotKind = .primitive p)
    (returns : fn.signature.returns = .primitive r) (given : args[i]? = some (.primitive v))
    (beside : fn.signature.AcceptsBeside receiver args fn.policy i) :
    fn.Echoes number receiver args i k x y z ↔
      fn.policy.coerce p v = some x ∧ fn.policy.coerce k x = some y ∧
        fn.policy.coerce r y = some z := by
  -- in a new frame the argument is stored as it is coerced, and the return is zero
  have begun {f : Frame} (entered : (fn.enter number receiver args).1 = .ok f) :
      (∃ u, fn.policy.coerce p v = some u ∧ f.slots[i]? = some (.primitive u)) ∧
        f.policy = fn.policy ∧ f.result = .primitive (Value.zero r) ∧ f.exception = none := by
    obtain ⟨built, -⟩ := construct_of_enter (Prod.ext entered rfl)
    obtain ⟨slots, effects, filled, rfl, -⟩ := Frame.exists_filledAll_of_construct built
    exact ⟨filled.coerced param passed given, rfl, by rw [returns]; rfl, rfl⟩
  constructor
  · rintro ⟨entered, stored, read, set, left⟩
    obtain ⟨⟨u, coerced, there⟩, policy, result, unraised⟩ := begun entered
    obtain rfl := Slot.primitive.inj (Option.some.inj (stored.symm.trans there))
    rw [← policy] at coerced ⊢
    exact ⟨coerced, (Frame.argument_eq_ok_iff stored).mp read,
      (Frame.setReturnValue_iff fn result (Value.kind_zero r) unraised).mp ⟨set, left⟩⟩
  · rintro ⟨first, second, third⟩
    have accepts : fn.signature.Accepts receiver args fn.policy := by
      refine ⟨beside.receiver, beside.arity, fun j p' arg hp harg ↦ ?_⟩
      by_cases here : j = i
      · subst here
        obtain rfl := Option.some.inj (param.symm.trans hp)
        obtain rfl := Option.some.inj (given.symm.trans harg)
        have coerced : (fn.policy.coerce p v).isSome = true := by rw [first]; rfl
        simpa only [Argument.Fits, passed] using Argument.isSome_coerce_iff.mp coerced
      · exact beside.others j p' arg here hp harg
    obtain ⟨f, effects, entered⟩ := exists_enter_of_accepts accepts number
    have entered : (fn.enter number receiver args).1 = .ok f := congrArg Prod.fst entered
    obtain ⟨⟨u, coerced, there⟩, policy, result, unraised⟩ := begun entered
    obtain rfl := Option.some.inj (first.symm.trans coerced)
    rw [← policy] at second third
    obtain ⟨set, left⟩ :=
      (Frame.setReturnValue_iff fn result (Value.kind_zero r) unraised).mpr third
    exact ⟨entered, there, (Frame.argument_eq_ok_iff there).mpr second, set, left⟩

/-- **Integers on their way.** Where the policy converts, an integer that is passed, read and
returned is each time the residue of what it was before. Where it is strict, the kinds must be the
same and the value stays as it is. -/
theorem integers_through_calls (fn : Function) (param : fn.signature.params[i]? = some q)
    (passed : q.slotKind = .primitive p) (returns : fn.signature.returns = .primitive r)
    (given : args[i]? = some (.primitive v))
    (beside : fn.signature.AcceptsBeside receiver args fn.policy i)
    (whole : v.kind.isFloat = false) (parameter : p.isInteger = true) (reading : k.isInteger = true)
    (returning : r.isInteger = true) (number : Nat) :
    ∃ n, v.toInt? = some n ∧
      (fn.policy = .convert →
        (∃ x y z, fn.Echoes number receiver args i k x y z) ∧
        ∀ x y z, fn.Echoes number receiver args i k x y z →
          (∃ l m, x.toInt? = some l ∧ y.toInt? = some m ∧
            x.IsResidue p n ∧ y.IsResidue k l ∧ z.IsResidue r m) ∧
          (r.bits ≤ p.bits → r.bits ≤ k.bits →
            z.IsResidue r n ∧ (v.kind = r → z = v))) ∧
      (fn.policy = .strict →
        ((∃ x y z, fn.Echoes number receiver args i k x y z) ↔ v.kind = p ∧ p = k ∧ k = r) ∧
        ∀ x y z, fn.Echoes number receiver args i k x y z → x = v ∧ y = v ∧ z = v) := by
  have echoes (x y z : Value) : fn.Echoes number receiver args i k x y z ↔ _ :=
    echoes_iff param passed returns given beside
  obtain ⟨n, denotes⟩ := Value.exists_toInt? whole
  refine ⟨n, denotes, fun converts ↦ ?_, fun strict ↦ ?_⟩
  · simp only [converts, Policy.coerce_convert, Option.some.injEq] at echoes
    refine ⟨⟨_, _, _, (echoes _ _ _).mpr ⟨rfl, rfl, rfl⟩⟩, fun x y z through ↦ ?_⟩
    obtain ⟨rfl, rfl, rfl⟩ := (echoes x y z).mp through
    have stored := Value.isResidue_convert parameter denotes
    obtain ⟨l, denotes₁, -⟩ := stored.congruent
    have read := Value.isResidue_convert reading denotes₁
    obtain ⟨m, denotes₂, -⟩ := read.congruent
    have returned := Value.isResidue_convert returning denotes₂
    refine ⟨⟨l, m, denotes₁, denotes₂, stored, read, returned⟩, fun wide wide' ↦ ?_⟩
    -- what is read is congruent to what was stored, and this to the integer
    have residue := stored.trans wide denotes₁ (read.trans wide' denotes₂ returned)
    exact ⟨residue, fun kind ↦ residue.eq_self kind denotes⟩
  · simp only [strict, Policy.coerce_strict_eq_some_iff] at echoes
    refine ⟨⟨?_, ?_⟩, fun x y z through ↦ ?_⟩
    · rintro ⟨x, y, z, through⟩
      obtain ⟨⟨rfl, rfl⟩, ⟨rfl, rfl⟩, ⟨rfl, rfl⟩⟩ := (echoes x y z).mp through
      exact ⟨rfl, rfl, rfl⟩
    · rintro ⟨rfl, rfl, rfl⟩
      exact ⟨v, v, v, (echoes v v v).mpr ⟨⟨rfl, rfl⟩, ⟨rfl, rfl⟩, ⟨rfl, rfl⟩⟩⟩
    · obtain ⟨⟨-, rfl⟩, ⟨-, rfl⟩, ⟨-, rfl⟩⟩ := (echoes x y z).mp through
      exact ⟨rfl, rfl, rfl⟩

/-- `int16 low(bool, uint)`, where values are converted. -/
def low : Function :=
  ⟨⟨"low", none, [.primitive .bool, .primitive (.unsigned .bits32)], .primitive (.signed .bits16)⟩,
    .convert, none⟩

/-- A negative integer comes back through unsigned and signed kinds that are wider. -/
theorem integers_through_calls_negative :
    ∃ x y, low.Echoes 0 none [.primitive (.bool true), .primitive (.signed .bits16 (-2))] 1
      (.signed .bits64) x y (.signed .bits16 (-2)) := by
  have beside : low.signature.AcceptsBeside none
      [.primitive (.bool true), .primitive (.signed .bits16 (-2))] .convert 1 := by
    refine ⟨by simp [Signature.FitsReceiver, Signature.isMethod, low], rfl, ?_⟩
    rintro (_ | _ | j) p arg other hp harg
    · cases hp
      cases harg
      exact .inl rfl
    · exact absurd rfl other
    · cases hp
  obtain ⟨n, -, converting, -⟩ := low.integers_through_calls (k := .signed .bits64) rfl rfl rfl rfl
    beside rfl rfl rfl rfl 0
  obtain ⟨⟨x, y, z, through⟩, each⟩ := converting rfl
  obtain rfl := ((each x y z through).2 (by decide) (by decide)).2 rfl
  exact ⟨x, y, through⟩

end Function

end CallingConvention
