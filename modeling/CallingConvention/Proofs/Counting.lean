import CallingConvention.Store
import Mathlib.Algebra.Group.Nat.Defs

/-!
# Counting references

What effects do to the counts in the headers of objects. `Effect.gained` and `Effect.lost` read off
a list of effects how often it takes and gives up a reference to an object, and
`references_applyAll` says that the store counts just that, as long as the store can afford the
effects (`Store.Affords`): no more references are given up than there are, and none is taken to an
object that has none left.

A store is orderly if nothing is counted for an object after its end (`Store.Orderly`). Effects that
the store can afford keep it so.
-/

namespace CallingConvention

/-! ## References that effects take and give up -/

namespace Effect

/-- How many references to an object an effect takes through the header. -/
def gains (n : Nat) : Effect → Nat
  | addRef t a => if t.behaviours.addRef = some .header ∧ a = .object n then 1 else 0
  | _ => 0

/-- How many references to an object an effect gives up through the header. -/
def losses (n : Nat) : Effect → Nat
  | release t a => if t.behaviours.release = some .header ∧ a = .object n then 1 else 0
  | _ => 0

/-- How many references to an object effects take. -/
def gained (n : Nat) : List Effect → Nat
  | [] => 0
  | e :: es => e.gains n + gained n es

/-- How many references to an object effects give up. -/
def lost (n : Nat) : List Effect → Nat
  | [] => 0
  | e :: es => e.losses n + lost n es

@[simp] theorem gained_nil (n : Nat) : gained n [] = 0 := rfl

@[simp] theorem lost_nil (n : Nat) : lost n [] = 0 := rfl

@[simp] theorem gained_cons (n : Nat) (e : Effect) (es : List Effect) :
    gained n (e :: es) = e.gains n + gained n es :=
  rfl

@[simp] theorem lost_cons (n : Nat) (e : Effect) (es : List Effect) :
    lost n (e :: es) = e.losses n + lost n es :=
  rfl

@[simp] theorem gained_append (n : Nat) (es fs : List Effect) :
    gained n (es ++ fs) = gained n es + gained n fs := by
  induction es with
  | nil => exact (Nat.zero_add _).symm
  | cons e es ih => rw [List.cons_append, gained, gained, ih, Nat.add_assoc]

@[simp] theorem lost_append (n : Nat) (es fs : List Effect) :
    lost n (es ++ fs) = lost n es + lost n fs := by
  induction es with
  | nil => exact (Nat.zero_add _).symm
  | cons e es ih => rw [List.cons_append, lost, lost, ih, Nat.add_assoc]

/-- The order of effects makes no difference to what they take. -/
theorem gained_of_perm {es fs : List Effect} (h : es.Perm fs) (n : Nat) :
    gained n es = gained n fs := by
  induction h with
  | nil => rfl
  | cons e _ ih => rw [gained_cons, gained_cons, ih]
  | swap e d es =>
    simp only [gained_cons]
    omega
  | trans _ _ first second => exact first.trans second

theorem lost_of_perm {es fs : List Effect} (h : es.Perm fs) (n : Nat) :
    lost n es = lost n fs := by
  induction h with
  | nil => rfl
  | cons e _ ih => rw [lost_cons, lost_cons, ih]
  | swap e d es =>
    simp only [lost_cons]
    omega
  | trans _ _ first second => exact first.trans second

end Effect

/-! ## Counts under effects -/

/-- Whether a tenure comes from another one by some references taken and some given up. Pinned
objects keep no such count. -/
def Tenure.Follows (taken given : Nat) : Option Tenure → Option Tenure → Prop
  | some (.counted k), some (.counted l) => l = k + taken - given
  | some (.pinned _), some (.pinned _) => True
  | none, none => True
  | _, _ => False

private theorem Tenure.follows_self (t : Option Tenure) : Follows 0 0 t t := by
  rcases t with _ | (k | k)
  · trivial
  · exact (Nat.sub_zero _).symm
  · trivial

namespace Store

theorem follows_addReference (s : Store) (a : Address) (n : Nat) :
    Tenure.Follows (if a = .object n then 1 else 0) 0 (s.tenure? n)
      ((s.addReference a).tenure? n) := by
  cases a with
  | object m =>
    rw [tenure?_addReference_object]
    rcases s.tenure? n with _ | (k | k)
    · trivial
    · by_cases same : m = n <;> simp [Tenure.Follows, same]
    · trivial
  | _ => exact Tenure.follows_self _

theorem follows_releaseReference (s : Store) (a : Address) (n : Nat) :
    Tenure.Follows 0 (if a = .object n then 1 else 0) (s.tenure? n)
      ((s.releaseReference a).tenure? n) := by
  cases a with
  | object m =>
    rw [tenure?_releaseReference_object]
    rcases s.tenure? n with _ | (k | k)
    · trivial
    · by_cases same : m = n <;> simp [Tenure.Follows, same]
    · trivial
  | _ => exact Tenure.follows_self _

private theorem follows_count (s : Store) (amount : Int) (a : Address) (n : Nat) :
    Tenure.Follows 0 0 (s.tenure? n) ((s.count amount a).tenure? n) := by
  unfold count
  split
  · next m =>
    split
    · next k pinned =>
      rw [tenure?_setTenure]
      by_cases same : m = n
      · subst same
        rw [if_pos rfl, pinned]
        trivial
      · rw [if_neg same]
        exact Tenure.follows_self _
    · exact Tenure.follows_self _
  · exact Tenure.follows_self _

theorem follows_apply (s : Store) (e : Effect) (n : Nat) :
    Tenure.Follows (e.gains n) (e.losses n) (s.tenure? n) ((s.apply e).tenure? n) := by
  unfold apply
  split
  · next t a =>
    split
    · next header =>
      simp only [Effect.gains, Effect.losses, header, true_and]
      exact follows_addReference (s.report _) a n
    · next announced =>
      simp only [Effect.gains, Effect.losses, announced, Option.some.injEq, reduceCtorEq, false_and,
        if_false]
      exact follows_count (s.report _) 1 a n
    · next none =>
      simp only [Effect.gains, Effect.losses, none]
      exact Tenure.follows_self _
  · next t a =>
    split
    · next header =>
      simp only [Effect.gains, Effect.losses, header, true_and]
      exact follows_releaseReference (s.report _) a n
    · next announced =>
      simp only [Effect.gains, Effect.losses, announced, Option.some.injEq, reduceCtorEq, false_and,
        if_false]
      exact follows_count (s.report _) (-1) a n
    · next none =>
      simp only [Effect.gains, Effect.losses, none]
      exact Tenure.follows_self _
  · split <;> exact Tenure.follows_self _
  · split <;> exact Tenure.follows_self _
  · split <;> exact Tenure.follows_self _
  all_goals exact Tenure.follows_self _

theorem tenure?_apply {s : Store} {n k : Nat} (h : s.tenure? n = some (.counted k)) (e : Effect) :
    (s.apply e).tenure? n = some (.counted (k + e.gains n - e.losses n)) := by
  have follows := follows_apply s e n
  rw [h] at follows
  rcases after : (s.apply e).tenure? n with _ | (l | l)
  · rw [after] at follows
    exact follows.elim
  · rw [after] at follows
    exact congrArg (some ∘ Tenure.counted) follows
  · rw [after] at follows
    exact follows.elim

theorem exists_counted_applyAll {s : Store} {n k : Nat} (h : s.tenure? n = some (.counted k))
    (es : List Effect) : ∃ l, (s.applyAll es).tenure? n = some (.counted l) := by
  induction es generalizing s k with
  | nil => exact ⟨k, h⟩
  | cons e es ih => exact ih (tenure?_apply h e)

/-- Whether effects find the references that they give up, and take references only to objects that
have one left after that. -/
def Affords (s : Store) (es : List Effect) : Prop :=
  ∀ n, Effect.lost n es ≤ s.references (.object n) ∧
    (0 < Effect.gained n es → Effect.lost n es < s.references (.object n))

theorem references_eq_of_counted {s : Store} {n k : Nat} (h : s.tenure? n = some (.counted k)) :
    s.references (.object n) = k := by
  simp only [references, h]

theorem exists_counted_of_pos {s : Store} {n : Nat} (h : 0 < s.references (.object n)) :
    s.tenure? n = some (.counted (s.references (.object n))) := by
  rcases tenure : s.tenure? n with _ | (k | k)
  · simp [references, tenure] at h
  · rw [references_eq_of_counted tenure]
  · simp [references, tenure] at h

theorem toNat_refcount {s : Store} {a : Address} (few : s.references a < 2 ^ 32) :
    (s.refcount a).toNat = s.references a := by
  rw [refcount, BitVec.toNat_ofNat, Nat.mod_eq_of_lt few]

/-- The count of an object when its tenure follows, if there are the references that are given up
and none is taken to an object that has none left. -/
theorem references_of_follows {s s' : Store} {n taken given : Nat}
    (follows : Tenure.Follows taken given (s.tenure? n) (s'.tenure? n))
    (enough : given ≤ s.references (.object n)) (live : 0 < taken → 0 < s.references (.object n)) :
    s'.references (.object n) + given = s.references (.object n) + taken := by
  unfold references at enough live ⊢
  rcases before : s.tenure? n with _ | (k | k) <;>
    rcases after : s'.tenure? n with _ | (l | l) <;>
    simp_all only [Tenure.Follows]
  all_goals omega

/-- The count of an object after an effect that the store can afford. -/
theorem references_apply {s : Store} {e : Effect} {n : Nat}
    (given : e.losses n ≤ s.references (.object n))
    (taken : 0 < e.gains n → 0 < s.references (.object n)) :
    (s.apply e).references (.object n) + e.losses n =
      s.references (.object n) + e.gains n :=
  references_of_follows (follows_apply s e n) given taken

theorem references_length (s : Store) : s.references (.object s.objects.length) = 0 := by
  simp [references, tenure?]

theorem references_newObject (s : Store) (name : String) (k : Nat) (value : Payload) (n : Nat) :
    (s.newObject name (.counted k) value).2.references (.object n) =
      if n = s.objects.length then k else s.references (.object n) := by
  by_cases new : n = s.objects.length
  · rw [if_pos new, references_eq_of_counted (by rw [tenure?_newObject, if_pos new])]
  · rw [if_neg new]
    simp only [references, tenure?_newObject, if_neg new]

private theorem Affords.of_cons {s : Store} {e : Effect} {es : List Effect}
    (h : s.Affords (e :: es)) : (s.apply e).Affords es := by
  intro n
  obtain ⟨given, taken⟩ := h n
  rw [Effect.lost_cons] at given taken
  rw [Effect.gained_cons] at taken
  have now := references_apply (s := s) (e := e) (n := n) (by omega) (by omega)
  omega

/-- **Counting.** A store counts what effects take and give up, if it can afford them. -/
theorem references_applyAll {s : Store} {es : List Effect} (h : s.Affords es) (n : Nat) :
    (s.applyAll es).references (.object n) + Effect.lost n es =
      s.references (.object n) + Effect.gained n es := by
  induction es generalizing s with
  | nil => rfl
  | cons e es ih =>
    obtain ⟨given, taken⟩ := h n
    rw [Effect.lost_cons] at given taken
    rw [Effect.gained_cons] at taken
    have now := references_apply (s := s) (e := e) (n := n) (by omega) (by omega)
    have later := ih h.of_cons
    rw [applyAll_cons, Effect.lost_cons, Effect.gained_cons]
    omega

private theorem references_apply_of_gains_eq_zero {s : Store} {e : Effect} {n : Nat}
    (h : e.gains n = 0) :
    (s.apply e).references (.object n) = s.references (.object n) - e.losses n := by
  have follows := follows_apply s e n
  rw [h] at follows
  unfold references
  rcases before : s.tenure? n with _ | (k | k) <;>
    rcases after : (s.apply e).tenure? n with _ | (l | l) <;>
    simp_all [Tenure.Follows]

/-- The counts after effects that take no references, in any store. -/
theorem references_applyAll_of_gained_eq_zero {s : Store} {es : List Effect} {n : Nat}
    (h : Effect.gained n es = 0) :
    (s.applyAll es).references (.object n) = s.references (.object n) - Effect.lost n es := by
  induction es generalizing s with
  | nil => rfl
  | cons e es ih =>
    obtain ⟨now, later⟩ := Nat.add_eq_zero_iff.mp h
    rw [applyAll_cons, ih later, references_apply_of_gains_eq_zero now, Effect.lost_cons,
      Nat.sub_sub]

end Store

/-! ## Nothing after the end -/

/-- Whether a report has nothing to do with an object: it takes and gives up no reference to it, and
does not tell of its end. -/
def Report.Spares (n : Nat) : Report → Prop
  | effect e _ => e.gains n = 0 ∧ e.losses n = 0
  | destroyed m _ => m ≠ n

/-- Whether a report may come after another one. -/
def Report.Allows (r later : Report) : Prop :=
  ∀ n line, r = .destroyed n line → later.Spares n

namespace Store

/-- A store that is done with an object once the object has been destroyed. -/
structure Orderly (s : Store) : Prop where
  /-- Nothing is counted for what has been destroyed. -/
  ended : ∀ n line, .destroyed n line ∈ s.journal.toList → s.tenure? n = some (.counted 0)
  /-- Nothing is told of it afterwards. -/
  order : s.journal.toList.Pairwise Report.Allows

theorem orderly_empty : empty.Orderly :=
  ⟨fun _ _ there ↦ absurd there List.not_mem_nil, .nil⟩

private theorem Orderly.extend {s s' : Store} (h : s.Orderly) {new : List Report}
    (journal : s'.journal.toList = s.journal.toList ++ new) (order : new.Pairwise Report.Allows)
    (spares : ∀ n, s.tenure? n = some (.counted 0) → ∀ r ∈ new, r.Spares n)
    (ended : ∀ n line, .destroyed n line ∈ new → s'.tenure? n = some (.counted 0))
    (stays : ∀ n, s.tenure? n = some (.counted 0) → s'.tenure? n = some (.counted 0)) :
    s'.Orderly := by
  constructor
  · intro n line there
    rw [journal, List.mem_append] at there
    rcases there with before | here
    · exact stays n (h.ended n line before)
    · exact ended n line here
  · rw [journal, List.pairwise_append]
    refine ⟨h.order, order, ?_⟩
    rintro r before later here n line rfl
    exact spares n (h.ended n line before) later here

theorem journal_addReference (s : Store) (a : Address) :
    (s.addReference a).journal = s.journal := by
  unfold addReference
  split
  · split <;> rfl
  · rfl

private theorem journal_count (s : Store) (amount : Int) (a : Address) :
    (s.count amount a).journal = s.journal := by
  unfold count
  split
  · split <;> rfl
  · rfl

theorem journal_releaseReference (s : Store) (a : Address) :
    (s.releaseReference a).journal = s.journal ∨
      ∃ n told, a = .object n ∧ s.tenure? n = some (.counted 1) ∧
        (s.releaseReference a).journal =
          (s.journal.push (.effect (.log .objectDestroy) none)).push (.destroyed n told) := by
  unfold releaseReference
  split
  · next n =>
    split
    · next last => exact .inr ⟨n, _, rfl, last, rfl⟩
    · exact .inl rfl
    · exact .inl rfl
  · exact .inl rfl

/-- What an effect adds to the journal: itself, and the end of an object that loses its last
reference. -/
inductive Tells (s : Store) (e : Effect) : List Report → Prop
  | nothing : Tells s e []
  | itself (line : Option String) : Tells s e [.effect e line]
  | ending {n : Nat} (line : Option String) (told : String)
      (last : s.tenure? n = some (.counted 1)) (loss : e.losses n = 1) :
      Tells s e [.effect e line, .effect (.log .objectDestroy) none, .destroyed n told]

theorem exists_tells (s : Store) (e : Effect) :
    ∃ new, s.Tells e new ∧ (s.apply e).journal.toList = s.journal.toList ++ new := by
  have unchanged : ∃ new, s.Tells e new ∧ s.journal.toList = s.journal.toList ++ new :=
    ⟨[], .nothing, (List.append_nil _).symm⟩
  have reported {s' : Store} (line : Option String)
      (journal : s'.journal = s.journal.push (.effect e line)) :
      ∃ new, s.Tells e new ∧ s'.journal.toList = s.journal.toList ++ new :=
    ⟨[.effect e line], .itself line, by rw [journal, Array.toList_push]⟩
  unfold apply
  split
  · split
    · exact reported none (journal_addReference _ _)
    · exact reported _ (journal_count _ _ _)
    · exact unchanged
  · next t a =>
    split
    · next header =>
      rcases journal_releaseReference (s.report (.effect (.release t a) none)) a with
        same | ⟨n, told, rfl, last, journal⟩
      · exact reported none same
      · refine ⟨_, .ending none told last (by simp [Effect.losses, header]), ?_⟩
        rw [journal]
        simp [report]
    · exact reported _ (journal_count _ _ _)
    · exact unchanged
  · split
    · exact reported _ rfl
    · exact unchanged
  · split
    · exact reported _ rfl
    · exact unchanged
  · split
    · exact reported _ rfl
    · exact unchanged
  all_goals exact reported none rfl

/-- An effect that a store can afford keeps it orderly. -/
theorem Orderly.apply {s : Store} (h : s.Orderly) {e : Effect} (affords : s.Affords [e]) :
    (s.apply e).Orderly := by
  simp only [Affords, Effect.lost_cons, Effect.lost_nil, Effect.gained_cons, Effect.gained_nil,
    Nat.add_zero] at affords
  -- what cannot be afforded for an object without references is any counting at all
  have still (n : Nat) (dead : s.tenure? n = some (.counted 0)) :
      e.gains n = 0 ∧ e.losses n = 0 := by
    obtain ⟨given, taken⟩ := affords n
    rw [references_eq_of_counted dead] at given taken
    omega
  have stays (n : Nat) (dead : s.tenure? n = some (.counted 0)) :
      (s.apply e).tenure? n = some (.counted 0) := by
    rw [tenure?_apply dead, (still n dead).1, (still n dead).2]
  obtain ⟨new, tells, journal⟩ := exists_tells s e
  cases tells with
  | nothing => exact h.extend journal .nil (by simp) (by simp) stays
  | itself line =>
    refine h.extend journal (List.pairwise_singleton _ _) (fun n dead r there ↦ ?_) (by simp) stays
    obtain rfl := List.mem_singleton.mp there
    exact still n dead
  | @ending m line told last loss =>
    refine h.extend journal (by simp [Report.Allows]) (fun n dead r there ↦ ?_)
      (fun n line' there ↦ ?_) stays
    · have apart : m ≠ n := by
        rintro rfl
        simp [last] at dead
      simp only [List.mem_cons, List.not_mem_nil, or_false] at there
      rcases there with rfl | rfl | rfl
      · exact still n dead
      · exact ⟨rfl, rfl⟩
      · exact apart
    · -- the last reference is gone, and the effect takes none to this object
      obtain ⟨rfl, -⟩ : n = m ∧ line' = told := by simpa using there
      obtain ⟨-, taken⟩ := affords n
      rw [references_eq_of_counted last] at taken
      rw [tenure?_apply last, loss]
      have gain : e.gains n = 0 := by omega
      rw [gain]

theorem Affords.head {s : Store} {e : Effect} {es : List Effect} (h : s.Affords (e :: es)) :
    s.Affords [e] := by
  intro n
  obtain ⟨given, taken⟩ := h n
  rw [Effect.lost_cons] at given taken
  rw [Effect.gained_cons] at taken
  rw [Effect.lost_cons, Effect.lost_nil, Effect.gained_cons, Effect.gained_nil]
  omega

theorem Orderly.applyAll {s : Store} (h : s.Orderly) {es : List Effect} (affords : s.Affords es) :
    (s.applyAll es).Orderly := by
  induction es generalizing s with
  | nil => exact h
  | cons e es ih => exact ih (h.apply affords.head) affords.of_cons

theorem Orderly.newObject {s : Store} (h : s.Orderly) (name : String) (t : Tenure)
    (value : Payload) : (s.newObject name t value).2.Orderly := by
  have old (n : Nat) (dead : s.tenure? n = some (.counted 0)) : n ≠ s.objects.length := by
    rintro rfl
    simp [tenure?] at dead
  have journal : (s.newObject name t value).2.journal.toList =
      s.journal.toList ++ [.effect (.log .objectNew) none] := by
    simp [Store.newObject, log, report, write, put]
  refine h.extend journal (List.pairwise_singleton _ _) (fun n dead r there ↦ ?_) (by simp)
    fun n dead ↦ ?_
  · obtain rfl := List.mem_singleton.mp there
    exact ⟨rfl, rfl⟩
  · rw [tenure?_newObject, if_neg (old n dead), dead]

end Store

/-! ## References that change hands -/

/-- A change of hands with its effects: owners of the references `before` become owners of the
references `after`. -/
structure Exchange (before after borrowed : List Address) (es : List Effect) : Prop where
  /-- What they have more is counted. -/
  balance : ∀ n, after.count (.object n) + Effect.lost n es ≤
    before.count (.object n) + Effect.gained n es
  /-- What they have given up they had. -/
  backed : ∀ n, Effect.lost n es ≤ before.count (.object n)
  /-- References are taken only to what they own still, or to what is borrowed from others. -/
  live : ∀ n, 0 < Effect.gained n es → Effect.lost n es < before.count (.object n) ∨
    Effect.lost n es = 0 ∧ .object n ∈ borrowed

namespace Exchange

variable {before after borrowed : List Address} {es : List Effect}

theorem of_gained_eq_zero (gained : ∀ n, Effect.gained n es = 0)
    (balance : ∀ n, after.count (.object n) + Effect.lost n es ≤ before.count (.object n)) :
    Exchange before after borrowed es := by
  refine ⟨fun n ↦ ?_, fun n ↦ ?_, fun n taken ↦ ?_⟩
  · rw [gained]
    exact balance n
  · exact Nat.le_trans (Nat.le_add_left _ _) (balance n)
  · rw [gained] at taken
    exact absurd taken (Nat.lt_irrefl 0)

theorem of_lost_eq_zero (lost : ∀ n, Effect.lost n es = 0)
    (balance : ∀ n, after.count (.object n) ≤ before.count (.object n) + Effect.gained n es)
    (live : ∀ n, 0 < Effect.gained n es → 0 < before.count (.object n) ∨ .object n ∈ borrowed) :
    Exchange before after borrowed es := by
  refine ⟨fun n ↦ ?_, fun n ↦ ?_, fun n taken ↦ ?_⟩
  · rw [lost]
    exact balance n
  · rw [lost]
    exact Nat.zero_le _
  · rw [lost]
    exact (live n taken).imp_right fun there ↦ ⟨rfl, there⟩

theorem of_count_le (h : ∀ n, after.count (.object n) ≤ before.count (.object n))
    (gained : ∀ n, Effect.gained n es = 0) (lost : ∀ n, Effect.lost n es = 0) :
    Exchange before after borrowed es := by
  refine of_gained_eq_zero gained fun n ↦ ?_
  rw [lost]
  exact h n

theorem append_right (h : Exchange before after borrowed es) (others : List Address) :
    Exchange (before ++ others) (after ++ others) borrowed es := by
  refine ⟨fun n ↦ ?_, fun n ↦ ?_, fun n taken ↦ ?_⟩
  · have balance := h.balance n
    rw [List.count_append, List.count_append]
    omega
  · have backed := h.backed n
    rw [List.count_append]
    omega
  · rw [List.count_append]
    rcases h.live n taken with own | lent
    · exact .inl (by omega)
    · exact .inr lent

theorem congr {before' after' : List Address} (h : Exchange before after borrowed es)
    (hb : ∀ n, before'.count (.object n) = before.count (.object n))
    (ha : ∀ n, after'.count (.object n) = after.count (.object n)) :
    Exchange before' after' borrowed es := by
  refine ⟨fun n ↦ ?_, fun n ↦ ?_, fun n taken ↦ ?_⟩
  · rw [hb, ha]
    exact h.balance n
  · rw [hb]
    exact h.backed n
  · rw [hb]
    exact h.live n taken

theorem append_effects (h : Exchange before after borrowed es) {more : List Effect}
    (gained : ∀ n, Effect.gained n more = 0) (lost : ∀ n, Effect.lost n more = 0) :
    Exchange before after borrowed (es ++ more) := by
  refine ⟨fun n ↦ ?_, fun n ↦ ?_, fun n ↦ ?_⟩ <;>
    simp only [Effect.lost_append, Effect.gained_append, gained, lost, Nat.add_zero]
  · exact h.balance n
  · exact h.backed n
  · exact h.live n

/-- A store in which all owners are counted can afford a change of hands. -/
theorem affords (h : Exchange before after borrowed es) {s : Store}
    (owned : ∀ n, before.count (.object n) ≤ s.references (.object n))
    (lent : ∀ a ∈ borrowed, a = .null ∨ 0 < s.references a) : s.Affords es := by
  intro n
  have counted := owned n
  refine ⟨Nat.le_trans (h.backed n) counted, fun taken ↦ ?_⟩
  rcases h.live n taken with own | ⟨nothing, there⟩
  · exact Nat.lt_of_lt_of_le own counted
  · rcases lent _ there with null | live
    · cases null
    · rwa [nothing]

theorem count_le (h : Exchange before after borrowed es) {s : Store}
    (owned : ∀ n, before.count (.object n) ≤ s.references (.object n))
    (lent : ∀ a ∈ borrowed, a = .null ∨ 0 < s.references a) (n : Nat) :
    after.count (.object n) ≤ (s.applyAll es).references (.object n) := by
  have counts := Store.references_applyAll (h.affords owned lent) n
  have balance := h.balance n
  have counted := owned n
  omega

end Exchange

/-! ## Storage that effects leave alone -/

namespace Effect

/-- The storage that an effect writes to. -/
def target? : Effect → Option Address
  | construct _ a => some a
  | copy _ a _ => some a
  | write a _ => some a
  | _ => none

/-- Whether an effect writes to no out cell. -/
def SparesCells (e : Effect) : Prop := ∀ k, e.target? ≠ some (.cell k)

theorem sparesCells_of_target?_eq_none {e : Effect} (h : e.target? = none) : e.SparesCells := by
  intro k
  rw [h]
  exact (Option.some_ne_none _).symm

theorem sparesCells_cons {e : Effect} {es : List Effect} (h : e.target? = none)
    (rest : ∀ e' ∈ es, e'.SparesCells) : ∀ e' ∈ e :: es, e'.SparesCells :=
  List.forall_mem_cons.mpr ⟨sparesCells_of_target?_eq_none h, rest⟩

theorem sparesCells_singleton {e : Effect} (h : e.target? = none) : ∀ e' ∈ [e], e'.SparesCells :=
  sparesCells_cons h (List.forall_mem_nil _)

end Effect

namespace Store

private theorem contents_addReference (s : Store) (a : Address) :
    (s.addReference a).contents = s.contents := by
  unfold addReference
  split
  · split <;> rfl
  · rfl

private theorem contents_releaseReference (s : Store) (a : Address) :
    (s.releaseReference a).contents = s.contents := by
  unfold releaseReference
  split
  · split <;> rfl
  · rfl

private theorem contents_count (s : Store) (amount : Int) (a : Address) :
    (s.count amount a).contents = s.contents := by
  unfold count
  split
  · split <;> rfl
  · rfl

theorem bytes_apply_of_ne {s : Store} {e : Effect} {a : Address} (h : e.target? ≠ some a) :
    (s.apply e).bytes a = s.bytes a := by
  have elsewhere {b : Address} (target : e.target? = some b) : a ≠ b := by
    rintro rfl
    exact h target
  have same {s' : Store} (contents : s'.contents = s.contents) : s'.bytes a = s.bytes a := by
    rw [bytes, bytes, contents]
  unfold apply
  split
  · split
    · exact same (contents_addReference _ _)
    · exact same (contents_count _ _ _)
    · rfl
  · split
    · exact same (contents_releaseReference _ _)
    · exact same (contents_count _ _ _)
    · rfl
  · split
    · exact bytes_put_of_ne (s.report _) _ (elsewhere rfl)
    · rfl
  · split
    · exact bytes_put_of_ne (s.report _) _ (elsewhere rfl)
    · rfl
  · split <;> rfl
  · exact bytes_put_of_ne (s.report _) _ (elsewhere rfl)
  · rfl
  · rfl

theorem bytes_applyAll_of_ne {s : Store} {es : List Effect} {a : Address}
    (h : ∀ e ∈ es, e.target? ≠ some a) : (s.applyAll es).bytes a = s.bytes a := by
  induction es generalizing s with
  | nil => rfl
  | cons e es ih =>
    rw [applyAll_cons, ih fun e' later ↦ h e' (List.mem_cons_of_mem e later)]
    exact bytes_apply_of_ne (h e List.mem_cons_self)

private theorem cells_apply (s : Store) (e : Effect) : (s.apply e).cells = s.cells := by
  unfold apply addReference releaseReference count
  repeat' split
  all_goals rfl

theorem cells_applyAll (s : Store) (es : List Effect) : (s.applyAll es).cells = s.cells := by
  induction es generalizing s with
  | nil => rfl
  | cons e es ih => rw [applyAll_cons, ih, cells_apply]

end Store

end CallingConvention
