import CallingConvention.Proofs.FrameOwners

/-!
# Counted objects outside of calls

Whoever works with counted objects outside of calls owns references in two forms: as handles, and as
bare addresses (`Holdings`). A reference comes with a new object, or is taken to an object that is
alive; it moves between the two forms; and it is given up in either form (`Dealing`). The code
trusts its user in this: nobody gives up or moves a reference that is not owned, and nobody takes
one to an object that is gone (`Holdings.Permits`).

However these dealings are mixed, the count in the header of every object is the number of
references that are owned, and an object is destroyed exactly when the last one is given up
(`Holdings.Sound`). The header keeps the count in 32 bits (`Store.refcount`), which makes no
difference as long as there are fewer references than that.
-/

namespace CallingConvention

/-! ## What the store shows of an object -/

namespace Report

/-- Whether a report tells of the end of an object. -/
def tellsEnd (n : Nat) : Report → Bool
  | destroyed m _ => m == n
  | effect _ _ => false

end Report

namespace Store

/-- How often the end of an object was told. -/
def ends (s : Store) (n : Nat) : Nat := s.journal.toList.countP (Report.tellsEnd n)

/-- Whether a store comes from another one by taking and giving up references. -/
structure Moves (taken given : List Address) (s s' : Store) : Prop where
  /-- No object is made. -/
  objects : s'.objects.length = s.objects.length
  /-- What is taken is counted, less what is given up. -/
  references : ∀ n, s'.references (.object n) + given.count (.object n) =
    s.references (.object n) + taken.count (.object n)
  /-- The last reference takes its object along. -/
  ends : ∀ n, s'.ends n =
    s.ends n + if .object n ∈ given ∧ s.references (.object n) = 1 then 1 else 0

private theorem ends_add_of_nil (s : Store) (n k : Nat) :
    k + (if .object n ∈ ([] : List Address) ∧ s.references (.object n) = 1 then 1 else 0) = k := by
  simp

theorem Moves.refl (s : Store) : Moves [] [] s s :=
  ⟨rfl, fun _ ↦ rfl, fun n ↦ (ends_add_of_nil s n _).symm⟩

private theorem Moves.of_report {taken given : List Address} {s s' : Store} {e : Effect}
    {line : Option String} (h : Moves taken given (s.report (.effect e line)) s') :
    Moves taken given s s' := by
  have untold (n : Nat) : (s.report (.effect e line)).ends n = s.ends n := by
    rw [Store.ends, Store.report, Array.toList_push, List.countP_append]
    rfl
  exact ⟨h.objects, h.references, fun n ↦ (h.ends n).trans (by rw [untold]; rfl)⟩

private theorem length_setTenure (s : Store) (n : Nat) (t : Tenure) :
    (s.setTenure n t).objects.length = s.objects.length :=
  List.length_modify ..

private theorem references_of_length_le {s : Store} {n : Nat} (h : s.objects.length ≤ n) :
    s.references (.object n) = 0 := by
  simp [references, tenure?, h]

private theorem count_singleton_object (a : Address) (n : Nat) :
    [a].count (.object n) = if a = .object n then 1 else 0 := by
  simp [List.count_singleton]

private theorem moves_addReference {s : Store} {a : Address}
    (live : a ≠ .null → 0 < s.references a) : Moves [a] [] s (s.addReference a) := by
  constructor
  · unfold addReference
    split
    · split
      · exact length_setTenure s _ _
      · rfl
    · rfl
  · intro n
    have counted := references_of_follows (follows_addReference s a n) (Nat.zero_le _)
    rw [← count_singleton_object] at counted
    refine counted fun taken ↦ ?_
    obtain rfl : .object n = a := List.mem_singleton.mp (List.count_pos_iff.mp taken)
    exact live Address.noConfusion
  · intro n
    rw [ends_add_of_nil, ends, journal_addReference, ends]

private theorem ends_releaseReference (s : Store) (a : Address) (n : Nat) :
    (s.releaseReference a).ends n =
      s.ends n + if .object n ∈ [a] ∧ s.references (.object n) = 1 then 1 else 0 := by
  rcases journal_releaseReference s a with same | ⟨m, told, rfl, last, ending⟩
  · have others : ¬(.object n ∈ [a] ∧ s.references (.object n) = 1) := by
      rintro ⟨there, one⟩
      obtain rfl := List.mem_singleton.mp there
      have counted := exists_counted_of_pos (Nat.lt_of_lt_of_eq Nat.one_pos one.symm)
      rw [one] at counted
      -- the end of an object makes the journal longer, so the journal cannot be the same
      have ended : (s.releaseReference (.object n)).journal.size = s.journal.size + 2 := by
        simp [releaseReference, counted, destroyObject, setTenure, log, report]
      rw [same] at ended
      omega
    rw [if_neg others, ends, same, ends, Nat.add_zero]
  · have one : s.references (.object m) = 1 := references_eq_of_counted last
    rw [ends, ending]
    by_cases own : m = n
    · subst own
      simp [ends, Report.tellsEnd, one]
    · simp [ends, Report.tellsEnd, own, Ne.symm own]

private theorem moves_releaseReference {s : Store} {a : Address}
    (owned : a ≠ .null → 0 < s.references a) : Moves [] [a] s (s.releaseReference a) := by
  constructor
  · unfold releaseReference
    split
    · split
      · exact length_setTenure _ _ _
      · exact length_setTenure _ _ _
      · rfl
    · rfl
  · intro n
    have counted := references_of_follows (follows_releaseReference s a n)
    rw [← count_singleton_object] at counted
    refine counted ?_ fun none ↦ absurd none (Nat.lt_irrefl 0)
    rw [count_singleton_object]
    split
    · next same => exact same ▸ owned (same ▸ Address.noConfusion)
    · exact Nat.zero_le _
  · exact ends_releaseReference s a

private theorem ends_newObject (s : Store) (name : String) (t : Tenure) (value : Payload)
    (n : Nat) : (s.newObject name t value).2.ends n = s.ends n := by
  have journal : (s.newObject name t value).2.journal =
      s.journal.push (.effect (.log .objectNew) none) := rfl
  rw [ends, journal, Array.toList_push, List.countP_append]
  rfl

private theorem length_newObject (s : Store) (name : String) (t : Tenure) (value : Payload) :
    (s.newObject name t value).2.objects.length = s.objects.length + 1 :=
  List.length_append

end Store

namespace ScriptType

variable {t : ScriptType} {s : Store} {a : Address}

private theorem CountsObjects.moves_addRef (h : t.CountsObjects)
    (live : a ≠ .null → 0 < s.references a) : s.Moves [a] [] (s.applyAll (t.addRef a)) := by
  obtain ⟨name, rfl⟩ := h
  by_cases null : a = .null
  · subst null
    rw [addRef_null]
    exact Store.moves_addReference live
  · have counted : (ScriptType.counted name).addRef a = [.addRef (.counted name) a] :=
      if_neg (by simpa [ScriptType.counted, reference] using null)
    rw [counted]
    exact Store.Moves.of_report (Store.moves_addReference (s := s.report _) live)

private theorem CountsObjects.moves_release (h : t.CountsObjects)
    (owned : a ≠ .null → 0 < s.references a) : s.Moves [] [a] (s.applyAll (t.release a)) := by
  obtain ⟨name, rfl⟩ := h
  by_cases null : a = .null
  · subst null
    rw [release_null]
    exact Store.moves_releaseReference owned
  · have counted : (ScriptType.counted name).release a = [.release (.counted name) a] :=
      if_neg (by simpa [ScriptType.counted, reference] using null)
    rw [counted]
    exact Store.Moves.of_report (Store.moves_releaseReference (s := s.report _) owned)

end ScriptType

/-! ## Holdings -/

/-- A store and the references that somebody owns there. -/
structure Holdings where
  /-- Where they are counted. -/
  store : Store
  /-- References in handles. -/
  handles : List Handle
  /-- References that go with a bare address. -/
  bare : List Address

/-- What somebody who owns references can do with counted objects outside of calls. -/
inductive Dealing where
  | allocate (name : String) (value : Payload)
  | addRef (a : Address)
  | release (a : Address)
  | adopt (t : ScriptType) (a : Address)
  | borrow (t : ScriptType) (a : Address)
  | clone (h : Handle)
  | drop (h : Handle)
  | unwrap (h : Handle)
  deriving DecidableEq

namespace Dealing

/-- The addresses that a reference is taken to. -/
def taken : Dealing → List Address
  | addRef a => [a]
  | borrow _ a => [a]
  | clone h => [h.address]
  | _ => []

/-- The addresses that a reference is given up to. -/
def given : Dealing → List Address
  | release a => [a]
  | drop h => [h.address]
  | _ => []

/-- The address that is dealt with, if there is one. -/
def operand? : Dealing → Option Address
  | allocate _ _ => none
  | addRef a | release a | adopt _ a | borrow _ a => some a
  | clone h | drop h | unwrap h => some h.address

end Dealing

namespace Holdings

/-- Nothing has been made yet. -/
def start : Holdings := ⟨.empty, [], []⟩

/-- The addresses that a reference is owned to, each as often as there are such references. -/
def owned (H : Holdings) : List Address := H.handles.map Handle.address ++ H.bare

/-- How many references to an object are owned. -/
def outstanding (H : Holdings) (n : Nat) : Nat := H.owned.count (.object n)

/-- The reference that comes with a new object. -/
def made (H : Holdings) : Dealing → List Address
  | .allocate _ _ => [.object H.store.objects.length]
  | _ => []

/-- The holdings after a dealing. -/
def after (H : Holdings) : Dealing → Holdings
  | .allocate name value =>
    let (a, store) := H.store.newObject name (.counted 1) value
    ⟨store, H.handles, a :: H.bare⟩
  | .addRef a => ⟨H.store.addReference a, H.handles, if a.isNull then H.bare else a :: H.bare⟩
  | .release a => ⟨H.store.releaseReference a, H.handles, H.bare.erase a⟩
  | .adopt t a => ⟨H.store, (Handle.adopt? t a).toList ++ H.handles, H.bare.erase a⟩
  | .borrow t a =>
    let (h?, effects) := Handle.borrow? t a
    ⟨H.store.applyAll effects, h?.toList ++ H.handles, H.bare⟩
  | .clone h =>
    let (g, effects) := h.clone
    ⟨H.store.applyAll effects, g :: H.handles, H.bare⟩
  | .drop h => ⟨H.store.applyAll h.drop, H.handles.erase h, H.bare⟩
  | .unwrap h => ⟨H.store, H.handles.erase h, h.intoAddress :: H.bare⟩

/-- Whether a dealing is one that the code trusts its user to keep to: references are taken to
objects that are alive, and nothing is given up or moved that is not owned. -/
def Permits (H : Holdings) : Dealing → Prop
  | .allocate _ _ => True
  | .addRef a => a ≠ .null → 0 < H.store.references a
  | .release a => a ≠ .null → a ∈ H.bare
  | .adopt t a => t.CountsObjects ∧ (a ≠ .null → a ∈ H.bare)
  | .borrow t a => t.CountsObjects ∧ (a ≠ .null → 0 < H.store.references a)
  | .clone h => h ∈ H.handles
  | .drop h => h ∈ H.handles
  | .unwrap h => h ∈ H.handles

/-- The holdings after dealings in order. -/
def run (H : Holdings) (ds : List Dealing) : Holdings := ds.foldl after H

/-- Whether dealings are all permitted, one after another. -/
def PermitsAll (H : Holdings) : List Dealing → Prop
  | [] => True
  | d :: ds => H.Permits d ∧ (H.after d).PermitsAll ds

/-- The books of the store agree with what is owned. -/
structure Sound (H : Holdings) : Prop where
  /-- Counts are references that are owned. -/
  counted : ∀ n, H.store.references (.object n) = H.outstanding n
  /-- Handles are to counted objects. -/
  types : ∀ h ∈ H.handles, h.type.CountsObjects
  /-- Nothing else is owned. -/
  objects : ∀ a ∈ H.owned, ∃ n, a = .object n
  /-- An object has ended once if it was made and is not owned any more. -/
  ended : ∀ n, H.store.ends n =
    if n < H.store.objects.length ∧ H.outstanding n = 0 then 1 else 0

theorem sound_start : start.Sound where
  counted n := Store.references_of_length_le (Nat.zero_le n)
  types _ there := absurd there List.not_mem_nil
  objects _ there := absurd there List.not_mem_nil
  ended n := (if_neg fun h ↦ Nat.not_lt_zero n h.1).symm

/-! ### One dealing -/

private theorem exists_object_of_references_pos {s : Store} {a : Address}
    (live : 0 < s.references a) : ∃ n, a = .object n := by
  cases a with
  | object n => exact ⟨n, rfl⟩
  | _ => exact absurd live (Nat.lt_irrefl 0)

variable {H : Holdings} {d : Dealing}

private theorem Sound.references_pos (sound : H.Sound) {a : Address} (there : a ∈ H.owned) :
    0 < H.store.references a := by
  obtain ⟨n, rfl⟩ := sound.objects a there
  rw [sound.counted]
  exact List.count_pos_iff.mpr there

private theorem Sound.ne_null (sound : H.Sound) {a : Address} (there : a ∈ H.owned) :
    a ≠ .null := by
  obtain ⟨n, rfl⟩ := sound.objects a there
  exact Address.noConfusion

private theorem mem_owned_of_handle {h : Handle} (there : h ∈ H.handles) : h.address ∈ H.owned :=
  List.mem_append_left _ (List.mem_map_of_mem there)

private theorem mem_owned_of_bare {a : Address} (there : a ∈ H.bare) : a ∈ H.owned :=
  List.mem_append_right _ there

private theorem Sound.after_of_null (sound : H.Sound) (permits : H.Permits d)
    (null : d.operand? = some .null) : H.after d = H := by
  have handle (h : Handle) (there : h ∈ H.handles) : h.address ≠ .null :=
    sound.ne_null (mem_owned_of_handle there)
  have bare : H.bare.erase .null = H.bare :=
    List.erase_of_not_mem fun there ↦ sound.ne_null (mem_owned_of_bare there) rfl
  cases d with
  | allocate => cases null
  | addRef a =>
    cases null
    rfl
  | release a =>
    cases null
    rw [after, bare]
    rfl
  | adopt t a =>
    cases null
    rw [after, bare]
    rfl
  | borrow t a =>
    cases null
    rw [after, Handle.borrow?, ScriptType.addRef_null]
    rfl
  -- what is left is about handles, which are never null
  | clone h => exact absurd (Option.some.inj null) (handle h permits)
  | drop h => exact absurd (Option.some.inj null) (handle h permits)
  | unwrap h => exact absurd (Option.some.inj null) (handle h permits)

theorem Sound.moves (sound : H.Sound) (permits : H.Permits d) (old : H.made d = []) :
    H.store.Moves d.taken d.given (H.after d).store := by
  have owned (a : Address) (there : a ∈ H.owned) : a ≠ .null → 0 < H.store.references a :=
    fun _ ↦ sound.references_pos there
  cases d with
  | allocate => cases old
  | addRef a => exact Store.moves_addReference permits
  | release a =>
    exact Store.moves_releaseReference fun given ↦
      sound.references_pos (mem_owned_of_bare (permits given))
  | adopt t a => exact .refl _
  | borrow t a => exact permits.1.moves_addRef permits.2
  | clone h =>
    exact (sound.types h permits).moves_addRef (owned _ (mem_owned_of_handle permits))
  | drop h =>
    exact (sound.types h permits).moves_release (owned _ (mem_owned_of_handle permits))
  | unwrap h => exact .refl _

private theorem perm_owned_of_bare {a : Address} (there : a ∈ H.bare) :
    (a :: (H.handles.map Handle.address ++ H.bare.erase a)).Perm H.owned :=
  List.perm_middle.symm.trans ((List.perm_cons_erase there).symm.append_left _)

private theorem perm_owned_of_handle {h : Handle} (there : h ∈ H.handles) :
    (h.address :: ((H.handles.erase h).map Handle.address ++ H.bare)).Perm H.owned :=
  ((List.perm_cons_erase there).symm.map Handle.address).append_right _

/-- What is owned follows the dealing. -/
private theorem perm_owned_after (permits : H.Permits d) (given : d.operand? ≠ some .null) :
    (d.given ++ (H.after d).owned).Perm (H.made d ++ d.taken ++ H.owned) := by
  have ne {a : Address} (h : some a ≠ some .null) : a ≠ .null := fun null ↦ h (congrArg some null)
  have there {a : Address} (h : some a ≠ some .null) : a.isNull = false :=
    Bool.eq_false_iff.mpr (mt Address.isNull_iff.mp (ne h))
  cases d with
  | allocate name value => exact List.perm_middle
  | addRef a =>
    simp only [after, there given]
    exact List.perm_middle
  | release a => exact perm_owned_of_bare (permits (ne given))
  | adopt t a =>
    simp only [after, owned, Handle.adopt?, there given]
    exact perm_owned_of_bare (permits.2 (ne given))
  | borrow t a =>
    simp only [after, owned, Handle.borrow?, Handle.adopt?, there given]
    exact .refl _
  | clone h => exact .refl _
  | drop h => exact perm_owned_of_handle permits
  | unwrap h => exact List.perm_middle.trans (perm_owned_of_handle permits)

private theorem Sound.outstanding_after (sound : H.Sound) (permits : H.Permits d) (n : Nat) :
    (H.after d).outstanding n + d.given.count (.object n) =
      H.outstanding n + d.taken.count (.object n) + (H.made d).count (.object n) := by
  by_cases null : d.operand? = some .null
  · have nothing : d.given.count (.object n) = 0 ∧ d.taken.count (.object n) = 0 ∧
        (H.made d).count (.object n) = 0 := by
      cases d with
      | allocate => cases null
      | _ => simp_all [Dealing.operand?, Dealing.given, Dealing.taken, made]
    rw [sound.after_of_null permits null, nothing.1, nothing.2.1, nothing.2.2]
  · have moved := (perm_owned_after permits null).count_eq (.object n)
    rw [List.count_append, List.count_append, List.count_append] at moved
    rw [outstanding, outstanding]
    omega

private theorem operand?_of_mem_taken {a : Address} (there : a ∈ d.taken) :
    d.operand? = some a := by
  cases d with
  | addRef | borrow | clone => exact congrArg some (List.mem_singleton.mp there).symm
  | _ => cases there

private theorem Sound.live_of_taken (sound : H.Sound) (permits : H.Permits d) {a : Address}
    (there : a ∈ d.taken) (given : a ≠ .null) : 0 < H.store.references a := by
  cases d with
  | addRef b =>
    obtain rfl := List.mem_singleton.mp there
    exact permits given
  | borrow t b =>
    obtain rfl := List.mem_singleton.mp there
    exact permits.2 given
  | clone h =>
    obtain rfl := List.mem_singleton.mp there
    exact sound.references_pos (mem_owned_of_handle permits)
  | _ => cases there

private theorem count_given_of_mem {a : Address} (there : a ∈ d.given) :
    d.given.count a = 1 ∧ d.taken = [] := by
  cases d with
  | release b =>
    obtain rfl := List.mem_singleton.mp there
    exact ⟨List.count_singleton_self, rfl⟩
  | drop h =>
    obtain rfl := List.mem_singleton.mp there
    exact ⟨List.count_singleton_self, rfl⟩
  | _ => cases there

/-- What is not owned has not been made or has ended. -/
private theorem Sound.outstanding_of_length_le (sound : H.Sound) {n : Nat}
    (h : H.store.objects.length ≤ n) : H.outstanding n = 0 := by
  rw [← sound.counted, Store.references_of_length_le h]

private theorem Sound.allocated (sound : H.Sound) {n : Nat} (owned : 0 < H.outstanding n) :
    n < H.store.objects.length := by
  by_contra past
  exact Nat.ne_of_gt owned (sound.outstanding_of_length_le (Nat.le_of_not_lt past))

theorem Sound.ended_after (sound : H.Sound) (permits : H.Permits d) (old : H.made d = [])
    (n : Nat) :
    (H.after d).store.ends n =
      if n < (H.after d).store.objects.length ∧ (H.after d).outstanding n = 0 then 1 else 0 := by
  have moves := sound.moves permits old
  have counted := sound.outstanding_after permits n
  rw [old, List.count_nil, Nat.add_zero] at counted
  rw [moves.ends, moves.objects, sound.ended, sound.counted]
  by_cases given : .object n ∈ d.given
  · obtain ⟨one, none⟩ := count_given_of_mem given
    rw [one, none, List.count_nil, Nat.add_zero] at counted
    have owned : 0 < H.outstanding n := by omega
    have last : (H.after d).outstanding n = 0 ↔ H.outstanding n = 1 := by omega
    have made := sound.allocated owned
    simp only [given, last, made, Nat.ne_of_gt owned, true_and, and_false, if_false, Nat.zero_add]
  · -- an object that has ended gets no new reference, so it does not end again
    have kept : d.given.count (.object n) = 0 := List.count_eq_zero.mpr given
    have live : 0 < d.taken.count (.object n) → 0 < H.outstanding n := by
      intro taken
      rw [← sound.counted]
      exact sound.live_of_taken permits (List.count_pos_iff.mp taken) Address.noConfusion
    have same : (H.after d).outstanding n = 0 ↔ H.outstanding n = 0 := by omega
    simp only [given, same, false_and, if_false, Nat.add_zero]

private theorem Sound.types_after (sound : H.Sound) (permits : H.Permits d) :
    ∀ h ∈ (H.after d).handles, h.type.CountsObjects := by
  have adopted {t : ScriptType} (counts : t.CountsObjects) (a : Address) :
      ∀ h ∈ (Handle.adopt? t a).toList ++ H.handles, h.type.CountsObjects :=
    List.forall_mem_append.mpr ⟨Handle.countsObjects_adopt? counts a, sound.types⟩
  cases d with
  | adopt t a => exact adopted permits.1 a
  | borrow t a => exact adopted permits.1 a
  | clone h => exact List.forall_mem_cons.mpr ⟨sound.types h permits, sound.types⟩
  | drop h => exact fun g there ↦ sound.types g (List.mem_of_mem_erase there)
  | unwrap h => exact fun g there ↦ sound.types g (List.mem_of_mem_erase there)
  | _ => exact sound.types

private theorem Sound.objects_after (sound : H.Sound) (permits : H.Permits d) :
    ∀ a ∈ (H.after d).owned, ∃ n, a = .object n := by
  intro a there
  by_cases null : d.operand? = some .null
  · rw [sound.after_of_null permits null] at there
    exact sound.objects a there
  · have before := (perm_owned_after permits null).subset (List.mem_append_right _ there)
    rw [List.mem_append, List.mem_append] at before
    rcases before with (new | taken) | owned
    · cases d with
      | allocate => exact ⟨_, List.mem_singleton.mp new⟩
      | _ => cases new
    · refine exists_object_of_references_pos (sound.live_of_taken permits taken ?_)
      rintro rfl
      exact null (operand?_of_mem_taken taken)
    · exact sound.objects a owned

theorem Sound.allocate (sound : H.Sound) (name : String) (value : Payload) :
    (H.after (.allocate name value)).Sound := by
  have permits : H.Permits (.allocate name value) := trivial
  have owned (n : Nat) : (H.after (.allocate name value)).outstanding n =
      H.outstanding n + if n = H.store.objects.length then 1 else 0 := by
    have counted := sound.outstanding_after permits n
    rw [made, Store.count_singleton_object] at counted
    simpa [Dealing.given, Dealing.taken, eq_comm] using counted
  refine ⟨fun n ↦ ?_, sound.types_after permits, sound.objects_after permits, fun n ↦ ?_⟩
  · rw [owned]
    refine (Store.references_newObject H.store name 1 value n).trans ?_
    split
    · next new => rw [sound.outstanding_of_length_le (Nat.le_of_eq new.symm)]
    · exact sound.counted n
  · have told : (H.after (.allocate name value)).store.ends n = H.store.ends n :=
      Store.ends_newObject ..
    have longer : (H.after (.allocate name value)).store.objects.length =
        H.store.objects.length + 1 :=
      Store.length_newObject ..
    rw [told, longer, owned, sound.ended]
    by_cases new : n = H.store.objects.length
    · -- it had not been made before, and is owned now
      rw [if_neg fun h ↦ absurd h.1 (Nat.not_lt.mpr (Nat.le_of_eq new.symm)), if_neg]
      rw [if_pos new]
      omega
    · have same : n < H.store.objects.length + 1 ↔ n < H.store.objects.length := by omega
      simp only [if_neg new, same, Nat.add_zero]

/-- **One dealing.** Whatever is permitted keeps the books in agreement with what is owned. -/
theorem Sound.after (sound : H.Sound) (permits : H.Permits d) : (H.after d).Sound := by
  by_cases old : H.made d = []
  · refine ⟨fun n ↦ ?_, sound.types_after permits, sound.objects_after permits,
      sound.ended_after permits old⟩
    have owned := sound.outstanding_after permits n
    have counted := (sound.moves permits old).references n
    rw [sound.counted] at counted
    rw [old, List.count_nil] at owned
    omega
  · cases d with
    | allocate name value => exact sound.allocate name value
    | _ => exact absurd rfl old

/-! ### Dealings in order -/

theorem run_cons (H : Holdings) (d : Dealing) (ds : List Dealing) :
    H.run (d :: ds) = (H.after d).run ds :=
  rfl

theorem Sound.run (sound : H.Sound) {ds : List Dealing} (permitted : H.PermitsAll ds) :
    (H.run ds).Sound := by
  induction ds generalizing H with
  | nil => exact sound
  | cons d ds ih => exact ih (sound.after permitted.1) permitted.2

private theorem Sound.length_after (sound : H.Sound) (permits : H.Permits d) :
    (H.after d).store.objects.length = H.store.objects.length + (H.made d).length := by
  by_cases old : H.made d = []
  · rw [(sound.moves permits old).objects, old, List.length_nil, Nat.add_zero]
  · cases d with
    | allocate name value => exact Store.length_newObject ..
    | _ => exact absurd rfl old

/-- How many references to an object came with it: one once it has been made. -/
def granted (H : Holdings) (n : Nat) : Nat := if n < H.store.objects.length then 1 else 0

private theorem Sound.granted_after (sound : H.Sound) (permits : H.Permits d) (n : Nat) :
    (H.after d).granted n = H.granted n + (H.made d).count (.object n) := by
  have longer := sound.length_after permits
  cases d with
  | allocate name value =>
    have one : H.made (.allocate name value) = [.object H.store.objects.length] := rfl
    rw [one, List.length_singleton] at longer
    rw [granted, granted, longer, one, Store.count_singleton_object]
    by_cases new : n = H.store.objects.length
    · rw [if_pos (by omega), if_neg (by omega), if_pos (congrArg Address.object new.symm)]
    · rw [if_neg fun h ↦ new (Address.object.inj h).symm]
      split <;> split <;> omega
  | _ =>
    rw [granted, granted, longer]
    rfl

/-- References that are owned or have been given up came with their objects or have been taken. -/
theorem Sound.outstanding_run (sound : H.Sound) {ds : List Dealing} (permitted : H.PermitsAll ds)
    (n : Nat) :
    (H.run ds).outstanding n + (ds.flatMap Dealing.given).count (.object n) + H.granted n =
      H.outstanding n + (ds.flatMap Dealing.taken).count (.object n) + (H.run ds).granted n := by
  induction ds generalizing H with
  | nil => rfl
  | cons d ds ih =>
    have first := sound.outstanding_after permitted.1 n
    have made := sound.granted_after permitted.1 n
    have later := ih (sound.after permitted.1) permitted.2
    rw [run_cons, List.flatMap_cons, List.flatMap_cons, List.count_append, List.count_append]
    omega

/-! ### Thirty-two bits -/

private theorem refcount_eq_iff {s : Store} {a : Address} {k : Nat} (few : s.references a < 2 ^ 32)
    (small : k < 2 ^ 32) : s.refcount a = BitVec.ofNat 32 k ↔ s.references a = k := by
  rw [← BitVec.toNat_inj, Store.toNat_refcount few, BitVec.toNat_ofNat, Nat.mod_eq_of_lt small]

private theorem store_after_of_moving (taken : d.taken = []) (given : d.given = [])
    (made : H.made d = []) : (H.after d).store = H.store := by
  cases d with
  | adopt | unwrap => rfl
  | allocate => cases made
  | addRef | borrow | clone => cases taken
  | release | drop => cases given

/-- What a dealing does to an object and to the 32 bits of its count. -/
structure Deals (H : Holdings) (d : Dealing) (n : Nat) : Prop where
  /-- Nothing is done with null. -/
  null : d.operand? = some .null → H.after d = H
  /-- A reference that only moves changes nothing. -/
  moving : d.taken = [] → d.given = [] → H.made d = [] →
    (H.after d).store = H.store ∧ (H.after d).outstanding n = H.outstanding n
  /-- The count is moved by what is taken and given up. -/
  word : (H.after d).store.refcount (.object n) + BitVec.ofNat 32 (d.given.count (.object n)) =
    H.store.refcount (.object n) +
      BitVec.ofNat 32 ((H.made d).count (.object n) + d.taken.count (.object n))
  /-- The last reference is given up when the count reads one before. -/
  last : .object n ∈ d.given →
    ((H.after d).outstanding n = 0 ↔ H.store.refcount (.object n) = 1)
  /-- Then, and only then, the object ends. -/
  ending : (H.after d).store.ends n =
    H.store.ends n + if .object n ∈ d.given ∧ H.store.refcount (.object n) = 1 then 1 else 0

theorem Sound.deals (sound : H.Sound) (permits : H.Permits d) {n : Nat}
    (few : H.outstanding n < 2 ^ 32) : H.Deals d n := by
  have owned := sound.outstanding_after permits n
  have reads : H.store.refcount (.object n) = 1 ↔ H.outstanding n = 1 := by
    rw [← sound.counted] at few ⊢
    exact refcount_eq_iff few (by decide)
  constructor
  · exact sound.after_of_null permits
  · intro taken given made
    rw [taken, given, made] at owned
    exact ⟨store_after_of_moving taken given made, owned⟩
  · rw [Store.refcount, Store.refcount, ← BitVec.ofNat_add, ← BitVec.ofNat_add, sound.counted,
      (sound.after permits).counted]
    congr 1
    omega
  · intro there
    obtain ⟨once, taken⟩ := count_given_of_mem there
    have made : H.made d = [] := by
      cases d with
      | allocate => cases there
      | _ => rfl
    rw [once, taken, made, List.count_nil] at owned
    rw [reads]
    omega
  · by_cases old : H.made d = []
    · rw [(sound.moves permits old).ends, sound.counted]
      simp only [reads]
    · cases d with
      | allocate name value =>
        exact (Store.ends_newObject ..).trans (Store.ends_add_of_nil H.store n _).symm
      | _ => exact absurd rfl old

/-- A reference that goes into a handle and out of it again is where it was. -/
theorem adopt_unwrap (H : Holdings) (t : ScriptType) {a : Address} (given : a ≠ .null) :
    (H.after (.adopt t a)).after (.unwrap ⟨t, a⟩) = ⟨H.store, H.handles, a :: H.bare.erase a⟩ := by
  have some_handle : Handle.adopt? t a = some ⟨t, a⟩ :=
    if_neg (mt Address.isNull_iff.mp given)
  have held : H.after (.adopt t a) = ⟨H.store, ⟨t, a⟩ :: H.handles, H.bare.erase a⟩ := by
    rw [after, some_handle]
    rfl
  rw [held, after, List.erase_cons_head]
  rfl

private theorem length_owned_after (H : Holdings) (d : Dealing) :
    (H.after d).owned.length ≤ H.owned.length + 1 := by
  have held (t : ScriptType) (a : Address) : (Handle.adopt? t a).toList.length ≤ 1 := by
    unfold Handle.adopt?
    split
    · exact Nat.zero_le 1
    · exact Nat.le_refl 1
  have less {α : Type} [DecidableEq α] (x : α) (xs : List α) : (xs.erase x).length ≤ xs.length :=
    List.length_erase_le
  simp only [owned, List.length_append, List.length_map]
  cases d with
  | allocate name value => exact Nat.le_refl _
  | addRef a =>
    simp only [after]
    split
    · exact Nat.le_succ _
    · exact Nat.le_refl _
  | release a =>
    have kept := less a H.bare
    simp only [after]
    omega
  | adopt t a =>
    have kept := less a H.bare
    have one := held t a
    simp only [after, List.length_append]
    omega
  | borrow t a =>
    have one := held t a
    simp only [after, Handle.borrow?, List.length_append]
    omega
  | clone h =>
    simp only [after, List.length_cons]
    omega
  | drop h =>
    have kept := less h H.handles
    simp only [after]
    omega
  | unwrap h =>
    have kept := less h H.handles
    simp only [after, List.length_cons]
    omega

private theorem length_owned_run (H : Holdings) (ds : List Dealing) :
    (H.run ds).owned.length ≤ H.owned.length + ds.length := by
  induction ds generalizing H with
  | nil => exact Nat.le_refl _
  | cons d ds ih =>
    have step := H.length_owned_after d
    have later := ih (H.after d)
    rw [run_cons, List.length_cons]
    omega

/-- Fewer than 2³² dealings never come to more references than the header can count. -/
theorem outstanding_lt_of_length {ds : List Dealing} (short : ds.length < 2 ^ 32) :
    ∀ early, early <+: ds → ∀ n, (start.run early).outstanding n < 2 ^ 32 := by
  intro early h n
  have owned : (start.run early).outstanding n ≤ (start.run early).owned.length :=
    List.count_le_length
  have dealt := start.length_owned_run early
  have none : start.owned.length = 0 := rfl
  have part := h.length_le
  omega

/-- **The ledger of counted objects.** The count of every object is the number of references that
are owned, as long as there are fewer than 2³² of them, and the object ends once, with the last one.
-/
theorem ledger_exact {ds : List Dealing} (permitted : start.PermitsAll ds)
    (few : ∀ early, early <+: ds → ∀ n, (start.run early).outstanding n < 2 ^ 32) (n : Nat) :
    (start.run ds).store.references (.object n) = (start.run ds).outstanding n ∧
      ((start.run ds).store.refcount (.object n)).toNat = (start.run ds).outstanding n ∧
      (start.run ds).outstanding n + (ds.flatMap Dealing.given).count (.object n) =
        (start.run ds).granted n + (ds.flatMap Dealing.taken).count (.object n) ∧
      (start.run ds).store.refcount .null = 0 ∧
      (start.run ds).store.ends n =
        (if n < (start.run ds).store.objects.length ∧ (start.run ds).outstanding n = 0 then 1
          else 0) ∧
      (∀ d, (start.run ds).Permits d → (start.run ds).Deals d n) ∧
      ∀ t a, a ∈ (start.run ds).bare →
        ((start.run ds).after (.adopt t a)).after (.unwrap ⟨t, a⟩) =
          ⟨(start.run ds).store, (start.run ds).handles, a :: (start.run ds).bare.erase a⟩ := by
  have sound := sound_start.run permitted
  have fewer := few ds (List.prefix_refl ds) n
  refine ⟨sound.counted n, ?_, ?_, rfl, sound.ended n, fun d permits ↦ sound.deals permits fewer,
    fun t a there ↦ ?_⟩
  · rw [← sound.counted] at fewer ⊢
    exact Store.toNat_refcount fewer
  · have moved := sound_start.outstanding_run permitted n
    have none : start.outstanding n = 0 ∧ start.granted n = 0 := ⟨rfl, rfl⟩
    omega
  · exact adopt_unwrap _ t (sound.ne_null (mem_owned_of_bare there))

/-- One object, whose reference goes into a handle, which is cloned, dropped and unwrapped. -/
def passing : List Dealing :=
  [.allocate "obj" (.word 7), .adopt (.counted "Node") (.object 0),
    .clone ⟨.counted "Node", .object 0⟩, .drop ⟨.counted "Node", .object 0⟩,
    .unwrap ⟨.counted "Node", .object 0⟩]

/-- The object still has its reference then, and ends when that is given up. -/
theorem ledger_exact_passing :
    ((start.run passing).store.refcount (.object 0)).toNat = 1 ∧
      (start.run passing).store.ends 0 = 0 ∧
      ((start.run passing).after (.release (.object 0))).store.ends 0 = 1 := by
  have counts : (ScriptType.counted "Node").CountsObjects := ⟨"Node", rfl⟩
  have permitted : start.PermitsAll passing :=
    ⟨trivial, ⟨counts, fun _ ↦ List.mem_cons_self⟩, List.mem_cons_self, List.mem_cons_self,
      List.mem_cons_self, trivial⟩
  have short : passing.length < 2 ^ 32 := by decide
  obtain ⟨-, reads, -, -, ended, deals, -⟩ :=
    ledger_exact permitted (outstanding_lt_of_length short) 0
  have last := (deals (.release (.object 0)) fun _ ↦ List.mem_cons_self).ending
  have owned : (start.run passing).outstanding 0 = 1 := rfl
  rw [owned] at reads ended
  have alive := ended.trans (if_neg fun h ↦ Nat.one_ne_zero h.2)
  refine ⟨reads, alive, last.trans ?_⟩
  rw [alive, if_pos ⟨List.mem_cons_self, BitVec.eq_of_toNat_eq reads⟩]

end Holdings

end CallingConvention
