import CallingConvention.Proofs.OutputOwner
import CallingConvention.Proofs.ReturnedInstance

/-!
# Storage of a frame

A frame's own storage has the frame's number in its address (`Address.frame?`). What is there is
changed by writing to it, by the copies that are made as the frame is built, by the copy of an
object that is returned, and where an instance ends by what its destructor leaves. So what an
instance in the storage of a frame holds is what was put there last, and a body is searched from its
end for the deed that put it there (`Frame.read_after_last`).

Instances without any size share their addresses. They hold nothing that could be changed, as long
as nothing is written to one that has no room in it (`Store.bytes_put_place`).
-/

namespace CallingConvention

/-! ## Instances in storage -/

/-- The frame that an address of storage belongs to. -/
def Address.frame? : Address → Option Nat
  | argument number _ => some number
  | result number => some number
  | _ => none

/-- What is placed in storage of a frame is there, or in no storage of any frame. -/
theorem ScriptType.place_ne (t : ScriptType) {storage a : Address} (own : a.frame?.isSome = true)
    (apart : storage ≠ a) : t.place storage ≠ a := by
  unfold place
  split
  · unfold Address.ofWord
    split <;>
    · rintro rfl
      cases own
  · exact apart

/-- Whether what an instance of a type holds is copied along with it. -/
structure ScriptType.CopiesWhole (t : ScriptType) : Prop where
  /-- The copy hook takes over all of it, -/
  copies : ∃ hook, t.behaviours.copy = some hook ∧ hook.shape = t.shape
  /-- and storage has room for it. -/
  room : t.shape.size ≤ t.layout.size

theorem ScriptType.CopiesWhole.isSome_copy {t : ScriptType} (whole : t.CopiesWhole) :
    t.behaviours.copy.isSome = true := by
  obtain ⟨hook, copied, -⟩ := whole.copies
  rw [copied]
  rfl

theorem Session.copiesWhole_make {name : String} {spec : TypeSpec} {t : ScriptType}
    (made : spec.make name = .ok t) (category : t.category = .value)
    (copied : t.behaviours.copy.isSome = true) (room : t.shape.size ≤ t.layout.size) :
    t.CopiesWhole := by
  refine ⟨?_, room⟩
  cases spec with
  | sample s =>
    cases made
    cases s <;> exact ⟨_, rfl, rfl⟩
  | value size align hooks =>
    rw [TypeSpec.make] at made
    cases layout : Layout.ofSizeAlign? size align with
    | none => simp only [layout, reduceCtorEq] at made
    | some layout' =>
      simp only [layout, Except.ok.injEq] at made
      subst made
      obtain ⟨hook, there⟩ := Option.isSome_iff_exists.mp copied
      refine ⟨hook, there, ?_⟩
      simp only [HookNames.behaviours] at there
      split at there
      · cases there
        rfl
      · cases there
  | _ =>
    cases made
    cases category

private theorem Shape.read_of_size_eq_zero {shape : Shape} (none : shape.size = 0)
    (bytes old : List Byte) :
    shape.read bytes = shape.read old := by
  cases shape with
  | unit => rfl
  | value k =>
    cases k with
    | signed w => cases w <;> cases none
    | unsigned w => cases w <;> cases none
    | _ => cases none
  | _ => cases none

namespace Store

variable {t : ScriptType} {storage b : Address}

private theorem bytes_applyAll_of_target?_eq_none {es : List Effect}
    (silent : ∀ e ∈ es, e.target? = none) (b : Address) (s : Store) :
    (s.applyAll es).bytes b = s.bytes b := by
  refine bytes_applyAll_of_ne fun e there ↦ ?_
  rw [silent e there]
  exact (Option.some_ne_none b).symm

/-- What an instance holds. -/
def held (s : Store) (i : Instance) : Payload := s.read i.address i.type.shape

theorem shape_held (s : Store) (i : Instance) : (s.held i).shape = i.type.shape :=
  Payload.shape_read _ _

/-- What has room in an instance and is put there changes no other storage. -/
private theorem bytes_put_place {new : List Byte} (room : new.length ≤ t.layout.size)
    (apart : b ≠ storage) (s : Store) : (s.put (t.place storage) new).bytes b = s.bytes b := by
  by_cases size : t.layout.size = 0
  · -- nothing has room, so that it does not matter where it is put
    obtain rfl : new = [] := List.length_eq_zero_iff.mp (by omega)
    by_cases same : b = t.place storage
    · subst same
      exact bytes_put_self s _ []
    · exact bytes_put_of_ne _ _ same
  · rw [t.place_of_size_ne_zero size]
    exact bytes_put_of_ne _ _ apart

theorem read_place_congr {s s' : Store} {shape : Shape} (room : shape.size ≤ t.layout.size)
    (same : t.layout.size ≠ 0 → s'.bytes storage = s.bytes storage) :
    s'.read (t.place storage) shape = s.read (t.place storage) shape := by
  by_cases size : t.layout.size = 0
  · have none : shape.size = 0 := by omega
    exact Shape.read_of_size_eq_zero none _ _
  · rw [read, read, t.place_of_size_ne_zero size, same size]

private theorem bytes_apply_copy (whole : t.CopiesWhole) (apart : b ≠ storage) (a : Address)
    (s : Store) :
    (s.apply (.copy t (t.place storage) a)).bytes b = s.bytes b := by
  obtain ⟨hook, copied, shape⟩ := whole.copies
  have room := whole.room
  rw [apply, copied]
  refine bytes_put_place ?_ apart (s.report _)
  rw [Byte.length_first, shape]
  exact room

private theorem held_apply_copy (whole : t.CopiesWhole) (target a : Address) (s : Store) :
    (s.apply (.copy t target a)).held ⟨t, target⟩ = s.held ⟨t, a⟩ := by
  obtain ⟨hook, copied, shape⟩ := whole.copies
  rw [apply, copied, held, held, ← shape]
  exact read_copy_self (s.report _) target a hook.shape

theorem bytes_apply_write {p : Payload} (room : p.shape.size ≤ t.layout.size) (apart : b ≠ storage)
    (s : Store) : (s.apply (.write (t.place storage) p)).bytes b = s.bytes b := by
  rw [← p.length_bytes] at room
  exact bytes_put_place room apart (s.report _)

end Store

/-! ## Storage that incidents change -/

/-- The storage that an effect changes: it writes there, or ends an instance there. -/
def Effect.site? : Effect → Option Address
  | destruct _ a => some a
  | e => e.target?

/-- The storage that an incident changes. -/
def Incident.site? (i : Incident) : Option Address := i.effect?.bind Effect.site?

namespace Store

variable (leaves : Store → Address → List Byte)

/-- Let something happen, where `leaves` says what destructors leave. -/
def befallLeaving (s : Store) : Incident → Store
  | .effect e => s.applyLeaving leaves e
  | i => s.befall i

/-- Let things happen in order, where `leaves` says what destructors leave. -/
def befallAllLeaving (s : Store) (is : List Incident) : Store := is.foldl (befallLeaving leaves) s

@[simp] theorem befallAllLeaving_cons (s : Store) (i : Incident) (is : List Incident) :
    s.befallAllLeaving leaves (i :: is) = (s.befallLeaving leaves i).befallAllLeaving leaves is :=
  rfl

@[simp] theorem befallAllLeaving_append (s : Store) (is js : List Incident) :
    s.befallAllLeaving leaves (is ++ js) =
      (s.befallAllLeaving leaves is).befallAllLeaving leaves js :=
  List.foldl_append

@[simp] theorem befallAllLeaving_effects (s : Store) (es : List Effect) :
    s.befallAllLeaving leaves (es.map .effect) = s.applyAllLeaving leaves es :=
  List.foldl_map

variable {leaves} {a storage : Address}

private theorem bytes_applyLeaving_of_ne {e : Effect} (elsewhere : e.site? ≠ some a) (s : Store) :
    (s.applyLeaving leaves e).bytes a = s.bytes a := by
  cases e with
  | destruct t b =>
    have apart : a ≠ b := fun same ↦ elsewhere (congrArg some same.symm)
    rw [bytes_applyLeaving_destruct, bytes_put_of_ne _ _ apart]
  | _ => exact bytes_apply_of_ne elsewhere

theorem bytes_applyAllLeaving_of_ne {es : List Effect} (elsewhere : ∀ e ∈ es, e.site? ≠ some a)
    (s : Store) : (s.applyAllLeaving leaves es).bytes a = s.bytes a := by
  induction es generalizing s with
  | nil => rfl
  | cons e es ih =>
    obtain ⟨first, rest⟩ := List.forall_mem_cons.mp elsewhere
    rw [applyAllLeaving_cons, ih rest, bytes_applyLeaving_of_ne first]

theorem applyAllLeaving_eq {es : List Effect} (endless : ∀ e ∈ es, ∀ t b, e ≠ .destruct t b)
    (s : Store) : s.applyAllLeaving leaves es = s.applyAll es := by
  induction es generalizing s with
  | nil => rfl
  | cons e es ih =>
    obtain ⟨first, rest⟩ := List.forall_mem_cons.mp endless
    have same : s.applyLeaving leaves e = s.apply e := by
      cases e with
      | destruct t b => exact absurd rfl (first t b)
      | _ => rfl
    rw [applyAllLeaving_cons, ih rest, same, applyAll_cons]

/-- What is in the storage of a frame stays there as long as nothing changes it. -/
theorem bytes_befallAllLeaving_of_ne {is : List Incident} (own : storage.frame?.isSome = true)
    (elsewhere : ∀ i ∈ is, i.site? ≠ some storage) (s : Store) :
    (s.befallAllLeaving leaves is).bytes storage = s.bytes storage := by
  induction is generalizing s with
  | nil => rfl
  | cons i is ih =>
    obtain ⟨first, rest⟩ := List.forall_mem_cons.mp elsewhere
    rw [befallAllLeaving_cons, ih rest]
    cases i with
    | effect e => exact bytes_applyLeaving_of_ne first s
    | _ =>
      -- new objects and regions are not in a frame
      refine bytes_befall_of_ne ?_ ?_ ?_ s
      · exact first
      all_goals
        rintro n rfl
        cases own

end Store

/-! ## Making the copies -/

namespace ValueArgument

/-- The instance that is copied. -/
def original (x : ValueArgument) : Instance := ⟨x.param.type, x.source⟩

theorem forall_mem_cons {P : ValueArgument → Prop} {index : Nat} {p : Param}
    {arg : Argument} {ps : List Param} {args : List Argument}
    (all : ∀ x ∈ ofArguments index (p :: ps) (arg :: args), P x) :
    (∀ a, arg = .object a → P ⟨index, p, a⟩) ∧ ∀ x ∈ ofArguments (index + 1) ps args, P x := by
  cases arg with
  | object a =>
    obtain ⟨first, rest⟩ := List.forall_mem_cons.mp all
    refine ⟨fun b same ↦ ?_, rest⟩
    obtain rfl := Argument.object.inj same
    exact first
  | _ => exact ⟨fun _ ↦ Argument.noConfusion, all⟩

end ValueArgument

namespace Slot

variable {policy : Policy} {number index : Nat} {p : Param} {arg : Argument} {slot : Slot}
  {ps : List Param} {args : List Argument} {slots : List Slot} {es : List Effect} {b : Address}

private theorem Filled.bytes_applyAll (filled : Filled policy number index p arg slot es)
    (whole : ∀ a, arg = .object a → p.type.CopiesWhole) (apart : b ≠ .argument number index)
    (s : Store) : (s.applyAll es).bytes b = s.bytes b := by
  cases filled with
  | primitive | reference => rfl
  | object => exact Store.bytes_apply_copy (whole _ rfl) apart _ s
  | handle =>
    refine Store.bytes_applyAll_of_target?_eq_none (fun e there ↦ ?_) b s
    split at there
    · exact Effect.target?_of_isUpkeep (p.type.isUpkeep_addRef _ e there)
    · exact absurd there List.not_mem_nil

/-- What there is to know of a copy is in its place among parameters, arguments and slots. -/
theorem FilledAll.slot_of_mem (filled : FilledAll policy number index ps args slots es)
    {x : ValueArgument} (there : x ∈ ValueArgument.ofArguments index ps args) :
    ∃ i, x.index = index + i ∧ ps[i]? = some x.param ∧ args[i]? = some (.object x.source) ∧
      slots[i]? = some (.object (x.copied number)) := by
  induction filled with
  | nil => cases there
  | @cons index p arg slot es ps args slots more head _ ih =>
    have later (rest : x ∈ ValueArgument.ofArguments (index + 1) ps args) :
        ∃ i, x.index = index + i ∧ (p :: ps)[i]? = some x.param ∧
          (arg :: args)[i]? = some (.object x.source) ∧
          (slot :: slots)[i]? = some (.object (x.copied number)) := by
      obtain ⟨i, position, found⟩ := ih rest
      exact ⟨i + 1, by omega, found⟩
    cases head with
    | object =>
      obtain rfl | rest := List.mem_cons.mp there
      · exact ⟨0, rfl, rfl, rfl, rfl⟩
      · exact later rest
    | _ => exact later there

theorem FilledAll.eq_of_index (filled : FilledAll policy number index ps args slots es)
    {x y : ValueArgument} (hx : x ∈ ValueArgument.ofArguments index ps args)
    (hy : y ∈ ValueArgument.ofArguments index ps args) (same : y.index = x.index) : y = x := by
  obtain ⟨i, at_i, param, source, -⟩ := filled.slot_of_mem hx
  obtain ⟨j, at_j, param', source', -⟩ := filled.slot_of_mem hy
  obtain rfl : j = i := by omega
  obtain ⟨k, q, a⟩ := x
  obtain ⟨k', q', a'⟩ := y
  obtain rfl := Option.some.inj (param.symm.trans param')
  obtain rfl := Argument.object.inj (Option.some.inj (source.symm.trans source'))
  exact congrArg (ValueArgument.mk · q a) same

theorem FilledAll.slot_of_reference (filled : FilledAll policy number index ps args slots es)
    {i : Nat} {a : Address} (given : args[i]? = some (.reference a)) :
    slots[i]? = some (.reference a) := by
  induction filled generalizing i with
  | nil => cases given
  | cons head _ ih =>
    cases i with
    | succ i => exact ih given
    | zero =>
      obtain rfl := Option.some.inj given
      cases head
      rfl

theorem FilledAll.bytes_applyAll (filled : FilledAll policy number index ps args slots es)
    (whole : ∀ x ∈ ValueArgument.ofArguments index ps args, x.param.type.CopiesWhole)
    (apart : ∀ i, index ≤ i → b ≠ .argument number i) (s : Store) :
    (s.applyAll es).bytes b = s.bytes b := by
  induction filled generalizing s with
  | nil => rfl
  | cons head _ ih =>
    obtain ⟨first, rest⟩ := ValueArgument.forall_mem_cons whole
    rw [Store.applyAll_append, ih rest fun i later ↦ apart i (by omega)]
    exact head.bytes_applyAll first (apart _ (Nat.le_refl _)) s

private theorem FilledAll.held_earlier (filled : FilledAll policy number index ps args slots es)
    (whole : ∀ x ∈ ValueArgument.ofArguments index ps args, x.param.type.CopiesWhole) {i : Nat}
    (earlier : i < index) {t : ScriptType} (room : t.shape.size ≤ t.layout.size) (s : Store) :
    (s.applyAll es).held ⟨t, t.place (.argument number i)⟩ =
      s.held ⟨t, t.place (.argument number i)⟩ := by
  refine Store.read_place_congr room fun _ ↦ filled.bytes_applyAll whole (fun j later same ↦ ?_) s
  obtain ⟨-, rfl⟩ := Address.argument.inj same
  exact absurd later (Nat.not_le_of_lt earlier)

theorem FilledAll.held_copied (filled : FilledAll policy number index ps args slots es)
    (whole : ∀ x ∈ ValueArgument.ofArguments index ps args, x.param.type.CopiesWhole)
    (older : ∀ x ∈ ValueArgument.ofArguments index ps args, x.source.frame? ≠ some number)
    (s : Store) {x : ValueArgument} (there : x ∈ ValueArgument.ofArguments index ps args) :
    (s.applyAll es).held (x.copied number) = s.held x.original := by
  induction filled generalizing s with
  | nil => cases there
  | @cons index p arg slot es ps args slots more head rest ih =>
    obtain ⟨first, wholes⟩ := ValueArgument.forall_mem_cons whole
    obtain ⟨-, olders⟩ := ValueArgument.forall_mem_cons older
    have later (among : x ∈ ValueArgument.ofArguments (index + 1) ps args) :
        (s.applyAll (es ++ more)).held (x.copied number) = s.held x.original := by
      have apart : x.original.address ≠ .argument number index := by
        intro own
        exact older x there (congrArg Address.frame? own)
      rw [Store.applyAll_append, ih wholes olders _ among, Store.held, Store.held, Store.read,
        Store.read, head.bytes_applyAll first apart]
    cases head with
    | object =>
      obtain rfl | among := List.mem_cons.mp there
      · have made := first _ rfl
        rw [Store.applyAll_append]
        exact (rest.held_earlier wholes (Nat.lt_succ_self index) made.room _).trans
          (Store.held_apply_copy made _ _ s)
      · exact later among
    | _ => exact later there

end Slot

/-! ## What a body puts into storage -/

namespace Deed

/-- A deed puts something into storage, where `result` is the return storage of the call. -/
inductive Puts (result : Address) : Deed → Address → Prop
  | write (a : Address) (p : Payload) : Puts result (.own (.write a p)) a
  | copy {a : Address} (given : a ≠ .null) : Puts result (.own (.setReturnObject a)) result
  | other {i : Incident} {a : Address} (changes : i.site? = some a) : Puts result (.other i) a

/-- A deed writes a payload through an address: by an operation on the call, or by code that was
given the address. -/
inductive Writes (a : Address) (p : Payload) : Deed → Prop
  | own : Writes a p (.own (.write a p))
  | other : Writes a p (.other (.effect (.write a p)))

private theorem operations_append (ds more : List Deed) :
    operations (ds ++ more) = operations ds ++ operations more :=
  List.filterMap_append

end Deed

namespace Frame

variable {f g : Frame} {op : Operation} {ds : List Deed} {i : Nat} {a storage : Address}
  {t : ScriptType} {shape : Shape} {p : Payload}

private theorem puts_of_site (f : Frame) {e : Effect} (emitted : e ∈ (f.perform op).effects)
    (site : e.site? = some a) : (Deed.own op).Puts f.resultAddress a := by
  cases emits_perform f op e emitted with
  | counting kind =>
    cases e with
    | addRef | release => cases site
    | _ => cases kind
  | warning | exception => cases site
  | ending t asked given | copy t asked given =>
    subst asked
    obtain rfl := Option.some.inj site
    exact .copy given
  | write writes =>
    subst writes
    obtain rfl := Option.some.inj site
    exact .write _ _

/-- What is changed as a body goes on, one of its deeds puts something into. -/
theorem exists_puts_of_site {incident : Incident} (there : incident ∈ f.incidents ds)
    (site : incident.site? = some a) : ∃ d ∈ ds, d.Puts f.resultAddress a := by
  induction ds generalizing f with
  | nil => cases there
  | cons d ds ih =>
    cases d with
    | own op =>
      obtain now | later := List.mem_append.mp there
      · obtain ⟨e, emitted, rfl⟩ := List.mem_map.mp now
        exact ⟨_, List.mem_cons_self, f.puts_of_site emitted site⟩
      · obtain ⟨d, among, puts⟩ := ih later
        rw [(change_perform f op).sameCall.resultAddress] at puts
        exact ⟨d, List.mem_cons_of_mem _ among, puts⟩
    | other i =>
      obtain rfl | later := List.mem_cons.mp there
      · exact ⟨_, List.mem_cons_self, .other site⟩
      · obtain ⟨d, among, puts⟩ := ih later
        exact ⟨d, List.mem_cons_of_mem _ among, puts⟩

variable {leaves : Store → Address → List Byte}

/-- An instance in the storage of a frame holds what it held, if no deed puts anything there. -/
theorem read_befallAll_incidents (room : shape.size ≤ t.layout.size)
    (own : storage.frame?.isSome = true)
    (still : t.layout.size ≠ 0 → ∀ d ∈ ds, ¬d.Puts f.resultAddress storage) (s : Store) :
    (s.befallAllLeaving leaves (f.incidents ds)).read (t.place storage) shape =
      s.read (t.place storage) shape := by
  refine Store.read_place_congr room fun size ↦ ?_
  refine Store.bytes_befallAllLeaving_of_ne own (fun i there site ↦ ?_) s
  obtain ⟨d, among, puts⟩ := exists_puts_of_site there site
  exact still size d among puts

/-- The frame after some deeds. -/
def after (f : Frame) (ds : List Deed) : Frame := (f.run (Deed.operations ds)).frame

theorem sameCall_after (f : Frame) (ds : List Deed) : f.SameCall (f.after ds) := sameCall_run f _

theorem after_append (f : Frame) (ds more : List Deed) :
    f.after (ds ++ more) = (f.after ds).after more := by
  rw [after, Deed.operations_append, frame_run_append]
  rfl

private theorem incidents_append (f : Frame) (ds more : List Deed) :
    f.incidents (ds ++ more) = f.incidents ds ++ (f.after ds).incidents more := by
  induction ds generalizing f with
  | nil => rfl
  | cons d ds ih =>
    cases d with
    | own op =>
      rw [List.cons_append, incidents, incidents, ih, List.append_assoc]
      rfl
    | other i =>
      rw [List.cons_append, incidents, incidents, ih]
      rfl

/-- An instance in the storage of a frame holds what the last deed that puts anything there puts. -/
theorem read_after_last (room : shape.size ≤ t.layout.size) (own : storage.frame?.isSome = true)
    (before : List Deed) (d : Deed) {later : List Deed}
    (still : t.layout.size ≠ 0 → ∀ d' ∈ later, ¬d'.Puts f.resultAddress storage) (s : Store) :
    (s.befallAllLeaving leaves (f.incidents (before ++ d :: later))).read (t.place storage) shape =
      ((s.befallAllLeaving leaves (f.incidents before)).befallAllLeaving leaves
        ((f.after before).incidents [d])).read (t.place storage) shape := by
  have split : before ++ d :: later = (before ++ [d]) ++ later := by simp
  have same := (f.sameCall_after (before ++ [d])).resultAddress
  rw [split, incidents_append, Store.befallAllLeaving_append,
    read_befallAll_incidents room own (same.symm ▸ still), incidents_append,
    Store.befallAllLeaving_append]

private theorem Change.slots_of_kept {slot : Slot} (change : f.Change op g)
    (there : f.slots[i]? = some slot)
    (kept : slot.slotKind = .object ∨ slot.slotKind = .reference) : g.slots[i]? = some slot := by
  have apart {j : Nat} {old new : Slot} (hold : f.slots[j]? = some old)
      (other : old.slotKind ≠ .object ∧ old.slotKind ≠ .reference) :
      (f.setSlot j new).slots[i]? = some slot := by
    have different : j ≠ i := by
      rintro rfl
      obtain rfl := Option.some.inj (hold.symm.trans there)
      exact kept.elim other.1 other.2
    rw [setSlot, List.getElem?_set_ne different]
    exact there
  cases change with
  | nothing | raise | result => exact there
  | claim old | value old | target old =>
    exact apart old ⟨SlotKind.noConfusion, SlotKind.noConfusion⟩

theorem slots_after_of_kept {slot : Slot} (there : f.slots[i]? = some slot)
    (kept : slot.slotKind = .object ∨ slot.slotKind = .reference) (ds : List Deed) :
    (f.after ds).slots[i]? = some slot :=
  run_induction (P := fun g ↦ g.slots[i]? = some slot)
    (fun g op there ↦ (change_perform g op).slots_of_kept there kept) there _

theorem perform_write_of_outside (given : a ≠ .null) (outside : a.frame? ≠ some f.number)
    (p : Payload) : f.perform (.write a p) = .done .done f [.write a p] := by
  have written : f.writeRaw a p = (f, [.write a p]) := by
    cases a with
    | null => exact absurd rfl given
    | argument number index => exact if_neg fun same ↦ outside (congrArg some same)
    | result number => exact if_neg fun same ↦ outside (congrArg some same)
    | _ => rfl
  rw [perform, written]

/-- What is written through the address of an instance goes to the store, if what is written to its
storage does. -/
private theorem perform_write_of_place (given : storage ≠ .null)
    (written : f.writeRaw storage p = (f, [.write storage p])) :
    f.perform (.write (t.place storage) p) = .done .done f [.write (t.place storage) p] := by
  by_cases size : t.layout.size = 0
  · refine perform_write_of_outside (t.place_ne_null given) ?_ p
    rw [t.place_of_size_eq_zero size, Address.ofWord]
    split <;> exact (Option.some_ne_none _).symm
  · rw [t.place_of_size_ne_zero size, perform, written]

theorem perform_write_of_object
    (there : f.slots[i]? = some (.object ⟨t, t.place (f.slotAddress i)⟩)) (p : Payload) :
    f.perform (.write (t.place (f.slotAddress i)) p) =
      .done .done f [.write (t.place (f.slotAddress i)) p] := by
  refine perform_write_of_place Address.noConfusion ?_
  simp only [slotAddress, writeRaw, there, if_true]

theorem resultAddress_of_value (returns : f.signature.returns = .value t) :
    f.resultAddress = t.place (.result f.number) := by
  rw [resultAddress, returns]

theorem perform_write_of_result {constructed : Bool} (returns : f.signature.returns = .value t)
    (result : f.result = .object constructed) (p : Payload) :
    f.perform (.write f.resultAddress p) = .done .done f [.write f.resultAddress p] := by
  rw [resultAddress_of_value returns]
  refine perform_write_of_place Address.noConfusion ?_
  simp only [writeRaw, result, if_true]

/-- A deed that writes through an address where the frame keeps nothing itself. -/
theorem befallAll_of_writes {d : Deed} (writes : d.Writes a p)
    (through : f.perform (.write a p) = .done .done f [.write a p]) (s : Store) :
    s.befallAllLeaving leaves (f.incidents [d]) = s.apply (.write a p) := by
  cases writes with
  | own =>
    rw [incidents, through]
    rfl
  | other => rfl

end Frame

end CallingConvention
