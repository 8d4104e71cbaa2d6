import CallingConvention.Proofs.OwnStorage

/-!
# Instances by value are apart

What is passed or returned by value is apart from what it was copied from. A copy of an argument
holds what its source held when the frame was built, until native code writes through the address of
the copy, and such a write changes nothing but that copy (`ValueArgument.Isolated`). What the caller
gets by value is what was put into the return storage last (`Function.HandsOver`).

All frames are numbered differently, and a source is there before the frame that copies it. So the
address of a source is not in the storage of the frame. This is all that is asked of sources, and
the same one may be given several times.
-/

namespace CallingConvention

/-! ## Copies of arguments -/

/-- What an argument by value is in a call. The call began in store `s` with frame `f`, and by now
the deeds `ds` of its body have led to frame `g` and store `s'`. All such arguments are `among`. -/
structure ValueArgument.Isolated (x : ValueArgument) (among : List ValueArgument) (s : Store)
    (f : Frame) (ds : List Deed) (g : Frame) (s' : Store) : Prop where
  /-- The argument is read as the copy, -/
  object : g.argumentObject x.index = .ok (x.copied f.number).address
  /-- and the copy is what its address gives. -/
  address : g.addressOfArgument x.index = .ok (x.copied f.number).address
  /-- The copy holds what its source held when the frame was built. -/
  unwritten : (∀ d ∈ ds, ¬d.Puts f.resultAddress (f.slotAddress x.index)) →
    s'.held (x.copied f.number) = s.held x.original
  /-- Then it holds what was written through its address last. -/
  written : ∀ (before : List Deed) (d : Deed) (later : List Deed) (p : Payload),
    ds = before ++ d :: later → d.Writes (x.copied f.number).address p →
      p.shape.size ≤ x.param.type.layout.size →
      (∀ d' ∈ later, ¬d'.Puts f.resultAddress (f.slotAddress x.index)) →
      s'.read (x.copied f.number).address p.shape = p
  /-- To write through its address does nothing else. -/
  frame : ∀ p : Payload, g.perform (.write (x.copied f.number).address p) =
    .done .done g [.write (x.copied f.number).address p]
  /-- No source changes with it, -/
  sources : ∀ p : Payload, p.shape.size ≤ x.param.type.layout.size → ∀ y ∈ among,
    (s'.apply (.write (x.copied f.number).address p)).held y.original = s'.held y.original
  /-- and no other copy, -/
  others : ∀ p : Payload, p.shape.size ≤ x.param.type.layout.size → ∀ y ∈ among, y ≠ x →
    (s'.apply (.write (x.copied f.number).address p)).held (y.copied f.number) =
      s'.held (y.copied f.number)
  /-- and not what is to be returned, -/
  result : ∀ p : Payload, p.shape.size ≤ x.param.type.layout.size → ∀ shape : Shape,
    (s'.apply (.write (x.copied f.number).address p)).read f.resultAddress shape =
      s'.read f.resultAddress shape
  /-- and nothing else. -/
  elsewhere : ∀ p : Payload, p.shape.size ≤ x.param.type.layout.size →
    ∀ a : Address, a ≠ f.slotAddress x.index →
      (s'.apply (.write (x.copied f.number).address p)).bytes a = s'.bytes a

private theorem Frame.resultAddress_ne_slotAddress (f : Frame) (i : Nat) :
    f.resultAddress ≠ f.slotAddress i := by
  unfold resultAddress
  split
  · exact ScriptType.place_ne _ rfl Address.noConfusion
  · exact Address.noConfusion

variable {leaves : Store → Address → List Byte}

/-- A copy that holds what its source held is isolated from there on. -/
theorem ValueArgument.isolated {x : ValueArgument} {among : List ValueArgument} {f : Frame}
    {s s₀ : Store} (there : x ∈ among)
    (slot : f.slots[x.index]? = some (.object (x.copied f.number)))
    (indices : ∀ y ∈ among, y ≠ x → y.index ≠ x.index)
    (whole : ∀ y ∈ among, y.param.type.CopiesWhole)
    (older : ∀ y ∈ among, y.source.frame? ≠ some f.number)
    (taken : s₀.held (x.copied f.number) = s.held x.original) (ds : List Deed) :
    x.Isolated among s f ds (f.after ds) (s₀.befallAllLeaving leaves (f.incidents ds)) := by
  have room := (whole x there).room
  have kept (ds : List Deed) : (f.after ds).slots[x.index]? = some (.object (x.copied f.number)) :=
    Frame.slots_after_of_kept slot (.inl rfl) ds
  have through (ds : List Deed) (p : Payload) :
      (f.after ds).perform (.write (x.copied f.number).address p) =
        .done .done (f.after ds) [.write (x.copied f.number).address p] := by
    have number := (f.sameCall_after ds).number
    have there := kept ds
    rw [ValueArgument.copied, ← number] at there ⊢
    exact Frame.perform_write_of_object there p
  have elsewhere (p : Payload) (fits : p.shape.size ≤ x.param.type.layout.size) (a : Address)
      (apart : a ≠ f.slotAddress x.index) (s' : Store) :
      (s'.apply (.write (x.copied f.number).address p)).bytes a = s'.bytes a :=
    Store.bytes_apply_write fits apart s'
  refine ⟨?_, ?_, fun still ↦ ?_, fun before d later p split writes fits still ↦ ?_, through ds,
    fun p fits y among ↦ ?_, fun p fits y among other ↦ ?_, fun p fits _ ↦ ?_,
    fun p fits a apart ↦ elsewhere p fits a apart _⟩
  · rw [Frame.argumentObject, Frame.slotAt_eq_ok_iff.mpr (kept ds)]
  · rw [Frame.addressOfArgument, Frame.slotAt_eq_ok_iff.mpr (kept ds)]
  · exact (Frame.read_befallAll_incidents room rfl (fun _ ↦ still) s₀).trans taken
  · subst split
    refine (Frame.read_after_last fits rfl before d (fun _ ↦ still) s₀).trans ?_
    rw [Frame.befallAll_of_writes writes (through before p)]
    exact Store.read_write_self (Store.report _ _) _ p
  · rw [Store.held, Store.held, Store.read, Store.read, elsewhere p fits]
    exact fun own ↦ older y among (congrArg Address.frame? own)
  · refine Store.read_place_congr (whole y among).room fun _ ↦ elsewhere p fits _ (fun same ↦ ?_) _
    exact indices y among other (Address.argument.inj same).2
  · rw [Store.read, Store.read, elsewhere p fits _ (f.resultAddress_ne_slotAddress _)]

/-! ## The returned instance -/

namespace Frame

variable {g : Frame} {t : ScriptType}

private theorem leave_of_value (fn : Function) (returns : g.signature.returns = .value t)
    (result : g.result = .object true) (quiet : g.exception = none) :
    fn.leave g = (.ok (.returned (.object ⟨t, g.resultAddress⟩)),
      g.teardown ++ [.log (.genericReturn fn.signature.name)]) := by
  have outcome : g.outcome = (.ok (.returned (.object ⟨t, g.resultAddress⟩)), []) := by
    rw [Frame.outcome, quiet, result, returns]
    rfl
  exact fn.leave_of_returned outcome

private theorem WellTyped.exists_leave_iff (typed : g.WellTyped)
    (returns : g.signature.returns = .value t) (fn : Function) :
    (∃ v exit, fn.leave g = (.ok (.returned v), exit)) ↔
      g.exception = none ∧ g.isOccupied = true := by
  obtain ⟨constructed, result⟩ := typed.exists_object returns
  rw [isOccupied_of_result result]
  constructor
  · rintro ⟨v, exit, left⟩
    have ends : g.Ends g.finish.1 := typed.ends_outcome
    rw [← fn.outcome_leave g, left] at ends
    cases ends with
    | returned quiet there =>
      cases constructed with
      | true => exact ⟨quiet, rfl⟩
      | false => exact absurd result there
  · rintro ⟨quiet, rfl⟩
    exact ⟨_, _, leave_of_value fn returns result quiet⟩

private theorem site?_leave {f : Frame} {fn : Function} {number : Nat} {receiver : Option Address}
    {args : List Argument} {policy : Policy}
    (built : (construct number fn.signature receiver args policy).1 = .ok f) (ds : List Deed)
    (k : Nat) : ∀ e ∈ (fn.leave (f.after ds)).2, e.site? ≠ some (.result k) := by
  obtain ⟨record, left, kind⟩ := fn.exists_leave_eq (f.after ds)
  have apart : record.site? ≠ some (.result k) := by
    obtain ⟨_, rfl⟩ | ⟨_, _, rfl⟩ := kind <;> exact (Option.some_ne_none _).symm
  rw [left]
  refine List.forall_mem_append.mpr ⟨fun e there site ↦ ?_, List.forall_mem_singleton.mpr apart⟩
  have silent := target?_finish _ e there
  cases e with
  | destruct t a =>
    obtain rfl := Option.some.inj site
    -- what ends with a frame are the copies of its arguments
    have ended : .ends ⟨t, .result k⟩ ∈ Effect.moments (f.after ds).finish.2 :=
      List.mem_filterMap.mpr ⟨_, there, rfl⟩
    rw [moments_finish, after, moments_discard_run built] at ended
    obtain ⟨x, -, ended⟩ := List.mem_flatMap.mp ended
    exact Instance.ends_notMem_endings (ScriptType.place_ne _ rfl Address.noConfusion) ended
  | _ => cases silent.symm.trans site

end Frame

namespace Function

/-- What a call in frame `g` and store `s` returns, if it does: an instance of `t` at an address
that holds a payload, and goes on holding it as long as nothing is put there. -/
def Yields (fn : Function) (leaves : Store → Address → List Byte) (g : Frame) (s : Store)
    (t : ScriptType) (a : Address) (p : Payload) : Prop :=
  ∀ v exit, fn.leave g = (.ok (.returned v), exit) → v = .object ⟨t, a⟩ ∧
    ∀ next : List Incident, (∀ i ∈ next, i.site? ≠ some a) →
      ((s.applyAllLeaving leaves exit).befallAllLeaving leaves next).read a p.shape = p

/-- What a call that returns type `t` by value hands over. The deeds `ds` of its body began with
frame `f` and store `s₀`, and they led to frame `g` and store `s'`. -/
structure HandsOver (fn : Function) (leaves : Store → Address → List Byte) (t : ScriptType)
    (s₀ : Store) (f : Frame) (ds : List Deed) (g : Frame) (s' : Store) : Prop where
  /-- The call returns if nothing was raised and there is an instance. -/
  returns : (∃ v exit, fn.leave g = (.ok (.returned v), exit)) ↔
    g.exception = none ∧ g.isOccupied = true
  /-- There is one if an object was given to be copied. -/
  occupied : ∀ a, a ≠ .null → .own (.setReturnObject a) ∈ ds → g.isOccupied = true
  /-- The caller's instance holds what an object held that was copied into the return storage
  last. -/
  copied : ∀ (before : List Deed) (a : Address) (later : List Deed), a ≠ .null →
    ds = before ++ .own (.setReturnObject a) :: later →
    (∀ d ∈ later, ¬d.Puts f.resultAddress f.resultAddress) →
    (a ≠ f.resultAddress ∨ (f.after before).isOccupied = false ∨ t.isDestructed = false) →
    fn.Yields leaves g s' t f.resultAddress
      ((s₀.befallAllLeaving leaves (f.incidents before)).held ⟨t, a⟩)
  /-- The instance that is in the return storage itself ends before it is copied, so that the
  caller's instance holds what its destructor left. -/
  own : ∀ (before later : List Deed),
    ds = before ++ .own (.setReturnObject f.resultAddress) :: later →
    (∀ d ∈ later, ¬d.Puts f.resultAddress f.resultAddress) →
    (f.after before).isOccupied = true → t.isDestructed = true →
    fn.Yields leaves g s' t f.resultAddress
      (((s₀.befallAllLeaving leaves (f.incidents before)).put f.resultAddress
        (leaves (s₀.befallAllLeaving leaves (f.incidents before)) f.resultAddress)).held
          ⟨t, f.resultAddress⟩)
  /-- It holds what was written there last. -/
  written : ∀ (before : List Deed) (d : Deed) (later : List Deed) (p : Payload),
    ds = before ++ d :: later → d.Writes f.resultAddress p → p.shape.size ≤ t.layout.size →
    (∀ d' ∈ later, ¬d'.Puts f.resultAddress f.resultAddress) →
    fn.Yields leaves g s' t f.resultAddress p

end Function

namespace Frame

variable {f g : Frame} {t : ScriptType} {shape : Shape} {p : Payload}

/-- What a returned instance holds stays as it is when the call is left, and after that as long as
nothing is put there. -/
private theorem read_after_leaving (returns : f.signature.returns = .value t)
    (room : shape.size ≤ t.layout.size) {exit : List Effect} {next : List Incident}
    (left : ∀ e ∈ exit, e.site? ≠ some (.result f.number))
    (elsewhere : ∀ i ∈ next, i.site? ≠ some f.resultAddress) (s : Store) :
    ((s.applyAllLeaving leaves exit).befallAllLeaving leaves next).read f.resultAddress shape =
      s.read f.resultAddress shape := by
  rw [resultAddress_of_value returns] at elsewhere ⊢
  refine Store.read_place_congr room fun size ↦ ?_
  rw [t.place_of_size_ne_zero size] at elsewhere
  rw [Store.bytes_befallAllLeaving_of_ne rfl elsewhere, Store.bytes_applyAllLeaving_of_ne left]

theorem WellTyped.yields (typed : g.WellTyped) (same : f.SameCall g)
    (returns : f.signature.returns = .value t) {fn : Function}
    (leaving : ∀ e ∈ (fn.leave g).2, e.site? ≠ some (.result f.number)) {s : Store}
    (room : p.shape.size ≤ t.layout.size) (there : s.read f.resultAddress p.shape = p) :
    fn.Yields leaves g s t f.resultAddress p := by
  intro v exit left
  have declared : g.signature.returns = .value t := same.signature ▸ returns
  obtain ⟨quiet, occupied⟩ := (typed.exists_leave_iff declared fn).mp ⟨v, exit, left⟩
  have handed := leave_of_value fn declared (eq_of_beq occupied) quiet
  rw [left] at leaving
  rw [left, same.resultAddress] at handed
  refine ⟨by cases handed; rfl, fun next elsewhere ↦ ?_⟩
  exact (read_after_leaving returns room leaving elsewhere s).trans there

/-- An object that is given to be returned is copied as it is once the return storage is vacant. -/
private theorem held_setReturnObject {constructed : Bool} (returns : g.signature.returns = .value t)
    (result : g.result = .object constructed) (whole : t.CopiesWhole) {a : Address}
    (given : a ≠ .null) (leaves : Store → Address → List Byte) (s : Store) :
    (s.befallAllLeaving leaves (g.incidents [.own (.setReturnObject a)])).held
        ⟨t, g.resultAddress⟩ = (g.vacated leaves t s).held ⟨t, a⟩ := by
  obtain ⟨hook, copied, shape⟩ := whole.copies
  rw [incidents, incidents, List.append_nil, Store.befallAllLeaving_effects, perform,
    Reaction.effects_map, Store.held, Store.held, ← shape]
  exact read_setReturnObject returns result copied given leaves s

private theorem read_result_after_last (returns : f.signature.returns = .value t)
    (room : shape.size ≤ t.layout.size) (before : List Deed) (d : Deed) {later : List Deed}
    (still : ∀ d' ∈ later, ¬d'.Puts f.resultAddress f.resultAddress) (s : Store) :
    (s.befallAllLeaving leaves (f.incidents (before ++ d :: later))).read f.resultAddress shape =
      ((s.befallAllLeaving leaves (f.incidents before)).befallAllLeaving leaves
        ((f.after before).incidents [d])).read f.resultAddress shape := by
  have place := resultAddress_of_value returns
  rw [place]
  refine read_after_last room rfl before d (fun size ↦ ?_) s
  rw [place, t.place_of_size_ne_zero size] at still ⊢
  exact still

private theorem WellTyped.isOccupied_after (typed : f.WellTyped)
    (returns : f.signature.returns = .value t) (whole : t.CopiesWhole) {a : Address}
    (given : a ≠ .null) {ds : List Deed}
    (asked : .own (.setReturnObject a) ∈ ds) : (f.after ds).isOccupied = true := by
  obtain ⟨before, later, rfl⟩ := List.append_of_mem asked
  have typed_before : (f.after before).WellTyped := typed.run _
  have declared : (f.after before).signature.returns = .value t :=
    (f.sameCall_after before).signature ▸ returns
  obtain ⟨constructed, result⟩ := typed_before.exists_object declared
  have there : ((f.after before).perform (.setReturnObject a)).frame.isOccupied = true := by
    rw [Frame.perform, setReturnObject_of_value declared result whole.isSome_copy given]
    rfl
  have same := (change_perform (f.after before) (.setReturnObject a)).sameCall.signature
  have kept := (typed_before.perform (.setReturnObject a)).isOccupied_run (same ▸ declared)
    (Deed.operations later)
  rw [after_append]
  exact kept.mpr (.inl there)

/-- A call hands over what was put into its return storage last. -/
theorem WellTyped.handsOver (typed : f.WellTyped) (returns : f.signature.returns = .value t)
    (whole : t.CopiesWhole) {fn : Function} {ds : List Deed}
    (leaving : ∀ e ∈ (fn.leave (f.after ds)).2, e.site? ≠ some (.result f.number)) (s₀ : Store) :
    fn.HandsOver leaves t s₀ f ds (f.after ds) (s₀.befallAllLeaving leaves (f.incidents ds)) := by
  have typed_after (ds : List Deed) : (f.after ds).WellTyped := typed.run _
  have declared (ds : List Deed) : (f.after ds).signature.returns = .value t :=
    (f.sameCall_after ds).signature ▸ returns
  have address (ds : List Deed) : (f.after ds).resultAddress = f.resultAddress :=
    (f.sameCall_after ds).resultAddress
  have yields {p : Payload} (room : p.shape.size ≤ t.layout.size)
      (there : (s₀.befallAllLeaving leaves (f.incidents ds)).read f.resultAddress p.shape = p) :
      fn.Yields leaves (f.after ds) (s₀.befallAllLeaving leaves (f.incidents ds)) t
        f.resultAddress p :=
    (typed_after ds).yields (f.sameCall_after ds) returns leaving room there
  -- a copy that nothing was put over holds what there was to copy
  have yields_copy (before : List Deed) {a : Address} {later : List Deed} (given : a ≠ .null)
      (split : ds = before ++ .own (.setReturnObject a) :: later)
      (still : ∀ d ∈ later, ¬d.Puts f.resultAddress f.resultAddress) :
      fn.Yields leaves (f.after ds) (s₀.befallAllLeaving leaves (f.incidents ds)) t f.resultAddress
        (((f.after before).vacated leaves t
          (s₀.befallAllLeaving leaves (f.incidents before))).held ⟨t, a⟩) := by
    obtain ⟨constructed, result⟩ := (typed_after before).exists_object (declared before)
    have copied := held_setReturnObject (declared before) result whole given leaves
      (s₀.befallAllLeaving leaves (f.incidents before))
    rw [address] at copied
    refine yields (Store.shape_held _ _ ▸ whole.room) ?_
    rw [Store.shape_held, split]
    exact (read_result_after_last returns whole.room before _ still s₀).trans copied
  refine ⟨(typed_after ds).exists_leave_iff (declared ds) fn,
    fun a given asked ↦ typed.isOccupied_after returns whole given asked,
    fun before a later given split still apart ↦ ?_, fun before later split still full ended ↦ ?_,
    fun before d later p split writes fits still ↦ ?_⟩
  · have kept := bytes_vacated (address before ▸ apart) leaves
      (s₀.befallAllLeaving leaves (f.incidents before))
    have handed := yields_copy before given split still
    rwa [Store.held, Store.read, kept] at handed
  · have given : f.resultAddress ≠ .null := by
      rw [resultAddress_of_value returns]
      exact t.place_ne_null Address.noConfusion
    have left := bytes_vacated_resultAddress full ended leaves
      (s₀.befallAllLeaving leaves (f.incidents before))
    have handed := yields_copy before given split still
    rw [address] at left
    rwa [Store.held, Store.read, left] at handed
  · obtain ⟨constructed, result⟩ := (typed_after before).exists_object (declared before)
    have through := perform_write_of_result (declared before) result p
    rw [address] at through
    refine yields fits ?_
    rw [split, read_result_after_last returns fits before _ still,
      befallAll_of_writes writes through]
    exact Store.read_write_self (Store.report _ _) _ p

end Frame

/-! ## Isolation -/

namespace Function

variable {fn : Function} {number : Nat} {receiver : Option Address} {args : List Argument}
  {f : Frame} {effects : List Effect}

/-- **Isolation.** The copies of a call's arguments are isolated from their sources, from each other
and from the returned instance, and what it returns is what was put into its return storage last.
What destructors leave in storage does not matter, unless that is returned itself. -/
theorem instances_are_isolated (entered : fn.enter number receiver args = (.ok f, effects))
    (whole : ∀ x ∈ ValueArgument.ofArguments 0 fn.signature.params args,
      x.param.type.CopiesWhole)
    (older : ∀ x ∈ ValueArgument.ofArguments 0 fn.signature.params args,
      x.source.frame? ≠ some number)
    (leaves : Store → Address → List Byte) (s : Store) (ds : List Deed) :
    (∀ x ∈ ValueArgument.ofArguments 0 fn.signature.params args,
      x.Isolated (ValueArgument.ofArguments 0 fn.signature.params args) s f ds (f.after ds)
        ((s.applyAllLeaving leaves effects).befallAllLeaving leaves (f.incidents ds))) ∧
      (∀ (i : Nat) (a : Address), args[i]? = some (.reference a) →
        (f.after ds).addressOfArgument i = .ok a ∧
          (a ≠ .null → a.frame? ≠ some number → ∀ p : Payload,
            (f.after ds).perform (.write a p) = .done .done (f.after ds) [.write a p] ∧
              (((s.applyAllLeaving leaves effects).befallAllLeaving leaves
                (f.incidents ds)).apply (.write a p)).read a p.shape = p)) ∧
      ∀ t : ScriptType, fn.signature.returns = .value t → t.CopiesWhole →
        fn.HandsOver leaves t (s.applyAllLeaving leaves effects) f ds (f.after ds)
          ((s.applyAllLeaving leaves effects).befallAllLeaving leaves (f.incidents ds)) := by
  obtain ⟨built, rfl⟩ := construct_of_enter entered
  have typed := Frame.wellTyped_of_construct built
  obtain ⟨slots, es, filled, frame, entry⟩ := Frame.exists_filledAll_of_construct built
  obtain ⟨rfl, signature, -, -⟩ := facts_of_enter entered
  have stored : f.slots = slots := by rw [frame]
  refine ⟨fun x there ↦ ?_, fun i a given ↦ ⟨?_, fun ne outside p ↦ ⟨?_, ?_⟩⟩,
    fun t returns copies ↦
      typed.handsOver (signature ▸ returns) copies (Frame.site?_leave built ds _) _⟩
  · obtain ⟨i, index, -, -, slot⟩ := filled.slot_of_mem there
    obtain rfl : x.index = i := index.trans (Nat.zero_add i)
    refine ValueArgument.isolated there (stored ▸ slot) (fun y among other same ↦ ?_) whole older
      ?_ ds
    · exact other (filled.eq_of_index there among same)
    · -- the entries in the log and in the statistics hold nothing
      rw [entry, Store.applyAllLeaving_append, Store.applyAllLeaving_append,
        Store.applyAllLeaving_eq filled.endless]
      exact filled.held_copied whole older s there
  · have slot : f.slots[i]? = some (.reference a) := stored ▸ filled.slot_of_reference given
    have kept := Frame.slots_after_of_kept slot (.inr rfl) ds
    rw [Frame.addressOfArgument, Frame.slotAt_eq_ok_iff.mpr kept]
  · refine Frame.perform_write_of_outside ne ?_ p
    rw [(f.sameCall_after ds).number]
    exact outside
  · exact Store.read_write_self (Store.report _ _) a p

open CallingConvention.Frame (badge)

/-- `Badge mix(Badge, Badge)`. -/
def mix : Function :=
  .ofSignature ⟨"mix", none, [⟨badge, .byValue⟩, ⟨badge, .byValue⟩], .value badge⟩

/-- A call of `mix` that is given the same badge twice. -/
def mixing : Frame where
  number := 0
  signature := mix.signature
  receiver := .null
  slots := [.object ⟨badge, .argument 0 0⟩, .object ⟨badge, .argument 0 1⟩]
  result := .object false
  policy := .strict
  exception := none

/-- Native code changes the first copy and the badge of the caller. -/
def changing : List Deed :=
  [.own (.write (.argument 0 0) (.word 1)), .own (.write (.region 0) (.word 2))]

/-- Then it returns the first copy and changes it again. -/
def mixed : List Deed :=
  changing ++ [.own (.setReturnObject (.argument 0 0)), .own (.write (.argument 0 0) (.word 3))]

/-- The second copy is still what the badge was, and what is returned is what the first copy was
when it was given. -/
theorem instances_are_isolated_mixing :
    ∃ effects, mix.enter 0 none [.object (.region 0), .object (.region 0)] = (.ok mixing, effects) ∧
      ∀ leaves (s s' : Store), s.read (.region 0) .word = .word 7 →
        s' = (s.applyAllLeaving leaves effects).befallAllLeaving leaves (mixing.incidents mixed) →
          s'.read (.argument 0 1) .word = .word 7 ∧ s'.read (.argument 0 0) .word = .word 3 ∧
            mix.Yields leaves (mixing.after mixed) s' badge (.result 0) (.word 1) := by
  have entered : mix.enter 0 none [.object (.region 0), .object (.region 0)] =
      (.ok mixing, (mix.enter 0 none [.object (.region 0), .object (.region 0)]).2) := rfl
  have whole : badge.CopiesWhole := ⟨⟨_, rfl, rfl⟩, by decide⟩
  have given : ValueArgument.ofArguments 0 mix.signature.params
      [.object (.region 0), .object (.region 0)] =
        [⟨0, ⟨badge, .byValue⟩, .region 0⟩, ⟨1, ⟨badge, .byValue⟩, .region 0⟩] := rfl
  refine ⟨_, entered, fun leaves s s' seven after ↦ ?_⟩
  subst after
  have isolation := instances_are_isolated entered (by simpa [given] using whole)
    (by rw [given]; decide) leaves s
  rw [given] at isolation
  obtain ⟨isolated, -, hands⟩ := isolation mixed
  obtain ⟨early, -, -⟩ := isolation changing
  have elsewhere : ∀ d ∈ mixed, ¬d.Puts (.result 0) (.argument 0 1) := by
    simp only [mixed, changing, List.cons_append, List.nil_append, List.forall_mem_cons]
    refine ⟨?_, ?_, ?_, ?_, List.forall_mem_nil _⟩ <;> rintro ⟨⟩
  have one := (early _ List.mem_cons_self).written [] _
    [.own (.write (.region 0) (.word 2))] (.word 1) rfl .own (by decide)
    (List.forall_mem_singleton.mpr (by rintro ⟨⟩))
  have three := (isolated _ List.mem_cons_self).written
    (changing ++ [.own (.setReturnObject (.argument 0 0))]) _ [] (.word 3) rfl .own (by decide)
    (List.forall_mem_nil _)
  have returned := (hands badge rfl whole).copied changing (.argument 0 0)
    [.own (.write (.argument 0 0) (.word 3))] Address.noConfusion rfl
    (List.forall_mem_singleton.mpr fun puts ↦ by
      cases (puts : Deed.Puts (.result 0) _ (.result 0)))
    (.inl Address.noConfusion)
  refine ⟨?_, three, one ▸ returned⟩
  exact ((isolated _ (List.mem_cons_of_mem _ List.mem_cons_self)).unwritten elsewhere).trans seven

end Function

end CallingConvention
