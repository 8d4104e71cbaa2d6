import CallingConvention.Proofs.ReferenceArgument
import CallingConvention.Session.World

/-!
# Who owns an output

An out cell is storage that its owner lends to calls, again and again, and takes handles out of in
between (`OutCell.Use`). While it is used, other addresses may be written over what it holds, by the
native code of calls or by anybody else who knows where it is. The frames of the calls have no part
in this (`Function.ignoresTargets`, `Function.leavesCell`).

So the cell, or who took a handle out of it, is the one owner of what came to be in it. Of a cell of
a reference type this is a ledger (`OutCell.History.Balanced`): every address that was put into it
was taken out as one handle, was lost when another one was written over it, or is still there, and
then it is released when the cell is dropped. A cell of a value type begins one instance, when it is
made, and ends it when it is dropped.
-/

namespace CallingConvention

/-! ## Types whose storage is read as it is written -/

/-- Whether storage of a type is read in the shape in which new storage is written. -/
def ScriptType.IsLaidOut (t : ScriptType) : Prop :=
  match t.category with
  | .primitive k => t.shape = .value k
  | .value => ∀ hook, t.behaviours.construct = some hook → hook.initial.shape = t.shape
  | .reference => t.shape = .address

theorem Session.isLaidOut_make {name : String} {spec : TypeSpec} {t : ScriptType}
    (made : spec.make name = .ok t) : t.IsLaidOut := by
  cases spec with
  | primitive k =>
    cases made
    rfl
  | counted =>
    cases made
    rfl
  | reference hooks =>
    cases made
    rfl
  -- the hooks of a sample write the shape that its type declares
  | sample s =>
    cases made
    cases s <;>
    · intro hook there
      cases there
      rfl
  | value size align hooks =>
    rw [TypeSpec.make] at made
    cases layout : Layout.ofSizeAlign? size align with
    | none => simp only [layout, reduceCtorEq] at made
    | some layout' =>
      simp only [layout, Except.ok.injEq] at made
      subst made
      intro hook there
      simp only [HookNames.behaviours] at there
      split at there
      · cases there
        rfl
      · cases there

namespace OutCell

/-! ## New cells -/

/-- What a new cell of a type holds, if there can be one. -/
def default? (t : ScriptType) : Option Payload :=
  match t.category with
  | .primitive k => some (.value (Value.zero k))
  | .value => t.behaviours.construct.map ConstructHook.initial
  | .reference => some (.address .null)

/-- What a cell holds. -/
def held (c : OutCell) (s : Store) : Payload := s.read c.address c.type.shape

/-- Where the cell of a type is that was given the storage at an address. -/
def home (t : ScriptType) (a : Address) : Address :=
  match t.category with
  | .value => t.place a
  | _ => a

/-- What is done to make a cell. -/
def opening (t : ScriptType) (a : Address) : Effect :=
  match t.category with
  | .primitive k => .write a (.value (Value.zero k))
  | .value => .construct t (t.place a)
  | .reference => .write a (.address .null)

private theorem make_eq (t : ScriptType) (a : Address) :
    make t a =
      if (default? t).isSome then .ok (⟨t, home t a⟩, [opening t a])
      else .error (t.missing "default constructor") := by
  unfold make default? home opening ScriptType.construct
  cases t.category with
  | value => cases t.behaviours.construct <;> rfl
  | _ => rfl

variable {t : ScriptType} {a : Address} {c : OutCell} {es : List Effect}

private theorem of_make (made : make t a = .ok (c, es)) :
    c = ⟨t, home t a⟩ ∧ es = [opening t a] ∧ (default? t).isSome = true := by
  rw [make_eq] at made
  split at made
  · next possible =>
    cases made
    exact ⟨rfl, rfl, possible⟩
  · cases made

private theorem default?_eq_none_iff :
    default? t = none ↔ t.category = .value ∧ t.behaviours.construct = none := by
  unfold default?
  cases t.category <;> simp

theorem exists_make_eq_error_iff :
    (∃ e, make t a = .error e) ↔ t.category = .value ∧ t.behaviours.construct = none := by
  rw [← default?_eq_none_iff, make_eq]
  cases default? t <;> simp

theorem held_make (laidOut : t.IsLaidOut) (made : make t a = .ok (c, es)) (s : Store) :
    default? t = some (c.held (s.applyAll es)) := by
  obtain ⟨rfl, rfl, possible⟩ := of_make made
  have written (s : Store) (b : Address) (p : Payload) (shape : p.shape = t.shape) :
      (s.write b p).read b t.shape = p := shape ▸ s.read_write_self b p
  unfold ScriptType.IsLaidOut at laidOut
  unfold default? at possible ⊢
  unfold held home opening
  cases category : t.category with
  | primitive k =>
    rw [category] at laidOut
    have shape : (Payload.value (Value.zero k)).shape = t.shape := by
      rw [Payload.shape, Value.kind_zero]
      exact laidOut.symm
    exact congrArg some (written (s.report _) a _ shape).symm
  | value =>
    -- the default constructor is there, as the cell was made
    rw [category] at laidOut possible
    obtain ⟨hook, there⟩ : ∃ hook, t.behaviours.construct = some hook := by
      rw [Option.isSome_map] at possible
      exact Option.isSome_iff_exists.mp possible
    simp only [Store.applyAll_cons, Store.applyAll_nil, Store.apply, there, Option.map_some]
    exact congrArg some (written (s.report _) _ _ (laidOut hook there)).symm
  | reference =>
    rw [category] at laidOut
    exact congrArg some (written (s.report _) a (.address .null) laidOut.symm).symm

end OutCell

/-! ## What is written to a cell -/

/-- The storage that an incident writes to. -/
def Incident.target? (i : Incident) : Option Address := i.effect?.bind Effect.target?

/-- Storage that an incident does not write to holds what it held, unless it may be new: objects and
regions are made with what they hold. -/
theorem Store.bytes_befall_of_ne {i : Incident} {a : Address} (elsewhere : i.target? ≠ some a)
    (object : ∀ n, a ≠ .object n) (region : ∀ n, a ≠ .region n) (s : Store) :
    (s.befall i).bytes a = s.bytes a := by
  cases i with
  | effect e => exact bytes_apply_of_ne elsewhere
  | newObject name t value =>
    exact bytes_put_of_ne { s with objects := s.objects ++ [⟨name, t⟩] } value.bytes (object _)
  | newRegion p =>
    exact bytes_put_of_ne { s with regions := s.regions + 1 } p.bytes (region _)
  | _ => rfl

/-! ## Handles of one type -/

private theorem ScriptType.count_release {t : ScriptType}
    (counted : t.behaviours.release.isSome = true) (a : Address) {b : Address} (given : b ≠ .null) :
    (t.release a).count (.release t b) = [a].count b := by
  have hook : t.behaviours.release.isNone = false := by
    rw [Option.isNone_eq_false_iff]
    exact counted
  rw [release, hook, Bool.or_false]
  split
  · next null =>
    rw [Address.isNull_iff.mp null, Address.count_null given]
    rfl
  · simp only [List.count_singleton, beq_iff_eq, Effect.release.injEq, true_and]

namespace Handle

private theorem ne_null_of_adopt? {t : ScriptType} {a : Address} {h : Handle}
    (adopted : adopt? t a = some h) : h.address ≠ .null := by
  unfold adopt? at adopted
  split at adopted
  · cases adopted
  · next given =>
    obtain rfl := Option.some.inj adopted
    exact mt Address.isNull_iff.mpr given

private theorem count_flatMap_drop {t : ScriptType} (counted : t.behaviours.release.isSome = true)
    {b : Address} (given : b ≠ .null) {hs : List Handle} (typed : ∀ h ∈ hs, h.type = t) :
    (hs.flatMap drop).count (.release t b) = (hs.map address).count b := by
  induction hs with
  | nil => rfl
  | cons h hs ih =>
    obtain ⟨rfl, typed⟩ := List.forall_mem_cons.mp typed
    have first := ScriptType.count_release counted h.address given
    rw [List.flatMap_cons, List.count_append, ih typed, drop, first]
    exact List.count_append.symm

end Handle

namespace OutCell

/-- What happens to a cell, or around it: a call, which may have its address and do with it what it
likes, anything else, a read, or a handle taken out. -/
inductive Use where
  | call (fn : Function) (receiver : Option Address) (args : List Argument) (body : List Deed)
  | other (i : Incident)
  | read (k : Kind)
  | take

/-- What a cell has seen. -/
structure History where
  /-- The store by now. -/
  store : Store
  /-- What the cell did there itself. -/
  own : List Effect
  /-- The handles that were taken out. -/
  handles : List Handle
  /-- The addresses that were put in. -/
  put : List Address
  /-- Those of them that others were written over. -/
  overwritten : List Address

/-- A cell that was just made. -/
def History.start (s : Store) (es : List Effect) : History := ⟨s.applyAll es, es, [], [], []⟩

variable (c : OutCell)

/-- The history after something happened to the store. -/
def befall (H : History) (i : Incident) : History :=
  let store := H.store.befall i
  if i.target? = some c.address then
    { H with
      store
      put := (c.held store).target :: H.put
      overwritten := (c.held H.store).target :: H.overwritten }
  else { H with store }

/-- The history after one use. -/
def after (H : History) : Use → History
  | .call fn receiver args body =>
    (fn.incidents H.store.newFrame.1 receiver args body).foldl c.befall H
  | .other i => c.befall H i
  | .read _ => H
  | .take =>
    let (h?, effects) := c.take (c.held H.store)
    { H with
      store := H.store.applyAll effects
      own := H.own ++ effects
      handles := h?.toList ++ H.handles }

/-- The history after uses in order. -/
def run (H : History) (us : List Use) : History := us.foldl c.after H

private theorem store_befall (H : History) (i : Incident) :
    (c.befall H i).store = H.store.befall i := by
  unfold befall
  split <;> rfl

theorem store_call (H : History) (fn : Function) (receiver : Option Address)
    (args : List Argument) (body : List Deed) :
    (c.after H (.call fn receiver args body)).store =
      (fn.invoke (Deed.native body) receiver args H.store).2 := by
  have folded (is : List Incident) : (is.foldl c.befall H).store = H.store.befallAll is := by
    induction is generalizing H with
    | nil => rfl
    | cons i is ih => rw [List.foldl_cons, ih, store_befall, Store.befallAll_cons]
  rw [Function.invoke_native, ← folded]
  rfl

/-- What is kept by everything that happens to the store and by taking is kept by every use. -/
theorem run_induction {P : History → Prop} (befallen : ∀ H i, P H → P (c.befall H i))
    (taken : ∀ H, P H → P (c.after H .take)) {H : History} (h : P H) (us : List Use) :
    P (c.run H us) := by
  -- a call is the incidents in it, one after another
  have folded (is : List Incident) : ∀ H, P H → P (is.foldl c.befall H) := by
    induction is with
    | nil => exact fun _ h ↦ h
    | cons i is ih => exact fun H h ↦ ih _ (befallen H i h)
  induction us generalizing H with
  | nil => exact h
  | cons u us ih =>
    cases u with
    | call fn receiver args body => exact ih (folded _ H h)
    | other i => exact ih (befallen H i h)
    | read k => exact ih h
    | take => exact ih (taken H h)

variable {c}

/-! ### Cells of reference types -/

private theorem take_of_reference (category : c.type.category = .reference) (p : Payload) :
    c.take p = (Handle.adopt? c.type p.target, [.write c.address (.address .null)]) := by
  rw [take, category]

private theorem drop_of_reference (category : c.type.category = .reference) (p : Payload) :
    c.drop p = c.type.release p.target := by
  rw [drop, category]

private theorem after_take (category : c.type.category = .reference) (H : History) :
    c.after H .take =
      ⟨H.store.applyAll [.write c.address (.address .null)],
        H.own ++ [.write c.address (.address .null)],
        (Handle.adopt? c.type (c.held H.store).target).toList ++ H.handles, H.put,
        H.overwritten⟩ := by
  rw [after, take_of_reference category]

private theorem held_after_take (category : c.type.category = .reference)
    (laidOut : c.type.IsLaidOut) (H : History) :
    c.held (c.after H .take).store = .address .null := by
  have shape : c.type.shape = .address := by
    rw [ScriptType.IsLaidOut, category] at laidOut
    exact laidOut
  rw [after_take category, held, shape]
  exact (H.store.report _).read_write_self c.address (.address .null)

/-- The ledger of a cell of a reference type. -/
structure History.Balanced (c : OutCell) (H : History) : Prop where
  /-- What was taken out are handles of that type. -/
  handles : ∀ h ∈ H.handles, h.type = c.type ∧ h.address ≠ .null
  /-- What was put in was taken out, was overwritten or is still there. -/
  ledger : ∀ b, b ≠ .null → H.put.count b =
    (H.handles.map Handle.address).count b + H.overwritten.count b
      + [(c.held H.store).target].count b

namespace History.Balanced

variable {H : History}

theorem befall {k : Nat} (cell : c.address = .cell k) (h : H.Balanced c) (i : Incident) :
    (c.befall H i).Balanced c := by
  by_cases writes : i.target? = some c.address
  · -- what was there is overwritten, and what is there now was put in
    rw [OutCell.befall, if_pos writes]
    refine ⟨h.handles, fun b given ↦ ?_⟩
    have before := h.ledger b given
    simp only [List.count_cons, List.count_nil] at before ⊢
    omega
  · have same : c.held (H.store.befall i) = c.held H.store := by
      rw [cell] at writes
      rw [held, held, Store.read, Store.read, cell, Store.bytes_befall_of_ne writes
        (fun _ ↦ Address.noConfusion) fun _ ↦ Address.noConfusion]
    rw [OutCell.befall, if_neg writes]
    refine ⟨h.handles, fun b given ↦ ?_⟩
    rw [same]
    exact h.ledger b given

theorem take (category : c.type.category = .reference) (laidOut : c.type.IsLaidOut)
    (h : H.Balanced c) : (c.after H .take).Balanced c := by
  have emptied := held_after_take category laidOut H
  rw [after_take category] at emptied ⊢
  dsimp only at emptied
  refine ⟨List.forall_mem_append.mpr ⟨fun g there ↦ ?_, h.handles⟩, fun b given ↦ ?_⟩
  · have adopted := Option.mem_toList.mp there
    exact ⟨Handle.type_of_adopt? adopted, Handle.ne_null_of_adopt? adopted⟩
  · have before := h.ledger b given
    have out := Handle.count_adopt?_of_ne_null c.type (c.held H.store).target given
    dsimp only
    rw [emptied, Payload.target, Address.count_null given, List.map_append, List.count_append, out]
    omega

end History.Balanced

/-! ### All cells -/

private theorem own_befall (H : History) (i : Incident) : (c.befall H i).own = H.own := by
  unfold befall
  split <;> rfl

private theorem handles_befall (H : History) (i : Incident) :
    (c.befall H i).handles = H.handles := by
  unfold befall
  split <;> rfl

private theorem after_take_of_not_reference (other : c.type.category ≠ .reference) (H : History) :
    c.after H .take = H := by
  have nothing : c.take (c.held H.store) = (none, []) := by
    rw [take]
    split
    · next category => exact absurd category other
    · rfl
  rw [after, nothing]
  simp only [Store.applyAll_nil, List.append_nil, Option.toList_none, List.nil_append]

theorem run_of_not_reference (other : c.type.category ≠ .reference) (H : History)
    (us : List Use) : (c.run H us).own = H.own ∧ (c.run H us).handles = H.handles := by
  refine c.run_induction (P := fun G ↦ G.own = H.own ∧ G.handles = H.handles)
    (fun G i h ↦ ?_) (fun G h ↦ ?_) ⟨rfl, rfl⟩ us
  · rw [own_befall, handles_befall]
    exact h
  · rw [after_take_of_not_reference other]
    exact h

/-- While it is used, a cell takes no reference, gives up none and ends no instance. -/
private theorem isUpkeep_own_run {H : History} (h : ∀ e ∈ H.own, e.isUpkeep = false)
    (us : List Use) : ∀ e ∈ (c.run H us).own, e.isUpkeep = false := by
  refine c.run_induction (P := fun G ↦ ∀ e ∈ G.own, e.isUpkeep = false)
    (fun G i h ↦ ?_) (fun G h ↦ ?_) h us
  · rw [own_befall]
    exact h
  · by_cases category : c.type.category = .reference
    · rw [after_take category]
      exact List.forall_mem_append.mpr ⟨h, List.forall_mem_singleton.mpr rfl⟩
    · rw [after_take_of_not_reference category]
      exact h

private theorem isUpkeep_drop (p : Payload) : ∀ e ∈ c.drop p, e.isUpkeep = true := by
  unfold drop
  split
  · exact List.forall_mem_nil _
  · exact c.type.isUpkeep_destruct c.address
  · exact c.type.isUpkeep_release p.target

/-! ### One owner -/

/-- What a cell has to show for what it has seen. -/
structure Keeps (c : OutCell) (H : History) : Prop where
  /-- Until it is dropped, it takes no reference, gives up none and ends no instance. -/
  upkeep : (H.own ++ c.drop (c.held H.store)).filter Effect.isUpkeep = c.drop (c.held H.store)
  /-- A primitive is not owned. -/
  primitive : ∀ k, c.type.category = .primitive k →
    H.handles = [] ∧ c.drop (c.held H.store) = []
  /-- An instance ends as the cell is dropped. -/
  value : c.type.category = .value →
    H.handles = [] ∧ Effect.moments (H.own ++ c.drop (c.held H.store)) =
      .begins ⟨c.type, c.address⟩ :: Instance.endings ⟨c.type, c.address⟩
  /-- Of references there is the ledger. -/
  balanced : c.type.category = .reference → H.Balanced c
  /-- What was put in and not overwritten is released once, with the handle that was taken out or
  with the cell. -/
  released : c.type.category = .reference → c.type.behaviours.release.isSome = true →
    ∀ b, b ≠ .null → H.put.count b = H.overwritten.count b +
      (H.handles.flatMap Handle.drop ++ c.drop (c.held H.store)).count (.release c.type b)
  /-- Nothing is left for a second taking, nor for the drop, of what was taken out. -/
  taken : c.type.category = .reference →
    (c.after H .take).handles =
        (Handle.adopt? c.type (c.held H.store).target).toList ++ H.handles ∧
      c.held (c.after H .take).store = .address .null ∧
      (c.after (c.after H .take) .take).handles = (c.after H .take).handles ∧
      c.drop (c.held (c.after H .take).store) = []

variable {k : Nat} {s : Store}

private theorem type_of_make (made : make t (.cell k) = .ok (c, es)) : c.type = t :=
  congrArg OutCell.type (of_make made).1

private theorem isUpkeep_of_make (made : make t (.cell k) = .ok (c, es)) :
    ∀ e ∈ es, e.isUpkeep = false := by
  obtain ⟨-, rfl, -⟩ := of_make made
  refine List.forall_mem_singleton.mpr ?_
  unfold opening
  cases t.category <;> rfl

/-- The ledger of a new cell is empty, and it is balanced from then on. -/
theorem balanced_run (laidOut : t.IsLaidOut) (made : make t (.cell k) = .ok (c, es))
    (category : t.category = .reference) (us : List Use) :
    (c.run (.start s es) us).Balanced c := by
  have default := held_make laidOut made s
  obtain ⟨rfl, rfl, -⟩ := of_make made
  have cell : home t (.cell k) = .cell k := by rw [home, category]
  have empty : held ⟨t, home t (.cell k)⟩ (s.applyAll [opening t (.cell k)]) =
      .address .null := by
    rw [default?, category] at default
    exact (Option.some.inj default).symm
  refine run_induction _ (fun H i h ↦ h.befall cell i) (fun H h ↦ h.take category laidOut) ?_ us
  refine ⟨List.forall_mem_nil _, fun b given ↦ ?_⟩
  rw [History.start, empty, Payload.target, Address.count_null given]
  rfl

/-- A new cell keeps its books through all that happens to it. -/
theorem keeps_run (laidOut : t.IsLaidOut) (made : make t (.cell k) = .ok (c, es))
    (us : List Use) : c.Keeps (c.run (.start s es) us) where
  upkeep := by
    have quiet := isUpkeep_own_run (c := c) (H := .start s es) (isUpkeep_of_make made) us
    have used : (c.run (.start s es) us).own.filter Effect.isUpkeep = [] :=
      List.filter_eq_nil_iff.mpr fun e there ↦ ne_true_of_eq_false (quiet e there)
    rw [List.filter_append, used, List.nil_append]
    exact List.filter_eq_self.mpr (isUpkeep_drop _)
  primitive kind category := by
    have other : c.type.category ≠ .reference := by simp [category]
    refine ⟨(run_of_not_reference other _ us).2, ?_⟩
    rw [drop, category]
  value category := by
    have other : c.type.category ≠ .reference := by simp [category]
    obtain ⟨own, handles⟩ := run_of_not_reference other (.start s es) us
    refine ⟨handles, ?_⟩
    obtain ⟨rfl, rfl, -⟩ := of_make made
    dsimp only at category
    rw [own, drop, category, Effect.moments_append, ScriptType.moments_destruct, History.start,
      opening, category, home, category]
    rfl
  balanced category := balanced_run laidOut made (type_of_make made ▸ category) us
  released category counted b given := by
    have balanced := balanced_run (s := s) laidOut made (type_of_make made ▸ category) us
    have dropped := ScriptType.count_release counted
      (c.held (c.run (.start s es) us).store).target given
    rw [balanced.ledger b given, List.count_append,
      Handle.count_flatMap_drop counted given fun h there ↦ (balanced.handles h there).1,
      drop_of_reference category, dropped]
    omega
  taken category := by
    have emptied := held_after_take category (type_of_make made ▸ laidOut)
      (c.run (.start s es) us)
    refine ⟨?_, emptied, ?_, ?_⟩
    · rw [after_take category]
    · rw [after_take category (c.after _ .take), emptied]
      rfl
    · rw [emptied, drop_of_reference category]
      exact ScriptType.release_null _

/-- **One owner.** A cell is made with a default and keeps its books through all that happens to it.
(Types are laid out if they are declared, by `Session.isLaidOut_make`.) -/
theorem output_has_one_owner (laidOut : t.IsLaidOut) (k : Nat) (s : Store) :
    ((∃ e, make t (.cell k) = .error e) ↔
        t.category = .value ∧ t.behaviours.construct = none) ∧
      (∀ c es, make t (.cell k) = .ok (c, es) →
        c = ⟨t, home t (.cell k)⟩ ∧ default? t = some (c.held (s.applyAll es)) ∧
          ∀ us, c.Keeps (c.run (.start s es) us)) ∧
      ∀ fn : Function, fn.IgnoresTargets ∧ fn.LeavesCell k := by
  refine ⟨exists_make_eq_error_iff, fun c es made ↦ ?_, fun fn ↦ ?_⟩
  · exact ⟨(of_make made).1, held_make laidOut made s, keeps_run laidOut made⟩
  · exact ⟨fn.ignoresTargets, fn.leavesCell k⟩

/-- A cell for a counted object. -/
def nodeCell : OutCell := ⟨.counted "Node", .cell 0⟩

/-- `void produce(Node &out)`, called with that cell, twice. The first call puts an object there and
raises an exception, the second one writes another object over the first. -/
def produced : History :=
  let produce : Function :=
    .ofSignature ⟨"produce", none, [⟨.counted "Node", .reference .output⟩], .void⟩
  let call (body : List Operation) : Use :=
    .call produce none [.reference (.cell 0)] (body.map .own)
  nodeCell.run (.start .empty [.write (.cell 0) (.address .null)])
    [call [.write (.cell 0) (.address (.object 0)), .raise "late"],
      call [.write (.cell 0) (.address (.object 1))]]

/-- One object is lost, and the other one goes to one handle. -/
theorem output_has_one_owner_producing :
    produced.put = [.object 1, .object 0] ∧ produced.overwritten = [.object 0, .null] ∧
      nodeCell.drop (nodeCell.held produced.store) = [.release (.counted "Node") (.object 1)] ∧
      (nodeCell.after produced .take).handles = [⟨.counted "Node", .object 1⟩] ∧
      nodeCell.drop (nodeCell.held (nodeCell.after produced .take).store) = [] := by
  have laidOut : (ScriptType.counted "Node").IsLaidOut := rfl
  obtain ⟨-, made, -⟩ := output_has_one_owner laidOut 0 .empty
  obtain ⟨-, -, keeps⟩ := made nodeCell _ rfl
  obtain ⟨handles, -, -, nothing⟩ := (keeps _ : nodeCell.Keeps produced).taken rfl
  exact ⟨by decide, by decide, by decide, handles.trans (by decide), nothing⟩

end OutCell

end CallingConvention
