import CallingConvention.Call
import CallingConvention.Owned
import CallingConvention.Proofs.FrameOwners

/-!
# Custody of references

A machine for everything that an embedder and its native code can do with references to counted
objects: `Custody` is who owns what at some moment, and `Custody.Step` lists what can happen next.
Calls are nested to any depth, and native code runs for the innermost one. Nothing is said about the
order of steps, so what holds of every reachable custody holds of every program.

The owners of an object are the handles, the references that were given out as bare addresses, the
out cells that hold its address, and the frames of the running calls (`Custody.owned`). That no
object has more owners than counted references is the invariant: an object with an owner is never
destroyed.

## What is asked of programs

A bare reference is given away only by those who own it, be it to a call, to a handle or to an out
cell. An address that is only lent must belong to an object that is alive. Counts are numbers
without a bound here. As long as they do not overflow, they are what headers read
(`Store.refcount`).
-/

namespace CallingConvention

/-- Who owns references. -/
structure Custody where
  /-- Where they are counted. -/
  store : Store
  /-- Handles. -/
  handles : List Handle
  /-- Bare addresses that stand for a reference each. -/
  loose : List Address
  /-- Out cells. -/
  cells : List OutCell
  /-- The running calls with their frames, the innermost one first. -/
  calls : List (Function × Frame)

namespace Custody

/-- Nothing has happened yet. -/
def start : Custody := ⟨.empty, [], [], [], []⟩

/-- What an out cell holds. -/
def held (c : Custody) (cell : OutCell) : Payload := c.store.read cell.address cell.type.shape

/-- The addresses of the references that are not in out cells. -/
def outside (c : Custody) : List Address :=
  c.handles.map Handle.address ++ c.loose ++ c.calls.flatMap fun call ↦ call.2.owned

/-- The addresses of all references, once for each of their owners. -/
def owned (c : Custody) : List Address :=
  c.outside ++ c.cells.map fun cell ↦ (c.held cell).target

/-- The number of owners of an object. -/
def owners (c : Custody) (n : Nat) : Nat := c.owned.count (.object n)

/-- Whether an address may be lent. -/
def Live (c : Custody) (a : Address) : Prop := a = .null ∨ 0 < c.store.references a

/-! ## Steps -/

/-- What can happen to references. -/
inductive Step (c : Custody) : Custody → Prop
  /-- A new object has one reference, which is given out as a bare address. -/
  | allocate (name : String) (value : Payload) :
      Step c { c with
        store := (c.store.newObject name (.counted 1) value).2
        loose := (c.store.newObject name (.counted 1) value).1 :: c.loose }
  /-- A handle with a new reference to a live object. -/
  | borrow {t : ScriptType} {a : Address} (counted : t.CountsObjects) (live : c.Live a) :
      Step c { c with
        store := c.store.applyAll (Handle.borrow? t a).2
        handles := (Handle.borrow? t a).1.toList ++ c.handles }
  /-- A handle made of a reference. -/
  | adopt {t : ScriptType} {a : Address} {loose : List Address} (counted : t.CountsObjects)
      (owned : c.loose.Perm (a :: loose)) :
      Step c { c with
        loose := loose
        handles := (Handle.adopt? t a).toList ++ c.handles }
  | clone {h : Handle} (owned : h ∈ c.handles) :
      Step c { c with
        store := c.store.applyAll h.clone.2
        handles := h.clone.1 :: c.handles }
  | drop {h : Handle} {handles : List Handle} (owned : c.handles.Perm (h :: handles)) :
      Step c { c with
        store := c.store.applyAll h.drop
        handles := handles }
  /-- A handle is given up for its bare address. -/
  | unwrap {h : Handle} {handles : List Handle} (owned : c.handles.Perm (h :: handles)) :
      Step c { c with
        handles := handles
        loose := h.intoAddress :: c.loose }
  | makeCell {t : ScriptType} {cell : OutCell} {effects : List Effect} (counted : t.CountsObjects)
      (made : OutCell.make t c.store.newCell.1 = .ok (cell, effects)) :
      Step c { c with
        store := c.store.newCell.2.applyAll effects
        cells := cell :: c.cells }
  | takeCell {cell : OutCell} (owned : cell ∈ c.cells) :
      Step c { c with
        store := c.store.applyAll (cell.take (c.held cell)).2
        handles := (cell.take (c.held cell)).1.toList ++ c.handles }
  | dropCell {cell : OutCell} {cells : List OutCell} (owned : c.cells.Perm (cell :: cells)) :
      Step c { c with
        store := c.store.applyAll (cell.drop (c.held cell))
        cells := cells }
  /-- A reference is stored in an out cell through its address, over whatever was there. -/
  | storeCell {cell : OutCell} {a : Address} {loose : List Address} (there : cell ∈ c.cells)
      (owned : c.loose.Perm (a :: loose)) :
      Step c { c with
        store := c.store.apply (.write cell.address (.address a))
        loose := loose }
  /-- A call begins. The caller gives away the references in its plain handle arguments. -/
  | enter (function : Function) (receiver : Option Address) (args : List Argument) {f : Frame}
      {effects : List Effect} {loose : List Address}
      (counted : function.signature.CountsHandles)
      (owned : c.loose.Perm (HandleArgument.given function.signature args ++ loose))
      (live : ∀ a ∈ HandleArgument.lent function.signature args, c.Live a)
      (built : function.enter c.store.newFrame.1 receiver args = (.ok f, effects)) :
      Step c { c with
        store := c.store.newFrame.2.applyAll effects
        loose := loose
        calls := (function, f) :: c.calls }
  /-- A call is refused, whatever its arguments are. -/
  | refuse (function : Function) (receiver : Option Address) (args : List Argument) {e : CallError}
      {effects : List Effect}
      (refused : function.enter c.store.newFrame.1 receiver args = (.error e, effects)) :
      Step c { c with store := c.store.newFrame.2.applyAll effects }
  /-- The native code of the innermost call does an operation. -/
  | perform (op : Operation) {function : Function} {f : Frame} {calls : List (Function × Frame)}
      {handles : List Handle} (running : c.calls = (function, f) :: calls)
      (counted : op.IsCounted) (handed : c.handles.Perm (op.handed ++ handles))
      (live : ∀ a ∈ f.lent op, c.Live a) :
      Step c { c with
        store := c.store.applyAll (f.perform op).effects
        handles := Reply.received (f.perform op).answer ++ handles
        calls := (function, (f.perform op).frame) :: calls }
  /-- The innermost call ends with an outcome. -/
  | leave {function : Function} {f : Frame} {calls : List (Function × Frame)}
      (running : c.calls = (function, f) :: calls) :
      Step c { c with
        store := c.store.applyAll (function.leave f).2
        handles := Outcome.handles (function.leave f).1 ++ c.handles
        calls := calls }
  /-- The innermost call ends without one. -/
  | abandon {function : Function} {f : Frame} {calls : List (Function × Frame)}
      (running : c.calls = (function, f) :: calls) :
      Step c { c with
        store := c.store.applyAll f.abandon
        calls := calls }

/-- The custodies that a program can bring about. -/
inductive Reachable : Custody → Prop
  | start : Reachable start
  | step {c d : Custody} (reached : Reachable c) (next : c.Step d) : Reachable d

/-! ## The invariant -/

/-- No object has more owners than references, and everything is as the steps leave it. -/
structure Sound (c : Custody) : Prop where
  /-- Every owner has a reference. -/
  counted : ∀ n, c.owners n ≤ c.store.references (.object n)
  /-- The store is done with what has been destroyed. -/
  orderly : c.store.Orderly
  /-- Handles are to counted objects, -/
  handles : ∀ h ∈ c.handles, h.type.CountsObjects
  /-- and so are out cells, which are storage of their own. -/
  cells : ∀ cell ∈ c.cells,
    cell.type.CountsObjects ∧ ∃ k, cell.address = .cell k ∧ k < c.store.cells
  /-- No two cells are the same. -/
  apart : (c.cells.map OutCell.address).Nodup
  /-- Frames are well typed, and their handles are to counted objects. -/
  calls : ∀ call ∈ c.calls, call.2.WellTyped ∧ call.2.signature.CountsHandles

theorem sound_start : start.Sound where
  counted _ := Nat.zero_le _
  orderly := Store.orderly_empty
  handles _ there := absurd there List.not_mem_nil
  cells _ there := absurd there List.not_mem_nil
  apart := List.nodup_nil
  calls _ there := absurd there List.not_mem_nil

theorem Sound.newFrame {c : Custody} (h : c.Sound) :
    { c with store := c.store.newFrame.2 }.Sound :=
  ⟨h.counted, ⟨h.orderly.ended, h.orderly.order⟩, h.handles, h.cells, h.apart, h.calls⟩

private theorem Sound.held_applyAll {c : Custody} (h : c.Sound) {es : List Effect}
    (spares : ∀ e ∈ es, e.SparesCells) {cell : OutCell} (there : cell ∈ c.cells) :
    (c.store.applyAll es).read cell.address cell.type.shape = c.held cell := by
  obtain ⟨-, k, address, -⟩ := h.cells cell there
  rw [held, Store.read, Store.read, address,
    Store.bytes_applyAll_of_ne fun e there ↦ spares e there _]

/-- A change of hands keeps a custody sound, if it leaves the out cells apart. -/
theorem Sound.of_exchange {c d : Custody} (h : c.Sound) {borrowed : List Address}
    {es : List Effect} (store : d.store = c.store.applyAll es)
    (exchange : Exchange c.owned d.owned borrowed es) (live : ∀ a ∈ borrowed, c.Live a)
    (handles : ∀ h ∈ d.handles, h.type.CountsObjects)
    (cells : ∀ cell ∈ d.cells,
      cell.type.CountsObjects ∧ ∃ k, cell.address = .cell k ∧ k < c.store.cells)
    (apart : (d.cells.map OutCell.address).Nodup)
    (calls : ∀ call ∈ d.calls, call.2.WellTyped ∧ call.2.signature.CountsHandles) : d.Sound where
  counted n := store ▸ exchange.count_le h.counted live n
  orderly := store ▸ h.orderly.applyAll (exchange.affords h.counted live)
  handles := handles
  cells := by
    rw [store, Store.cells_applyAll]
    exact cells
  apart := apart
  calls := calls

theorem Sound.of_outside {c : Custody} (h : c.Sound) {handles : List Handle}
    {loose borrowed : List Address} {calls : List (Function × Frame)} {es : List Effect}
    (exchange : Exchange c.outside
      (outside { c with handles := handles, loose := loose, calls := calls }) borrowed es)
    (live : ∀ a ∈ borrowed, c.Live a) (spares : ∀ e ∈ es, e.SparesCells)
    (typed : ∀ h ∈ handles, h.type.CountsObjects)
    (running : ∀ call ∈ calls, call.2.WellTyped ∧ call.2.signature.CountsHandles) :
    Sound ⟨c.store.applyAll es, handles, loose, c.cells, calls⟩ := by
  have same : c.cells.map (fun cell ↦
      ((c.store.applyAll es).read cell.address cell.type.shape).target) =
      c.cells.map fun cell ↦ (c.held cell).target :=
    List.map_congr_left fun cell there ↦ congrArg Payload.target (h.held_applyAll spares there)
  -- what the out cells hold is owned before and after, so it goes on both sides
  have whole := exchange.append_right (c.cells.map fun cell ↦ (c.held cell).target)
  rw [← same] at whole
  refine h.of_exchange rfl (whole.congr (fun n ↦ ?_) fun n ↦ rfl) live typed h.cells h.apart running
  rw [same]
  rfl

end Custody

/-! ## Handles change hands -/

namespace Handle

private theorem exchange_borrow? {t : ScriptType} (counted : t.CountsObjects) (a : Address) :
    Exchange [] ((borrow? t a).1.toList.map address) [a] (borrow? t a).2 := by
  have taken := counted.gained_addRef a
  refine .of_lost_eq_zero (t.lost_addRef a) (fun n ↦ ?_) fun n gains ↦ ?_
  · rw [borrow?, taken, count_adopt?]
    exact Nat.le_add_left _ _
  · rw [borrow?, taken] at gains
    exact .inr (List.count_pos_iff.mp gains)

private theorem exchange_clone {h : Handle} (counted : h.type.CountsObjects) :
    Exchange [h.address] [h.clone.1.address, h.address] [] h.clone.2 := by
  have taken := counted.gained_addRef h.address
  refine .of_lost_eq_zero (h.type.lost_addRef h.address) (fun n ↦ Nat.le_of_eq ?_) fun n gains ↦ ?_
  · rw [clone, taken, List.count_cons, List.count_singleton]
  · rw [clone, taken] at gains
    exact .inl gains

private theorem exchange_drop {h : Handle} (counted : h.type.CountsObjects) :
    Exchange [h.address] [] [] h.drop := by
  refine .of_gained_eq_zero (h.type.gained_release h.address) fun n ↦ Nat.le_of_eq ?_
  rw [drop, counted.lost_release, List.count_nil, Nat.zero_add]

end Handle

namespace Function

theorem construct_of_enter {function : Function} {number : Nat} {receiver : Option Address}
    {args : List Argument} {f : Frame} {effects : List Effect}
    (h : function.enter number receiver args = (.ok f, effects)) :
    (Frame.construct number function.signature receiver args function.policy).1 = .ok f ∧
      effects = (Frame.construct number function.signature receiver args function.policy).2
        ++ [.log (.genericCall function.signature.name f.slots.length), .tally .callsMade 1] := by
  unfold enter at h
  split at h
  · cases h
  · next built =>
    cases h
    rw [built]
    exact ⟨rfl, rfl⟩

theorem effects_of_enter {function : Function} {number : Nat} {receiver : Option Address}
    {args : List Argument} {e : CallError} {effects : List Effect}
    (h : function.enter number receiver args = (.error e, effects)) :
    effects = [.tally .marshalErrors 1] := by
  unfold enter at h
  split at h
  · next e' es built =>
    rcases function.signature.accepts_or_firstFault receiver args function.policy with
      accepts | ⟨fault, first⟩
    · obtain ⟨slots, more, -, -, constructed⟩ := Frame.construct_of_accepts accepts number
      rw [constructed] at built
      cases built
    · rw [Frame.construct_of_firstFault first] at built
      cases built
      cases h
      rfl
  · cases h

end Function

namespace Custody

/-! ## Every step keeps a custody sound -/

private theorem count_outside (c : Custody) (b : Address) :
    c.outside.count b = (c.handles.map Handle.address).count b + c.loose.count b
      + (c.calls.flatMap fun call ↦ call.2.owned).count b := by
  rw [outside, List.count_append, List.count_append]

private theorem exchange_outside {c d : Custody} {before after borrowed : List Address}
    {es : List Effect} (exchange : Exchange before after borrowed es) (rest : List Address)
    (hb : ∀ n, c.outside.count (.object n) = (before ++ rest).count (.object n))
    (ha : ∀ n, d.outside.count (.object n) = (after ++ rest).count (.object n)) :
    Exchange c.outside d.outside borrowed es :=
  (exchange.append_right rest).congr hb ha

theorem Sound.borrow {c : Custody} (h : c.Sound) {t : ScriptType} {a : Address}
    (counted : t.CountsObjects) (live : c.Live a) :
    Sound { c with
      store := c.store.applyAll (Handle.borrow? t a).2
      handles := (Handle.borrow? t a).1.toList ++ c.handles } := by
  have exchange : Exchange c.outside
      (outside { c with handles := (Handle.borrow? t a).1.toList ++ c.handles }) [a]
      (Handle.borrow? t a).2 := by
    refine exchange_outside (Handle.exchange_borrow? counted a) c.outside (fun n ↦ rfl) fun n ↦ ?_
    simp only [count_outside, List.map_append, List.count_append]
    omega
  exact h.of_outside exchange (List.forall_mem_singleton.mpr live)
    (ScriptType.sparesCells_addRef t a)
    (List.forall_mem_append.mpr ⟨Handle.countsObjects_adopt? counted a, h.handles⟩) h.calls

theorem Sound.adopt {c : Custody} (h : c.Sound) {t : ScriptType} {a : Address}
    {loose : List Address} (counted : t.CountsObjects) (owned : c.loose.Perm (a :: loose)) :
    Sound { c with
      loose := loose
      handles := (Handle.adopt? t a).toList ++ c.handles } := by
  have exchange : Exchange c.outside
      (outside { c with loose := loose, handles := (Handle.adopt? t a).toList ++ c.handles }) []
      [] := by
    refine .of_count_le (fun n ↦ ?_) (fun _ ↦ rfl) fun _ ↦ rfl
    have adopted := Handle.count_adopt? t a n
    have moved := owned.count_eq (.object n)
    rw [← List.singleton_append] at moved
    simp only [count_outside, List.map_append, List.count_append] at moved ⊢
    omega
  exact h.of_outside exchange (List.forall_mem_nil _) (List.forall_mem_nil _)
    (List.forall_mem_append.mpr ⟨Handle.countsObjects_adopt? counted a, h.handles⟩) h.calls

theorem Sound.clone {c : Custody} (sound : c.Sound) {h : Handle} (owned : h ∈ c.handles) :
    Sound { c with
      store := c.store.applyAll h.clone.2
      handles := h.clone.1 :: c.handles } := by
  have counted := sound.handles h owned
  obtain ⟨rest, perm⟩ : ∃ rest, c.handles.Perm (h :: rest) :=
    ⟨c.handles.erase h, List.perm_cons_erase owned⟩
  have exchange : Exchange c.outside (outside { c with handles := h.clone.1 :: c.handles }) []
      h.clone.2 := by
    refine exchange_outside (Handle.exchange_clone counted)
      (outside { c with handles := rest }) (fun n ↦ ?_) fun n ↦ ?_
    · have moved := (perm.map Handle.address).count_eq (.object n)
      simp only [count_outside, List.map_cons, List.count_cons, List.count_append,
        List.count_nil] at moved ⊢
      omega
    · have moved := (perm.map Handle.address).count_eq (.object n)
      simp only [count_outside, List.map_cons, List.count_cons, List.count_append,
        List.count_nil] at moved ⊢
      omega
  refine sound.of_outside exchange (List.forall_mem_nil _)
    (ScriptType.sparesCells_addRef _ _) (List.forall_mem_cons.mpr ⟨counted, sound.handles⟩)
    sound.calls

theorem Sound.drop {c : Custody} (sound : c.Sound) {h : Handle} {handles : List Handle}
    (owned : c.handles.Perm (h :: handles)) :
    Sound { c with
      store := c.store.applyAll h.drop
      handles := handles } := by
  have counted (g : Handle) (there : g ∈ h :: handles) : g.type.CountsObjects :=
    sound.handles g (owned.mem_iff.mpr there)
  have exchange : Exchange c.outside (outside { c with handles := handles }) [] h.drop := by
    refine exchange_outside (Handle.exchange_drop (counted h List.mem_cons_self))
      (outside { c with handles := handles }) (fun n ↦ ?_) fun n ↦ rfl
    have moved := (owned.map Handle.address).count_eq (.object n)
    simp only [count_outside, List.map_cons, List.count_cons, List.count_append,
      List.count_nil] at moved ⊢
    omega
  exact sound.of_outside exchange (List.forall_mem_nil _)
    (ScriptType.sparesCells_release _ _) (fun g there ↦ counted g (List.mem_cons_of_mem h there))
    sound.calls

theorem Sound.unwrap {c : Custody} (sound : c.Sound) {h : Handle} {handles : List Handle}
    (owned : c.handles.Perm (h :: handles)) :
    Sound { c with
      handles := handles
      loose := h.intoAddress :: c.loose } := by
  have exchange : Exchange c.outside
      (outside { c with handles := handles, loose := h.intoAddress :: c.loose }) [] [] := by
    refine .of_count_le (fun n ↦ ?_) (fun _ ↦ rfl) fun _ ↦ rfl
    have moved := (owned.map Handle.address).count_eq (.object n)
    simp only [count_outside, Handle.intoAddress, List.map_cons, List.count_cons] at moved ⊢
    omega
  exact sound.of_outside exchange (List.forall_mem_nil _)
    (List.forall_mem_nil _)
    (fun g there ↦ sound.handles g (owned.mem_iff.mpr (List.mem_cons_of_mem h there))) sound.calls

/-! Calls -/

theorem Sound.enter {c : Custody} (sound : c.Sound) {function : Function}
    {receiver : Option Address} {args : List Argument} {f : Frame} {effects : List Effect}
    {loose : List Address} (counted : function.signature.CountsHandles)
    (owned : c.loose.Perm (HandleArgument.given function.signature args ++ loose))
    (live : ∀ a ∈ HandleArgument.lent function.signature args, c.Live a)
    (built : function.enter c.store.newFrame.1 receiver args = (.ok f, effects)) :
    Sound { c with
      store := c.store.newFrame.2.applyAll effects
      loose := loose
      calls := (function, f) :: c.calls } := by
  obtain ⟨constructed, rfl⟩ := Function.construct_of_enter built
  have typed := Frame.wellTyped_of_construct constructed
  have signature : f.signature = function.signature := by
    obtain ⟨slots, es, -, rfl, -⟩ := Frame.exists_filledAll_of_construct constructed
    rfl
  have exchange : Exchange c.outside
      (outside { c with loose := loose, calls := (function, f) :: c.calls })
      (HandleArgument.lent function.signature args)
      ((Frame.construct c.store.newFrame.1 function.signature receiver args function.policy).2
        ++ [.log (.genericCall function.signature.name f.slots.length), .tally .callsMade 1]) := by
    refine exchange_outside ((Frame.exchange_construct counted constructed).append_effects
      (fun _ ↦ rfl) fun _ ↦ rfl) (outside { c with loose := loose }) (fun n ↦ ?_) fun n ↦ ?_
    · have moved := owned.count_eq (.object n)
      simp only [count_outside, List.count_append] at moved ⊢
      omega
    · simp only [count_outside, List.flatMap_cons, List.count_append]
      omega
  refine sound.newFrame.of_outside exchange live (List.forall_mem_append.mpr
    ⟨Frame.sparesCells_construct constructed, ?_⟩) sound.handles
    (List.forall_mem_cons.mpr ⟨⟨typed, signature ▸ counted⟩, sound.calls⟩)
  exact Effect.sparesCells_cons rfl (Effect.sparesCells_singleton rfl)

theorem Sound.refuse {c : Custody} (sound : c.Sound) {function : Function}
    {receiver : Option Address} {args : List Argument} {e : CallError} {effects : List Effect}
    (refused : function.enter c.store.newFrame.1 receiver args = (.error e, effects)) :
    Sound { c with store := c.store.newFrame.2.applyAll effects } := by
  obtain rfl := Function.effects_of_enter refused
  have exchange : Exchange c.outside c.outside [] [.tally .marshalErrors 1] :=
    .of_count_le (fun n ↦ Nat.le_refl _) (fun _ ↦ rfl) fun _ ↦ rfl
  exact sound.newFrame.of_outside exchange (List.forall_mem_nil _)
    (Effect.sparesCells_singleton rfl) sound.handles sound.calls

private theorem Sound.innermost {c : Custody} (sound : c.Sound) {function : Function} {f : Frame}
    {calls : List (Function × Frame)} (running : c.calls = (function, f) :: calls) :
    (f.WellTyped ∧ f.signature.CountsHandles) ∧
      ∀ call ∈ calls, call.2.WellTyped ∧ call.2.signature.CountsHandles := by
  have all := sound.calls
  rw [running] at all
  exact List.forall_mem_cons.mp all

theorem Sound.perform {c : Custody} (sound : c.Sound) {function : Function} {f : Frame}
    {calls : List (Function × Frame)} {op : Operation} {handles : List Handle}
    (running : c.calls = (function, f) :: calls) (counted : op.IsCounted)
    (handed : c.handles.Perm (op.handed ++ handles)) (live : ∀ a ∈ f.lent op, c.Live a) :
    Sound { c with
      store := c.store.applyAll (f.perform op).effects
      handles := Reply.received (f.perform op).answer ++ handles
      calls := (function, (f.perform op).frame) :: calls } := by
  obtain ⟨⟨typed, counts⟩, kept⟩ := sound.innermost running
  have owned (h : Handle) (there : h ∈ op.handed ++ handles) : h.type.CountsObjects :=
    sound.handles h (handed.mem_iff.mpr there)
  have exchange : Exchange c.outside
      (outside { c with
        handles := Reply.received (f.perform op).answer ++ handles
        calls := (function, (f.perform op).frame) :: calls }) (f.lent op)
      (f.perform op).effects := by
    refine exchange_outside
      (Frame.exchange_perform typed counts counted fun h there ↦
        owned h (List.mem_append_left _ there))
      (outside { c with handles := handles, calls := calls }) (fun n ↦ ?_) fun n ↦ ?_
    · have moved := (handed.map Handle.address).count_eq (.object n)
      simp only [count_outside, running, List.map_append, List.flatMap_cons,
        List.count_append] at moved ⊢
      omega
    · simp only [count_outside, List.map_append, List.flatMap_cons, List.count_append]
      omega
  refine sound.of_outside exchange live (Frame.sparesCells_perform f counted)
    (List.forall_mem_append.mpr ⟨typed.countsObjects_received counts op,
      fun h there ↦ owned h (List.mem_append_right _ there)⟩)
    (List.forall_mem_cons.mpr ⟨⟨typed.perform op, ?_⟩, kept⟩)
  rw [(Frame.change_perform f op).sameCall.signature]
  exact counts

theorem Sound.leave {c : Custody} (sound : c.Sound) {function : Function} {f : Frame}
    {calls : List (Function × Frame)} (running : c.calls = (function, f) :: calls) :
    Sound { c with
      store := c.store.applyAll (function.leave f).2
      handles := Outcome.handles (function.leave f).1 ++ c.handles
      calls := calls } := by
  obtain ⟨⟨typed, counts⟩, kept⟩ := sound.innermost running
  obtain ⟨e, left, record⟩ := function.exists_leave_eq f
  have apart : (∀ n, Effect.gained n [e] = 0) ∧ (∀ n, Effect.lost n [e] = 0) ∧
      e.target? = none := by
    obtain ⟨_, rfl⟩ | ⟨_, _, rfl⟩ := record <;> exact ⟨fun _ ↦ rfl, fun _ ↦ rfl, rfl⟩
  obtain ⟨gained, lost, target⟩ := apart
  have exchange : Exchange c.outside
      (outside { c with handles := Outcome.handles f.finish.1 ++ c.handles, calls := calls }) []
      (f.finish.2 ++ [e]) := by
    refine exchange_outside ((Frame.exchange_finish typed counts).append_effects gained lost)
      (outside { c with calls := calls }) (fun n ↦ ?_) fun n ↦ ?_
    · simp only [count_outside, running, List.flatMap_cons, List.count_append]
      omega
    · simp only [count_outside, List.map_append, List.count_append]
      omega
  rw [left]
  exact sound.of_outside exchange (List.forall_mem_nil _)
    (List.forall_mem_append.mpr ⟨Frame.sparesCells_finish f, Effect.sparesCells_singleton target⟩)
    (List.forall_mem_append.mpr ⟨Frame.countsObjects_handles counts, sound.handles⟩) kept

theorem Sound.abandon {c : Custody} (sound : c.Sound) {function : Function} {f : Frame}
    {calls : List (Function × Frame)} (running : c.calls = (function, f) :: calls) :
    Sound { c with
      store := c.store.applyAll f.abandon
      calls := calls } := by
  obtain ⟨⟨typed, counts⟩, kept⟩ := sound.innermost running
  have exchange : Exchange c.outside (outside { c with calls := calls }) [] f.abandon := by
    refine exchange_outside (Frame.exchange_abandon typed counts)
      (outside { c with calls := calls }) (fun n ↦ ?_) fun n ↦ rfl
    simp only [count_outside, running, List.flatMap_cons, List.count_append]
    omega
  exact sound.of_outside exchange (List.forall_mem_nil _)
    (Frame.sparesCells_abandon f) sound.handles kept

/-! Out cells -/

theorem Sound.newCell {c : Custody} (h : c.Sound) :
    { c with store := c.store.newCell.2 }.Sound := by
  refine ⟨h.counted, ⟨h.orderly.ended, h.orderly.order⟩, h.handles, fun cell there ↦ ?_, h.apart,
    h.calls⟩
  obtain ⟨counted, k, address, below⟩ := h.cells cell there
  exact ⟨counted, k, address, Nat.lt_succ_of_lt below⟩

private theorem count_held_write (c : Custody) {cell : OutCell} {rest cells : List OutCell}
    (perm : cells.Perm (cell :: rest)) (counted : cell.type.CountsObjects)
    (apart : cell.address ∉ rest.map OutCell.address) (a b : Address) :
    (cells.map fun other ↦ ((c.store.apply (.write cell.address (.address a))).read
        other.address other.type.shape).target).count b =
      [a].count b + (rest.map fun other ↦ (c.held other).target).count b := by
  have self : (c.store.apply (.write cell.address (.address a))).read cell.address
      cell.type.shape = .address a := by
    obtain ⟨name, type⟩ := counted
    rw [type]
    exact Store.read_write_self (c.store.report _) cell.address (.address a)
  have others (other : OutCell) (there : other ∈ rest) :
      (c.store.apply (.write cell.address (.address a))).read other.address other.type.shape =
        c.held other := by
    have ne : other.address ≠ cell.address := fun same ↦
      apart (same ▸ List.mem_map_of_mem there)
    exact Store.read_write_of_ne (c.store.report _) (.address a) _ ne
  have moved := (perm.map fun other ↦ ((c.store.apply (.write cell.address (.address a))).read
    other.address other.type.shape).target).count_eq b
  rw [moved, List.map_cons, self, ← List.singleton_append, List.count_append,
    List.map_congr_left fun other there ↦ congrArg Payload.target (others other there)]
  rfl

/-- A change of hands in which an out cell is written keeps a custody sound. -/
private theorem Sound.of_write {c : Custody} (h : c.Sound) (cell : OutCell) {handles : List Handle}
    {loose : List Address} {cells rest : List OutCell} {a : Address}
    (perm : cells.Perm (cell :: rest))
    (known : ∀ other ∈ cell :: rest, other.type.CountsObjects ∧
      ∃ k, other.address = .cell k ∧ k < c.store.cells)
    (apart : ((cell :: rest).map OutCell.address).Nodup)
    (typed : ∀ h ∈ handles, h.type.CountsObjects)
    (balance : ∀ n, (outside { c with handles := handles, loose := loose }).count (.object n)
        + [a].count (.object n) + (rest.map fun other ↦ (c.held other).target).count (.object n) ≤
      c.owners n) :
    Sound ⟨c.store.apply (.write cell.address (.address a)), handles, loose, cells, c.calls⟩ := by
  have exchange : Exchange c.owned
      (owned ⟨c.store.apply (.write cell.address (.address a)), handles, loose, cells, c.calls⟩) []
      [.write cell.address (.address a)] := by
    refine .of_count_le (fun n ↦ ?_) (fun _ ↦ rfl) fun _ ↦ rfl
    have written := count_held_write c perm (known cell List.mem_cons_self).1
      (List.nodup_cons.mp apart).1 a (.object n)
    refine Nat.le_trans (Nat.le_of_eq ?_) (balance n)
    rw [owned, List.count_append, Nat.add_assoc, ← written]
    rfl
  exact h.of_exchange rfl exchange (List.forall_mem_nil _) typed
    (fun other there ↦ known other (perm.mem_iff.mp there))
    ((perm.map OutCell.address).nodup_iff.mpr apart) h.calls

/-- The references in out cells, one of which is singled out. -/
private theorem owners_of_perm {c : Custody} {cell : OutCell} {rest : List OutCell}
    (perm : c.cells.Perm (cell :: rest)) (n : Nat) :
    c.owners n = c.outside.count (.object n) + [(c.held cell).target].count (.object n)
      + (rest.map fun other ↦ (c.held other).target).count (.object n) := by
  have moved := (perm.map fun other ↦ (c.held other).target).count_eq (.object n)
  rw [List.map_cons, ← List.singleton_append, List.count_append] at moved
  rw [owners, owned, List.count_append, moved, Nat.add_assoc]

theorem Sound.makeCell {c : Custody} (sound : c.Sound) {t : ScriptType} {cell : OutCell}
    {effects : List Effect} (counted : t.CountsObjects)
    (made : OutCell.make t c.store.newCell.1 = .ok (cell, effects)) :
    Sound { c with
      store := c.store.newCell.2.applyAll effects
      cells := cell :: c.cells } := by
  obtain ⟨rfl, rfl⟩ : cell = ⟨t, .cell c.store.cells⟩ ∧
      effects = [.write (.cell c.store.cells) (.address .null)] := by
    obtain ⟨name, rfl⟩ := counted
    cases made
    exact ⟨rfl, rfl⟩
  refine sound.newCell.of_write ⟨t, .cell c.store.cells⟩ (List.Perm.refl _) ?_ ?_ sound.handles
    fun n ↦ ?_
  · refine List.forall_mem_cons.mpr ⟨⟨counted, c.store.cells, rfl, Nat.lt_succ_self _⟩, ?_⟩
    exact sound.newCell.cells
  · refine List.nodup_cons.mpr ⟨fun there ↦ ?_, sound.apart⟩
    obtain ⟨other, old, same⟩ := List.mem_map.mp there
    obtain ⟨-, k, address, below⟩ := sound.cells other old
    -- older cells have smaller numbers
    obtain rfl : k = c.store.cells := Address.cell.inj (address.symm.trans same)
    exact Nat.lt_irrefl _ below
  · rw [owners, owned, List.count_append]
    exact Nat.le_refl _

theorem Sound.takeCell {c : Custody} (sound : c.Sound) {cell : OutCell} (owned : cell ∈ c.cells) :
    Sound { c with
      store := c.store.applyAll (cell.take (c.held cell)).2
      handles := (cell.take (c.held cell)).1.toList ++ c.handles } := by
  obtain ⟨rest, perm⟩ : ∃ rest, c.cells.Perm (cell :: rest) :=
    ⟨c.cells.erase cell, List.perm_cons_erase owned⟩
  have counted := (sound.cells cell owned).1
  have taken : cell.take (c.held cell) = (Handle.adopt? cell.type (c.held cell).target,
      [.write cell.address (.address .null)]) := by
    obtain ⟨name, type⟩ := counted
    rw [OutCell.take, type]
    rfl
  rw [taken]
  refine sound.of_write cell perm (fun other there ↦ sound.cells other (perm.mem_iff.mpr there))
    ((perm.map OutCell.address).nodup_iff.mp sound.apart)
    (List.forall_mem_append.mpr ⟨Handle.countsObjects_adopt? counted _, sound.handles⟩) fun n ↦ ?_
  · have adopted := Handle.count_adopt? cell.type (c.held cell).target n
    rw [owners_of_perm perm]
    simp only [count_outside, List.map_append, List.count_append, adopted]
    have null : [Address.null].count (.object n) = 0 := rfl
    omega

private theorem Sound.storeCell {c : Custody} (sound : c.Sound) {cell : OutCell} {a : Address}
    {loose : List Address} (there : cell ∈ c.cells) (owned : c.loose.Perm (a :: loose)) :
    Sound { c with
      store := c.store.apply (.write cell.address (.address a))
      loose := loose } := by
  obtain ⟨rest, perm⟩ : ∃ rest, c.cells.Perm (cell :: rest) :=
    ⟨c.cells.erase cell, List.perm_cons_erase there⟩
  refine sound.of_write cell perm (fun other there ↦ sound.cells other (perm.mem_iff.mpr there))
    ((perm.map OutCell.address).nodup_iff.mp sound.apart) sound.handles fun n ↦ ?_
  have moved := owned.count_eq (.object n)
  rw [← List.singleton_append, List.count_append] at moved
  rw [owners_of_perm perm]
  simp only [count_outside]
  omega

theorem Sound.dropCell {c : Custody} (sound : c.Sound) {cell : OutCell} {cells : List OutCell}
    (owned : c.cells.Perm (cell :: cells)) :
    Sound { c with
      store := c.store.applyAll (cell.drop (c.held cell))
      cells := cells } := by
  have older (other : OutCell) (there : other ∈ cell :: cells) := sound.cells other
    (owned.mem_iff.mpr there)
  have counted := (older cell List.mem_cons_self).1
  have dropped : cell.drop (c.held cell) = cell.type.release (c.held cell).target := by
    obtain ⟨name, type⟩ := counted
    rw [OutCell.drop, type]
    rfl
  have kept : cells.map (fun other ↦ ((c.store.applyAll (cell.type.release
      (c.held cell).target)).read other.address other.type.shape).target) =
      cells.map fun other ↦ (c.held other).target :=
    List.map_congr_left fun other there ↦ congrArg Payload.target
      (sound.held_applyAll (ScriptType.sparesCells_release _ _)
        (owned.mem_iff.mpr (List.mem_cons_of_mem cell there)))
  have given : Exchange [(c.held cell).target] [] []
      (cell.type.release (c.held cell).target) :=
    Handle.exchange_drop (h := ⟨cell.type, (c.held cell).target⟩) counted
  have exchange : Exchange c.owned (Custody.owned { c with
      store := c.store.applyAll (cell.type.release (c.held cell).target)
      cells := cells }) [] (cell.type.release (c.held cell).target) := by
    refine (given.append_right (c.outside ++ cells.map fun other ↦ (c.held other).target)).congr
      (fun n ↦ ?_) fun n ↦ ?_
    · have split := owners_of_perm owned n
      rw [owners] at split
      rw [split, List.count_append, List.count_append]
      omega
    · rw [List.nil_append, ← kept]
      rfl
  rw [dropped]
  exact sound.of_exchange rfl exchange (List.forall_mem_nil _) sound.handles
    (fun other there ↦ older other (List.mem_cons_of_mem cell there))
    (List.nodup_cons.mp ((owned.map OutCell.address).nodup_iff.mp sound.apart)).2 sound.calls

/-! New objects -/

theorem Sound.allocate {c : Custody} (sound : c.Sound) (name : String) (value : Payload) :
    Sound { c with
      store := (c.store.newObject name (.counted 1) value).2
      loose := (c.store.newObject name (.counted 1) value).1 :: c.loose } := by
  have held (cell : OutCell) (there : cell ∈ c.cells) :
      (c.store.newObject name (.counted 1) value).2.read cell.address cell.type.shape =
        c.held cell := by
    obtain ⟨-, k, address, -⟩ := sound.cells cell there
    rw [Custody.held, address]
    exact Store.read_write_of_ne _ value _ Address.noConfusion
  have kept : c.cells.map (fun cell ↦
      ((c.store.newObject name (.counted 1) value).2.read cell.address cell.type.shape).target) =
      c.cells.map fun cell ↦ (c.held cell).target :=
    List.map_congr_left fun cell there ↦ congrArg Payload.target (held cell there)
  have owners (n : Nat) : owners { c with
      store := (c.store.newObject name (.counted 1) value).2
      loose := (c.store.newObject name (.counted 1) value).1 :: c.loose } n =
        c.owners n + if n = c.store.objects.length then 1 else 0 := by
    have number : [Address.object c.store.objects.length].count (.object n) =
        if n = c.store.objects.length then 1 else 0 := by
      by_cases new : n = c.store.objects.length
      · simp [new]
      · simp [new, Ne.symm new]
    have split : owners { c with
        store := (c.store.newObject name (.counted 1) value).2
        loose := (c.store.newObject name (.counted 1) value).1 :: c.loose } n =
          (outside { c with
            loose := [.object c.store.objects.length] ++ c.loose }).count (.object n) +
          (c.cells.map fun cell ↦ (c.held cell).target).count (.object n) := by
      rw [← kept]
      exact List.count_append
    rw [split, owners, owned, List.count_append, count_outside, count_outside, ← number]
    simp only [List.count_append]
    omega
  refine ⟨fun n ↦ ?_, sound.orderly.newObject name (.counted 1) value, sound.handles, sound.cells,
    sound.apart, sound.calls⟩
  have counted := sound.counted n
  rw [owners, Store.references_newObject]
  split
  · next new =>
    rw [new, Store.references_length] at counted
    rw [new]
    omega
  · exact counted

/-- What can happen to references keeps a custody sound. -/
theorem Sound.step {c d : Custody} (sound : c.Sound) (next : c.Step d) : d.Sound := by
  cases next with
  | allocate name value => exact sound.allocate name value
  | borrow counted live => exact sound.borrow counted live
  | adopt counted owned => exact sound.adopt counted owned
  | clone owned => exact sound.clone owned
  | drop owned => exact sound.drop owned
  | unwrap owned => exact sound.unwrap owned
  | makeCell counted made => exact sound.makeCell counted made
  | takeCell owned => exact sound.takeCell owned
  | dropCell owned => exact sound.dropCell owned
  | storeCell there owned => exact sound.storeCell there owned
  | enter _ _ _ counted owned live built => exact sound.enter counted owned live built
  | refuse _ _ _ refused => exact sound.refuse refused
  | perform _ running counted handed live => exact sound.perform running counted handed live
  | leave running => exact sound.leave running
  | abandon running => exact sound.abandon running

theorem Reachable.sound {c : Custody} (h : c.Reachable) : c.Sound := by
  induction h with
  | start => exact sound_start
  | step _ next ih => exact ih.step next

/-- Calling a function is entering a call, letting native code take its steps, and leaving the
call. -/
theorem Reachable.invoke {c d : Custody} {function : Function} {native : Native}
    {receiver : Option Address} {args : List Argument} {f g : Frame} {effects : List Effect}
    {calls : List (Function × Frame)} (reached : d.Reachable)
    (built : function.enter c.store.newFrame.1 receiver args = (.ok f, effects))
    (done : native f (c.store.newFrame.2.applyAll effects) = (g, d.store))
    (running : d.calls = (function, g) :: calls) :
    Reachable { d with
      store := (function.invoke native receiver args c.store).2
      handles := Outcome.handles (function.invoke native receiver args c.store).1 ++ d.handles
      calls := calls } := by
  have invoked : function.invoke native receiver args c.store =
      ((function.leave g).1, d.store.applyAll (function.leave g).2) := by
    simp only [Function.invoke, built, done]
  rw [invoked]
  exact reached.step (.leave running)

/-- **Ownership safety.** Whatever a program does, no object has more owners than its header counts
references, and once an object has been destroyed nobody owns it and nothing is counted for it. -/
theorem owners_le_references {c : Custody} (h : c.Reachable) :
    (∀ n, c.owners n ≤ c.store.references (.object n)) ∧
      (∀ n, c.store.references (.object n) < 2 ^ 32 →
        c.owners n ≤ (c.store.refcount (.object n)).toNat) ∧
      c.store.Orderly ∧
      ∀ n line, .destroyed n line ∈ c.store.journal.toList → c.owners n = 0 := by
  have sound := h.sound
  refine ⟨sound.counted, fun n few ↦ ?_, sound.orderly, fun n line ended ↦ ?_⟩
  · rw [Store.toNat_refcount few]
    exact sound.counted n
  · have counted := sound.counted n
    rw [Store.references_eq_of_counted (sound.orderly.ended n line ended)] at counted
    exact Nat.le_zero.mp counted

/-- Two calls, one in the native code of the other, with all kinds of owners: a handle, an out cell,
and a handle argument of each call. -/
theorem owners_le_references_nested :
    ∃ c : Custody, c.calls.length = 2 ∧ c.handles.length = 1 ∧ c.cells.length = 1 ∧
      c.owners 0 = 4 ∧ c.owners 0 ≤ (c.store.refcount (.object 0)).toNat := by
  have counted : (ScriptType.counted "Node").CountsObjects := ⟨"Node", rfl⟩
  have relay : Frame.relay.CountsHandles := by
    refine ⟨fun p there kind ↦ ?_, fun t auto returns ↦ ?_⟩
    · simp only [Frame.relay, List.mem_cons, List.not_mem_nil, or_false] at there
      rcases there with rfl | rfl
      · cases kind
      · exact counted
    · cases returns
      exact counted
  -- one object: its first reference in a handle, and a second one that goes to the outer call
  have made := Reachable.start.step (.allocate "node" (.word 1))
  have adopted := made.step (.adopt counted (List.Perm.refl [Address.object 0]))
  have cloned := adopted.step (.clone (h := ⟨.counted "Node", .object 0⟩) List.mem_cons_self)
  have celled := cloned.step (.makeCell counted rfl)
  have unwrapped := celled.step (.unwrap (List.Perm.refl _))
  have entered := unwrapped.step (.enter ⟨Frame.exchange, .strict, none⟩ none
    [.handle (.object 0), .handle (.object 0), .handle .null] Frame.countsHandles_exchange
    (List.Perm.refl [Address.object 0]) (List.forall_mem_singleton.mpr (.inr (by decide))) rfl)
  -- native code claims its argument and puts the reference in the out cell
  have claimed := entered.step (.perform (.take 0) rfl trivial (List.Perm.refl _)
    fun a there ↦ absurd there List.not_mem_nil)
  have released := claimed.step (.unwrap (List.Perm.refl _))
  have stored := released.step (.storeCell List.mem_cons_self (List.Perm.refl [Address.object 0]))
  -- the inner call takes a reference of its own to what it is lent
  have nested := stored.step (.enter ⟨Frame.relay, .convert, none⟩ none
    [.primitive (.signed .bits64 1), .handle (.object 0)] relay (List.Perm.refl _)
    (List.forall_mem_singleton.mpr (.inr (by decide))) rfl)
  exact ⟨_, rfl, rfl, rfl, by decide, (owners_le_references nested).2.1 0 (by decide)⟩

end Custody

end CallingConvention
