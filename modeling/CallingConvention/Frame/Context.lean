import CallingConvention.Frame.Basic

/-!
# What a native function can do

A native function sees its call only through the operations here. It reads arguments as values or
through their addresses, claims handles, writes the return slot and raises an exception. Reading
does not change the frame. An operation that may change it gives a `Reaction`: an answer, the frame
afterwards, and the effects.
-/

namespace CallingConvention

/-- What came of an operation on a frame. -/
structure Reaction (α : Type) where
  /-- What the operation answers. -/
  answer : Except CallError α
  /-- The frame after it. -/
  frame : Frame
  /-- What else happens because of it, in order. -/
  effects : List Effect

namespace Reaction

variable {α : Type}

/-- The operation worked. -/
def done (a : α) (f : Frame) (effects : List Effect) : Reaction α := ⟨.ok a, f, effects⟩

/-- The operation was refused and nothing happened. -/
def refused (e : CallError) (f : Frame) : Reaction α := ⟨.error e, f, []⟩

/-- Let effects happen before those of a reaction. -/
def after (effects : List Effect) (r : Reaction α) : Reaction α :=
  { r with effects := effects ++ r.effects }

end Reaction

namespace Frame

/-! ## Arguments -/

/-- The slot at an index. -/
def slotAt (f : Frame) (index : Nat) : Except CallError Slot :=
  match f.slots[index]? with
  | some slot => .ok slot
  | none => .error (.invalidArgumentIndex index f.slots.length)

/-- The declaration of the argument at an index. -/
def argumentType (f : Frame) (index : Nat) : Except CallError Param :=
  match f.slotAt index, f.signature.params[index]? with
  | .ok _, some p => .ok p
  | _, _ => .error (.invalidArgumentIndex index f.slots.length)

/-- The error that a slot cannot be used as asked for. -/
def slotMismatch (index : Nat) (slot : Slot) (requested : String) : CallError :=
  .typeMismatch index slot.describe requested

/-- Read a primitive argument as a kind, under the policy of the call. -/
def argument (f : Frame) (index : Nat) (k : Kind) : Except CallError Value :=
  match f.slotAt index with
  | .error e => .error e
  | .ok (.primitive v) =>
    match f.policy.coerce k v with
    | some u => .ok u
    | none => .error (slotMismatch index (.primitive v) k.scriptName)
  | .ok slot => .error (slotMismatch index slot k.scriptName)

/-- Read a primitive argument as a value of exactly the kind asked for. -/
def typedArgument (f : Frame) (index : Nat) (k : Kind) : Except CallError Value :=
  match f.argument index k with
  | .error e => .error e
  | .ok v =>
    match Value.ofKind? k v with
    | some u => .ok u
    | none => .error (.typeMismatch index v.kind.scriptName k.scriptName)

/-- Address of the stored argument: of the slot itself for a value or a handle, of the frame's copy
for an instance, and of the caller's storage for a reference. -/
def addressOfArgument (f : Frame) (index : Nat) : Except CallError Address :=
  match f.slotAt index with
  | .error e => .error e
  | .ok (.primitive _) => .ok (f.slotAddress index)
  | .ok (.handle _ _) => .ok (f.slotAddress index)
  | .ok (.object i) => .ok i.address
  | .ok (.reference a) => .ok a

/-- The address that a reference or a handle carries. -/
def argumentAddress (f : Frame) (index : Nat) : Except CallError Address :=
  match f.slotAt index with
  | .error e => .error e
  | .ok (.reference a) => .ok a
  | .ok (.handle a _) => .ok a
  | .ok slot => .error (slotMismatch index slot "address")

/-- The object behind a handle, which stays with the frame, or the frame's copy of an instance. -/
def argumentObject (f : Frame) (index : Nat) : Except CallError Address :=
  match f.slotAt index with
  | .error e => .error e
  | .ok (.handle a _) => .ok a
  | .ok (.object i) => .ok i.address
  | .ok slot => .error (slotMismatch index slot "object")

/-- Put a slot at an index. -/
def setSlot (f : Frame) (index : Nat) (slot : Slot) : Frame :=
  { f with slots := f.slots.set index slot }

/-- Claim the reference of a handle argument. Each can be claimed once, a null one too. -/
def takeHandle (f : Frame) (index : Nat) : Reaction (Option Handle) :=
  match f.slotAt index, f.argumentType index with
  | .ok (.handle a claimed), .ok p =>
    if claimed then .refused (.handleAlreadyClaimed index) f
    else .done (Handle.adopt? p.type a) (f.setSlot index (.handle a true)) []
  | .ok slot, _ => .refused (slotMismatch index slot "handle") f
  | .error e, _ => .refused e f

/-! ## The return slot -/

/-- The error that the return is not declared as asked for. -/
def returnMismatch (f : Frame) (attempted : String) : CallError :=
  .returnTypeMismatch f.signature.returns.display attempted

/-- Return a primitive value, brought to the declared kind under the policy of the call. -/
def setReturnValue (f : Frame) (v : Value) : Reaction Unit :=
  match f.result with
  | .primitive stored =>
    match f.policy.coerce stored.kind v with
    | some u => .done () { f with result := .primitive u } []
    | none => .refused (.returnTypeMismatch stored.kind.scriptName v.kind.scriptName) f
  | _ => .refused (f.returnMismatch v.kind.scriptName) f

/-- Return an address without counting. A handle return takes over a reference that the callee
owns; another one that was set before is released. -/
def setReturnAddress (f : Frame) (a : Address) : Reaction Unit :=
  match f.result, f.signature.returns with
  | .handle previous, .handle t _ =>
    .done () { f with result := .handle a }
      (if !previous.isNull && previous ≠ a then
        .log (.protocolWarning f.signature.name "handle return overwritten; releasing previous")
          :: t.release previous
      else [])
  | .reference _, _ => .done () { f with result := .reference a } []
  | _, _ => .refused (f.returnMismatch "address") f

/-- Return a handle that the callee owns. Refused, the handle is dropped. -/
def setReturnHandle (f : Frame) (h : Option Handle) : Reaction Unit :=
  match f.result with
  | .handle _ => f.setReturnAddress (Handle.addressOf h)
  | _ => (Reaction.refused (f.returnMismatch "handle") f).after (dropHandle? h)

/-- Return an object that the callee does not give away: a handle return takes a new reference,
once for each object set in a row, a value return takes a copy, and a reference return the address.
-/
def setReturnObject (f : Frame) (a : Address) : Reaction Unit :=
  match f.signature.returns with
  | .handle t _ =>
    if f.result = .handle a then .done () f []
    else (f.setReturnAddress a).after (t.addRef a)
  | .value t =>
    if a.isNull then .refused (.nullAddress "return value") f
    else
      match t.copy f.resultAddress a with
      | .error e => .refused e f
      | .ok effects =>
        match f.result with
        | .object constructed =>
          .done () { f with result := .object true }
            ((if constructed then t.destruct f.resultAddress else []) ++ effects)
        | _ => .done () f []
  | .reference _ => f.setReturnAddress a
  | _ => .refused (f.returnMismatch "object") f

/-- Address of the return storage, null if nothing is returned. -/
def returnLocation (f : Frame) : Address :=
  match f.result with
  | .void => .null
  | _ => f.resultAddress

/-- Say that the callee constructed the returned instance in its storage. -/
def markConstructed (f : Frame) : Reaction Unit :=
  match f.result with
  | .object _ => .done () { f with result := .object true } []
  | _ => .refused (f.returnMismatch "object") f

/-! ## Exceptions -/

/-- Raise an exception. The first one of a call stands; a later one is refused with a warning. -/
def setException (f : Frame) (message : String) : Reaction Unit :=
  let function := f.signature.qualifiedName
  match f.exception with
  | none =>
    .done () { f with exception := some ⟨function, message⟩ }
      [.log (.scriptException function message)]
  | some existing =>
    let e := CallError.exceptionAlreadySet existing.message
    (Reaction.refused e f).after [.log (.protocolWarning function e.message)]

/-! ## Raw storage -/

/-- Write through an address. The frame's own slots change in the frame, everything else in the
store. Nothing is counted and nothing is destroyed. -/
def writeRaw (f : Frame) (a : Address) (p : Payload) : Frame × List Effect :=
  match a with
  | .argument frame index =>
    if frame = f.number then
      match f.slots[index]? with
      | some (.primitive v) => (f.setSlot index (.primitive (v.overwrite p.bytes)), [])
      | some (.handle target claimed) =>
        (f.setSlot index (.handle (target.overwrite p.bytes) claimed), [])
      | some (.object _) => (f, [.write a p])
      | _ => (f, [])
    else (f, [.write a p])
  | .result frame =>
    if frame = f.number then
      match f.result with
      | .primitive v => ({ f with result := .primitive (v.overwrite p.bytes) }, [])
      | .handle target => ({ f with result := .handle (target.overwrite p.bytes) }, [])
      | .reference target => ({ f with result := .reference (target.overwrite p.bytes) }, [])
      | .object _ => (f, [.write a p])
      | .void => (f, [])
    else (f, [.write a p])
  | .null => (f, [])
  | _ => (f, [.write a p])

/-- What the frame's own storage at an address holds; instances are held by the store. -/
def readRaw? (f : Frame) (a : Address) : Option Payload :=
  match a with
  | .argument frame index =>
    if frame = f.number then
      match f.slots[index]? with
      | some (.primitive v) => some (.value v)
      | some (.handle target _) => some (.address target)
      | _ => none
    else none
  | .result frame =>
    if frame = f.number then
      match f.result with
      | .primitive v => some (.value v)
      | .handle target => some (.address target)
      | .reference target => some (.address target)
      | _ => none
    else none
  | _ => none

end Frame

end CallingConvention
