import CallingConvention.Session.Action

/-!
# Steps on a frame

What native code does to its own call. `World.actOnFrame` gives the answer to such a step, the frame
and the world after it, or the mistake in the step.
-/

namespace CallingConvention.Session

namespace World

/-- Let the effects of an operation on a frame happen. -/
def settle {α : Type} (w : World) (r : Reaction α) : Frame × World := (r.frame, w.perform r.effects)

/-- Let the effects of an operation on a frame happen, and answer whether it worked. -/
def settleUnit (w : World) (r : Reaction Unit) : Answer × Frame × World :=
  (.ofResult r.answer, w.settle r)

/-- Answer from what was read of a frame, which changes nothing. -/
def answerWith {α : Type} (w : World) (f : Frame) (answer : α → Answer) :
    Except CallError α → Answer × Frame × World
  | .ok a => (answer a, f, w)
  | .error e => (.refused e, f, w)

/-- The error of an operation on a frame, if it was refused. -/
def error? {α : Type} (r : Reaction α) : Option CallError :=
  match r.answer with
  | .ok _ => none
  | .error e => some e

/-- Write contents of a shape through an address that native code was given, if there are any. -/
def writeRaw (w : World) (f : Frame) (a : Address) (shape : Shape) :
    Option Content → Except Mistake (Frame × World)
  | some c => do
    let (f, effects) := f.writeRaw a (← w.payload shape c)
    return (f, w.perform effects)
  | none => .ok (f, w)

/-- Write contents to the frame's own storage at an address, and show what it holds then. -/
def useHeld (w : World) (f : Frame) (a : Address) (write : Option Content) :
    Except Mistake (Answer × Frame × World) :=
  match f.readRaw? a with
  | some held => do
    let (f, w) ← w.writeRaw f a held.shape write
    return (.content (w.nameOf a) ((f.readRaw? a).map w.textOf), f, w)
  | none => .ok (.content (w.nameOf a) none, f, w)

/-- Use the address of a stored argument: write there, and show what is there. Behind a reference
parameter there is storage of the caller. -/
def useArgument (w : World) (f : Frame) (a : Address) (write : Option Content) :
    Option Slot → Except Mistake (Answer × Frame × World)
  | some (.reference _) => do
    let w ← w.writeKnown a write
    return (.content (w.nameOf a) (w.knownText? a), f, w)
  | some (.object i) => do
    let (f, w) ← w.writeRaw f a i.type.shape write
    return (.content (w.nameOf a) (some (w.contentText a i.type)), f, w)
  | _ => w.useHeld f a write

/-- Show the object of an argument: what is behind a handle, or the frame's copy. -/
def showObject (w : World) (a : Address) : Option Slot → Answer
  | some (.object i) => .content (w.nameOf a) (some (w.contentText a i.type))
  | _ => .content (w.nameOf a) (w.knownText? a)

/-- Use the address of the return storage: write there, and show what is there. Storage for an
instance holds nothing to show but what was just written. -/
def useResult (w : World) (f : Frame) (write : Option Content) :
    Except Mistake (Answer × Frame × World) :=
  let a := f.returnLocation
  match f.result, f.signature.returns with
  | .object _, .value t => do
    let (f, w) ← w.writeRaw f a t.shape write
    return (.content (w.nameOf a) (write.map fun _ ↦ w.contentText a t), f, w)
  | _, _ => w.useHeld f a write

/-- Do with a claimed handle what is to be done. -/
def useClaimed (w : World) (f : Frame) (h : Handle) : Claimed → Answer × Frame × World
  | .drop => (.text (w.nameOf h.address), f, w.perform h.drop)
  | .leak => (.text (w.nameOf h.intoAddress), f, w)
  | .giveBack =>
    let r := f.setReturnHandle (some h)
    (.givenBack (w.nameOf h.address) (error? r), w.settle r)
  | .keep id => (.text (w.nameOf h.address), f, w.keepHandle id h)

/-- Claim a handle argument. -/
def claim (w : World) (f : Frame) (index : Nat) (claimed : Claimed) : Answer × Frame × World :=
  let r := f.takeHandle index
  let (f, w) := w.settle r
  match r.answer with
  | .ok (some h) => w.useClaimed f h claimed
  | .ok none => (.text "none", f, w)
  | .error e => (.refused e, f, w)

/-- Say that an instance was constructed in the return storage, after writing it there. -/
def markConstructed (w : World) (f : Frame) (write : Option Content) :
    Except Mistake (Answer × Frame × World) :=
  match f.result, f.signature.returns with
  | .object _, .value t => do
    let (f, w) ← w.writeRaw f f.returnLocation t.shape write
    return w.settleUnit f.markConstructed
  | _, _ => .ok (w.settleUnit f.markConstructed)

/-- Do a step on a frame. -/
def actOnFrame (w : World) (f : Frame) (auxiliary : Option Auxiliary) :
    FrameAction → Except Mistake (Answer × Frame × World)
  | .info => .ok (.context ⟨f.slots.length, f.signature, f.policy⟩, f, w)
  | .debug => .ok (.text (Context.debugText ⟨f, auxiliary⟩), f, w)
  | .hasException => .ok (.truth f.hasException, f, w)
  | .raise message => .ok (w.settleUnit (f.setException message))
  | .argumentType index => .ok (w.answerWith f .param (f.argumentType index))
  | .receiver =>
    .ok (w.answerWith f (fun a ↦ .receiver (w.nameOf a) (w.knownText? a)) f.objectPointer)
  | .auxiliaryValue k =>
    .ok (.ofText? ((auxiliary.bind (Auxiliary.value? k)).map valueText), f, w)
  | .auxiliaryText => .ok (.ofText? (auxiliary.bind Auxiliary.text?), f, w)
  | .argument index k => .ok (w.answerWith f (fun v ↦ .text (valueText v)) (f.argument index k))
  | .typedArgument index k =>
    .ok (w.answerWith f (fun v ↦ .text (valueText v)) (f.typedArgument index k))
  | .addressOfArgument index write =>
    match f.addressOfArgument index with
    | .ok a => w.useArgument f a write f.slots[index]?
    | .error e => .ok (.refused e, f, w)
  | .argumentAddress index =>
    .ok (w.answerWith f (fun a ↦ .content (w.nameOf a) (w.knownText? a)) (f.argumentAddress index))
  | .argumentObject index =>
    .ok (w.answerWith f (w.showObject · f.slots[index]?) (f.argumentObject index))
  | .writeThrough index content =>
    match f.argumentAddress index with
    | .ok a => do return (.ok, f, ← w.writeKnown a content)
    | .error e => .ok (.refused e, f, w)
  | .take index claimed => .ok (w.claim f index claimed)
  | .returnValue v => .ok (w.settleUnit (f.setReturnValue v))
  | .returnArgument index k =>
    match f.argument index k with
    | .ok v =>
      let r := f.setReturnValue v
      .ok (.returned (valueText v) (error? r), w.settle r)
    | .error e => .ok (.refused e, f, w)
  | .returnAddress p => do return w.settleUnit (f.setReturnAddress (← w.address p))
  | .returnObject p => do return w.settleUnit (f.setReturnObject (← w.address p))
  | .returnArgumentObject index =>
    match f.argumentObject index with
    | .ok a => .ok (w.settleUnit (f.setReturnObject a))
    | .error e => .ok (.refused e, f, w)
  | .returnHandle id =>
    let h? := id.bind w.handles.get?
    let handles := match id with
      | some id => w.handles.erase id
      | none => w.handles
    .ok ({ w with handles }.settleUnit (f.setReturnHandle h?))
  | .returnLocation write => w.useResult f write
  | .markConstructed write => w.markConstructed f write

end World

end CallingConvention.Session
