import CallingConvention.Owned
import CallingConvention.Signature
import CallingConvention.Settings

/-!
# Arguments and slots

A caller gives evaluated arguments. Each is checked against its parameter (`Argument.check`), and
only when every argument has passed are they stored in slots (`Slot.fill`). A handle in a slot is a
reference that the frame owns until the callee claims it; an instance in a slot is a copy that the
frame owns for good.
-/

namespace CallingConvention

/-- An evaluated argument. A handle carries the caller's reference and may be null; the address of
an object is only copied from. -/
inductive Argument where
  | primitive (v : Value)
  | handle (a : Address)
  | object (a : Address)
  | reference (a : Address)
  deriving DecidableEq

namespace Argument

/-- What an argument is, for errors. -/
def describe : Argument → String
  | primitive v => v.kind.scriptName
  | handle _ => "handle"
  | object _ => "object"
  | reference _ => "reference"

/-- The error that an argument is not what its parameter asks for. -/
def mismatch (index : Nat) (p : Param) (arg : Argument) : CallError :=
  .typeMismatch index p.display arg.describe

/-- Check an argument against its parameter. -/
def check (policy : Policy) (index : Nat) (p : Param) (arg : Argument) : Except CallError Unit :=
  match p.slotKind, arg with
  | .primitive k, primitive v =>
    if (policy.coerce k v).isSome then .ok () else .error (mismatch index p arg)
  | .handle, handle _ => .ok ()
  | .object, object a =>
    if a.isNull then .error (.nullAddress s!"argument {index}")
    else if p.type.behaviours.copy.isSome then .ok ()
    else .error (p.type.missing "copy constructor")
  | .reference, reference a =>
    if a.isNull then .error (.nullAddress s!"argument {index}") else .ok ()
  | _, _ => .error (mismatch index p arg)

/-- Check arguments against parameters in order, from a first index on. -/
def checkAll (policy : Policy) : Nat → List Param → List Argument → Except CallError Unit
  | index, p :: ps, arg :: args =>
    match arg.check policy index p with
    | .ok () => checkAll policy (index + 1) ps args
    | .error e => .error e
  | _, _, _ => .ok ()

end Argument

/-- A stored argument. -/
inductive Slot where
  | primitive (v : Value)
  | handle (a : Address) (claimed : Bool)
  | object (i : Instance)
  | reference (a : Address)
  deriving DecidableEq

namespace Slot

/-- What a slot holds, for errors. -/
def describe : Slot → String
  | primitive v => v.kind.scriptName
  | handle _ _ => "handle"
  | object i => i.type.name
  | reference _ => "reference"

/-- The diagnostic text of a slot. -/
def debugText : Slot → String
  | primitive v => "Primitive(" ++ v.debugText ++ ")"
  | handle a claimed =>
    "Handle(" ++ a.debugText ++ ", claimed: " ++ (if claimed then "true" else "false") ++ ")"
  | object i => "Object(" ++ i.debugText ++ ")"
  | reference a => "Reference(" ++ a.debugText ++ ")"

/-- Store an argument, taking what the ownership table says for a handle and a copy of an
instance, which goes to the storage of the slot if it needs any. -/
def fill (policy : Policy) (frame index : Nat) (p : Param) (arg : Argument) :
    Except CallError Slot × List Effect :=
  match p.slotKind, arg with
  | .primitive k, .primitive v => (.ok (primitive ((policy.coerce k v).getD v)), [])
  | .handle, .handle a =>
    (.ok (handle a false),
      if (ownershipRule .argument p.isAuto).entry = .addRef then p.type.addRef a else [])
  | .object, .object a =>
    let target := p.type.place (.argument frame index)
    match p.type.copy target a with
    | .ok effects => (.ok (object ⟨p.type, target⟩), effects)
    | .error e => (.error e, [])
  | _, .reference a => (.ok (reference a), [])
  | _, _ => (.error (arg.mismatch index p), [])

/-- Store arguments in order, from a first index on. -/
def fillAll (policy : Policy) (frame : Nat) :
    Nat → List Param → List Argument → Except CallError (List Slot) × List Effect
  | index, p :: ps, arg :: args =>
    match fill policy frame index p arg with
    | (.error e, effects) => (.error e, effects)
    | (.ok slot, effects) =>
      let (slots, more) := fillAll policy frame (index + 1) ps args
      (slots.map (slot :: ·), effects ++ more)
  | _, _, _ => (.ok [], [])

/-- The address in a handle slot that the frame has to release on exit, if the table says so. -/
def unreleased? (p : Param) (exception : Bool) : Slot → Option Address
  | handle a false =>
    if (ownershipRule .argument p.isAuto).exit exception = .releaseUnclaimed && !a.isNull then
      some a
    else none
  | _ => none

/-- Destroy the frame's copy in a slot. -/
def discard : Slot → List Effect
  | object i => i.drop
  | _ => []

end Slot

/-- What the callee has to return so far. -/
inductive ReturnSlot where
  | void
  | primitive (v : Value)
  | object (constructed : Bool)
  | handle (a : Address)
  | reference (a : Address)
  deriving DecidableEq

namespace ReturnSlot

/-- The shape of a return slot. -/
def describe : ReturnSlot → String
  | void => "void"
  | primitive _ => "primitive"
  | object _ => "object"
  | handle _ => "handle"
  | reference _ => "reference"

/-- The return slot of a new frame: zero, nothing constructed, or null. -/
def initial : Returns → ReturnSlot
  | .void => void
  | .primitive k => primitive (Value.zero k)
  | .value _ => object false
  | .handle _ _ => handle .null
  | .reference _ => reference .null

end ReturnSlot

end CallingConvention
