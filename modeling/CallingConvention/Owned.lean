import CallingConvention.Effect
import CallingConvention.Text

/-!
# Owned references and instances

A handle owns exactly one reference to an object, and an owned instance owns a value in storage.
Neither is ever null. What they own is given back by the effects of `drop`, or handed on: a handle
by its bare address (`Handle.intoAddress`), which takes no effect at all.
-/

namespace CallingConvention

/-- One owned reference to an object. -/
structure Handle where
  /-- The type of the object. -/
  type : ScriptType
  /-- Where the object is. -/
  address : Address
  deriving DecidableEq

namespace Handle

/-- Own a reference that the caller owned; a null address carries none. -/
def adopt? (t : ScriptType) (a : Address) : Option Handle :=
  if a.isNull then none else some ⟨t, a⟩

/-- Own a new reference to an address that the caller only borrowed. -/
def borrow? (t : ScriptType) (a : Address) : Option Handle × List Effect :=
  (adopt? t a, t.addRef a)

/-- A second handle to the same object, with a reference of its own. -/
def clone (h : Handle) : Handle × List Effect := (h, h.type.addRef h.address)

/-- Give the reference back. -/
def drop (h : Handle) : List Effect := h.type.release h.address

/-- Hand the reference on, to whoever takes the address. -/
def intoAddress (h : Handle) : Address := h.address

/-- Handles are the same if they name the same object. -/
def same (h g : Handle) : Bool := h.address == g.address

/-- The diagnostic text of a handle. -/
def debugText (h : Handle) : String :=
  "HandleRef \x7b type: " ++ Text.quote h.type.name ++ ", address: " ++ h.address.debugText
    ++ " \x7d"

/-- The address that an optional handle hands on: null without one. -/
def addressOf : Option Handle → Address
  | some h => h.intoAddress
  | none => .null

@[simp] theorem adopt?_null (t : ScriptType) : adopt? t .null = none := rfl

end Handle

/-- Drop an optional handle. -/
def dropHandle? : Option Handle → List Effect
  | some h => h.drop
  | none => []

/-- A value that its owner has to destroy. -/
structure Instance where
  /-- The type of the value. -/
  type : ScriptType
  /-- Where the value is. -/
  address : Address
  deriving DecidableEq

namespace Instance

/-- Destroy the value. -/
def drop (i : Instance) : List Effect := i.type.destruct i.address

/-- The diagnostic text of an instance. -/
def debugText (i : Instance) : String :=
  "OwnedObject \x7b type: " ++ Text.quote i.type.name ++ ", address: " ++ i.address.debugText
    ++ " \x7d"

end Instance

/-!
## Out cells

Storage that a caller owns and lends to reference parameters. Before the first call it holds a
default: zero for a primitive, a default instance for a value type, null for a reference type. The
callee may overwrite it. What it holds in the end belongs to the cell alone, so dropping the cell
destroys the value or releases the handle there, unless the caller took the handle out before.

Reading the cell needs the store; the functions here take what the cell holds as `held`.
-/

/-- A cell for one output. -/
structure OutCell where
  /-- The type of the output. -/
  type : ScriptType
  /-- The storage of the cell. -/
  address : Address
  deriving DecidableEq

namespace OutCell

/-- A new cell, holding a default. The given storage is its own, unless its instance needs none. -/
def make (t : ScriptType) (a : Address) : Except CallError (OutCell × List Effect) :=
  match t.category with
  | .primitive k => .ok (⟨t, a⟩, [.write a (.value (Value.zero k))])
  | .value => (t.construct (t.place a)).map fun effects ↦ (⟨t, t.place a⟩, effects)
  | .reference => .ok (⟨t, a⟩, [.write a (.address .null)])

/-- Read a primitive of the very kind of the cell. -/
def read? (c : OutCell) (k : Kind) (held : Payload) : Option Value :=
  match c.type.category, held with
  | .primitive _, .value v => Value.ofKind? k v
  | _, _ => none

/-- Take the handle out, leaving null behind. -/
def take (c : OutCell) (held : Payload) : Option Handle × List Effect :=
  match c.type.category with
  | .reference => (Handle.adopt? c.type held.target, [.write c.address (.address .null)])
  | _ => (none, [])

/-- Give back what the cell owns. -/
def drop (c : OutCell) (held : Payload) : List Effect :=
  match c.type.category with
  | .primitive _ => []
  | .value => c.type.destruct c.address
  | .reference => c.type.release held.target

end OutCell

end CallingConvention
