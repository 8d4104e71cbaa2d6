import CallingConvention.Owned
import CallingConvention.Registry
import CallingConvention.Session.Answer
import CallingConvention.Session.Step

/-!
# The world of a session

Everything that the steps of a session have made, under the identifiers that they gave it. Each kind
of thing has its own identifiers. What happens goes into the journal of the store, and is handed out
as events exactly once, in order (`World.handOut`).
-/

namespace CallingConvention.Session

/-- The state of a session. -/
structure World where
  /-- The store. -/
  store : Store
  /-- From which severity on log entries are shown. -/
  threshold : Option Severity
  /-- Up to which line the journal has been handed out. -/
  shown : Nat
  /-- Types by identifier. -/
  types : Table String ScriptType
  /-- Functions by identifier. -/
  functions : Table String Function
  /-- Registries by identifier. -/
  registries : Table String (Registry Unit)
  /-- Numbers of registered functions by identifier. -/
  registered : Table String FunctionId
  /-- Counted objects by identifier. -/
  objects : Table String Nat
  /-- Handles by identifier. -/
  handles : Table String Handle
  /-- Out cells by identifier. -/
  cells : Table String OutCell
  /-- Instances that are kept, by identifier. -/
  kept : Table String Instance

namespace World

/-- The world before the first step, with log entries shown from a threshold on. -/
def empty (threshold : Option Severity) : World where
  store := .empty
  threshold := threshold
  shown := 0
  types := .empty
  functions := .empty
  registries := .empty
  registered := .empty
  objects := .empty
  handles := .empty
  cells := .empty
  kept := .empty

/-- Let effects happen. -/
def perform (w : World) (effects : List Effect) : World :=
  { w with store := w.store.applyAll effects }

/-! ## Names -/

/-- The name by which an object is known. -/
def objectName (id : String) : String := "obj:" ++ id

/-- The name by which a region is known. -/
def regionName (id : String) : String := "val:" ++ id

/-- The name by which the storage of an out cell is known. -/
def cellName (id : String) : String := "out:" ++ id

/-- What is kept under an identifier. -/
def lookup {α : Type} (t : Table String α) (id : String) : Except Mistake α :=
  match t.get? id with
  | some a => .ok a
  | none => .error (.identifier id)

/-- The type of a name. The names of primitive kinds are taken. -/
def type (w : World) (name : String) : Except Mistake ScriptType :=
  match Kind.ofScriptName? name with
  | some k => .ok (.primitive k)
  | none => lookup w.types name

/-- The address that a pointer means, if there is something that it points at. -/
def address? (w : World) : Pointer → Option Address
  | .null => some .null
  | .object id => ((w.objects.get? id).map .object).filter w.store.isLive
  | .region id => (w.store.names.get? (regionName id)).map Landmark.address
  | .cell id => (w.cells.get? id).map OutCell.address
  | .held id => (w.handles.get? id).map Handle.address

/-- The address that a pointer means. -/
def address (w : World) (p : Pointer) : Except Mistake Address :=
  match w.address? p with
  | some a => .ok a
  | none => .error (.pointer p.text)

/-- The payload that contents mean for storage of a shape, which they have to fit. -/
def payload (w : World) (shape : Shape) (c : Content) : Except Mistake Payload :=
  if c.shape = shape then
    match c with
    | .plain p _ => .ok p
    | .pointer p => (w.address p).map .address
  else .error (.payload c.text)

/-- The argument that is meant. -/
def argument (w : World) : ArgumentSpec → Except Mistake Argument
  | .primitive v => .ok (.primitive v)
  | .handle p => (w.address p).map .handle
  | .object p => (w.address p).map .object
  | .reference p => (w.address p).map .reference

/-! ## Writing -/

/-- Write contents to storage, if it has a name. -/
def writeKnown (w : World) (a : Address) : Option Content → Except Mistake World
  | some c =>
    match w.store.landmark? a with
    | some (_, l) => do return w.perform [.write a (← w.payload l.shape c)]
    | none => .ok w
  | none => .ok w

/-! ## Showing -/

/-- An address as it is shown. -/
def nameOf (w : World) (a : Address) : String := w.store.nameOf a

/-- A payload as it is shown. -/
def textOf (w : World) (p : Payload) : String := payloadText w.nameOf p

/-- What storage holds, as it is shown for a type. -/
def contentText (w : World) (a : Address) (t : ScriptType) : String :=
  w.textOf (w.store.read a t.shape)

/-- What storage holds, as it is shown, if the storage has a name. -/
def knownText? (w : World) (a : Address) : Option String := (w.store.known? a).map w.textOf

/-- What happened since the journal was handed out last. -/
def news (w : World) : List Event :=
  (w.store.journal.extract w.shown).toList.filterMap (Event.ofReport? w.threshold)

/-- Hand out what happened since the last time. -/
def handOut (w : World) : List Event × World :=
  (w.news, { w with shown := w.store.journal.size })

/-- The references to every object. -/
def remaining (w : World) : List (String × Remaining) :=
  w.objects.entries.filterMap fun (id, n) ↦ (w.store.tenure? n).map fun t ↦ (id, .ofTenure t)

/-- What is shown after a step with an answer. -/
def record (w : World) (answer : Answer) : Record × World :=
  let (events, w) := w.handOut
  (⟨answer, events, w.remaining, w.store.statistics⟩, w)

/-! ## Keeping -/

/-- Keep a handle under an identifier. The one that was kept there is dropped afterwards. -/
def keepHandle (w : World) (id : String) (h : Handle) : World :=
  let previous := w.handles.get? id
  { w with handles := w.handles.insert id h }.perform (dropHandle? previous)

/-- Drop the handle that is kept under an identifier. -/
def dropHandle (w : World) (id : String) : World :=
  let previous := w.handles.get? id
  { w with handles := w.handles.erase id }.perform (dropHandle? previous)

/-- The effects of dropping an optional instance. -/
def dropInstance? : Option Instance → List Effect
  | some i => i.drop
  | none => []

/-- Keep an instance under an identifier. The one that was kept there is dropped afterwards. -/
def keepInstance (w : World) (id : String) (i : Instance) : World :=
  let previous := w.kept.get? id
  { w with kept := w.kept.insert id i }.perform (dropInstance? previous)

/-- Drop the instance that is kept under an identifier. -/
def dropKept (w : World) (id : String) : World :=
  let previous := w.kept.get? id
  { w with kept := w.kept.erase id }.perform (dropInstance? previous)

/-- What an out cell holds. -/
def held (w : World) (c : OutCell) : Payload := w.store.read c.address c.type.shape

/-- Drop an optional out cell. By then its storage is no longer known by the name of the identifier,
not even to the hooks that run on what it holds. -/
def dropCell? (w : World) (id : String) : Option OutCell → World
  | some c => { w with store := w.store.unbind (cellName id) }.perform (c.drop (w.held c))
  | none => w

/-- Keep an out cell under an identifier. The one that was kept there is dropped. Storage without
any size has no place of its own and is not known by a name. -/
def keepCell (w : World) (id : String) (c : OutCell) : World :=
  let w := w.dropCell? id (w.cells.get? id)
  let store :=
    if c.type.layout.size = 0 then w.store else w.store.bind (cellName id) c.address c.type.shape
  { w with cells := w.cells.insert id c, store }

/-- Drop the out cell that is kept under an identifier. -/
def dropCell (w : World) (id : String) : World :=
  let w := w.dropCell? id (w.cells.get? id)
  { w with cells := w.cells.erase id }

/-- Identifiers in order. -/
def sorted (ids : List String) : List String := ids.mergeSort fun a b ↦ !(b < a)

/-- Give back what is still held: the handles, then the instances, then the out cells, each in the
order of their identifiers. -/
def close (w : World) : Closing :=
  let w := (sorted w.handles.keys).foldl dropHandle w
  let w := (sorted w.kept.keys).foldl dropKept w
  let w := (sorted w.cells.keys).foldl dropCell w
  ⟨w.news, w.remaining⟩

end World

/-!
## Declarations in a session

The types that a session can make, and signatures in which types stand by name.
-/

/-- Hooks that announce what they do and take instances to hold a word. A default constructor makes
instances that hold one hundred. -/
def HookNames.behaviours (h : HookNames) : Behaviours where
  construct := if h.construct then some ⟨.word 100, .plain "construct"⟩ else none
  copy := if h.copy then some ⟨.word, .withNumber "copy"⟩ else none
  destruct := if h.destruct then some ⟨.withNumber "destruct"⟩ else none
  addRef := if h.addRef then some .announced else none
  release := if h.release then some .announced else none

/-- Hooks of a type that can do everything a value type needs, with instances that start with zero
bytes. -/
def wholeBehaviours (shape : Shape) (construct copy destruct : Announcement) : Behaviours :=
  { Behaviours.none with
    construct := some ⟨shape.zero, construct⟩
    copy := some ⟨shape, copy⟩
    destruct := some ⟨destruct⟩ }

namespace Sample

/-- The hooks of a sample that holds a word. -/
def wordBehaviours : Behaviours :=
  wholeBehaviours .word (.plain "default") (.withNumber "clone") (.withNumber "drop")

/-- A sample as a type with a name. -/
def type (name : String) : Sample → ScriptType
  | triple =>
    ⟨name, .value, ⟨12, 4, by decide, by decide⟩, .triple,
      wholeBehaviours .triple .silent .silent .silent⟩
  | tracked => ⟨name, .value, .square 8 Layout.fits_square_8, .word, wordBehaviours⟩
  | wide => ⟨name, .value, .square 32 (by decide), .word, wordBehaviours⟩
  | unit =>
    ⟨name, .value, ⟨0, 1, by decide, by decide⟩, .unit,
      wholeBehaviours .unit (.plain "unit default") (.plain "unit clone") (.plain "unit drop")⟩

end Sample

/-- The block of an object that holds a word, and of a wide one. -/
def objectBlock (wide : Bool) : Block :=
  if wide then ⟨.square 32 (by decide)⟩ else ⟨.square 8 Layout.fits_square_8⟩

/-- A type with a name. A value type needs a valid layout. -/
def TypeSpec.make (name : String) : TypeSpec → Except CallError ScriptType
  | primitive k => .ok (.primitive k)
  | counted => .ok (.counted name)
  | reference hooks => .ok (.reference name hooks.behaviours)
  | sample s => .ok (s.type name)
  | value size align hooks =>
    match Layout.ofSizeAlign? size align with
    | some layout => .ok ⟨name, .value, layout, .word, hooks.behaviours⟩
    | none => .error (.invalidLayout name size align)

namespace World

/-- The parameter that is meant. A reference without a modifier is passed by value. -/
def param (w : World) : ParamSpec → Except Mistake Param
  | .primitive k => .ok (.primitive k)
  | .value type => (w.type type).map (⟨·, .byValue⟩)
  | .handle type auto => (w.type type).map (⟨·, .handle auto⟩)
  | .reference type none => (w.type type).map (⟨·, .byValue⟩)
  | .reference type (some modifier) => (w.type type).map (⟨·, .reference modifier⟩)

/-- The return that is meant. -/
def returns (w : World) : ReturnsSpec → Except Mistake Returns
  | .void => .ok .void
  | .primitive k => .ok (.primitive k)
  | .value type => (w.type type).map .value
  | .handle type auto => (w.type type).map (.handle · auto)
  | .reference type => (w.type type).map .reference

/-- The type of the object of a method, or nothing for a function. -/
def object (w : World) : Option String → Except Mistake (Option ScriptType)
  | some type => (w.type type).map some
  | none => .ok none

/-- The signature that is meant. -/
def signature (w : World) (s : SignatureSpec) : Except Mistake Signature := do
  let object ← w.object s.object
  let params ← s.params.mapM w.param
  let returns ← w.returns s.returns
  return ⟨s.name, object, params, returns⟩

end World

end CallingConvention.Session
