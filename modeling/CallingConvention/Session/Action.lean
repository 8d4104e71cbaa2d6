import CallingConvention.Session.World
import CallingConvention.Toml.Reader

/-!
# Steps outside of frames

What the steps do that need no running frame. `World.act` gives the answer to such a step and the
world after it, or the mistake in the step.
-/

namespace CallingConvention.Session

namespace Answer

/-- Success, or the error. -/
def ofResult : Except CallError Unit → Answer
  | .ok () => ok
  | .error e => refused e

/-- A text, or nothing. -/
def ofText? : Option String → Answer
  | some s => text s
  | none => nothing

end Answer

namespace World

/-- Ask a type for a behaviour on some storage, and show what the storage holds for it then. -/
def actOnStorage (w : World) (t : ScriptType) (a : Address) :
    Except CallError (List Effect) → Answer × World
  | .ok effects =>
    let w := w.perform effects
    (.text (w.contentText a t), w)
  | .error e => (.refused e, w)

/-- Keep what an attempt to register a function under an identifier comes to. -/
def register (w : World) (registry id : String) (a : Registry.Attempt Unit) : Answer × World :=
  let w := { w with registries := w.registries.insert registry a.registry }.perform a.effects
  match a.answer with
  | .ok n => (.index n.toNat, { w with registered := w.registered.insert id n })
  | .error e => (.refused e, w)

/-- Do a step that needs no frame. -/
def act (w : World) : Action → Except Mistake (Answer × World)
  | .defineType id name spec =>
    match spec.make name with
    | .ok t => .ok (.type t, { w with types := w.types.insert id t })
    | .error e => .ok (.refused e, w)
  | .describeSignature sig => do return (.signature (← w.signature sig), w)
  | .makeObject id counted value references wide =>
    let tenure : Tenure :=
      if counted then .counted (max 1 references.toNat) else .pinned references
    let n := w.store.objects.length
    let (a, store) := w.store.newObject (objectName id) tenure (.word (BitVec.ofInt 64 value))
    return (.object value (objectBlock wide).isAligned,
      { w with store := store.bind (objectName id) a .word, objects := w.objects.insert id n })
  | .makeRegion id content => do
    let payload ← w.payload content.shape content
    let (a, store) := w.store.newRegion payload
    return (.ok, { w with store := store.bind (regionName id) a payload.shape })
  | .read p => do return (.ofText? (w.knownText? (← w.address p)), w)
  | .write p content => do return (.ok, ← w.writeKnown (← w.address p) (some content))
  | .addReference p => do return (.ok, { w with store := w.store.addReference (← w.address p) })
  | .releaseReference p => do
    return (.ok, { w with store := w.store.releaseReference (← w.address p) })
  | .references p => do return (.number (w.store.references (← w.address p)), w)
  | .typeAddRef type p => do
    return (.ok, w.perform ((← w.type type).addRef (← w.address p)))
  | .typeRelease type p => do
    return (.ok, w.perform ((← w.type type).release (← w.address p)))
  | .typeConstruct type p => do
    let t ← w.type type
    let a ← w.address p
    return w.actOnStorage t a (t.construct a)
  | .typeCopy type p source => do
    let t ← w.type type
    let a ← w.address p
    return w.actOnStorage t a (t.copy a (← w.address source))
  | .typeDestruct type p => do
    let t ← w.type type
    let a ← w.address p
    return w.actOnStorage t a (.ok (t.destruct a))
  | .hold id type p borrow => do
    let t ← w.type type
    let a ← w.address p
    let (h?, effects) := if borrow then Handle.borrow? t a else (Handle.adopt? t a, [])
    let w := w.perform effects
    match h? with
    | some h => return (.held true, w.keepHandle id h)
    | none => return (.held false, w)
  | .cloneHandle source id => do
    let h ← lookup w.handles source
    let (g, effects) := h.clone
    return (.same (g.same h), (w.perform effects).keepHandle id g)
  | .dropHandle id => .ok (.truth (w.handles.contains id), w.dropHandle id)
  | .unwrapHandle id => do
    let h ← lookup w.handles id
    return (.text (w.nameOf h.intoAddress), { w with handles := w.handles.erase id })
  | .describeHandle id => do
    let h ← lookup w.handles id
    let number := w.store.number h.address
    return (.handle (w.nameOf h.address) h.type.name number h.debugText, w)
  | .sameHandle first second => do
    return (.truth ((← lookup w.handles first).same (← lookup w.handles second)), w)
  | .makeCell id type => do
    let t ← w.type type
    let (a, store) := w.store.newCell
    match OutCell.make t a with
    | .ok (c, effects) =>
      let w := ({ w with store }.perform effects).keepCell id c
      return (.cell (w.textOf (w.held c)), w)
    | .error e => return (.refused e, w)
  | .readCell id k => do
    let c ← lookup w.cells id
    return (.ofText? ((c.read? k (w.held c)).map valueText), w)
  | .cellContent id => do return (.text (w.textOf (w.held (← lookup w.cells id))), w)
  | .takeCell id handle => do
    let c ← lookup w.cells id
    let (h?, effects) := c.take (w.held c)
    let w := w.perform effects
    match h? with
    | some h => return (.text (w.nameOf h.address), w.keepHandle handle h)
    | none => return (.text "none", w)
  | .dropCell id => .ok (.ok, w.dropCell id)
  | .readKept id => do
    let i ← lookup w.kept id
    return (.instanceOf i.type.name (w.contentText i.address i.type), w)
  | .dropKept id => .ok (.truth (w.kept.contains id), w.dropKept id)
  | .defineFunction id sig policy auxiliary => do
    let f : Function := ⟨← w.signature sig, policy.getD .strict, auxiliary⟩
    return (.function f, { w with functions := w.functions.insert id f })
  | .makeRegistry id settings =>
    match (settings.map (Settings.parse Toml.fields?)).getD (.ok .default) with
    | .ok s =>
      .ok (.registry s.coercion 0,
        { w with registries := w.registries.insert id (.empty s.coercion) })
    | .error e => .ok (.malformed e, w)
  | .describeRegistry registry => do
    let r ← lookup w.registries registry
    return (.registry r.policy r.size, w)
  | .register registry id sig how => do
    let r ← lookup w.registries registry
    let s ← w.signature sig
    return w.register registry id <|
      match how with
      | .function => r.registerFunction s ()
      | .method => r.registerMethod s ()
      | .prepared policy auxiliary => r.register ⟨⟨s, policy.getD .strict, auxiliary⟩, ()⟩
  | .find registry name => do
    match (← lookup w.registries registry).find? name with
    | some n => return (.number n.toNat, w)
    | none => return (.nothing, w)
  | .getFunction registry function => do
    let r ← lookup w.registries registry
    match r.get? (← lookup w.registered function) with
    | some l => return (.function l.function, w)
    | none => return (.nothing, w)

end World

end CallingConvention.Session
