import CallingConvention.Layout
import CallingConvention.Storage

/-!
# Script types

What the calling convention knows of a type: a name, a category, a layout, and behaviours, which
are the hooks that the type's owner supplies for making, copying and destroying instances and for
counting references to them.

A hook is described by what it does to storage and by what it announces. A hook knows nothing of
storage but its bytes, and a number that it announces is the 64-bit integer at the start. Counting
hooks come in two kinds. Those of counted objects act on the count in the object's header and
announce nothing. Those that an embedder writes announce every call and keep a count of their own.
-/

namespace CallingConvention

/-- What a hook announces each time that it runs. -/
inductive Announcement where
  | silent
  | plain (text : String)
  | withNumber (text : String)
  deriving DecidableEq

/-- The line that an announcement makes about an instance that holds `number`. -/
def Announcement.line? : Announcement → (number : Int) → Option String
  | silent, _ => none
  | plain text, _ => some text
  | withNumber text, number => some (text ++ " " ++ toString number)

/-- A default constructor. -/
structure ConstructHook where
  /-- What it writes into new storage. -/
  initial : Payload
  /-- How it is announced. -/
  announcement : Announcement
  deriving DecidableEq

/-- A copy constructor. -/
structure CopyHook where
  /-- The shape of what it takes over, whatever its source holds there. -/
  shape : Shape
  /-- How it is announced. -/
  announcement : Announcement
  deriving DecidableEq

/-- A destructor. -/
structure DestructHook where
  /-- How it is announced. -/
  announcement : Announcement
  deriving DecidableEq

/-- A hook that counts references, in the object's header or in a count of its own. -/
inductive CountHook where
  | header
  | announced
  deriving DecidableEq

/-- The hooks of a type. -/
structure Behaviours where
  /-- The default constructor. -/
  construct : Option ConstructHook
  /-- The copy constructor. -/
  copy : Option CopyHook
  /-- The destructor. -/
  destruct : Option DestructHook
  /-- What takes a reference, without which references are not counted. -/
  addRef : Option CountHook
  /-- What gives a reference up, without which references are not counted. -/
  release : Option CountHook
  deriving DecidableEq

namespace Behaviours

/-- No hooks at all. -/
def none : Behaviours := ⟨.none, .none, .none, .none, .none⟩

/-- The diagnostic text, which says what hooks there are. -/
def debugText (b : Behaviours) : String :=
  let has (there : Bool) : String := if there then "true" else "false"
  "TypeBehaviours \x7b construct: " ++ has b.construct.isSome
    ++ ", copy_construct: " ++ has b.copy.isSome
    ++ ", destruct: " ++ has b.destruct.isSome
    ++ ", add_ref: " ++ has b.addRef.isSome
    ++ ", release: " ++ has b.release.isSome ++ " \x7d"

end Behaviours

/-- How instances of a type live and are passed. -/
inductive Category where
  | primitive (kind : Kind)
  | value
  | reference
  deriving DecidableEq

/-- A type as registered with the calling convention. -/
structure ScriptType where
  /-- The name of the type. -/
  name : String
  /-- How its values are held. -/
  category : Category
  /-- The storage of its instances. -/
  layout : Layout
  /-- How that storage is read. -/
  shape : Shape
  /-- Its hooks. -/
  behaviours : Behaviours

deriving instance DecidableEq for Layout
deriving instance DecidableEq for ScriptType

namespace ScriptType

/-- The layout of primitive storage. -/
def primitiveLayout (k : Kind) : Layout :=
  Layout.square k.size (by cases k with
    | signed w => cases w <;> decide
    | unsigned w => cases w <;> decide
    | _ => decide)

/-- The type of a primitive kind. -/
def primitive (k : Kind) : ScriptType :=
  ⟨k.scriptName, .primitive k, primitiveLayout k, .value k, .none⟩

/-- A reference type with the given hooks. Its inline form is an address. -/
def reference (name : String) (behaviours : Behaviours) : ScriptType :=
  ⟨name, .reference, .address, .address, behaviours⟩

/-- A reference type whose instances are counted objects. -/
def counted (name : String) : ScriptType :=
  reference name { Behaviours.none with addRef := some .header, release := some .header }

/-- Where an instance is that was given the storage at an address. Instances without any size are
given none: all of them with one alignment are at the address that the alignment is. -/
def place (t : ScriptType) (storage : Address) : Address :=
  if t.layout.size = 0 then .ofWord (BitVec.ofNat 64 t.layout.align) else storage

theorem place_of_size_ne_zero {t : ScriptType} (h : t.layout.size ≠ 0) (storage : Address) :
    t.place storage = storage :=
  if_neg h

theorem place_of_size_eq_zero {t : ScriptType} (h : t.layout.size = 0) (storage : Address) :
    t.place storage = .ofWord (BitVec.ofNat 64 t.layout.align) :=
  if_pos h

theorem place_ne_null (t : ScriptType) {storage : Address} (h : storage ≠ .null) :
    t.place storage ≠ .null := by
  unfold place
  split
  · have word_ne_zero : BitVec.ofNat 64 t.layout.align ≠ 0 := by
      intro zero
      have value := congrArg BitVec.toNat zero
      rw [BitVec.toNat_ofNat, Nat.mod_eq_of_lt t.layout.align_lt] at value
      exact absurd value (Nat.ne_of_gt t.layout.align_pos)
    rw [Address.ofWord, dif_neg word_ne_zero]
    exact Address.noConfusion
  · exact h

/-- Whether references to instances are counted on both sides. -/
def isCounted (t : ScriptType) : Bool :=
  t.behaviours.addRef.isSome && t.behaviours.release.isSome

end ScriptType

end CallingConvention
