import CallingConvention.Effect
import CallingConvention.Table

/-!
# The store

The store holds what outlives a frame: the counted objects with their counts, the contents of
storage, the names under which storage is known, the statistics, and a journal of everything that
happened. `Store.apply` carries out one effect.

A counted object is destroyed when its last reference is released. A pinned object is never
destroyed; hooks that keep a count of their own count on it, and the count in its header is out of
their reach, as theirs is out of reach of the header's.
-/

namespace CallingConvention

/-- How an object is kept alive. A counted object without references is destroyed. -/
inductive Tenure where
  | counted (references : Nat)
  | pinned (tally : Int)
  deriving DecidableEq

/-- An object that the store knows. -/
structure CountedObject where
  /-- The name that it is announced by. -/
  name : String
  /-- How its references are counted. -/
  tenure : Tenure
  deriving DecidableEq

/-- Whether an object has not been destroyed. -/
def CountedObject.isLive (o : CountedObject) : Bool :=
  o.tenure != .counted 0

/-- How often something happened since the store was made. -/
structure Statistics where
  /-- Native code was run. -/
  callsMade : Nat
  /-- A call ended with an exception. -/
  exceptionsRaised : Nat
  /-- A handle was released that nobody had claimed. -/
  handlesReleased : Nat
  /-- A call could not be made or could not be finished. -/
  marshalErrors : Nat
  deriving DecidableEq

namespace Statistics

/-- Nothing happened yet. -/
def zero : Statistics := ⟨0, 0, 0, 0⟩

/-- Count something. -/
def add (s : Statistics) (counter : Counter) (amount : Nat) : Statistics :=
  match counter with
  | .callsMade => { s with callsMade := s.callsMade + amount }
  | .exceptionsRaised => { s with exceptionsRaised := s.exceptionsRaised + amount }
  | .handlesReleased => { s with handlesReleased := s.handlesReleased + amount }
  | .marshalErrors => { s with marshalErrors := s.marshalErrors + amount }

end Statistics

/-- One line of the journal: an effect with what it announced, or the end of an object. -/
inductive Report where
  | effect (effect : Effect) (line : Option String)
  | destroyed (object : Nat) (line : String)
  deriving DecidableEq

/-- Storage that is known by a name. -/
structure Landmark where
  /-- Where it starts. -/
  address : Address
  /-- How it is read when it is shown. -/
  shape : Shape
  deriving DecidableEq

/-- Everything that outlives a frame. -/
structure Store where
  /-- Every object that was made, by number. -/
  objects : List CountedObject
  /-- The bytes at each address. -/
  contents : Table Address (List Byte)
  /-- Storage that is known by names. -/
  names : Table String Landmark
  /-- How many frames were begun. -/
  frames : Nat
  /-- How many regions there are. -/
  regions : Nat
  /-- How many out cells were made. -/
  cells : Nat
  /-- What was counted. -/
  statistics : Statistics
  /-- What happened, in order. -/
  journal : Array Report

namespace Store

/-- The store in which nothing happened yet. -/
def empty : Store := ⟨[], .empty, .empty, 0, 0, 0, .zero, #[]⟩

/-! ## Names and contents -/

/-- Whether an address may still be known by its name. -/
def isLive (s : Store) : Address → Bool
  | .object n => (s.objects[n]?).any CountedObject.isLive
  | _ => true

/-- The name of live storage that begins at an address, and how it is known. -/
def landmark? (s : Store) (a : Address) : Option (String × Landmark) :=
  if s.isLive a then s.names.entries.find? fun e ↦ e.2.address = a else none

/-- The name of live storage that begins at an address. -/
def name? (s : Store) (a : Address) : Option String := (s.landmark? a).map Prod.fst

/-- An address as it is shown. What has no name is taken to belong to some frame. -/
def nameOf (s : Store) (a : Address) : String :=
  if a.isNull then "null" else (s.name? a).getD "frame"

/-- Know storage by a name, and no other storage by it. -/
def bind (s : Store) (name : String) (a : Address) (shape : Shape) : Store :=
  { s with names := s.names.insert name ⟨a, shape⟩ }

/-- Forget a name. -/
def unbind (s : Store) (name : String) : Store :=
  { s with names := s.names.erase name }

/-- The bytes of storage, up to the last one that was written. -/
def bytes (s : Store) (a : Address) : List Byte := (s.contents.get? a).getD []

/-- What storage holds, read in a shape. -/
def read (s : Store) (a : Address) (shape : Shape) : Payload := shape.read (s.bytes a)

/-- The 64-bit integer at the start of storage. -/
def number (s : Store) (a : Address) : Int := Byte.toInt (s.bytes a)

/-- What storage holds, if it is known by a name. -/
def known? (s : Store) (a : Address) : Option Payload :=
  (s.landmark? a).map fun e ↦ s.read a e.2.shape

/-- Put bytes at the start of storage. -/
def put (s : Store) (a : Address) (new : List Byte) : Store :=
  { s with contents := s.contents.insert a (Byte.overlay new (s.bytes a)) }

/-- Put a payload into storage. Bytes past its end stay as they are. -/
def write (s : Store) (a : Address) (p : Payload) : Store := s.put a p.bytes

/-- Put into storage what other storage holds, as far as a shape reaches. -/
def copy (s : Store) (a source : Address) (shape : Shape) : Store :=
  s.put a (Byte.first shape.size (s.bytes source))

@[simp] theorem bytes_put_self (s : Store) (a : Address) (new : List Byte) :
    (s.put a new).bytes a = Byte.overlay new (s.bytes a) := by
  simp [bytes, put]

theorem bytes_put_of_ne (s : Store) {a b : Address} (new : List Byte) (h : b ≠ a) :
    (s.put a new).bytes b = s.bytes b := by
  rw [bytes, bytes, put, Table.get?_insert_of_ne _ _ h]

@[simp] theorem read_write_self (s : Store) (a : Address) (p : Payload) :
    (s.write a p).read a p.shape = p := by
  rw [read, write, bytes_put_self, Shape.read_overlay]

theorem read_write_of_ne (s : Store) {a b : Address} (p : Payload) (shape : Shape) (h : b ≠ a) :
    (s.write a p).read b shape = s.read b shape := by
  rw [read, read, write, bytes_put_of_ne _ _ h]

@[simp] theorem read_copy_self (s : Store) (a source : Address) (shape : Shape) :
    (s.copy a source shape).read a shape = s.read source shape := by
  rw [read, read, copy, bytes_put_self, Shape.read_overlay_first]

theorem read_copy_of_ne (s : Store) {a b : Address} (source : Address) (taken shape : Shape)
    (h : b ≠ a) : (s.copy a source taken).read b shape = s.read b shape := by
  rw [read, read, copy, bytes_put_of_ne _ _ h]

/-! ## New storage -/

/-- A number for a new frame. -/
def newFrame (s : Store) : Nat × Store := (s.frames, { s with frames := s.frames + 1 })

/-- A new region of memory. -/
def newRegion (s : Store) (p : Payload) : Address × Store :=
  let a := .region s.regions
  (a, { s with regions := s.regions + 1 }.write a p)

/-- Storage for a new out cell. -/
def newCell (s : Store) : Address × Store := (.cell s.cells, { s with cells := s.cells + 1 })

/-! ## The journal -/

/-- Add to the journal. -/
def report (s : Store) (r : Report) : Store := { s with journal := s.journal.push r }

/-- Make a log entry. -/
def log (s : Store) (e : LogEntry) : Store := s.report (.effect (.log e) none)

/-! ## Counting -/

/-- Set how an object is kept alive. -/
def setTenure (s : Store) (n : Nat) (t : Tenure) : Store :=
  { s with objects := s.objects.modify n fun o ↦ { o with tenure := t } }

/-- How an object is kept alive. -/
def tenure? (s : Store) (n : Nat) : Option Tenure := (s.objects[n]?).map CountedObject.tenure

@[simp] theorem tenure?_report (s : Store) (r : Report) (n : Nat) :
    (s.report r).tenure? n = s.tenure? n := rfl

@[simp] theorem tenure?_log (s : Store) (e : LogEntry) (n : Nat) :
    (s.log e).tenure? n = s.tenure? n := rfl

@[simp] theorem tenure?_write (s : Store) (a : Address) (p : Payload) (n : Nat) :
    (s.write a p).tenure? n = s.tenure? n := rfl

theorem tenure?_setTenure (s : Store) (n m : Nat) (t : Tenure) :
    (s.setTenure n t).tenure? m = if n = m then (s.tenure? m).map fun _ ↦ t else s.tenure? m := by
  unfold tenure? setTenure
  rw [List.getElem?_modify]
  split
  · cases s.objects[m]? <;> rfl
  · simp

/-- Number of references to a counted object: zero for null, for what is destroyed and for what is
not a counted object. -/
def references (s : Store) : Address → Nat
  | .object n =>
    match s.tenure? n with
    | some (.counted k) => k
    | _ => 0
  | _ => 0

/-- What the count in the header of an object reads, which is kept in 32 bits. -/
def refcount (s : Store) (a : Address) : BitVec 32 := BitVec.ofNat 32 (s.references a)

/-- End an object: the log tells first, then its payload is destroyed. -/
def destroyObject (s : Store) (n : Nat) : Store :=
  let name := ((s.objects[n]?).map CountedObject.name).getD ""
  let number := s.number (.object n)
  (s.log .objectDestroy).report (.destroyed n s!"destroyed {name} value {number}")

/-- Take a reference through the header of an object. -/
def addReference (s : Store) : Address → Store
  | .object n =>
    match s.tenure? n with
    | some (.counted k) => s.setTenure n (.counted (k + 1))
    | _ => s
  | _ => s

/-- Give up a reference through the header of an object. The last one destroys the object. -/
def releaseReference (s : Store) : Address → Store
  | .object n =>
    match s.tenure? n with
    | some (.counted 1) => (s.destroyObject n).setTenure n (.counted 0)
    | some (.counted k) => s.setTenure n (.counted (k - 1))
    | _ => s
  | _ => s

theorem tenure?_addReference_object (s : Store) (n m : Nat) :
    (s.addReference (.object n)).tenure? m =
      match s.tenure? m with
      | some (.counted k) => some (.counted (if n = m then k + 1 else k))
      | t => t := by
  by_cases h : n = m
  · subst h
    rcases hn : s.tenure? n with _ | (k | k) <;> simp [addReference, hn, tenure?_setTenure]
  · have same : (s.addReference (.object n)).tenure? m = s.tenure? m := by
      rcases hn : s.tenure? n with _ | (k | k) <;> simp [addReference, hn, tenure?_setTenure, h]
    rw [same]
    rcases s.tenure? m with _ | (k | k) <;> simp [h]

theorem tenure?_releaseReference_object (s : Store) (n m : Nat) :
    (s.releaseReference (.object n)).tenure? m =
      match s.tenure? m with
      | some (.counted k) => some (.counted (if n = m then k - 1 else k))
      | t => t := by
  have destroyed (l : Nat) : (s.destroyObject n).tenure? l = s.tenure? l := rfl
  by_cases h : n = m
  · subst h
    rcases hn : s.tenure? n with _ | (_ | _ | k) | k <;>
      simp [releaseReference, hn, tenure?_setTenure, destroyed]
  · have same : (s.releaseReference (.object n)).tenure? m = s.tenure? m := by
      rcases hn : s.tenure? n with _ | (_ | _ | k) | k <;>
        simp [releaseReference, hn, tenure?_setTenure, h, destroyed]
    rw [same]
    rcases s.tenure? m with _ | (k | k) <;> simp [h]

/-- Count on a pinned object, with a count that hooks keep. -/
def count (s : Store) (amount : Int) : Address → Store
  | .object n =>
    match s.tenure? n with
    | some (.pinned k) => s.setTenure n (.pinned (k + amount))
    | _ => s
  | _ => s

/-- Make an object with a value, kept alive as given. -/
def newObject (s : Store) (name : String) (t : Tenure) (value : Payload) : Address × Store :=
  let a := .object s.objects.length
  let extended : Store := { s with objects := s.objects ++ [⟨name, t⟩] }
  (a, (extended.write a value).log .objectNew)

theorem tenure?_newObject (s : Store) (name : String) (t : Tenure) (value : Payload) (n : Nat) :
    (s.newObject name t value).2.tenure? n =
      if n = s.objects.length then some t else s.tenure? n := by
  have listed : (s.newObject name t value).2.tenure? n =
      ((s.objects ++ [⟨name, t⟩])[n]?).map CountedObject.tenure := rfl
  rw [listed, List.getElem?_append]
  unfold tenure?
  rcases Nat.lt_trichotomy n s.objects.length with h | h | h
  · simp [h, Nat.ne_of_lt h]
  · simp [h]
  · have past : n - s.objects.length ≠ 0 := by omega
    simp [Nat.not_lt.mpr (Nat.le_of_lt h), Nat.ne_of_gt h, past]

/-! ## Effects -/

/-- Carry out one effect. -/
def apply (s : Store) (e : Effect) : Store :=
  match e with
  | .addRef t a =>
    match t.behaviours.addRef with
    | some .header => (s.report (.effect e none)).addReference a
    | some .announced => (s.report (.effect e (some ("add_ref " ++ s.nameOf a)))).count 1 a
    | none => s
  | .release t a =>
    match t.behaviours.release with
    | some .header => (s.report (.effect e none)).releaseReference a
    | some .announced => (s.report (.effect e (some ("release " ++ s.nameOf a)))).count (-1) a
    | none => s
  | .construct t a =>
    match t.behaviours.construct with
    | some hook => (s.report (.effect e (hook.announcement.line? 0))).write a hook.initial
    | none => s
  | .copy t a source =>
    match t.behaviours.copy with
    | some hook =>
      (s.report (.effect e (hook.announcement.line? (s.number source)))).copy a source hook.shape
    | none => s
  | .destruct t a =>
    match t.behaviours.destruct with
    | some hook => s.report (.effect e (hook.announcement.line? (s.number a)))
    | none => s
  | .write a p => (s.report (.effect e none)).write a p
  | .log _ => s.report (.effect e none)
  | .tally counter amount =>
    { s.report (.effect e none) with statistics := s.statistics.add counter amount }

/-- Carry out effects in order. -/
def applyAll (s : Store) (effects : List Effect) : Store := effects.foldl apply s

@[simp] theorem applyAll_nil (s : Store) : s.applyAll [] = s := rfl

@[simp] theorem applyAll_cons (s : Store) (e : Effect) (es : List Effect) :
    s.applyAll (e :: es) = (s.apply e).applyAll es := rfl

@[simp] theorem applyAll_append (s : Store) (es fs : List Effect) :
    s.applyAll (es ++ fs) = (s.applyAll es).applyAll fs :=
  List.foldl_append

end Store

end CallingConvention
