/-!
# Tables

A finite table from keys to values in which every key has at most one entry. The last entry made
stands first.
-/

namespace CallingConvention

/-- A finite table. -/
structure Table (α β : Type) where
  /-- Keys with their values. -/
  entries : List (α × β)
  /-- No key stands twice. -/
  nodup : (entries.map Prod.fst).Nodup

namespace Table

variable {α β : Type}

/-- The table without entries. -/
def empty : Table α β := ⟨[], List.nodup_nil⟩

instance : Inhabited (Table α β) := ⟨empty⟩

/-- The keys that have an entry. -/
def keys (t : Table α β) : List α := t.entries.map Prod.fst

/-- Number of entries. -/
def size (t : Table α β) : Nat := t.entries.length

variable [DecidableEq α]

/-- The value at a key. -/
def get? (t : Table α β) (k : α) : Option β :=
  (t.entries.find? fun e ↦ e.1 = k).map Prod.snd

/-- Whether a key has an entry. -/
def contains (t : Table α β) (k : α) : Bool := (t.get? k).isSome

/-- Remove the entry at a key. -/
def erase (t : Table α β) (k : α) : Table α β where
  entries := t.entries.filter fun e ↦ e.1 ≠ k
  nodup := (List.filter_sublist.map Prod.fst).nodup t.nodup

/-- Put a value at a key, in place of the one there. -/
def insert (t : Table α β) (k : α) (v : β) : Table α β where
  entries := (k, v) :: (t.erase k).entries
  nodup := by
    rw [List.map_cons, List.nodup_cons]
    refine ⟨?_, (t.erase k).nodup⟩
    simp [erase]

@[simp] theorem get?_empty (k : α) : (empty : Table α β).get? k = none := rfl

@[simp] theorem get?_insert_self (t : Table α β) (k : α) (v : β) :
    (t.insert k v).get? k = some v := by
  simp [get?, insert]

private theorem find?_filter_of_ne {k l : α} (h : l ≠ k) (es : List (α × β)) :
    (es.filter fun e ↦ e.1 ≠ k).find? (fun e ↦ e.1 = l) = es.find? fun e ↦ e.1 = l := by
  induction es with
  | nil => rfl
  | cons e es ih =>
    by_cases hk : e.1 = k
    · have hl : k ≠ l := Ne.symm h
      simpa [hk, hl] using ih
    · by_cases hl : e.1 = l
      · simp [hl, h]
      · simpa [hk, hl] using ih

theorem get?_erase_of_ne (t : Table α β) {k l : α} (h : l ≠ k) :
    (t.erase k).get? l = t.get? l := by
  rw [get?, get?, erase, find?_filter_of_ne h]

@[simp] theorem get?_erase_self (t : Table α β) (k : α) : (t.erase k).get? k = none := by
  simp [get?, erase]

theorem get?_insert_of_ne (t : Table α β) {k l : α} (v : β) (h : l ≠ k) :
    (t.insert k v).get? l = t.get? l := by
  rw [← t.get?_erase_of_ne h]
  simp [get?, insert, Ne.symm h]

theorem size_insert_of_get?_eq_none {t : Table α β} {k : α} (fresh : t.get? k = none) (v : β) :
    (t.insert k v).size = t.size + 1 := by
  have others : ∀ e ∈ t.entries, e.1 ≠ k := by simpa [get?] using fresh
  have kept : t.entries.filter (fun e ↦ e.1 ≠ k) = t.entries :=
    List.filter_eq_self.mpr fun e he ↦ decide_eq_true (others e he)
  exact congrArg (·.length + 1) kept

theorem get?_insert (t : Table α β) (k l : α) (v : β) :
    (t.insert k v).get? l = if l = k then some v else t.get? l := by
  split
  · next h => rw [h, get?_insert_self]
  · next h => exact t.get?_insert_of_ne v h

end Table

end CallingConvention
