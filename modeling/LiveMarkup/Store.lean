/-!
# Stores

A store hands out numbers to what is put into it and never reuses one.  Reading
a number that was never handed out gives nothing, and changing it changes
nothing.
-/

namespace LiveMarkup

/-- Entries by number. -/
structure Store (α : Type) where
  entries : Array α
deriving Inhabited

namespace Store

variable {α : Type}

def empty : Store α := ⟨#[]⟩

/-- How many numbers have been handed out; also the next number. -/
def size (store : Store α) : Nat := store.entries.size

def get? (store : Store α) (index : Nat) : Option α := store.entries[index]?

/-- Put an entry under the next number. -/
def add (store : Store α) (entry : α) : Store α := ⟨store.entries.push entry⟩

/-- Change the entry under a number. -/
def update (store : Store α) (index : Nat) (change : α → α) : Store α :=
  ⟨store.entries.modify index change⟩

/-- All numbers handed out, in order. -/
def indices (store : Store α) : List Nat := List.range store.size

@[simp]
theorem size_add (store : Store α) (entry : α) :
    (store.add entry).size = store.size + 1 := by
  simp [size, add]

@[simp]
theorem size_update (store : Store α) (index : Nat) (change : α → α) :
    (store.update index change).size = store.size := by
  simp [size, update]

@[simp]
theorem get?_add_size (store : Store α) (entry : α) :
    (store.add entry).get? store.size = some entry := by
  simp [get?, add, size]

theorem get?_add_of_lt {store : Store α} {entry : α} {index : Nat}
    (old : index < store.size) :
    (store.add entry).get? index = store.get? index := by
  simp only [get?, add, Array.getElem?_push]
  simp only [size] at old
  split
  · omega
  · rfl

theorem get?_update (store : Store α) (index other : Nat) (change : α → α) :
    (store.update index change).get? other =
      if index = other then (store.get? other).map change
      else store.get? other := by
  simp [get?, update, Array.getElem?_modify]

@[simp]
theorem get?_update_self (store : Store α) (index : Nat) (change : α → α) :
    (store.update index change).get? index = (store.get? index).map change := by
  simp [get?_update]

theorem get?_update_of_ne {store : Store α} {index other : Nat} {change : α → α}
    (different : index ≠ other) :
    (store.update index change).get? other = store.get? other := by
  simp [get?_update, different]

end Store

end LiveMarkup
