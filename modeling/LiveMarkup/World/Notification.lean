import LiveMarkup.World.Ownership

/-!
# Announcing changes

A change is announced to the listeners that are registered when the announcement
begins, in the order of their registration.  A listener that is removed on the
way still hears of the change; one that is added does not.
-/

namespace LiveMarkup

variable {σ : Type}

/-- Announce that a property of an object has changed; the empty name announces
all of them. -/
def ObjectId.notify (deliver : Deliver σ) (object : ObjectId) (property : String) :
    Action σ Unit := do
  let listeners := (← get).propertyListeners object
  runAll deliver (listeners.toList.map (.property · property))

/-- Register a listener with an object; the answer is its number. -/
def ObjectId.subscribe (object : ObjectId) (listener : PropertyListener) :
    Action σ Nat := do
  let number := ((← get).propertyListeners object).next
  modify fun world => world.updatePropertyListeners object (·.subscribe listener)
  return number

/-- Remove a listener of an object; the answer says whether there was one. -/
def ObjectId.unsubscribe (object : ObjectId) (number : Nat) : Action σ Bool := do
  let had := ((← get).propertyListeners object).has number
  modify fun world =>
    (world.updatePropertyListeners object (·.unsubscribe number)).sweep
  return had

/-- Whether a listener that read a property hears of a change announced under
some name: the empty name, the same name, or another spelling of it. -/
def hears (property changed : String) : Bool :=
  changed.isEmpty || changed == property || Text.sameKey changed property

/-! ## Bags -/

namespace BagId

/-- A value of a bag. -/
def get? (bag : BagId) (world : World σ) (name : String) : Option Value :=
  (world.bag bag).values.lookup name

/-- Put a value into a bag and announce it. -/
def set (deliver : Deliver σ) (bag : BagId) (name : String) (value : Value) :
    Action σ Unit := do
  modify fun world => world.updateBag bag fun old =>
    { old with values := putEntry name value old.values }
  ObjectId.notify deliver (.bag bag) name

end BagId

/-! ## Lists -/

/-- An insertion beyond the end of a list. -/
structure InsertError where
  index : Nat
  length : Nat
deriving DecidableEq, Repr

def InsertError.message (error : InsertError) : String :=
  "insert index " ++ Nat.repr error.index ++ " out of bounds for list of length "
    ++ Nat.repr error.length

/-- How many elements are cut off a list at most in one operation, beyond those
that it has when the operation begins. -/
def maximalCut : Nat := 1000000

namespace ListId

/-- Announce a change of a list. -/
def emit (deliver : Deliver σ) (list : ListId) (change : ListChange) :
    Action σ Unit := do
  let listeners := ((← get).list list).listeners
  runAll deliver (listeners.toList.map (.list · change))

/-- Change the elements of a list without announcing it. -/
def setItems (list : ListId) (items : List Value) : Action σ Unit :=
  modify fun world => world.updateList list fun old => { old with items }

/-- Append a value. -/
def push (deliver : Deliver σ) (list : ListId) (value : Value) : Action σ Unit := do
  let items := ((← get).list list).items
  list.setItems (items ++ [value])
  list.emit deliver (.add items.length value)

/-- Append values one after the other. -/
def extend (deliver : Deliver σ) (list : ListId) : List Value → Action σ Unit
  | [] => pure ()
  | value :: rest => do
    list.push deliver value
    list.extend deliver rest

/-- Put a value before the element at an index; at the end it is appended. -/
def insert (deliver : Deliver σ) (list : ListId) (index : Nat) (value : Value) :
    Action σ (Except InsertError Unit) := do
  let items := ((← get).list list).items
  if items.length < index then return .error ⟨index, items.length⟩
  else if index == items.length then
    list.push deliver value
    return .ok ()
  else
    list.setItems (items.take index ++ value :: items.drop index)
    list.emit deliver (.insert index value)
    return .ok ()

/-- Remove the element at an index, if there is one. -/
def remove (deliver : Deliver σ) (list : ListId) (index : Nat) :
    Action σ (Option Value) := do
  let items := ((← get).list list).items
  match items[index]? with
  | none => return none
  | some value =>
    list.setItems (items.eraseIdx index)
    list.emit deliver (.remove index value)
    return some value

/-- Remove the first element equal to a value; the answer says whether there was
one. -/
def removeItem (deliver : Deliver σ) (list : ListId) (value : Value) :
    Action σ Bool := do
  match ((← get).list list).items.findIdx? (·.same value) with
  | none => return false
  | some index => return (← list.remove deliver index).isSome

/-- Cut elements off the end, at most `bound` of them, while there are more than
`length`. -/
def cut (deliver : Deliver σ) (list : ListId) (length : Nat) : Nat → Action σ Unit
  | 0 => modify fun world => { world with exhausted := true }
  | bound + 1 => do
    let size := ((← get).list list).items.length
    if length < size then
      let _ ← list.remove deliver (size - 1)
      list.cut deliver length bound

/-- Remove all elements from an index on, last first. -/
def truncate (deliver : Deliver σ) (list : ListId) (length : Nat) :
    Action σ Unit := do
  let size := ((← get).list list).items.length
  list.cut deliver length (maximalCut + size)

/-- Remove all elements, last first. -/
def clear (deliver : Deliver σ) (list : ListId) : Action σ Unit :=
  list.truncate deliver 0

/-- Register a listener; the answer is its number. -/
def subscribe (list : ListId) (listener : ListListener) : Action σ Nat := do
  let number := ((← get).list list).listeners.next
  modify fun world => world.updateList list fun old =>
    { old with listeners := old.listeners.subscribe listener }
  return number

/-- Remove a listener; the answer says whether there was one. -/
def unsubscribe (list : ListId) (number : Nat) : Action σ Bool := do
  let had := ((← get).list list).listeners.has number
  modify fun world => World.sweep <| world.updateList list fun old =>
    { old with listeners := old.listeners.unsubscribe number }
  return had

end ListId

end LiveMarkup
