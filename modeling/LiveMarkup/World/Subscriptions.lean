import LiveMarkup.World.Callback

/-!
# Subscriptions

Who subscribes keeps a record of it, and cancels all records together.  A live
property keeps its own records, and the document or loop item it belongs to
cancels them with its own.
-/

namespace LiveMarkup

/-- Who keeps the subscriptions that rendering makes. -/
inductive SubscriptionKeeper where
  | handle (id : HandleId)
  | item (id : ItemId)
deriving DecidableEq, Repr

namespace World

variable {σ : Type}

/-- Undo a registration with an object or a list. -/
def cancelListener (world : World σ) : Subscription → World σ
  | .object id number => world.updatePropertyListeners id (·.unsubscribe number)
  | .list id number =>
    world.updateList id fun old =>
      { old with listeners := old.listeners.unsubscribe number }
  | .binding _ => world

/-- Undo everything a live property has registered. -/
def cancelBinding (world : World σ) (id : BindingId) : World σ :=
  match world.binding? id with
  | none => world
  | some binding =>
    binding.subscriptions.foldl cancelListener
      (world.updateBinding id fun old => { old with subscriptions := [] })

/-- Undo a registration. -/
def cancel (world : World σ) : Subscription → World σ
  | .binding id => world.cancelBinding id
  | other => world.cancelListener other

/-- Undo everything an item has registered. -/
def cancelItem (world : World σ) (id : ItemId) : World σ :=
  (world.item id).subscriptions.foldl cancel
    (world.updateItem id fun old => { old with subscriptions := [] })

/-- Undo everything a handle has registered. -/
def cancelHandle (world : World σ) (id : HandleId) : World σ :=
  (world.handle id).subscriptions.foldl cancel
    (world.updateHandle id fun old => { old with subscriptions := [] })

/-- Keep the record of a registration. -/
def keepSubscription (world : World σ) (keeper : SubscriptionKeeper)
    (subscription : Subscription) : World σ :=
  match keeper with
  | .handle id => world.updateHandle id fun old =>
    { old with subscriptions := old.subscriptions ++ [subscription] }
  | .item id => world.updateItem id fun old =>
    { old with subscriptions := old.subscriptions ++ [subscription] }

end World

end LiveMarkup
