import LiveMarkup.World

/-!
# Callbacks

Whatever runs because something else has changed is a callback.  The functions
of the library that may cause callbacks take a function that delivers them.
-/

namespace LiveMarkup

/-- Something to be run. -/
inductive Callback where
  /-- A listener hears of a changed property; the empty name stands for all of
  them. -/
  | property (listener : PropertyListener) (changed : String)
  /-- A listener hears of a changed list. -/
  | list (listener : ListListener) (change : ListChange)
  /-- A handler of an event runs. -/
  | event (handler : Handler) (arguments : List Value)
  /-- A controller learns that its document is in place. -/
  | created (controller : Controller) (handle : HandleId)
  /-- A controller learns that time has passed. -/
  | updated (controller : Controller) (delta : Float)
  /-- A controller learns that its document is about to go. -/
  | disposed (controller : Controller)
  /-- An imported document goes with the one that imports it. -/
  | dispose (handle : HandleId)

/-- How callbacks are run. -/
abbrev Deliver (σ : Type) := Callback → Action σ Unit

end LiveMarkup
