import LiveMarkup.Rendering.Lifecycle

/-!
# Hosts

A host takes part in the world by its controllers and listeners.  Delivering a
callback may cause others, which are delivered before it ends; how deeply they
nest is bounded.
-/

namespace LiveMarkup

variable {σ : Type}

/-- What a host is called for. -/
inductive HostCall where
  /-- A handler of a controller runs. -/
  | handler (controller : Controller) (name : String) (arguments : List Value)
  /-- A handler runs that the host connected itself. -/
  | event (number : Nat) (arguments : List Value)
  /-- A property has changed that the host listens to. -/
  | property (number : Nat) (changed : String)
  /-- A list has changed that the host listens to. -/
  | list (number : Nat) (change : ListChange)
  | created (controller : Controller) (handle : HandleId)
  | updated (controller : Controller) (delta : Float)
  | disposed (controller : Controller)

/-- A host: what it does when it is called. -/
structure Host (σ : Type) where
  respond : Deliver σ → HostCall → Action σ Unit

namespace Host

/-- A host that does nothing. -/
def silent : Host σ := ⟨fun _ _ => pure ()⟩

/-- Run a callback, given how to deliver the ones it causes. -/
def run (host : Host σ) (deliver : Deliver σ) : Callback → Action σ Unit
  | .property (.binding id generation property) changed => do
    let current := ((← get).binding? id).any (·.generation == generation)
    if hears property changed && current then id.refresh deliver
  | .property (.host number) changed =>
    host.respond deliver (.property number changed)
  | .list (.block id) change => id.follow deliver change
  | .list (.host number) change => host.respond deliver (.list number change)
  | .event (.controller controller name) arguments =>
    if controller.scripted then
      host.respond deliver (.handler controller name arguments)
    else pure ()
  | .event (.host number) arguments =>
    host.respond deliver (.event number arguments)
  | .created controller handle =>
    if controller.scripted then
      host.respond deliver (.created controller handle)
    else pure ()
  | .updated controller delta =>
    if controller.scripted then host.respond deliver (.updated controller delta)
    else pure ()
  | .disposed controller =>
    if controller.scripted then host.respond deliver (.disposed controller)
    else pure ()
  | .dispose handle => handle.dispose deliver

/-- Deliver callbacks that nest at most `depth` deep.  A callback beyond that is
dropped, and the world shows it. -/
def deliver (host : Host σ) : Nat → Deliver σ
  | 0, _ => modify fun world => { world with exhausted := true }
  | depth + 1, callback => host.run (host.deliver depth) callback

end Host

/-- How deeply callbacks may nest. -/
def maximalNesting : Nat := 1000000

end LiveMarkup
