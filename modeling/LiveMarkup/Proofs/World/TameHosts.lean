import LiveMarkup.Host
import LiveMarkup.Proofs.World.Reading

/-!
# Hosts that only set properties

Most hosts keep to a few operations when they are called: their listeners change
only their own state, and their handlers make bags and put values into bags.
-/

namespace LiveMarkup

variable {σ : Type}

namespace World

/-- What a handler may do: change the host's own state, make bags and lists, and
put values into bags that name only what there is, if all values so far do. -/
inductive Sets (deliver : Deliver σ) (world : World σ) : World σ → Prop
  | done : Sets deliver world world
  | host {middle : World σ} (state : σ) : Sets deliver world middle →
    Sets deliver world { middle with host := state }
  | newBag {middle : World σ} (typeName : String)
      {values : List (String × Value)} : Sets deliver world middle →
      (middle.Sound middle.loaded →
       Value.EntriesKnown middle middle.loaded values) →
      Sets deliver world (middle.newBag typeName values).2
  | newList {middle : World σ} {values : List Value} :
      Sets deliver world middle →
      (middle.Sound middle.loaded →
       ∀ value ∈ values, value.Known middle middle.loaded) →
      Sets deliver world (middle.newList values).2
  | set {middle : World σ} (bag : BagId) (name : String) {value : Value} :
    Sets deliver world middle →
      (middle.Sound middle.loaded → value.Known middle middle.loaded) →
        Sets deliver world (bag.set deliver name value middle).2

end World

/-- Whether a host is called because a property or a list has changed. -/
def HostCall.IsChange : HostCall → Prop
  | .property _ _ | .list _ _ => True
  | _ => False

/-- Listeners of the host change only its own state, and its handlers only set
properties of bags. -/
structure Host.Tame (host : Host σ) : Prop where
  listens : ∀ (deliver : Deliver σ) (call : HostCall) (world : World σ),
      call.IsChange →
      ∃ state,
        (host.respond deliver call world).2 = { world with host := state }
  handles : ∀ (deliver : Deliver σ) (call : HostCall) (world : World σ),
      ¬ call.IsChange → world.Sets deliver (host.respond deliver call world).2

theorem Host.silent_tame : (Host.silent : Host σ).Tame where
  listens _ _ world _ := ⟨world.host, rfl⟩
  handles _ _ _ _ := .done

end LiveMarkup
