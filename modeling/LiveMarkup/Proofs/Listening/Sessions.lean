import LiveMarkup.Proofs.Bindings.Following
import LiveMarkup.Proofs.Listening.Documents

/-!
# Sessions in which values name what there is

A session is what a host does, one act after the other.  All that it has to see
to is that the values it writes name only what there is.  In every world it
comes to, live properties listen to what they have read, and none of them is
being refreshed.
-/

namespace LiveMarkup

variable {σ : Type} {deliver : Deliver σ} {host : Host σ} {world after : World σ}

open World (Heeds Attentive Apart)

/-- The values and the documents that come with an act are there.  What else is
done leaves live properties alone; a sweep may follow. -/
def Act.Sensible (world : World σ) : Act σ → Prop
  | .renderSource _ controller _ => controller.state.index < world.bags.size
  | .render _ handle _ _ | .created handle => handle.index < world.handles.size
  | .push _ value | .insert _ _ value | .set _ _ value | .write _ _ value =>
    value.Known world world.loaded
  | .extend _ values | .raise _ _ values =>
    ∀ value ∈ values, value.Known world world.loaded
  | .other change => ∃ changed, Apart world changed ∧
      (change world = changed ∨ change world = changed.sweep)
  | _ => True

/-- An act leaves live properties listening. -/
theorem Act.Sensible.heeds {act : Act σ} (sensible : act.Sensible world)
    (delivers : deliver.Heedful) (attentive : Attentive world) :
    world.Heeds (act.perform deliver world) := by
  cases act with
  | addChild parent child =>
    exact (World.retrees_addChild world parent child).alters.heeds attentive
  | removeChild parent child => exact attentive.removeChild parent child
  | moveChild parent child index => exact attentive.moveChild parent child index
  | detach child => exact (World.retrees_detach world child).alters.heeds attentive
  | create cls =>
    exact (World.furnishes_newWidget world cls).toAlters.heeds attentive
  | load parent path => exact (delivers.load attentive parent path).heeds
  | renderSource source controller parent =>
    exact (delivers.renderSource attentive source sensible parent).heeds
  | render document handle parent directory =>
    exact (delivers.render attentive sensible document parent directory).heeds
  | created handle => exact delivers.created attentive sensible
  | update handle delta => exact delivers (.updated _ delta) world attentive trivial
  | dispose handle => exact delivers.dispose attentive handle
  | push list value => exact delivers.push attentive list sensible
  | extend list values => exact delivers.extend attentive list sensible
  | insert list index value => exact delivers.insert attentive list index sensible
  | remove list index => exact delivers.remove attentive list index
  | removeItem list value => exact delivers.removeItem attentive list value
  | truncate list length => exact delivers.truncate attentive list length
  | set bag name value => exact delivers.hearing.set attentive bag name sensible
  | write widget name value =>
    exact (delivers.hearing.write attentive widget name sensible).heeds
  | announce object changed =>
    exact delivers.hearing.notify attentive object changed
  | raise widget name arguments =>
    exact (delivers.emit attentive widget name sensible).heeds
  | other change =>
    obtain ⟨changed, apart, same | same⟩ := sensible <;> rw [perform, same]
    · exact apart.heeds attentive
    · exact (apart.heeds attentive).trans (apart.attentive attentive).sweep

/-- Acts in a row leave live properties listening. -/
theorem World.Acts.heeds (acts : World.Acts deliver Act.Sensible world after)
    (delivers : deliver.Heedful) (attentive : Attentive world) :
    world.Heeds after := by
  induction acts with
  | done => exact .refl attentive
  | act act _ sensible hypothesis =>
    exact hypothesis.trans (sensible.heeds delivers hypothesis.attentive)

/-- Whether the values that a host is called with name only what there is. -/
def HostCall.Known (world : World σ) : HostCall → Prop
  | .handler _ _ arguments | .event _ arguments =>
    ∀ value ∈ arguments, value.Known world world.loaded
  | .list _ change => change.value.Known world world.loaded
  | .created _ handle => handle.index < world.handles.size
  | .property _ _ | .updated _ _ | .disposed _ => True

/-- A host that, given values that name only what there is, writes only such
values when it is called. -/
def Host.Sensible (host : Host σ) : Prop :=
  ∀ deliver call world, Attentive world → call.Known world →
    World.Acts deliver Act.Sensible world (host.respond deliver call world).2

/-- Callbacks of a sensible host leave live properties listening, however deeply
they are nested. -/
theorem Host.Sensible.delivers (sensible : host.Sensible) (depth : Nat) :
    (host.deliver depth).Heedful := by
  induction depth with
  | zero =>
    exact fun _ world attentive _ =>
      (show World.SameState world { world with exhausted := true }
        from rfl).heeds attentive
  | succ depth hypothesis =>
    intro callback world attentive known
    have responds : ∀ call : HostCall,
        call.Known world →
        world.Heeds (host.respond (host.deliver depth) call world).2 := by
      intro call known
      exact (sensible (host.deliver depth) call world attentive known).heeds
        hypothesis attentive
    have scripted : ∀ (controller : Controller) (call : HostCall),
        call.Known world →
        world.Heeds ((if controller.scripted
          then host.respond (host.deliver depth) call else pure () :
          Action σ Unit) world).2 := by
      intro controller call known
      split
      · exact responds call known
      · exact .refl attentive
    cases callback with
    | property listener changed =>
      cases listener with
      | binding id generation property =>
        change world.Heeds (host.run (host.deliver depth) _ world).2
        rw [World.run_binding]
        split
        · exact hypothesis.hearing.refresh attentive id
        · exact .refl attentive
      | host number => exact responds (.property number changed) trivial
    | list listener change =>
      cases listener with
      | block id => exact hypothesis.follow attentive id known
      | host number => exact responds (.list number change) known
    | event handler arguments =>
      cases handler with
      | controller controller name =>
        exact scripted controller (.handler controller name arguments) known
      | host number => exact responds (.event number arguments) known
    | created controller handle =>
      exact scripted controller (.created controller handle) known
    | updated controller delta =>
      exact scripted controller (.updated controller delta) trivial
    | disposed controller =>
      exact scripted controller (.disposed controller) trivial
    | dispose handle => exact hypothesis.dispose attentive handle

namespace World

theorem Unrendered.attentive (unrendered : world.Unrendered) : Attentive world :=
  have settled := unrendered.settled []
  ⟨settled.sound, settled.wired,
    fun id recorded => .inr (settled.covered id nofun recorded)⟩

/-- In the course of a session live properties listen to what they have read,
and none is being refreshed when the host acts. -/
theorem Acts.attentive {start : World σ} (unrendered : start.Unrendered)
    (sensible : host.Sensible) {depth : Nat}
    (session : Acts (host.deliver depth) Act.Sensible start world) :
    Attentive world ∧ world.Resting := by
  have heeds := session.heeds (sensible.delivers depth) unrendered.attentive
  refine ⟨heeds.attentive, heeds.busy.resting fun id => ?_⟩
  rw [isBusy, binding?_of_none unrendered.bindings, Option.any_none]

end World

theorem Host.silent_sensible : (Host.silent : Host σ).Sensible :=
  fun _ _ _ _ _ => .done

end LiveMarkup
