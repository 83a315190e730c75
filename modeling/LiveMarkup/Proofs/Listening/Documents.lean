import LiveMarkup.Proofs.Listening.Growing
import LiveMarkup.Proofs.Trees.Sessions

/-!
# Sessions leave live properties listening

Documents are rendered, loaded and disposed of, lists and properties change, and
handlers of the host do any of that in between.  Whatever is done, live
properties listen to what they have read.
-/

namespace LiveMarkup

variable {σ : Type} {deliver : Deliver σ} {world : World σ}

open World (Heeds Attentive Apart)

/-! ## Documents -/

namespace Deliver.Heedful

/-- A root that is given up takes its live properties along. -/
theorem giveUpRoot (attentive : Attentive world) (id : HandleId) :
    world.Heeds ((World.giveUpRoot id : Action σ Unit) world).2 := by
  unfold World.giveUpRoot
  rw [Action.bind_apply, Action.get_apply]
  cases (world.handle id).root with
  | none => exact .refl attentive
  | some root =>
    have pinned := attentive.pin [.widget root]
    have given : (world.pin [.widget root]).Heeds
        ((world.pin [.widget root]).updateHandle id ({ · with root := none })) :=
      (World.apart_updateHandle _ id ({ · with root := none }) (fun _ => rfl)
        (fun _ member => .inl member) (fun _ member => .inl member)
        fun _ member => .inl member).heeds pinned.attentive
    refine .keeping attentive (.bind given (.bind (.refl given.attentive) ?_))
    cases World.parent? _ root with
    | none => exact .refl given.attentive
    | some parent => exact given.attentive.removeChild parent root

/-- Taking a document down leaves the live properties of others listening. -/
theorem teardown (delivers : deliver.Heedful) (attentive : Attentive world)
    (id : HandleId) : world.Heeds (id.teardown deliver world).2 := by
  have forgets : Apart world (world.updateHandle id ({ · with imports := [] })) :=
    World.apart_updateHandle world id _ (fun _ => rfl) (fun _ member => .inl member)
      (fun _ member => absurd member List.not_mem_nil) fun _ member => .inl member
  have forgotten := forgets.heeds attentive
  have disposed :
      World.Heeds _ (keeping
        (((world.handle id).imports.map Prod.snd).map .handle)
        (((world.handle id).imports.map Prod.snd).forM fun child =>
          deliver (.dispose child)) _).2 :=
    .keeping forgotten.attentive
      (.forM (forgotten.attentive.pin _).attentive fun child _ middle begun =>
        delivers (.dispose child) middle begun.attentive trivial)
  have cancelled := disposed.attentive.cancelHandle id
  have swept := cancelled.trans cancelled.attentive.sweep
  rw [World.teardown_apply]
  exact (forgotten.trans disposed).trans
    (swept.trans (giveUpRoot swept.attentive id))

/-- So does disposing of it. -/
theorem dispose (delivers : deliver.Heedful) (attentive : Attentive world)
    (id : HandleId) : world.Heeds (id.dispose deliver world).2 := by
  have pinned := attentive.pin [.handle id]
  have noted :=
    pinned.trans
      ((show World.SameState _
        ((world.pin [.handle id]).noteLife (.disposed id)) from rfl).heeds
        pinned.attentive)
  have told :=
    noted.trans (delivers (.disposed (world.handle id).controller) _
      noted.attentive trivial)
  rw [World.dispose_apply]
  exact (told.trans (delivers.teardown told.attentive id)).release world.pins

theorem created (delivers : deliver.Heedful) (attentive : Attentive world)
    {id : HandleId} (known : id.index < world.handles.size) :
    world.Heeds (id.created deliver world).2 := by
  have noted :=
    (show World.SameState world (world.noteLife (.created id)) from rfl).heeds
      attentive
  exact noted.trans (delivers (.created (world.handle id).controller id) _
    noted.attentive known)

/-- A way to load files that leaves live properties listening; a document that
is loaded has a handle. -/
def Loads (load : WidgetId → String → Attempt σ HandleId) : Prop :=
  ∀ parent path world, Attentive world →
    (load parent path).Heedful world fun id after => id.index < after.handles.size

section Imports

variable {load : WidgetId → String → Attempt σ HandleId}

/-- An import is loaded, or it fails, and live properties listen to what they
have read in either case. -/
theorem importEntry (loads : Loads load) (attentive : Attentive world)
    (id : HandleId) (parent root : WidgetId) (directory : String)
    (entry : Import) :
    (World.importEntry load id parent root directory entry).Heedful world
      fun _ _ => True := by
  refine .bind (loads _ _ world attentive) fun child middle begun known => .get ?_
  have notes : ∀ (later : World σ), later.Attentive →
      child.index < later.handles.size →
      (modifyThe (World σ) (·.updateHandle id fun old =>
        { old with imports := old.imports ++
          [((middle.handle child).name, child)] }) :
            Attempt σ PUnit).Heedful later fun _ _ => True := by
    intro later attentive inside
    have apart := World.apart_updateHandle later id (fun old =>
      { old with imports := old.imports ++ [((middle.handle child).name, child)] })
      (fun _ => rfl) (fun _ member => .inl member)
      (fun entry member => (List.mem_append.mp member).imp_right fun new => by
        rw [List.mem_singleton.mp new]
        exact inside)
      fun _ member => .inl member
    exact .change (apart.heeds attentive) trivial
  dsimp only
  split
  · have listed := (show World.SameState middle { middle with
      topControllers := middle.topControllers ++
        [((middle.handle child).name, child)] }
        from rfl).heeds begun.attentive
    exact .modify listed (notes _ listed.attentive known)
  · exact notes middle begun.attentive known

/-- So they do when the tree of a document is rendered. -/
theorem renderTree (delivers : deliver.Heedful) (loads : Loads load)
    (attentive : Attentive world) {id : HandleId}
    (known : id.index < world.handles.size) (document : Document)
    (parent : WidgetId) (directory : String) :
    (renderTree deliver load document id parent directory).Heedful world
      fun _ _ => True := by
  refine .bind (heedful_component delivers ⟨id, .handle id⟩ document.root [] world
    ⟨attentive, known, nofun⟩) fun root built begun _ => ?_
  have pinned := begun.attentive.pin [.widget root]
  have rooted : (built.pin [.widget root]).Heeds
      ((built.pin [.widget root]).updateHandle id ({ · with root := some root })) :=
    (World.apart_updateHandle _ id ({ · with root := some root }) (fun _ => rfl)
      (fun _ member => .inl member) (fun _ member => .inl member)
      fun _ member => .inl member).heeds pinned.attentive
  refine .attempting begun.attentive (.modify rooted ?_) fun _ _ _ _ _ => trivial
  exact .bind (.forM rooted.attentive fun entry _ middle begun =>
    importEntry loads begun.attentive id parent root directory entry)
      fun _ middle begun _ => .pure begun.attentive trivial

/-- And when a document is rendered with its imports, also if that is undone. -/
theorem renderWith (delivers : deliver.Heedful) (loads : Loads load)
    (attentive : Attentive world) {id : HandleId}
    (known : id.index < world.handles.size) (document : Document)
    (parent : WidgetId) (directory : String) :
    (renderWith deliver load document id parent directory).Heedful world
      fun _ _ => True := by
  have pinned := attentive.pin [.handle id, .widget parent]
  refine .get (.attempting attentive (.tryCatch ?_ fun error after failed => ?_)
    fun _ _ _ _ _ => trivial)
  · refine .bind (delivers.renderTree loads pinned.attentive
      (pinned.handle known) document parent directory)
      fun root middle begun _ => ?_
    have put := begun.attentive.addChild parent root
    exact .perform put (.pure put.attentive trivial)
  · have shortened := (show World.SameState after { after with
      topControllers := after.topControllers.take world.topControllers.length }
        from rfl).heeds
        failed.attentive
    refine .modify shortened ?_
    have gone := delivers.teardown shortened.attentive id
    exact .perform gone (.throw gone.attentive)

end Imports

theorem createHandle (attentive : Attentive world) (name : String)
    {controller : Controller}
    (known : controller.state.index < world.bags.size) :
    world.Heeds ((HandleId.create name controller :
      Action σ HandleId) world).2 :=
  (World.furnishes_createHandle world name known).toAlters.heeds attentive

theorem createHandle_inside (world : World σ) (name : String)
    (controller : Controller) :
    world.handles.size <
      ((HandleId.create name controller : Action σ HandleId)
        world).2.handles.size :=
  Nat.lt_of_lt_of_eq (Nat.lt_succ_self _) (Store.size_add world.handles _).symm

/-- The handle of a loaded document gets the controller that its name is
registered for. -/
theorem createController (attentive : Attentive world) (name : String) :
    (LiveMarkup.createController name : Attempt σ HandleId).Heedful world
      fun id after => id.index < after.handles.size := by
  refine .get ?_
  split
  · exact .throw attentive
  · next controller found =>
    have inside := attentive.sound.controllers _ (World.mem_of_lookup found)
    exact .lift (createHandle attentive _ inside)
      (createHandle_inside world _ controller)

/-- Documents that import each other are loaded in this way, however deeply they
nest. -/
theorem loadWithin (delivers : deliver.Heedful) (depth : Nat) :
    Loads (LiveMarkup.loadWithin deliver depth) := by
  induction depth with
  | zero => exact fun parent path world attentive => .throw attentive
  | succ depth hypothesis =>
    intro parent path world attentive
    refine .get ?_
    split
    · exact .throw attentive
    split
    · exact .throw attentive
    · next document _ =>
      refine .bind (createController attentive _) fun id made begun known => ?_
      have pinned := begun.attentive.pin [.handle id]
      refine .attempting begun.attentive ?_ fun _ _ _ heeds known =>
        heeds.handle known
      refine .bind (delivers.renderWith hypothesis pinned.attentive
        (pinned.handle known) document parent _) fun _ middle after _ => ?_
      have told :=
        delivers.created after.attentive (after.handle (pinned.handle known))
      exact .perform told
        (.pure told.attentive
          (told.handle (after.handle (pinned.handle known))))

theorem load (delivers : deliver.Heedful) (attentive : Attentive world)
    (parent : WidgetId) (path : String) :
    (load deliver parent path).Heedful world fun id after => id.index <
      after.handles.size :=
  .get (delivers.loadWithin _ parent path world attentive)

theorem render (delivers : deliver.Heedful) (attentive : Attentive world)
    {id : HandleId} (known : id.index < world.handles.size)
    (document : Document) (parent : WidgetId) (directory : String) :
    (render deliver document id parent directory).Heedful world
      fun _ _ => True :=
  .get (delivers.renderWith (delivers.loadWithin _) attentive known document
    parent directory)

/-- So is a source text that is rendered for a controller, also if it cannot be
read. -/
theorem renderSource (delivers : deliver.Heedful)
    (attentive : Attentive world) (source : String) {controller : Controller}
    (known : controller.state.index < world.bags.size) (parent : WidgetId) :
    (renderSource deliver source controller parent).Heedful world
      fun _ _ => True := by
  refine .get ?_
  split
  · exact .throw attentive
  · next document _ =>
    have made := createHandle attentive (world.bag controller.state).typeName known
    have inside :=
      createHandle_inside world (world.bag controller.state).typeName controller
    refine .perform made ?_
    generalize ((HandleId.create (world.bag controller.state).typeName controller :
      Action σ HandleId) world).2 = created at made inside
    have pinned := made.attentive.pin [.handle ⟨world.handles.size⟩]
    refine .attempting made.attentive ?_ fun _ _ _ _ _ => trivial
    refine .bind (delivers.render pinned.attentive inside document parent ".")
      fun _ middle after _ => ?_
    have told := delivers.created after.attentive (after.handle inside)
    exact .perform told (.pure told.attentive trivial)

end Deliver.Heedful

end LiveMarkup
