import LiveMarkup.Proofs.Trees.Growing

/-!
# The tree in the course of a session

A session is what a host does to the world, one act after the other: it puts
widgets below others and takes them away, renders documents and disposes of
them, changes lists and sets properties.  All of that may cause callbacks, in
which handlers of the host act in the same way.

In the course of a session the widgets form a forest, and the links between
parents and children agree.  The host sees to it that it never puts a widget
inside itself.  Handlers must see to a little more: while a document is built,
its parts are not yet where they belong, so that no handler could tell what they
will lie in.  If handlers put widgets only below older ones, no circle is closed
when the parts are put in place.  Links agree also without that.
-/

namespace LiveMarkup

variable {σ : Type}

/-! ## Acts -/

/-- Something that is done to the world. -/
inductive Act (σ : Type) where
  | addChild (parent child : WidgetId)
  | removeChild (parent child : WidgetId)
  | moveChild (parent child : WidgetId) (index : Nat)
  | detach (child : WidgetId)
  | create (cls : WidgetClass)
  | load (parent : WidgetId) (path : String)
  | renderSource (source : String) (controller : Controller) (parent : WidgetId)
  | render (document : Document) (handle : HandleId) (parent : WidgetId)
      (directory : String)
  | created (handle : HandleId)
  | update (handle : HandleId) (delta : Float)
  | dispose (handle : HandleId)
  | push (list : ListId) (value : Value)
  | extend (list : ListId) (values : List Value)
  | insert (list : ListId) (index : Nat) (value : Value)
  | remove (list : ListId) (index : Nat)
  | removeItem (list : ListId) (value : Value)
  | truncate (list : ListId) (length : Nat)
  | set (bag : BagId) (name : String) (value : Value)
  | write (widget : WidgetId) (name : String) (value : Value)
  | announce (object : ObjectId) (changed : String)
  | raise (widget : WidgetId) (name : String) (arguments : List Value)
  /-- Something else that leaves the tree alone, and causes no callbacks. -/
  | other (change : World σ → World σ)

namespace Act

/-- The world after an act, whether it has failed or not. -/
def perform (deliver : Deliver σ) (world : World σ) : Act σ → World σ
  | .addChild parent child => world.addChild parent child
  | .removeChild parent child => world.removeChild parent child
  | .moveChild parent child index => world.moveChild parent child index
  | .detach child => world.detach child
  | .create cls => (world.newWidget cls).2
  | .load parent path => ((LiveMarkup.load deliver parent path).run world).2
  | .renderSource source controller parent =>
    ((LiveMarkup.renderSource deliver source controller parent).run world).2
  | .render document handle parent directory =>
    ((LiveMarkup.render deliver document handle parent directory).run world).2
  | .created handle => (handle.created deliver world).2
  | .update handle delta => (handle.update deliver delta world).2
  | .dispose handle => (handle.dispose deliver world).2
  | .push list value => (list.push deliver value world).2
  | .extend list values => (list.extend deliver values world).2
  | .insert list index value => (list.insert deliver index value world).2
  | .remove list index => (list.remove deliver index world).2
  | .removeItem list value => (list.removeItem deliver value world).2
  | .truncate list length => (list.truncate deliver length world).2
  | .set bag name value => (bag.set deliver name value world).2
  | .write widget name value => ((widget.write deliver name value).run world).2
  | .announce object changed => (object.notify deliver changed world).2
  | .raise widget name arguments =>
    ((widget.emit deliver name arguments).run world).2
  | .other change => change world

/-- The widgets that an act puts something below, and those it puts there, have
been made; what leaves the tree alone does so. -/
def Grounded (world : World σ) : Act σ → Prop
  | .addChild parent child => world.HasAll [parent, child]
  | .load parent _ | .renderSource _ _ parent | .render _ _ parent _ =>
    world.HasAll [parent]
  | .other change => world.SameTree (change world)
  | _ => True

/-- Besides, no widget is put inside itself, be it directly or by way of others. -/
def Proper (world : World σ) (act : Act σ) : Prop :=
  act.Grounded world ∧
  ∀ parent child, act = .addChild parent child → ¬ world.Inside parent child

/-- Besides, widgets are only put below older ones. -/
def Modest (world : World σ) (act : Act σ) : Prop :=
  act.Proper world ∧
  ∀ parent child, act = .addChild parent child → parent.index < child.index

/-- What an act does preserves a property that building keeps, if putting one
widget below another does not violate it. -/
theorem preserves {holds : World σ → Prop} [World.KeptByBuilding holds]
    {deliver : Deliver σ}
    (delivers :
      ∀ callback, Action.Within (World.Preserves holds []) (deliver callback))
    {world : World σ} {act : Act σ} (grounded : act.Grounded world)
    (adds :
      ∀ parent child,
        act = .addChild parent child → holds world →
        holds (world.addChild parent child)) :
    World.Preserves holds [] world (act.perform deliver world) := by
  have most : Deliver.Within (World.Preserves holds []) deliver :=
    fun callback _ => delivers callback
  cases act with
  | addChild parent child =>
    exact .of_holds (World.widgetCount_addChild world parent child)
      (World.blocks_addChild world parent child) (adds parent child rfl)
  | removeChild parent child => exact .removeChild world parent child
  | moveChild parent child index =>
    exact AllowsGrafting.moveChild [] world parent child index
  | detach child =>
    cases below : (world.widget child).parent with
    | none =>
      rw [perform, World.detach_of_none below]
      exact .refl world
    | some parent =>
      rw [perform, World.detach_of_some below]
      exact .removeChild world parent child
  | create cls => exact AllowsGrafting.within (World.Preserves.newWidget world cls)
  | load parent path =>
    exact World.Preserves.of_known
      (grafts_load delivers [parent] parent List.mem_cons_self path world)
      grounded
  | renderSource source controller parent =>
    exact World.Preserves.of_known
      (grafts_renderSource delivers source controller List.mem_cons_self world)
      grounded
  | render document handle parent directory =>
    exact World.Preserves.of_known
      (grafts_render delivers document handle List.mem_cons_self directory
        world) grounded
  | created handle => exact within_created delivers handle world
  | update handle delta => exact within_update delivers handle delta world
  | dispose handle =>
    exact within_disposal (AllowsGrafting.removeChild []) delivers handle world
  | push list value => exact within_push most list value world
  | extend list values => exact within_extend most list values world
  | insert list index value => exact within_insert most list index value world
  | remove list index => exact within_remove most list index world
  | removeItem list value => exact within_removeItem most list value world
  | truncate list length => exact within_truncate most list length world
  | set bag name value => exact within_set (within_notify most) bag name value world
  | write widget name value =>
    exact within_write (within_notify most (.widget widget)) name value world
  | announce object changed => exact within_notify most object changed world
  | raise widget name arguments =>
    exact within_emit most widget name arguments world
  | other change => exact .of_sameTree grounded

end Act

/-! ## Acts in a row -/

/-- Acts in a row, each of which is allowed in the world it is done to, lead
from a world to another. -/
inductive World.Acts (deliver : Deliver σ) (allowed : World σ → Act σ → Prop)
    (world : World σ) : World σ → Prop
  | done : Acts deliver allowed world world
  | act {middle : World σ} (act : Act σ) :
      Acts deliver allowed world middle → allowed middle act →
      Acts deliver allowed world (act.perform deliver middle)

/-- Whatever a host does when it is called in a world in which links agree are
acts that are allowed. -/
def Host.Does (allowed : World σ → Act σ → Prop) (host : Host σ) : Prop :=
  ∀ deliver call world, world.Stands World.Linked →
    World.Acts deliver allowed world (host.respond deliver call world).2

namespace World

variable {holds : World σ → Prop} {deliver : Deliver σ}
  {allowed : World σ → Act σ → Prop}
  {host : Host σ} {world middle after : World σ}

theorem Acts.mono {wider : World σ → Act σ → Prop}
    (acts : Acts deliver allowed world after)
    (widens : ∀ world act, allowed world act → wider world act) :
    Acts deliver wider world after := by
  induction acts with
  | done => exact .done
  | act act _ may hypothesis => exact .act act hypothesis (widens _ _ may)

/-- Acts in a row preserve what each of them does. -/
theorem Acts.preserves [KeptByBuilding holds]
    (delivers :
      ∀ callback, Action.Within (Preserves holds []) (deliver callback))
    (grounded : ∀ world act, allowed world act → act.Grounded world)
    (adds :
      ∀ world parent child,
        allowed world (.addChild parent child) → holds world →
        holds (world.addChild parent child))
    (acts : Acts deliver allowed world after) :
    Preserves holds [] world after := by
  induction acts with
  | done => exact .refl world
  | act act _ may hypothesis =>
    exact hypothesis.trans
      (act.preserves delivers (grounded _ _ may) fun parent child same =>
        adds _ parent child (same ▸ may))

/-- Callbacks preserve what the acts of the host do. -/
theorem preserves_deliver [KeptByBuilding holds] (does : host.Does allowed)
    (grounded : ∀ world act, allowed world act → act.Grounded world)
    (adds :
      ∀ world parent child,
        allowed world (.addChild parent child) → holds world →
        holds (world.addChild parent child)) (depth : Nat)
    (callback : Callback) :
    Action.Within (Preserves holds []) (host.deliver depth callback) :=
  grafts_deliver
    (fun _ delivers => within_refresh (fun _ _ _ => .of_sameTree (.of_eq rfl rfl))
      (within_notify fun callback _ => delivers callback))
    (fun deliver delivers call world stands =>
      (does deliver call world stands.linked).preserves delivers grounded
        adds stands)
    depth callback

/-! ## A session -/

/-- In the course of a session links that agree go on to do so, whatever the
handlers put where. -/
theorem Acts.preserves_linked (does : host.Does Act.Grounded) {depth : Nat}
    (session : Acts (host.deliver depth) Act.Grounded world after) :
    Preserves Linked [] world after := by
  have adds : ∀ (world : World σ) parent child,
      Act.Grounded world (.addChild parent child) → world.Linked →
      (world.addChild parent child).Linked := by
    intro world parent child made linked
    exact linked.addChild (made parent List.mem_cons_self)
      (made child (List.mem_cons_of_mem _ List.mem_cons_self))
  exact session.preserves
    (preserves_deliver does (fun _ _ grounded => grounded) adds depth)
    (fun _ _ grounded => grounded) adds

/-- An act of a session keeps a forest, if handlers put widgets only below older
ones. -/
theorem forest_perform (does : host.Does Act.Modest) {depth : Nat}
    (begun : Stands Forest world) {act : Act σ} (proper : act.Proper world) :
    Stands Forest (act.perform (host.deliver depth) world) := by
  by_cases added : ∃ parent child, act = .addChild parent child
  · obtain ⟨parent, child, rfl⟩ := added
    have made := proper.1
    refine begun.of_blocks ?_
      (Nat.le_of_eq (widgetCount_addChild world parent child).symm)
      (blocks_addChild world parent child)
    exact begun.holds.addChild (made parent List.mem_cons_self)
      (made child (List.mem_cons_of_mem _ List.mem_cons_self))
      (proper.2 parent child rfl)
  · have adds : ∀ (middle : World σ) parent child,
        Act.Modest middle (.addChild parent child) →
        ForestSince world.widgets.size middle →
        ForestSince world.widgets.size (middle.addChild parent child) :=
      fun middle parent child modest forest =>
        forest.addChild (modest.2 parent child rfl)
          (modest.1.1 child (List.mem_cons_of_mem _ List.mem_cons_self))
          (modest.1.2 parent child rfl)
    have delivers :=
      preserves_deliver does (fun _ _ modest => modest.1.1) adds depth
    have kept := act.preserves delivers proper.1 fun parent child same =>
      absurd ⟨parent, child, same⟩ added
    have since : Stands (ForestSince world.widgets.size) world :=
      ⟨begun.holds.since, begun.places⟩
    have stands := (kept since nofun).1
    exact ⟨stands.holds.toForest, stands.places⟩

/-- In the course of a session the widgets form a forest, if handlers put
widgets only below older ones. -/
theorem Acts.forest (does : host.Does Act.Modest)
    (begun : Stands Forest world) {depth : Nat}
    (session : Acts (host.deliver depth) Act.Proper world after) :
    Stands Forest after := by
  induction session with
  | done => exact begun
  | act act _ proper hypothesis => exact forest_perform does hypothesis proper

/-- In a forest links agree. -/
theorem Stands.links (stands : Stands Forest world) : Stands Linked world :=
  ⟨stands.holds.toLinked, stands.places⟩

/-- Every widget has its place, and the operations on the tree put it where they
should. -/
structure WellPlaced (world : World σ) : Prop where
  /-- The children of a widget are those whose parent it is. -/
  agree : ∀ parent child : WidgetId, world.existing (.widget parent) →
    (child ∈ (world.widget parent).children ↔ world.parent? child = some parent)
  /-- A child occurs once among the children of its parent. -/
  once : ∀ parent child : WidgetId, child ∈ (world.widget parent).children →
    (world.widget parent).children.count child = 1
  /-- A child occurs among the children of no other widget. -/
  only : ∀ parent other child : WidgetId, child ∈ (world.widget parent).children →
    child ∈ (world.widget other).children → other = parent
  /-- To put a child below its own parent moves it to the end. -/
  again : ∀ parent child : WidgetId,
      world.parent? child = some parent →
        (∀ id,
          ((world.addChild parent child).widget id).children =
            if id = parent then
              (world.widget parent).children.erase child ++ [child]
            else (world.widget id).children) ∧
        ∀ id,
          ((world.addChild parent child).widget id).parent =
            (world.widget id).parent
  /-- A child that is moved is found at the index, or last if there are not so
  many children; the others keep their order. -/
  moved : ∀ (parent child : WidgetId) (index : Nat),
      child ∈ (world.widget parent).children →
        ((world.moveChild parent child index).widget parent).children[min index
          ((world.widget parent).children.length - 1)]? = some child ∧
        ((world.moveChild parent child index).widget parent).children.erase
          child = (world.widget parent).children.erase child ∧
        (∀ id,
          id ≠ parent →
          ((world.moveChild parent child index).widget id).children =
            (world.widget id).children) ∧
        ∀ id,
          ((world.moveChild parent child index).widget id).parent =
            (world.widget id).parent
  /-- To take away or to move what is no child changes nothing, and neither does
  it to detach what has no parent. -/
  strangers :
      (∀ parent child : WidgetId,
        child ∉ (world.widget parent).children →
          world.removeChild parent child = world ∧
          ∀ index, world.moveChild parent child index = world) ∧
      ∀ child : WidgetId,
        (world.widget child).parent = none → world.detach child = world

/-- The parent that is found is the recorded one, as long as it exists. -/
theorem parent?_eq_some {parent child : WidgetId} :
    world.parent? child = some parent ↔
      world.HasParent child parent ∧
      world.existing (.widget parent) = true := by
  rw [parent?, Option.bind_eq_some_iff]
  constructor
  · rintro ⟨found, below, same⟩
    unfold existingWidget? at same
    split at same
    · next existing =>
      cases same
      exact ⟨below, existing⟩
    · cases same
  · rintro ⟨below, existing⟩
    exact ⟨parent, below, if_pos existing⟩

/-- Where links agree, every widget has its place. -/
theorem Linked.wellPlaced (linked : world.Linked) : world.WellPlaced where
  agree parent child existing := by
    rw [parent?_eq_some, and_iff_left existing]
    exact linked.agree
  once parent child member := List.count_eq_one_of_mem (linked.once parent) member
  only parent other child member also :=
    Option.some.inj ((linked.agree.mp also).symm.trans (linked.agree.mp member))
  again parent child below := linked.addChild_again (parent?_eq_some.mp below).1
  moved parent child index member := linked.moveChild_place member index
  strangers :=
    ⟨fun _ _ stranger =>
      ⟨removeChild_of_not_mem stranger, moveChild_of_not_mem stranger⟩,
      fun _ => detach_of_none⟩

/-- In the course of a session every widget has its place, whatever the handlers
put where; and no widget lies below itself, if they put widgets only below older
ones. -/
theorem session_wellPlaced {host : Host σ} (does : host.Does Act.Grounded)
    {world after : World σ} (begun : Stands Forest world) {depth : Nat}
    (session : Acts (host.deliver depth) Act.Proper world after) :
    after.WellPlaced ∧
    (host.Does Act.Modest → ∀ id : WidgetId, ¬ after.LiesBelow id id) := by
  have grounded := session.mono fun _ _ proper => proper.1
  constructor
  · exact (grounded.preserves_linked does begun.links nofun).1.holds.wellPlaced
  · intro modest
    exact (session.forest modest begun).holds.acyclic

theorem silent_does (allowed : World σ → Act σ → Prop) :
    (Host.silent : Host σ).Does allowed :=
  fun _ _ _ _ => .done

/-- A world without widgets and loops is a beginning. -/
theorem stands_of_empty (widgets : world.widgets.size = 0)
    (blocks : world.blocks.size = 0) : Stands Forest world :=
  ⟨forest_of_empty widgets, fun _ _ found =>
    absurd (blocks ▸ Store.lt_size_of_get? found) (Nat.not_lt_zero _)⟩

/-- Two widgets are made, one is put below the other, and then the rendering of
a document fails there, and that of another one succeeds. -/
theorem session_wellPlaced_documents :
    let start : World Unit := { host := () }
    let deliver : Deliver Unit := Host.silent.deliver 1
    let two := ((start.newWidget Builtin.control).2.newWidget Builtin.control).2
    let joined := two.addChild ⟨0⟩ ⟨1⟩
    let failed :=
      ((renderSource deliver "Panel \x7b Gone \x7b \x7d \x7d" default ⟨1⟩).run
        joined).2
    let after :=
      ((renderSource deliver "Panel \x7b Label \x7b \x7d \x7d" default ⟨1⟩).run
        failed).2
    (Host.silent : Host Unit).Does Act.Grounded ∧ Stands Forest start ∧
        Acts deliver Act.Proper start after ∧ after.WellPlaced ∧ ∀ id :
        WidgetId, ¬ after.LiesBelow id id := by
  intro start deliver two joined failed after
  have begun : Stands Forest start := stands_of_empty rfl rfl
  have free : ¬ two.Inside ⟨0⟩ ⟨1⟩ := by
    intro inside
    rcases inside.cases_head with same | ⟨_, below, _⟩
    · cases same
    · cases below
  have session : Acts deliver Act.Proper start after := by
    have made : Acts deliver Act.Proper start two :=
      .act (.create _) (.act (.create _) .done ⟨trivial, nofun⟩) ⟨trivial, nofun⟩
    have put : Acts deliver Act.Proper start joined := by
      refine .act (.addChild ⟨0⟩ ⟨1⟩) made ⟨?_, fun parent child same => ?_⟩
      · exact HasAll.cons (by decide) (HasAll.cons (by decide) nofun)
      · cases same
        exact free
    have begins : joined.HasAll [⟨1⟩] := HasAll.cons (by decide) nofun
    have fails : Acts deliver Act.Grounded joined failed :=
      .act (.renderSource _ _ ⟨1⟩) .done begins
    have grown := (fails.preserves_linked (silent_does _)
      (put.forest (silent_does _) begun).links nofun).2
    exact .act (.renderSource _ _ ⟨1⟩)
      (.act (.renderSource _ _ ⟨1⟩) put ⟨begins, nofun⟩)
      ⟨begins.mono grown, nofun⟩
  obtain ⟨placed, acyclic⟩ :=
    session_wellPlaced (silent_does Act.Grounded) begun session
  exact ⟨silent_does _, begun, session, placed, acyclic (silent_does _)⟩

end World

end LiveMarkup
