import LiveMarkup.Proofs.Bindings.Beginning

/-!
# Building components

Building a component adds a tree of widgets, gives values to their properties
and begins their live properties.  At the end all live properties are settled,
and the new tree can be put below a widget that is in a tree already.
-/

namespace LiveMarkup

/-- The aliases that some components declare. -/
def declaredNames (parts : List Component) : List String :=
  parts.filterMap (·.aliasName)

/-- No template of a loop declares an alias. -/
def TemplatesUnnamed (parts : List Component) : Prop :=
  ∀ part ∈ parts, ∀ inner ∈ Loop.walkAll part.loops, inner.aliasName = none

theorem declaredNames_append (left right : List Component) :
    declaredNames (left ++ right) = declaredNames left ++ declaredNames right :=
  List.filterMap_append ..

theorem declaredNames_unnamed {parts : List Component}
    (unnamed : ∀ part ∈ parts, part.aliasName = none) : declaredNames parts = [] :=
  List.filterMap_eq_nil_iff.mpr unnamed

theorem TemplatesUnnamed.subset {parts fewer : List Component}
    (unnamed : TemplatesUnnamed parts) (included : fewer ⊆ parts) :
    TemplatesUnnamed fewer :=
  fun part member => unnamed part (included member)

mutual

/-- The templates inside a part of a component are inside the component. -/
theorem Component.loops_walk : (component : Component) → ∀ part ∈ component.walk,
    Loop.walkAll part.loops ⊆ component.walk
  | ⟨name, aliasName, properties, signals, children, loops, span⟩ => by
    intro part member inner inside
    rw [Component.walk] at member ⊢
    rcases List.mem_cons.mp member with rfl | below
    · exact List.mem_cons_of_mem _ (List.mem_append_right _ inside)
    · rcases List.mem_append.mp below with child | template
      · exact List.mem_cons_of_mem _ (List.mem_append_left _
          (Component.loops_walkAll children part child inside))
      · exact List.mem_cons_of_mem _ (List.mem_append_right _
          (Loop.loops_walkAll loops part template inside))

/-- The templates of a component in a list of trees are among its parts. -/
theorem Component.loops_walkAll :
    (components : List Component) →
    ∀ part ∈ Component.walkAll components,
      Loop.walkAll part.loops ⊆ Component.walkAll components
  | [] => nofun
  | component :: rest => by
    intro part member inner inside
    rw [Component.walkAll] at member ⊢
    rcases List.mem_append.mp member with first | later
    · exact List.mem_append_left _
        (Component.loops_walk component part first inside)
    · exact List.mem_append_right _ (Component.loops_walkAll rest part later inside)

/-- The same for the components of a loop. -/
theorem Loop.loops_walk : (loop : Loop) → ∀ part ∈ loop.walk,
    Loop.walkAll part.loops ⊆ loop.walk
  | ⟨source, itemType, indexName, valueName, children, loops, span⟩ => by
    intro part member inner inside
    rw [Loop.walk] at member ⊢
    rcases List.mem_append.mp member with child | template
    · exact List.mem_append_left _
        (Component.loops_walkAll children part child inside)
    · exact List.mem_append_right _ (Loop.loops_walkAll loops part template inside)

/-- And for those of several loops. -/
theorem Loop.loops_walkAll : (loops : List Loop) →
    ∀ part ∈ Loop.walkAll loops, Loop.walkAll part.loops ⊆ Loop.walkAll loops
  | [] => nofun
  | loop :: rest => by
    intro part member inner inside
    rw [Loop.walkAll] at member ⊢
    rcases List.mem_append.mp member with first | later
    · exact List.mem_append_left _ (Loop.loops_walk loop part first inside)
    · exact List.mem_append_right _ (Loop.loops_walkAll rest part later inside)

end

namespace World

variable {σ : Type} {world middle after : World σ} {deliver : Deliver σ}
  {bound : Nat}
  {roots : List Owned} {handle : HandleId} {names more : List String}

/-! ## Parts in order -/

/-- Where part of a document is built: below roots that are kept, for a document
that exists. -/
structure Site (roots : List Owned) (handle : HandleId) (world : World σ) :
    Prop where
  settled : Settled none roots world [] []
  rooted : world.Rooted roots
  inside : handle.index < world.handles.size

theorem Builds.rooted (builds : Builds handle names world after)
    (pins : world.pins ⊆ after.pins) (rooted : world.Rooted roots) :
    after.Rooted roots := by
  intro thing member
  rw [builds.held]
  rcases List.mem_append.mp (rooted thing member) with held | kept
  · exact List.mem_append_left _ held
  · exact List.mem_append_right _ (pins kept)

theorem Built.site (built : Built roots handle names world after)
    (site : Site roots handle world) : Site roots handle after where
  settled := built.settled
  rooted := built.builds.rooted
    (by rw [built.pins]; exact List.Subset.refl _) site.rooted
  inside := Nat.lt_of_lt_of_le site.inside built.builds.later.fits.handles

theorem Built.trans (left : Built roots handle names world middle)
    (right : Built roots handle more middle after) :
    Built roots handle (names ++ more) world after :=
  ⟨right.settled, left.builds.trans right.builds, right.pins.trans left.pins⟩

theorem Site.refl (site : Site roots handle world) :
    Built roots handle [] world world :=
  ⟨site.settled, .refl handle [] world, rfl⟩

/-- What runs while things are kept alive has succeeded if the whole has, and
only what was kept is released. -/
theorem attempting_ok {α : Type} {things : List Owned} {attempt : Attempt σ α}
    {result : α}
    (success : (attempting things attempt).run world = (.ok result, after)) :
    ∃ inner,
      attempt.run (world.pin things) = (.ok result, inner) ∧
      after = World.sweep { inner with pins := world.pins } := by
  change keeping things attempt.run world = (.ok result, after) at success
  unfold keeping at success
  rcases run : attempt.run (world.pin things) with ⟨outcome, inner⟩
  rw [run] at success
  cases success
  exact ⟨inner, rfl, rfl⟩

/-- What was kept during an operation is kept no longer. -/
theorem Settled.release (settled : Settled none roots world [] [])
    (pins : List Owned) :
    Settled none roots (World.sweep { world with pins }) [] [] ∧
    world.Stays (World.sweep { world with pins }) ∧
    (World.sweep { world with pins }).pins = pins := by
  have same : SameState world { world with pins } := rfl
  have released := settled.sameState same
  exact ⟨released.sweep, (same.stays rfl).trans (stays_sweep released.wired),
    pins_sweep released.wired⟩

theorem Site.pin (site : Site roots handle world) (things : List Owned) :
    Site roots handle (world.pin things) where
  settled := site.settled.sameState rfl
  rooted thing member := by
    rcases List.mem_append.mp (site.rooted thing member) with held | kept
    · exact List.mem_append_left _ held
    · exact List.mem_append_right _ (List.mem_append_right _ kept)
  inside := site.inside

theorem builds_pin (world : World σ) (things : List Owned) (handle : HandleId) :
    Builds handle [] world (world.pin things) :=
  have same : SameState world (world.pin things) := rfl
  (same.stays rfl).builds handle

/-- Whatever is built while things are kept has been built when they are kept no
longer. -/
theorem Builds.release {things : List Owned}
    (settled : Settled none roots middle [] [])
    (builds : Builds handle names (world.pin things) middle) :
    Built roots handle names world
      (World.sweep { middle with pins := world.pins }) := by
  obtain ⟨released, stays, pins⟩ := settled.release world.pins
  exact ⟨released, ((builds_pin world things handle).trans builds).unnamed
    (stays.builds handle), pins⟩

/-- An attempt whose errors are passed on has succeeded by itself. -/
theorem tryCatch_ok {α : Type} {attempt : Attempt σ α}
    {handler : UiError → Attempt σ α} {result : α}
    (passes :
      ∀ error world after result,
        (handler error).run world ≠ (.ok result, after))
    (success : (tryCatch attempt handler).run world = (.ok result, after)) :
    attempt.run world = (.ok result, after) := by
  rw [Attempt.tryCatch_run] at success
  split at success
  case h_1 outcome between ran => exact ran.trans success
  case h_2 error between ran =>
    exact absurd success (passes error between after result)

/-- A step that touches neither the tree nor aliases is part of building. -/
theorem Alters.builds (alters : Alters world after)
    (held : after.held = world.held) (widgets : after.widgets = world.widgets)
    (nodes : ∀ id, (after.handle id).nodes = (world.handle id).nodes)
    (handle : HandleId) : Builds handle [] world after where
  later := alters.later
  held
  children parent := by
    simp only [World.widget, widgets]
    exact List.Subset.refl _
  parent id _ := by simp only [World.widget, widgets]
  nodes name _ := by simp only [aliasWidget?, nodes]

theorem Site.furnishes (site : Site roots handle world)
    (furnishes : Furnishes world after) (held : after.held = world.held)
    (widgets : after.widgets = world.widgets)
    (nodes : ∀ id, (after.handle id).nodes = (world.handle id).nodes)
    (pins : after.pins = world.pins) : Built roots handle [] world after :=
  ⟨site.settled.furnishes furnishes,
    furnishes.toAlters.builds held widgets nodes handle, pins⟩

/-- A row of steps that each build something builds all of it, as long as live
properties stay below the limit. -/
theorem Built.forM {α : Type} {action : α → Attempt σ PUnit}
    (keeps : ∀ item, Attempt.Keeps (action item)) {limit : Nat}
    (known : World σ → Prop)
    (later :
      ∀ world after, known world → Builds handle [] world after → known after)
    (step :
      ∀ item world after,
        Site roots handle world → known world →
        (action item).run world = (.ok ⟨⟩, after) → after.liveCount < limit →
        Built roots handle [] world after) (items : List α) (world : World σ)
    (site : Site roots handle world) (holds : known world)
    (success : (items.forM action).run world = (.ok ⟨⟩, after))
    (room : after.liveCount < limit) : Built roots handle [] world after := by
  induction items generalizing world with
  | nil =>
    cases success
    exact site.refl
  | cons item rest hypothesis =>
    obtain ⟨_, between, first, others⟩ := Attempt.bind_ok success
    have grown : between.liveCount ≤ after.liveCount := by
      have keepsRest : Attempt.Keeps (rest.forM action) := .forM keeps
      have grown := keepsRest between
      rwa [others] at grown
    have built :=
      step item world between site holds first (Nat.lt_of_le_of_lt grown room)
    exact built.trans (hypothesis between (built.site site)
      (later world between holds built.builds) others)

/-! ## Widgets -/

/-- A widget is created behind all others, and the journal has it. -/
theorem createWidget_ok {name : String} {id : WidgetId}
    (success :
      (Toolkit.create name : Attempt σ WidgetId).run world = (.ok id, after)) :
    ∃ cls,
      id = ⟨world.widgets.size⟩ ∧
      after = ((world.record (.create name)).newWidget cls).2 := by
  obtain ⟨_, between, records, creates⟩ := Attempt.bind_ok success
  cases records
  rw [Attempt.bind_run, Attempt.getThe_run] at creates
  cases found : (world.record (.create name)).registry.find name with
  | none =>
    simp only [found] at creates
    cases creates
  | some cls =>
    simp only [found] at creates
    cases creates
    exact ⟨cls, rfl, rfl⟩

theorem builds_record (world : World σ) (call : ToolkitCall) (handle : HandleId) :
    Builds handle [] world (world.record call) :=
  have same : SameState world (world.record call) := rfl
  (same.stays rfl).builds handle

/-- A new widget has no parent yet. -/
theorem Site.createWidget {name : String} {id : WidgetId}
    (site : Site roots handle world)
    (success :
      (Toolkit.create name : Attempt σ WidgetId).run world = (.ok id, after)) :
    Built roots handle [] world after ∧ id.index = world.widgets.size ∧
    id.index < after.widgets.size ∧ (after.widget id).parent = none := by
  obtain ⟨cls, rfl, rfl⟩ := createWidget_ok success
  have recorded := site.settled.record (.create name)
  refine ⟨⟨recorded.settled.furnishes (furnishes_newWidget _ cls),
    (recorded.stays.builds handle).trans (builds_newWidget _ cls handle), rfl⟩,
    rfl, ?_, ?_⟩
  · rw [newWidget, Store.size_add]
    exact Nat.lt_succ_self _
  · rw [widget_newWidget]
    exact congrArg Widget.parent (if_pos rfl)

/-- Looking up an event changes nothing. -/
theorem event_run {widget : WidgetId} {name event : String}
    (success :
      (widget.event name : Attempt σ String).run world = (.ok event, after)) :
    after = world := by
  obtain ⟨_, _, gets, found⟩ := Attempt.bind_ok success
  cases gets
  simp only at found
  split at found <;> cases found
  rfl

/-- Connecting a handler builds nothing that live properties depend on. -/
theorem Site.connect {widget : WidgetId} {name : String} {handler : Handler}
    (site : Site roots handle world)
    (success :
      (Toolkit.connect widget name handler : Attempt σ Unit).run world =
        (.ok (), after)) : Built roots handle [] world after := by
  obtain ⟨_, between, records, connects⟩ := Attempt.bind_ok success
  cases records
  obtain ⟨event, _, named, changes⟩ := Attempt.bind_ok connects
  cases event_run named
  cases changes
  have recorded := site.settled.record (.connect widget name)
  have tree : Furnishes (world.record (.connect widget name))
      ((world.record (.connect widget name)).updateWidget widget fun old =>
        { old with connections := old.connections ++ [(event, handler)] }) :=
    furnishes_tree widget fun old =>
      ⟨old.children, old.parent, _, List.Subset.refl _, rfl⟩
  refine ⟨recorded.settled.furnishes tree,
    (recorded.stays.builds handle).trans ?_, rfl⟩
  exact {
    later := tree.later
    held := rfl
    children := tree.children
    parent := fun id _ => widget_project _ widget id _ Widget.parent fun _ => rfl
    nodes := fun _ _ => rfl }

/-- The properties of a widget are set. -/
theorem Site.buildProperties (site : Site roots handle world)
    (serves : Serves deliver bound)
    (keeps : ∀ callback, Action.Keeps (deliver callback))
    (keeper : SubscriptionKeeper) {widget : WidgetId} {scope : Scope}
    {properties : List Property} (held : world.Held roots widget)
    (inside : widget.index < world.widgets.size)
    (known : scope.Known world world.loaded)
    (success :
      (properties.forM (buildProperty deliver handle keeper widget scope)).run
        world = (.ok ⟨⟩, after)) (room : after.liveCount < bound) :
    Built roots handle [] world after := by
  refine Built.forM (fun property =>
    within_buildProperty (within_notify fun callback _ => keeps callback) handle
      keeper widget scope property)
    (fun world => world.Held roots widget ∧ widget.index < world.widgets.size ∧
      scope.Known world world.loaded) ?_ ?_ properties world site
    ⟨held, inside, known⟩ success room
  · rintro world after ⟨held, inside, known⟩ builds
    exact ⟨held.mono (List.Subset.refl _) builds.children,
      Nat.lt_of_lt_of_le inside builds.later.fits.widgets,
      Scope.Known.mono builds.later.fits builds.later.loaded known⟩
  · rintro property world after site ⟨held, inside, known⟩ success room
    exact serves.buildProperty keeps keeper site.settled site.rooted held
      site.inside inside known success room

/-- Neither does a signal of a component. -/
theorem Site.buildSignal {widget : WidgetId} {signal : Signal}
    (site : Site roots handle world)
    (success :
      (buildSignal handle widget signal : Attempt σ Unit).run world =
        (.ok (), after)) : Built roots handle [] world after := by
  obtain ⟨_, _, gets, connects⟩ := Attempt.bind_ok success
  cases gets
  simp only at connects
  split at connects
  · cases connects
  · split at connects
    · cases connects
    · exact site.connect connects

/-- More callbacks may come. -/
theorem Settled.await {left : Option BindingId} {stack : List BindingId}
    {pending : List Callback}
    (settled : Settled left roots world stack pending) (extra : List Callback) :
    Settled left roots world stack (extra ++ pending) :=
  { settled with
    fresh := fun id other recorded eligible =>
      (settled.fresh id other recorded eligible).imp_right fun later =>
        later.imp_right fun ⟨callback, member, waits⟩ =>
          ⟨callback, List.mem_append_right _ member, waits⟩ }

/-- The handlers of an event run. -/
theorem Serves.emit (serves : Serves deliver bound) {widget : WidgetId}
    {name : String} {arguments : List Value} (site : Site roots handle world)
    (success : (widget.emit deliver name arguments).run world = (.ok (), after))
    (room : world.liveCount + 1 < bound) :
    Built roots handle [] world after := by
  obtain ⟨event, _, named, runs⟩ := Attempt.bind_ok success
  cases event_run named
  obtain ⟨_, _, gets, runs⟩ := Attempt.bind_ok runs
  cases gets
  have ran := congrArg Prod.snd runs
  rw [Attempt.lift_run] at ran
  simp only at ran
  have served : Served roots [] [] world _ :=
    serves.runAll (site.settled.await
      (((world.widget widget).connections.filter (·.1 == event)).map
        fun connection => .event connection.2 arguments)) site.rooted
      fun callback member => by
        obtain ⟨_, _, rfl⟩ := List.mem_map.mp member
        exact ⟨room, rfl⟩
  rw [ran] at served
  exact served.built handle

/-- A widget becomes ready. -/
theorem Serves.becomeReady (serves : Serves deliver bound) {widget : WidgetId}
    (site : Site roots handle world)
    (success : (widget.becomeReady deliver).run world = (.ok (), after))
    (room : world.liveCount + 1 < bound) :
    Built roots handle [] world after := by
  obtain ⟨_, _, notes, emits⟩ := Attempt.bind_ok success
  cases notes
  have noted := (site.settled.noteReady widget).built handle
  exact noted.trans (serves.emit (noted.site site) emits room)

/-! ## Declared aliases -/

/-- The aliases of some components can be declared: the document has none of
them, they differ, and no template declares one. -/
structure Declarable (handle : HandleId) (world : World σ)
    (parts : List Component) : Prop where
  fresh : ∀ name ∈ declaredNames parts, world.aliasWidget? handle name = none
  distinct : (declaredNames parts).Nodup
  templates : TemplatesUnnamed parts

variable {first rest : List Component}

/-- The first of some components can be declared if all of them can. -/
theorem Declarable.before (declarable : Declarable handle world (first ++ rest)) :
    Declarable handle world first where
  fresh name member := declarable.fresh name (by
    rw [declaredNames_append]
    exact List.mem_append_left _ member)
  distinct := by
    have distinct := declarable.distinct
    rw [declaredNames_append] at distinct
    exact (List.nodup_append.mp distinct).1
  templates := declarable.templates.subset (List.subset_append_left ..)

/-- Parts that come later can still be declared. -/
theorem Declarable.behind
    (declarable : Declarable handle world (first ++ rest))
    (builds : Builds handle (declaredNames first) world after) :
    Declarable handle after rest := by
  have distinct := declarable.distinct
  rw [declaredNames_append] at distinct
  obtain ⟨_, differ, apart⟩ := List.nodup_append.mp distinct
  refine ⟨fun name member => ?_, differ,
    declarable.templates.subset (List.subset_append_right ..)⟩
  rw [builds.nodes name fun both => apart name both name member rfl]
  refine declarable.fresh name ?_
  rw [declaredNames_append]
  exact List.mem_append_right _ member

/-- What does not declare a name leaves the names declarable. -/
theorem Declarable.later (declarable : Declarable handle world components)
    (builds : Builds handle [] world after) :
    Declarable handle after components := by
  have nothing : Builds handle (declaredNames []) world after := builds
  exact Declarable.behind declarable nothing

/-- Components without aliases can always be declared. -/
theorem Declarable.unnamed {components : List Component}
    (unnamed : ∀ part ∈ Component.walkAll components, part.aliasName = none)
    (handle : HandleId) (world : World σ) :
    Declarable handle world (Component.walkAll components) := by
  have nothing := declaredNames_unnamed unnamed
  refine ⟨?_, ?_, fun part member inner inside =>
    unnamed inner (Component.loops_walkAll components part member inside)⟩
  · rw [nothing]
    exact nofun
  · rw [nothing]
    exact .nil

end World

end LiveMarkup
