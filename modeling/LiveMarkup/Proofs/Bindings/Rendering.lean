import LiveMarkup.Proofs.Bindings.Components

/-!
# Rendering documents

A document is rendered below a widget of a tree that is kept: first its own tree
is built, then the documents it imports are rendered below its root or beside
it, and at last the root joins the tree.
-/

namespace LiveMarkup

/-- Every alias of a document is declared once, and none in the template of a
loop. -/
structure Document.AliasesOutside (document : Document) : Prop where
  distinct : (declaredNames document.root.walk).Nodup
  templates : TemplatesUnnamed document.root.walk

/-- A file that is read is one of the files that there are. -/
theorem Files.read_mem {files : Files} {path source : String}
    (found : files.read path = .ok source) :
    ∃ entry ∈ files.texts, entry.2 = source := by
  have follows : ∀ (parts here : List (List Char)),
      Files.follow files.entries parts here = .ok source →
      ∃ entry ∈ files.texts, entry.2 = source := by
    intro parts
    induction parts with
    | nil =>
      intro here found
      unfold Files.follow at found
      split at found <;> cases found
      case h_1 listed =>
        obtain ⟨entry, member, same⟩ := List.mem_map.mp (World.mem_of_lookup listed)
        exact ⟨entry, member, congrArg Prod.snd same⟩
    | cons part rest hypothesis =>
      intro here found
      unfold Files.follow at found
      simp only at found
      repeat' split at found
      all_goals first | cases found | exact hypothesis _ found
  rw [Files.read] at found
  repeat' split at found
  all_goals first | cases found | exact follows _ _ found

namespace World

variable {σ : Type} {world middle after : World σ} {deliver : Deliver σ}
  {bound : Nat}
  {roots : List Owned} {handle : HandleId} {names : List String}

/-- All documents that may be imported declare their aliases outside of
templates. -/
def FilesOutside (world : World σ) : Prop :=
  ∀ entry ∈ world.files.texts, ∀ document,
    Document.read world.converters entry.2 = .ok document → document.AliasesOutside

/-- The tree has grown, and the live properties are settled. -/
structure Extended (roots : List Owned) (world after : World σ) : Prop where
  settled : Settled none roots after [] []
  later : world.Later after
  held : after.held = world.held
  children : ∀ parent : WidgetId,
      (world.widget parent).children ⊆ (after.widget parent).children
  parent : ∀ id : WidgetId, id.index < world.widgets.size →
    (after.widget id).parent = (world.widget id).parent
  pins : after.pins = world.pins

theorem Built.extended (built : Built roots handle names world after) :
    Extended roots world after :=
  ⟨built.settled, built.builds.later, built.builds.held, built.builds.children,
    built.builds.parent, built.pins⟩

theorem Extended.builds (extended : Extended roots world after)
    (handle : HandleId)
    (same :
      ∀ name, after.aliasWidget? handle name = world.aliasWidget? handle name) :
    Builds handle [] world after :=
  ⟨extended.later, extended.held, extended.children, extended.parent,
    fun name _ => same name⟩

/-- Extensions in a row are one extension. -/
theorem Extended.trans (left : Extended roots world middle)
    (right : Extended roots middle after) : Extended roots world after where
  settled := right.settled
  later := left.later.trans right.later
  held := right.held.trans left.held
  children parent :=
    List.Subset.trans (left.children parent) (right.children parent)
  parent id inside :=
    (right.parent id (Nat.lt_of_lt_of_le inside left.later.fits.widgets)).trans
      (left.parent id inside)
  pins := right.pins.trans left.pins

theorem Extended.rooted (extended : Extended roots world after) {more : List Owned}
    (rooted : world.Rooted more) : after.Rooted more := by
  intro thing member
  rw [extended.held, extended.pins]
  exact rooted thing member

theorem Extended.site (extended : Extended roots world after)
    (site : Site roots handle world) : Site roots handle after :=
  ⟨extended.settled, extended.rooted site.rooted,
    Nat.lt_of_lt_of_le site.inside extended.later.fits.handles⟩

theorem Extended.below (extended : Extended roots world after)
    {widget : WidgetId} {scope : Scope}
    (below : Below roots widget scope world) :
    Below roots widget scope after where
  held := below.held.mono (List.Subset.refl _) extended.children
  inside := Nat.lt_of_lt_of_le below.inside extended.later.fits.widgets
  known := Scope.Known.mono extended.later.fits extended.later.loaded below.known

theorem Below.more {widget : WidgetId} {scope : Scope}
    (below : Below roots widget scope world) (thing : Owned) :
    Below (thing :: roots) widget scope world :=
  ⟨below.held.mono (List.subset_cons_self ..) fun _ => List.Subset.refl _,
    below.inside, below.known⟩

/-- A new tree that is still apart is put below a widget. -/
theorem Extended.place {parent child : WidgetId} {scope : Scope}
    (extended : Extended (.widget child :: roots) world middle)
    (new : world.widgets.size ≤ child.index)
    (free : (middle.widget child).parent = none)
    (below : Below roots parent scope world) :
    Extended roots world (middle.addChild parent child) := by
  have held : middle.Held roots parent :=
    below.held.mono (List.Subset.refl _) extended.children
  have inside := Nat.lt_of_lt_of_le below.inside extended.later.fits.widgets
  have first :
      Furnishes middle (middle.updateWidget child
        ({ · with parent := some parent })) :=
    furnishes_tree child fun old => ⟨old.children, some parent, old.connections,
      List.Subset.refl _, rfl⟩
  have second :
      Furnishes (middle.updateWidget child ({ · with parent := some parent }))
        ((middle.updateWidget child
          ({ · with parent := some parent })).updateWidget parent fun old =>
            { old with children := old.children ++ [child] }) :=
    furnishes_tree parent fun old =>
      ⟨old.children ++ [child], old.parent, old.connections,
        List.subset_append_left .., rfl⟩
  rw [← addChild_free free] at second
  exact {
    settled := extended.settled.addChild free held inside
    later := (extended.later.trans first.later).trans second.later
    held := (congrArg World.held (addChild_free free)).trans extended.held
    children := fun id =>
      List.Subset.trans (List.Subset.trans (extended.children id)
        (first.children id)) (second.children id)
    parent := fun id below => by
      rw [widget_addChild free]
      simp only
      rw [if_neg (by rintro ⟨rfl, _⟩; omega)]
      exact extended.parent id below
    pins := (congrArg World.pins (addChild_free free)).trans extended.pins }

theorem Extended.record (extended : Extended roots world middle)
    (call : ToolkitCall) : Extended roots world (middle.record call) :=
  extended.trans ((extended.settled.record call).built ⟨0⟩).extended

/-! ## Imports -/

/-- A way to load documents below widgets of a tree. -/
structure Loads (load : WidgetId → String → Attempt σ HandleId) (bound : Nat) :
    Prop where
  keeps : ∀ host path, Attempt.Keeps (load host path)
  extended : ∀ roots world after host path handle,
      Settled none roots world [] [] → world.Rooted roots →
      Below roots host [] world → world.FilesOutside →
      (load host path).run world = (.ok handle, after) →
      after.liveCount + 1 < bound →
      Extended roots world after ∧ handle.index < after.handles.size

theorem FilesOutside.later (outside : world.FilesOutside)
    (later : world.Later after) : after.FilesOutside := by
  intro entry member document parsed
  rw [later.agrees.files] at member
  rw [later.agrees.converters] at parsed
  exact outside entry member document parsed


/-- The root of a document is noted by its handle. -/
theorem Site.noteRoot (site : Site roots handle world) (root : WidgetId) :
    Extended roots world
      (world.updateHandle handle ({ · with root := some root })) := by
  have furnishes :
      Furnishes world (world.updateHandle handle
        ({ · with root := some root })) :=
    furnishes_updateHandle world handle (fun _ => rfl) (fun _ => rfl)
      (fun _ => rfl) (fun _ _ found => found) (fun _ member => .inl member)
      (fun _ absent => absent) fun _ member => .inl member
  refine (site.furnishes furnishes rfl rfl (fun id => ?_) rfl).extended
  rw [handle_updateHandle]
  split <;> rfl

/-- An imported document is noted by the handle of the one that imports it. -/
theorem Site.noteImport (site : Site roots handle world) (name : String)
    {child : HandleId} (inside : child.index < world.handles.size) :
    Extended roots world
      (world.updateHandle handle fun old =>
        { old with imports := old.imports ++ [(name, child)] }) := by
  have furnishes : Furnishes world (world.updateHandle handle fun old =>
      { old with imports := old.imports ++ [(name, child)] }) := by
    refine furnishes_updateHandle world handle (fun _ => rfl) (fun _ => rfl)
      (fun _ => rfl) (fun _ _ found => found) (fun _ member => .inl member)
      (fun other absent => ?_) fun entry member => ?_
    · rw [List.lookup_append, Option.or_eq_none_iff] at absent
      exact absent.1
    · rcases List.mem_append.mp member with old | new
      · exact .inl old
      · rw [List.mem_singleton.mp new]
        exact .inr inside
  refine (site.furnishes furnishes rfl rfl (fun id => ?_) rfl).extended
  rw [handle_updateHandle]
  split <;> rfl

/-- An import is loaded for a document without removing any live property. -/
theorem Loads.keeps_importEntry
    {load : WidgetId → String → Attempt σ HandleId} (loads : Loads load bound)
    (host root : WidgetId) (directory : String) (entry : Import) :
    Attempt.Keeps (importEntry load handle host root directory entry) := by
  refine .bind (loads.keeps _ _) fun child => .bind .getThe fun world => ?_
  simp only
  split
  · refine .bind (.modifyThe fun _ => Nat.le_refl _) ?_
    intro _
    exact .modifyThe fun _ => Nat.le_refl _
  · exact .modifyThe fun _ => Nat.le_refl _

/-- One import of a document is loaded and noted. -/
theorem Loads.importEntry {load : WidgetId → String → Attempt σ HandleId}
    (loads : Loads load bound) (site : Site roots handle world)
    {entry : Import} {host root : WidgetId} {directory : String}
    (belowHost : Below roots host [] world)
    (belowRoot : Below roots root [] world) (outside : world.FilesOutside)
    (success :
      (World.importEntry load handle host root directory entry).run world =
        (.ok ⟨⟩, after)) (room : after.liveCount + 1 < bound) :
    Extended roots world after := by
  obtain ⟨child, loaded, loading, success⟩ := Attempt.bind_ok success
  obtain ⟨_, _, gets, success⟩ := Attempt.bind_ok success
  cases gets
  have same : after.liveCount = loaded.liveCount := by
    split at success
    · obtain ⟨_, _, notes, success⟩ := Attempt.bind_ok success
      cases notes
      cases success
      rfl
    · cases success
      rfl
  have below : Below roots (if entry.topLevel then host else root) [] world := by
    split
    · exact belowHost
    · exact belowRoot
  obtain ⟨extended, inside⟩ :=
    loads.extended roots world loaded _ _ child site.settled site.rooted below
      outside loading (by omega)
  have atLoaded := extended.site site
  split at success
  · obtain ⟨_, noted, notes, success⟩ := Attempt.bind_ok success
    cases notes
    cases success
    have kept : SameState loaded { loaded with
        topControllers := loaded.topControllers ++
          [((loaded.handle child).name, child)] } := rfl
    have top : Extended roots loaded { loaded with
        topControllers := loaded.topControllers ++
          [((loaded.handle child).name, child)] } :=
      (Built.mk (atLoaded.settled.sameState kept)
        ((kept.stays rfl).builds handle) rfl).extended
    exact (extended.trans top).trans ((top.site atLoaded).noteImport _ inside)
  · cases success
    exact extended.trans (atLoaded.noteImport _ inside)

theorem Site.extended (site : Site roots handle world) :
    Extended roots world world :=
  site.refl.extended

/-- The imports of a document are loaded in order. -/
theorem Loads.imports {load : WidgetId → String → Attempt σ HandleId}
    (loads : Loads load bound) {host root : WidgetId} {directory : String}
    (entries : List Import) (world : World σ) (site : Site roots handle world)
    (belowHost : Below roots host [] world)
    (belowRoot : Below roots root [] world) (outside : world.FilesOutside)
    (success :
      (entries.forM (World.importEntry load handle host root directory)).run
        world = (.ok ⟨⟩, after)) (room : after.liveCount + 1 < bound) :
    Extended roots world after := by
  induction entries generalizing world with
  | nil =>
    cases success
    exact site.extended
  | cons entry rest hypothesis =>
    obtain ⟨_, between, first, others⟩ := Attempt.bind_ok success
    have keepsRest :
        Attempt.Keeps (rest.forM
          (World.importEntry load handle host root directory)) :=
      Attempt.Within.forM (loads.keeps_importEntry host root directory)
    have kept := keepsRest.le others
    have extended :=
      loads.importEntry site belowHost belowRoot outside first (by omega)
    exact extended.trans
      (hypothesis between (extended.site site) (extended.below belowHost)
        (extended.below belowRoot) (outside.later extended.later) others)

/-- What is kept during an operation adds to its roots. -/
theorem Site.keep (site : Site roots handle world) {thing : Owned}
    {things : List Owned} (member : thing ∈ things) :
    Site (thing :: roots) handle (world.pin things) := by
  have pinned := site.pin things
  refine ⟨pinned.settled.grow (List.subset_cons_self ..), fun other there => ?_,
    pinned.inside⟩
  rcases List.mem_cons.mp there with rfl | old
  · exact List.mem_append_right _ (List.mem_append_left _ member)
  · exact pinned.rooted other old

/-- What was extended while things were kept has been extended when they are
kept no longer. -/
theorem Extended.release {things : List Owned}
    (extended : Extended roots (world.pin things) middle)
    (released : World.sweep { middle with pins := world.pins } = after) :
    Extended roots world after := by
  obtain ⟨settled, stays, pins⟩ := extended.settled.release world.pins
  rw [released] at settled stays pins
  exact {
    settled
    later := ((builds_pin world things ⟨0⟩).later.trans extended.later).trans
      stays.later
    held := stays.held.trans extended.held
    children := fun id => by
      rw [stays.children]
      exact extended.children id
    parent := fun id inside => (stays.parent id).trans (extended.parent id inside)
    pins }

/-- The tree of a document, with the documents it imports, has grown. -/
theorem Carries.renderTree (carries : Carries deliver bound)
    {load : WidgetId → String → Attempt σ HandleId} (loads : Loads load bound)
    {document : Document} {host root : WidgetId} {directory : String}
    (site : Site roots handle world) (below : Below roots host [] world)
    (outside : world.FilesOutside)
    (declarable : Declarable handle world document.root.walk)
    (success :
      (LiveMarkup.renderTree deliver load document handle host directory).run
        world = (.ok root, after)) (room : after.liveCount + 1 < bound) :
    Extended (.widget root :: roots) world after ∧
    world.widgets.size ≤ root.index ∧ (after.widget root).parent = none := by
  obtain ⟨id, built, builds, success⟩ := Attempt.bind_ok success
  obtain ⟨inner, ran, released⟩ := attempting_ok success
  have same : after.liveCount = inner.liveCount := by
    rw [released, World.liveCount_sweep]
    rfl
  obtain ⟨_, noted, notes, success⟩ := Attempt.bind_ok ran
  obtain ⟨_, imported, imports, ends⟩ := Attempt.bind_ok success
  cases ends
  cases notes
  have keepsImports :
      Attempt.Keeps (document.imports.forM
        (World.importEntry load handle host root directory)) :=
    Attempt.Within.forM (loads.keeps_importEntry host root directory)
  have keptImports := keepsImports.le imports
  have grown := carries.buildComponent handle (.handle handle) document.root []
    roots world built root
    site nofun declarable builds (by
      have kept : built.liveCount ≤ inner.liveCount := keptImports
      omega)
  have first : Extended (.widget root :: roots) world built :=
    ⟨grown.settled, grown.builds.later, grown.builds.held, grown.builds.children,
      grown.builds.parent, grown.pins⟩
  have atBuilt :
      Site (.widget root :: roots) handle (built.pin [.widget root]) := by
    refine ⟨grown.settled.sameState rfl, fun thing member => ?_,
      Nat.lt_of_lt_of_le site.inside grown.builds.later.fits.handles⟩
    rcases List.mem_cons.mp member with rfl | old
    · exact List.mem_append_right _ (List.mem_cons_self ..)
    · rcases List.mem_append.mp (first.rooted site.rooted thing old)
        with held | kept
      · exact List.mem_append_left _ held
      · exact List.mem_append_right _ (List.mem_cons_of_mem _ kept)
  have rootNoted := atBuilt.noteRoot root
  have belowRoot :
      Below (.widget root :: roots) root [] (built.pin [.widget root]) :=
    ⟨.root (List.mem_cons_self ..), grown.inside, nofun⟩
  have belowHost := (first.below (below.more (.widget root))).builds
    (builds_pin built [.widget root] handle)
  have imported :=
    loads.imports document.imports _ (rootNoted.site atBuilt)
      (rootNoted.below belowHost) (rootNoted.below belowRoot)
      (outside.later
        ((first.later.trans (builds_pin built _ handle).later).trans
          rootNoted.later)) imports (by omega)
  have whole := (rootNoted.trans imported).release released.symm
  exact ⟨first.trans whole, grown.new,
    (whole.parent root grown.inside).trans grown.free⟩

/-- A document that is rendered extends the tree below its host. -/
theorem Carries.renderWith (carries : Carries deliver bound)
    {load : WidgetId → String → Attempt σ HandleId} (loads : Loads load bound)
    {document : Document} {host root : WidgetId} {directory : String}
    (site : Site roots handle world) (below : Below roots host [] world)
    (outside : world.FilesOutside)
    (declarable : Declarable handle world document.root.walk)
    (success :
      (LiveMarkup.renderWith deliver load document handle host directory).run
        world = (.ok root, after)) (room : after.liveCount + 1 < bound) :
    Extended roots world after := by
  obtain ⟨_, _, gets, success⟩ := Attempt.bind_ok success
  cases gets
  obtain ⟨inner, ran, released⟩ := attempting_ok success
  have same : after.liveCount = inner.liveCount := by
    rw [released, World.liveCount_sweep]
    rfl
  have rendered := tryCatch_ok (fun error world after result same => by
    obtain ⟨_, _, _, rest⟩ := Attempt.bind_ok same
    obtain ⟨_, _, _, rest⟩ := Attempt.bind_ok rest
    cases rest) ran
  obtain ⟨id, tree, renders, success⟩ := Attempt.bind_ok rendered
  obtain ⟨_, placed, places, ends⟩ := Attempt.bind_ok success
  cases ends
  have kept :=
    (Attempt.Within.lift (.minor (Toolkit.minor_addChild host root))).le places
  have pinned := site.pin [.handle handle, .widget host]
  have pins := builds_pin world [.handle handle, .widget host] handle
  have belowPinned := below.builds pins
  obtain ⟨grown, new, free⟩ :=
    carries.renderTree loads pinned belowPinned (outside.later pins.later)
      (declarable.later pins) renders (by omega)
  have joined := (grown.record (.add host root)).place new free belowPinned
  cases places
  exact joined.release released.symm

/-- A controller learns that its document is in place. -/
theorem Carries.created (carries : Carries deliver bound)
    (site : Site roots handle world) {other : HandleId}
    (success :
      (liftM (other.created deliver : Action σ Unit) :
        Attempt σ Unit).run world = (.ok (), after))
    (room : world.liveCount + 1 < bound) : Extended roots world after := by
  cases success
  have noted := site.settled.noteLife (.created other)
  have served :=
    carries.serves roots (world.noteLife (.created other)) []
      (.created (world.handle other).controller other) []
      (noted.settled.await [_]) site.rooted ⟨room, rfl⟩
  exact ((noted.trans served).built handle).extended

theorem Declarable.new {document : Document}
    (outside : document.AliasesOutside)
    (nodes : (world.handle handle).nodes = []) :
    Declarable handle world document.root.walk := by
  refine ⟨?_, outside.distinct, outside.templates⟩
  intro name _
  rw [aliasWidget?, nodes]
  rfl

/-- A new handle for a controller is made in any world that is settled. -/
theorem Settled.createHandle (settled : Settled none roots world [] [])
    (rooted : world.Rooted roots) (name : String) {controller : Controller}
    (known : controller.state.index < world.bags.size)
    (success :
      (liftM (HandleId.create name controller : Action σ HandleId) :
        Attempt σ HandleId).run world = (.ok handle, after)) :
    Extended roots world after ∧ Site roots handle after ∧
    (after.handle handle).nodes = [] := by
  cases success
  have furnishes := furnishes_createHandle world name known
  have extended :
      Extended roots world
        ((HandleId.create name controller : Action σ HandleId) world).2 :=
    ⟨settled.furnishes furnishes, furnishes.later, rfl, furnishes.children,
      fun _ _ => rfl, rfl⟩
  refine ⟨extended, ⟨extended.settled, extended.rooted rooted, ?_⟩, ?_⟩
  · change _ < (world.handles.add _).size
    rw [Store.size_add]
    exact Nat.lt_succ_self _
  · have new := handle_create world name controller ⟨world.handles.size⟩
    rw [if_pos rfl] at new
    exact congrArg Handle.nodes new

/-- A document is rendered for a new handle, whose controller learns of it. -/
theorem Carries.finish (carries : Carries deliver bound) {document : Document}
    {host : WidgetId}
    {rendering : Attempt σ WidgetId} {result : HandleId}
    (site : Site roots handle world) (nodes : (world.handle handle).nodes = [])
    (below : Below roots host [] world) (outside : world.FilesOutside)
    (aliases : document.AliasesOutside)
    (renders : ∀ (world after : World σ) (root : WidgetId),
    rendering.run world = (.ok root, after) →
      ∃ load directory, Loads load bound ∧
        (LiveMarkup.renderWith deliver load document handle host directory).run
          world =
          (.ok root, after))
    (success : (attempting [.handle handle] (do
      let _ ← rendering
      (handle.created deliver : Action σ Unit)
      return handle)).run world = (.ok result, after))
        (room : after.liveCount + 1 < bound) :
    Extended roots world after ∧ result = handle := by
  obtain ⟨inner, ran, released⟩ := attempting_ok success
  have same : after.liveCount = inner.liveCount := by
    rw [released, World.liveCount_sweep]
    rfl
  obtain ⟨root, rendered, rendering, success⟩ := Attempt.bind_ok ran
  obtain ⟨load, directory, loads, renders⟩ := renders _ _ _ rendering
  obtain ⟨_, made, creates, ends⟩ := Attempt.bind_ok success
  cases ends
  have kept :=
    (Attempt.Within.lift (within_created carries.keeps handle) :
      Attempt.Keeps (liftM (handle.created deliver : Action σ Unit) :
        Attempt σ Unit)).le creates
  have pinned := site.pin [.handle handle]
  have pins := builds_pin world [.handle handle] handle
  have extended :=
    carries.renderWith loads pinned (below.builds pins)
      (outside.later pins.later) (.new aliases nodes) renders (by omega)
  have told := carries.created (extended.site pinned) creates (by omega)
  exact ⟨(extended.trans told).release released.symm, rfl⟩

/-- Loading a document, at most some depth of imports deep, extends the tree. -/
theorem Carries.loads (carries : Carries deliver bound) (depth : Nat) :
    Loads (loadWithin deliver depth) bound := by
  induction depth with
  | zero =>
    refine ⟨fun host path => within_loadWithin carries.keeps 0 host path, ?_⟩
    intro _ _ _ _ _ _ _ _ _ _ fails
    cases fails
  | succ depth hypothesis =>
    refine ⟨fun host path => within_loadWithin carries.keeps _ host path, ?_⟩
    intro roots world after host path handle settled rooted below outside
      success room
    obtain ⟨_, _, gets, success⟩ := Attempt.bind_ok success
    cases gets
    split at success
    case h_1 => cases success
    case h_2 source found =>
      split at success
      case h_1 => cases success
      case h_2 document parsed =>
        obtain ⟨id, created, creates, success⟩ := Attempt.bind_ok success
        obtain ⟨_, _, gets, creates⟩ := Attempt.bind_ok creates
        cases gets
        split at creates
        case h_1 => cases creates
        case h_2 controller registered =>
          obtain ⟨entry, member, rfl⟩ := Files.read_mem found
          obtain ⟨made, site, nodes⟩ := settled.createHandle rooted _
            (settled.sound.controllers _ (mem_of_lookup registered)) creates
          obtain ⟨extended, rfl⟩ := carries.finish site nodes (made.below below)
            (outside.later made.later) (outside entry member document parsed)
            (fun _ _ _ ran => ⟨_, _, hypothesis, ran⟩) success room
          exact ⟨made.trans extended,
            Nat.lt_of_lt_of_le site.inside extended.later.fits.handles⟩

theorem render_run (document : Document) (handle : HandleId) (host : WidgetId)
    (directory : String) (world : World σ) :
    (LiveMarkup.render deliver document handle host directory).run world =
      (LiveMarkup.renderWith deliver (loadWithin deliver world.importDepth)
        document handle host directory).run world := by
  rw [LiveMarkup.render, Attempt.bind_run, Attempt.getThe_run]

/-- Rendering a source text extends the tree below its host. -/
theorem Carries.renderSource (carries : Carries deliver bound)
    {source : String} {controller : Controller} {host : WidgetId}
    (settled : Settled none roots world [] []) (rooted : world.Rooted roots)
    (below : Below roots host [] world)
    (known : controller.state.index < world.bags.size)
    (outside : world.FilesOutside)
    (aliases :
      ∀ document,
        Document.read world.converters source = .ok document →
        document.AliasesOutside)
    (success :
      (LiveMarkup.renderSource deliver source controller host).run world =
        (.ok handle, after)) (room : after.liveCount + 1 < bound) :
    Extended roots world after := by
  obtain ⟨_, _, gets, success⟩ := Attempt.bind_ok success
  cases gets
  split at success
  case h_1 => cases success
  case h_2 document parsed =>
    obtain ⟨id, created, creates, success⟩ := Attempt.bind_ok success
    obtain ⟨made, site, nodes⟩ := settled.createHandle rooted _ known creates
    obtain ⟨extended, _⟩ := carries.finish site nodes (made.below below)
      (outside.later made.later) (aliases document parsed) (fun world _ _ ran =>
        ⟨_, _, carries.loads world.importDepth,
          (render_run document id host "." world).symm.trans ran⟩)
      success room
    exact made.trans extended

end World

end LiveMarkup
