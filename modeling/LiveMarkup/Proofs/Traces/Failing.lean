import LiveMarkup.Proofs.Bindings.Rendering
import LiveMarkup.Proofs.Traces.Ending

/-!
# Failing to render

A document under construction is open: it is known who imports whom, and that
its imports do not nest too deeply.  When rendering fails at any depth, every
document that has come is open or has ended, and taking the open ones down
leaves nothing.
-/

namespace LiveMarkup

namespace World

variable {σ : Type} {start world middle after : World σ} {host : WidgetId}
  {deliver : Deliver σ}
  {opened : List HandleId} {first depth : Nat} {id : HandleId}

/-! ## Documents under construction -/

/-- A new document is under construction. -/
structure Open (start : World σ) (depth : Nat) (id : HandleId)
    (world : World σ) : Prop where
  new : start.handles.size ≤ id.index
  inside : id.index < world.handles.size
  nests : Nests world depth id

/-- Documents that have come later leave a document under construction as it is. -/
theorem Open.later (isOpen : Open start depth id world)
    (sound : world.Sound world.loaded)
    (handleCount : world.handles.size ≤ after.handles.size)
    (earlier :
      ∀ other, other.index < world.handles.size → Alike world after other) :
    Open start depth id after where
  new := isOpen.new
  inside := Nat.lt_of_lt_of_le isOpen.inside handleCount
  nests :=
    isOpen.nests.later (fun other => other.index < world.handles.size)
      (fun other _ entry member => sound.imports other entry member)
      (fun other before => (earlier other before).imports ▸ List.Subset.refl _)
      isOpen.inside

/-- Only the last document, which is open, may keep more records or fewer. -/
theorem Frame.filed (frame : Frame world after)
    (last : id.index + 1 = world.handles.size)
    (filed : Filed start world (id :: opened)) :
    Filed start after (id :: opened) := by
  refine filed.later (fun other => (frame.handles other).1)
    (fun other ended => ?_) fun _ => .inl
  by_cases own : id = other
  · exact .inr (own ▸ List.mem_cons_self)
  · refine .inl ⟨(frame.handles other).1.trans ended.imports, ?_,
      (frame.handles other).2.1.trans ended.root⟩
    by_cases before : other.index + 1 < world.handles.size
    · exact ((frame.handles other).2.2.2 before).trans ended.subscriptions
    · refine (ended_of_not_lt fun inside => ?_).subscriptions
      rw [frame.handleCount] at inside
      refine own ?_
      rcases id with ⟨index⟩
      rcases other with ⟨otherIndex⟩
      simp only at last before inside ⊢
      congr 1
      omega

theorem Grows.moves (grows : Grows host start world after)
    (inside : id.index < world.handles.size) :
    Moves host start id.index world after where
  good := grows.good
  pins := grows.pins
  handleCount := Nat.le_of_eq grows.frame.handleCount.symm
  widgetCount := grows.frame.fits.widgets
  topControllers := grows.frame.topControllers.symm ▸ List.prefix_refl _
  earlier other before := by
    obtain ⟨imports, root, _, subscriptions⟩ := grows.frame.handles other
    exact ⟨imports, subscriptions (Nat.lt_of_le_of_lt before inside), root⟩

/-- The construction of a document has gone on. -/
structure Advances (host : WidgetId) (start : World σ) (depth : Nat)
    (opened : List HandleId) (id : HandleId) (world after : World σ) :
    Prop where
  moves : Moves host start id.index world after
  isOpen : Open start depth id after
  filed : Filed start after (id :: opened)

theorem Moves.advances (moves : Moves host start id.index world middle)
    (rest : Advances host start depth opened id middle after) :
    Advances host start depth opened id world after :=
  { rest with moves := moves.trans rest.moves }

theorem Advances.trans (left : Advances host start depth opened id world middle)
    (right : Advances host start depth opened id middle after) :
    Advances host start depth opened id world after :=
  left.moves.advances right

/-- Releasing what was pinned keeps what has been achieved. -/
theorem Advances.release {things : List Owned}
    (advances : Advances host start depth opened id (world.pin things) after)
    (good : Good host start world) :
    Advances host start depth opened id world (after.release world.pins) := by
  have additions := advances.moves.good.additions
  have alike : ∀ other, Alike after (after.release world.pins) other :=
    fun other => .of_eq (handle_release additions.wired world.pins other)
  have same : SameState after { after with pins := world.pins } := rfl
  refine ⟨advances.moves.release good,
    advances.isOpen.later additions.sound (Nat.le_of_eq ?_) fun other _ =>
      alike other, advances.filed.release additions.wired world.pins⟩
  exact (frame_sweep (same.transition.wired additions.wired)).handleCount.symm

/-! ## Imports -/

/-- A widget that a document may be rendered below: the host, or a new widget
while the host is kept. -/
def Place (host : WidgetId) (start world : World σ) (parent : WidgetId) : Prop :=
  parent = host ∨ (start.widgets.size ≤ parent.index ∧ .widget host ∈ world.pins)

/-- Nothing is left open of a document that has failed, and it is in no table. -/
structure Fails (host : WidgetId) (start : World σ) (opened : List HandleId)
    (first : Nat) (world after : World σ) : Prop where
  moves : Moves host start first world after
  filed : Filed start after opened
  sameTops : after.topControllers = world.topControllers

/-- A document has been loaded, and is open until someone imports it. -/
structure Loaded (host : WidgetId) (start : World σ) (depth : Nat)
    (opened : List HandleId) (world : World σ) (child : HandleId)
    (after : World σ) : Prop where
  moves : Moves host start world.handles.size world after
  filed : Filed start after (child :: opened)
  late : world.handles.size ≤ child.index
  inside : child.index < after.handles.size
  nests : ∃ lower < depth, Nests after lower child

/-- A way to load documents that leaves nothing open of a document that fails. -/
def Lands (host : WidgetId) (start : World σ)
    (load : WidgetId → String → Attempt σ HandleId) (depth : Nat) : Prop :=
  ∀ world parent path opened, Good host start world → Filed start world opened →
    Place host start world parent →
    (load parent path).Ends world (Loaded host start depth opened world)
    (Fails host start opened world.handles.size world)

/-- The table of the environment changes, and keeps what was in it at the start. -/
theorem Good.setTops (good : Good host start world)
    {table : List (String × HandleId)}
    (includes : start.topControllers <+: table) :
    Good host start { world with topControllers := table } := by
  have same : SameState world { world with topControllers := table } := rfl
  have additions := good.additions
  refine ⟨good.tidy,
    ⟨same.transition.sound additions.sound,
      same.transition.wired additions.wired, additions.listeners.sameState same,
      ?_, ?_, ?_⟩, ⟨good.swept.blocks, good.swept.items⟩, good.pins⟩
  · exact { additions.loops with }
  · exact { additions.items with }
  · exact { additions.widgets with topControllers := includes }

/-- The table of the environment grows while a document is under construction. -/
theorem Advances.register
    (advances : Advances host start depth opened id world after)
    (more : List (String × HandleId)) :
    Advances host start depth opened id world
      { after with topControllers := after.topControllers ++ more } := by
  have good := advances.moves.good
  have prefixes := List.prefix_append after.topControllers more
  have same : ∀ other,
      Alike after { after with topControllers := after.topControllers ++ more }
        other :=
    fun other => .of_eq rfl
  refine ⟨?_, ?_, advances.filed.alike same⟩
  · refine advances.moves.trans ?_
    exact ⟨good.setTops (good.additions.widgets.topControllers.trans prefixes),
      rfl, Nat.le_refl _, Nat.le_refl _, prefixes, fun other _ => same other⟩
  · exact advances.isOpen.later good.additions.sound (Nat.le_refl _)
      fun other _ => same other

theorem Place.moves {parent : WidgetId} (place : Place host start world parent)
    (pins : world.pins ⊆ after.pins) : Place host start after parent :=
  place.imp_right fun ⟨new, pinned⟩ => ⟨new, pins pinned⟩

/-- A new document notes its root, in place of none. -/
theorem Open.noteRoot (isOpen : Open start depth id world)
    (good : Good host start world) (filed : Filed start world (id :: opened))
    (none : (world.handle id).root = .none) {root : WidgetId}
    (new : start.widgets.size ≤ root.index) :
    Advances host start depth opened id world
      (world.updateHandle id ({ · with root := some root })) ∧
    ((world.updateHandle id ({ · with root := some root })).handle id).root =
      some root := by
  have recasts : Recasts start world id ({ · with root := some root }) := by
    refine { roots := fun other same => .inr ?_, stays := fun other found => ?_ }
    · cases same
      exact new
    · rw [none] at found
      cases found
  have sheds : Sheds host start id.index world
      (world.updateHandle id ({ · with root := some root })) :=
    .shed (good.updateHandle isOpen.new recasts fun _ => rfl)
      fun _ => List.Subset.refl _
  have alike : ∀ other, id ≠ other →
      Alike world (world.updateHandle id ({ · with root := some root })) other :=
    fun other apart =>
      .of_eq (by rw [handle_updateHandle, if_neg fun both => apart both.1])
  refine ⟨⟨sheds.toMoves,
    ⟨isOpen.new, Nat.lt_of_lt_of_le isOpen.inside sheds.handleCount,
      sheds.nests isOpen.nests⟩,
    filed.later (fun other => ?_) (fun other ended => ?_) fun _ => .inl⟩, ?_⟩
  · rw [handle_updateHandle]
    split <;> rfl
  · by_cases own : id = other
    · exact .inr (own ▸ List.mem_cons_self)
    · exact .inl ((alike other own).ended ended)
  · rw [handle_updateHandle, if_pos ⟨rfl, isOpen.inside⟩]

/-- A document imports one more, and the others are as they were. -/
structure Imports (world after : World σ) (id : HandleId) (name : String)
    (child : HandleId) : Prop where
  grown : (after.handle id).imports = (world.handle id).imports ++ [(name, child)]
  others : ∀ other, id ≠ other → Alike world after other

section Imports

variable {name : String} {child : HandleId}
  (imports : Imports world after id name child)

include imports

theorem Imports.mem {entry : String × HandleId}
    (member : entry ∈ (after.handle id).imports) :
    entry ∈ (world.handle id).imports ∨ entry = (name, child) := by
  rw [imports.grown] at member
  exact (List.mem_append.mp member).imp_right List.mem_singleton.mp

/-- A document that is imported is not open any more. -/
theorem Imports.filed (new : start.handles.size ≤ id.index)
    (late : id.index < child.index)
    (filed : Filed start world (child :: id :: opened)) :
    Filed start after (id :: opened) where
  above other newOther entry member := by
    by_cases own : id = other
    · subst own
      rcases imports.mem member with old | rfl
      · exact filed.above id newOther entry old
      · exact late
    · exact filed.above other newOther entry
        ((imports.others other own).imports ▸ member)
  loose other newOther := by
    rcases filed.loose other newOther with ended | waits |
      ⟨parent, newParent, entry, member, same⟩
    · by_cases own : id = other
      · exact .inr (.inl (own ▸ List.mem_cons_self))
      · exact .inl ((imports.others other own).ended ended)
    · rcases List.mem_cons.mp waits with rfl | rest
      · refine .inr (.inr ⟨id, new, (name, other), ?_, rfl⟩)
        rw [imports.grown]
        exact List.mem_append_right _ List.mem_cons_self
      · exact .inr (.inl rest)
    · refine .inr (.inr ⟨parent, newParent, entry, ?_, same⟩)
      by_cases own : id = parent
      · subst own
        rw [imports.grown]
        exact List.mem_append_left _ member
      · rwa [(imports.others parent own).imports]

/-- What is imported is later than the document, and so are its own imports. -/
theorem Imports.nests (new : start.handles.size ≤ id.index)
    (late : id.index < child.index) (filed : Filed start world opened)
    (nests : Nests world depth id)
    (nested : ∃ lower < depth, Nests world lower child) :
    Nests after depth id := by
  refine .of_imports fun entry member => ?_
  have below : id.index < entry.2.index ∧
      ∃ lower < depth, Nests world lower entry.2 := by
    rcases imports.mem member with old | rfl
    · exact ⟨filed.above id new entry old, nests.imports entry old⟩
    · exact ⟨late, nested⟩
  obtain ⟨later, lower, less, nested⟩ := below
  refine ⟨lower, less, ?_⟩
  apply nested.later fun other => id.index < other.index
  · intro other later entry member
    have newer := Nat.le_trans new (Nat.le_of_lt later)
    exact Nat.lt_trans later (filed.above other newer entry member)
  · intro other later
    have apart : id ≠ other := fun same => Nat.lt_irrefl _ (same ▸ later)
    rw [(imports.others other apart).imports]
    exact List.Subset.refl _
  · exact later

end Imports

/-- A document under construction notes one that has been loaded as its import. -/
theorem Open.noteImport (isOpen : Open start depth id world)
    (good : Good host start world) {child : HandleId}
    (filed : Filed start world (child :: id :: opened))
    (late : id.index < child.index)
    (inside : child.index < world.handles.size)
    (nested : ∃ lower < depth, Nests world lower child) (name : String) :
    Advances host start depth opened id world
      (world.updateHandle id fun old =>
        { old with imports := old.imports ++ [(name, child)] }) := by
  have handles : ∀ other, (world.updateHandle id fun old =>
      { old with imports := old.imports ++ [(name, child)] }).handle other =
        if id = other ∧
        id.index < world.handles.size then { world.handle other with
          imports := (world.handle other).imports ++ [(name, child)] }
            else world.handle other :=
    fun other => handle_updateHandle world id other _
  have imports : Imports world (world.updateHandle id fun old =>
      { old with imports := old.imports ++ [(name, child)] }) id name child :=
    ⟨by rw [handles, if_pos ⟨rfl, isOpen.inside⟩], fun other apart =>
      .of_eq (by rw [handles, if_neg fun both => apart both.1])⟩
  have count : world.handles.size ≤ (world.updateHandle id fun old =>
      { old with imports := old.imports ++ [(name, child)] }).handles.size :=
    Nat.le_of_eq (Store.size_update ..).symm
  have recasts : Recasts start world id fun old =>
      { old with imports := old.imports ++ [(name, child)] } := by
    refine { imports := fun entry member => ?_ }
    rcases List.mem_append.mp member with old | added
    · exact .inl old
    · rw [List.mem_singleton.mp added]
      exact .inr inside
  have good := good.updateHandle isOpen.new recasts fun _ => rfl
  refine ⟨⟨good, rfl, count, Nat.le_refl _, List.prefix_refl _, ?_⟩,
    ⟨isOpen.new, Nat.lt_of_lt_of_le isOpen.inside count, ?_⟩, ?_⟩
  · exact fun other before => alike_updateHandle world before
  · exact imports.nests isOpen.new late filed isOpen.nests nested
  · exact imports.filed isOpen.new late filed

/-- An import is loaded and noted, or nothing of it is left open. -/
theorem Lands.importEntry {load : WidgetId → String → Attempt σ HandleId}
    (lands : Lands host start load depth) (isOpen : Open start depth id world)
    (good : Good host start world) (filed : Filed start world (id :: opened))
    {parent root : WidgetId} (directory : String)
    (place : Place host start world parent)
    (placeRoot : Place host start world root) (entry : Import) :
    (World.importEntry load id parent root directory entry).Ends world
      (fun _ after => Advances host start depth opened id world after ∧
        (after.handle id).root = (world.handle id).root) fun after =>
      Advances host start depth opened id world after := by
  have landing :=
    lands world (if entry.topLevel then parent else root) (entry.path directory)
      (id :: opened) good filed (by split <;> assumption)
  have below : id.index ≤ world.handles.size := Nat.le_of_lt isOpen.inside
  refine Attempt.Ends.bind landing (fun child after loaded => ?_)
    fun after failed =>
      ⟨failed.moves.mono below,
        isOpen.later good.additions.sound failed.moves.handleCount
        failed.moves.earlier, failed.filed⟩
  have moves := loaded.moves
  have later := isOpen.later good.additions.sound moves.handleCount moves.earlier
  have late := Nat.lt_of_lt_of_le isOpen.inside loaded.late
  have noted :=
    (moves.mono below).advances
      (later.noteImport moves.good loaded.filed late loaded.inside loaded.nests
        (after.handle child).name)
  have root : ((after.updateHandle id fun old =>
      { old with imports := old.imports ++ [((after.handle child).name, child)]
        }).handle id).root =
        (world.handle id).root := by
    rw [handle_updateHandle]
    split <;> exact (moves.earlier id isOpen.inside).root
  refine .get ?_
  simp only
  split
  · exact .modify (.change ⟨noted.register _, root⟩)
  · exact .change ⟨noted, root⟩

/-- The imports of a document are loaded and noted in order, or nothing of the
one that fails is left open. -/
theorem Lands.imports {load : WidgetId → String → Attempt σ HandleId}
    (lands : Lands host start load depth) {parent root : WidgetId}
    (directory : String) (entries : List Import) (world : World σ)
    (isOpen : Open start depth id world) (good : Good host start world)
    (filed : Filed start world (id :: opened))
    (place : Place host start world parent)
    (placeRoot : Place host start world root) :
    (entries.forM (World.importEntry load id parent root directory)).Ends world
      (fun _ after => Advances host start depth opened id world after ∧
        (after.handle id).root = (world.handle id).root) fun after =>
      Advances host start depth opened id world after := by
  induction entries generalizing world with
  | nil => exact .pure ⟨⟨.refl good _, isOpen, filed⟩, rfl⟩
  | cons entry rest hypothesis =>
    refine .bind (lands.importEntry isOpen good filed directory place placeRoot
      entry) (fun _ middle ⟨noted, kept⟩ => ?_) fun _ noted => noted
    have pins : world.pins ⊆ middle.pins := noted.moves.pins ▸ List.Subset.refl _
    refine (hypothesis middle noted.isOpen noted.moves.good noted.filed
      (place.moves pins) (placeRoot.moves pins)).mono ?_
      (fun after others => noted.trans others)
    rintro _ after ⟨others, root⟩
    exact ⟨noted.trans others, root.trans kept⟩

/-! ## Documents -/

/-- A part of a document under construction has been built, or the attempt has
failed. -/
theorem Open.advance (isOpen : Open start depth id world)
    (last : id.index + 1 = world.handles.size)
    (filed : Filed start world (id :: opened))
    (grows : Grows host start world after) :
    Advances host start depth opened id world after where
  moves := grows.moves isOpen.inside
  isOpen :=
    ⟨isOpen.new, Nat.lt_of_lt_of_le isOpen.inside
      (Nat.le_of_eq grows.frame.handleCount.symm),
      isOpen.nests.subset fun other => (grows.frame.handles other).1 ▸
      List.Subset.refl _⟩
  filed := grows.frame.filed last filed

/-- The tree of a new document is built and its imports are loaded, or the
document is left open. -/
theorem Serene.renderTree (serene : Serene host start deliver)
    {load : WidgetId → String → Attempt σ HandleId}
    (lands : Lands host start load depth) (document : Document)
    {parent : WidgetId} (directory : String) (good : Good host start world)
    (isOpen : Open start depth id world)
    (last : id.index + 1 = world.handles.size) (fresh : world.Ended id)
    (filed : Filed start world (id :: opened))
    (pinned : .widget host ∈ world.pins)
    (place : Place host start world parent) :
    (LiveMarkup.renderTree deliver load document id parent directory).Ends world
      (fun root after => Advances host start depth opened id world after ∧
        start.widgets.size ≤ root.index ∧ root.index < after.widgets.size ∧
        (after.handle id).root = some root) fun after =>
      Advances host start depth opened id world after := by
  have built := serene.buildComponent id (.handle id) document.root [] world
    ⟨good, isOpen.new, isOpen.inside, ⟨isOpen.new, last⟩, nofun⟩
  have component :
      (LiveMarkup.buildComponent deliver ⟨id, .handle id⟩ document.root []).Ends
        world (fun root after => Grows host start world after ∧
          start.widgets.size ≤ root.index ∧ root.index < after.widgets.size)
        (Grows host start world) :=
    .of_run built.1 built.2
  refine .bind component (fun root middle ⟨grows, newRoot, insideRoot⟩ => ?_)
    fun middle grows => ?_
  · have first := isOpen.advance last filed grows
    have plain : ∀ thing ∈ [Owned.widget root], ¬ thing.Repeats := by
      intro thing member
      cases List.mem_singleton.mp member
      exact not_false
    have kept := grows.good.pin plain
    have alike : ∀ other, Alike middle (middle.pin [.widget root]) other :=
      fun other => .of_eq rfl
    have isOpenKept : Open start depth id (middle.pin [.widget root]) :=
      first.isOpen.later grows.good.additions.sound (Nat.le_refl _)
        fun other _ => alike other
    obtain ⟨noted, ownRoot⟩ := isOpenKept.noteRoot kept (first.filed.alike alike)
      (((grows.frame.handles id).2.1).trans fresh.root) newRoot
    have pins : world.pins ⊆ (middle.pin [.widget root]).pins :=
      fun thing member => List.mem_append_right _ (grows.pins.symm ▸ member)
    refine .attempting (.modify ?_)
    have imported :=
      lands.imports directory document.imports _ noted.isOpen noted.moves.good
        noted.filed (place.moves pins) (.inr ⟨newRoot, pins pinned⟩)
    refine .bind imported (fun _ after ⟨others, stays⟩ => ?_) fun after others =>
      first.trans ((noted.trans others).release grows.good)
    have whole := (noted.trans others).release grows.good
    have released := handle_release others.moves.good.additions.wired middle.pins id
    refine .pure ?_
    exact ⟨first.trans whole, newRoot,
      Nat.lt_of_lt_of_le insideRoot whole.moves.widgetCount,
      (congrArg Handle.root released).trans (stays.trans ownRoot)⟩
  · exact isOpen.advance last filed grows

/-- The root of a new document joins the tree below the host or a new widget. -/
theorem Open.attach (isOpen : Open start depth id world)
    (good : Good host start world) (filed : Filed start world (id :: opened))
    {parent root : WidgetId} (place : Place host start world parent)
    (new : start.widgets.size ≤ root.index)
    (inside : root.index < world.widgets.size)
    (own : (world.handle id).root = some root) :
    Advances host start depth opened id world
      ((Toolkit.addChild parent root : Action σ Unit) world).2 := by
  have retrees :
      Retrees world ((Toolkit.addChild parent root : Action σ Unit) world).2 :=
    (retrees_record world (.add parent root)).trans (retrees_addChild _ parent root)
  have alike : ∀ other,
      Alike world ((Toolkit.addChild parent root : Action σ Unit) world).2
        other := by
    intro other
    refine .of_eq ?_
    rw [World.handle, retrees.rest]
    rfl
  have put :
      Grows host start world
        ((Toolkit.addChild parent root : Action σ Unit) world).2 := by
    refine good.addChild parent new inside ?_
    rcases place with rfl | ⟨newParent, _⟩
    · exact .inr ⟨rfl, id, isOpen.new, own⟩
    · exact .inl newParent
  exact ⟨put.moves isOpen.inside,
    isOpen.later good.additions.sound (Nat.le_of_eq put.frame.handleCount.symm)
    fun other _ => alike other, filed.alike alike⟩

theorem Fails.release {things : List Owned}
    (fails : Fails host start opened first (world.pin things) after)
    (good : Good host start world) :
    Fails host start opened first world (after.release world.pins) := by
  have additions := fails.moves.good.additions
  have same : SameState after { after with pins := world.pins } := rfl
  refine ⟨fails.moves.release good,
    fails.filed.release additions.wired world.pins, ?_⟩
  exact (frame_sweep
    (same.transition.wired additions.wired)).topControllers.trans fails.sameTops

/-- A document that fails is taken down, and leaves the table of the environment
as it was before. -/
theorem Advances.fail {limit : Nat}
    (advances : Advances host start depth opened id world after)
    (good : Good host start world) (pinned : .widget host ∈ world.pins)
    (disposes : Disposes host start deliver limit) (room : depth ≤ limit) :
    Fails host start opened id.index world
      (id.teardown deliver
        { after with topControllers :=
          after.topControllers.take world.topControllers.length }).2 := by
  have tops : after.topControllers.take world.topControllers.length =
        world.topControllers :=
    (List.prefix_iff_eq_take.mp advances.moves.topControllers).symm
  rw [tops]
  have cut := advances.moves.good.setTops good.additions.widgets.topControllers
  have alike : ∀ other,
      Alike after { after with topControllers := world.topControllers } other :=
    fun other => .of_eq rfl
  have nests :
      Nests { after with topControllers := world.topControllers } depth id :=
    advances.isOpen.nests.subset fun other => List.Subset.refl _
  obtain ⟨sheds, filed⟩ :=
    cut.teardown (advances.moves.pins ▸ pinned) advances.isOpen.new
      (advances.filed.alike alike) disposes (nests.more room)
  have moves := advances.moves
  refine ⟨{
    good := sheds.good
    pins := sheds.pins.trans moves.pins
    handleCount := Nat.le_trans moves.handleCount sheds.handleCount
    widgetCount := Nat.le_trans moves.widgetCount sheds.widgetCount
    topControllers := sheds.topControllers
    earlier := fun other before => ?_ }, filed, sheds.sameTops⟩
  have earlier := (alike other).trans (sheds.earlier other before)
  exact (moves.earlier other before).trans earlier

/-- A new document is rendered, or nothing of it is left open. -/
theorem Serene.renderWith {limit : Nat} (serene : Serene host start deliver)
    {load : WidgetId → String → Attempt σ HandleId}
    (lands : Lands host start load depth)
    (disposes : Disposes host start deliver limit) (room : depth ≤ limit)
    (document : Document) {parent : WidgetId} (directory : String)
    (good : Good host start world) (isOpen : Open start depth id world)
    (last : id.index + 1 = world.handles.size) (fresh : world.Ended id)
    (filed : Filed start world (id :: opened))
    (place : Place host start world parent) :
    (LiveMarkup.renderWith deliver load document id parent directory).Ends world
      (fun _ after => Advances host start depth opened id world after)
      fun after => Fails host start opened id.index world after := by
  have plain : ∀ thing ∈ [Owned.handle id, .widget parent], ¬ thing.Repeats := by
    rintro thing member
    rcases List.mem_cons.mp member with rfl | rest
    · exact not_false
    · cases List.mem_singleton.mp rest
      exact not_false
  have alike :
      ∀ other, Alike world (world.pin [.handle id, .widget parent]) other :=
    fun other => .of_eq rfl
  have pins : world.pins ⊆ (world.pin [.handle id, .widget parent]).pins :=
    fun thing member => List.mem_append_right _ member
  have pinned : .widget host ∈ (world.pin [.handle id, .widget parent]).pins := by
    rcases place with rfl | ⟨_, kept⟩
    · exact List.mem_append_left _ (List.mem_cons_of_mem _ List.mem_cons_self)
    · exact pins kept
  have kept := good.pin plain
  have tree :=
    serene.renderTree lands document directory kept
      (isOpen.later good.additions.sound (Nat.le_refl _) fun other _ =>
        alike other) last ((alike id).ended fresh) (filed.alike alike) pinned
      (place.moves pins)
  unfold LiveMarkup.renderWith
  refine .get (.attempting
    (@Attempt.Ends.tryCatch _ _ _
      (Advances host start depth opened id
        (world.pin [.handle id, .widget parent])) _ _ _ _ ?_
      fun error after left => ?_))
  · refine .bind tree (fun root middle ⟨advances, new, inside, own⟩ => ?_)
      fun after left => left
    have joined :=
      advances.isOpen.attach advances.moves.good advances.filed
        ((place.moves pins).moves (advances.moves.pins ▸ List.Subset.refl _))
        new inside own
    exact .perform (.pure ((advances.trans joined).release good))
  · exact .modify (.perform
      (.throw ((left.fail kept pinned disposes room).release good)))

/-- A document has been rendered, and its controller learns of it; or nothing of
it is left open. -/
theorem Serene.finish (serene : Serene host start deliver)
    {rendering : Attempt σ WidgetId}
    (good : Good host start world)
    (renders : rendering.Ends (world.pin [.handle id])
      (fun _ after => Advances host start depth opened id
        (world.pin [.handle id]) after)
      fun after => Fails host start opened id.index
        (world.pin [.handle id]) after) :
    (LiveMarkup.attempting [.handle id] (do
      let _ ← rendering
      (id.created deliver : Action σ Unit)
      return id)).Ends world
      (fun result after => result = id ∧
        Advances host start depth opened id world after)
      fun after => Fails host start opened id.index world after := by
  refine .attempting
    (.bind renders (fun _ middle advances => ?_) fun after fails =>
      fails.release good)
  have noted := advances.moves.good.noteLife (.created id)
  have told :=
    noted.trans (serene.created _ (middle.handle id).controller id noted.good)
  have tells :
      Advances host start depth opened id middle
        (id.created deliver middle).2 :=
    ⟨(told.sheds id.index).toMoves,
      advances.isOpen.later advances.moves.good.additions.sound
      (told.sheds id.index).handleCount fun other _ => told.alike other,
      advances.filed.alike told.alike⟩
  exact .perform (.pure ⟨rfl, (advances.trans tells).release good⟩)

/-- A new document has been opened: it is the last one, and nothing has been
built for it. -/
structure Opened (host : WidgetId) (start : World σ) (opened : List HandleId)
    (id : HandleId) (world after : World σ) : Prop where
  moves : Moves host start id.index world after
  filed : Filed start after (id :: opened)
  sameTops : after.topControllers = world.topControllers
  first : id.index = world.handles.size
  last : id.index + 1 = after.handles.size
  fresh : after.Ended id

/-- A document gets a handle of its own. -/
theorem Good.openHandle (good : Good host start world)
    (filed : Filed start world opened) (name : String)
    {controller : Controller}
    (known : controller.state.index < world.bags.size) :
    Opened host start opened ⟨world.handles.size⟩ world
      ((HandleId.create name controller : Action σ HandleId) world).2 := by
  have handles := handle_create world name controller
  have fresh : ((HandleId.create name controller : Action σ HandleId) world).2.Ended
      ⟨world.handles.size⟩ := by
    constructor <;> rw [handles, if_pos rfl]
  have alike : ∀ other : HandleId,
      other.index ≠ world.handles.size →
      Alike world ((HandleId.create name controller : Action σ HandleId)
        world).2 other :=
    fun other apart => .of_eq ((handles other).trans (if_neg apart))
  have outside : world.Ended ⟨world.handles.size⟩ :=
    ended_of_not_lt (Nat.lt_irrefl _)
  have count :
      ((HandleId.create name controller : Action σ HandleId)
        world).2.handles.size = world.handles.size + 1 :=
    Store.size_add ..
  have moves : Moves host start world.handles.size world
      ((HandleId.create name controller : Action σ HandleId) world).2 := {
    good := good.createHandle name known
    pins := rfl
    handleCount := count ▸ Nat.le_succ _
    widgetCount := Nat.le_refl _
    topControllers := List.prefix_refl _
    earlier := fun other before => alike other (Nat.ne_of_lt before) }
  refine {
    moves
    filed := filed.later (fun other => ?_) (fun other ended => .inl ?_)
      fun _ member => .inl (List.mem_cons_of_mem _ member)
    sameTops := rfl
    first := rfl
    last := count.symm
    fresh }
  · by_cases own : other = ⟨world.handles.size⟩
    · rw [own, fresh.imports, outside.imports]
    · exact (alike other fun same => own (congrArg HandleId.mk same)).imports
  · by_cases own : other = ⟨world.handles.size⟩
    · exact own ▸ fresh
    · exact (alike other fun same => own (congrArg HandleId.mk same)).ended ended

theorem Opened.isOpen (opens : Opened host start opened id world after)
    (good : Good host start world) : Open start depth id after where
  new := opens.first ▸ good.additions.widgets.handleCount
  inside := opens.last ▸ Nat.lt_succ_self _
  nests := .of_imports fun entry member => by
    rw [opens.fresh.imports] at member
    cases member

/-- A document is rendered for a handle of its own, or nothing of it is left
open. -/
theorem Serene.finishOpened {limit : Nat} (serene : Serene host start deliver)
    {load : WidgetId → String → Attempt σ HandleId}
    (lands : Lands host start load depth)
    (disposes : Disposes host start deliver limit) (room : depth ≤ limit)
    (document : Document)
    {parent : WidgetId} (directory : String) (good : Good host start world)
    (opens : Opened host start opened id world after)
    (place : Place host start world parent)
    {rendering : Attempt σ WidgetId}
    (renders : rendering.run (after.pin [.handle id]) =
      (LiveMarkup.renderWith deliver load document id parent directory).run
        (after.pin [.handle id])) :
    (LiveMarkup.attempting [.handle id] (do
      let _ ← rendering
      (id.created deliver : Action σ Unit)
      return id)).Ends after
      (fun result last => result = id ∧
        Advances host start depth opened id world last)
      fun last => Fails host start opened id.index world last := by
  have plain : ∀ thing ∈ [Owned.handle id], ¬ thing.Repeats := by
    intro thing member
    cases List.mem_singleton.mp member
    exact not_false
  have alike : ∀ other, Alike after (after.pin [.handle id]) other :=
    fun other => .of_eq rfl
  have isOpen : Open start depth id (after.pin [.handle id]) :=
    (opens.isOpen good).later opens.moves.good.additions.sound (Nat.le_refl _)
      fun other _ => alike other
  have pins : world.pins ⊆ (after.pin [.handle id]).pins :=
    fun thing member => List.mem_append_right _ (opens.moves.pins ▸ member)
  have rendered := serene.renderWith lands disposes room document directory
    (opens.moves.good.pin plain) isOpen opens.last ((alike id).ended opens.fresh)
    (opens.filed.alike alike) (place.moves pins)
  have ends :
      rendering.Ends (after.pin [.handle id])
        (fun _ last => Advances host start depth opened id
          (after.pin [.handle id]) last) fun last =>
            Fails host start opened id.index (after.pin [.handle id]) last :=
    ⟨fun result last ran => rendered.success result last (renders ▸ ran),
      fun error last ran => rendered.failure error last (renders ▸ ran)⟩
  exact (serene.finish opens.moves.good ends).mono
    (fun result last ⟨same, advances⟩ => ⟨same, opens.moves.advances advances⟩)
    fun last fails =>
      ⟨opens.moves.trans fails.moves, fails.filed,
        fails.sameTops.trans opens.sameTops⟩

/-- A document gets a handle for a controller made by name, or there is no such
controller. -/
theorem Good.createController (good : Good host start world)
    (filed : Filed start world opened) (name : String) :
    (LiveMarkup.createController name).Ends world
      (fun id after => Opened host start opened id world after)
      (· = world) := by
  unfold LiveMarkup.createController
  refine .get ?_
  split
  case h_1 => exact .throw rfl
  case h_2 controller found =>
    have known := good.additions.sound.controllers _ (mem_of_lookup found)
    constructor <;> intro outcome after ran <;> cases ran
    exact good.openHandle filed name known

/-- However deeply imports nest, nothing of a document that fails to load is
left open, if callbacks may nest as deeply. -/
theorem Serene.lands {limit : Nat} (serene : Serene host start deliver)
    (disposes : Disposes host start deliver limit) (depth : Nat)
    (room : depth ≤ limit + 1) :
    Lands host start (loadWithin deliver depth) depth := by
  induction depth with
  | zero =>
    intro world parent path opened good filed place
    exact .throw ⟨.refl good _, filed, rfl⟩
  | succ depth hypothesis =>
    intro world parent path opened good filed place
    have lower := hypothesis (Nat.le_of_succ_le room)
    unfold loadWithin
    refine .get ?_
    split
    case h_1 => exact .throw ⟨.refl good _, filed, rfl⟩
    case h_2 source found =>
      split
      case h_1 => exact .throw ⟨.refl good _, filed, rfl⟩
      case h_2 document parsed =>
        refine .bind (good.createController filed _) (fun id after opens => ?_)
          fun after same => ?_
        · refine (serene.finishOpened lower disposes
            (Nat.le_of_succ_le_succ room) document (directoryOf path) good opens
            place rfl).mono (fun result last ⟨same, advances⟩ => ?_)
            fun last fails => opens.first ▸ fails
          subst same
          exact ⟨opens.first ▸ advances.moves, advances.filed,
            Nat.le_of_eq opens.first.symm, advances.isOpen.inside, depth,
            Nat.lt_succ_self _, advances.isOpen.nests⟩
        · subst same
          exact ⟨.refl good _, filed, rfl⟩

end World

end LiveMarkup
