import Mathlib.Logic.Relation
import LiveMarkup.Rendering.Properties
import LiveMarkup.Proofs.Bindings.Cutting
import LiveMarkup.Proofs.Bindings.Evaluation

/-!
# Live properties that follow what they read

A live property is fresh if evaluating its expression now gives what its latest
evaluation gave. Between a change and the end of its announcement some are not;
for each of these a callback is still to come, unless the live property depends
on itself.
-/

namespace LiveMarkup

/-! ## Later states -/

/-- A live property some evaluations later. -/
structure LiveBinding.Continues (binding later : LiveBinding) : Prop where
  handle : later.handle = binding.handle
  widget : later.widget = binding.widget
  key : later.key = binding.key
  expr : later.expr = binding.expr
  scope : later.scope = binding.scope
  generation : binding.generation ≤ later.generation
  everWatched : binding.everWatched ⊆ later.everWatched

theorem LiveBinding.Continues.refl (binding : LiveBinding) :
    binding.Continues binding :=
  ⟨rfl, rfl, rfl, rfl, rfl, Nat.le_refl _, List.Subset.refl _⟩

theorem LiveBinding.Continues.trans {first second third : LiveBinding}
    (left : first.Continues second) (right : second.Continues third) :
    first.Continues third where
  handle := right.handle.trans left.handle
  widget := right.widget.trans left.widget
  key := right.key.trans left.key
  expr := right.expr.trans left.expr
  scope := right.scope.trans left.scope
  generation := Nat.le_trans left.generation right.generation
  everWatched := List.Subset.trans left.everWatched right.everWatched

namespace World

variable {σ : Type}

/-- A world that another one may have become, apart from the values of
properties. -/
structure Later (world later : World σ) : Prop where
  agrees : world.Agrees later
  fits : Value.Fits world later
  loaded : world.loaded ≤ later.loaded
  bindingCount : world.bindings.size ≤ later.bindings.size
  bindings : ∀ id binding, world.binding? id = some binding →
    ∃ after, later.binding? id = some after ∧ binding.Continues after

theorem Later.refl (world : World σ) : world.Later world := by
  refine ⟨.refl world, .refl world, Nat.le_refl _, Nat.le_refl _, ?_⟩
  intro _ binding found
  exact ⟨binding, found, .refl binding⟩

theorem Later.trans {first second third : World σ} (left : first.Later second)
    (right : second.Later third) : first.Later third where
  agrees := left.agrees.trans left.fits right.agrees
  fits := ⟨Nat.le_trans left.fits.bags right.fits.bags,
    Nat.le_trans left.fits.lists right.fits.lists,
    Nat.le_trans left.fits.widgets right.fits.widgets,
    Nat.le_trans left.fits.handles right.fits.handles⟩
  loaded := Nat.le_trans left.loaded right.loaded
  bindingCount := Nat.le_trans left.bindingCount right.bindingCount
  bindings id binding found := by
    obtain ⟨between, foundBetween, continues⟩ := left.bindings id binding found
    obtain ⟨after, foundAfter, continuesAgain⟩ :=
      right.bindings id between foundBetween
    exact ⟨after, foundAfter, continues.trans continuesAgain⟩

/-- A world in which something was cut is a later one. -/
theorem Cuts.later {lost : BindingId → Prop} {world after : World σ}
    (cuts : Cuts lost world after) : world.Later after where
  agrees := {
    globals := by rw [cuts.rest]
    resources := by rw [cuts.rest]
    files := by rw [cuts.rest]
    converters := by rw [cuts.rest]
    bagType := fun id _ => cuts.content.typeName id
    items := fun id _ => cuts.listItems id
    cls := fun id _ => cuts.content.cls id
    name := fun id _ => by rw [cuts.handle]
    controller := fun id _ => by rw [cuts.handle]
    nodes := fun id aliasName node _ found => by
      simp only [aliasWidget?, cuts.handle]
      exact found }
  fits :=
    ⟨Nat.le_of_eq cuts.content.bagCount.symm, Nat.le_of_eq cuts.listCount.symm,
      Nat.le_of_eq cuts.content.widgetCount.symm,
      Nat.le_of_eq (congrArg Store.size cuts.handles.symm)⟩
  loaded := by
    exact Nat.le_of_eq (by rw [cuts.rest])
  bindingCount := Nat.le_of_eq cuts.bindingCount.symm
  bindings id binding found := by
    obtain ⟨left, foundAfter⟩ := cuts.binding_after found
    exact ⟨_, foundAfter, rfl, rfl, rfl, rfl, rfl, Nat.le_refl _,
      List.Subset.refl _⟩

/-- So is one in which something was listened to. -/
theorem Watches.later {watcher : Option BindingId} {world after : World σ}
    (watches : Watches watcher world after) : world.Later after where
  agrees := watches.agrees
  fits := watches.fits
  loaded := watches.loaded
  bindingCount := Nat.le_of_eq watches.bindingCount.symm
  bindings id binding found := by
    by_cases own : watcher = some id
    · obtain ⟨later, foundLater, grows⟩ := watches.own id own binding found
      refine ⟨later, foundLater, ?_⟩
      have same := grows.same
      exact ⟨by rw [same], by rw [same], by rw [same], by rw [same], by rw [same],
        Nat.le_of_eq (by rw [same]), grows.everWatched⟩
    · exact ⟨binding, (watches.others id own).trans found, .refl binding⟩

/-! ## Dependence -/

/-- The registered name of the property that a live property writes, if it
writes one. -/
def written? (world : World σ) (binding : LiveBinding) : Option String :=
  if isStyleKey binding.key then none
  else ((world.widget binding.widget).cls.property? binding.key).map (·.name)

/-- One live property writes what another one has ever read. -/
def Feeds (world : World σ) (source reader : BindingId) : Prop :=
  ∃ writing reading written name, world.binding? source = some writing ∧
    world.binding? reader = some reading ∧
    world.written? writing = some written ∧
    (ObjectId.widget writing.widget, name) ∈ reading.everWatched ∧
    hears name written = true

/-- A live property depends, directly or through others, on the property that it
writes. -/
def Circular (world : World σ) (id : BindingId) : Prop :=
  Relation.TransGen world.Feeds id id

variable {world after : World σ} {limit : Nat}

/-- If one live property writes what another one has read, it still does so
later. -/
theorem Later.feeds (later : world.Later after) (sound : world.Sound limit)
    {source reader : BindingId} (feeds : world.Feeds source reader) :
    after.Feeds source reader := by
  obtain ⟨writing, reading, written, name, foundWriting, foundReading, writes,
    member, heard⟩ :=
    feeds
  obtain ⟨writingLater, foundWritingLater, continues⟩ :=
    later.bindings source writing foundWriting
  obtain ⟨readingLater, foundReadingLater, reads⟩ :=
    later.bindings reader reading foundReading
  refine ⟨writingLater, readingLater, written, name, foundWritingLater,
    foundReadingLater, ?_, ?_, heard⟩
  · have known := (sound.bindings source writing foundWriting).2.1
    rw [← writes, written?, written?, continues.key, continues.widget,
      later.agrees.cls _ known]
  · rw [continues.widget]
    exact reads.everWatched member

theorem Later.circular (later : world.Later after) (sound : world.Sound limit)
    {id : BindingId} (circular : world.Circular id) : after.Circular id :=
  Relation.TransGen.mono (fun _ _ feeds => later.feeds sound feeds) id id circular

/-! ## Freshness -/

/-- What the expression of a live property gives when it is evaluated now,
without listening. -/
def scratch (world : World σ) (binding : LiveBinding) : Except UiError Value :=
  ((EvaluationContext.eval ⟨some binding.handle, binding.scope, none⟩
    binding.expr).run world).1

/-- The latest evaluation of a live property gave what an evaluation gives now,
and in every later world as long as everything that it has read stays the same.
-/
def Fresh (world : World σ) (id : BindingId) : Prop :=
  ∀ binding, world.binding? id = some binding →
    ∃ outcome, binding.outcome = some outcome ∧ ∀ later, world.Later later →
    (∀ slot ∈ binding.watched, later.sees slot = world.sees slot) →
    (later.scratch binding).map Value.forget = outcome.map Value.forget

/-- The latest evaluation of a live property has read plain properties only. -/
def Eligible (world : World σ) (id : BindingId) : Prop :=
  ∀ binding, world.binding? id = some binding → ∀ slot ∈ binding.watched,
    world.Plain slot

/-- A callback to come makes a live property evaluate again. -/
def Pending (world : World σ) (id : BindingId) (callback : Callback) : Prop :=
  ∃ binding property changed, world.binding? id = some binding ∧
    callback = .property (.binding id binding.generation property) changed ∧
    hears property changed = true

/-! ## Widgets that exist -/

/-- A widget in a tree below one of some roots. -/
inductive Held (roots : List Owned) (world : World σ) : WidgetId → Prop where
  | root {id : WidgetId} : .widget id ∈ roots → Held roots world id
  | child {parent id : WidgetId} : Held roots world parent →
    id ∈ (world.widget parent).children → Held roots world id

/-- All of some roots are kept by the host or by an operation in progress. -/
def Rooted (roots : List Owned) (world : World σ) : Prop :=
  ∀ thing ∈ roots, thing ∈ world.held ++ world.pins

theorem Held.mono {roots more : List Owned} (includes : roots ⊆ more)
    (children :
      ∀ parent : WidgetId,
        (world.widget parent).children ⊆ (after.widget parent).children)
    {id : WidgetId} (held : world.Held roots id) : after.Held more id := by
  induction held with
  | root member => exact .root (includes member)
  | child _ member hypothesis => exact .child hypothesis (children _ member)

/-- A held widget exists as long as one can climb from it to a root. -/
theorem Held.existsWithin {roots : List Owned} (rooted : world.Rooted roots)
    {id : WidgetId} (held : world.Held roots id) (length : Nat) :
    world.existsWithin length (.widget id) = true := by
  induction held generalizing length with
  | @root id member =>
    cases length with
    | zero => rfl
    | succ length =>
      have kept := rooted _ member
      have listed : Owned.widget id ∈ world.roots := by
        simp only [World.roots, List.mem_append]
        exact .inl (.inl (.inl (List.mem_append.mp kept)))
      simp only [World.existsWithin, List.contains_iff_mem.mpr listed, Bool.true_or]
  | @child parent id _ member hypothesis =>
    cases length with
    | zero => rfl
    | succ length =>
      have inside : parent.index < world.widgets.size := by
        refine Decidable.byContradiction fun outside => ?_
        have nothing := Store.get?_of_not_lt outside
        simp only [World.widget, nothing] at member
        cases member
      have everything : Owned.widget parent ∈ world.everything := by
        simp only [World.everything, List.mem_append, List.mem_map]
        refine .inl (.inl (.inl (.inl (.inl (.inl ⟨parent.index, ?_, rfl⟩)))))
        exact List.mem_range.mpr inside
      have owns : Owned.widget id ∈ world.owns (.widget parent) := by
        simp only [World.owns, List.mem_append, List.mem_map]
        exact .inl (.inl (.inl (.inl ⟨id, member, rfl⟩)))
      have owner : Owned.widget parent ∈ world.owners (.widget id) := by
        simp only [World.owners, List.mem_filter, List.mem_append]
        exact ⟨.inr everything, List.contains_iff_mem.mpr owns⟩
      have any :
          (world.owners (.widget id)).any (world.existsWithin length) = true :=
        List.any_eq_true.mpr ⟨_, owner, hypothesis length⟩
      simp only [World.existsWithin, any, Bool.or_true]

/-- A widget in a tree that is kept exists. -/
theorem Held.existingWidget? {roots : List Owned}
    (rooted : world.Rooted roots) {id : WidgetId} (held : world.Held roots id) :
    world.existingWidget? id = some id := by
  rw [World.existingWidget?, World.existing, held.existsWithin rooted]
  rfl

/-! ## The invariant -/

/-- Every live property whose record is kept is fresh, depends on itself, or
waits for one of the callbacks to come; `stack` are the live properties that are
being refreshed, latest first.  One live property may be left out, until its
evaluation has ended. -/
structure Settled (left : Option BindingId) (roots : List Owned) (world : World σ)
    (stack : List BindingId) (pending : List Callback) : Prop where
  sound : world.Sound world.loaded
  wired : world.Wired
  held : ∀ id binding,
      world.binding? id = some binding → world.Held roots binding.widget
  heldBlocks :
      ∀ id block, world.block? id = some block → world.Held roots block.parent
  covered : ∀ id, left ≠ some id → world.Recorded id → world.Covered id
  resolved : ∀ id binding,
      left ≠ some id → world.binding? id = some binding →
      ∀ name ∈ binding.expr.aliases, ∃ node,
        world.aliasWidget? binding.handle name = some node
  busy : ∀ id,
      id ∈ stack ↔
        ∃ binding, world.binding? id = some binding ∧ binding.busy = true
  distinct : stack.Nodup
  chain : ∀ id ∈ stack, ∀ top,
      stack.head? = some top → Relation.ReflTransGen world.Feeds id top
  fresh : ∀ id,
      left ≠ some id → world.Recorded id → world.Eligible id →
        world.Fresh id ∨ world.Circular id ∨
        ∃ callback ∈ pending, world.Pending id callback

end World

end LiveMarkup
