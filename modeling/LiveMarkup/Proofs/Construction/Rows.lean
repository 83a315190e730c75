import LiveMarkup.Proofs.Construction.Readiness

/-!
# Rows of trees

For a component a tree of widgets is built, and for its children and loops a row
of trees below a parent.  What building one after the other gives is the rows
one after the other, so the order of a whole document follows from that of its
parts.  An attempt that fails may have built a part of that, but nothing else
has happened.
-/

namespace LiveMarkup

variable {σ α β : Type} {note : HostCall → σ → σ} {deliver : Deliver σ}

namespace World

variable {base known world middle after : World σ}

instance : Chains (Yields note [] [] [] : World σ → World σ → Prop) where
  refl := .refl
  trans first second := first.trans second

/-! ## Putting widgets below others -/

/-- No moment passes when a widget is changed in its links only. -/
theorem yields_updateWidget (note : HostCall → σ → σ) (world : World σ)
    (id : WidgetId) {change : Widget → Widget}
    (same :
      ∀ old,
        (change old).cls = old.cls ∧
        (change old).connections = old.connections ∧
        (change old).fields = old.fields) :
    Yields note [] [] [] world (world.updateWidget id change) := by
  have lasts :=
    world.lasts_updateWidget id fun old => ⟨(same old).1, (same old).2.1⟩
  have fields (other : WidgetId) :
      ((world.updateWidget id change).widget other).fields =
        (world.widget other).fields :=
    widget_project world id other change Widget.fields fun old => (same old).2.2
  exact .of_passes (.of_lasts lasts (fun other _ => fields other) rfl rfl rfl
    rfl) (Store.size_update ..) (.of_eq rfl)

theorem yields_removeChild (note : HostCall → σ → σ) (world : World σ)
    (parent child : WidgetId) :
    Yields note [] [] [] world (world.removeChild parent child) := by
  unfold World.removeChild
  split
  · refine Chains.trans (yields_updateWidget note world parent ?_)
      (yields_updateWidget note _ child ?_) <;> exact fun _ => ⟨rfl, rfl, rfl⟩
  · exact .refl world

/-- One moment passes when a child is added: the call that adds it. -/
theorem yields_addChild (note : HostCall → σ → σ) (world : World σ)
    (parent child : WidgetId) :
    Yields note [] [.call (.add parent child)] [] world
      (Toolkit.addChild parent child world).2 := by
  have detached (world : World σ) :
      Yields note [] [] [] world (world.detach child) := by
    unfold World.detach
    split
    · exact yields_removeChild note world _ child
    · exact .refl world
  refine (Yields.record note world (.add parent child)).trans
    (Chains.trans (detached _)
      (Chains.trans (yields_updateWidget note _ child ?_)
        (yields_updateWidget note _ parent ?_))) <;>
    exact fun _ => ⟨rfl, rfl, rfl⟩

theorem yields_moveChild (note : HostCall → σ → σ) (world : World σ)
    (parent child : WidgetId) (index : Nat) :
    Yields note [] [.call (.move parent child index)] [] world
      (Toolkit.moveChild parent child index world).2 :=
  (Yields.record note world (.move parent child index)).trans
    (yields_updateWidget note _ parent fun old => by
      split <;> exact ⟨rfl, rfl, rfl⟩)

/-- What was built for an item is taken away again. -/
theorem passesSome_teardown (note : HostCall → σ → σ) (item : ItemId) :
    Action.Within (PassesSome note) (item.teardown : Action σ Unit) := by
  refine within_teardown ?_ item
  intro parent child world
  exact ((Yields.record note world (.remove parent child)).trans
    (yields_removeChild note _ parent child)).passesSome

/-! ## What is built -/

/-- What a source means beside the variables of loops, at some time while a
document is built: a list with some elements.  The time lies between a first
world and a last one: some moments have passed since the first, and others lead
to the last, so what a widget holds at the time it still holds at last, unless
it is set again. -/
def Enumerates (note : HostCall → σ → σ) (base last : World σ)
    (handle : HandleId) (scope : Scope) (source : Expr) (values : List Value) :
    Prop :=
  ∃ (before middle : World σ) (list : ListId), base.PassesSome note before ∧
    middle.LeadsTo last ∧
    (EvaluationContext.eval ⟨some handle, scope, none⟩ source).run before =
    (.ok (.list list), middle) ∧ (middle.list list).items = values

/-- A tree was built for a document. -/
def YieldsTree (note : HostCall → σ → σ) (base : World σ) (handle : HandleId)
    (tree : WidgetTree) (world after : World σ) : Prop :=
  Yields note tree.preorder tree.moments
    (readyCallsOf base.registry (base.handle handle).controller tree.postorder)
    world after

/-- Some trees were built for a document below a parent. -/
def YieldsRow (note : HostCall → σ → σ) (base : World σ) (handle : HandleId)
    (parent : WidgetId) (row : WidgetRow) (world after : World σ) : Prop :=
  Yields note row.preorder (row.moments parent)
    (readyCallsOf base.registry (base.handle handle).controller row.postorder)
    world after

variable {handle : HandleId} {parent : WidgetId} {row later : WidgetRow}

namespace YieldsRow

theorem nil (quiet : Yields note [] [] [] world after) :
    YieldsRow note base handle parent .nil world after :=
  quiet

theorem append (left : YieldsRow note base handle parent row world middle)
    (right : YieldsRow note base handle parent later middle after) :
    YieldsRow note base handle parent (row.append later) world after := by
  unfold YieldsRow
  rw [WidgetRow.preorder_append, WidgetRow.moments_append,
    WidgetRow.postorder_append, readyCallsOf_append]
  exact Yields.trans left right

/-- The document is the same later on. -/
theorem of_later (yields : YieldsRow note known handle parent row world after)
    (lasts : base.Lasts known) :
    YieldsRow note base handle parent row world after := by
  unfold YieldsRow
  rw [← lasts.registry, ← lasts.controllers]
  exact yields

end YieldsRow

/-- A tree was built and put below its parent. -/
theorem YieldsTree.attach {tree : WidgetTree} {place : Option Nat}
    (built : YieldsTree note base handle tree world middle)
    (attached :
      Yields note [] (attachment parent tree.widget place) [] middle after) :
    YieldsRow note base handle parent (.cons tree place .nil) world after := by
  have whole := Yields.trans built attached
  rw [List.append_nil, List.append_nil] at whole
  unfold YieldsRow
  simpa only [WidgetRow.preorder, WidgetRow.moments, WidgetRow.postorder,
    List.append_nil] using whole

end World

open World (Yields YieldsTree YieldsRow PassesSome LeadsTo)

/-! ## Building one after the other -/

namespace Attempt

/-- In any world as known or later in which a parent is kept, an attempt builds
a row below the parent, or it fails. The row has some shape if what happens
later leads to a last world. -/
def Raises (note : HostCall → σ → σ) (known last : World σ)
    (handle : HandleId) (parent : WidgetId) (shape : WidgetRow → Prop)
    (attempt : Attempt σ α) : Prop :=
  ∀ world, known.PassesSome note world → .widget parent ∈ world.pins →
    attempt.Ends world
      (fun _ after => ∃ row, (after.LeadsTo last → shape row) ∧
        YieldsRow note known handle parent row world after)
      (PassesSome note world)

/-- In any world as known or later, an attempt builds a tree of some shape, or
it fails. -/
def Plants (note : HostCall → σ → σ) (known last : World σ)
    (handle : HandleId) (shape : WidgetTree → Prop)
    (attempt : Attempt σ WidgetId) : Prop :=
  ∀ world, known.PassesSome note world →
    attempt.Ends world (fun result after => ∃ tree, tree.widget = result ∧
      (after.LeadsTo last → shape tree) ∧
      YieldsTree note known handle tree world after) (PassesSome note world)

namespace Raises

variable {base known last : World σ} {handle : HandleId} {parent : WidgetId}
  {shape others : WidgetRow → Prop}
  {attempt : Attempt σ α}

theorem mono
    (raises : attempt.Raises note known last handle parent shape)
    (wider : ∀ row, shape row → others row) :
    attempt.Raises note known last handle parent others := by
  intro world since pinned
  refine (raises world since pinned).mono (fun _ after => ?_) fun _ failed => failed
  rintro ⟨row, shaped, yields⟩
  exact ⟨row, fun leads => wider row (shaped leads), yields⟩

/-- What is built in all worlds as known is built in those as known later. -/
theorem later
    (raises : attempt.Raises note base last handle parent shape)
    (passed : base.PassesSome note known) :
    attempt.Raises note known last handle parent shape := by
  intro world since pinned
  refine (raises world (Chains.trans passed since) pinned).mono (fun _ _ => ?_)
    fun _ failed => failed
  rintro ⟨row, shaped, yields⟩
  refine ⟨row, shaped, ?_⟩
  unfold YieldsRow
  rw [passed.lasts.registry, passed.lasts.controllers]
  exact yields

theorem pure (result : α) (none : shape .nil) :
    (Pure.pure result : Attempt σ α).Raises note known last handle
      parent shape := by
  intro world _ _
  exact .pure ⟨.nil, fun _ => none, .nil (.refl world)⟩

/-- Rows are built one after the other. -/
theorem bind {next : α → Attempt σ β}
    (first : attempt.Raises note known last handle parent shape)
    (second : ∀ result, (next result).Raises note known last handle parent others) :
    (attempt >>= next).Raises note known last handle parent
      (fun row => ∃ one, shape one ∧ ∃ two, others two ∧ row = one.append two) := by
  intro world since pinned
  refine (first world since pinned).bind (fun result middle before => ?_)
    fun _ failed => failed
  obtain ⟨one, shapedOne, built⟩ := before
  have reached := Chains.trans since built.passesSome
  refine (second result middle reached (built.keeps parent pinned)).mono
    (fun _ after => ?_) fun _ failed => built.then_some failed
  rintro ⟨two, shapedTwo, yields⟩
  refine ⟨one.append two, fun leads => ?_, built.append yields⟩
  exact ⟨one, shapedOne (yields.passesSome.leadsTo.trans leads), two,
    shapedTwo leads, rfl⟩

/-- Nothing is built at first. -/
theorem behind {next : α → Attempt σ β}
    (first : attempt.Raises note known last handle parent (· = .nil))
    (second : ∀ result, (next result).Raises note known last handle parent shape) :
    (attempt >>= next).Raises note known last handle parent shape := by
  refine (first.bind second).mono ?_
  rintro _ ⟨_, rfl, row, shaped, rfl⟩
  exact shaped

/-- Nothing is built at last. -/
theorem before {next : α → Attempt σ β}
    (first : attempt.Raises note known last handle parent shape)
    (second :
      ∀ result, (next result).Raises note known last handle parent (· = .nil)) :
    (attempt >>= next).Raises note known last handle parent shape := by
  refine (first.bind second).mono ?_
  rintro _ ⟨row, shaped, _, rfl, rfl⟩
  rw [WidgetRow.append_nil]
  exact shaped

theorem getThe {next : World σ → Attempt σ α}
    (rest : ∀ world, (next world).Raises note known last handle parent shape) :
    (getThe (World σ) >>= next).Raises note known last handle parent shape := by
  intro world since pinned
  exact .get (rest world world since pinned)

/-- An action builds nothing. -/
theorem lift {action : Action σ α}
    (quiet : Action.Within (Yields note [] [] []) action) :
    (liftM action : Attempt σ α).Raises note known last handle parent
      (· = .nil) := by
  intro world _ _
  exact .lift ⟨.nil, fun _ => rfl, quiet world⟩

theorem modifyThe {change : World σ → World σ}
    (quiet : ∀ world, Yields note [] [] [] world (change world)) :
    (modifyThe (World σ) change : Attempt σ PUnit).Raises note known last handle
      parent (· = .nil) := by
  intro world _ _
  exact .change ⟨.nil, fun _ => rfl, quiet world⟩

theorem throw {error : UiError} :
    (MonadExcept.throw error : Attempt σ α).Raises note known last handle
      parent shape := by
  intro world _ _
  exact .throw (Chains.refl world)

/-- What is built while things are kept alive is as it is. -/
theorem attempting {things : List Owned}
    (raises : attempt.Raises note known last handle parent shape) :
    (LiveMarkup.attempting things attempt).Raises note known last handle
      parent shape := by
  intro world since pinned
  have held := Yields.pin note world things
  have inside :=
    raises (world.pin things) (Chains.trans since held.passesSome)
      (held.keeps parent pinned)
  refine .attempting (inside.mono (fun _ after => ?_) fun after failed => ?_)
  · rintro ⟨row, shaped, yields⟩
    have whole :
        Yields note row.preorder (row.moments parent)
          (readyCallsOf known.registry (known.handle handle).controller
            row.postorder) world after :=
      held.trans yields
    have closed := LeadsTo.release after world.pins
    refine ⟨row, ?_, whole.release fun _ kept => kept⟩
    intro leads
    exact shaped (closed.trans leads)
  · obtain ⟨moments, handled, passes⟩ := held.then_some failed
    exact (passes.release world.pins).some

end Raises

/-- A tree is built and put below a parent, and more is built after it. -/
theorem Plants.bind {known last : World σ} {handle : HandleId}
    {parent : WidgetId} {shape : WidgetTree → Prop} {moved : Bool}
    {others whole : WidgetRow → Prop} {attempt : Attempt σ WidgetId}
    {next : WidgetId → Attempt σ α} {rest : Attempt σ α}
    (plants : attempt.Plants note known last handle shape)
    (raises : rest.Raises note known last handle parent others)
    (cons :
      ∀ {child place later},
        shape child → place.isSome = moved → others later →
        whole (.cons child place later))
    (attaches :
      ∀ child world, ∃ place middle,
        place.isSome = moved ∧
        Yields note [] (attachment parent child place) [] world middle ∧
        (next child).run world = rest.run middle) :
    (attempt >>= next).Raises note known last handle parent whole := by
  intro world since pinned
  refine (plants world since).bind (fun result built before => ?_)
    fun _ failed => failed
  obtain ⟨child, rfl, shaped, grown⟩ := before
  obtain ⟨place, middle, placed, attached, continues⟩ := attaches child.widget built
  have below := grown.attach attached
  have ends :=
    raises middle (Chains.trans since below.passesSome)
      (below.keeps parent pinned)
  constructor <;> intro outcome after ran <;> rw [continues] at ran
  · obtain ⟨later, shapedLater, yields⟩ := ends.success outcome after ran
    refine ⟨_, fun leads => ?_, below.append yields⟩
    have rest := yields.passesSome.leadsTo.trans leads
    exact cons (shaped (attached.passesSome.leadsTo.trans rest)) placed
      (shapedLater leads)
  · exact below.then_some (ends.failure outcome after ran)

end Attempt

end LiveMarkup
