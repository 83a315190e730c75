import LiveMarkup.Proofs.Bindings.Writing

/-!
# Building up the tree

While a document is built, the tree only grows: what is in it stays there,
widgets that are there keep their parents, and only the aliases that are
declared come to the document.
-/

namespace LiveMarkup.World

variable {σ : Type} {world middle after : World σ}

/-- Part of a document was built, in which some aliases are declared. -/
structure Builds (handle : HandleId) (names : List String)
    (world after : World σ) : Prop where
  later : world.Later after
  held : after.held = world.held
  children : ∀ parent : WidgetId,
      (world.widget parent).children ⊆ (after.widget parent).children
  parent : ∀ id : WidgetId, id.index < world.widgets.size →
    (after.widget id).parent = (world.widget id).parent
  nodes : ∀ name,
      name ∉ names →
      after.aliasWidget? handle name = world.aliasWidget? handle name

variable {handle : HandleId} {names more : List String}

theorem Builds.refl (handle : HandleId) (names : List String) (world : World σ) :
    Builds handle names world world :=
  ⟨.refl world, rfl, fun _ => List.Subset.refl _, fun _ _ => rfl, fun _ _ => rfl⟩

/-- What was built in two steps was built by both, and the aliases add up. -/
theorem Builds.trans (left : Builds handle names world middle)
    (right : Builds handle more middle after) :
    Builds handle (names ++ more) world after where
  later := left.later.trans right.later
  held := right.held.trans left.held
  children parent :=
    List.Subset.trans (left.children parent) (right.children parent)
  parent id inside :=
    (right.parent id (Nat.lt_of_lt_of_le inside left.later.fits.widgets)).trans
      (left.parent id inside)
  nodes name absent := by
    rw [List.mem_append, not_or] at absent
    exact (right.nodes name absent.2).trans (left.nodes name absent.1)

/-- A step that declares no alias. -/
theorem Builds.unnamed (left : Builds handle names world middle)
    (right : Builds handle [] middle after) : Builds handle names world after :=
  List.append_nil names ▸ left.trans right

theorem Stays.builds (stays : world.Stays after) (handle : HandleId) :
    Builds handle [] world after where
  later := stays.later
  held := stays.held
  children parent := by
    rw [stays.children]
    exact List.Subset.refl _
  parent id _ := stays.parent id
  nodes name _ := by simp only [aliasWidget?, World.handle, stays.handles]

theorem SameObjects.builds (same : SameObjects world after)
    (later : world.Later after) (held : after.held = world.held)
    (handle : HandleId) : Builds handle [] world after where
  later
  held
  children := same.children
  parent id _ := by simp only [World.widget, same.widgets]
  nodes name _ := by simp only [aliasWidget?, (same.handles handle).2.2.1]

/-! ## Roots -/

theorem Settled.mono {left : Option BindingId} {roots extra : List Owned}
    {stack : List BindingId} {pending : List Callback}
    (settled : Settled left roots world stack pending)
    (held : ∀ id, world.Held roots id → world.Held extra id) :
    Settled left extra world stack pending :=
  { settled with
    held := fun id binding found => held _ (settled.held id binding found)
    heldBlocks := fun id block found => held _ (settled.heldBlocks id block found) }

theorem Settled.grow {left : Option BindingId} {roots extra : List Owned}
    {stack : List BindingId} {pending : List Callback}
    (settled : Settled left roots world stack pending)
    (includes : roots ⊆ extra) : Settled left extra world stack pending :=
  settled.mono fun _ held => held.mono includes fun _ => List.Subset.refl _

/-! ## The tree -/

theorem builds_newWidget (world : World σ) (cls : WidgetClass) (handle : HandleId) :
    Builds handle [] world (world.newWidget cls).2 where
  later := (furnishes_newWidget world cls).later
  held := rfl
  children := (furnishes_newWidget world cls).children
  parent id inside := by rw [widget_newWidget, if_neg (Nat.ne_of_lt inside)]
  nodes _ _ := rfl

/-- A new widget is put below another one. -/
theorem addChild_free {parent child : WidgetId}
    (free : (world.widget child).parent = none) :
    world.addChild parent child =
      (world.updateWidget child ({ · with parent := some parent })).updateWidget
        parent fun old => { old with children := old.children ++ [child] } := by
  unfold addChild detach
  rw [free]

/-- Children come to a widget, its parent changes, or its handlers. -/
theorem furnishes_tree (id : WidgetId) {change : Widget → Widget}
    (same : ∀ old : Widget, ∃ children parent connections, old.children ⊆ children ∧
      change old = { old with children, parent, connections }) :
    Furnishes world (world.updateWidget id change) := by
  have cls : ∀ old, (change old).cls = old.cls := fun old => by
    obtain ⟨_, _, _, _, equal⟩ := same old
    rw [equal]
  have fields : ∀ old, (change old).fields = old.fields := fun old => by
    obtain ⟨_, _, _, _, equal⟩ := same old
    rw [equal]
  have writes : WritesWidget world id change :=
    writesWidget_sameFields id cls (fun old => by
      obtain ⟨_, _, _, _, equal⟩ := same old
      rw [equal]) fields
  refine { writes.alters with
    children := fun parent => ?_
    blocks := fun _ block found => ⟨block, found, rfl⟩
    sees := fun _ slot _ _ => sees_updateWidget id cls fields slot }
  rw [widget_updateWidget]
  split
  · obtain ⟨_, _, _, more, equal⟩ := same (world.widget parent)
    rw [equal]
    exact more
  · exact List.Subset.refl _

/-- A widget that had no parent comes last among the children of its new one. -/
theorem widget_addChild {parent child : WidgetId}
    (free : (world.widget child).parent = none)
    (id : WidgetId) :
    (world.addChild parent child).widget id =
      { world.widget id with
        parent := if child = id ∧ child.index < world.widgets.size then some parent
          else (world.widget id).parent
        children := if parent = id ∧ parent.index < world.widgets.size then
          (world.widget id).children ++ [child]
            else (world.widget id).children } := by
  rw [addChild_free free, widget_updateWidget, widget_updateWidget]
  simp only [World.updateWidget, Store.size_update]
  split <;> split <;> rfl

/-- Where a new widget is put makes no difference to live properties, for links
are not read. -/
theorem Settled.addChild {roots : List Owned} {parent child : WidgetId}
    (settled : Settled none (.widget child :: roots) world [] [])
    (free : (world.widget child).parent = none) (held : world.Held roots parent)
    (inside : parent.index < world.widgets.size) :
    Settled none roots (world.addChild parent child) [] [] := by
  rw [addChild_free free]
  have first :
      Furnishes world (world.updateWidget child
        ({ · with parent := some parent })) :=
    furnishes_tree child fun old => ⟨old.children, some parent, old.connections,
      List.Subset.refl _, rfl⟩
  have second :
      Furnishes (world.updateWidget child ({ · with parent := some parent }))
        ((world.updateWidget child
          ({ · with parent := some parent })).updateWidget parent fun old =>
            { old with children := old.children ++ [child] }) :=
    furnishes_tree parent fun old =>
      ⟨old.children ++ [child], old.parent, old.connections,
        List.subset_append_left .., rfl⟩
  have children :=
    fun id => List.Subset.trans (first.children id) (second.children id)
  have member :
      child ∈
        (((world.updateWidget child
          ({ · with parent := some parent })).updateWidget parent fun old =>
            { old with children := old.children ++ [child] }).widget
          parent).children := by
    rw [widget_updateWidget,
      if_pos ⟨rfl, by rwa [World.updateWidget, Store.size_update]⟩]
    exact List.mem_append_right _ (List.mem_singleton_self _)
  refine ((settled.furnishes first).furnishes second).mono fun id reached => ?_
  induction reached with
  | root named =>
    rcases List.mem_cons.mp named with same | kept
    · cases same
      exact .child (held.mono (List.Subset.refl _) children) member
    · exact .root kept
  | child _ below hypothesis => exact .child hypothesis below

/-- A widget that was made since the beginning may be put below another one. -/
theorem Builds.addChild {parent child : WidgetId} {start : World σ}
    (builds : Builds handle names start world)
    (free : (world.widget child).parent = none)
    (new : start.widgets.size ≤ child.index) :
    Builds handle names start (world.addChild parent child) where
  later := by
    rw [addChild_free free]
    refine (builds.later.trans
      (furnishes_tree child fun old => ⟨old.children, some parent,
      old.connections, List.Subset.refl _, rfl⟩).later).trans
        (furnishes_tree parent fun old =>
          ⟨old.children ++ [child], old.parent, old.connections,
            List.subset_append_left .., rfl⟩).later
  held := by
    rw [addChild_free free]
    exact builds.held
  children id := by
    refine List.Subset.trans (builds.children id) ?_
    rw [widget_addChild free]
    split
    · exact List.subset_append_left ..
    · exact List.Subset.refl _
  parent id inside := by
    rw [widget_addChild free, ← builds.parent id inside]
    simp only
    rw [if_neg]
    rintro ⟨rfl, _⟩
    omega
  nodes name absent := by
    rw [addChild_free free]
    exact builds.nodes name absent

/-- Moving a child among its siblings furnishes the world. -/
theorem furnishes_moveChild (world : World σ) (parent child : WidgetId)
    (index : Nat) : Furnishes world (world.moveChild parent child index) := by
  refine furnishes_tree parent fun old => ?_
  split
  · refine ⟨_, old.parent, old.connections, fun other member => ?_, rfl⟩
    by_cases same : other = child
    · subst same
      exact List.mem_append_right _ (List.mem_cons_self ..)
    · have remaining : other ∈ old.children.erase child :=
        (List.mem_erase_of_ne same).mpr member
      rw [← List.take_append_drop index (old.children.erase child)] at remaining
      rcases List.mem_append.mp remaining with before | behind
      · exact List.mem_append_left _ before
      · exact List.mem_append_right _ (List.mem_cons_of_mem _ behind)
  · exact ⟨old.children, old.parent, old.connections, List.Subset.refl _, rfl⟩

/-- It builds nothing. -/
theorem builds_moveChild (world : World σ) (parent child : WidgetId)
    (index : Nat) (handle : HandleId) :
    Builds handle [] world (world.moveChild parent child index) where
  later := (furnishes_moveChild world parent child index).later
  held := rfl
  children := (furnishes_moveChild world parent child index).children
  parent id _ := by
    refine widget_project world parent id _ Widget.parent fun old => ?_
    split <;> rfl
  nodes _ _ := rfl

/-! ## Aliases -/

/-- An alias is declared that was not declared before. -/
theorem furnishes_registerNode (world : World σ) {handle : HandleId}
    {aliasName : String} {widget : WidgetId}
    (fresh : world.aliasWidget? handle aliasName = none)
    (inside : widget.index < world.widgets.size) :
    Furnishes world ((registerNode handle aliasName widget : Action σ Unit)
      world).2 := by
  refine furnishes_updateHandle world handle (fun _ => rfl) (fun _ => rfl)
    (fun _ => rfl) ?_ ?_ (fun _ absent => absent) fun _ member => .inl member
  · intro name node found
    rw [lookup_putEntry, if_neg]
    · exact found
    · rintro rfl
      rw [fresh] at found
      cases found
  · intro entry member
    rcases mem_putEntry member with old | rfl
    · exact .inl old
    · exact .inr inside

/-- A widget is entered under an alias that stood for nothing before. -/
theorem builds_registerNode (world : World σ) {handle : HandleId}
    {aliasName : String} {widget : WidgetId}
    (fresh : world.aliasWidget? handle aliasName = none)
    (inside : widget.index < world.widgets.size) :
    Builds handle [aliasName] world
      ((registerNode handle aliasName widget : Action σ Unit) world).2 where
  later := (furnishes_registerNode world fresh inside).later
  held := rfl
  children _ := List.Subset.refl _
  parent _ _ := rfl
  nodes name absent := by
    change ((world.updateHandle handle _).handle handle).nodes.lookup name = _
    rw [handle_updateHandle]
    split
    · rw [lookup_putEntry, if_neg fun same => absent (List.mem_singleton.mpr same)]
      rfl
    · rfl

end LiveMarkup.World
