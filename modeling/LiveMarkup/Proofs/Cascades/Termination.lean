import LiveMarkup.Proofs.Cascades.Agreement
import Mathlib.Data.List.Perm.Subperm

/-!
# Cascades of announcements end

Setting a property announces it, which refreshes live properties, which sets
other properties.  A live property that is busy is not refreshed once more, so
refreshes nest no deeper than there are live properties, and a cascade ends even
if these depend on themselves or on each other in a circle.
-/

namespace LiveMarkup

variable {σ : Type} {world after : World σ} {host : Host σ}
  {first second : Deliver σ}
  {running : List BindingId} {id : BindingId} {binding : LiveBinding}

open World (Undisturbed)

/-! ## Supervision -/

/-- The live property that a callback evaluates, if it comes to that. -/
def Callback.evaluates? (world : World σ) : Callback → Option BindingId
  | .property (.binding id generation name) changed =>
    if hears name changed && (world.binding? id).any (·.generation == generation)
        && (world.refreshable? id).isSome then some id
    else none
  | _ => none

/-- The live properties whose widgets exist. -/
def World.liveProperties (world : World σ) : List BindingId :=
  (world.bindings.indices.map BindingId.mk).filter fun id =>
    (world.binding? id).any fun binding => world.existing (.widget binding.widget)

/-- Deliver callbacks under supervision.  `running` lists the live properties
that are being evaluated or given to their widgets, the innermost first.  A
callback that would do so with one of them a second time, or with more than
there are, is dropped, and the world shows it as if callbacks were nested too
deeply. -/
def Host.supervise (host : Host σ) : Nat → List BindingId → Deliver σ
  | 0, _, _ => modify fun world => { world with exhausted := true }
  | depth + 1, running, callback => do
    let world ← get
    match callback.evaluates? world with
    | none => host.run (host.supervise depth running) callback
    | some id =>
      if running.contains id || world.liveProperties.length ≤ running.length then
        modify fun world => { world with exhausted := true }
      else host.run (host.supervise depth (id :: running)) callback

/-! ## What is running -/

namespace World

/-- Some live properties are being refreshed, each of them once, and their
widgets are kept in existence meanwhile. -/
structure Refreshing (world : World σ) (running : List BindingId) : Prop where
  distinct : running.Nodup
  busy : ∀ id ∈ running, world.isBusy id
  pinned : ∀ id ∈ running, ∀ widget,
      (world.binding? id).map (·.widget) = some widget →
      Owned.widget widget ∈ world.pins

theorem Refreshing.nil : Refreshing world [] :=
  ⟨.nil, nofun, nofun⟩

theorem Refreshing.later (refreshing : Refreshing world running)
    (undisturbed : Undisturbed world after) : Refreshing after running where
  distinct := refreshing.distinct
  busy id member := (undisturbed.busy id).trans (refreshing.busy id member)
  pinned id member widget found :=
    undisturbed.pinned widget
      (refreshing.pinned id member widget (undisturbed.widgets id ▸ found))

/-- A live property that is not busy is not among those that are being refreshed. -/
theorem Refreshing.not_mem (refreshing : Refreshing world running)
    (due : world.refreshable? id = some binding) : id ∉ running := by
  obtain ⟨found, _, idle⟩ := refreshable?_eq_some.mp due
  intro member
  have busy := refreshing.busy id member
  rw [isBusy, found, Option.any_some, idle] at busy
  cases busy

/-- A refresh that begins makes one more of the live properties busy. -/
theorem Refreshing.begin (refreshing : Refreshing world running)
    (due : world.refreshable? id = some binding) :
    Refreshing (world.beginRefresh id binding.widget) (id :: running) := by
  obtain ⟨found, _, _⟩ := refreshable?_eq_some.mp due
  refine ⟨List.nodup_cons.mpr ⟨refreshing.not_mem due, refreshing.distinct⟩,
    fun other member => ?_, fun other member widget foundOther => ?_⟩
  · rw [beginRefresh, isBusy_mark]
    split
    · change (world.binding? id).isSome && true
      rw [found]
      rfl
    · next apart =>
      exact refreshing.busy other
        ((List.mem_cons.mp member).resolve_left fun same => apart same.symm)
  · rw [beginRefresh, widget_mark] at foundOther
    change Owned.widget widget ∈ [.binding id, .widget binding.widget] ++ world.pins
    rcases List.mem_cons.mp member with rfl | before
    · have same : some binding.widget = some widget := by
        rw [← foundOther]
        exact (congrArg (Option.map (·.widget)) found).symm
      cases same
      exact List.mem_append_left _ (List.mem_cons_of_mem _ List.mem_cons_self)
    · exact List.mem_append_right _
        (refreshing.pinned other before widget foundOther)

theorem existing_of_mem_pins {thing : Owned} (kept : thing ∈ world.pins) :
    world.existing thing := by
  have root : thing ∈ world.roots := by
    simp only [roots, List.mem_append, kept, true_or, or_true]
  rw [existing, existsWithin, List.contains_iff_mem.mpr root, Bool.true_or]

/-- The live properties are those whose widgets exist. -/
theorem mem_liveProperties :
    id ∈ world.liveProperties ↔
      ∃ binding,
        world.binding? id = some binding ∧
        world.existing (.widget binding.widget) := by
  simp only [liveProperties, List.mem_filter, Option.any_eq_true]
  refine ⟨fun member => member.2, fun live => ⟨?_, live⟩⟩
  obtain ⟨binding, found, _⟩ := live
  exact List.mem_map.mpr ⟨id.index,
    List.mem_range.mpr (Store.lt_size_of_get? found), rfl⟩

theorem Refreshing.subset (refreshing : Refreshing world running) :
    running ⊆ world.liveProperties := by
  intro id member
  obtain ⟨binding, found, _⟩ :=
    Option.any_eq_true _ _ |>.mp (refreshing.busy id member)
  have kept := refreshing.pinned id member binding.widget (by rw [found]; rfl)
  exact mem_liveProperties.mpr ⟨binding, found, existing_of_mem_pins kept⟩

theorem length_liveProperties_le (world : World σ) :
    world.liveProperties.length ≤ world.liveCount := by
  refine Nat.le_trans (List.length_filter_le _ _) (Nat.le_of_eq ?_)
  rw [List.length_map]
  exact List.length_range

theorem Refreshing.length_le (refreshing : Refreshing world running) :
    running.length ≤ world.liveCount :=
  Nat.le_trans (refreshing.distinct.subperm refreshing.subset).length_le
    world.length_liveProperties_le

/-- There is room for one more as long as one is left to be refreshed. -/
theorem Refreshing.length_lt (refreshing : Refreshing world running)
    (due : world.refreshable? id = some binding) :
    running.length < world.liveProperties.length := by
  obtain ⟨found, present, _⟩ := refreshable?_eq_some.mp due
  have distinct := List.nodup_cons.mpr ⟨refreshing.not_mem due, refreshing.distinct⟩
  have subset :=
    List.cons_subset.mpr ⟨mem_liveProperties.mpr ⟨binding, found, present⟩,
      refreshing.subset⟩
  exact (distinct.subperm subset).length_le

end World

/-! ## The induction -/

/-- What the host does when it hears of a changed property causes no callbacks,
and leaves alone what cascades do. -/
def Host.OnlyListens (host : Host σ) : Prop :=
  ∀ (first second : Deliver σ) (number : Nat) (changed : String) (world : World σ),
    host.respond second (.property number changed) world =
        host.respond first (.property number changed) world ∧
      Undisturbed world (host.respond first (.property number changed) world).2

/-- A callback that hears of a changed property does the same with both, if they
do the same while it evaluates a live property. -/
theorem agree_run (listens : host.OnlyListens) {listener : PropertyListener}
    {changed : String}
    (inner :
      ∀ id binding,
        (Callback.property listener changed).evaluates? world = some id →
        world.refreshable? id = some binding →
        Deliver.Agree (world.beginRefresh id binding.widget) first second) :
    host.run second (.property listener changed) world =
      host.run first (.property listener changed) world ∧
    Undisturbed world (host.run first (.property listener changed)
      world).2 := by
  cases listener with
  | host number => exact listens first second number changed world
  | binding id generation property =>
    cases heard : hears property changed &&
      (world.binding? id).any (·.generation == generation) with
    | false =>
      have run : ∀ deliver : Deliver σ,
          host.run deliver (.property (.binding id generation property) changed)
            world = ((), world) := by
        intro deliver
        simp only [Host.run, Action.bind_apply, Action.get_apply, heard,
          Bool.false_eq_true, if_false, Action.pure_apply]
      rw [run, run]
      exact ⟨rfl, Chains.refl world⟩
    | true =>
      have run : ∀ deliver : Deliver σ,
          host.run deliver (.property (.binding id generation property) changed)
            world = id.refresh deliver world := by
        intro deliver
        simp only [Host.run, Action.bind_apply, Action.get_apply, heard, if_true]
      rw [run, run]
      refine agree_refresh fun binding due => inner id binding ?_ due
      simp only [Callback.evaluates?, heard, due, Option.isSome_some,
        Bool.and_self, if_true]

/-- A callback that evaluates a live property finds it ready to be refreshed. -/
theorem evaluates?_refreshable {callback : Callback}
    (due : callback.evaluates? world = some id) :
    ∃ binding, world.refreshable? id = some binding := by
  unfold Callback.evaluates? at due
  split at due
  · split at due
    · next known =>
      cases due
      exact Option.isSome_iff_exists.mp (Bool.and_eq_true_iff.mp known).2
    · cases due
  · cases due

/-- With enough room, callbacks that hear of a changed property do the same with
supervision and without: none of them is dropped.  The live properties that are
not being refreshed yet become fewer whenever callbacks nest more deeply in a
refresh. -/
theorem agree_supervise (listens : host.OnlyListens) (depth : Nat) :
    ∀ {other : Nat} {running : List BindingId} {world : World σ},
      world.Refreshing running →
      world.liveCount < depth + running.length →
      world.liveCount < other + running.length →
      Deliver.Agree world (host.deliver other)
        (host.supervise depth running) := by
  induction depth with
  | zero =>
    intro other running world refreshing room _
    have full := refreshing.length_le
    omega
  | succ depth hypothesis =>
    intro other running world refreshing room roomOther listener changed now before
    replace refreshing := refreshing.later before
    have count : now.liveCount = world.liveCount := before.bindingCount
    have full := refreshing.length_le
    obtain ⟨other, rfl⟩ : ∃ less, other = less + 1 := ⟨other - 1, by omega⟩
    suffices alike :
        host.supervise (depth + 1) running (.property listener changed) now =
          host.run (host.deliver other) (.property listener changed) now ∧
        Undisturbed now (host.run (host.deliver other)
          (.property listener changed) now).2
          from ⟨alike.1, Chains.trans before alike.2⟩
    cases due : (Callback.property listener changed).evaluates? now with
    | none =>
      have run :
          host.supervise (depth + 1) running (.property listener changed) now =
            host.run (host.supervise depth running)
              (.property listener changed) now := by
        simp only [Host.supervise, Action.bind_apply, Action.get_apply, due]
      rw [run]
      exact agree_run listens fun id binding found _ => by
        rw [due] at found; cases found
    | some id =>
      obtain ⟨binding, refreshable⟩ := evaluates?_refreshable due
      have once : running.contains id = false := by
        simpa using refreshing.not_mem refreshable
      have fits := Nat.not_le.mpr (refreshing.length_lt refreshable)
      have run :
          host.supervise (depth + 1) running (.property listener changed) now =
            host.run (host.supervise depth (id :: running))
              (.property listener changed) now := by
        simp only [Host.supervise, Action.bind_apply, Action.get_apply, due,
          once, fits, decide_false, Bool.or_self, Bool.false_eq_true, if_false]
      rw [run]
      refine agree_run listens fun same binding found refreshable => ?_
      obtain rfl := Option.some.inj (due.symm.trans found)
      have begun :
          (now.beginRefresh id binding.widget).liveCount = world.liveCount :=
        (Store.size_update ..).trans count
      refine hypothesis (refreshing.begin refreshable) ?_ ?_
      · rw [begun, List.length_cons]
        omega
      · rw [begun, List.length_cons]
        omega

/-! ## Setting properties -/

namespace World

/-- An operation ends if it does the same with two ways to deliver callbacks
whenever these do the same with those that hear of a changed property. -/
theorem ends_of_agree {α : Type} (listens : host.OnlyListens)
    (resting : world.Resting) {action : Deliver σ → Action σ α}
    (respects :
      ∀ first second,
        Deliver.Agree world first second →
        Action.Agree world (action first) (action second)) :
    ∃ result after,
      after.exhausted = world.exhausted ∧ after.Resting ∧
      ∀ depth,
        world.liveCount < depth →
          action (host.deliver depth) world = (result, after) ∧
          action (host.supervise depth []) world = (result, after) := by
  have same : ∀ depth other, world.liveCount < depth → world.liveCount < other →
      action (host.supervise depth []) world = action (host.deliver other) world ∧
        Undisturbed world (action (host.deliver other) world).2 :=
    fun depth other room roomOther =>
      respects _ _ (agree_supervise listens depth .nil room roomOther) world
        (Chains.refl world)
  have enough := Nat.lt_succ_self world.liveCount
  have undisturbed := (same _ _ enough enough).2
  refine ⟨(action (host.deliver (world.liveCount + 1)) world).1, _,
    undisturbed.exhausted, undisturbed.busy.resting resting,
    fun depth room => ⟨?_, ?_⟩⟩
  · exact (same depth depth room room).1.symm.trans (same depth _ room enough).1
  · exact (same depth _ room enough).1

/-- Setting a property of a bag or of a widget ends if it is not done in a
callback, whatever the live properties are that there are: one outcome is the
same however deeply callbacks may nest, as long as they may nest more deeply
than there are live properties, and no callback is dropped on the way.  It is
also the outcome under supervision, so at any moment each live property has at
most one refresh that evaluates it or gives it to its widget, and no more
refreshes nest than there are live properties.  Afterwards no live property is
busy. -/
theorem cascade_ends (keeps : host.Within SameBusy)
    (listens : host.OnlyListens) (outside : world.Outside host) :
    (∀ (bag : BagId) name value, ∃ after,
      after.exhausted = world.exhausted ∧ after.Resting ∧
      ∀ depth,
        world.liveCount < depth →
          bag.set (host.deliver depth) name value world = ((), after) ∧
          bag.set (host.supervise depth []) name value world = ((), after)) ∧
    ∀ (widget : WidgetId) name value, ∃ outcome after,
      after.exhausted = world.exhausted ∧ after.Resting ∧
      ∀ depth,
        world.liveCount < depth →
          (widget.write (host.deliver depth) name value).run world =
            (outcome, after) ∧
          (widget.write (host.supervise depth []) name value).run world =
            (outcome, after) := by
  have resting := outside.resting keeps
  refine ⟨fun bag name value => ?_, fun widget name value => ?_⟩
  · obtain ⟨_, ends⟩ :=
      ends_of_agree listens resting fun _ _ agree =>
        agree_set agree bag name value
    exact ends
  · exact ends_of_agree listens resting fun _ _ agree =>
      agree_write agree widget name value

/-! A label shows its own text and a note behind it, and another label shows the
text of the first. -/

/-- A host widget, and a bag with a note. -/
def noteStart : World Unit :=
  { bags := ⟨#[⟨"Main", [("note", .text "a")], .none⟩]⟩
    widgets := ⟨#[.ofClass Builtin.control]⟩
    held := [.widget ⟨0⟩]
    host := () }

/-- The labels are rendered. -/
def renderNote : Attempt Unit HandleId :=
  renderSource (Host.silent.deliver 5)
    ("VBox \x7b @sum: Label \x7b text := @sum.text + $controller.note \x7d " ++
      "Label \x7b text := @sum.text \x7d \x7d")
    ⟨⟨0⟩, false, []⟩ ⟨0⟩

theorem renderNote_liveCount :
    (renderNote.run noteStart).2.liveCount = 2 ∧
    (renderNote.run noteStart).2.exhausted = false := by
  decide +kernel

/-- When the note changes, what this does to the first label does not refresh it
once more. -/
theorem cascade_ends_note :
    ∃ after,
      after.exhausted = false ∧ after.Resting ∧
      BagId.set (Host.silent.deliver 3) ⟨0⟩ "note" (.text "b")
        (renderNote.run noteStart).2 = ((), after) := by
  have outside : (renderNote.run noteStart).2.Outside Host.silent :=
    .render 5 _ _ _ (.begin rfl)
  obtain ⟨count, plain⟩ := renderNote_liveCount
  obtain ⟨after, exhausted, resting, same⟩ :=
    (cascade_ends (fun _ _ _ => .pure _)
      (fun _ _ _ _ world => ⟨rfl, Chains.refl world⟩) outside).1 ⟨0⟩
      "note" (.text "b")
  exact ⟨after, exhausted.trans plain, resting,
    (same 3 (count ▸ Nat.lt_succ_self 2)).1⟩

end World

end LiveMarkup
