import LiveMarkup.Proofs.Bindings.Applying

/-!
# Refreshing

A live property that is refreshed is evaluated and given to its widget, which
may cause others to be refreshed before it ends.  One that would have to be
refreshed while it is refreshed already depends on itself.
-/

namespace LiveMarkup.World

variable {σ : Type} {world middle after : World σ} {deliver : Deliver σ}
  {bound : Nat}
  {roots : List Owned} {stack : List BindingId} {pending : List Callback}
    {id : BindingId}

/-! ## Beginning and ending -/

/-- The callback at hand concerns one live property only, which is left out from
now on. -/
theorem Settled.leave {callback : Callback}
    (settled : Settled none roots world stack (callback :: pending))
    (concerns : ∀ other, world.Pending other callback → other = id) :
    Settled (some id) roots world stack pending :=
  { settled with
    covered := fun other _ => settled.covered other nofun
    resolved := fun other binding _ => settled.resolved other binding nofun
    fresh := fun other different recorded eligible => by
      rcases settled.fresh other nofun recorded eligible
        with fresh | circular | waiting
      · exact .inl fresh
      · exact .inr (.inl circular)
      · obtain ⟨waited, member, waits⟩ := waiting
        rcases List.mem_cons.mp member with rfl | later
        · exact absurd (congrArg some (concerns other waits).symm) different
        · exact .inr (.inr ⟨waited, later, waits⟩) }

/-- The callback at hand may be dropped if it concerns only live properties that
depend on themselves. -/
theorem Settled.drop {callback : Callback}
    (settled : Settled none roots world stack (callback :: pending))
    (concerns : ∀ other, world.Pending other callback → world.Circular other) :
    Settled none roots world stack pending :=
  { settled with
    fresh := fun other left recorded eligible => by
      rcases settled.fresh other left recorded eligible
        with fresh | circular | waiting
      · exact .inl fresh
      · exact .inr (.inl circular)
      · obtain ⟨waited, member, waits⟩ := waiting
        rcases List.mem_cons.mp member with rfl | later
        · exact .inr (.inl (concerns other waits))
        · exact .inr (.inr ⟨waited, later, waits⟩) }

theorem renews_busy (busy : Bool) : Renews ({ · with busy }) where
  continues _ := ⟨rfl, rfl, rfl, rfl, rfl, Nat.le_refl _, List.Subset.refl _⟩
  subscriptions _ := rfl
  everWatched _ := rfl
  listening _ := .inl ⟨rfl, rfl⟩

/-- A live property is marked as being refreshed or as not. -/
theorem Settled.setBusy {left : Option BindingId} {changed : List BindingId}
    {binding : LiveBinding} (settled : Settled left roots world stack pending)
    (found : world.binding? id = some binding) (busy : Bool)
    (members :
      ∀ other,
        other ∈ changed ↔ if other = id then busy = true else other ∈ stack)
    (distinct : changed.Nodup)
    (chain :
      ∀ other ∈ changed, ∀ top,
        changed.head? = some top → Relation.ReflTransGen world.Feeds other top) :
    Settled left roots (world.updateBinding id ({ · with busy })) changed
      pending := by
  have renews := renews_busy busy
  have later := later_updateBinding world id renews.continues
  have before : ∀ other binding,
      (world.updateBinding id ({ · with busy })).binding? other = some binding →
      ∃ old,
        world.binding? other = some old ∧
        binding = { old with busy := binding.busy } := by
    intro other binding foundAfter
    rw [binding?_updateBinding] at foundAfter
    split at foundAfter
    · obtain ⟨old, foundOld, rfl⟩ := Option.map_eq_some_iff.mp foundAfter
      exact ⟨old, foundOld, rfl⟩
    · exact ⟨binding, foundAfter, rfl⟩
  have next : ∀ other binding, world.binding? other = some binding →
      ∃ mark, (world.updateBinding id ({ · with busy })).binding? other =
        some { binding with busy := mark } := by
    intro other binding foundBefore
    rw [binding?_updateBinding, foundBefore]
    split
    · exact ⟨busy, rfl⟩
    · exact ⟨binding.busy, rfl⟩
  have children : ∀ parent : WidgetId, (world.widget parent).children ⊆
      ((world.updateBinding id ({ · with busy })).widget parent).children :=
    fun _ => List.Subset.refl _
  have held : ∀ widget, world.Held roots widget →
      (world.updateBinding id ({ · with busy })).Held roots widget :=
    fun widget held => held.mono (List.Subset.refl _) children
  exact {
    sound := settled.sound.updateBinding fun _ => ⟨rfl, rfl, rfl⟩
    wired := settled.wired.updateBinding renews
    held := fun other binding foundAfter => by
      obtain ⟨old, foundOld, same⟩ := before other binding foundAfter
      rw [same]
      exact held _ (settled.held other old foundOld)
    heldBlocks :=
      fun other block found => held _ (settled.heldBlocks other block found)
    covered := fun other different recorded binding foundAfter => by
      obtain ⟨old, foundOld, same⟩ := before other binding foundAfter
      rw [same]
      exact settled.covered other different recorded old foundOld
    resolved := fun other binding different foundAfter => by
      obtain ⟨old, foundOld, same⟩ := before other binding foundAfter
      rw [same]
      exact settled.resolved other old different foundOld
    busy := fun other => by
      rw [members, binding?_updateBinding]
      by_cases same : other = id
      · subst same
        simp [found]
      · have apart : ¬ id = other := fun equal => same equal.symm
        simp only [if_neg same, if_neg apart]
        exact settled.busy other
    distinct
    chain := fun other member top first =>
      Relation.ReflTransGen.mono
        (fun _ _ feeds => later.feeds settled.sound feeds) _ _
        (chain other member top first)
    fresh := fun other different recorded eligible => by
      have eligibleBefore : world.Eligible other := by
        intro binding foundBefore slot member
        obtain ⟨mark, foundAfter⟩ := next other binding foundBefore
        have plain := eligible _ foundAfter slot member
        obtain ⟨object, name⟩ := slot
        cases object <;> exact plain
      rcases settled.fresh other different recorded eligibleBefore
        with fresh | circular | waiting
      · refine .inl (fresh.carry later (fun binding foundAfter => ?_)
          fun _ _ slot _ =>
            LiveMarkup.World.sees_updateBinding world id _ slot)
        obtain ⟨old, foundOld, same⟩ := before other binding foundAfter
        exact ⟨old, foundOld, by rw [same]⟩
      · exact .inr (.inl (later.circular settled.sound circular))
      · obtain ⟨callback, member, binding, property, changed, foundBefore,
            rfl, heard⟩ :=
          waiting
        obtain ⟨mark, foundAfter⟩ := next other binding foundBefore
        exact .inr (.inr ⟨_, member, _, property, changed, foundAfter,
          rfl, heard⟩) }

/-- A live property is not among those that are being refreshed already. -/
theorem Settled.enter {binding : LiveBinding}
    (settled : Settled (some id) roots world stack pending)
    (found : world.binding? id = some binding) (free : id ∉ stack)
    (feeds : ∀ top, stack.head? = some top → world.Feeds top id) :
    Settled (some id) roots (world.updateBinding id ({ · with busy := true }))
      (id :: stack) pending := by
  refine settled.setBusy found true (fun other => ?_)
    (List.nodup_cons.mpr ⟨free, settled.distinct⟩)
    fun other member top first => ?_
  · by_cases same : other = id
    · simp [same]
    · simp [same]
  · cases Option.some.inj first
    rcases List.mem_cons.mp member with rfl | earlier
    · exact .refl
    · cases before : stack with
      | nil =>
        rw [before] at earlier
        cases earlier
      | cons last rest =>
        have shown : stack.head? = some last := by rw [before]; rfl
        exact (settled.chain other earlier last shown).tail (feeds last shown)

/-- A live property has been refreshed. -/
theorem Settled.exit {binding : LiveBinding}
    (settled : Settled none roots after (id :: stack) pending)
    (found : after.binding? id = some binding)
    (chain :
      ∀ other ∈ stack, ∀ top,
        stack.head? = some top → Relation.ReflTransGen after.Feeds other top) :
    Settled none roots (after.updateBinding id ({ · with busy := false })) stack
      pending := by
  have distinct := List.nodup_cons.mp settled.distinct
  refine settled.setBusy found false (fun other => ?_) distinct.2 chain
  by_cases same : other = id
  · subst same
    simpa using distinct.1
  · simp [same]

/-! ## Refreshing one live property -/

/-- What is kept until an operation ends may be given up at its end. -/
theorem Served.keeping {α : Type} {things : List Owned} {action : Action σ α}
    (served :
      Served roots stack pending (world.pin things)
        (action (world.pin things)).2) :
    Served roots stack pending world (keeping things action world).2 := by
  unfold LiveMarkup.keeping
  rcases run : action (world.pin things) with ⟨result, middle⟩
  rw [run] at served
  have pinned : SameState world (world.pin things) := rfl
  have released : SameState middle { middle with pins := world.pins } := rfl
  have settled := served.settled.sameState released
  refine ⟨settled.sweep, ?_, pins_sweep settled.wired⟩
  exact (((pinned.stays rfl).trans served.stays).trans (released.stays rfl)).trans
    (stays_sweep settled.wired)

theorem Settled.report (settled : Settled none roots world stack pending)
    (error : UiError) :
    Served roots stack pending world (report error world).2 :=
  have same : SameState world (LiveMarkup.report error world).2 := rfl
  ⟨settled.sameState same, same.stays rfl, rfl⟩

/-- A live property that is refreshed is fresh, and all others are settled. -/
theorem Serves.refresh (serves : Serves deliver bound) {binding : LiveBinding}
    (settled : Settled (some id) roots world stack pending)
    (rooted : world.Rooted roots) (found : world.binding? id = some binding)
    (free : id ∉ stack)
    (resolved :
      ∀ name ∈ binding.expr.aliases, ∃ node,
        world.aliasWidget? binding.handle name = some node)
    (feeds : ∀ top, stack.head? = some top → world.Feeds top id)
    (room : world.bindings.size < bound + 1 + stack.length) :
    Served roots stack pending world (id.refresh deliver world).2 := by
  have existing := (settled.held id binding found).existingWidget? rooted
  have idle : binding.busy = false := by
    refine Bool.eq_false_iff.mpr fun busy =>
      free ((settled.busy id).mpr ⟨binding, found, busy⟩)
  unfold BindingId.refresh
  rw [Action.bind_apply, Action.get_apply]
  simp only [found, existing, idle, Bool.false_eq_true, if_false]
  refine Served.keeping ?_
  have pinned :
      SameState world (world.pin [.binding id, .widget binding.widget]) :=
    rfl
  generalize kept :
      world.pin [.binding id, .widget binding.widget] = start at pinned ⊢
  have foundStart : start.binding? id = some binding := by
    rw [← kept]
    exact found
  have entered := (settled.sameState pinned).enter foundStart free fun top first =>
    pinned.transition.later.feeds settled.sound (feeds top first)
  have toStart : world.Stays start := pinned.stays (by rw [← kept]; rfl)
  have begun := stays_updateBinding start id (renews_busy true).continues
  have foundBegun : (start.updateBinding id ({ · with busy := true })).binding? id =
      some { binding with busy := true } := by
    rw [binding?_updateBinding, if_pos rfl, foundStart]
    rfl
  have rootedBegun :
      (start.updateBinding id ({ · with busy := true })).Rooted roots := by
    intro thing member
    rw [← kept]
    rcases List.mem_append.mp (rooted thing member) with held | before
    · exact List.mem_append_left _ held
    · exact List.mem_append_right _ (List.mem_append_right _ before)
  have roomBegun :
      (start.updateBinding id ({ · with busy := true })).bindings.size <
        bound + (id :: stack).length := by
    rw [begun.bindingCount, toStart.bindingCount, List.length_cons]
    omega
  have whole :
      Served roots (id :: stack) pending
        (start.updateBinding id ({ · with busy := true }))
        ((do
            LiveMarkup.applyProperty deliver binding.widget binding.key
              (← id.evaluate) : Attempt σ Unit).run
          (start.updateBinding id ({ · with busy := true }))).2 := by
    obtain ⟨evaluated, evaluates, known⟩ :=
      entered.evaluate foundBegun (.inl fun name member => by
        obtain ⟨node, stands⟩ := resolved name member
        refine ⟨node, (toStart.trans begun).later.agrees.nodes _ _ _ ?_ stands⟩
        exact (settled.sound.bindings id binding found).1)
    have first : Served roots (id :: stack) pending _ _ :=
      ⟨evaluated, evaluates.stays, evaluates.pins⟩
    refine first.bind fun value gave => serves.applyProperty evaluated
      (first.stays.rooted first.pins rootedBegun) ?_ ?_ (known value gave)
    · rw [first.stays.bindingCount]
      exact roomBegun
    · refine Causes.later ?_ first.stays.later
      intro top shown
      cases Option.some.inj shown
      exact ⟨_, foundBegun, rfl, rfl⟩
  have marked : (id.setBusy true : Action σ Unit) start =
      ((), start.updateBinding id ({ · with busy := true })) := rfl
  rw [Action.bind_apply, marked, Action.bind_apply]
  rcases run :
    (do
      LiveMarkup.applyProperty deliver binding.widget binding.key
        (← id.evaluate) : Attempt σ Unit).run
    (start.updateBinding id ({ · with busy := true })) with ⟨outcome, middle⟩
  rw [run] at whole
  have later := (toStart.trans begun).trans whole.stays
  obtain ⟨_, foundMiddle, _⟩ := later.later.bindings id binding found
  have left := whole.settled.exit foundMiddle fun other member top first =>
    Relation.ReflTransGen.mono
      (fun _ _ feeds => later.later.feeds settled.sound feeds) _ _
      (settled.chain other member top first)
  have ended := stays_updateBinding middle id (renews_busy false).continues
  have served :
      Served roots stack pending start
        (middle.updateBinding id ({ · with busy := false })) :=
    ⟨left, (begun.trans whole.stays).trans ended, whole.pins⟩
  cases outcome with
  | ok => exact served
  | error error => exact served.trans (left.report error)

end LiveMarkup.World
