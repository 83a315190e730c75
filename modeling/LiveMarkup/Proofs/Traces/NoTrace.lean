import LiveMarkup.Proofs.Bindings.Following
import LiveMarkup.Proofs.Traces.Failing

/-!
# Failures leave no trace

Whatever the reason and however deep in the tree of imports it lies: if a
document cannot be loaded or rendered, all documents that have come on the way
have ended, so nothing new is owned, listens or is shown, and what was there
before looks as it did.
-/

namespace LiveMarkup.World

variable {σ : Type} {start world after : World σ} {host : WidgetId} {first : Nat}

theorem Tidy.good (tidy : start.Tidy) (host : WidgetId) : Good host start start :=
  ⟨tidy, tidy.additions host, tidy.swept, fun _ member => member⟩

theorem filed_start (start : World σ) : Filed start start [] where
  above id new entry member := by
    rw [(ended_of_not_lt (Nat.not_lt.mpr new)).imports] at member
    cases member
  loose id new := .inl (ended_of_not_lt (Nat.not_lt.mpr new))

/-- If nothing is left open, what was there at the start is as it was. -/
theorem Fails.untouched (fails : Fails host start [] first start after) :
    Untouched start after := by
  refine Deserted.untouched fails.moves.good.tidy fails.moves.good.additions ?_
    fails.sameTops
  refine ⟨fails.moves.good.swept, fails.moves.pins, ?_⟩
  intro id new
  exact fails.filed.ended id.index new

/-- Before anything is rendered, nothing names what there is not, and nothing is
unowned. -/
theorem Unrendered.tidy (unrendered : world.Unrendered)
    (lists : ∀ id, (world.list id).listeners.Ordered ∧
      ∀ entry ∈ (world.list id).listeners.entries, ∃ number, entry.2 = .host number)
    (pins : world.pins = []) (children : ∀ id, ∀ child ∈ (world.widget id).children,
      child.index < world.widgets.size) : world.Tidy where
  sound := unrendered.sound
  wired := (unrendered.settled []).wired
  swept := {
    blocks := fun id block found => by
      rw [block?_of_none unrendered.blocks] at found
      cases found
    items := fun id live => by
      have inside := item_inside live
      rw [unrendered.items] at inside
      exact absurd inside (Nat.not_lt_zero _) }
  ordered id := (lists id).1
  listening id number block member := by
    obtain ⟨_, same⟩ := (lists id).2 _ member
    cases same
  nested id block member := by
    have none : world.items.get? id.index = .none := Store.get?_of_not_lt (by
      rw [unrendered.items]
      exact Nat.not_lt_zero _)
    rw [World.item, none] at member
    cases member
  items id block found := by
    rw [block?_of_none unrendered.blocks] at found
    cases found
  pins thing member := by
    rw [pins] at member
    cases member
  children := children

/-- A document that fails to load or to render, at any depth of imports and for
any reason, leaves no trace: the children of every widget, the table of the
environment and the listeners of every bag, list and widget are as they were, if
handlers do nothing. -/
theorem failure_leaves_no_trace {program : Host σ} (inert : program.Inert)
    {world after : World σ} (tidy : world.Tidy) {depth : Nat}
    (room : world.importDepth ≤ depth) {parent : WidgetId} {error : UiError} :
    (∀ path,
      (LiveMarkup.load (program.deliver depth) parent path).run world =
        (.error error, after) →
      world.Untouched after) ∧
    ∀ source controller,
      controller.state.index < world.bags.size →
      (LiveMarkup.renderSource (program.deliver depth) source controller
        parent).run world = (.error error, after) →
      world.Untouched after := by
  have good := tidy.good parent
  have serene : Serene parent world (program.deliver depth) :=
    serene_deliver inert depth
  have disposes : Disposes parent world (program.deliver depth) depth :=
    disposes_deliver inert depth
  have lands := serene.lands disposes world.importDepth (Nat.le_succ_of_le room)
  refine ⟨fun path failed => ?_, fun source controller known failed => ?_⟩
  · rw [LiveMarkup.load, Attempt.bind_run, Attempt.getThe_run] at failed
    exact ((lands world parent path [] good (filed_start world)
      (.inl rfl)).failure _ _ failed).untouched
  · have rendered :
        (LiveMarkup.renderSource (program.deliver depth) source controller
          parent).Ends world (fun _ _ => True) fun after =>
            Fails parent world [] world.handles.size world after := by
      unfold LiveMarkup.renderSource
      refine .get ?_
      split
      case h_1 => exact .throw ⟨.refl good _, filed_start world, rfl⟩
      case h_2 document parsed =>
        refine .perform ?_
        have opens :=
          good.openHandle (filed_start world)
            (world.bag controller.state).typeName known
        exact (serene.finishOpened lands disposes room document "." good opens
          (.inl rfl) (render_run document _ parent "." _)).mono
          (fun _ _ _ => trivial) fun last fails => fails
    exact (rendered.failure _ _ failed).untouched

/-! A board is rendered for a controller with a title.  By the time its
second import turns out to be missing, its label follows the title and the
first import is shown by the host and listed in the table. -/

/-- A host widget, a bag with a title, and the file of a document. -/
def boardStart : World Unit :=
  { bags := ⟨#[⟨"Main", [("title", .text "Board")], .none⟩]⟩
    widgets := ⟨#[.ofClass Builtin.control]⟩
    controllers := [("TopController", ⟨⟨0⟩, false, []⟩)]
    files := ⟨".", [("top.guml", "Label {}")]⟩
    held := [.widget ⟨0⟩]
    host := () }

/-- The source text of the board. -/
def boardSource : String :=
  "import_top \"top\" import \"gone\" Label { text := $controller.title }"

theorem boardStart_unrendered : boardStart.Unrendered := by
  refine Blank.unrendered ⟨?_, ?_, ?_, ?_, rfl, rfl, rfl, rfl, rfl, rfl⟩
  · exact List.forall_mem_singleton.mpr rfl
  · exact List.forall_mem_singleton.mpr (List.forall_mem_singleton.mpr trivial)
  · exact List.forall_mem_singleton.mpr ⟨Builtin.control, rfl⟩
  · exact List.forall_mem_singleton.mpr Nat.zero_lt_one

theorem boardStart_tidy : boardStart.Tidy :=
  boardStart_unrendered.tidy (fun _ => ⟨⟨nofun, .nil⟩, nofun⟩) rfl
    fun id child member => by
      rcases id with ⟨_ | index⟩ <;> cases member

/-- The second import is missing. -/
theorem board_fails :
    ((renderSource (Host.silent.deliver 9) boardSource ⟨⟨0⟩, false, []⟩ ⟨0⟩).run
      boardStart).1.isOk = false := by
  decide +kernel

/-- The board has gone without a trace. -/
theorem failure_leaves_no_trace_board :
    ∃ error after,
      (renderSource (Host.silent.deliver 9) boardSource ⟨⟨0⟩, false, []⟩
        ⟨0⟩).run boardStart = (.error error, after) ∧
      boardStart.Untouched after := by
  obtain ⟨error, ran⟩ := exists_eq_error_of_run board_fails
  have room : boardStart.importDepth ≤ 9 := by decide
  refine ⟨error, _, ran, ?_⟩
  exact (failure_leaves_no_trace Host.silent_inert boardStart_tidy room).2
    boardSource ⟨⟨0⟩, false, []⟩ Nat.zero_lt_one ran

end LiveMarkup.World
