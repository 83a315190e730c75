import LiveMarkup.TaskBoard
import LiveMarkup.Proofs.Trees.Sessions
import LiveMarkup.Proofs.World.TameHosts

/-!
# Hosts that put no widgets anywhere

Most hosts leave it to documents where widgets are put.  One is the host of the
task board: its handlers change a list, set properties and write into a field.
So whatever the documents of the board are, its widgets form a forest in the
end.

`TaskBoard.board_forest` is what the theory of sessions says of a whole program,
the one that `Main` runs: from its first world to the end of its input no
operation of the program leaves the forest.
-/

namespace LiveMarkup

variable {σ α : Type}

namespace World

variable {deliver : Deliver σ} {world middle after : World σ}

theorem Acts.trans {allowed : World σ → Act σ → Prop}
    (left : Acts deliver allowed world middle)
    (right : Acts deliver allowed middle after) :
    Acts deliver allowed world after := by
  induction right with
  | done => exact left
  | act act _ may hypothesis => exact .act act hypothesis may

/-- An act that puts no widget anywhere by itself is one that handlers may do. -/
theorem Acts.single (act : Act σ) (grounded : act.Grounded world)
    (elsewhere : ∀ parent child, act ≠ .addChild parent child) :
    Acts deliver Act.Modest world (act.perform deliver world) := by
  refine .act act .done ?_
  constructor
  · exact ⟨grounded, fun parent child same =>
      absurd same (elsewhere parent child)⟩
  · intro parent child same
    exact absurd same (elsewhere parent child)

/-- A change that leaves the tree alone is an act. -/
theorem Acts.other (same : SameTree world after) :
    Acts deliver Act.Modest world after :=
  .single (.other fun _ => after) same nofun

/-- Acts may keep things, set properties and read them in between. -/
instance : AllowsKeeping (Acts deliver Act.Modest) where
  refl _ := .done
  trans := .trans
  slight slight := .other slight.toSameTree
  pins _ _ := .other (.of_eq rfl rfl)
  binding _ _ _ := .other (.of_eq rfl rfl)

end World

open World (Acts)

/-- Hosts that only set properties put no widgets anywhere. -/
theorem Host.Tame.does {host : Host σ} (tame : host.Tame) :
    host.Does Act.Modest := by
  have sets : ∀ {deliver : Deliver σ} {world after : World σ},
      world.Sets deliver after → Acts deliver Act.Modest world after := by
    intro deliver world after sets
    induction sets with
    | done => exact .done
    | host _ _ hypothesis => exact hypothesis.trans (.other (.of_eq rfl rfl))
    | newBag _ _ _ hypothesis => exact hypothesis.trans (.other (.of_eq rfl rfl))
    | newList _ _ hypothesis => exact hypothesis.trans (.other (.of_eq rfl rfl))
    | @set _ bag name value _ _ hypothesis =>
      exact hypothesis.trans (.single (.set bag name value) trivial nofun)
  intro deliver call world _
  by_cases change : call.IsChange
  · obtain ⟨state, same⟩ := tame.listens deliver call world change
    rw [same]
    exact .other (.of_eq rfl rfl)
  · exact sets (tame.handles deliver call world change)

/-! ## Simulated input -/

section Input

variable {deliver : Deliver σ}

theorem acts_setField (widget : WidgetId) (name : String) (value : Value) :
    Action.Within (Acts deliver Act.Modest) (widget.setField deliver name value) :=
  .bind (.slight (.modify fun world => world.slight_updateWidget widget fun _ =>
    ⟨rfl, rfl⟩)) fun _ _ =>
      .single (.announce (.widget widget) name) trivial nofun

theorem acts_raise (widget : WidgetId) (name : String) (arguments : List Value) :
    Attempt.Within (Acts deliver Act.Modest) (widget.emit deliver name arguments) :=
  fun _ => .single (.raise widget name arguments) trivial nofun

theorem acts_press (widget : WidgetId) :
    Attempt.Within (Acts deliver Act.Modest) (widget.press deliver) := by
  refine .bind .getThe fun _ => ?_
  simp only
  split
  · exact .pure _
  · exact .bind (acts_raise widget _ _) fun _ => .pure _

theorem acts_input (widget : WidgetId) (text : String) :
    Attempt.Within (Acts deliver Act.Modest) (widget.input deliver text) := by
  refine .bind .getThe fun _ => ?_
  simp only
  split
  · exact .pure _
  · refine .bind (.lift (acts_setField widget _ _)) ?_
    intro _
    exact .bind (acts_raise widget _ _) fun _ => .pure _

end Input

/-! ## The task board -/

namespace TaskBoard

theorem acts_countTasks (deliver : Deliver Draft) :
    Action.Within (Acts deliver Act.Modest) (countTasks deliver) :=
  .bind .get fun _ _ => .single (.set mainState "count" _) trivial nofun

/-- Adding a task does no more than a modest act at each step. -/
theorem acts_addTask (deliver : Deliver Draft) :
    Action.Within (Acts deliver Act.Modest) (addTask deliver) := by
  refine .bind .get fun _ => ?_
  simp only
  split
  · exact .pure _
  · refine .bind (fun _ => .single (.push tasks _) trivial nofun) fun _ =>
      .bind (.modify fun _ => .other (.of_eq rfl rfl)) fun _ =>
        .bind .get fun world => ?_
    split
    · exact acts_countTasks deliver
    · next field _ =>
      have writes :
          Attempt.Within (Acts deliver Act.Modest)
            (field.write deliver "text" (.text "")) :=
        fun _ => .single (.write field "text" (.text "")) trivial nofun
      exact .bind (within_attempting writes) fun _ => acts_countTasks deliver

/-- The handlers of the board do no more than modest acts. -/
theorem acts_handle (deliver : Deliver Draft) (name : String)
    (arguments : List Value) :
    Action.Within (Acts deliver Act.Modest)
      (handle deliver name arguments) := by
  unfold handle
  split
  · exact acts_addTask deliver
  · exact .bind (fun _ => .single (.truncate tasks 0) trivial nofun) fun _ =>
      acts_countTasks deliver
  · exact .modify fun _ => .other (.of_eq rfl rfl)
  · exact .modify fun _ => .other (.of_eq rfl rfl)
  · exact .pure _

theorem host_does : host.Does Act.Modest := by
  intro deliver call world _
  cases call with
  | handler controller name arguments =>
    exact acts_handle deliver name arguments world
  | created controller document =>
    suffices finds : Action.Within (Acts deliver Act.Modest)
      (host.respond deliver (.created controller document)) from finds world
    refine .bind .get fun world => ?_
    split
    · exact .modify fun _ => .other (.of_eq rfl rfl)
    · exact .pure _
  | _ => exact .done

theorem acts_typeTasks (draft add : WidgetId) (texts : List String) :
    Attempt.Within (Acts deliver Act.Modest) (typeTasks draft add texts) := by
  induction texts with
  | nil => exact .pure _
  | cons text rest hypothesis =>
    refine .bind (acts_input draft text) ?_
    intro _
    exact .bind (acts_press add) fun _ => hypothesis

theorem acts_arrangeTasks (document : HandleId) :
    Action.Within (Acts deliver Act.Modest) (arrangeTasks document) :=
  .bind (fun _ => .single (.remove tasks 1) trivial nofun) fun _ =>
    .bind (fun _ => .single (.insert tasks 0 _) trivial nofun) fun _ =>
      .bind (acts_countTasks deliver) fun _ => .bind .get fun _ =>
        .bind (fun _ => .single (.set statusState "message" _) trivial nofun)
          fun _ _ =>
            .single (.update document _) trivial nofun

theorem acts_runSession (document : HandleId) (draft add : WidgetId)
    (output : String) :
    Action.Within (Acts deliver Act.Modest)
      (runSession document draft add output) := by
  refine .bind (acts_typeTasks draft add _) fun outcome => ?_
  split
  · exact .pure _
  · exact .bind (acts_arrangeTasks document) fun _ => .bind .get fun _ =>
      .bind (fun _ => .single (.dispose document) trivial nofun) fun _ => .pure _

/-- A run of the board is a session. -/
theorem acts_runIn (files : Files) (directory : String) :
    Acts deliver Act.Modest (initialWorld files)
      (runIn directory (initialWorld files)).2 := by
  have made : (initialWorld files).HasAll [hostRoot] :=
    World.HasAll.cons Nat.zero_lt_one nofun
  have loads : Acts deliver Act.Modest (initialWorld files) _ :=
    .single (.load hostRoot (Text.joinPath directory "main.guml")) made nofun
  unfold runIn
  simp only [Action.bind_apply]
  rw [Act.perform] at loads
  generalize (load deliver hostRoot (Text.joinPath directory "main.guml")).run
    (initialWorld files) = ran at loads ⊢
  obtain ⟨outcome, middle⟩ := ran
  refine loads.trans ?_
  cases outcome with
  | error error => exact .done
  | ok document =>
    refine Action.Within.apply (within_keeping (.bind .get fun world => ?_)) middle
    split
    · exact .pure _
    · split
      · exact .pure _
      · exact within_keeping (acts_runSession document _ _ _)

/-- Whatever the documents of the board are, in the end its widgets form a
forest. -/
theorem board_forest (files : Files) (directory : String) :
    (runIn directory (initialWorld files)).2.Forest := by
  have begun : World.Stands World.Forest (initialWorld files) := by
    have blank : World.Forest ({ host := ⟨"", none⟩ } : World Draft) :=
      World.forest_of_empty rfl
    have lone : (initialWorld files).widgets =
          (({ host := ⟨"", none⟩ } : World Draft).newWidget
            Builtin.control).2.widgets :=
      rfl
    refine ⟨blank.of_tree fun id => ?_, nofun⟩
    rw [World.widget, lone]
    exact World.tree_newWidget _ Builtin.control id
  exact (((acts_runIn files directory).mono fun _ _ modest => modest.1).forest
    host_does begun).holds

end TaskBoard

end LiveMarkup
