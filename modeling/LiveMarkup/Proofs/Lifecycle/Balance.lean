import LiveMarkup.Proofs.Lifecycle.Loading
import LiveMarkup.Proofs.Results

/-!
# The lives of controllers are balanced

A host loads documents and disposes of them, one after the other.  Whatever
fails on the way, no controller is told twice that its document is in place or
that it goes, and none is told of the end before it was told of the beginning.
Importers come after their imports when a document arrives, and before them when
it goes.
-/

namespace LiveMarkup.World

variable {σ : Type} {world after : World σ} {host : Host σ} {depth : Nat}
  {opened : List HandleId}
  {id : HandleId}

/-- A session in which a host loads documents and disposes of them, beginning
with a world in which no controller was told anything.  `opened` lists the
documents that were loaded and not disposed of.  In between the host does what
it likes, as long as it leaves documents alone. -/
inductive DocumentSession (host : Host σ) (depth : Nat) :
    World σ → List HandleId → Prop
  | begin {world : World σ} : world.lives = [] → DocumentSession host depth world []
  /-- A document is loaded. -/
  | load {world after : World σ} {opened : List HandleId} {parent : WidgetId}
      {path : String} {id : HandleId} :
      DocumentSession host depth world opened → world.importDepth < depth →
      (LiveMarkup.load (host.deliver depth) parent path).run world =
        (.ok id, after) →
      DocumentSession host depth after (id :: opened)
  /-- A document cannot be loaded. -/
  | fail {world after : World σ} {opened : List HandleId} {parent : WidgetId}
      {path : String} {error : UiError} :
      DocumentSession host depth world opened → world.importDepth < depth →
      (LiveMarkup.load (host.deliver depth) parent path).run world =
        (.error error, after) →
      DocumentSession host depth after opened
  /-- A loaded document is disposed of. -/
  | dispose {world : World σ} {opened : List HandleId} {id : HandleId} :
      DocumentSession host depth world opened → id ∈ opened →
      DocumentSession host depth (id.dispose (host.deliver depth) world).2
        (opened.erase id)
  /-- The host does something else. -/
  | other {world after : World σ} {opened : List HandleId} :
    DocumentSession host depth world opened → world.Steady after →
      DocumentSession host depth after opened

/-- Each controller was told nothing, or of the beginning, or of the beginning
and then of the end.  The documents that are open have nothing in common, and
their controllers were told of the beginning. -/
structure Balanced (depth : Nat) (world : World σ) (opened : List HandleId) :
    Prop where
  life : ∀ id, lifeOf world.lives id <+: [.created id, .disposed id]
  inside : ∀ event ∈ world.lives, event.handle.index < world.handles.size
  nests : ∀ id ∈ opened, ∃ lower < depth, Nests world lower id
  distinct : (opened.flatMap (world.downward depth)).Nodup
  among : ∀ other ∈ opened.flatMap (world.downward depth),
    other.index < world.handles.size ∧ lifeOf world.lives other = [.created other]

/-- Documents that are open are as they were, if all that belongs to
them imports what it did. -/
theorem downward_opened (same : ∀ other ∈ opened.flatMap (world.downward depth),
    after.importsOf other = world.importsOf other) :
    ∀ id ∈ opened, after.downward depth id = world.downward depth id :=
  fun id member => downward_congr fun other below =>
    same other (List.mem_flatMap.mpr ⟨id, member, below⟩)

/-- A document nests as deeply as before, if all below it import what they did.
-/
theorem Nests.still
    (same :
      ∀ other ∈ opened.flatMap (world.downward depth),
        after.importsOf other = world.importsOf other) (member : id ∈ opened)
    (nests : ∃ lower < depth, Nests world lower id) :
    ∃ lower < depth, Nests after lower id := by
  obtain ⟨lower, less, nests⟩ := nests
  refine ⟨lower, less, nests.congr fun other below => same other ?_⟩
  rw [← nests.downward_eq (Nat.le_of_lt less)] at below
  exact List.mem_flatMap.mpr ⟨id, member, below⟩

/-- Documents that were there import what they did, and whatever happened to new
ones is in order. -/
theorem Balanced.later (balanced : Balanced depth world opened)
    (same : ∀ other ∈ opened.flatMap (world.downward depth),
      after.importsOf other = world.importsOf other)
    (life : ∀ id, lifeOf after.lives id <+: [.created id, .disposed id])
    (inside : ∀ event ∈ after.lives, event.handle.index < after.handles.size)
    (handleCount : world.handles.size ≤ after.handles.size)
    (old : ∀ other ∈ opened.flatMap (world.downward depth),
      lifeOf after.lives other = lifeOf world.lives other) :
    Balanced depth after opened := by
  have lists : opened.flatMap (after.downward depth) =
        opened.flatMap (world.downward depth) :=
    List.flatMap_congr (downward_opened same)
  exact {
    life
    inside
    nests := fun id member => Nests.still same member (balanced.nests id member)
    distinct := lists ▸ balanced.distinct
    among := fun other member => by
      rw [lists] at member
      obtain ⟨before, told⟩ := balanced.among other member
      exact ⟨Nat.lt_of_lt_of_le before handleCount, (old other member).trans told⟩ }

theorem Balanced.begin (none : world.lives = []) : Balanced depth world [] := by
  refine ⟨fun id => ?_, fun event member => ?_, nofun, .nil, nofun⟩
  · rw [none]
    exact List.nil_prefix
  · rw [none] at member
    cases member

theorem Balanced.steady (balanced : Balanced depth world opened)
    (steady : world.Steady after) : Balanced depth after opened := by
  refine balanced.later (fun other _ => steady.importsOf other)
    (steady.lives ▸ balanced.life) ?_ steady.handleCount
    (fun _ _ => by rw [steady.lives])
  intro event member
  exact Nat.lt_of_lt_of_le (balanced.inside event (steady.lives ▸ member))
    steady.handleCount

/-- Nobody was told anything of documents that are not there yet. -/
theorem Balanced.silent (balanced : Balanced depth world opened)
    (new : world.handles.size ≤ id.index) : lifeOf world.lives id = [] := by
  refine lifeOf_eq_nil ?_
  intro event member same
  exact Nat.not_le.mpr (balanced.inside event member) (same ▸ new)

/-- A load that is undone leaves the documents that are open in balance. -/
theorem Balanced.undone (balanced : Balanced depth world opened)
    (undone : Undone world after) : Balanced depth after opened := by
  obtain ⟨events, lives, spent⟩ := undone.lives
  have silent : ∀ other : HandleId,
      other.index < world.handles.size → lifeOf events other = [] :=
    fun other before => lifeOf_eq_nil fun event member same =>
      Nat.not_le.mpr before (same ▸ (spent.among event member).1)
  refine balanced.later (fun other member => ?_) (fun other => ?_)
    (fun event member => ?_) undone.handleCount fun other member => ?_
  · rw [importsOf, importsOf, undone.earlier other (balanced.among other member).1]
  · rw [lives, lifeOf_append]
    by_cases before : other.index < world.handles.size
    · rw [silent other before, List.append_nil]
      exact balanced.life other
    · rw [balanced.silent (Nat.le_of_not_lt before), List.nil_append]
      rcases spent.whole other with none | both
      · exact none ▸ List.nil_prefix
      · exact both ▸ List.prefix_refl _
  · rcases List.mem_append.mp (lives ▸ member) with old | new
    · exact Nat.lt_of_lt_of_le (balanced.inside event old) undone.handleCount
    · exact (spent.among event new).2
  · rw [lives, lifeOf_append, silent other (balanced.among other member).1,
      List.append_nil]

/-- A document that has arrived is open, and has nothing in common with those
that were. -/
theorem Balanced.arrives {limit : Nat} (balanced : Balanced depth world opened)
    (arrives : Arrives world after limit id) (less : limit < depth) :
    Balanced depth after (id :: opened) := by
  have perm := after.upward_perm limit id
  have own := arrives.nests.downward_eq (Nat.le_of_lt less)
  have told : ∀ other,
      lifeOf after.lives other =
        lifeOf world.lives other ++ if other ∈ after.downward limit id
          then [.created other] else [] := by
    intro other
    rw [arrives.lives, lifeOf_append,
      lifeOf_map (fun _ => rfl) (perm.nodup_iff.mpr arrives.distinct)]
    simp only [perm.mem_iff]
  have apart : ∀ other ∈ opened.flatMap (world.downward depth),
      other ∉ after.downward limit id :=
    fun other member new => Nat.not_le.mpr (balanced.among other member).1
      (arrives.among other new).1
  have old : Balanced depth after opened := balanced.later
    (fun other member =>
      by
        rw [importsOf, importsOf,
          arrives.earlier other (balanced.among other member).1])
    (fun other => by
      rw [told]
      split
      · next new =>
        rw [balanced.silent (arrives.among other new).1]
        exact ⟨[.disposed other], rfl⟩
      · rw [List.append_nil]
        exact balanced.life other)
    (fun event member => by
      rw [arrives.lives] at member
      rcases List.mem_append.mp member with before | new
      · exact Nat.lt_of_lt_of_le (balanced.inside event before) arrives.handleCount
      · obtain ⟨other, listed, rfl⟩ := List.mem_map.mp new
        exact (arrives.among other (perm.mem_iff.mp listed)).2)
    arrives.handleCount
    (fun other member => by rw [told, if_neg (apart other member), List.append_nil])
  have lists : opened.flatMap (after.downward depth) =
        opened.flatMap (world.downward depth) :=
    List.flatMap_congr (downward_opened fun other member => by
      rw [importsOf, importsOf,
        arrives.earlier other (balanced.among other member).1])
  refine { old with
    nests := fun other member => ?_
    distinct := ?_
    among := fun other member => ?_ }
  · rcases List.mem_cons.mp member with rfl | before
    · exact ⟨limit, less, arrives.nests⟩
    · exact old.nests other before
  · rw [List.flatMap_cons, own]
    refine List.nodup_append.mpr
      ⟨arrives.distinct, old.distinct, fun other new _ before same => ?_⟩
    exact apart other (lists ▸ same ▸ before) new
  · rw [List.flatMap_cons, own] at member
    rcases List.mem_append.mp member with new | before
    · refine ⟨(arrives.among other new).2, ?_⟩
      rw [told, balanced.silent (arrives.among other new).1, if_pos new]
      rfl
    · exact old.among other before

theorem Balanced.sublist (balanced : Balanced depth world opened)
    {fewer : List HandleId} (sublist : fewer.Sublist opened) :
    Balanced depth world fewer :=
  have part := sublist.flatMap (world.downward depth)
  { balanced with
    nests := fun id member => balanced.nests id (sublist.subset member)
    distinct := balanced.distinct.sublist part
    among := fun other member => balanced.among other (part.subset member) }

/-- An open document goes with everything below it, from above. -/
theorem Balanced.goes (balanced : Balanced depth world opened)
    (bystander : host.Bystander) (member : id ∈ opened) :
    Dismisses world (id.dispose (host.deliver depth) world).2
      (world.downward depth id) (world.downward depth id) := by
  obtain ⟨lower, less, nests⟩ := balanced.nests id member
  rw [nests.downward_eq (Nat.le_of_lt less)]
  refine dispose_downward bystander less nests ?_
  rw [← nests.downward_eq (Nat.le_of_lt less)]
  exact balanced.distinct.sublist (sublist_flatMap member _)

/-- To dispose of one of the documents that are open leaves the others in
balance. -/
theorem Balanced.dispose (balanced : Balanced depth world opened)
    (bystander : host.Bystander) (member : id ∈ opened) :
    Balanced depth (id.dispose (host.deliver depth) world).2
      (opened.erase id) := by
  have goes := balanced.goes bystander member
  generalize (id.dispose (host.deliver depth) world).2 = after at goes ⊢
  have split := (List.perm_cons_erase member).flatMap_right (world.downward depth)
  rw [List.flatMap_cons] at split
  obtain ⟨own, _, apart⟩ :=
    List.nodup_append.mp (split.nodup_iff.mp balanced.distinct)
  have mine : ∀ other ∈ world.downward depth id, other.index < world.handles.size ∧
      lifeOf world.lives other = [.created other] :=
    fun other below => balanced.among other
      (List.mem_flatMap.mpr ⟨id, member, below⟩)
  have told : ∀ other,
      lifeOf after.lives other =
        lifeOf world.lives other ++ if other ∈ world.downward depth id
          then [.disposed other] else [] := by
    intro other
    rw [goes.lives, lifeOf_append, lifeOf_map (fun _ => rfl) own]
  have stays : ∀ other ∈ (opened.erase id).flatMap (world.downward depth),
      other ∉ world.downward depth id :=
    fun other rest gone => apart other gone other rest rfl
  refine (balanced.sublist List.erase_sublist).later
    (fun other rest => goes.importsOf (stays other rest)) (fun other => ?_)
    (fun event told => ?_) goes.handleCount fun other rest => ?_
  · rw [told]
    split
    · next gone => exact (mine other gone).2 ▸ List.prefix_refl _
    · rw [List.append_nil]
      exact balanced.life other
  · rcases List.mem_append.mp (goes.lives ▸ told) with before | last
    · exact Nat.lt_of_lt_of_le (balanced.inside event before) goes.handleCount
    · obtain ⟨other, gone, rfl⟩ := List.mem_map.mp last
      exact Nat.lt_of_lt_of_le (mine other gone).1 goes.handleCount
  · rw [told, if_neg (stays other rest), List.append_nil]

/-- Throughout a session the lives of controllers are balanced. -/
theorem DocumentSession.balanced (bystander : host.Bystander)
    (session : DocumentSession host depth world opened) :
    Balanced depth world opened := by
  induction session with
  | begin none => exact .begin none
  | load _ room ran hypothesis =>
    exact hypothesis.arrives ((load_ends bystander room _ _).success _ _ ran) room
  | fail _ room ran hypothesis =>
    exact hypothesis.undone ((load_ends bystander room _ _).failure _ _ ran)
  | dispose _ member hypothesis => exact hypothesis.dispose bystander member
  | other _ steady hypothesis => exact hypothesis.steady steady

/-- The lives of controllers are balanced in every session of a host that
otherwise leaves documents alone.  Each controller was told nothing, or that its
document is in place, or that and then that it goes.  If loading fails, whoever
was told of the beginning meanwhile was told of the end; if it succeeds, imports
are told of the beginning before their importers; and if a document is disposed
of, importers are told of the end before their imports. -/
theorem lives_balanced (bystander : host.Bystander)
    (session : DocumentSession host depth world opened) :
    (∀ id, lifeOf world.lives id <+: [.created id, .disposed id]) ∧
    (∀ parent path, world.importDepth < depth →
      match (LiveMarkup.load (host.deliver depth) parent path).run world with
      | (.ok id, after) => ∃ events, after.lives = world.lives ++ events ∧
          .created id ∈ events ∧
          ∀ importer, .created importer ∈ events →
            ∀ child ∈ after.importsOf importer,
            [.created child, .created importer].Sublist events
      | (.error _, after) => ∃ events, after.lives = world.lives ++ events ∧
          ∀ id, .created id ∈ events →
            lifeOf events id = [.created id, .disposed id]) ∧
    ∀ id ∈ opened, ∃ events,
      (id.dispose (host.deliver depth) world).2.lives = world.lives ++ events ∧
        .disposed id ∈ events ∧
        ∀ importer, .disposed importer ∈ events →
          ∀ child ∈ world.importsOf importer,
          [.disposed importer, .disposed child].Sublist events := by
  have balanced := session.balanced bystander
  refine ⟨balanced.life, fun parent path room => ?_, fun id member => ?_⟩
  · have ends : (LiveMarkup.load (host.deliver depth) parent path).Ends world _ _ :=
      load_ends bystander room parent path
    split
    · next id after ran =>
      have arrives := ends.success id after ran
      have told := (after.upward_perm world.importDepth id).mem_iff.mpr
        (after.mem_downward_self world.importDepth id)
      refine ⟨_, arrives.lives, List.mem_map_of_mem told,
        fun importer created child imported => ?_⟩
      obtain ⟨_, listed, same⟩ := List.mem_map.mp created
      cases same
      exact (arrives.nests.importer_last listed imported).map LifeEvent.created
    · next error after ran =>
      obtain ⟨events, lives, spent⟩ := (ends.failure error after ran).lives
      refine ⟨events, lives, fun id created =>
        (spent.whole id).resolve_left fun none => ?_⟩
      exact List.filter_eq_nil_iff.mp none _ created (decide_eq_true rfl)
  · obtain ⟨lower, less, nests⟩ := balanced.nests id member
    have same := nests.downward_eq (Nat.le_of_lt less)
    refine ⟨_, (balanced.goes bystander member).lives,
      List.mem_map_of_mem (world.mem_downward_self depth id),
      fun importer disposed child imported => ?_⟩
    obtain ⟨_, listed, alike⟩ := List.mem_map.mp disposed
    cases alike
    rw [same] at listed ⊢
    exact (nests.importer_first listed imported).map LifeEvent.disposed

/-! A document with one import is loaded, and disposed of. -/

/-- A host widget, and the files of two documents. -/
def pairStart : World Unit :=
  { bags := ⟨#[⟨"Main", [], .none⟩, ⟨"Hud", [], .none⟩]⟩
    widgets := ⟨#[.ofClass Builtin.control]⟩
    controllers := [("MainController", ⟨⟨0⟩, false, []⟩),
      ("HudController", ⟨⟨1⟩, false, []⟩)]
    files :=
      ⟨".", [("main.guml", "import \"hud\" VBox {}"), ("hud.guml", "Label {}")]⟩
    held := [.widget ⟨0⟩]
    host := () }

/-- The world after the document was loaded. -/
def pairLoaded : World Unit :=
  ((LiveMarkup.load (Host.silent.deliver 9) ⟨0⟩ "./main.guml").run pairStart).2

theorem pairLoaded_run :
    (LiveMarkup.load (Host.silent.deliver 9) ⟨0⟩ "./main.guml").run pairStart =
    (.ok ⟨0⟩, pairLoaded) :=
  eq_ok_of_toOption (by decide +kernel)

theorem pairLoaded_lives : pairLoaded.lives = [.created ⟨1⟩, .created ⟨0⟩] ∧
    pairLoaded.importsOf ⟨0⟩ = [⟨1⟩] := by
  decide +kernel

/-- The importer's controller is told of the end before that of the import. -/
theorem lives_balanced_pair : ∃ events,
    (HandleId.dispose (Host.silent.deliver 9) ⟨0⟩ pairLoaded).2.lives =
        [.created ⟨1⟩, .created ⟨0⟩] ++ events ∧
      [.disposed ⟨0⟩, .disposed ⟨1⟩].Sublist events := by
  have session : DocumentSession Host.silent 9 pairLoaded [⟨0⟩] :=
    .load (.begin rfl) (by decide) pairLoaded_run
  obtain ⟨lives, imports⟩ := pairLoaded_lives
  obtain ⟨events, after, told, order⟩ :=
    (lives_balanced Host.silent_tame.bystander session).2.2 ⟨0⟩
      List.mem_cons_self
  exact ⟨events, lives ▸ after, order ⟨0⟩ told ⟨1⟩ (imports ▸ List.mem_cons_self)⟩

end LiveMarkup.World
