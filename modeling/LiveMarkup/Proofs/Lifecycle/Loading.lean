import LiveMarkup.Proofs.Lifecycle.Dismissing

/-!
# Loading documents

While a document is under construction, its imports are loaded one after the
other, and each import's controller is told when everything below it is in
place.  If a document fails, its imports are disposed of, and those that failed
before have settled their own accounts.
-/

namespace LiveMarkup

/-- The document whose controller is told something. -/
def LifeEvent.handle : LifeEvent → HandleId
  | .created handle => handle
  | .disposed handle => handle

/-- What one document's controller was told. -/
def lifeOf (events : List LifeEvent) (id : HandleId) : List LifeEvent :=
  events.filter fun event => event.handle = id

theorem lifeOf_append (first second : List LifeEvent) (id : HandleId) :
    lifeOf (first ++ second) id = lifeOf first id ++ lifeOf second id :=
  List.filter_append ..

theorem lifeOf_eq_nil {events : List LifeEvent} {id : HandleId}
    (apart : ∀ event ∈ events, event.handle ≠ id) : lifeOf events id = [] := by
  refine List.filter_eq_nil_iff.mpr ?_
  intro event member
  simpa using apart event member

/-- Different documents' controllers are told the same. -/
theorem lifeOf_map {tell : HandleId → LifeEvent}
    (about : ∀ id, (tell id).handle = id) {ids : List HandleId}
    (distinct : ids.Nodup) (id : HandleId) :
    lifeOf (ids.map tell) id = if id ∈ ids then [tell id] else [] := by
  induction ids with
  | nil => rfl
  | cons first rest hypothesis =>
    obtain ⟨apart, distinct⟩ := List.nodup_cons.mp distinct
    have others := hypothesis distinct
    simp only [lifeOf, List.map_cons, List.filter_cons, about,
      decide_eq_true_eq, List.mem_cons] at others ⊢
    by_cases own : first = id
    · subst own
      rw [if_neg apart] at others
      rw [if_pos rfl, if_pos (.inl rfl), others]
    · rw [if_neg own, others]
      simp only [Ne.symm own, false_or]

/-- Every controller that was told anything was told that its document is in
place and then that it goes; the documents are those of certain numbers. -/
structure Spent (first last : Nat) (events : List LifeEvent) : Prop where
  among : ∀ event ∈ events, first ≤ event.handle.index ∧ event.handle.index < last
  whole :
      ∀ id,
        lifeOf events id = [] ∨ lifeOf events id = [.created id, .disposed id]

theorem Spent.nil (first last : Nat) : Spent first last [] :=
  ⟨nofun, fun _ => .inl rfl⟩

theorem Spent.mono {first last later : Nat} {events : List LifeEvent}
    (spent : Spent first last events) (more : last ≤ later) :
    Spent first later events := by
  refine ⟨?_, spent.whole⟩
  intro event member
  exact ⟨(spent.among event member).1,
    Nat.lt_of_lt_of_le (spent.among event member).2 more⟩

theorem Attempt.Within.ends {σ α : Type} {relation : World σ → World σ → Prop}
    {attempt : Attempt σ α} (within : Attempt.Within relation attempt)
    (world : World σ) :
    attempt.Ends world (fun _ after => relation world after) (relation world) :=
  ⟨fun _ _ ran => within.of_run ran, fun _ _ ran => within.of_run ran⟩

namespace World

variable {σ : Type} {start world middle after : World σ} {deliver : Deliver σ}
  {host : Host σ}
  {id child : HandleId} {depth : Nat}

/-- A load has failed: whoever was told of a new document was told of its end,
and the documents that were there import what they did. -/
structure Undone (world after : World σ) : Prop where
  lives : ∃ events, after.lives = world.lives ++ events ∧
    Spent world.handles.size after.handles.size events
  earlier : ∀ id,
      id.index < world.handles.size →
      (after.handle id).imports = (world.handle id).imports
  handleCount : world.handles.size ≤ after.handles.size

theorem Undone.refl (world : World σ) : Undone world world :=
  ⟨⟨[], (List.append_nil _).symm, .nil _ _⟩, fun _ _ => rfl, Nat.le_refl _⟩

theorem Undone.steady (undone : Undone world middle)
    (steady : middle.Steady after) : Undone world after := by
  obtain ⟨events, lives, spent⟩ := undone.lives
  refine ⟨?_, ?_, Nat.le_trans undone.handleCount steady.handleCount⟩
  · exact ⟨events, steady.lives.trans lives, spent.mono steady.handleCount⟩
  · intro id inside
    exact (steady.imports id).trans (undone.earlier id inside)

/-- A document has been loaded with everything below it: the controllers were
told from below. -/
structure Arrives (world after : World σ) (depth : Nat) (id : HandleId) : Prop where
  lives : after.lives = world.lives ++ (after.upward depth id).map .created
  nests : Nests after depth id
  distinct : (after.downward depth id).Nodup
  among : ∀ other ∈ after.downward depth id,
    world.handles.size ≤ other.index ∧ other.index < after.handles.size
  earlier : ∀ id,
      id.index < world.handles.size →
      (after.handle id).imports = (world.handle id).imports
  handleCount : world.handles.size ≤ after.handles.size

theorem Steady.importsOf (steady : world.Steady after) (id : HandleId) :
    after.importsOf id = world.importsOf id := by
  rw [World.importsOf, World.importsOf, steady.imports]

/-- A document that has arrived is so after steady steps. -/
theorem Arrives.steady (arrives : Arrives world middle depth id)
    (steady : middle.Steady after) : Arrives world after depth id := by
  have downward : after.downward depth id = middle.downward depth id :=
    downward_congr fun other _ => steady.importsOf other
  have upward : after.upward depth id = middle.upward depth id :=
    upward_congr fun other _ => steady.importsOf other
  exact {
    lives := by rw [steady.lives, arrives.lives, upward]
    nests := arrives.nests.congr fun other _ => steady.importsOf other
    distinct := downward ▸ arrives.distinct
    among := fun other member =>
      have old := arrives.among other (downward ▸ member)
      ⟨old.1, Nat.lt_of_lt_of_le old.2 steady.handleCount⟩
    earlier :=
      fun other inside => (steady.imports other).trans
        (arrives.earlier other inside)
    handleCount := Nat.le_trans arrives.handleCount steady.handleCount }

/-- A document is under construction: it imports the documents loaded so far,
and nobody but the controllers below it was told anything. -/
structure Underway (start : World σ) (depth : Nat) (id : HandleId)
    (world : World σ) : Prop where
  first : id.index = start.handles.size
  inside : id.index < world.handles.size
  lives : world.lives = start.lives ++ (world.belowUpward depth id).map .created
  nests : ∀ child ∈ world.importsOf id, Nests world depth child
  distinct : (world.belowDownward depth id).Nodup
  among : ∀ other ∈ world.belowDownward depth id,
    id.index < other.index ∧ other.index < world.handles.size
  earlier : ∀ other, other.index < start.handles.size →
    (world.handle other).imports = (start.handle other).imports

/-- One that is under way is so, too. -/
theorem Underway.steady (underway : Underway start depth id world)
    (steady : world.Steady after) : Underway start depth id after := by
  obtain ⟨downward, upward⟩ := below_congr depth (steady.importsOf id)
    fun other _ => steady.importsOf other
  exact {
    first := underway.first
    inside := Nat.lt_of_lt_of_le underway.inside steady.handleCount
    lives := by rw [steady.lives, underway.lives, upward]
    nests := fun child member =>
      (underway.nests child (steady.importsOf id ▸ member)).congr
      fun other _ => steady.importsOf other
    distinct := downward ▸ underway.distinct
    among := fun other member =>
      have old := underway.among other (downward ▸ member)
      ⟨old.1, Nat.lt_of_lt_of_le old.2 steady.handleCount⟩
    earlier := fun other before =>
      (steady.imports other).trans (underway.earlier other before) }

/-- A document has been given up while it was under construction. -/
def Halted (start : World σ) (depth : Nat) (id : HandleId) (after : World σ) :
    Prop :=
  ∃ world, Underway start depth id world ∧ Undone world after

theorem Underway.halted (underway : Underway start depth id world)
    (steady : world.Steady after) : Halted start depth id after :=
  ⟨world, underway, (Undone.refl world).steady steady⟩

theorem Halted.steady (halted : Halted start depth id middle)
    (steady : middle.Steady after) : Halted start depth id after := by
  obtain ⟨world, underway, undone⟩ := halted
  exact ⟨world, underway, undone.steady steady⟩

/-- The last import has arrived and is noted. -/
theorem Underway.note (underway : Underway start depth id world)
    (arrives : Arrives world middle depth child) (name : String) :
    Underway start depth id (middle.updateHandle id fun old =>
      { old with imports := old.imports ++ [(name, child)] }) := by
  have inside := Nat.lt_of_lt_of_le underway.inside arrives.handleCount
  have count : (middle.updateHandle id fun old =>
      { old with imports := old.imports ++ [(name, child)] }).handles.size =
        middle.handles.size :=
    Store.size_update ..
  have handles := fun other => handle_updateHandle middle id other fun old =>
    { old with imports := old.imports ++ [(name, child)] }
  have lives : (middle.updateHandle id fun old =>
      { old with imports := old.imports ++ [(name, child)] }).lives =
        middle.lives := rfl
  generalize (middle.updateHandle id fun old =>
    { old with imports := old.imports ++ [(name, child)] }) = noted
      at count handles lives ⊢
  have imports : ∀ other,
      id ≠ other →
      (noted.handle other).imports = (middle.handle other).imports :=
    fun other apart => by rw [handles, if_neg fun both => apart both.1]
  have own : noted.importsOf id = world.importsOf id ++ [child] := by
    rw [importsOf, handles, if_pos ⟨rfl, inside⟩, List.map_append,
      arrives.earlier id underway.inside]
    rfl
  have old : ∀ other ∈ world.belowDownward depth id,
      noted.importsOf other = world.importsOf other := by
    intro other member
    obtain ⟨above, before⟩ := underway.among other member
    rw [importsOf, importsOf,
      imports other fun same => Nat.lt_irrefl _ (same ▸ above),
      arrives.earlier other before]
  have new : ∀ other ∈ middle.downward depth child,
      noted.importsOf other = middle.importsOf other := by
    intro other member
    have later := Nat.lt_of_lt_of_le underway.inside (arrives.among other member).1
    rw [importsOf, importsOf,
      imports other fun same => Nat.lt_irrefl _ (same ▸ later)]
  have each : ∀ other ∈ world.importsOf id, ∀ below ∈ world.downward depth other,
      noted.importsOf below = world.importsOf below :=
    fun other member below inside =>
      old below (List.mem_flatMap.mpr ⟨other, member, inside⟩)
  have downward : noted.belowDownward depth id =
      world.belowDownward depth id ++ middle.downward depth child := by
    rw [belowDownward, own, List.flatMap_append, List.flatMap_singleton,
      downward_congr new, List.flatMap_congr fun other member =>
        downward_congr (each other member)]
    rfl
  have upward : noted.belowUpward depth id =
      world.belowUpward depth id ++ middle.upward depth child := by
    rw [belowUpward, own, List.flatMap_append, List.flatMap_singleton,
      upward_congr new, List.flatMap_congr fun other member =>
        upward_congr (each other member)]
    rfl
  exact {
    first := underway.first
    inside := count ▸ inside
    lives := by
      rw [lives, arrives.lives, underway.lives, upward, List.map_append,
        List.append_assoc]
    nests := fun other member => by
      rw [own] at member
      rcases List.mem_append.mp member with listed | last
      · exact (underway.nests other listed).congr (each other listed)
      · rw [List.mem_singleton.mp last]
        exact arrives.nests.congr new
    distinct := by
      rw [downward]
      refine List.nodup_append.mpr
        ⟨underway.distinct, arrives.distinct, fun other first last second => ?_⟩
      rintro rfl
      exact Nat.not_le.mpr (underway.among other first).2
        (arrives.among other second).1
    among := fun other member => by
      rw [count]
      rcases List.mem_append.mp (downward ▸ member) with first | second
      · obtain ⟨above, before⟩ := underway.among other first
        exact ⟨above, Nat.lt_of_lt_of_le before arrives.handleCount⟩
      · obtain ⟨after, before⟩ := arrives.among other second
        exact ⟨Nat.lt_of_lt_of_le underway.inside after, before⟩
    earlier := fun other before => by
      have apart : id ≠ other :=
        fun same => Nat.lt_irrefl _ (underway.first ▸ same ▸ before)
      rw [imports other apart, arrives.earlier other
        (Nat.lt_trans (underway.first ▸ before) underway.inside),
          underway.earlier other before] }

/-- What is left of a document that was given up is taken down. -/
theorem Halted.undone (halted : Halted start depth id middle)
    (dismissing : ∀ child, Dismissing deliver depth child) :
    Undone start (id.teardown deliver middle).2 := by
  obtain ⟨world, underway, undone⟩ := halted
  obtain ⟨events, lives, spent⟩ := undone.lives
  have same : ∀ other, other.index < world.handles.size →
      middle.importsOf other = world.importsOf other :=
    fun other inside => by rw [importsOf, importsOf, undone.earlier other inside]
  have old : ∀ other ∈ world.belowDownward depth id,
      middle.importsOf other = world.importsOf other :=
    fun other member => same other (underway.among other member).2
  have own := same id underway.inside
  obtain ⟨downward, _⟩ := below_congr _ own old
  have apart : id ∉ world.belowDownward depth id :=
    fun member => Nat.lt_irrefl _ (underway.among id member).1
  have nests : ∀ child ∈ middle.importsOf id, Nests middle depth child := by
    intro child member
    rw [own] at member
    exact (underway.nests child member).congr fun other below =>
      old other (List.mem_flatMap.mpr ⟨child, member, below⟩)
  have goes := dismisses_teardown (fun child _ => dismissing child) nests
    (downward ▸ List.nodup_cons.mpr ⟨apart, underway.distinct⟩)
  rw [downward] at goes
  have early : start.handles.size ≤ world.handles.size :=
    Nat.le_of_lt (underway.first ▸ underway.inside)
  have late := Nat.le_trans undone.handleCount goes.handleCount
  have known : ∀ other ∈ world.belowDownward depth id,
      start.handles.size ≤ other.index ∧
      other.index < (id.teardown deliver middle).2.handles.size := by
    intro other member
    obtain ⟨above, before⟩ := underway.among other member
    exact ⟨Nat.le_of_lt (underway.first ▸ above), Nat.lt_of_lt_of_le before late⟩
  have perm := world.belowUpward_perm depth id
  refine ⟨⟨(world.belowUpward depth id).map .created ++ events ++
    (world.belowDownward depth id).map .disposed, ?_, fun event member => ?_,
    fun other => ?_⟩, fun other before => ?_, Nat.le_trans early late⟩
  · rw [goes.lives, lives, underway.lives]
    simp only [List.append_assoc]
  · rcases List.mem_append.mp member with first | last
    · rcases List.mem_append.mp first with told | between
      · obtain ⟨other, listed, rfl⟩ := List.mem_map.mp told
        exact known other (perm.mem_iff.mp listed)
      · obtain ⟨above, before⟩ := spent.among event between
        exact ⟨Nat.le_trans early above, Nat.lt_of_lt_of_le before goes.handleCount⟩
    · obtain ⟨other, listed, rfl⟩ := List.mem_map.mp last
      exact known other listed
  · rw [lifeOf_append, lifeOf_append,
      lifeOf_map (fun _ => rfl) (perm.nodup_iff.mpr underway.distinct),
      lifeOf_map (fun _ => rfl) underway.distinct]
    simp only [perm.mem_iff]
    by_cases member : other ∈ world.belowDownward depth id
    · have silent : lifeOf events other = [] :=
        lifeOf_eq_nil fun event between same =>
          Nat.not_le.mpr (underway.among other member).2
            (same ▸ (spent.among event between).1)
      rw [if_pos member, if_pos member, silent]
      exact .inr rfl
    · rw [if_neg member, if_neg member, List.nil_append, List.append_nil]
      exact spent.whole other
  · have stays : other ∉ id :: world.belowDownward depth id := by
      intro gone
      rcases List.mem_cons.mp gone with rfl | below
      · exact Nat.lt_irrefl _ (underway.first ▸ before)
      · exact Nat.not_le.mpr before (known other below).1
    rw [goes.imports, if_neg stays,
      undone.earlier other (Nat.lt_of_lt_of_le before early),
      underway.earlier other before]

/-! ## Loading -/

/-- A way to load documents: a document arrives with everything below it, or the
load is undone. -/
def Arriving (load : WidgetId → String → Attempt σ HandleId) (depth : Nat) : Prop :=
  ∀ world parent path, (load parent path).Ends world
    (fun id after => Arrives world after depth id) (Undone world)

section Arriving

variable {load : WidgetId → String → Attempt σ HandleId}

/-- An import of a document is loaded, or the whole load comes to a halt. -/
theorem Arriving.importEntry (arriving : Arriving load depth)
    (underway : Underway start depth id world) (parent root : WidgetId)
    (directory : String) (entry : Import) :
    (World.importEntry load id parent root directory entry).Ends world
      (fun _ after => Underway start depth id after)
      (Halted start depth id) := by
  refine Attempt.Ends.bind (arriving world _ _)
    (fun child middle arrives => .get ?_) fun middle undone =>
      ⟨world, underway, undone⟩
  simp only
  split
  · have listed : Steady middle { middle with
        topControllers := middle.topControllers ++
          [((middle.handle child).name, child)] } :=
      AllowsMinor.minor (.of_eq rfl rfl rfl rfl rfl)
    exact .modify (.change (underway.note (arrives.steady listed) _))
  · exact .change (underway.note arrives _)

/-- So are all its imports, in order. -/
theorem Arriving.imports (arriving : Arriving load depth) (parent root : WidgetId)
    (directory : String) (entries : List Import) {world : World σ}
    (underway : Underway start depth id world) :
    (entries.forM (World.importEntry load id parent root directory)).Ends world
      (fun _ after => Underway start depth id after) (Halted start depth id) := by
  induction entries generalizing world with
  | nil => exact .pure underway
  | cons entry rest hypothesis =>
    exact .bind (arriving.importEntry underway parent root directory entry)
      (fun _ _ underway => hypothesis underway) fun _ halted => halted

/-- A document is built and its imports are loaded, or it is given up. -/
theorem Arriving.renderTree (arriving : Arriving load depth)
    (delivers : Deliver.Within Steady deliver)
    (underway : Underway start depth id world) (document : Document)
    (parent : WidgetId) (directory : String) :
    (LiveMarkup.renderTree deliver load document id parent directory).Ends world
      (fun _ after => Underway start depth id after)
      (Halted start depth id) := by
  refine .bind ((within_buildComponent delivers _ _ _).ends world)
    (fun root built steady => ?_) fun _ steady => underway.halted steady
  have pinned : Underway start depth id ((built.pin [.widget root]).updateHandle id
      ({ · with root := some root })) := by
    have rooted :
        Steady (built.pin [.widget root])
          ((built.pin [.widget root]).updateHandle id
            ({ · with root := some root })) :=
      AllowsSlight.slight (slight_updateHandle _ id fun _ => rfl)
    exact ((underway.steady steady).steady (steady_pin _ _)).steady rooted
  exact .attempting (.modify
    (.bind (arriving.imports parent root directory document.imports pinned)
      (fun _ _ underway => .pure (underway.steady (steady_release _ _)))
      fun _ halted => halted.steady (steady_release _ _)))

/-- A document is rendered with everything below it, or what has come of it is
taken down. -/
theorem Arriving.renderWith (arriving : Arriving load depth)
    (delivers : Deliver.Within Steady deliver)
    (dismissing : ∀ child, Dismissing deliver depth child)
    (underway : Underway start depth id world) (document : Document)
    (parent : WidgetId) (directory : String) :
    (LiveMarkup.renderWith deliver load document id parent directory).Ends world
      (fun _ after => Underway start depth id after) (Undone start) := by
  refine .get (.attempting
    (.tryCatch (?_ : Attempt.Ends _ _ _ (Halted start depth id))
      fun error after halted => ?_))
  · have tree := arriving.renderTree delivers (underway.steady (steady_pin world
      [.handle id, .widget parent])) document parent directory
    refine .bind tree ?_ (fun _ halted => halted)
    intro root middle underway
    exact .perform (.pure
      ((underway.steady (AllowsMinor.minor
        (Toolkit.minor_addChild parent root middle))).steady
        (steady_release _ _)))
  · have shortened :=
      halted.steady (AllowsMinor.minor
        (.of_eq rfl rfl rfl rfl rfl :
          Minor after { after with topControllers :=
            after.topControllers.take world.topControllers.length }))
    exact .modify (.perform
      (.throw ((shortened.undone dismissing).steady (steady_release _ _))))

end Arriving

/-- A new document imports nothing, and nobody has been told of it. -/
theorem underway_create (world : World σ) (name : String)
    (controller : Controller) (depth : Nat) :
    Underway world depth ⟨world.handles.size⟩
      ((HandleId.create name controller : Action σ HandleId) world).2 := by
  have handles := handle_create world name controller
  have none :
      ((HandleId.create name controller : Action σ HandleId) world).2.importsOf
        ⟨world.handles.size⟩ = [] := by
    rw [importsOf, handles, if_pos rfl]
    rfl
  have count :
      ((HandleId.create name controller : Action σ HandleId)
        world).2.handles.size = world.handles.size + 1 :=
    Store.size_add ..
  exact {
    first := rfl
    inside := count ▸ Nat.lt_succ_self _
    lives := by rw [belowUpward, none]; exact (List.append_nil _).symm
    nests := fun child member => by rw [none] at member; cases member
    distinct := by rw [belowDownward, none]; exact .nil
    among := fun other member => by rw [belowDownward, none] at member; cases member
    earlier := fun other before => by rw [handles, if_neg (Nat.ne_of_lt before)] }

/-- A document whose imports are all in place has arrived when its controller
has been told. -/
theorem Underway.created (underway : Underway start depth id world)
    (delivers : Deliver.Within Steady deliver) :
    Arrives start (id.created deliver world).2 (depth + 1) id := by
  have imports : ∀ other,
      (world.noteLife (.created id)).importsOf other = world.importsOf other :=
    fun _ => rfl
  obtain ⟨downward, upward⟩ :=
    below_congr depth (imports id) fun other _ => imports other
  have noted : Arrives start (world.noteLife (.created id)) (depth + 1) id := {
    lives := by
      rw [upward_succ, upward, List.map_append, ← List.append_assoc,
        ← underway.lives]
      rfl
    nests := .of_children fun child member =>
      (underway.nests child member).congr fun other _ => imports other
    distinct := by
      rw [downward_succ, downward]
      refine List.nodup_cons.mpr ?_
      refine ⟨?_, underway.distinct⟩
      intro member
      exact Nat.lt_irrefl _ (underway.among id member).1
    among := fun other member => by
      rw [downward_succ, downward] at member
      rcases List.mem_cons.mp member with rfl | below
      · exact ⟨Nat.le_of_eq underway.first.symm, underway.inside⟩
      · obtain ⟨above, inside⟩ := underway.among other below
        exact ⟨Nat.le_of_lt (underway.first ▸ above), inside⟩
    earlier := underway.earlier
    handleCount := Nat.le_of_lt (underway.first ▸ underway.inside) }
  exact noted.steady
    (delivers (.created (world.handle id).controller id) not_false _)

/-- Loading a file brings a document with everything below it, or is undone. -/
theorem arriving_loadWithin (delivers : Deliver.Within Steady deliver)
    (limit : Nat)
    (dismissing : ∀ depth < limit, ∀ child, Dismissing deliver depth child)
    (depth : Nat) (room : depth ≤ limit) :
    Arriving (loadWithin deliver depth) depth := by
  induction depth with
  | zero => exact fun world parent path => .throw (.refl world)
  | succ depth hypothesis =>
    intro world parent path
    refine .get ?_
    split
    · exact .throw (.refl world)
    · split
      · exact .throw (.refl world)
      · refine .bind (?_ :
          Attempt.Ends _ _ (fun id after => Underway world depth id after) _)
          (fun id made underway => ?_) fun _ undone => undone
        · refine .get ?_
          split
          · exact .throw (.refl world)
          · next controller _ =>
            exact .lift (underway_create world _ controller depth)
        · have rendered := (hypothesis (Nat.le_of_succ_le room)).renderWith delivers
            (dismissing depth room) (underway.steady (steady_pin made [.handle id]))
          refine .attempting
            (.bind (rendered _ _ _) (fun _ middle underway => ?_)
              fun _ undone =>
                undone.steady (steady_release _ _))
          have arrives :=
            (underway.created delivers).steady (steady_release _ made.pins)
          exact .perform (.pure arrives)

/-- If callbacks may nest more deeply than files import each other, loading a
file brings a document with everything below it, or is undone. -/
theorem load_ends (bystander : host.Bystander)
    (room : world.importDepth < depth) (parent : WidgetId) (path : String) :
    (load (host.deliver depth) parent path).Ends world
      (fun id after => Arrives world after world.importDepth id)
      (Undone world) := by
  refine .get (arriving_loadWithin (bystander.delivers depth) world.importDepth
    ?_ _ (Nat.le_refl _) world parent path)
  intro lower less child before nests distinct
  obtain ⟨nesting, rfl⟩ := Nat.exists_eq_add_one_of_ne_zero (Nat.ne_zero_of_lt room)
  rw [deliver_dispose]
  exact dispose_downward bystander
    (Nat.lt_of_lt_of_le less (Nat.le_of_lt_succ room)) nests distinct

end World

end LiveMarkup
