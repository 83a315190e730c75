import LiveMarkup.Proofs.Bindings.Evaluation

/-!
# Reading twice

An evaluation reads its references one after the other, and reading leaves
traces: a live property begins to listen, and rows are read as a new list. None
of this changes what another reference gives.  A reference that gives a value
gives the same one after other references have been read, or a list of the same
elements where rows are read anew.
-/

namespace LiveMarkup

variable {σ : Type} {context : EvaluationContext} {world first second : World σ}

/-- Two readings that reading on does not tell apart: one value, or two lists of
the same elements. -/
inductive Value.ReadsAlike (world first second : World σ) :
    Value → Value → Prop where
  | same {value : Value} (known : value.Known world world.loaded) :
      ReadsAlike world first second value value
  | lists {one other : ListId}
      (items : (first.list one).items = (second.list other).items) :
      ReadsAlike world first second (.list one) (.list other)

/-- Attempts in two worlds of which the second succeeds where the first does,
with a value that reads alike. -/
def Attempt.Repeats (world first second : World σ)
    (attempt again : Attempt σ Value) : Prop :=
  ∀ value, (attempt.run first).1 = .ok value →
    ∃ other, (again.run second).1 = .ok other ∧
      Value.ReadsAlike world (attempt.run first).2 (again.run second).2 value other

/-- Rows read twice give two lists of the same elements. -/
theorem Value.readsAlike_readField {field : Field}
    (known : field.Known world world.loaded) (first second : World σ) :
    Value.ReadsAlike world (first.readField field).2 (second.readField field).2
      (first.readField field).1 (second.readField field).1 := by
  cases field with
  | value content => exact .same known
  | rows texts =>
    refine .lists ?_
    change ((first.newList _).2.list ⟨first.lists.size⟩).items =
      ((second.newList _).2.list ⟨second.lists.size⟩).items
    simp only [World.newList, World.list, Store.get?_add_size, Option.getD_some]
  | settings content =>
    cases content with
    | none => exact .same trivial
    | some settings => exact .same (settings.toValue_known world _)

/-- An object shows what it showed before. -/
theorem readObject_repeats (ready : context.Ready world)
    (one : World.Watches context.binding world first)
    (other : World.Watches context.binding world second) {object : ObjectId}
    (has : world.Has object) (name : String) :
    Attempt.Repeats world first second
      (context.readProperty (.object object) name)
      (context.readProperty (.object object) name) := by
  have shown : ∀ {after : World σ},
      World.Watches context.binding world after →
      (after.attend context.binding object name).sees (object, name) =
        world.sees (object, name) := by
    intro after watches
    have attended :=
      World.attend_watches (ready.watches watches).sound (watches.fits.has has)
        context.binding name
    rw [attended.sees, watches.sees]
  unfold Attempt.Repeats
  rw [readObject_run, readObject_run, shown one, shown other]
  cases seen : world.sees (object, name) with
  | none => exact fun value read => by cases read
  | some field =>
    intro value read
    cases read
    exact ⟨_, rfl, Value.readsAlike_readField (ready.sound.sees_known seen) _ _⟩

/-- What reads alike has like properties. -/
theorem readProperty_repeats (ready : context.Ready world)
    (one : World.Watches context.binding world first)
    (other : World.Watches context.binding world second) {value like : Value}
    (alike : Value.ReadsAlike world first second value like) (name : String) :
    Attempt.Repeats world first second (context.readProperty value name)
      (context.readProperty like name) := by
  have scalar : ∀ {result : Value}, result.IsScalar →
      Attempt.Repeats world first second (pure result) (pure result) := by
    intro result scalar value read
    cases read
    exact ⟨result, rfl, .same (scalar.known world _)⟩
  have missing : ∀ (type : World σ → String) (again : Attempt σ Value),
      Attempt.Repeats world first second
        (do throw (.propertyNotFound (type (← getThe (World σ))) name)) again :=
    fun type again result read => by cases read
  have counted : ∀ {list like : ListId},
      (first.list list).items = (second.list like).items →
      Attempt.Repeats world first second
        (context.readProperty (.list list) name)
        (context.readProperty (.list like) name) := by
    intro list like items
    simp only [EvaluationContext.readProperty]
    split
    · intro result read
      cases read
      refine ⟨.int (second.list like).items.length, rfl, ?_⟩
      rw [items]
      exact .same trivial
    · exact missing _ _
  cases alike with
  | lists items => exact counted items
  | same known =>
    cases value with
    | object object => exact readObject_repeats ready one other known name
    | list list =>
      exact counted ((congrArg _ (one.lists list known)).trans
        (congrArg _ (other.lists list known)).symm)
    | map entries =>
      simp only [EvaluationContext.readProperty]
      cases found : entries.lookup name with
      | none => exact missing _ _
      | some value =>
        intro result read
        cases read
        exact ⟨value, rfl, .same (Value.known_of_lookup known found)⟩
    | vec2 vector =>
      simp only [EvaluationContext.readProperty]
      split
      · exact scalar trivial
      · exact scalar trivial
      · exact missing _ _
    | color color =>
      simp only [EvaluationContext.readProperty]
      split
      · exact scalar trivial
      · exact scalar trivial
      · exact scalar trivial
      · exact scalar trivial
      · exact missing _ _
    | _ => exact missing _ _

/-- Reading a reference is a step of an evaluation. -/
theorem resolve_follows (ready : context.Ready world) (target : Reference) :
    Follows context 0 0 target.aliases (Value.renumber (Value.shift 0 0))
      (fun after value => value.Known after after.loaded) world
      (context.resolve target) (context.silent.resolve target) :=
  follows_resolve target ready

/-- What is read without a trace, and gives the same in both worlds. -/
theorem Attempt.repeats_still {attempt : Attempt σ Value}
    {outcome : Except UiError Value}
    (one : attempt.run world = (outcome, world))
    (other : attempt.run second = (outcome, second))
    (known :
      ∀ value,
        (attempt.run world).1 = .ok value →
        value.Known (attempt.run world).2 (attempt.run world).2.loaded) :
    Attempt.Repeats world world second attempt attempt := by
  intro value read
  have stored := known value read
  rw [one] at read stored ⊢
  rw [other]
  exact ⟨value, read, .same stored⟩

/-- A reference gives what it gave before, whatever an evaluation has done in
between. -/
theorem resolve_repeats (ready : context.Ready world) (target : Reference)
    (other : World.Watches context.binding world second) :
    Attempt.Repeats world world second (context.resolve target)
      (context.resolve target) := by
  induction target with
  | global name span =>
    have same : globalOutcome context name second =
          globalOutcome context name world := by
      unfold globalOutcome World.global?
      rw [other.rest]
    refine Attempt.repeats_still (resolveGlobal_run context name span world) ?_
      (resolve_follows ready _).known
    rw [resolveGlobal_run, same]
  | aliased name span =>
    have run : ∀ {after : World σ}, World.Watches context.binding world after →
        (context.resolve (.aliased name span)).run after =
          (((context.handle.bind (world.aliasWidget? · name)).map
            fun widget => .ok (.object (.widget widget))).getD
              (.error (.referenceNotFound .aliased name)), after) := by
      intro after watches
      simp only [EvaluationContext.resolve, Attempt.bind_run,
        Attempt.getThe_run, watches.aliasWidget?]
      cases context.handle.bind (world.aliasWidget? · name) <;> rfl
    exact Attempt.repeats_still (run (.refl _ world)) (run other)
      (resolve_follows ready _).known
  | «local» name span =>
    have run : ∀ after : World σ,
        (context.resolve (.local name span)).run after =
          (((context.scope.lookup? name).map .ok).getD
             (.error (.referenceNotFound .local name)), after) := by
      intro after
      simp only [EvaluationContext.resolve]
      cases context.scope.lookup? name <;> rfl
    exact Attempt.repeats_still (run world) (run second)
      (resolve_follows ready _).known
  | property base name span hypothesis =>
    intro value read
    rw [EvaluationContext.resolve, Attempt.bind_run] at read ⊢
    rw [Attempt.bind_run]
    have one := (resolve_follows ready base).watches
    have two := other.trans (resolve_follows (ready.watches other) base).watches
    rcases run : (context.resolve base).run world with ⟨outcome, after⟩
    rw [run] at read one
    cases outcome with
    | error error => cases read
    | ok found =>
      obtain ⟨again, success, alike⟩ := hypothesis found (congrArg Prod.fst run)
      rcases rerun : (context.resolve base).run second with ⟨outcome, later⟩
      rw [run, rerun] at alike
      rw [rerun] at success two
      cases success
      exact readProperty_repeats ready one two alike name value read

end LiveMarkup
