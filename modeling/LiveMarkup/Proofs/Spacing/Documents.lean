import LiveMarkup.Proofs.Parsing.DocumentSteps
import LiveMarkup.Proofs.Places.Bare
import LiveMarkup.Proofs.Spacing.Expressions

/-!
# Documents on tokens that stand elsewhere

The parsers of documents mirror themselves like those of expressions: on tokens of
the same kinds and values they read the same document up to places, or fail for a
cause of one kind.
-/

namespace LiveMarkup

/-! ## Documents that differ in their places -/

/-- Two components that differ in their places only. -/
def Component.Alike (first second : Component) : Prop := first.bare = second.bare

/-- Two loops that differ in their places only. -/
def Loop.Alike (first second : Loop) : Prop := first.bare = second.bare

/-- Two documents that differ in their places only. -/
def Document.Alike (first second : Document) : Prop := first.bare = second.bare

/-- Two lists of imports that differ in their places only. -/
def Import.AllAlike (first second : List Import) : Prop :=
  first.map Import.bare = second.map Import.bare

/-- What has been collected for two bodies differs in its places only. -/
structure Body.Alike (first second : Body) : Prop where
  properties :
      first.properties.map Property.bare = second.properties.map Property.bare
  signals : first.signals.map Signal.bare = second.signals.map Signal.bare
  children : first.children.map Component.bare = second.children.map Component.bare
  loops : first.loops.map Loop.bare = second.loops.map Loop.bare

/-- Texts are literals wherever they stand. -/
theorem Expr.Alike.literalText? {first second : Expr} (alike : first.Alike second) :
    first.literalText? = second.literalText? := by
  have bare (expr : Expr) : expr.bare.literalText? = expr.literalText? := by
    cases expr with
    | style box properties span => cases properties <;> rfl
    | _ => rfl
  rw [← bare first, ← bare second, alike]

/-- A question about what does not depend on a place has one answer for lists
that differ in places. -/
theorem any_eq_of_map_bare {α : Type} {bare : α → α} {asks : α → Bool}
    {first second : List α} (alike : first.map bare = second.map bare)
    (placeless : ∀ value, asks (bare value) = asks value) :
    first.any asks = second.any asks := by
  have through (list : List α) : list.any asks = (list.map bare).any asks := by
    rw [List.any_map]
    exact congrArg list.any (funext fun value => (placeless value).symm)
  rw [through first, alike, ← through second]

theorem map_bare_append {α : Type} {bare : α → α} {first second : List α}
    {value other : α} (alike : first.map bare = second.map bare)
    (values : bare value = bare other) :
    (first ++ [value]).map bare = (second ++ [other]).map bare := by
  rw [List.map_append, List.map_append, alike, List.map_singleton,
    List.map_singleton, values]

namespace Parser

variable {depth : Nat} {first second : Body}

/-! ## Entries -/

/-- Alike bodies answer alike to a property with alike values. -/
theorem mirrors_addProperty (alike : first.Alike second) (key : String)
    (binding : Binding) {value other : Expr} (values : value.Alike other)
    (span place : Span) :
    Mirrors Body.Alike (addProperty first key binding value span)
      (addProperty second key binding other place) := by
  have taken : first.properties.any (·.key == key) =
        second.properties.any (·.key == key) :=
    any_eq_of_map_bare alike.properties fun _ => rfl
  have values : value.bare = other.bare := values
  unfold addProperty
  rw [taken]
  refine .ifThen (fun _ => .fail rfl) fun _ =>
    .pure ⟨map_bare_append alike.properties ?_, alike.signals, alike.children,
      alike.loops⟩
  simp [Property.bare, values]

theorem mirrors_addSignal (alike : first.Alike second) (event : String)
    (binding : Binding) {value other : Expr} (values : value.Alike other)
    (span place : Span) :
    Mirrors Body.Alike (addSignal first event binding value span)
      (addSignal second event binding other place) := by
  have taken : first.signals.any (·.event == event) =
        second.signals.any (·.event == event) :=
    any_eq_of_map_bare alike.signals fun _ => rfl
  unfold addSignal
  rw [values.literalText?, taken]
  cases other.literalText? with
  | none => exact .fail rfl
  | some handler =>
      refine .ifThen (fun _ => .fail rfl) ?_
      intro _
      refine .ifThen (fun _ => .fail rfl) ?_
      intro _
      exact .pure ⟨alike.properties, map_bare_append alike.signals rfl,
        alike.children, alike.loops⟩

theorem mirrors_bindingSign : Mirrors Eq bindingSign bindingSign := by
  refine .peek fun kind value span other => ?_
  cases kind
  case colon => exact .next fun _ _ _ _ => .pure rfl
  case bindAssign => exact .next fun _ _ _ _ => .pure rfl
  all_goals exact .unexpected

theorem mirrors_entry (alike : first.Alike second) :
    Mirrors Body.Alike (entry .none depth first) (entry .none depth second) := by
  rw [entry, entry, Parser.value, Converters.none_value_map]
  refine .next fun kind name span other =>
    .bind mirrors_bindingSign fun binding _ same =>
    .bind (mirrors_expression depth) fun value copy values => ?_
  subst same
  refine .ifThen ?_ ?_
  · intro _
    exact mirrors_addSignal alike _ _ values _ _
  · intro _
    exact mirrors_addProperty alike _ _ values _ _

theorem mirrors_aliasSign : Mirrors Eq aliasSign? aliasSign? := by
  refine .peek ?_
  intro _ _ _ _
  refine .ifThen ?_ (fun _ => .pure rfl)
  intro _
  refine .next ?_
  intro _ _ _ _
  exact .expect fun _ _ _ => .bind .declareAlias fun _ _ _ => .pure rfl

theorem mirrors_entries (depth : Nat) (alike : first.Alike second) :
    Mirrors Body.Alike (entries .none depth first)
      (entries .none depth second) := by
  induction depth generalizing first second with
  | zero =>
      rw [entries, entries]
      exact .failHere fun _ _ => rfl
  | succ depth induction =>
      rw [entries, entries]
      refine .bind (mirrors_entry alike) ?_
      intro longer copy alike
      refine .peek ?_
      intro _ _ _ _
      refine .ifThen ?_ (fun _ => .pure alike)
      intro _
      refine .next ?_
      intro _ _ _ _
      refine .peek ?_
      intro _ _ _ _
      exact .ifThen (fun _ => induction alike) fun _ => .pure alike

/-! ## Components and loops -/

/-- The parsers of components that nest at most `depth` deep mirror themselves. -/
structure MirrorComponents (depth : Nat) : Prop where
  body : ∀ {first second : Body}, first.Alike second →
    Mirrors Body.Alike (body .none depth first) (body .none depth second)
  component :
      Mirrors Component.Alike (component .none depth) (component .none depth)
  loop : Mirrors Loop.Alike (loop .none depth) (loop .none depth)

namespace MirrorComponents

variable (mirror : MirrorComponents depth)
include mirror

/-- Bodies that start alike are read alike with one more turn of fuel. -/
theorem body_succ (alike : first.Alike second) :
    Mirrors Body.Alike (Parser.body .none (depth + 1) first)
      (Parser.body .none (depth + 1) second) := by
  rw [Parser.body, Parser.body]
  refine .peek fun kind value span other => ?_
  have child : Mirrors Body.Alike
      (do
        let child ← Parser.component .none depth
        Parser.body .none depth
          { first with children := first.children ++ [child] })
      (do
        let child ← Parser.component .none depth
        Parser.body .none depth
          { second with children := second.children ++ [child] }) :=
    .bind mirror.component fun child copy children =>
      mirror.body ⟨alike.properties, alike.signals,
        map_bare_append alike.children children, alike.loops⟩
  have further : Mirrors Body.Alike
      (do
        let collected ← Parser.entries .none depth first
        Parser.body .none depth collected)
      (do
        let collected ← Parser.entries .none depth second
        Parser.body .none depth collected) :=
    .bind (mirrors_entries depth alike) fun longer copy grown => mirror.body grown
  cases kind
  case rightBrace => exact .pure alike
  case endOfInput => exact .failHere fun _ _ => rfl
  case component => exact child
  case aliasRef => exact child
  case name => exact further
  case signalName => exact further
  case each =>
    refine .bind mirror.loop ?_
    intro inner copy loops
    exact mirror.body ⟨alike.properties, alike.signals, alike.children,
      map_bare_append alike.loops loops⟩
  all_goals exact .unexpected

theorem component_succ :
    Mirrors Component.Alike (Parser.component .none (depth + 1))
      (Parser.component .none (depth + 1)) := by
  rw [Parser.component]
  refine .bind mirrors_aliasSign fun aliasName _ same =>
    .expect fun name span other =>
      .expect fun _ _ _ => .bind (mirror.body ⟨rfl, rfl, rfl, rfl⟩)
        fun content copy alike =>
          .expect fun _ _ _ => .pure ?_
  subst same
  simp only [Converters.none_component, Component.Alike, Component.bare,
    Component.bareAll_eq_map, Loop.bareAll_eq_map, alike.properties,
    alike.signals, alike.children, alike.loops]

theorem loop_succ :
    Mirrors Loop.Alike (Parser.loop .none (depth + 1))
      (Parser.loop .none (depth + 1)) := by
  rw [Parser.loop]
  refine .next fun _ _ _ _ =>
    .bind (mirrors_expression depth) fun source copy sources =>
      .expect fun _ _ _ => .expect fun itemType _ _ => .expect fun _ _ _ =>
        .expect fun _ _ _ =>
          .expect fun indexName _ _ => .expect fun _ _ _ =>
            .expect fun valueName _ _ => .expect fun _ _ _ =>
              .bind (mirror.body ⟨rfl, rfl, rfl, rfl⟩) fun content body alike =>
                .expect fun _ _ _ => ?_
  obtain ⟨properties, signals, children, loops⟩ := content
  obtain ⟨otherProperties, otherSignals, otherChildren, otherLoops⟩ := body
  obtain ⟨sameProperties, sameSignals, sameChildren, sameLoops⟩ := alike
  have sources : source.bare = copy.bare := sources
  cases properties with
  | cons property rest =>
      cases otherProperties with
      | nil => cases sameProperties
      | cons other others => exact .fail rfl
  | nil =>
      cases otherProperties with
      | cons other others => cases sameProperties
      | nil =>
          cases signals with
          | cons signal rest =>
              cases otherSignals with
              | nil => cases sameSignals
              | cons other others => exact .fail rfl
          | nil =>
              cases otherSignals with
              | cons other others => cases sameSignals
              | nil =>
                  refine .pure ?_
                  simp only [Loop.Alike, Loop.bare, Component.bareAll_eq_map,
                    Loop.bareAll_eq_map, sources, sameChildren, sameLoops]

end MirrorComponents

/-- However deeply they may nest, the parsers of components mirror themselves. -/
theorem mirrorComponents : ∀ depth : Nat, MirrorComponents depth
  | 0 =>
    { body := fun _ => by
        rw [body, body]
        exact .failHere fun _ _ => rfl
      component := by
        rw [component]
        exact .failHere fun _ _ => rfl
      loop := by
        rw [loop]
        exact .failHere fun _ _ => rfl }
  | depth + 1 =>
    { body := (mirrorComponents depth).body_succ
      component := (mirrorComponents depth).component_succ
      loop := (mirrorComponents depth).loop_succ }

/-! ## Documents -/

theorem mirrors_imports (bound : Nat) {collected others : List Import}
    (alike : Import.AllAlike collected others) :
    Mirrors Import.AllAlike (imports bound collected) (imports bound others) := by
  induction bound generalizing collected others with
  | zero =>
      rw [imports, imports]
      exact .pure alike
  | succ bound induction =>
      have taken (name : String) : collected.any (·.moduleName == name) =
            others.any (·.moduleName == name) :=
        any_eq_of_map_bare alike fun _ => rfl
      rw [imports, imports]
      simp only [taken]
      refine .peek ?_
      intro _ _ _ _
      refine .ifThen ?_ (fun _ => .pure alike)
      intro _
      refine .next ?_
      intro _ _ _ _
      refine .expect ?_
      intro _ _ _
      refine .ifThen (fun _ => .fail rfl) ?_
      intro _
      exact induction (map_bare_append alike rfl)

theorem mirrors_controllerDirective :
    Mirrors Eq controllerDirective? controllerDirective? := by
  refine .peek ?_
  intro _ _ _ _
  refine .ifThen ?_ (fun _ => .pure rfl)
  intro _
  exact .next fun _ _ _ _ => .expect fun _ _ _ => .pure rfl

/-- Two streams that differ in their places only are read as alike documents. -/
theorem mirrors_document (depth : Nat) :
    Mirrors Document.Alike (document .none depth) (document .none depth) := by
  unfold document
  refine .bind (mirrors_imports depth rfl) fun imports copy sameImports =>
    .bind mirrors_controllerDirective fun controller _ same => .peek fun _ _ _ _ =>
      .ifThen (fun _ => .failHere fun _ _ => rfl) fun _ =>
        .bind (mirrorComponents depth).component fun root other roots =>
          .peek fun _ _ _ _ =>
            .ifThen (fun _ => ?_) fun _ => .unexpected
  subst same
  intro stream place streams
  have sameImports : imports.map Import.bare = copy.map Import.bare := sameImports
  have roots : root.bare = other.bare := roots
  refine .read ?_ streams
  simp only [Document.Alike, Document.bare, sameImports, roots, streams.aliases]

end Parser

end LiveMarkup
