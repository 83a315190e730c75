import LiveMarkup.Proofs.Parsing.DocumentSteps
import LiveMarkup.Proofs.Naming.ExpressionKeys

/-!
# Documents with renamed keys

The document parser with key converters follows the one without.  The body of a
component is collected entry by entry; it only grows, so that a clash in what
has been collected is one of the finished component.
-/

namespace LiveMarkup

instance : Keyed Component := ⟨Component.keyLists, Component.rename⟩

instance : Keyed Loop := ⟨Loop.keyLists, Loop.rename⟩

instance : Keyed Document :=
  ⟨fun document => document.root.keyLists, Document.rename⟩

/-! ## Bodies -/

namespace Body

/-- The lists of keys of what has been collected for a body, those below its own
entries last. -/
def keyListsBelow (body : Body) : List (List String) :=
  (body.properties.map Property.value).flatMap Expr.keyLists ++
    (body.children.flatMap Component.keyLists ++ body.loops.flatMap Loop.keyLists)

instance : Keyed Body where
  keyLists body :=
    body.properties.map Property.key :: body.signals.map Signal.event ::
      body.keyListsBelow
  rename change body :=
    { properties := body.properties.map (Property.rename change)
      signals := body.signals.map (Signal.rename change)
      children := body.children.map (Component.rename change)
      loops := body.loops.map (Loop.rename change) }

/-- What has been collected stays at the front of what is collected later. -/
structure Grows (first second : Body) : Prop where
  properties : first.properties <+: second.properties
  signals : first.signals <+: second.signals
  children : first.children <+: second.children
  loops : first.loops <+: second.loops

namespace Grows

theorem refl (body : Body) : Grows body body :=
  ⟨List.prefix_refl _, List.prefix_refl _, List.prefix_refl _, List.prefix_refl _⟩

theorem trans {first second third : Body} (before : Grows first second)
    (after : Grows second third) : Grows first third :=
  ⟨before.properties.trans after.properties, before.signals.trans after.signals,
    before.children.trans after.children, before.loops.trans after.loops⟩

variable (body : Body)

theorem property (property : Property) :
    Grows body { body with properties := body.properties ++ [property] } :=
  { refl body with properties := List.prefix_append _ _ }

theorem signal (signal : Signal) :
    Grows body { body with signals := body.signals ++ [signal] } :=
  { refl body with signals := List.prefix_append _ _ }

theorem child (child : Component) :
    Grows body { body with children := body.children ++ [child] } :=
  { refl body with children := List.prefix_append _ _ }

theorem loop (loop : Loop) :
    Grows body { body with loops := body.loops ++ [loop] } :=
  { refl body with loops := List.prefix_append _ _ }

end Grows

end Body

section Grown

variable {change : String → String} {merged : String} {first second : Body}

/-- Clashes in what has been collected stay clashes. -/
theorem Merges.of_body (merges : Merges change merged (Keyed.keyLists first))
    (grows : first.Grows second) :
    Merges change merged (Keyed.keyLists second) := by
  refine merges.of_grows fun list member => ?_
  rcases List.mem_cons.mp member with rfl | member
  · exact ⟨_, List.mem_cons_self, List.map_subset _ grows.properties.subset⟩
  rcases List.mem_cons.mp member with rfl | member
  · exact ⟨_, List.mem_cons_of_mem _ List.mem_cons_self,
      List.map_subset _ grows.signals.subset⟩
  refine ⟨list, List.mem_cons_of_mem _ (List.mem_cons_of_mem _ ?_),
    List.Subset.refl _⟩
  simp only [Body.keyListsBelow, List.mem_append, List.mem_flatMap,
    List.mem_map] at member ⊢
  rcases member with ⟨value, ⟨property, inside, rfl⟩, found⟩ |
    ⟨child, inside, found⟩
    | ⟨loop, inside, found⟩
  · exact .inl ⟨_, ⟨property, grows.properties.subset inside, rfl⟩, found⟩
  · exact .inr (.inl ⟨child, grows.children.subset inside, found⟩)
  · exact .inr (.inr ⟨loop, grows.loops.subset inside, found⟩)

end Grown

/-- The lists of keys of a component are those of its body. -/
theorem Component.mem_keyLists (content : Body) (name : String)
    (aliasName : Option String) (span : Span) (list : List String) :
    list ∈
      Component.keyLists ⟨name, aliasName, content.properties, content.signals,
        content.children, content.loops, span⟩ ↔
      list ∈ Keyed.keyLists content := by
  simp only [Component.keyLists, Component.walk, Component.expressions,
    Component.ownKeyLists, Component.walkAll_eq_flatMap,
    Loop.walkAll_eq_flatMap, Component.expressionsIn_eq_flatMap,
    Loop.expressionsIn_eq_flatMap, Keyed.keyLists, Body.keyListsBelow,
    Loop.keyLists, List.mem_append, List.mem_cons, List.mem_flatMap,
    List.flatMap_cons, List.flatMap_append, List.flatMap_assoc,
    List.not_mem_nil, or_false]
  constructor
  · rintro (((rfl | rfl) | ⟨child, member, found⟩ | ⟨loop, member, found⟩)
      | found | ⟨child, member, found⟩ | ⟨loop, member, found⟩)
    · exact .inl rfl
    · exact .inr (.inl rfl)
    · exact .inr (.inr (.inr (.inl ⟨child, member, .inl found⟩)))
    · exact .inr (.inr (.inr (.inr ⟨loop, member, .inl found⟩)))
    · exact .inr (.inr (.inl found))
    · exact .inr (.inr (.inr (.inl ⟨child, member, .inr found⟩)))
    · exact .inr (.inr (.inr (.inr ⟨loop, member, .inr found⟩)))
  · rintro (rfl | rfl | found | ⟨child, member, found | found⟩ |
      ⟨loop, member, found | found⟩)
    · exact .inl (.inl (.inl rfl))
    · exact .inl (.inl (.inr rfl))
    · exact .inr (.inl found)
    · exact .inl (.inr (.inl ⟨child, member, found⟩))
    · exact .inr (.inr (.inl ⟨child, member, found⟩))
    · exact .inl (.inr (.inr ⟨loop, member, found⟩))
    · exact .inr (.inr (.inr ⟨loop, member, found⟩))

/-- The lists of keys of a loop are those of its source and of what is below it. -/
theorem Loop.mem_keyLists (source : Expr)
    (itemType indexName valueName : String) (children : List Component)
    (loops : List Loop) (span : Span) (list : List String) :
    list ∈
      Loop.keyLists ⟨source, itemType, indexName, valueName, children,
        loops, span⟩ ↔
      list ∈ source.keyLists ∨
      list ∈
        children.flatMap Component.keyLists ++ loops.flatMap Loop.keyLists := by
  simp only [Loop.keyLists, Component.keyLists, Loop.walk, Loop.expressions,
    Component.walkAll_eq_flatMap, Loop.walkAll_eq_flatMap,
    Component.expressionsIn_eq_flatMap, Loop.expressionsIn_eq_flatMap,
    List.mem_append, List.mem_flatMap, List.flatMap_cons, List.flatMap_append,
    List.flatMap_assoc]
  constructor
  · rintro ((⟨child, member, found⟩ | ⟨loop, member, found⟩)
      | found | ⟨child, member, found⟩ | ⟨loop, member, found⟩)
    · exact .inr (.inl ⟨child, member, .inl found⟩)
    · exact .inr (.inr ⟨loop, member, .inl found⟩)
    · exact .inl found
    · exact .inr (.inl ⟨child, member, .inr found⟩)
    · exact .inr (.inr ⟨loop, member, .inr found⟩)
  · rintro (found | ⟨child, member, found | found⟩ | ⟨loop, member, found | found⟩)
    · exact .inr (.inl found)
    · exact .inl (.inl ⟨child, member, found⟩)
    · exact .inr (.inr (.inl ⟨child, member, found⟩))
    · exact .inl (.inr ⟨loop, member, found⟩)
    · exact .inr (.inr (.inr ⟨loop, member, found⟩))

/-- There are no keys in a text. -/
theorem not_merges_of_literalText {change : String → String}
    {merged handler : String} {value : Expr}
    (isText : value.literalText? = some handler) :
    ¬ Merges change merged value.keyLists := by
  rintro ⟨list, member, -⟩
  cases value with
  | text text span => exact absurd member (by simp [Expr.keyLists])
  | _ => cases isText

namespace Parser

variable {keys : List (String → String)} {depth : Nat}

/-! ## Bodies only grow -/

section Grows

variable (converters : Converters) (collected : Body)

theorem addProperty_grows (key : String) (binding : Binding) (value : Expr)
    (span : Span) :
    Yields (Body.Grows collected)
      (addProperty collected key binding value span) := by
  rw [addProperty]
  split
  · exact .fail
  · exact .pure (.property _ _)

/-- A signal that is added keeps the key lists of what was collected. -/
theorem addSignal_grows (event : String) (binding : Binding) (value : Expr)
    (span : Span) :
    Yields (Body.Grows collected)
      (addSignal collected event binding value span) := by
  rw [addSignal]
  cases value.literalText? with
  | none => exact .fail
  | some handler =>
      dsimp only
      split
      · exact .fail
      · split
        · exact .fail
        · exact .pure (.signal _ _)

theorem entry_grows (depth : Nat) :
    Yields (Body.Grows collected) (entry converters depth collected) := by
  refine .bind fun token => .bind fun binding => .bind fun value => ?_
  split
  · exact addSignal_grows _ _ _ _ _
  · exact addProperty_grows _ _ _ _ _

/-- So do entries. -/
theorem entries_grows (depth : Nat) :
    Yields (Body.Grows collected) (entries converters depth collected) := by
  induction depth generalizing collected with
  | zero =>
      rw [entries]
      exact .failHere
  | succ depth induction =>
      rw [entries]
      refine (entry_grows converters collected depth).andThen fun longer grows =>
        .bind fun _ => ?_
      split
      · refine .bind fun _ => .bind fun _ => ?_
        dsimp only
        split
        · exact (induction longer).mono fun _ => grows.trans
        · exact .pure grows
      · exact .pure grows

/-- And a whole body, with its children and loops. -/
theorem body_grows (depth : Nat) :
    Yields (Body.Grows collected) (body converters depth collected) := by
  induction depth generalizing collected with
  | zero =>
      rw [body]
      exact .failHere
  | succ depth induction =>
      rw [body]
      refine .bind fun token => ?_
      have child : Yields (Body.Grows collected)
        (component converters depth >>= fun child =>
          body converters depth
            { collected with children := collected.children ++ [child] }) :=
        .bind fun child => (induction _).mono fun _ =>
          (Body.Grows.child collected child).trans
      have further : Yields (Body.Grows collected)
          (entries converters depth collected >>= body converters depth) :=
        (entries_grows converters collected depth).andThen fun longer grows =>
          (induction longer).mono fun _ => grows.trans
      split
      · exact .pure (.refl collected)
      · exact .failHere
      · exact child
      · exact child
      · exact further
      · exact further
      · refine .bind ?_
        intro inner
        exact (induction _).mono fun _ =>
          (Body.Grows.loop collected inner).trans
      · exact .failHere

end Grows

/-! ## Entries -/

section Entries

variable {collected : Body}
  (separates : Separates (applyAll keys) (Keyed.keyLists collected))
include separates

/-- A property is refused if its key has been taken. -/
theorem addProperty_follows (key : String) (binding : Binding) (value : Expr)
    (span : Span) (apart : Separates (applyAll keys) value.keyLists) :
    Follows (applyAll keys) (addProperty collected key binding value span)
      (addProperty (Keyed.rename (applyAll keys) collected) (applyAll keys key)
        binding (value.rename (applyAll keys)) span) := by
  obtain ⟨ownKeys, events, below⟩ :=
    (separates_cons.mp separates).imp id separates_cons.mp
  have taken (body : Body) (name : String) : body.properties.any (·.key == name) =
      (body.properties.map Property.key).any (· == name) := by
    simp [List.any_map, Function.comp_def]
  have renamed :
      (Keyed.rename (applyAll keys) collected).properties.map Property.key =
        (collected.properties.map Property.key).map (applyAll keys) := by
    simp [Keyed.rename, Property.rename, Function.comp_def]
  rw [addProperty, addProperty, taken, taken, renamed]
  refine .ifFresh rfl ownKeys (fun distinct => .pure ?_ ?_)
    fun merged merges => .pure (merges.of_grows fun list member => ?_)
  · refine separates_cons.mpr
      ⟨by simpa using distinct, separates_cons.mpr ⟨events, ?_⟩⟩
    simp only [Body.keyListsBelow, List.map_append, List.flatMap_append,
      separates_append] at below ⊢
    exact ⟨⟨below.1, by simpa using apart⟩, below.2⟩
  · simp [Keyed.rename, Property.rename]
  · exact ⟨_, List.mem_cons_self, by simp [List.mem_singleton.mp member]⟩

/-- A signal is refused if its event has been taken. -/
theorem addSignal_follows (event : String) (binding : Binding) (value : Expr)
    (span : Span) :
    Follows (applyAll keys) (addSignal collected event binding value span)
      (addSignal (Keyed.rename (applyAll keys) collected) (applyAll keys event)
        binding (value.rename (applyAll keys)) span) := by
  obtain ⟨ownKeys, events, below⟩ :=
    (separates_cons.mp separates).imp id separates_cons.mp
  have taken (body : Body) (name : String) : body.signals.any (·.event == name) =
      (body.signals.map Signal.event).any (· == name) := by
    simp [List.any_map, Function.comp_def]
  have renamed : (Keyed.rename (applyAll keys) collected).signals.map Signal.event =
      (collected.signals.map Signal.event).map (applyAll keys) := by
    simp [Keyed.rename, Signal.rename, Function.comp_def]
  rw [addSignal, addSignal, Expr.literalText?_rename]
  cases value.literalText? with
  | none => exact .fail
  | some handler =>
      dsimp only
      split
      · exact .fail
      · rw [taken, taken, renamed]
        refine .ifFresh rfl events (fun distinct => .pure ?_ ?_)
          fun merged merges => .pure (merges.of_grows fun list member => ?_)
        · exact separates_cons.mpr
            ⟨ownKeys, separates_cons.mpr ⟨by simpa using distinct, below⟩⟩
        · simp [Keyed.rename, Signal.rename]
        · refine ⟨_, List.mem_cons_of_mem _ List.mem_cons_self, ?_⟩
          simp [List.mem_singleton.mp member]

/-- An entry is read with converted keys as it is read without, and its key is
converted. -/
theorem entry_follows (depth : Nat) :
    Follows (applyAll keys) (entry .none depth collected)
      (entry (.ofKeys keys) depth (Keyed.rename (applyAll keys) collected)) := by
  rw [entry, entry, value, value, Converters.none_value_map,
    Converters.ofKeys_value_map]
  refine .step fun token => .step fun binding =>
    .bind (followsExpressions keys depth).expression (fun value apart => ?_)
      fun value merged merges => ?_
  · have span : (Keyed.rename (applyAll keys) value).span = value.span :=
      Expr.span_rename _ _
    rw [span]
    dsimp only
    split
    · exact addSignal_follows separates _ _ _ _
    · exact addProperty_follows separates _ _ _ _ apart
  · dsimp only
    split
    · rw [addSignal]
      cases isText : value.literalText? with
      | none => exact .fail
      | some handler => exact absurd merges (not_merges_of_literalText isText)
    · rw [addProperty]
      split
      · exact .fail
      · refine .pure (merges.of_subset fun list member => ?_)
        refine List.mem_cons_of_mem _ (List.mem_cons_of_mem _ ?_)
        simp only [Body.keyListsBelow, List.map_append, List.flatMap_append,
          List.mem_append]
        exact .inl (.inr (by simpa [Keyed.keyLists] using member))

end Entries

/-- The entries of a body. -/
theorem entries_follows (depth : Nat) (collected : Body)
    (separates : Separates (applyAll keys) (Keyed.keyLists collected)) :
    Follows (applyAll keys) (entries .none depth collected)
      (entries (.ofKeys keys) depth (Keyed.rename (applyAll keys) collected)) := by
  induction depth generalizing collected with
  | zero =>
      rw [entries, entries]
      exact .failHere
  | succ depth induction =>
      rw [entries, entries]
      refine .bind (entry_follows separates depth)
        (fun longer apart => .step fun _ => ?_) fun longer merged merges =>
        .bind fun _ => ?_
      · split
        · refine .step fun _ => .step fun _ => ?_
          dsimp only
          split
          · exact induction longer apart
          · exact .pure apart rfl
        · exact .pure apart rfl
      · split
        · refine .bind fun _ => .bind fun _ => ?_
          dsimp only
          split
          · exact (entries_grows _ _ _).mono fun _ => merges.of_body
          · exact .pure merges
        · exact .pure merges

/-! ## Components and loops -/

/-- The parsers of components that nest at most `depth` deep follow those
without converters. -/
structure FollowsComponents (keys : List (String → String)) (depth : Nat) :
    Prop where
  body : ∀ collected : Body, Separates (applyAll keys) (Keyed.keyLists collected) →
    Follows (applyAll keys) (body .none depth collected)
      (body (.ofKeys keys) depth (Keyed.rename (applyAll keys) collected))
  component :
      Follows (applyAll keys) (component .none depth)
        (component (.ofKeys keys) depth)
  loop : Follows (applyAll keys) (loop .none depth) (loop (.ofKeys keys) depth)

namespace FollowsComponents

variable (follows : FollowsComponents keys depth)
include follows

/-- So is a body, one level down. -/
theorem body_succ (collected : Body)
    (separates : Separates (applyAll keys) (Keyed.keyLists collected)) :
    Follows (applyAll keys) (Parser.body .none (depth + 1) collected)
      (Parser.body (.ofKeys keys) (depth + 1)
        (Keyed.rename (applyAll keys) collected)) := by
  obtain ⟨ownKeys, events, below⟩ :=
    (separates_cons.mp separates).imp id separates_cons.mp
  have child : Follows (applyAll keys)
      (Parser.component .none depth >>= fun child => Parser.body .none depth
        { collected with children := collected.children ++ [child] })
      (Parser.component (.ofKeys keys) depth >>= fun child =>
        Parser.body (.ofKeys keys) depth
          { Keyed.rename (applyAll keys) collected with
            children := (Keyed.rename (applyAll keys) collected).children ++
              [child] }) := by
    refine .bind follows.component (fun child apart => ?_)
      fun child merged merges =>
        (body_grows _ _ _).mono fun _ =>
          Merges.of_body (merges.of_subset fun list member => ?_)
    · have grown :=
        follows.body { collected with children :=
          collected.children ++ [child] }
          (separates_cons.mpr ⟨ownKeys, separates_cons.mpr ⟨events, ?_⟩⟩)
      · simpa [Keyed.rename] using grown
      · simp only [Body.keyListsBelow, List.flatMap_append, separates_append]
          at below ⊢
        exact ⟨below.1, ⟨below.2.1, by simpa [Keyed.keyLists] using apart⟩,
          below.2.2⟩
    · refine List.mem_cons_of_mem _ (List.mem_cons_of_mem _ ?_)
      simp only [Body.keyListsBelow, List.flatMap_append, List.mem_append]
      exact .inr (.inl (.inr (by simpa [Keyed.keyLists] using member)))
  have further : Follows (applyAll keys)
      (entries .none depth collected >>= Parser.body .none depth)
      (entries (.ofKeys keys) depth (Keyed.rename (applyAll keys) collected) >>=
        Parser.body (.ofKeys keys) depth) :=
    .bind (entries_follows depth collected separates) follows.body
      fun longer merged merges => (body_grows _ _ _).mono fun _ => merges.of_body
  rw [Parser.body, Parser.body]
  refine .step fun token => ?_
  split
  · exact .pure separates rfl
  · exact .failHere
  · exact child
  · exact child
  · exact further
  · exact further
  · refine .bind follows.loop (fun inner apart => ?_) fun inner merged merges =>
      (body_grows _ _ _).mono fun _ =>
        Merges.of_body (merges.of_subset fun list member => ?_)
    · have grown :=
        follows.body { collected with loops := collected.loops ++ [inner] }
          (separates_cons.mpr ⟨ownKeys, separates_cons.mpr ⟨events, ?_⟩⟩)
      · simpa [Keyed.rename] using grown
      · simp only [Body.keyListsBelow, List.flatMap_append, separates_append]
          at below ⊢
        exact ⟨below.1, below.2.1, below.2.2, by simpa [Keyed.keyLists] using apart⟩
    · refine List.mem_cons_of_mem _ (List.mem_cons_of_mem _ ?_)
      simp only [Body.keyListsBelow, List.flatMap_append, List.mem_append]
      exact .inr (.inr (.inr (by simpa [Keyed.keyLists] using member)))
  · exact .failHere

/-- So is a component. -/
theorem component_succ :
    Follows (applyAll keys) (Parser.component .none (depth + 1))
      (Parser.component (.ofKeys keys) (depth + 1)) := by
  rw [Parser.component, Parser.component]
  refine .step fun aliasName => .step fun head => .step fun _ =>
    .bind (follows.body {} ?_)
      (fun content apart => .step fun closing => .pure ?_ ?_)
      fun content merged merges => .bind fun closing => .pure ?_
  · exact separates_cons.mpr ⟨by simp, separates_cons.mpr ⟨by simp, separates_nil⟩⟩
  · exact apart.of_subset fun list => (Component.mem_keyLists content _ _ _ list).mp
  · simp [Keyed.rename, Component.rename, Component.renameIn_eq_map,
      Loop.renameIn_eq_map]
  · refine merges.of_subset ?_
    intro list
    exact (Component.mem_keyLists content _ _ _ list).mpr

/-- And a loop. -/
theorem loop_succ :
    Follows (applyAll keys) (Parser.loop .none (depth + 1))
      (Parser.loop (.ofKeys keys) (depth + 1)) := by
  rw [Parser.loop, Parser.loop]
  refine .step fun keyword => .bind (followsExpressions keys depth).expression
    (fun source sourceApart => .step fun _ => .step fun itemType =>
      .step fun _ => .step fun _ =>
        .step fun indexName => .step fun _ => .step fun valueName => .step fun _ =>
          .bind (follows.body {} ?_) (fun content apart => .step fun closing => ?_)
            fun content merged merges => .bind fun closing => ?_)
    fun source merged merges => .bind fun _ => .bind fun itemType =>
      .bind fun _ => .bind fun _ =>
      .bind fun indexName => .bind fun _ => .bind fun valueName => .bind fun _ =>
        .bind fun content => .bind fun closing => ?_
  · exact separates_cons.mpr ⟨by simp, separates_cons.mpr ⟨by simp, separates_nil⟩⟩
  · obtain ⟨properties, signals, children, loops⟩ := content
    cases properties with
    | cons property others => exact .fail
    | nil =>
        cases signals with
        | cons signal others => exact .fail
        | nil =>
            refine .pure (fun list member => ?_) ?_
            · rcases (Loop.mem_keyLists source _ _ _ _ _ _ list).mp member
                with inside | below
              · exact sourceApart list inside
              · exact apart list (List.mem_cons_of_mem _
                  (List.mem_cons_of_mem _ below))
            · simp [Keyed.rename, Loop.rename, Component.renameIn_eq_map,
                Loop.renameIn_eq_map]
  · obtain ⟨properties, signals, children, loops⟩ := content
    cases properties with
    | cons property others => exact .fail
    | nil =>
        cases signals with
        | cons signal others => exact .fail
        | nil =>
            refine .pure ?_
            obtain ⟨list, member, first, firstIn, clash⟩ := merges
            refine ⟨list, (Loop.mem_keyLists source _ _ _ _ _ _ list).mpr
              (.inr ?_), first, firstIn, clash⟩
            rcases List.mem_cons.mp member with rfl | member
            · exact absurd firstIn List.not_mem_nil
            rcases List.mem_cons.mp member with rfl | member
            · exact absurd firstIn List.not_mem_nil
            · exact member
  · obtain ⟨properties, signals, children, loops⟩ := content
    cases properties with
    | cons property others => exact .fail
    | nil =>
        cases signals with
        | cons signal others => exact .fail
        | nil =>
            exact .pure (merges.of_subset fun list member =>
              (Loop.mem_keyLists source _ _ _ _ _ _ list).mpr (.inl member))

end FollowsComponents

/-- However deeply they may nest, the parsers of components follow those without
converters. -/
theorem followsComponents (keys : List (String → String)) : ∀ depth : Nat,
    FollowsComponents keys depth
  | 0 =>
    { body := fun _ _ => by
        rw [body, body]
        exact .failHere
      component := by
        rw [component, component]
        exact .failHere
      loop := by
        rw [loop, loop]
        exact .failHere }
  | depth + 1 =>
    { body := (followsComponents keys depth).body_succ
      component := (followsComponents keys depth).component_succ
      loop := (followsComponents keys depth).loop_succ }

/-- A document is read alike with and without key converters, up to clashes of
keys. -/
theorem document_follows (keys : List (String → String)) (depth : Nat) :
    Follows (applyAll keys) (document .none depth)
      (document (.ofKeys keys) depth) := by
  refine .step fun imports => .step fun controller => .step fun _ => ?_
  split
  · exact .failHere
  · refine .bind (followsComponents keys depth).component
      (fun root apart => .step fun _ => ?_) fun root merged merges =>
      .bind fun _ => ?_
    · split
      · exact .step fun _ => .pure apart rfl
      · exact .failHere
    · split
      · exact .bind fun _ => .pure merges
      · exact .failHere

end Parser

end LiveMarkup
