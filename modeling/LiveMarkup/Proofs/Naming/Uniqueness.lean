import Mathlib
import LiveMarkup.Proofs.Grammar.DocumentSoundness
import LiveMarkup.Proofs.Lexing.Scans
import LiveMarkup.Proofs.Naming.DocumentKeys
import LiveMarkup.Proofs.Results

/-!
# Names are unique in an accepted document

The grammar lists the aliases of a component in the order in which they are
declared; the tree has its loops behind its children, so that a walk meets the
same aliases in another order.  Everything else about names is a matter of one
list of keys at a time: what a parser with key converters returns is the
renamed document of the parser without, if no two keys of one list have got one
name, and otherwise it refuses.
-/

namespace LiveMarkup

/-! ## Aliases of a derived component -/

namespace Grammar

/-- The components that a walk meets in the items of a body. -/
def Item.walkAll (items : List Item) : List Component :=
  Component.walkAll (items.filterMap Item.child?) ++
    Loop.walkAll (items.filterMap Item.loop?)

/-- Entries hold no components. -/
theorem DerivesKeyValues.no_components {tokens : List Token} {items : List Item}
    (derived : DerivesKeyValues tokens items) :
    items.filterMap Item.child? = [] ∧ items.filterMap Item.loop? = [] := by
  have single {entryTokens : List Token} {item : Item}
      (entry : DerivesEntry entryTokens item) :
      item.child? = none ∧ item.loop? = none := by
    cases entry <;> exact ⟨rfl, rfl⟩
  induction derived with
  | last entry => simp [single entry]
  | trailing _ _ entry => simp [single entry]
  | cons _ _ entry _ induction => simp [single entry, induction]

theorem Item.walkAll_child (child : Component) (items : List Item) :
    Item.walkAll (.child child :: items) = child.walk ++ Item.walkAll items := by
  simp only [Item.walkAll, List.filterMap_cons, Item.child?, Item.loop?,
    Component.walkAll, List.append_assoc]

/-- A walk meets a loop behind the children that are written after it. -/
theorem Item.walkAll_loop (loop : Loop) (items : List Item) :
    (Item.walkAll (.loop loop :: items)).Perm
      (loop.walk ++ Item.walkAll items) := by
  simp only [Item.walkAll, List.filterMap_cons, Item.child?, Item.loop?,
    Loop.walkAll]
  exact List.perm_append_comm_assoc _ _ _

mutual

/-- A walk of a component meets the aliases declared in it. -/
theorem DerivesComponent.aliases_perm :
    ∀ {tokens : List Token} {aliases : List String} {component : Component},
      DerivesComponent tokens aliases component →
      (component.walk.filterMap Component.aliasName).Perm aliases
  | _, _, _, .plain _ _ _ _ _ _ derived _ => by
      rw [Item.toComponent, Component.walk, List.filterMap_cons_none rfl]
      exact derived.aliases_perm
  | _, _, _, .aliased _ _ _ _ _ _ _ _ _ _ derived _ => by
      rw [Item.toComponent, Component.walk]
      exact derived.aliases_perm.cons _

/-- The aliases of items are those of the components in them, in another order.
-/
theorem DerivesItems.aliases_perm :
    ∀ {scope : Scope} {tokens : List Token} {aliases : List String}
        {items : List Item},
      DerivesItems scope tokens aliases items →
      ((Item.walkAll items).filterMap Component.aliasName).Perm aliases
  | _, _, _, _, .nil => .nil
  | _, _, _, _, .component derived othersDerived => by
      rw [Item.walkAll_child, List.filterMap_append]
      exact derived.aliases_perm.append othersDerived.aliases_perm
  | _, _, _, _, .keyValues derived othersDerived => by
      have none := derived.no_components
      simp only [Item.walkAll, List.filterMap_append, none.1, none.2,
        List.nil_append]
      rw [← List.filterMap_append]
      exact othersDerived.aliases_perm
  | _, _, _, _, .each derived othersDerived => by
      refine ((Item.walkAll_loop _ _).filterMap _).trans ?_
      rw [List.filterMap_append]
      exact derived.aliases_perm.append othersDerived.aliases_perm

theorem DerivesLoop.aliases_perm :
    ∀ {tokens : List Token} {aliases : List String} {loop : Loop},
      DerivesLoop tokens aliases loop →
      (loop.walk.filterMap Component.aliasName).Perm aliases
  | _, _, _, .each _ _ _ _ _ _ _ _ _ _ _ _ _ _ _ _ _ _ _ _ _ derived => by
      rw [Item.toLoop, Loop.walk]
      exact derived.aliases_perm

end

end Grammar

/-! ## Reading with and without key converters -/

section Reading

variable {keys : List (String → String)} {source : String} {document : Document}

/-- A source text is read alike with and without key converters, up to clashes
of keys. -/
theorem Document.read_beside (keys : List (String → String)) (source : String) :
    (∃ first second,
      Document.read .none source = .error first ∧
      Document.read (.ofKeys keys) source = .error second) ∨
    ∃ plain,
      Document.read .none source = .ok plain ∧
      ((Separates (applyAll keys) plain.root.keyLists ∧
        Document.read (.ofKeys keys) source =
          .ok (plain.rename (applyAll keys))) ∨
       ∃ error key,
         Document.read (.ofKeys keys) source = .error error ∧
         error.cause.kind = .duplicateKey key ∧
         Merges (applyAll keys) key plain.root.keyLists) := by
  simp only [Document.read, Parser.run]
  cases tokenize markupRules source with
  | error error => exact .inl ⟨_, _, rfl, rfl⟩
  | ok tokens =>
      have beside := Parser.document_follows keys (Parser.depthFor tokens.length)
        (.ofTokens tokens)
      have unconverted (converters : Converters) (none : converters.tokens = []) :
          tokens.map converters.token = tokens := by
        rw [Converters.token, none]
        exact List.map_id tokens
      simp only [unconverted .none rfl, unconverted (.ofKeys keys) rfl]
      generalize Parser.document .none _ _ = first,
        Parser.document (.ofKeys keys) _ _ = second at beside
      cases beside with
      | read separates => exact .inr ⟨_, rfl, .inl ⟨separates, rfl⟩⟩
      | merged kind merges => exact .inr ⟨_, rfl, .inr ⟨_, _, rfl, kind, merges⟩⟩
      | failed => exact .inl ⟨_, _, rfl, rfl⟩

/-- An accepted source text has been cut into the tokens of a derived document. -/
theorem Document.derived_of_read
    (read : Document.read .none source = .ok document) :
    ∃ tokens, Grammar.DerivesDocument tokens document := by
  rw [Document.read, Parser.run] at read
  rcases scans_of_tokenize markupRules source with ⟨tokens, -, lexed⟩ |
    ⟨_, _, _, _, -, -, -, lexed⟩
  · rw [lexed] at read
    dsimp only at read
    rw [show (tokens ++ [endToken source.toList]).map Converters.none.token =
      tokens ++ [endToken source.toList] from List.map_id _] at read
    cases parsed : Parser.document .none _
      (.ofTokens (tokens ++ [endToken source.toList])) with
    | error error =>
        rw [parsed] at read
        cases read
    | ok result =>
        rw [parsed] at read
        cases read
        obtain ⟨derivedFrom, -, -, derived⟩ :=
          Grammar.document_sound
            (by simp [TokenStream.ofTokens, endToken]) rfl parsed
        exact ⟨derivedFrom, derived⟩
  · rw [lexed] at read
    cases read

end Reading

/-! ## Unique names -/

/-- The names in a document are unique. -/
structure Document.NamesUnique (document : Document) : Prop where
  /-- No module is imported twice. -/
  imports : (document.imports.map Import.moduleName).Nodup
  /-- No alias is declared twice. -/
  aliases : document.aliases.Nodup
  /-- The aliases are those that a walk meets. -/
  carried : ∀ name, name ∈ document.aliases ↔
    ∃ node ∈ document.root.walk, node.aliasName = some name
  /-- An alias leads to the only component that carries it. -/
  target : ∀ name ∈ document.aliases, ∃ node,
      document.aliasTarget? name = some node ∧
      document.root.walk.filter (·.aliasName == some name) = [node]
  /-- No component has two properties with one key. -/
  properties : ∀ node ∈ document.root.walk, (node.properties.map Property.key).Nodup
  /-- No component has two signals with one event. -/
  signals : ∀ node ∈ document.root.walk, (node.signals.map Signal.event).Nodup
  /-- No object literal has two entries with one key. -/
  literals : ∀ expr ∈ document.root.expressions, ∀ literalKeys ∈ expr.keyLists,
    literalKeys.Nodup

/-- What is named once is the only one of its name. -/
theorem filter_eq_singleton {α : Type} {nameOf : α → Option String}
    {all : List α} {item : α} {name : String}
    (distinct : (all.filterMap nameOf).Nodup) (member : item ∈ all)
    (named : nameOf item = some name) :
    all.filter (nameOf · == some name) = [item] := by
  induction all with
  | nil => exact absurd member List.not_mem_nil
  | cons first others induction =>
      by_cases firstNamed : nameOf first = some name
      · rw [List.filterMap_cons_some firstNamed, List.nodup_cons] at distinct
        have noOther : ∀ other ∈ others, nameOf other ≠ some name := by
          intro other inside same
          exact distinct.1 (List.mem_filterMap.mpr ⟨other, inside, same⟩)
        rw [List.filter_cons_of_pos (by simp [firstNamed]),
          List.filter_eq_nil_iff.mpr fun other inside => by
            simpa using noOther other inside]
        rcases List.mem_cons.mp member with rfl | inside
        · rfl
        · exact absurd named (noOther item inside)
      · have inside : item ∈ others := by
          rcases List.mem_cons.mp member with rfl | inside
          · exact absurd named firstNamed
          · exact inside
        rw [List.filter_cons_of_neg (by simpa using firstNamed)]
        refine induction (distinct.sublist ?_) inside
        exact (List.sublist_cons_self first others).filterMap nameOf

/-- The names of a derived document stay unique if they are renamed and stay
apart. -/
theorem Grammar.DerivesDocument.namesUnique {tokens : List Token}
    {document : Document} (derived : DerivesDocument tokens document)
    {change : String → String}
    (separates : Separates change document.root.keyLists) :
    (document.rename change).NamesUnique := by
  cases derived with
  | @document _ _ _ imports controller aliases root _ importsDistinct _
      rootDerived aliasesDistinct =>
    have walked :
        ((root.rename change).walk.filterMap Component.aliasName).Perm
          aliases := by
      rw [Component.walk_rename, List.filterMap_map,
        show Component.aliasName ∘ Component.rename change = Component.aliasName
        from funext (Component.aliasName_rename change)]
      exact rootDerived.aliases_perm
    have carried (name : String) : name ∈ aliases ↔
        ∃ node ∈ (root.rename change).walk, node.aliasName = some name := by
      rw [← walked.mem_iff, List.mem_filterMap]
    have apart : ∀ list ∈ (root.rename change).keyLists, list.Nodup := by
      rw [Component.keyLists_rename]
      intro list member
      obtain ⟨plain, inside, rfl⟩ := List.mem_map.mp member
      exact separates plain inside
    have own (node : Component) (inside : node ∈ (root.rename change).walk)
        (list : List String) (member : list ∈ node.ownKeyLists) :
        list.Nodup :=
      apart list (List.mem_append_left _
        (List.mem_flatMap.mpr ⟨node, inside, member⟩))
    exact
      { imports := importsDistinct
        aliases := aliasesDistinct
        carried
        target := by
          intro name declared
          obtain ⟨node, inside, carries⟩ := (carried name).mp declared
          have only :=
            filter_eq_singleton (walked.nodup_iff.mpr aliasesDistinct)
              inside carries
          refine ⟨node, ?_, only⟩
          rw [Document.aliasTarget?, ← List.head?_filter]
          exact congrArg List.head? only
        properties := fun node inside => own node inside _ List.mem_cons_self
        signals := fun node inside =>
          own node inside _ (List.mem_cons_of_mem _ List.mem_cons_self)
        literals := fun expr inside list member =>
          apart list (List.mem_append_right _
            (List.mem_flatMap.mpr ⟨expr, inside, member⟩)) }

/-- Names in an accepted document are unique, after conversion.  A text that is
accepted without key converters is refused with them only because two different
keys or events of one component, or two different keys of one object literal,
have got one name, which is the name that the error gives. -/
theorem read_ofKeys_namesUnique (keys : List (String → String))
    (source : String) :
    (∀ document,
      Document.read (.ofKeys keys) source = .ok document →
      document.NamesUnique) ∧
    ∀ document error,
      Document.read .none source = .ok document →
      Document.read (.ofKeys keys) source = .error error →
      ∃ name,
        error.cause.kind = .duplicateKey name ∧
        ∃ list ∈ document.root.keyLists, ∃ first ∈ list, ∃ second ∈ list,
          first ≠ second ∧ applyAll keys first = name ∧
          applyAll keys second = name := by
  rcases Document.read_beside keys source with ⟨_, _, refused, alsoRefused⟩ |
    ⟨plain, accepted, ⟨separates, renamed⟩ | ⟨error, name, refused, kind, merges⟩⟩
  · rw [refused, alsoRefused]
    exact ⟨nofun, nofun⟩
  · obtain ⟨tokens, derived⟩ := Document.derived_of_read accepted
    rw [accepted, renamed]
    refine ⟨?_, nofun⟩
    rintro document ⟨⟩
    exact derived.namesUnique separates
  · rw [accepted, refused]
    refine ⟨nofun, ?_⟩
    rintro document error ⟨⟩ ⟨⟩
    exact ⟨name, kind, merges⟩

/-- A template with an alias, and an object literal whose keys are respelled. -/
def respelledSource : String :=
  "Box\x7beach $l using Row\x7b|i,v|@row:Cell\x7btext:\x7bTextSize:1\x7d\x7d\x7d\x7d"

/-- Two keys that get one spelling. -/
def clashingSource : String :=
  "Box\x7btextSize:1,text_size:2\x7d"

set_option maxRecDepth 20000 in
/-- One source is read with its keys converted, and another is refused because
two of its keys meet. -/
theorem read_ofKeys_namesUnique_snakeCase :
    (∃ document,
      Document.read (.ofKeys [KeyCasing.snake.convert]) respelledSource =
        .ok document ∧
      document.NamesUnique) ∧
    ∃ document error,
      Document.read .none clashingSource = .ok document ∧
      Document.read (.ofKeys [KeyCasing.snake.convert]) clashingSource =
        .error error ∧
      ∃ name,
        error.cause.kind = .duplicateKey name ∧
        ∃ list ∈ document.root.keyLists, ∃ first ∈ list, ∃ second ∈ list,
          first ≠ second ∧
          applyAll [KeyCasing.snake.convert] first = name ∧
          applyAll [KeyCasing.snake.convert] second = name := by
  obtain ⟨respelled, accepted⟩ :=
    exists_eq_ok
      (show (Document.read (.ofKeys [KeyCasing.snake.convert])
        respelledSource).isOk = true by cbv)
  obtain ⟨plain, alsoAccepted⟩ := exists_eq_ok
    (show (Document.read .none clashingSource).isOk = true by cbv)
  obtain ⟨error, refused⟩ :=
    exists_eq_error
      (show (Document.read (.ofKeys [KeyCasing.snake.convert])
        clashingSource).isOk = false by cbv)
  refine ⟨?_, plain, error, alsoAccepted, refused, ?_⟩
  · exact ⟨respelled, accepted,
      (read_ofKeys_namesUnique _ _).1 respelled accepted⟩
  · exact (read_ofKeys_namesUnique _ _).2 plain error alsoAccepted refused

end LiveMarkup
