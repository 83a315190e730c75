import LiveMarkup.Proofs.Grammar.Documents
import LiveMarkup.Proofs.Grammar.ExpressionSoundness
import LiveMarkup.Proofs.Parsing.DocumentSteps

/-!
# Parsed documents are derivable

Whatever the document parser returns is derived by the grammar from the tokens
that the parser has passed.  A body that has been read up to some token is the
body of the items before that token; this is what the recursion keeps.
-/

namespace LiveMarkup.Grammar

open LiveMarkup.Parser

/-! ## Collected items -/

namespace Item

/-- The body that holds some items. -/
def toBody (items : List Item) : Body :=
  { properties := items.filterMap property?
    signals := items.filterMap signal?
    children := items.filterMap child?
    loops := items.filterMap loop? }

theorem toBody_child (items : List Item) (child : Component) :
    { toBody items with children := (toBody items).children ++ [child] } =
      toBody (items ++ [.child child]) := by
  simp [toBody, property?, signal?, child?, loop?]

theorem toBody_loop (items : List Item) (loop : Loop) :
    { toBody items with loops := (toBody items).loops ++ [loop] } =
      toBody (items ++ [.loop loop]) := by
  simp [toBody, property?, signal?, child?, loop?]

theorem toBody_property (items : List Item) (property : Property) :
    { toBody items with properties := (toBody items).properties ++ [property] } =
      toBody (items ++ [.property property]) := by
  simp [toBody, property?, signal?, child?, loop?]

theorem toBody_signal (items : List Item) (signal : Signal) :
    { toBody items with signals := (toBody items).signals ++ [signal] } =
      toBody (items ++ [.signal signal]) := by
  simp [toBody, property?, signal?, child?, loop?]

theorem distinct_nil : Distinct [] := ⟨List.nodup_nil, List.nodup_nil⟩

/-- A name comes new to distinct names. -/
theorem nodup_append_singleton {α : Type} [BEq α] [LawfulBEq α]
    (names : List α) (name : α) :
    (names ++ [name]).Nodup ↔ names.Nodup ∧ names.any (· == name) = false := by
  rw [List.nodup_append]
  constructor
  · rintro ⟨distinct, -, disjoint⟩
    refine ⟨distinct, List.any_eq_false.mpr ?_⟩
    intro other member equal
    exact disjoint other member name List.mem_cons_self (beq_iff_eq.mp equal)
  · rintro ⟨distinct, fresh⟩
    refine ⟨distinct, by simp, ?_⟩
    intro other member last isLast equal
    rw [List.mem_singleton] at isLast
    rw [isLast] at equal
    exact List.any_eq_false.mp fresh other member (beq_iff_eq.mpr equal)

/-- A further property has to have a key of its own. -/
theorem distinct_property (items : List Item) (property : Property) :
    Distinct (items ++ [.property property]) ↔
      Distinct items ∧
      (toBody items).properties.any (·.key == property.key) = false := by
  have keys :=
    nodup_append_singleton ((items.filterMap property?).map Property.key)
      property.key
  constructor
  · intro distinct
    have both :=
      keys.mp (by simpa [List.filterMap_cons, property?] using distinct.keys)
    constructor
    · exact ⟨both.1, by
        simpa [List.filterMap_cons, signal?] using distinct.events⟩
    · simpa [toBody, List.any_map] using both.2
  · rintro ⟨distinct, fresh⟩
    have both :=
      keys.mpr ⟨distinct.keys, by simpa [toBody, List.any_map] using fresh⟩
    constructor
    · simpa [List.filterMap_cons, property?] using both
    · simpa [List.filterMap_cons, signal?] using distinct.events

/-- A further signal has to have an event of its own. -/
theorem distinct_signal (items : List Item) (signal : Signal) :
    Distinct (items ++ [.signal signal]) ↔
      Distinct items ∧
      (toBody items).signals.any (·.event == signal.event) = false := by
  have events :=
    nodup_append_singleton ((items.filterMap signal?).map Signal.event)
      signal.event
  constructor
  · intro distinct
    have both :=
      events.mp (by simpa [List.filterMap_cons, signal?] using distinct.events)
    constructor
    · exact ⟨by simpa [List.filterMap_cons, property?] using distinct.keys,
        both.1⟩
    · simpa [toBody, List.any_map] using both.2
  · rintro ⟨distinct, fresh⟩
    have both :=
      events.mpr ⟨distinct.events, by simpa [toBody, List.any_map] using fresh⟩
    constructor
    · simpa [List.filterMap_cons, property?] using distinct.keys
    · simpa [List.filterMap_cons, signal?] using both

/-- A child adds no key and no event. -/
theorem distinct_child (items : List Item) (child : Component) :
    Distinct (items ++ [.child child]) ↔ Distinct items := by
  constructor
  · rintro ⟨keys, events⟩
    constructor
    · simpa [List.filterMap_cons, property?] using keys
    · simpa [List.filterMap_cons, signal?] using events
  · rintro ⟨keys, events⟩
    constructor
    · simpa [List.filterMap_cons, property?] using keys
    · simpa [List.filterMap_cons, signal?] using events

/-- Neither does a loop. -/
theorem distinct_loop (items : List Item) (loop : Loop) :
    Distinct (items ++ [.loop loop]) ↔ Distinct items := by
  constructor
  · rintro ⟨keys, events⟩
    constructor
    · simpa [List.filterMap_cons, property?] using keys
    · simpa [List.filterMap_cons, signal?] using events
  · rintro ⟨keys, events⟩
    constructor
    · simpa [List.filterMap_cons, property?] using keys
    · simpa [List.filterMap_cons, signal?] using events

/-- The items before the end of a list are distinct if all are. -/
theorem Distinct.of_append {items others : List Item}
    (distinct : Distinct (items ++ others)) : Distinct items := by
  constructor
  · have keys := distinct.keys
    rw [List.filterMap_append, List.map_append] at keys
    exact (List.nodup_append.mp keys).1
  · have events := distinct.events
    rw [List.filterMap_append, List.map_append] at events
    exact (List.nodup_append.mp events).1

end Item

/-! ## Entries -/

/-- A binding sign that was read is a colon or the sign of live properties. -/
theorem bindingSign_eq_ok {stream rest : TokenStream} {binding : Binding}
    (ends : stream.final.kind = .endOfInput)
    (parsed : bindingSign stream = .ok (binding, rest)) :
    stream.Passes [stream.head] rest ∧
      (stream.head.kind = .colon ∧ binding = .once ∨
        stream.head.kind = .bindAssign ∧ binding = .live) := by
  rw [bindingSign] at parsed
  simp only [bind_apply peek, peek_apply] at parsed
  cases kind : stream.head.kind <;> simp only [kind] at parsed
  case colon =>
    cases parsed
    exact ⟨TokenStream.passes_tail ends (by simp [kind]), .inl ⟨rfl, rfl⟩⟩
  case bindAssign =>
    cases parsed
    exact ⟨TokenStream.passes_tail ends (by simp [kind]), .inr ⟨rfl, rfl⟩⟩
  all_goals exact absurd parsed unexpected_ne_ok

/-- An entry adds one item to the body. -/
theorem entry_sound {depth : Nat} {before : List Item} {result : Body}
    {stream rest : TokenStream} (ends : stream.final.kind = .endOfInput)
    (keyKind : stream.head.kind = .name ∨ stream.head.kind = .signalName)
    (distinct : Item.Distinct before)
    (parsed :
      entry .none depth (Item.toBody before) stream = .ok (result, rest)) :
    ∃ passed item,
      stream.Passes passed rest ∧ DerivesEntry passed item ∧
      result = Item.toBody (before ++ [item]) ∧
      Item.Distinct (before ++ [item]) := by
  have keyPasses := TokenStream.passes_tail ends
    (by rcases keyKind with kind | kind <;> simp [kind])
  have keyEnds : stream.tail.final.kind = .endOfInput := by
    rw [keyPasses.final, ends]
  rw [entry] at parsed
  simp only [bind_apply next, next_apply] at parsed
  obtain ⟨binding, afterSign, signRead, parsed⟩ := bind_eq_ok.mp parsed
  obtain ⟨signPasses, sign⟩ := bindingSign_eq_ok keyEnds signRead
  have signEnds : afterSign.final.kind = .endOfInput := by
    rw [signPasses.final, keyEnds]
  obtain ⟨value, afterValue, valueRead, parsed⟩ := bind_eq_ok.mp parsed
  rw [Parser.value, Converters.none_value_map] at valueRead
  obtain ⟨tokens, valuePasses, derived, -⟩ :=
    (sound depth).expression signEnds valueRead
  have passes :
      stream.Passes (stream.head :: stream.tail.head :: tokens) afterValue := by
    simpa using (keyPasses.trans signPasses).trans valuePasses
  rcases keyKind with kind | kind
  · simp only [kind, show (TokenKind.name == TokenKind.signalName) = false from rfl,
      Bool.false_eq_true, if_false, Converters.none_key] at parsed
    cases fresh : (Item.toBody before).properties.any
      (·.key == stream.head.value) with
    | true => exact absurd parsed (addProperty_of_taken fresh)
    | false =>
        rw [addProperty_of_fresh fresh] at parsed
        cases parsed
        have isDistinct (property : Property)
            (isKey : property.key = stream.head.value) :
            Item.Distinct (before ++ [.property property]) :=
          (Item.distinct_property _ _).mpr ⟨distinct, by rw [isKey]; exact fresh⟩
        rcases sign with ⟨signKind, rfl⟩ | ⟨signKind, rfl⟩
        · exact ⟨_, _, passes, .once _ _ kind signKind derived,
            Item.toBody_property _ _, isDistinct _ rfl⟩
        · exact ⟨_, _, passes, .live _ _ kind signKind derived,
            Item.toBody_property _ _, isDistinct _ rfl⟩
  · simp only [kind, beq_self_eq_true, if_true, Converters.none_key] at parsed
    obtain ⟨⟨handler, isText⟩, rfl, fresh⟩ := addSignal_eq_ok parsed
    rw [addSignal_of_fresh isText fresh] at parsed
    cases parsed
    cases value <;> cases isText
    rcases sign with ⟨signKind, -⟩ | ⟨-, isLive⟩
    · exact ⟨_, _, passes, .signal _ _ kind signKind derived,
        Item.toBody_signal _ _,
        (Item.distinct_signal _ _).mpr ⟨distinct, fresh⟩⟩
    · cases isLive

/-- Entries add a group of items to the body. -/
theorem entries_sound :
    ∀ {depth : Nat} {before : List Item} {result : Body}
        {stream rest : TokenStream},
      stream.final.kind = .endOfInput →
      (stream.head.kind = .name ∨ stream.head.kind = .signalName) →
      Item.Distinct before →
      entries .none depth (Item.toBody before) stream = .ok (result, rest) →
      ∃ passed items,
        stream.Passes passed rest ∧ DerivesKeyValues passed items ∧
        result = Item.toBody (before ++ items) ∧
        Item.Distinct (before ++ items) := by
  intro depth
  induction depth with
  | zero =>
      intro before result stream rest _ _ _ parsed
      rw [entries] at parsed
      exact absurd parsed failHere_ne_ok
  | succ depth induction =>
      intro before result stream rest ends keyKind distinct parsed
      rw [entries] at parsed
      obtain ⟨collected, afterEntry, entryRead, parsed⟩ := bind_eq_ok.mp parsed
      obtain ⟨tokens, item, entryPasses, derived, rfl, entryDistinct⟩ :=
        entry_sound ends keyKind distinct entryRead
      have entryEnds : afterEntry.final.kind = .endOfInput := by
        rw [entryPasses.final, ends]
      simp only [bind_apply peek, peek_apply, beq_iff_eq] at parsed
      split at parsed
      case isFalse =>
        cases parsed
        exact ⟨tokens, [item], entryPasses, .last derived, rfl, entryDistinct⟩
      case isTrue commaKind =>
        have commaPasses := TokenStream.passes_tail entryEnds (by simp [commaKind])
        have bothPass := entryPasses.trans commaPasses
        simp only [bind_apply next, next_apply, bind_apply peek, peek_apply,
          Bool.or_eq_true, beq_iff_eq] at parsed
        split at parsed
        case isTrue nextKind =>
          obtain ⟨passed, others, othersPass, othersDerived, equal, allDistinct⟩ :=
            induction (by rw [bothPass.final, ends]) nextKind entryDistinct parsed
          refine ⟨_, item :: others, bothPass.trans othersPass, ?_,
            by simpa using equal, by simpa using allDistinct⟩
          simpa using DerivesKeyValues.cons _ commaKind derived othersDerived
        case isFalse =>
          cases parsed
          exact ⟨_, [item], bothPass, .trailing _ commaKind derived, rfl,
            entryDistinct⟩

/-! ## Components and loops -/

/-- A group of entries holds a property or a signal. -/
theorem DerivesKeyValues.notNested {tokens : List Token} {items : List Item}
    (derived : DerivesKeyValues tokens items) :
    ¬ (items.filterMap Item.property? = [] ∧
      items.filterMap Item.signal? = []) := by
  have single {tokens : List Token} {item : Item}
      (derived : DerivesEntry tokens item) (others : List Item) :
      ¬ ((item :: others).filterMap Item.property? = [] ∧
        (item :: others).filterMap Item.signal? = []) := by
    cases derived <;> simp [List.filterMap_cons, Item.property?, Item.signal?]
  cases derived with
  | last derived => exact single derived []
  | trailing _ _ derived => exact single derived []
  | cons _ _ derived othersDerived => exact single derived _

/-- A body without properties and signals may be the body of a loop. -/
theorem DerivesItems.nested :
    ∀ {scope : Scope} {tokens : List Token} {aliases : List String}
        {items : List Item},
      DerivesItems scope tokens aliases items →
      items.filterMap Item.property? = [] →
      items.filterMap Item.signal? = [] →
      DerivesItems .loop tokens aliases items
  | _, _, _, _, .nil, _, _ => .nil
  | _, _, _, _, .component derived othersDerived, noProperty, noSignal =>
      .component derived (othersDerived.nested
        (by simpa [List.filterMap_cons, Item.property?] using noProperty)
        (by simpa [List.filterMap_cons, Item.signal?] using noSignal))
  | _, _, _, _, .keyValues derived othersDerived, noProperty, noSignal => by
      rw [List.filterMap_append, List.append_eq_nil_iff] at noProperty noSignal
      exact absurd ⟨noProperty.1, noSignal.1⟩ derived.notNested
  | _, _, _, _, .each derived othersDerived, noProperty, noSignal =>
      .each derived (othersDerived.nested
        (by simpa [List.filterMap_cons, Item.property?] using noProperty)
        (by simpa [List.filterMap_cons, Item.signal?] using noSignal))

/-- The statements of soundness for the parsers of bodies that nest at most
`depth` deep. -/
structure SoundBody (depth : Nat) : Prop where
  body : ∀ (before : List Item) {result : Body} {stream rest : TokenStream},
      stream.final.kind = .endOfInput → Item.Distinct before →
      Parser.body .none depth (Item.toBody before) stream = .ok (result, rest) →
      ∃ passed names items,
        stream.Declares passed names rest ∧
        DerivesItems .component passed names items ∧
        result = Item.toBody (before ++ items) ∧
        Item.Distinct (before ++ items) ∧ rest.head.kind = .rightBrace
  component : ∀ {result : Component} {stream rest : TokenStream},
    stream.final.kind = .endOfInput →
      Parser.component .none depth stream = .ok (result, rest) →
        ∃ passed names,
          stream.Declares passed names rest ∧ DerivesComponent passed names result
  loop : ∀ {result : Loop} {stream rest : TokenStream},
    stream.final.kind = .endOfInput → stream.head.kind = .each →
      Parser.loop .none depth stream = .ok (result, rest) →
        ∃ passed names,
          stream.Declares passed names rest ∧ DerivesLoop passed names result

/-- A body is read item by item. -/
theorem SoundBody.body_succ {depth : Nat} (soundBody : SoundBody depth)
    {before : List Item} {result : Body} {stream rest : TokenStream}
    (ends : stream.final.kind = .endOfInput) (distinct : Item.Distinct before)
    (parsed :
      Parser.body .none (depth + 1) (Item.toBody before) stream =
        .ok (result, rest)) :
    ∃ passed names items,
      stream.Declares passed names rest ∧
      DerivesItems .component passed names items ∧
      result = Item.toBody (before ++ items) ∧
      Item.Distinct (before ++ items) ∧ rest.head.kind = .rightBrace := by
  rcases body_startsItem parsed with kind | kind | kind | kind
  · rw [body_closing kind] at parsed
    cases parsed
    refine ⟨[], [], [], (TokenStream.Passes.refl stream).declares, .nil, by
      simp, ?_, kind⟩
    simpa using distinct
  · rw [body_child kind] at parsed
    obtain ⟨child, middle, childRead, parsed⟩ := bind_eq_ok.mp parsed
    obtain ⟨tokens, names, childDeclares, derived⟩ :=
      soundBody.component ends childRead
    rw [Item.toBody_child] at parsed
    obtain ⟨passed, otherNames, others, othersDeclare, othersDerived, equal,
      allDistinct, closes⟩ :=
      soundBody.body _ (by rw [childDeclares.final, ends])
        ((Item.distinct_child before child).mpr distinct) parsed
    refine ⟨_, _, .child child :: others, childDeclares.trans othersDeclare,
      .component derived othersDerived, ?_, ?_, closes⟩
    · simpa using equal
    · simpa using allDistinct
  · rw [body_entries kind] at parsed
    obtain ⟨collected, middle, entriesRead, parsed⟩ := bind_eq_ok.mp parsed
    obtain ⟨tokens, items, entriesPass, derived, rfl, entriesDistinct⟩ :=
      entries_sound ends kind distinct entriesRead
    obtain ⟨passed, names, others, othersDeclare, othersDerived, equal,
      allDistinct, closes⟩ :=
      soundBody.body _ (by rw [entriesPass.final, ends]) entriesDistinct parsed
    refine ⟨_, _, items ++ others, entriesPass.declares.trans othersDeclare,
      .keyValues derived othersDerived, ?_, ?_, closes⟩
    · simpa using equal
    · simpa using allDistinct
  · rw [body_each kind] at parsed
    obtain ⟨inner, middle, loopRead, parsed⟩ := bind_eq_ok.mp parsed
    obtain ⟨tokens, names, loopDeclares, derived⟩ :=
      soundBody.loop ends kind loopRead
    rw [Item.toBody_loop] at parsed
    obtain ⟨passed, otherNames, others, othersDeclare, othersDerived, equal,
      allDistinct, closes⟩ :=
      soundBody.body _ (by rw [loopDeclares.final, ends])
        ((Item.distinct_loop before inner).mpr distinct) parsed
    refine ⟨_, _, .loop inner :: others, loopDeclares.trans othersDeclare,
      .each derived othersDerived, ?_, ?_, closes⟩
    · simpa using equal
    · simpa using allDistinct

/-- The alias before a component is declared, and the component read after it. -/
theorem aliasSign_sound {stream rest : TokenStream} {aliasName : Option String}
    (ends : stream.final.kind = .endOfInput)
    (parsed : aliasSign? stream = .ok (aliasName, rest)) :
    (aliasName = none ∧ rest = stream) ∨
      ∃ sign colon,
        sign.kind = .aliasRef ∧ colon.kind = .colon ∧
          aliasName = some (withoutSign sign.value) ∧
            stream.Declares [sign, colon] [withoutSign sign.value] rest := by
  by_cases kind : stream.head.kind = .aliasRef
  · right
    have signPasses := TokenStream.passes_tail ends (by simp [kind])
    rw [aliasSign?_present kind] at parsed
    obtain ⟨colon, afterColon, colonRead, parsed⟩ := bind_eq_ok.mp parsed
    obtain ⟨colonKind, colonPasses⟩ :=
      expect_eq_ok (by rw [signPasses.final, ends]) (by simp) colonRead
    obtain ⟨_, declared, declaration, finished⟩ := bind_eq_ok.mp parsed
    obtain ⟨fresh, rfl⟩ := declareAlias_eq_ok declaration
    cases finished
    have bothDeclare := (signPasses.trans colonPasses).declares
    refine ⟨stream.head, colon, kind, colonKind, rfl, bothDeclare.upcoming, ?_, ?_⟩
    · rw [bothDeclare.rest_eq]
      simp
    · intro distinct
      rw [TokenStream.declare_aliases, Item.nodup_append_singleton]
      refine ⟨bothDeclare.distinct distinct, List.any_eq_false.mpr ?_⟩
      intro name member equal
      exact fresh (beq_iff_eq.mp equal ▸ member)
  · left
    rw [aliasSign?_missing kind] at parsed
    cases parsed
    exact ⟨rfl, rfl⟩

/-- A component is its head with the items of its body. -/
theorem SoundBody.component_succ {depth : Nat} (soundBody : SoundBody depth)
    {result : Component} {stream rest : TokenStream}
    (ends : stream.final.kind = .endOfInput)
    (parsed : Parser.component .none (depth + 1) stream = .ok (result, rest)) :
    ∃ passed names,
      stream.Declares passed names rest ∧
      DerivesComponent passed names result := by
  rw [Parser.component] at parsed
  obtain ⟨aliasName, afterAlias, aliasRead, parsed⟩ := bind_eq_ok.mp parsed
  have aliasEnds : afterAlias.final.kind = .endOfInput := by
    rcases aliasSign_sound ends aliasRead with ⟨-, rfl⟩ | ⟨_, _, _, _, _, declares⟩
    · exact ends
    · rw [declares.final, ends]
  obtain ⟨head, afterHead, headRead, parsed⟩ := bind_eq_ok.mp parsed
  obtain ⟨headKind, headPasses⟩ := expect_eq_ok aliasEnds (by simp) headRead
  have headEnds : afterHead.final.kind = .endOfInput := by
    rw [headPasses.final, aliasEnds]
  obtain ⟨opening, afterOpening, openingRead, parsed⟩ := bind_eq_ok.mp parsed
  obtain ⟨openingKind, openingPasses⟩ := expect_eq_ok headEnds (by simp) openingRead
  have openingEnds : afterOpening.final.kind = .endOfInput := by
    rw [openingPasses.final, headEnds]
  obtain ⟨content, afterBody, bodyRead, parsed⟩ := bind_eq_ok.mp parsed
  obtain ⟨tokens, names, items, bodyDeclares, derived, equal, distinct, -⟩ :=
    soundBody.body [] openingEnds Item.distinct_nil bodyRead
  have bodyEnds : afterBody.final.kind = .endOfInput := by
    rw [bodyDeclares.final, openingEnds]
  obtain ⟨closing, afterClosing, closingRead, parsed⟩ := bind_eq_ok.mp parsed
  obtain ⟨closingKind, closingPasses⟩ := expect_eq_ok bodyEnds (by simp) closingRead
  rw [List.nil_append] at equal distinct
  subst equal
  cases parsed
  have blockDeclares :
      afterAlias.Declares (head :: opening :: tokens ++ [closing]) names rest := by
    simpa using ((headPasses.trans openingPasses).declares.trans bodyDeclares).trans
      closingPasses.declares
  rcases aliasSign_sound ends aliasRead with
    ⟨rfl, rfl⟩ | ⟨sign, colon, signKind, colonKind, rfl, aliasDeclares⟩
  · exact ⟨_, _, blockDeclares,
      .plain head opening closing headKind openingKind closingKind derived distinct⟩
  · exact ⟨_, _, aliasDeclares.trans blockDeclares,
      .aliased sign colon head opening closing signKind colonKind headKind
      openingKind closingKind derived distinct⟩

/-- Everything of a loop before its body passes tokens only. -/
theorem loopHead_sound {depth : Nat} {stream rest : TokenStream} {β : Type}
    {result : β} {further : Token → Expr → Token → Token → Token → Parser β}
    (ends : stream.final.kind = .endOfInput)
    (keywordKind : stream.head.kind = .each)
    (parsed :
      (do
        let keyword ← next
        let source ← Parser.expression .none depth
        let _ ← expect .using
        let itemType ← expect .component
        let _ ← expect .leftBrace
        let _ ← expect .pipe
        let indexName ← expect .name
        let _ ← expect .comma
        let valueName ← expect .name
        let _ ← expect .pipe
        further keyword source itemType indexName valueName : Parser β) stream =
        .ok (result, rest)) :
    ∃ sourceTokens source usingWord itemType opening firstPipe index comma value
    secondPipe middle,
      stream.Passes
        (stream.head :: sourceTokens ++
          [usingWord, itemType, opening, firstPipe, index, comma, value,
            secondPipe]) middle ∧
        Derives 0 sourceTokens source ∧ usingWord.kind = .using ∧
          itemType.kind = .component ∧
          opening.kind = .leftBrace ∧ firstPipe.kind = .pipe ∧ index.kind = .name ∧
            comma.kind = .comma ∧ value.kind = .name ∧ secondPipe.kind = .pipe ∧
              further stream.head source itemType index value middle =
                .ok (result, rest) := by
  have keywordPasses := TokenStream.passes_tail ends (by simp [keywordKind])
  have keywordEnds : stream.tail.final.kind = .endOfInput := by
    rw [keywordPasses.final, ends]
  simp only [bind_apply next, next_apply] at parsed
  obtain ⟨source, usingWord, sourceTokens, afterUsing, sourcePasses, usingEnds,
      derived, usingKind, parsed⟩ :=
    (sound depth).followed keywordEnds (by simp) parsed
  obtain ⟨itemType, afterType, typeRead, parsed⟩ := bind_eq_ok.mp parsed
  obtain ⟨typeKind, typePasses⟩ := expect_eq_ok usingEnds (by simp) typeRead
  have typeEnds : afterType.final.kind = .endOfInput := by
    rw [typePasses.final, usingEnds]
  obtain ⟨opening, afterOpening, openingRead, parsed⟩ := bind_eq_ok.mp parsed
  obtain ⟨openingKind, openingPasses⟩ := expect_eq_ok typeEnds (by simp) openingRead
  have openingEnds : afterOpening.final.kind = .endOfInput := by
    rw [openingPasses.final, typeEnds]
  obtain ⟨firstPipe, afterFirst, firstRead, parsed⟩ := bind_eq_ok.mp parsed
  obtain ⟨firstKind, firstPasses⟩ := expect_eq_ok openingEnds (by simp) firstRead
  have firstEnds : afterFirst.final.kind = .endOfInput := by
    rw [firstPasses.final, openingEnds]
  obtain ⟨index, afterIndex, indexRead, parsed⟩ := bind_eq_ok.mp parsed
  obtain ⟨indexKind, indexPasses⟩ := expect_eq_ok firstEnds (by simp) indexRead
  have indexEnds : afterIndex.final.kind = .endOfInput := by
    rw [indexPasses.final, firstEnds]
  obtain ⟨comma, afterComma, commaRead, parsed⟩ := bind_eq_ok.mp parsed
  obtain ⟨commaKind, commaPasses⟩ := expect_eq_ok indexEnds (by simp) commaRead
  have commaEnds : afterComma.final.kind = .endOfInput := by
    rw [commaPasses.final, indexEnds]
  obtain ⟨value, afterValue, valueRead, parsed⟩ := bind_eq_ok.mp parsed
  obtain ⟨valueKind, valuePasses⟩ := expect_eq_ok commaEnds (by simp) valueRead
  have valueEnds : afterValue.final.kind = .endOfInput := by
    rw [valuePasses.final, commaEnds]
  obtain ⟨secondPipe, afterSecond, secondRead, parsed⟩ := bind_eq_ok.mp parsed
  obtain ⟨secondKind, secondPasses⟩ := expect_eq_ok valueEnds (by simp) secondRead
  refine ⟨sourceTokens, source, usingWord, itemType, opening, firstPipe, index,
    comma, value, secondPipe, afterSecond, ?_, derived, usingKind, typeKind,
    openingKind, firstKind, indexKind, commaKind, valueKind, secondKind, parsed⟩
  have typed := (keywordPasses.trans sourcePasses).trans typePasses
  have indexed := ((typed.trans openingPasses).trans firstPasses).trans indexPasses
  simpa using ((indexed.trans commaPasses).trans valuePasses).trans secondPasses

/-- A loop is its head with the items of its body, which holds no entries. -/
theorem SoundBody.loop_succ {depth : Nat} (soundBody : SoundBody depth)
    {result : Loop} {stream rest : TokenStream}
    (ends : stream.final.kind = .endOfInput)
    (keywordKind : stream.head.kind = .each)
    (parsed : Parser.loop .none (depth + 1) stream = .ok (result, rest)) :
    ∃ passed names,
      stream.Declares passed names rest ∧ DerivesLoop passed names result := by
  rw [Parser.loop] at parsed
  obtain ⟨sourceTokens, source, usingWord, itemType, opening, firstPipe, index,
    comma, value, secondPipe, afterHead, headPasses, sourceDerived, usingKind,
    typeKind, openingKind, firstKind, indexKind, commaKind, valueKind,
    secondKind, parsed⟩ :=
    loopHead_sound ends keywordKind parsed
  have headEnds : afterHead.final.kind = .endOfInput := by
    rw [headPasses.final, ends]
  obtain ⟨content, afterBody, bodyRead, parsed⟩ := bind_eq_ok.mp parsed
  obtain ⟨tokens, names, items, bodyDeclares, derived, equal, -, -⟩ :=
    soundBody.body [] headEnds Item.distinct_nil bodyRead
  obtain ⟨closing, afterClosing, closingRead, parsed⟩ := bind_eq_ok.mp parsed
  obtain ⟨closingKind, closingPasses⟩ :=
    expect_eq_ok (by rw [bodyDeclares.final, headEnds]) (by simp) closingRead
  rw [List.nil_append] at equal
  subst equal
  have noEntries : items.filterMap Item.property? = [] ∧
      items.filterMap Item.signal? = [] ∧
      .ok (Item.toLoop stream.head itemType index value closing source items,
        afterClosing) = (.ok (result, rest) : Except ParseError _) := by
    simp only [Item.toBody] at parsed
    cases properties : items.filterMap Item.property? with
    | cons property others =>
        simp only [properties] at parsed
        exact absurd parsed fail_ne_ok
    | nil =>
        cases signals : items.filterMap Item.signal? with
        | cons signal others =>
            simp only [properties, signals] at parsed
            exact absurd parsed fail_ne_ok
        | nil =>
            simp only [properties, signals] at parsed
            exact ⟨rfl, rfl, parsed⟩
  obtain ⟨noProperty, noSignal, finished⟩ := noEntries
  cases finished
  refine ⟨_, names, ?_,
    .each stream.head usingWord itemType opening firstPipe index comma value
    secondPipe closing keywordKind sourceDerived usingKind typeKind openingKind
    firstKind indexKind commaKind valueKind secondKind closingKind
    (derived.nested noProperty noSignal)⟩
  simpa using (headPasses.declares.trans bodyDeclares).trans closingPasses.declares

/-- The parser of bodies is sound however deeply it may nest. -/
theorem soundBody : ∀ depth : Nat, SoundBody depth
  | 0 =>
    { body := fun _ _ _ _ _ _ parsed => by
        rw [Parser.body] at parsed
        exact absurd parsed failHere_ne_ok
      component := fun _ parsed => by
        rw [Parser.component] at parsed
        exact absurd parsed failHere_ne_ok
      loop := fun _ _ parsed => by
        rw [Parser.loop] at parsed
        exact absurd parsed failHere_ne_ok }
  | depth + 1 =>
    { body := fun _ => (soundBody depth).body_succ
      component := (soundBody depth).component_succ
      loop := (soundBody depth).loop_succ }

/-! ## Documents -/

/-- Imports are read one by one, and have different module names. -/
theorem imports_sound :
    ∀ {bound : Nat} {before result : List Import} {stream rest : TokenStream},
      stream.final.kind = .endOfInput → (before.map Import.moduleName).Nodup →
      imports bound before stream = .ok (result, rest) →
      ∃ passed others,
        stream.Passes passed rest ∧ DerivesImports passed others ∧
        result = before ++ others ∧ (result.map Import.moduleName).Nodup := by
  intro bound
  induction bound with
  | zero =>
      intro before result stream rest _ distinct parsed
      cases parsed
      exact ⟨[], [], .refl stream, .nil, by simp, distinct⟩
  | succ bound induction =>
      intro before result stream rest ends distinct parsed
      rw [imports] at parsed
      simp only [bind_apply peek, peek_apply, Bool.or_eq_true, beq_iff_eq] at parsed
      split at parsed
      case isFalse =>
        cases parsed
        exact ⟨[], [], .refl stream, .nil, by simp, distinct⟩
      case isTrue keywordKind =>
        have keywordPasses := TokenStream.passes_tail ends
          (by rcases keywordKind with kind | kind <;> simp [kind])
        simp only [bind_apply next, next_apply] at parsed
        obtain ⟨name, afterName, nameRead, parsed⟩ := bind_eq_ok.mp parsed
        obtain ⟨nameKind, namePasses⟩ :=
          expect_eq_ok (by rw [keywordPasses.final, ends]) (by simp) nameRead
        have bothPass := keywordPasses.trans namePasses
        split at parsed
        case isTrue => exact absurd parsed fail_ne_ok
        case isFalse fresh =>
          have stillDistinct (added : Import)
              (named : added.moduleName = name.value) :
              ((before ++ [added]).map Import.moduleName).Nodup := by
            rw [List.map_append, List.map_singleton,
              Item.nodup_append_singleton, named]
            exact ⟨distinct, by simpa [List.any_map] using fresh⟩
          obtain ⟨passed, others, othersPass, othersDerived, equal, allDistinct⟩ :=
            induction (by rw [bothPass.final, ends]) (stillDistinct _ rfl) parsed
          refine ⟨_, _, bothPass.trans othersPass,
            .cons _ _ keywordKind nameKind othersDerived, ?_, allDistinct⟩
          simpa using equal

/-- A directive that was read is one of the grammar, and so is none. -/
theorem controllerDirective_sound {stream rest : TokenStream}
    {controller : Option String} (ends : stream.final.kind = .endOfInput)
    (parsed : controllerDirective? stream = .ok (controller, rest)) :
    ∃ passed,
      stream.Passes passed rest ∧ DerivesController passed controller := by
  rw [controllerDirective?] at parsed
  simp only [bind_apply peek, peek_apply, beq_iff_eq] at parsed
  split at parsed
  case isFalse =>
    cases parsed
    exact ⟨[], .refl stream, .missing⟩
  case isTrue keywordKind =>
    have keywordPasses := TokenStream.passes_tail ends (by simp [keywordKind])
    simp only [bind_apply next, next_apply] at parsed
    obtain ⟨name, afterName, nameRead, finished⟩ := bind_eq_ok.mp parsed
    obtain ⟨nameKind, namePasses⟩ :=
      expect_eq_ok (by rw [keywordPasses.final, ends]) (by simp) nameRead
    cases finished
    exact ⟨_, keywordPasses.trans namePasses, .directive _ _ keywordKind nameKind⟩

/-- A document that is returned is derived by the tokens up to the end of the
input. -/
theorem document_sound {depth : Nat} {document : Document}
    {stream rest : TokenStream} (ends : stream.final.kind = .endOfInput)
    (fresh : stream.aliases = [])
    (parsed : Parser.document .none depth stream = .ok (document, rest)) :
    ∃ tokens,
      stream.upcoming = tokens ++ rest.upcoming ∧
      (rest.upcoming.headD stream.final).kind = .endOfInput ∧
      DerivesDocument tokens document := by
  rw [Parser.document] at parsed
  obtain ⟨imports, afterImports, importsRead, parsed⟩ := bind_eq_ok.mp parsed
  obtain ⟨importTokens, found, importsPass, importsDerived, equal,
    importsDistinct⟩ :=
    imports_sound ends (by simp) importsRead
  rw [List.nil_append] at equal
  subst equal
  have importsEnd : afterImports.final.kind = .endOfInput := by
    rw [importsPass.final, ends]
  obtain ⟨controller, afterController, controllerRead, parsed⟩ :=
    bind_eq_ok.mp parsed
  obtain ⟨controllerTokens, controllerPasses, controllerDerived⟩ :=
    controllerDirective_sound importsEnd controllerRead
  have controllerEnds : afterController.final.kind = .endOfInput := by
    rw [controllerPasses.final, importsEnd]
  simp only [bind_apply peek, peek_apply, beq_iff_eq] at parsed
  split at parsed
  case isTrue => exact absurd parsed failHere_ne_ok
  case isFalse =>
    obtain ⟨root, afterRoot, rootRead, parsed⟩ := bind_eq_ok.mp parsed
    obtain ⟨rootTokens, names, rootDeclares, rootDerived⟩ :=
      (soundBody depth).component controllerEnds rootRead
    simp only [bind_apply peek, peek_apply] at parsed
    split at parsed
    case isFalse => exact absurd parsed unexpected_ne_ok
    case isTrue atEnd =>
      have declares :=
        (importsPass.trans controllerPasses).declares.trans rootDeclares
      have aliases : afterRoot.aliases = names := by
        rw [declares.aliases, fresh]
        rfl
      have distinct : names.Nodup := by
        rw [← aliases]
        exact declares.distinct (by simp [fresh])
      cases parsed
      refine ⟨importTokens ++ controllerTokens ++ rootTokens,
        declares.upcoming, ?_, ?_⟩
      · rw [← declares.final]
        exact atEnd
      · subst aliases
        exact .document importsDerived importsDistinct controllerDerived
          rootDerived distinct

end LiveMarkup.Grammar
