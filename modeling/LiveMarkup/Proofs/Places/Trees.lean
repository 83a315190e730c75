import LiveMarkup.Proofs.Grammar.DocumentExactness
import LiveMarkup.Proofs.Lexing.Positions
import LiveMarkup.Proofs.Lexing.Segmentation
import LiveMarkup.Proofs.Places.Expressions
import LiveMarkup.Proofs.Printing.RoundTrip
import LiveMarkup.Proofs.Results

/-!
# The spans of a source text nest

The items of a body stand over groups of its tokens, one behind the other, and
so do the items of one kind among them.  The head of a component or a loop
stands before its body and the closing brace behind it.

The main statement is about source texts: whatever is read from one, a document
or an expression, its spans nest in it.
-/

namespace LiveMarkup

open Grammar

variable {source : List Char} {tokens others : List Token}
  {items otherItems : List Item}
  {item : Item} {head closing : Token}

theorem Frames.sublist {outer : Span} {spans fewer : List Span}
    (frames : Frames outer spans) (sublist : fewer.Sublist spans) :
    Frames outer fewer where
  inside := fun inner member => frames.inside inner (sublist.subset member)
  ordered := frames.ordered.sublist sublist

theorem Component.nestAll_iff {components : List Component} :
    Component.NestAll source components ↔
      ∀ component ∈ components, component.Nests source := by
  induction components with
  | nil => simp [Component.NestAll]
  | cons component components induction => simp [Component.NestAll, induction]

theorem Loop.nestAll_iff {loops : List Loop} :
    Loop.NestAll source loops ↔ ∀ loop ∈ loops, loop.Nests source := by
  induction loops with
  | nil => simp [Loop.NestAll]
  | cons loop loops induction => simp [Loop.NestAll, induction]

/-! ## Items -/

def Grammar.Item.span : Item → Span
  | .property found => found.span
  | .signal found => found.span
  | .child found => found.span
  | .loop found => found.span

/-- The spans of an item and of everything in it. -/
def Grammar.Item.Nests (source : List Char) : Item → Prop
  | .property found => found.Nests source
  | .signal found => found.span.Fits source
  | .child found => found.Nests source
  | .loop found => found.Nests source

/-- Items over groups of tokens, one behind the other. -/
structure PlacedItems (source : List Char) (tokens : List Token)
    (items : List Item) : Prop where
  groups : ∃ groups, List.Forall₂ Covers groups (items.map Item.span) ∧
    groups.flatten.Sublist tokens
  nests : ∀ item ∈ items, item.Nests source

theorem PlacedItems.nil : PlacedItems source tokens [] :=
  ⟨⟨[], .nil, List.nil_sublist tokens⟩, nofun⟩

theorem PlacedItems.single (covers : Covers tokens item.span)
    (nests : item.Nests source) : PlacedItems source tokens [item] where
  groups := ⟨[tokens], .cons covers .nil, by simp⟩
  nests := by
    intro other member
    cases List.mem_singleton.mp member
    exact nests

theorem PlacedItems.append (first : PlacedItems source tokens items)
    (second : PlacedItems source others otherItems) :
    PlacedItems source (tokens ++ others) (items ++ otherItems) where
  groups := by
    obtain ⟨groups, covers, sublist⟩ := first.groups
    obtain ⟨otherGroups, otherCovers, otherSublist⟩ := second.groups
    refine ⟨groups ++ otherGroups, ?_, ?_⟩
    · rw [List.map_append]
      exact List.rel_append covers otherCovers
    · rw [List.flatten_append]
      exact sublist.append otherSublist
  nests := by
    intro item member
    rcases List.mem_append.mp member with before | behind
    · exact first.nests item before
    · exact second.nests item behind

theorem PlacedItems.mono (placed : PlacedItems source tokens items)
    (sublist : tokens.Sublist others) : PlacedItems source others items where
  groups := by
    obtain ⟨groups, covers, within⟩ := placed.groups
    exact ⟨groups, covers, within.trans sublist⟩
  nests := placed.nests

/-- The spans of the items of one kind are spans of items, in the same order. -/
theorem sublist_spans {α : Type} {select : Item → Option α} {spanOf : α → Span}
    (same : ∀ item found, select item = some found → item.span = spanOf found)
    (items : List Item) :
    ((items.filterMap select).map spanOf).Sublist (items.map Item.span) := by
  induction items with
  | nil => exact List.Sublist.slnil
  | cons item items induction =>
      rw [List.map_cons]
      cases selected : select item with
      | none =>
          rw [List.filterMap_cons_none selected]
          exact induction.cons _
      | some found =>
          rw [List.filterMap_cons_some selected, List.map_cons,
            same item found selected]
          exact induction.cons_cons _

/-! ## Bodies -/

/-- The items of a body between the head of a block and its closing brace. -/
structure PlacedBlock (source : List Char) (outer : Span) (items : List Item) :
    Prop where
  fits : outer.Fits source
  frames : Frames outer (items.map Item.span)
  nests : ∀ item ∈ items, item.Nests source

theorem PlacedItems.block (placed : PlacedItems source tokens items)
    (laid : Laid source (head :: tokens ++ [closing])) :
    PlacedBlock source (head.span.through closing.span) items where
  fits := (covers_closed laid).fits laid
  frames := by
    obtain ⟨groups, covers, sublist⟩ := placed.groups
    exact frames_of_groups covers laid sublist
  nests := placed.nests

/-- The items of one kind in a block: their spans are framed, and what they are
nests. -/
theorem PlacedBlock.selected {outer : Span}
    (block : PlacedBlock source outer items) {α : Type}
    (select : Item → Option α) (spanOf : α → Span) (good : α → Prop)
    (same :
      ∀ item found,
        select item = some found →
        item.span = spanOf found ∧ (item.Nests source → good found)) :
    Frames outer ((items.filterMap select).map spanOf) ∧
    ∀ found ∈ items.filterMap select, good found := by
  constructor
  · apply block.frames.sublist
    refine sublist_spans ?_ items
    intro item found selected
    exact (same item found selected).1
  · intro found member
    obtain ⟨item, among, selected⟩ := List.mem_filterMap.mp member
    exact (same item found selected).2 (block.nests item among)

/-- Children and loops, which stand in every block. -/
theorem PlacedBlock.nested {outer : Span} (block : PlacedBlock source outer items) :
    (Frames outer ((items.filterMap Item.child?).map Component.span) ∧
      Component.NestAll source (items.filterMap Item.child?)) ∧
    Frames outer ((items.filterMap Item.loop?).map Loop.span) ∧
      Loop.NestAll source (items.filterMap Item.loop?) := by
  rw [Component.nestAll_iff, Loop.nestAll_iff]
  constructor
  · refine block.selected Item.child? Component.span (Component.Nests source) ?_
    rintro (_ | _ | _ | _) found ⟨⟩
    exact ⟨rfl, id⟩
  · refine block.selected Item.loop? Loop.span (Loop.Nests source) ?_
    rintro (_ | _ | _ | _) found ⟨⟩
    exact ⟨rfl, id⟩

theorem PlacedBlock.component {aliasName : Option String}
    (block : PlacedBlock source (head.span.through closing.span) items) :
    (Item.toComponent head closing aliasName items).Nests source := by
  obtain ⟨⟨children, childrenNest⟩, loops, loopsNest⟩ := block.nested
  obtain ⟨properties, propertiesNest⟩ := block.selected Item.property? Property.span
    (Property.Nests source) (by rintro (_ | _ | _ | _) found ⟨⟩; exact ⟨rfl, id⟩)
  obtain ⟨signals, signalsFit⟩ := block.selected Item.signal? Signal.span
    (fun signal => signal.span.Fits source)
      (by rintro (_ | _ | _ | _) found ⟨⟩; exact ⟨rfl, id⟩)
  rw [Item.toComponent, Component.Nests]
  exact ⟨block.fits, properties, propertiesNest, signals, signalsFit, children,
    childrenNest, loops, loopsNest⟩

theorem PlacedBlock.loop {keyword itemType index value : Token}
    {collection : Expr}
    (block : PlacedBlock source (keyword.span.through closing.span) items)
    (inside : collection.span.Inside (keyword.span.through closing.span))
    (nests : Everywhere (Expr.Nests source) collection) :
    (Item.toLoop keyword itemType index value closing collection items).Nests
      source := by
  obtain ⟨⟨children, childrenNest⟩, loops, loopsNest⟩ := block.nested
  rw [Item.toLoop, Loop.Nests]
  exact ⟨block.fits, inside, nests, children, childrenNest, loops, loopsNest⟩

/-! ## Derived items -/

namespace Grammar

theorem DerivesEntry.placed (derived : DerivesEntry tokens item)
    (laid : Laid source tokens) : PlacedItems source tokens [item] := by
  have property {key sign : Token} {tokens : List Token} {value : Expr}
      {binding : Binding} (laid : Laid source (key :: sign :: tokens))
      (valueDerived : Derives 0 tokens value) :
      PlacedItems source (key :: sign :: tokens)
        [.property ⟨key.value, binding, value,
          key.span.through value.span⟩] := by
    have inner := valueDerived.placed laid.tail.tail
    have keyed : Covers [key] key.span := laid.covers (List.mem_cons_self ..)
    have valued : Covers (sign :: tokens) value.span :=
      inner.covers.mono (List.subset_cons_self ..)
    have covers := keyed.through valued laid
    exact .single covers ⟨covers.fits laid, keyed.inside_right valued laid,
      inner.nests⟩
  cases derived with
  | once key sign keyKind signKind valueDerived => exact property laid valueDerived
  | live key sign keyKind signKind valueDerived => exact property laid valueDerived
  | @signal tokens handler span key sign keyKind signKind valueDerived =>
      have inner := valueDerived.placed laid.tail.tail
      have keyed : Covers [key] key.span := laid.covers (List.mem_cons_self ..)
      have valued : Covers (sign :: tokens) span :=
        inner.covers.mono (List.subset_cons_self ..)
      have covers := keyed.through valued laid
      exact .single covers (covers.fits laid)

theorem DerivesKeyValues.placed (derived : DerivesKeyValues tokens items)
    (laid : Laid source tokens) : PlacedItems source tokens items := by
  induction derived with
  | last entryDerived => exact entryDerived.placed laid
  | trailing comma commaKind entryDerived =>
      exact (entryDerived.placed laid.left).mono (List.sublist_append_left ..)
  | cons comma commaKind entryDerived othersDerived induction =>
      have others :=
        (induction laid.right.tail).mono (List.sublist_cons_self comma _)
      exact (entryDerived.placed laid.left).append others

mutual

/-- The span of a derived component covers its tokens, and everything in it
nests. -/
theorem DerivesComponent.placed {tokens : List Token} {aliases : List String}
    {component : Component} (laid : Laid source tokens) :
    DerivesComponent tokens aliases component →
      Covers tokens component.span ∧ component.Nests source
  | .plain head opening closing _ _ _ derived _ => by
      have items := derived.placed laid.left.tail.tail
      have block := (items.mono (List.sublist_cons_self opening _)).block laid
      exact ⟨covers_closed laid, block.component⟩
  | .aliased sign colon head opening closing _ _ _ _ _ derived _ => by
      have unnamed := laid.tail.tail
      have items := derived.placed unnamed.left.tail.tail
      have block := (items.mono (List.sublist_cons_self opening _)).block unnamed
      refine ⟨(covers_closed unnamed).mono ?_, block.component⟩
      exact fun token member =>
        List.mem_cons_of_mem _ (List.mem_cons_of_mem _ member)

theorem DerivesItems.placed {scope : Scope} {tokens : List Token}
    {aliases : List String} {items : List Item} (laid : Laid source tokens) :
    DerivesItems scope tokens aliases items → PlacedItems source tokens items
  | .nil => .nil
  | .component derived othersDerived => by
      obtain ⟨covers, nests⟩ := derived.placed laid.left
      have child : PlacedItems source _ [Item.child _] := .single covers nests
      exact child.append (othersDerived.placed laid.right)
  | .keyValues derived othersDerived =>
      (derived.placed laid.left).append (othersDerived.placed laid.right)
  | .each derived othersDerived => by
      obtain ⟨covers, nests⟩ := derived.placed laid.left
      have loop : PlacedItems source _ [Item.loop _] := .single covers nests
      exact loop.append (othersDerived.placed laid.right)

theorem DerivesLoop.placed {tokens : List Token} {aliases : List String}
    {loop : Loop} (laid : Laid source tokens) :
    DerivesLoop tokens aliases loop →
    Covers tokens loop.span ∧ loop.Nests source
  | @DerivesLoop.each sourceTokens tokens _ collection _ keyword usingWord
      itemType opening firstPipe index comma value secondPipe closing _
      sourceDerived _ _ _ _ _ _ _ _ _ derived => by
      let itemHead :=
        [usingWord, itemType, opening, firstPipe, index, comma,
          value, secondPipe]
      have closed :
          Laid source (keyword :: (sourceTokens ++ (itemHead ++ tokens)) ++
            [closing]) :=
        laid
      have within := closed.left.tail
      have inner := sourceDerived.placed within.left
      have items := derived.placed within.right.right
      have sublist : tokens.Sublist (sourceTokens ++ (itemHead ++ tokens)) :=
        (List.sublist_append_right itemHead tokens).trans
          (List.sublist_append_right sourceTokens _)
      have block := (items.mono sublist).block closed
      have among :=
        inner.covers.mono (List.subset_append_left sourceTokens
          (itemHead ++ tokens))
      exact ⟨covers_closed closed,
        block.loop (among.inside_closed closed) inner.nests⟩

end

end Grammar

/-! ## Source texts -/

/-- The tokens of a source text, up to its end, stand in it one behind the other. -/
theorem laid_of_tokenize {source : String} {tokens : List Token}
    (lexed : tokenize markupRules source = .ok tokens) :
    ∃ written,
      tokens = written ++ [endToken source.toList] ∧
      Laid source.toList written := by
  rcases scans_of_tokenize markupRules source with ⟨written, scans, found⟩ |
    ⟨written, taken, char, left, scans, parts, stuck, failed⟩
  · rw [lexed] at found
    cases found
    have segmentation :
        Segmentation source.toList 0 source.toList.length written := by
      simpa using scans.segmentation (List.append_nil source.toList).symm
    refine ⟨written, rfl, fun token member => ?_, segmentation.ordered⟩
    obtain ⟨-, some, within⟩ := segmentation.within token member
    exact ⟨some, within, scans.exactPositions token member⟩
  · rw [lexed] at failed
    cases failed

/-- Whatever is read from a source text, its spans nest: every node has a span
that covers some of the source, with the exact position of its beginning, and
frames the spans of what is in it, each kind in source order. -/
theorem read_spans_nest (source : String) :
    (∀ document, Document.read .none source = .ok document →
      document.root.Nests source.toList) ∧
    (∀ expr, Expr.read .none source = .ok expr →
      Everywhere (Expr.Nests source.toList) expr) := by
  cases lexed : tokenize markupRules source with
  | error error =>
      constructor
      · intro document read
        simp [Document.read, Parser.run, lexed, Except.map] at read
      · intro expr read
        simp [Expr.read, Parser.run, lexed, Except.map] at read
  | ok tokens =>
      obtain ⟨written, rfl, laid⟩ := laid_of_tokenize lexed
      constructor
      · intro document read
        rw [read_eq_readTokens lexed, readTokens_eq_ok_iff rfl] at read
        obtain ⟨tokens, ⟨remaining, rfl, -⟩, derived⟩ := read
        cases derived with
        | document _ _ _ rootDerived _ =>
          exact (rootDerived.placed laid.left.right).2
      · intro expr read
        rw [Expr.read_eq_ok_iff lexed rfl] at read
        obtain ⟨tokens, ⟨remaining, rfl, -⟩, derived⟩ := read
        exact (derived.placed laid.left).nests

/-- A component with a loop over a global. -/
def framedSource : String :=
  "Box\x7beach $l using Row\x7b|i,v|Cell\x7bp:=v\x7d\x7d\x7d"

/-- A product of two groups. -/
def productSource : String := "(x+1)*(!$y.z)"

/-- The tree of that product. -/
def productTree : Expr :=
  .applyInfix .mul (.applyInfix .add (.reference (.local "x" ⟨1, 2, ⟨1, 2⟩⟩))
    (.int 1 ⟨3, 4, ⟨1, 4⟩⟩) true ⟨1, 4, ⟨1, 2⟩⟩)
    (.applyPrefix .not
      (.reference (.property (.global "$y" ⟨8, 10, ⟨1, 9⟩⟩) "z"
        ⟨8, 12, ⟨1, 9⟩⟩)) true ⟨7, 12, ⟨1, 8⟩⟩) false ⟨1, 12, ⟨1, 2⟩⟩

set_option maxRecDepth 20000 in
theorem read_spans_nest_framed :
    (∃ document, Document.read .none framedSource = .ok document ∧
      document.root.Nests framedSource.toList) ∧
    Expr.read .none productSource = .ok productTree ∧
      Everywhere (Expr.Nests productSource.toList) productTree := by
  have accepted : (Document.read .none framedSource).isOk = true := by cbv
  obtain ⟨document, framed⟩ := exists_eq_ok accepted
  have read : Expr.read .none productSource = .ok productTree := by cbv
  exact ⟨⟨document, framed, (read_spans_nest framedSource).1 document framed⟩,
    read, (read_spans_nest productSource).2 productTree read⟩

end LiveMarkup
