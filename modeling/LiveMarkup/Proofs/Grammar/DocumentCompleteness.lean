import LiveMarkup.Proofs.Grammar.DocumentSoundness
import LiveMarkup.Proofs.Grammar.ExpressionCompleteness

/-!
# Derivable documents are parsed

The other direction: whatever the grammar derives, the document parser reads,
provided that it may nest deeply enough.

Entries are where the grammar and the parser differ in shape.  A derivation may
end a group of entries with a comma and start the next group with a key; the
parser reads on in one go.  Reading the items of a body is therefore described
twice, from the body and from the middle of a group of entries.
-/

namespace LiveMarkup.Grammar

open LiveMarkup.Parser

/-! ## What it means to be read -/

/-- The tokens of a component are read as that component, declaring its aliases. -/
def ReadsComponent (tokens : List Token) (names : List String)
    (result : Component) : Prop :=
  ∀ (depth : Nat) (stream : TokenStream) (remaining : List Token),
    2 * tokens.length ≤ depth → stream.upcoming = tokens ++ remaining →
      (stream.aliases ++ names).Nodup →
        (stream.head.kind = .component ∨ stream.head.kind = .aliasRef) ∧
          component .none depth stream =
            .ok (result, (stream.pass tokens remaining).declare names)

/-- The tokens of a loop are read as that loop, declaring the aliases in it. -/
def ReadsLoop (tokens : List Token) (names : List String) (result : Loop) : Prop :=
  ∀ (depth : Nat) (stream : TokenStream) (remaining : List Token),
    2 * tokens.length ≤ depth → stream.upcoming = tokens ++ remaining →
    (stream.aliases ++ names).Nodup →
    stream.head.kind = .each ∧ loop .none depth stream =
    .ok (result, (stream.pass tokens remaining).declare names)

/-- A stream stands before the tokens of further items of a body, up to its
closing brace. -/
structure StandsBefore (stream : TokenStream) (tokens remaining : List Token)
    (names : List String) (before items : List Item) : Prop where
  upcoming : stream.upcoming = tokens ++ remaining
  closes : (remaining.headD stream.final).kind = .rightBrace
  distinct : Item.Distinct (before ++ items)
  fresh : (stream.aliases ++ names).Nodup

/-- The tokens of items are read as those items, from the body or from within
entries. -/
structure ReadsItems (tokens : List Token) (names : List String)
    (items : List Item) : Prop where
  body :
      ∀ (depth : Nat) {before : List Item} {stream : TokenStream}
          {remaining : List Token},
        2 * tokens.length < depth →
        StandsBefore stream tokens remaining names before items →
        Parser.body .none depth (Item.toBody before) stream =
          .ok (Item.toBody (before ++ items),
            (stream.pass tokens remaining).declare names)
  entries :
      ∀ (inner outer : Nat) {before : List Item} {stream : TokenStream}
          {remaining : List Token},
        2 * tokens.length ≤ inner → 2 * tokens.length ≤ outer →
        StandsBefore stream tokens remaining names before items →
        (stream.head.kind = .name ∨ stream.head.kind = .signalName) →
        (Parser.entries .none inner (Item.toBody before) >>=
          Parser.body .none outer) stream =
          .ok (Item.toBody (before ++ items),
            (stream.pass tokens remaining).declare names)

namespace StandsBefore

variable {stream : TokenStream} {otherTokens remaining : List Token}
  {otherNames : List String} {before others : List Item}

/-- Behind the tokens of the first items, the stream stands before those of the
others. -/
theorem passed (tokens : List Token) (names : List String) (items : List Item)
    (stands :
      StandsBefore stream (tokens ++ otherTokens) remaining
        (names ++ otherNames) before (items ++ others)) :
    StandsBefore ((stream.pass tokens (otherTokens ++ remaining)).declare names)
      otherTokens remaining otherNames (before ++ items) others := by
  refine ⟨rfl, stands.closes, ?_, ?_⟩
  · rw [List.append_assoc]
    exact stands.distinct
  · rw [TokenStream.declare_aliases, TokenStream.pass_aliases, List.append_assoc]
    exact stands.fresh

/-- The aliases of the first items are fresh. -/
theorem freshFirst {tokens : List Token} {names : List String}
    {items : List Item}
    (stands :
      StandsBefore stream tokens remaining (names ++ otherNames) before items) :
    (stream.aliases ++ names).Nodup := by
  have fresh := stands.fresh
  rw [← List.append_assoc] at fresh
  exact (List.nodup_append.mp fresh).1

theorem distinctFirst {tokens : List Token} {names : List String}
    (items : List Item)
    (stands :
      StandsBefore stream tokens remaining names before (items ++ others)) :
    Item.Distinct (before ++ items) := by
  have distinct := stands.distinct
  rw [← List.append_assoc] at distinct
  exact distinct.of_append

end StandsBefore

/-! ## Entries -/

/-- A token that ends the value of an entry. -/
def EndsEntry (kind : TokenKind) : Prop :=
  kind ≠ .operator ∧ kind ≠ .leftParen ∧ kind ≠ .dot

theorem endsEntry_of_startsItem {kind : TokenKind}
    (starts : kind = .rightBrace ∨ StartsItem kind) :
    EndsEntry kind ∧ kind ≠ .comma := by
  rcases starts with rfl | (rfl | rfl) | (rfl | rfl) | rfl <;>
    exact ⟨⟨by decide, by decide, by decide⟩, by decide⟩

/-- An entry is read and its item added to the body. -/
theorem DerivesEntry.reads {tokens remaining : List Token} {item : Item}
    {depth : Nat} {before : List Item} {stream : TokenStream}
    (derived : DerivesEntry tokens item)
    (enough : 2 * tokens.length ≤ depth + 1)
    (upcoming : stream.upcoming = tokens ++ remaining)
    (stops : EndsEntry (remaining.headD stream.final).kind)
    (distinct : Item.Distinct (before ++ [item])) :
    (stream.head.kind = .name ∨ stream.head.kind = .signalName) ∧
    entry .none depth (Item.toBody before) stream =
      .ok (Item.toBody (before ++ [item]), stream.pass tokens remaining) := by
  -- The key, the sign and the value are read in the same way for every entry.
  have valueRead {key sign : Token} {valueTokens : List Token} {value : Expr}
      (derived : Derives 0 valueTokens value)
      (enough : 2 * (valueTokens.length + 1 + 1) ≤ depth + 1) :
      Parser.value .none depth
        (stream.pass [key, sign] (valueTokens ++ remaining)) =
        .ok (value, stream.pass (key :: sign :: valueTokens) remaining) := by
    have read :=
      derived.reads.expression depth
        (stream.pass [key, sign] (valueTokens ++ remaining)) remaining
        (by omega) rfl (cannotExtend_of_kind stops)
    rw [Parser.value, Converters.none_value_map, read, TokenStream.pass_pass]
    rfl
  have signRead {key sign : Token} {valueTokens : List Token} {binding : Binding}
      (signKind : sign.kind = .colon ∧ binding = .once ∨
        sign.kind = .bindAssign ∧ binding = .live) :
      bindingSign (stream.pass [key] (sign :: (valueTokens ++ remaining))) =
        .ok (binding, stream.pass [key, sign] (valueTokens ++ remaining)) := by
    rw [bindingSign]
    rcases signKind with ⟨kind, rfl⟩ | ⟨kind, rfl⟩
    · rw [peek_pass]
      simp only [kind]
      rw [next_pass]
      rfl
    · rw [peek_pass]
      simp only [kind]
      rw [next_pass]
      rfl
  cases derived with
  | @once valueTokens value key sign keyKind signKind derived =>
      have isHead : stream.head = key := TokenStream.head_of_upcoming upcoming
      have upcoming :
          stream.upcoming = key :: (sign :: (valueTokens ++ remaining)) :=
        upcoming
      refine ⟨.inl (by rw [isHead, keyKind]), ?_⟩
      rw [entry]
      simp only [bind_apply, next_apply, isHead,
        TokenStream.tail_of_upcoming upcoming, signRead (.inl ⟨signKind, rfl⟩),
        valueRead derived enough, keyKind,
        show (TokenKind.name == TokenKind.signalName) = false from rfl,
        Bool.false_eq_true, if_false, Converters.none_key]
      rw [addProperty_of_fresh ((Item.distinct_property _ _).mp distinct).2,
        Item.toBody_property]
  | @live valueTokens value key sign keyKind signKind derived =>
      have isHead : stream.head = key := TokenStream.head_of_upcoming upcoming
      have upcoming :
          stream.upcoming = key :: (sign :: (valueTokens ++ remaining)) :=
        upcoming
      refine ⟨.inl (by rw [isHead, keyKind]), ?_⟩
      rw [entry]
      simp only [bind_apply, next_apply, isHead,
        TokenStream.tail_of_upcoming upcoming, signRead (.inr ⟨signKind, rfl⟩),
        valueRead derived enough, keyKind,
        show (TokenKind.name == TokenKind.signalName) = false from rfl,
        Bool.false_eq_true, if_false, Converters.none_key]
      rw [addProperty_of_fresh ((Item.distinct_property _ _).mp distinct).2,
        Item.toBody_property]
  | @signal valueTokens handler span key sign keyKind signKind derived =>
      have isHead : stream.head = key := TokenStream.head_of_upcoming upcoming
      have upcoming :
          stream.upcoming = key :: (sign :: (valueTokens ++ remaining)) :=
        upcoming
      refine ⟨.inr (by rw [isHead, keyKind]), ?_⟩
      rw [entry]
      simp only [bind_apply, next_apply, isHead,
        TokenStream.tail_of_upcoming upcoming, signRead (.inl ⟨signKind, rfl⟩),
        valueRead derived enough, keyKind, beq_self_eq_true, if_true,
        Converters.none_key]
      rw [addSignal_of_fresh rfl ((Item.distinct_signal _ _).mp distinct).2,
        Item.toBody_signal]
      rfl

/-- Tokens that start with an entry are read from the body as from within
entries. -/
theorem ReadsItems.of_entries {tokens : List Token} {names : List String}
    {items : List Item}
    (starts :
      ∀ {before : List Item} {stream : TokenStream} {remaining : List Token},
        StandsBefore stream tokens remaining names before items →
        stream.head.kind = .name ∨ stream.head.kind = .signalName)
    (entries :
      ∀ (inner outer : Nat) {before : List Item} {stream : TokenStream}
          {remaining : List Token},
        2 * tokens.length ≤ inner → 2 * tokens.length ≤ outer →
        StandsBefore stream tokens remaining names before items →
        (Parser.entries .none inner (Item.toBody before) >>=
          Parser.body .none outer) stream =
          .ok (Item.toBody (before ++ items),
            (stream.pass tokens remaining).declare names)) :
    ReadsItems tokens names items := by
  constructor
  · intro depth before stream remaining enough stands
    obtain ⟨depth, rfl⟩ : ∃ fewer, depth = fewer + 1 := ⟨depth - 1, by omega⟩
    rw [body_entries (starts stands)]
    exact entries depth depth (by omega) (by omega) stands
  · intro inner outer before stream remaining enough enoughOuter stands _
    exact entries inner outer enough enoughOuter stands

/-- The first token of the remaining items ends the entry before them. -/
theorem ReadsItems.endsEntry {tokens remaining : List Token}
    {names : List String} {items before : List Item} {stream : TokenStream}
    (reads : ReadsItems tokens names items)
    (stands : StandsBefore stream tokens remaining names before items) :
    EndsEntry stream.head.kind ∧ stream.head.kind ≠ .comma := by
  have read := reads.body (2 * tokens.length + 1) (Nat.lt_succ_self _) stands
  exact endsEntry_of_startsItem (body_startsItem read)

theorem DerivesEntry.length_pos {tokens : List Token} {item : Item}
    (derived : DerivesEntry tokens item) : 0 < tokens.length := by
  cases derived <;> simp

/-- An entry without a comma is followed by the other items of the body. -/
theorem ReadsItems.entry {tokens otherTokens : List Token} {names : List String}
    {item : Item} {others : List Item} (derived : DerivesEntry tokens item)
    (othersRead : ReadsItems otherTokens names others) :
    ReadsItems (tokens ++ otherTokens) names (item :: others) := by
  have entryRead (depth : Nat) {before : List Item} {stream : TokenStream}
      {remaining : List Token} (enough : 2 * tokens.length ≤ depth + 1)
      (stands : StandsBefore stream (tokens ++ otherTokens) remaining names
        before (item :: others)) :
      StandsBefore (stream.pass tokens (otherTokens ++ remaining)) otherTokens
        remaining names (before ++ [item]) others ∧
      EndsEntry (stream.pass tokens (otherTokens ++ remaining)).head.kind ∧
      (stream.pass tokens (otherTokens ++ remaining)).head.kind ≠ .comma ∧
      (stream.head.kind = .name ∨ stream.head.kind = .signalName) ∧
      Parser.entry .none depth (Item.toBody before) stream =
        .ok (Item.toBody (before ++ [item]),
          stream.pass tokens (otherTokens ++ remaining)) := by
    have after := StandsBefore.passed tokens [] [item] stands
    rw [TokenStream.declare_nil] at after
    obtain ⟨ends, noComma⟩ := othersRead.endsEntry after
    have distinct := StandsBefore.distinctFirst [item] stands
    have upcoming : stream.upcoming = tokens ++ (otherTokens ++ remaining) := by
      rw [stands.upcoming, List.append_assoc]
    exact ⟨after, ends, noComma, derived.reads enough upcoming ends distinct⟩
  refine .of_entries ?_ ?_
  · intro before stream remaining stands
    exact (entryRead (2 * tokens.length) (by omega) stands).2.2.2.1
  · intro inner outer before stream remaining enough enoughOuter stands
    have positive := derived.length_pos
    simp only [List.length_append] at enough enoughOuter
    obtain ⟨inner, rfl⟩ : ∃ fewer, inner = fewer + 1 := ⟨inner - 1, by omega⟩
    obtain ⟨after, -, noComma, -, read⟩ := entryRead inner (by omega) stands
    rw [Parser.entries]
    simp only [bind_apply, read, peek_apply, beq_iff_eq, noComma,
      if_false, pure_apply]
    rw [othersRead.body outer (by omega) after]
    simp

/-- An entry with a comma is followed by other entries, or by other items of the
body. -/
theorem ReadsItems.entryComma {tokens otherTokens : List Token}
    {names : List String} {item : Item} {others : List Item} {comma : Token}
    (commaKind : comma.kind = .comma) (derived : DerivesEntry tokens item)
    (othersRead : ReadsItems otherTokens names others) :
    ReadsItems (tokens ++ comma :: otherTokens) names (item :: others) := by
  have entryRead (depth : Nat) {before : List Item} {stream : TokenStream}
      {remaining : List Token} (enough : 2 * tokens.length ≤ depth + 1)
      (stands : StandsBefore stream (tokens ++ comma :: otherTokens) remaining
        names before (item :: others)) :
      (stream.head.kind = .name ∨ stream.head.kind = .signalName) ∧
      Parser.entry .none depth (Item.toBody before) stream =
        .ok (Item.toBody (before ++ [item]),
          stream.pass tokens (comma :: (otherTokens ++ remaining))) := by
    have distinct := StandsBefore.distinctFirst [item] stands
    have upcoming :
        stream.upcoming = tokens ++ comma :: (otherTokens ++ remaining) := by
      rw [stands.upcoming]
      simp
    exact derived.reads enough upcoming (by simp [EndsEntry, commaKind]) distinct
  refine .of_entries ?_ ?_
  · intro before stream remaining stands
    exact (entryRead (2 * tokens.length) (by omega) stands).1
  · intro inner outer before stream remaining enough enoughOuter stands
    have positive := derived.length_pos
    simp only [List.length_append, List.length_cons] at enough enoughOuter
    obtain ⟨inner, rfl⟩ : ∃ fewer, inner = fewer + 1 := ⟨inner - 1, by omega⟩
    have read := (entryRead inner (by omega) stands).2
    have after :
        StandsBefore (stream.pass (tokens ++ [comma])
          (otherTokens ++ remaining)) otherTokens remaining names
          (before ++ [item]) others := by
      have passed :=
        StandsBefore.passed (tokens ++ [comma]) [] [item]
          (by simpa using stands)
      simpa using passed
    rw [Parser.entries, bind_apply, bind_apply, read]
    simp only
    rw [peek_pass]
    simp only [commaKind, beq_self_eq_true, if_true]
    rw [next_pass]
    simp only [bind_apply peek, peek_apply, Bool.or_eq_true, beq_iff_eq]
    by_cases key :
        (stream.pass (tokens ++ [comma]) (otherTokens ++ remaining)).head.kind =
          .name ∨
        (stream.pass (tokens ++ [comma]) (otherTokens ++ remaining)).head.kind =
          .signalName
    · simp only [key, if_true]
      have continued :=
        othersRead.entries inner outer (by omega) (by omega) after key
      rw [bind_apply] at continued
      rw [continued]
      simp
    · simp only [key, if_false, pure_apply]
      rw [othersRead.body outer (by omega) after]
      simp

/-- A group of entries is read with the items that follow it. -/
theorem ReadsItems.keyValues {tokens otherTokens : List Token} {names : List String}
    {items others : List Item} (derived : DerivesKeyValues tokens items)
    (othersRead : ReadsItems otherTokens names others) :
    ReadsItems (tokens ++ otherTokens) names (items ++ others) := by
  induction derived with
  | last derived => exact .entry derived othersRead
  | trailing comma commaKind derived =>
      simpa using ReadsItems.entryComma commaKind derived othersRead
  | cons comma commaKind derived _ induction =>
      simpa using ReadsItems.entryComma commaKind derived induction

/-! ## Components and loops -/

/-- A stream that does not stand at a key is not read from within entries. -/
theorem ReadsItems.of_body {tokens : List Token} {names : List String}
    {items : List Item}
    (noKey :
      ∀ {before : List Item} {stream : TokenStream} {remaining : List Token},
        StandsBefore stream tokens remaining names before items →
        ¬ (stream.head.kind = .name ∨ stream.head.kind = .signalName))
    (body :
      ∀ {depth : Nat} {before : List Item} {stream : TokenStream}
          {remaining : List Token},
        2 * tokens.length ≤ depth →
        StandsBefore stream tokens remaining names before items →
        Parser.body .none (depth + 1) (Item.toBody before) stream =
          .ok (Item.toBody (before ++ items),
            (stream.pass tokens remaining).declare names)) :
    ReadsItems tokens names items := by
  constructor
  · intro depth before stream remaining enough stands
    obtain ⟨depth, rfl⟩ : ∃ fewer, depth = fewer + 1 := ⟨depth - 1, by omega⟩
    exact body (by omega) stands
  · intro inner outer before stream remaining _ _ stands key
    exact absurd key (noKey stands)

/-- No tokens are read as no items. -/
theorem readsItems_nil : ReadsItems [] [] [] := by
  have closes {before : List Item} {stream : TokenStream} {remaining : List Token}
      (stands : StandsBefore stream [] remaining [] before []) :
      stream.head.kind = .rightBrace := by
    have upcoming : stream.upcoming = remaining := stands.upcoming
    rw [TokenStream.head, upcoming]
    exact stands.closes
  refine .of_body ?_ ?_
  · intro before stream remaining stands
    simp [closes stands]
  · intro depth before stream remaining enough stands
    have upcoming : stream.upcoming = remaining := stands.upcoming
    rw [body_closing (closes stands), ← upcoming, TokenStream.pass_nil]
    simp

/-- A child is read before the items that follow it. -/
theorem ReadsItems.child {tokens otherTokens : List Token}
    {names otherNames : List String} {child : Component} {others : List Item}
    (nonempty : 0 < tokens.length) (reads : ReadsComponent tokens names child)
    (othersRead : ReadsItems otherTokens otherNames others) :
    ReadsItems (tokens ++ otherTokens) (names ++ otherNames)
      (.child child :: others) := by
  have childRead (depth : Nat) {before : List Item} {stream : TokenStream}
    {remaining : List Token} (enough : 2 * tokens.length ≤ depth)
    (stands : StandsBefore stream (tokens ++ otherTokens) remaining
      (names ++ otherNames) before (.child child :: others)) :=
    reads depth stream (otherTokens ++ remaining) enough
      (by rw [stands.upcoming, List.append_assoc]) stands.freshFirst
  refine .of_body ?_ ?_
  · intro before stream remaining stands key
    rcases (childRead _ (Nat.le_refl _) stands).1 with kind | kind <;>
      simp [kind] at key
  · intro depth before stream remaining enough stands
    simp only [List.length_append] at enough
    obtain ⟨kind, read⟩ := childRead depth (by omega) stands
    have after := StandsBefore.passed tokens names [.child child] stands
    rw [body_child kind, bind_apply, read]
    simp only [Item.toBody_child]
    rw [othersRead.body depth (by omega) after]
    simp

/-- A loop is read before the items that follow it. -/
theorem ReadsItems.loop {tokens otherTokens : List Token}
    {names otherNames : List String} {inner : Loop} {others : List Item}
    (nonempty : 0 < tokens.length) (reads : ReadsLoop tokens names inner)
    (othersRead : ReadsItems otherTokens otherNames others) :
    ReadsItems (tokens ++ otherTokens) (names ++ otherNames)
      (.loop inner :: others) := by
  have loopRead (depth : Nat) {before : List Item} {stream : TokenStream}
    {remaining : List Token} (enough : 2 * tokens.length ≤ depth)
    (stands : StandsBefore stream (tokens ++ otherTokens) remaining
      (names ++ otherNames) before (.loop inner :: others)) :=
    reads depth stream (otherTokens ++ remaining) enough
      (by rw [stands.upcoming, List.append_assoc]) stands.freshFirst
  refine .of_body ?_ ?_
  · intro before stream remaining stands key
    simp [(loopRead _ (Nat.le_refl _) stands).1] at key
  · intro depth before stream remaining enough stands
    simp only [List.length_append] at enough
    obtain ⟨kind, read⟩ := loopRead depth (by omega) stands
    have after := StandsBefore.passed tokens names [.loop inner] stands
    rw [body_each kind, bind_apply, read]
    simp only [Item.toBody_loop]
    rw [othersRead.body depth (by omega) after]
    simp

/-- The body of a component is read between its braces. -/
theorem ReadsItems.block {tokens passed remaining : List Token}
    {names : List String} {items : List Item} {closing : Token} {depth : Nat}
    {stream : TokenStream} {β : Type} {further : Body → Token → Parser β}
    (reads : ReadsItems tokens names items)
    (enough : 2 * tokens.length < depth)
    (closingKind : closing.kind = .rightBrace)
    (distinct : Item.Distinct items) (fresh : (stream.aliases ++ names).Nodup) :
    (Parser.body .none depth {} >>= fun content => expect .rightBrace >>=
      fun token => further content token)
      (stream.pass passed (tokens ++ closing :: remaining)) =
      further (Item.toBody items) closing
        ((stream.pass (passed ++ tokens ++ [closing]) remaining).declare
          names) := by
  have stands :
      StandsBefore (stream.pass passed (tokens ++ closing :: remaining)) tokens
        (closing :: remaining) names [] items :=
    ⟨rfl, closingKind, distinct, fresh⟩
  have read := reads.body depth enough stands
  rw [List.nil_append, TokenStream.pass_pass] at read
  rw [bind_apply, show ({} : Body) = Item.toBody [] from rfl, read]
  simp only [← TokenStream.declare_pass]
  rw [expect_pass closingKind]

/-- A component without an alias is read from its name and the items between its
braces. -/
theorem readsComponent_plain {tokens : List Token} {names : List String}
    {items : List Item} {head opening closing : Token}
    (headKind : head.kind = .component)
    (openingKind : opening.kind = .leftBrace)
    (closingKind : closing.kind = .rightBrace)
    (reads : ReadsItems tokens names items) (distinct : Item.Distinct items) :
    ReadsComponent (head :: opening :: tokens ++ [closing]) names
      (Item.toComponent head closing none items) := by
  intro depth stream remaining enough upcoming fresh
  simp only [List.length_append, List.length_cons, List.length_nil] at enough
  obtain ⟨depth, rfl⟩ : ∃ fewer, depth = fewer + 1 := ⟨depth - 1, by omega⟩
  have isHead : stream.head = head := TokenStream.head_of_upcoming upcoming
  have upcoming : stream.upcoming =
        head :: (opening :: (tokens ++ closing :: remaining)) := by
    simpa using upcoming
  refine ⟨.inl (by rw [isHead, headKind]), ?_⟩
  rw [Parser.component, bind_apply, aliasSign?_missing (by simp [isHead, headKind])]
  simp only
  rw [bind_apply, expect_of_upcoming upcoming headKind]
  simp only
  rw [expect_pass openingKind,
    reads.block (by omega) closingKind distinct fresh, pure_apply]
  simp [Item.toComponent, Item.toBody]

/-- A component with an alias is read, and its alias is new. -/
theorem readsComponent_aliased {tokens : List Token} {names : List String}
    {items : List Item} {sign colon head opening closing : Token}
    (signKind : sign.kind = .aliasRef) (colonKind : colon.kind = .colon)
    (headKind : head.kind = .component)
    (openingKind : opening.kind = .leftBrace)
    (closingKind : closing.kind = .rightBrace)
    (reads : ReadsItems tokens names items) (distinct : Item.Distinct items) :
    ReadsComponent (sign :: colon :: head :: opening :: tokens ++ [closing])
      (withoutSign sign.value :: names)
      (Item.toComponent head closing (some (withoutSign sign.value))
        items) := by
  intro depth stream remaining enough upcoming fresh
  simp only [List.length_append, List.length_cons, List.length_nil] at enough
  obtain ⟨depth, rfl⟩ : ∃ fewer, depth = fewer + 1 := ⟨depth - 1, by omega⟩
  have isHead : stream.head = sign := TokenStream.head_of_upcoming upcoming
  have upcoming : stream.upcoming =
      sign :: (colon :: head :: opening :: (tokens ++ closing :: remaining)) := by
    simpa using upcoming
  have freshName : withoutSign sign.value ∉ stream.aliases := by
    intro member
    exact (List.nodup_append.mp fresh).2.2 _ member _ List.mem_cons_self rfl
  have declared :
      aliasSign? stream =
        .ok (some (withoutSign sign.value),
          (stream.declare [withoutSign sign.value]).pass [sign, colon]
            (head :: opening :: (tokens ++ closing :: remaining))) := by
    rw [aliasSign?_present (by rw [isHead, signKind]),
      TokenStream.tail_of_upcoming upcoming, isHead, expect_pass colonKind,
      bind_apply, declareAlias_of_fresh (by simpa using freshName)]
    rfl
  refine ⟨.inr (by rw [isHead, signKind]), ?_⟩
  rw [Parser.component, bind_apply, declared]
  simp only
  rw [expect_pass headKind, expect_pass openingKind,
    reads.block (by omega) closingKind distinct (by simpa using fresh), pure_apply]
  simp [Item.toComponent, Item.toBody]

/-- The items of a loop are neither properties nor signals. -/
structure NoEntries (items : List Item) : Prop where
  noProperty : items.filterMap Item.property? = []
  noSignal : items.filterMap Item.signal? = []

theorem NoEntries.child {others : List Item} (child : Component)
    (noEntries : NoEntries others) : NoEntries (.child child :: others) :=
  ⟨noEntries.noProperty, noEntries.noSignal⟩

theorem NoEntries.loop {others : List Item} (loop : Loop)
    (noEntries : NoEntries others) : NoEntries (.loop loop :: others) :=
  ⟨noEntries.noProperty, noEntries.noSignal⟩

/-- The items of a loop are no entries. -/
theorem DerivesItems.noEntries :
    ∀ {scope : Scope} {tokens : List Token} {names : List String}
        {items : List Item},
      DerivesItems scope tokens names items → scope = .loop → NoEntries items
  | _, _, _, _, .nil, _ => ⟨rfl, rfl⟩
  | _, _, _, _, .component _ othersDerived, isLoop =>
    (othersDerived.noEntries isLoop).child _
  | _, _, _, _, .each _ othersDerived, isLoop =>
    (othersDerived.noEntries isLoop).loop _

/-- A loop is read from its source, the type of its items, its two names and its
template. -/
theorem readsLoop_each {sourceTokens tokens : List Token}
    {names : List String} {source : Expr} {items : List Item}
    {keyword usingWord itemType opening firstPipe index comma value
    secondPipe closing :
      Token} (keywordKind : keyword.kind = .each)
    (sourceReads : Reads 0 sourceTokens source)
    (usingKind : usingWord.kind = .using)
    (itemTypeKind : itemType.kind = .component)
    (openingKind : opening.kind = .leftBrace)
    (firstPipeKind : firstPipe.kind = .pipe) (indexKind : index.kind = .name)
    (commaKind : comma.kind = .comma) (valueKind : value.kind = .name)
    (secondPipeKind : secondPipe.kind = .pipe)
    (closingKind : closing.kind = .rightBrace)
    (reads : ReadsItems tokens names items) (noEntries : NoEntries items) :
    ReadsLoop (keyword :: sourceTokens ++ usingWord :: itemType :: opening ::
      firstPipe :: index :: comma :: value :: secondPipe :: tokens ++ [closing])
      names (Item.toLoop keyword itemType index value closing source
        items) := by
  intro depth stream remaining enough upcoming fresh
  simp only [List.length_append, List.length_cons, List.length_nil] at enough
  obtain ⟨depth, rfl⟩ : ∃ fewer, depth = fewer + 1 := ⟨depth - 1, by omega⟩
  have isHead : stream.head = keyword := TokenStream.head_of_upcoming upcoming
  have upcoming : stream.upcoming =
        keyword :: (sourceTokens ++ usingWord ::
          (itemType :: opening :: firstPipe :: index :: comma :: value ::
            secondPipe :: (tokens ++ closing :: remaining))) := by
    simpa using upcoming
  have distinct : Item.Distinct items :=
    ⟨by rw [noEntries.noProperty]; exact List.nodup_nil,
      by rw [noEntries.noSignal]; exact List.nodup_nil⟩
  refine ⟨by rw [isHead, keywordKind], ?_⟩
  rw [Parser.loop, bind_apply next, next_apply]
  simp only
  rw [TokenStream.tail_of_upcoming upcoming, isHead,
    sourceReads.followed (by omega) usingKind (by decide), expect_pass itemTypeKind,
    expect_pass openingKind, expect_pass firstPipeKind, expect_pass indexKind,
    expect_pass commaKind, expect_pass valueKind, expect_pass secondPipeKind,
    reads.block (by omega) closingKind distinct fresh]
  simp [Item.toLoop, Item.toBody, noEntries.noProperty,
    noEntries.noSignal, pure_apply]

theorem DerivesComponent.length_pos {tokens : List Token} {names : List String}
    {component : Component} (derived : DerivesComponent tokens names component) :
    0 < tokens.length := by
  cases derived <;> simp

theorem DerivesLoop.length_pos {tokens : List Token} {names : List String}
    {loop : Loop} (derived : DerivesLoop tokens names loop) :
    0 < tokens.length := by
  cases derived
  simp

mutual

/-- Whatever component is derived is read. -/
theorem DerivesComponent.reads {tokens : List Token} {names : List String}
    {component : Component} :
    DerivesComponent tokens names component → ReadsComponent tokens names component
  | .plain _ _ _ headKind openingKind closingKind derived distinct =>
      readsComponent_plain headKind openingKind closingKind derived.reads distinct
  | .aliased _ _ _ _ _ signKind colonKind headKind openingKind closingKind
      derived distinct =>
      readsComponent_aliased signKind colonKind headKind openingKind closingKind
        derived.reads distinct

/-- Whatever items are derived are read. -/
theorem DerivesItems.reads {scope : Scope} {tokens : List Token}
    {names : List String} {items : List Item} :
    DerivesItems scope tokens names items → ReadsItems tokens names items
  | .nil => readsItems_nil
  | .component derived othersDerived =>
      .child derived.length_pos derived.reads othersDerived.reads
  | .keyValues derived othersDerived => .keyValues derived othersDerived.reads
  | .each derived othersDerived =>
    .loop derived.length_pos derived.reads othersDerived.reads

theorem DerivesLoop.reads {tokens : List Token} {names : List String}
    {loop : Loop} : DerivesLoop tokens names loop → ReadsLoop tokens names loop
  | .each _ _ _ _ _ _ _ _ _ _ keywordKind sourceDerived usingKind itemTypeKind
      openingKind firstPipeKind indexKind commaKind valueKind secondPipeKind
      closingKind derived =>
      readsLoop_each keywordKind sourceDerived.reads usingKind itemTypeKind
        openingKind firstPipeKind indexKind commaKind valueKind secondPipeKind
        closingKind derived.reads (derived.noEntries rfl)

end

/-! ## Documents -/

/-- Imports are read up to a token that starts no import. -/
theorem DerivesImports.reads {tokens : List Token} {found : List Import}
    (derived : DerivesImports tokens found) :
    ∀ (bound : Nat) (before : List Import) (stream : TokenStream)
        (remaining : List Token),
      tokens.length ≤ bound → stream.upcoming = tokens ++ remaining →
      (remaining.headD stream.final).kind ≠ .importModule →
      (remaining.headD stream.final).kind ≠ .importTop →
      ((before ++ found).map Import.moduleName).Nodup →
      imports bound before stream =
        .ok (before ++ found, stream.pass tokens remaining) := by
  have freshOf {before others : List Import} {added : Import}
      (distinct : ((before ++ added :: others).map Import.moduleName).Nodup) :
      before.any (·.moduleName == added.moduleName) = false := by
    rw [List.map_append, List.nodup_append] at distinct
    refine List.any_eq_false.mpr ?_
    intro other member equal
    exact distinct.2.2 _ (List.mem_map_of_mem member) _ List.mem_cons_self
      (beq_iff_eq.mp equal)
  induction derived with
  | nil =>
      intro bound before stream remaining _ upcoming notModule notTop _
      have upcoming : stream.upcoming = remaining := upcoming
      have isHead : stream.head = remaining.headD stream.final := by
        rw [TokenStream.head, upcoming]
      rw [List.append_nil, ← upcoming, TokenStream.pass_nil]
      cases bound with
      | zero => rfl
      | succ bound =>
          rw [imports]
          simp only [bind_apply peek, peek_apply, isHead, Bool.or_eq_true,
            beq_iff_eq, notModule, notTop, or_self, if_false, pure_apply]
  | @cons tokens others keyword name keywordKind nameKind _ induction =>
      intro bound before stream remaining enough upcoming notModule notTop distinct
      simp only [List.length_cons] at enough
      obtain ⟨bound, rfl⟩ : ∃ fewer, bound = fewer + 1 := ⟨bound - 1, by omega⟩
      have isHead : stream.head = keyword := TokenStream.head_of_upcoming upcoming
      have upcoming :
          stream.upcoming = keyword :: (name :: (tokens ++ remaining)) :=
        upcoming
      have fresh : before.any (·.moduleName == name.value) = false :=
        freshOf distinct
      rw [imports]
      simp only [bind_apply peek, peek_apply, isHead, Bool.or_eq_true,
        beq_iff_eq, keywordKind, if_true, bind_apply next, next_apply,
        TokenStream.tail_of_upcoming upcoming]
      rw [expect_pass nameKind]
      simp only [fresh, Bool.false_eq_true, if_false]
      have othersRead :=
        induction bound (before ++
          [⟨name.value, keyword.kind == .importTop, keyword.span⟩])
          (stream.pass ([keyword] ++ [name]) (tokens ++ remaining)) remaining
          (by omega) rfl notModule notTop (by simpa using distinct)
      rw [othersRead]
      simp

/-- The directive of a controller is read, or none is if none comes. -/
theorem DerivesController.reads {tokens : List Token}
    {controller : Option String}
    (derived : DerivesController tokens controller) (stream : TokenStream)
    (remaining : List Token)
    (upcoming : stream.upcoming = tokens ++ remaining)
    (stops : (remaining.headD stream.final).kind ≠ .using) :
    controllerDirective? stream =
      .ok (controller, stream.pass tokens remaining) := by
  cases derived with
  | missing =>
      have upcoming : stream.upcoming = remaining := upcoming
      have isHead : stream.head = remaining.headD stream.final := by
        rw [TokenStream.head, upcoming]
      rw [controllerDirective?, bind_apply, peek_apply, ← upcoming,
        TokenStream.pass_nil]
      simp only [isHead, beq_iff_eq, stops, if_false, pure_apply]
  | directive keyword name keywordKind nameKind =>
      have isHead : stream.head = keyword := TokenStream.head_of_upcoming upcoming
      have upcoming : stream.upcoming = keyword :: (name :: remaining) := upcoming
      rw [controllerDirective?]
      simp only [bind_apply peek, peek_apply, isHead, keywordKind,
        beq_self_eq_true, if_true, bind_apply next, next_apply,
        TokenStream.tail_of_upcoming upcoming]
      rw [expect_pass nameKind]
      rfl

/-- A controller directive starts with its keyword, and its absence with what
follows it. -/
theorem DerivesController.head {tokens : List Token}
    {controller : Option String}
    (derived : DerivesController tokens controller) (remaining : List Token)
    (final : Token) :
    ((tokens ++ remaining).headD final).kind = .using ∨
    (tokens ++ remaining).headD final = remaining.headD final := by
  cases derived with
  | missing => exact .inr rfl
  | directive _ _ keywordKind _ => exact .inl keywordKind

theorem DerivesComponent.head {tokens : List Token} {names : List String}
    {component : Component} (derived : DerivesComponent tokens names component)
    (remaining : List Token) (final : Token) :
    ((tokens ++ remaining).headD final).kind = .component ∨
      ((tokens ++ remaining).headD final).kind = .aliasRef := by
  cases derived with
  | plain _ _ _ headKind => exact .inl headKind
  | aliased _ _ _ _ _ signKind => exact .inr signKind

/-- A document that is derived by the tokens up to the end of the input is
returned. -/
theorem DerivesDocument.reads {tokens remaining : List Token} {document : Document}
    {depth : Nat} (derived : DerivesDocument tokens document) (stream : TokenStream)
    (enough : 2 * tokens.length ≤ depth) (fresh : stream.aliases = [])
    (upcoming : stream.upcoming = tokens ++ remaining)
    (atEnd : (remaining.headD stream.final).kind = .endOfInput) :
    ∃ rest, Parser.document .none depth stream = .ok (document, rest) := by
  obtain ⟨importsDerived, importsDistinct, controllerDerived, rootDerived,
    aliasesDistinct⟩ :=
    derived
  rename_i importTokens controllerTokens rootTokens imports controller aliases root
  simp only [List.length_append] at enough
  have rootHead := rootDerived.head remaining stream.final
  have notImport : ∀ kind,
      kind = .importModule ∨ kind = .importTop →
      ((controllerTokens ++ (rootTokens ++ remaining)).headD
        stream.final).kind ≠ kind := by
    intro kind isImport equal
    rcases controllerDerived.head (rootTokens ++ remaining) stream.final
      with isUsing | isRoot
    · rw [isUsing] at equal
      rcases isImport with rfl | rfl <;> cases equal
    · rw [isRoot] at equal
      rcases rootHead with rootKind | rootKind <;> rw [rootKind] at equal <;>
        rcases isImport with rfl | rfl <;> cases equal
  have importsRead :=
    importsDerived.reads depth [] stream
      (controllerTokens ++ (rootTokens ++ remaining))
      (by omega)
      (by rw [upcoming]; simp) (notImport _ (.inl rfl)) (notImport _ (.inr rfl))
      (by simpa using importsDistinct)
  have controllerRead :=
    controllerDerived.reads
      (stream.pass importTokens (controllerTokens ++ (rootTokens ++ remaining)))
      (rootTokens ++ remaining) rfl
      (by
        intro isUsing
        rw [TokenStream.pass_final] at isUsing
        rcases rootHead with rootKind | rootKind <;>
          rw [rootKind] at isUsing <;> cases isUsing)
  obtain ⟨-, rootRead⟩ :=
    rootDerived.reads depth
      (stream.pass (importTokens ++ controllerTokens) (rootTokens ++ remaining))
      remaining (by omega) rfl (by simpa [fresh] using aliasesDistinct)
  have notAtEnd :
      ((rootTokens ++ remaining).headD stream.final).kind ≠ .endOfInput := by
    intro isEnd
    rcases rootHead with rootKind | rootKind <;>
      rw [rootKind] at isEnd <;> cases isEnd
  rw [TokenStream.pass_pass] at controllerRead rootRead
  refine ⟨(stream.pass (importTokens ++ controllerTokens ++ rootTokens)
    remaining).declare aliases, ?_⟩
  have declared : stream.aliases ++ aliases = aliases := by
    rw [fresh, List.nil_append]
  rw [Parser.document, bind_apply, importsRead]
  simp only [List.nil_append, bind_apply, controllerRead, peek_apply,
    TokenStream.pass_head, beq_iff_eq, notAtEnd, if_false, rootRead,
    TokenStream.declare_head, atEnd, if_true]
  change Except.ok (Document.mk imports (stream.aliases ++ aliases) controller
    root, _) = _
  rw [declared]

end LiveMarkup.Grammar
