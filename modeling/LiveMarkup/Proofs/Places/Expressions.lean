import LiveMarkup.Proofs.Places.Covering

/-!
# The spans of expressions nest

The induction over the derivation of an expression carries that its span covers
its tokens.  A part is derived from a stretch of them, so its span lies inside;
parts are derived from stretches one behind the other, so their spans are in
order.
-/

namespace LiveMarkup

open Grammar

namespace Expr

variable {source : List Char} {expr : Expr} {parts written : List Expr}

theorem parts_inGroup (expr : Expr) : expr.inGroup.parts = expr.parts := by
  cases expr <;> rfl

/-- Parentheses do not change what an expression has written between them. -/
theorem Writes.inGroup (writes : expr.Writes written) :
    expr.inGroup.Writes written := by
  cases writes with
  | parts =>
      rw [← parts_inGroup]
      exact .parts _
  | solid implied => exact .solid implied

/-- Parentheses change no span. -/
theorem Nests.inGroup (nests : expr.Nests source) : expr.inGroup.Nests source where
  fits := by
    rw [span_inGroup]
    exact nests.fits
  inside := by
    rw [span_inGroup, parts_inGroup]
    exact nests.inside
  ordered := by
    obtain ⟨written, writes, ordered⟩ := nests.ordered
    exact ⟨written, writes.inGroup, ordered⟩
  chain := by
    intro target same
    cases expr with
    | reference found => exact nests.chain target same
    | _ => cases same

/-- An expression that is no reference nests if its span frames those of its
parts. -/
theorem nests_of_frames (fits : expr.span.Fits source)
    (same : expr.parts = parts) (frames : Frames expr.span (parts.map span))
    (plain : ∀ target, expr ≠ .reference target) : expr.Nests source where
  fits := fits
  inside := by
    rw [same]
    exact fun part member => frames.inside part.span (List.mem_map_of_mem member)
  ordered := ⟨parts, same ▸ .parts expr, frames.ordered⟩
  chain := fun target isTarget => absurd isTarget (plain target)

/-- A literal without parts. -/
theorem nests_literal (fits : expr.span.Fits source) (same : expr.parts = [])
    (plain : ∀ target, expr ≠ .reference target) : expr.Nests source :=
  nests_of_frames fits same ⟨nofun, List.Pairwise.nil⟩ plain

end Expr

/-- Parentheses keep the nesting of every part. -/
theorem Grammar.Everywhere.nests_inGroup {source : List Char} {expr : Expr}
    (everywhere : Everywhere (Expr.Nests source) expr) :
    Everywhere (Expr.Nests source) expr.inGroup := by
  cases expr with
  | applyPrefix op right grouped span => exact ⟨everywhere.1.inGroup, everywhere.2⟩
  | applyInfix op left right grouped span =>
    exact ⟨everywhere.1.inGroup, everywhere.2⟩
  | _ => exact everywhere

/-- An expression over tokens of a source: its span covers them, and all spans
in it nest. -/
structure Placed (source : List Char) (tokens : List Token) (expr : Expr) :
    Prop where
  covers : Covers tokens expr.span
  nests : Everywhere (Expr.Nests source) expr

section Placed

variable {source : List Char} {tokens leftTokens rightTokens : List Token}
  {expr left right : Expr} {head token closing : Token} {span : Span}

/-! ## References -/

/-- The span of a reference begins with its first token and ends with its last. -/
structure PlacedReference (source : List Char) (tokens : List Token)
    (target : Reference) : Prop where
  covers : Covers tokens target.span
  nests : target.Nests source

/-- A reference ends at the last token it was read from. -/
theorem Grammar.DerivesReference.placed {target : Reference}
    (derived : DerivesReference tokens target) (laid : Laid source tokens) :
    PlacedReference source tokens target := by
  induction derived with
  | global head kind => exact ⟨laid.covers (by simp), laid.fits head (by simp)⟩
  | aliased head kind => exact ⟨laid.covers (by simp), laid.fits head (by simp)⟩
  | «local» head kind => exact ⟨laid.covers (by simp), laid.fits head (by simp)⟩
  | @property tokens base derived dot name dotKind nameKind induction =>
      have inner := induction laid.left
      have named : Covers [dot, name] name.span :=
        (laid.covers (by simp)).mono (by simp)
      have covers := inner.covers.through named laid
      exact ⟨covers, covers.fits laid, inner.covers.inside_left named laid,
        inner.nests⟩

/-- A reference with a place is an expression with a place. -/
theorem placed_reference {target : Reference}
    (placed : PlacedReference source tokens target)
    (laid : Laid source tokens) : Placed source tokens (.reference target) where
  covers := placed.covers
  nests :=
    { fits := placed.covers.fits laid
      inside := nofun
      ordered := ⟨[], .parts _, List.Pairwise.nil⟩
      chain := by
        rintro other ⟨⟩
        exact placed.nests }

/-! ## Literals -/

/-- A literal that is one token. -/
theorem placed_literal (laid : Laid source [token]) (same : expr.span = token.span)
    (noParts : expr.parts = []) (plain : ∀ target, expr ≠ .reference target)
    (alone : expr.Nests source → Everywhere (Expr.Nests source) expr) :
    Placed source [token] expr where
  covers := by
    rw [same]
    exact laid.covers (List.mem_singleton_self token)
  nests := by
    have fits : expr.span.Fits source := by
      rw [same]
      exact laid.fits token (List.mem_singleton_self token)
    exact alone (Expr.nests_literal fits noParts plain)

/-- A composite literal frames the parts that stand between its head and its
closing token. -/
theorem nests_closed {groups : List (List Token)} {parts : List Expr}
    (laid : Laid source (head :: tokens ++ [closing]))
    (spans : expr.span = head.span.through closing.span) (same : expr.parts = parts)
    (plain : ∀ target, expr ≠ .reference target)
    (covers : List.Forall₂ Covers groups (parts.map Expr.span))
    (sublist : groups.flatten.Sublist tokens) : expr.Nests source := by
  have fits : expr.span.Fits source := by
    rw [spans]
    exact (covers_closed laid).fits laid
  refine Expr.nests_of_frames fits same ?_ plain
  rw [spans]
  exact frames_of_groups covers laid sublist

/-! ## Operators -/

/-- A prefixed operand reaches from its sign to the end of the operand. -/
theorem placed_prefixOp (op : PrefixOp) (laid : Laid source (token :: tokens))
    (placed : Placed source tokens right) :
    Placed source (token :: tokens)
      (.applyPrefix op right false (token.span.through right.span)) := by
  have opens : Covers [token] token.span := laid.covers (List.mem_cons_self ..)
  have covers : Covers (token :: tokens) (token.span.through right.span) :=
    opens.through placed.covers laid
  refine ⟨covers, Expr.nests_of_frames (covers.fits laid) rfl ?_ nofun,
    placed.nests⟩
  constructor
  · intro inner member
    cases List.mem_singleton.mp member
    exact opens.inside_right placed.covers laid
  · exact List.pairwise_singleton ..

/-- Two joined operands reach from the start of the left one to the end of the
right one. -/
theorem placed_infixOp (op : InfixOp)
    (laid : Laid source (leftTokens ++ token :: rightTokens))
    (leftPlaced : Placed source leftTokens left)
    (rightPlaced : Placed source rightTokens right) :
    Placed source (leftTokens ++ token :: rightTokens)
      (.applyInfix op left right false (left.span.through right.span)) := by
  have behind : Covers (token :: rightTokens) right.span :=
    rightPlaced.covers.mono (List.subset_cons_self ..)
  have covers := leftPlaced.covers.through behind laid
  refine ⟨covers, Expr.nests_of_frames (covers.fits laid) rfl ?_ nofun,
    leftPlaced.nests, rightPlaced.nests⟩
  constructor
  · intro inner member
    rcases List.mem_pair.mp member with rfl | rfl
    · exact leftPlaced.covers.inside_left behind laid
    · exact leftPlaced.covers.inside_right behind laid
  · exact List.pairwise_pair.mpr (leftPlaced.covers.stop_le_start behind laid)

/-! ## Colors -/

/-- Arguments without the comma between them. -/
theorem sublist_argument {arguments others : List Token}
    (argument : List Token) (comma : Token)
    (sublist : arguments.Sublist others) :
    (argument ++ arguments).Sublist (argument ++ comma :: others) :=
  (List.Sublist.refl argument).append (sublist.cons comma)

/-- The name of a color lends its span to the opacity that is not written. -/
theorem nests_solidColor {redTokens greenTokens blueTokens : List Token}
    {red green blue : Expr} (laid : Laid source (head :: tokens ++ [closing]))
    (redPlaced : Placed source redTokens red)
    (greenPlaced : Placed source greenTokens green)
    (bluePlaced : Placed source blueTokens blue)
    (sublist : (redTokens ++ greenTokens ++ blueTokens).Sublist tokens) :
    Expr.Nests source (.color red green blue (.float 1.0 head.span)
      (head.span.through closing.span)) := by
  have covers : List.Forall₂ Covers [redTokens, greenTokens, blueTokens]
      [red.span, green.span, blue.span] :=
    .cons redPlaced.covers (.cons greenPlaced.covers (.cons bluePlaced.covers .nil))
  have frames :
      Frames (head.span.through closing.span)
        [red.span, green.span, blue.span] :=
    frames_of_groups covers laid (by simpa using sublist)
  have named : Covers [head] head.span := laid.covers (by simp)
  have closes : Covers (tokens ++ [closing]) closing.span :=
    (laid.covers (by simp)).mono (by simp)
  have redAmong : Covers tokens red.span :=
    redPlaced.covers.mono fun token member => sublist.subset (by simp [member])
  refine ⟨(covers_closed laid).fits laid, ?_,
    ⟨[red, green, blue], ?_, frames.ordered⟩, nofun⟩
  · intro part member
    simp only [Expr.parts, List.mem_cons, List.not_mem_nil, or_false] at member
    rcases member with rfl | rfl | rfl | rfl
    · exact frames.inside _ (by simp)
    · exact frames.inside _ (by simp)
    · exact frames.inside _ (by simp)
    · exact named.inside_left closes laid
  · exact .solid ⟨⟨head.span, rfl⟩, rfl, named.stop_le_start redAmong laid.left⟩

end Placed

/-! ## Derived expressions -/

namespace Grammar

variable {source : List Char}

mutual

/-- The spans of a derived expression nest, and its own covers its tokens. -/
theorem Derives.placed {layer : Nat} {tokens : List Token} {expr : Expr}
    (laid : Laid source tokens) :
    Derives layer tokens expr → Placed source tokens expr
  | .infixOp _ op _ _ leftDerived rightDerived =>
      placed_infixOp op laid (leftDerived.placed laid.left)
        (rightDerived.placed laid.right.tail)
  | .tighter _ derived => derived.placed laid
  | .prefixOp _ op _ _ derived => placed_prefixOp op laid (derived.placed laid.tail)
  | .group opening closing _ _ derived => by
      have inner := derived.placed laid.left.tail
      constructor
      · rw [Expr.span_inGroup]
        exact inner.covers.mono fun token member => by simp [member]
      · exact inner.nests.nests_inGroup
  | .atom derived => derived.placed laid

/-- Every atom stands where its tokens stand. -/
theorem DerivesAtom.placed {tokens : List Token} {expr : Expr}
    (laid : Laid source tokens) :
    DerivesAtom tokens expr → Placed source tokens expr
  | .text _ _ => placed_literal laid rfl rfl nofun id
  | .integer _ _ _ _ => placed_literal laid rfl rfl nofun id
  | .float _ _ _ _ => placed_literal laid rfl rfl nofun id
  | .boolean _ _ => placed_literal laid rfl rfl nofun id
  | .null _ _ => placed_literal laid rfl rfl nofun id
  | .reference derived => placed_reference (derived.placed laid) laid
  | @DerivesAtom.resource tokens path head opening closing _ _ _ derived => by
      have inner := derived.placed laid.left.tail.tail
      refine ⟨covers_closed laid, ?_, inner.nests⟩
      exact nests_closed laid rfl rfl nofun (.cons inner.covers .nil) (by simp)
  | @DerivesAtom.vec2 xTokens yTokens x y head opening comma closing _ _ _ _
      xDerived yDerived => by
      have closed :
          Laid source (head :: (opening :: xTokens ++ comma :: yTokens) ++
            [closing]) :=
        laid
      have within := closed.left.tail
      have xPlaced := xDerived.placed within.left.tail
      have yPlaced := yDerived.placed within.right.tail
      refine ⟨covers_closed closed, ?_, xPlaced.nests, yPlaced.nests⟩
      refine nests_closed closed rfl rfl nofun
        (.cons xPlaced.covers (.cons yPlaced.covers .nil)) ?_
      simp
  | @DerivesAtom.solidColor redTokens greenTokens blueTokens red green blue head
      opening firstComma secondComma closing _ _ _ _ _ _ redDerived greenDerived
      blueDerived => by
      have closed :
          Laid source (head ::
            (opening :: redTokens ++ firstComma :: greenTokens ++ secondComma ::
              blueTokens) ++ [closing]) :=
        laid
      have within := closed.left.tail
      have redPlaced := redDerived.placed within.left.left.tail
      have greenPlaced := greenDerived.placed within.left.right.tail
      have bluePlaced := blueDerived.placed within.right.tail
      have sublist := sublist_argument redTokens firstComma
        (sublist_argument greenTokens secondComma (List.Sublist.refl blueTokens))
      have nests := nests_solidColor closed redPlaced greenPlaced bluePlaced
        (by simpa using sublist.cons opening)
      refine ⟨covers_closed closed, nests, redPlaced.nests, greenPlaced.nests,
        bluePlaced.nests, ?_⟩
      exact Expr.nests_literal (laid.fits head (by simp)) rfl nofun
  | @DerivesAtom.color redTokens greenTokens blueTokens alphaTokens red green
      blue alpha head opening firstComma secondComma thirdComma closing _ _ _ _
      _ _ _ redDerived greenDerived blueDerived alphaDerived => by
      have closed :
          Laid source (head ::
            (opening :: redTokens ++ firstComma :: greenTokens ++ secondComma ::
              blueTokens ++ thirdComma :: alphaTokens) ++ [closing]) :=
        laid
      have within := closed.left.tail
      have redPlaced := redDerived.placed within.left.left.left.tail
      have greenPlaced := greenDerived.placed within.left.left.right.tail
      have bluePlaced := blueDerived.placed within.left.right.tail
      have alphaPlaced := alphaDerived.placed within.right.tail
      refine ⟨covers_closed closed, ?_, redPlaced.nests, greenPlaced.nests,
        bluePlaced.nests, alphaPlaced.nests⟩
      refine nests_closed closed rfl rfl nofun
        (.cons redPlaced.covers (.cons greenPlaced.covers
          (.cons bluePlaced.covers (.cons alphaPlaced.covers .nil)))) ?_
      have sublist := sublist_argument redTokens firstComma
        (sublist_argument greenTokens secondComma
          (sublist_argument blueTokens thirdComma (List.Sublist.refl alphaTokens)))
      simpa using sublist.cons opening
  | @DerivesAtom.plainStyle box head opening closing _ _ _ _ => by
      have closed : Laid source (head :: [opening] ++ [closing]) := laid
      exact ⟨covers_closed closed, nests_closed closed rfl rfl nofun .nil (by simp)⟩
  | @DerivesAtom.style tokens properties box head opening closing _ _ _
      _ derived => by
      have inner := derived.placed laid.left.tail.tail
      refine ⟨covers_closed laid, ?_, inner.nests⟩
      exact nests_closed laid rfl rfl nofun (.cons inner.covers .nil) (by simp)
  | @DerivesAtom.object tokens entries opening closing _ _ derived _ => by
      obtain ⟨groups, covers, sublist, nests⟩ := derived.placed laid.left.tail
      refine ⟨covers_closed laid, ?_, nests⟩
      exact nests_closed laid rfl rfl nofun covers sublist

/-- The values of an object literal stand over groups of its tokens. -/
theorem DerivesEntries.placed {tokens : List Token} {entries : List (String × Expr)}
    (laid : Laid source tokens) : DerivesEntries tokens entries →
      ∃ groups, List.Forall₂ Covers groups ((entries.map Prod.snd).map Expr.span) ∧
        groups.flatten.Sublist tokens ∧ EverywhereIn (Expr.Nests source) entries
  | .nil => ⟨[], .nil, List.Sublist.slnil, trivial⟩
  | @DerivesEntries.last tokens value key colon _ _ derived => by
      have inner := derived.placed laid.tail.tail
      exact ⟨[tokens], .cons inner.covers .nil, by simp, inner.nests, trivial⟩
  | @DerivesEntries.cons tokens otherTokens value others key colon comma _ _ _
      derived othersDerived => by
      have inner := derived.placed laid.left.tail.tail
      obtain ⟨groups, covers, sublist, nests⟩ :=
        othersDerived.placed laid.right.tail
      refine ⟨tokens :: groups, .cons inner.covers covers, ?_, inner.nests, nests⟩
      rw [List.flatten_cons, List.cons_append, List.cons_append]
      exact ((List.Sublist.refl tokens).append (sublist.cons comma)).cons
        colon |>.cons key

end

end Grammar

end LiveMarkup
