import LiveMarkup.Token.Rule

/-!
# What a matcher reads

A matcher walks a cursor over an array of characters.  What it finds depends
only on the characters that lie before the cursor:  `Matcher.cut?` splits these
into the token text and the characters that remain.  A cursor splits its source
into what lies behind it and what is still to be read, and this module shows
that running a matcher on a cursor is cutting the characters it has still to
read.
-/

namespace LiveMarkup

/-- The text up to a closing quote, collected in reverse, and what remains
behind that quote. -/
def cutQuoted (quote : Char) :
    Bool → List Char → List Char → Option (List Char × List Char)
  | _, _, [] => none
  | escaped, collected, char :: rest =>
    if char == '\n' then none
    else if escaped then cutQuoted quote false (char :: collected) rest
    else if char == '\\' then cutQuoted quote true (char :: collected) rest
    else if char == quote then some (collected.reverse, rest)
    else cutQuoted quote false (char :: collected) rest

/-- The token text of a shape at the beginning of some characters, and what
remains behind it. -/
def Matcher.cut? : Matcher → List Char → Option (List Char × List Char)
  | .oneOf _, [] => none
  | .oneOf set, char :: rest =>
    if set.contains char then some ([char], rest) else none
  | .literal text, chars =>
    if text.isPrefixOf chars then some (text, chars.drop text.length) else none
  | .keyword word, chars =>
    if word.isPrefixOf chars &&
      !(chars.drop word.length).head?.any Text.isWordChar then
      some (word, chars.drop word.length)
    else none
  | .comment first opening, chars =>
    if (first :: opening).isPrefixOf chars then
      let line := chars.drop (first :: opening).length
      some (first :: opening ++ line.takeWhile (· != '\n'),
        line.dropWhile (· != '\n'))
    else none
  | .quotedText, [] => none
  | .quotedText, char :: rest =>
    if char == '"' || char == '\'' then cutQuoted char false [] rest else none
  | .number fraction, chars =>
    let whole := chars.takeWhile Text.isDigit
    let after := chars.dropWhile Text.isDigit
    if whole.isEmpty then none
    else if !fraction then some (whole, after)
    else match after with
      | '.' :: tail =>
        let digits := tail.takeWhile Text.isDigit
        if digits.isEmpty then none
          else some (whole ++ '.' :: digits, tail.dropWhile Text.isDigit)
      | _ => none
  | .identifier, [] => none
  | .identifier, char :: rest =>
    if beginsName char then
      some (char :: rest.takeWhile Text.isWordChar, rest.dropWhile Text.isWordChar)
    else none

-- The equations of these functions are made here, once, before many proofs ask
-- for them at a time.
attribute [grind =] Matcher.run Matcher.cut? Cursor.walkLiteral Cursor.walkWhile
  Cursor.walkQuoted

namespace Cursor

/-- A cursor stands between what lies behind it and what is still to be read. -/
structure Splits (cursor : Cursor) (behind rest : List Char) : Prop where
  source : cursor.source.toList = behind ++ rest
  index : cursor.index = behind.length

theorem splits_ofString (text : String) : (ofString text).Splits [] text.toList :=
  ⟨by simp [ofString], rfl⟩

variable {cursor : Cursor} {behind rest : List Char}

/-- The cursor looks at the first character that is still to be read. -/
theorem Splits.peek (splits : cursor.Splits behind rest) :
    cursor.peek? = rest.head? := by
  unfold Cursor.peek?
  rw [← Array.getElem?_toList, splits.source, splits.index,
    List.getElem?_append_right (Nat.le_refl _), Nat.sub_self,
    List.head?_eq_getElem?]

/-- The cursor is at the end when nothing is left to be read. -/
theorem Splits.atEnd (splits : cursor.Splits behind rest) :
    cursor.atEnd = rest.isEmpty := by
  have size : cursor.source.size = behind.length + rest.length := by
    rw [← Array.length_toList, splits.source, List.length_append]
  unfold Cursor.atEnd
  rw [size, splits.index]
  cases rest <;> simp

theorem Splits.length_le (splits : cursor.Splits behind rest) :
    rest.length ≤ cursor.source.size := by
  rw [← Array.length_toList, splits.source, List.length_append]
  exact Nat.le_add_left _ _

/-- Advancing moves one character from ahead of the cursor to behind it. -/
theorem Splits.advance {char : Char}
    (splits : cursor.Splits behind (char :: rest)) :
    cursor.advance.Splits (behind ++ [char]) rest := by
  have next : cursor.peek? = some char := splits.peek
  refine ⟨?_, ?_⟩
  · rw [source_advance, splits.source, List.append_assoc]
    rfl
  · rw [index_advance_of_peek next, splits.index, List.length_append]
    rfl

/-- Another cursor over the same text can be put where this one stands. -/
theorem Splits.moveTo (splits : cursor.Splits behind rest) {other : Cursor}
    (same : other.source = cursor.source) :
    (other.moveTo cursor.index).Splits behind rest :=
  ⟨(congrArg Array.toList same).trans splits.source, splits.index⟩

/-- The characters between two places. -/
theorem Splits.slice {consumed remaining : List Char}
    (splits : cursor.Splits behind (consumed ++ remaining)) {after : Cursor}
    (later : after.Splits (behind ++ consumed) remaining) :
    cursor.slice cursor.index after.index = consumed := by
  unfold Cursor.slice
  rw [Array.toList_extract, List.extract_eq_take_drop, splits.source,
    splits.index, later.index, List.drop_left, List.length_append,
    Nat.add_sub_cancel_left, List.take_left]

/-! ## The walks -/

theorem source_walkLiteral (text : List Char) (cursor : Cursor) :
    (walkLiteral text cursor).2.source = cursor.source := by
  induction text generalizing cursor with
  | nil => rfl
  | cons expected text hypothesis =>
    unfold walkLiteral
    split
    · rw [hypothesis, source_advance]
    · exact source_advance cursor

/-- The walk over a literal compares the characters one by one. -/
theorem Splits.walkLiteral (splits : cursor.Splits behind rest) (text : List Char) :
    (walkLiteral text cursor).1 = text.isPrefixOf rest ∧
      ∀ remaining, rest = text ++ remaining →
        (walkLiteral text cursor).2.Splits (behind ++ text) remaining := by
  induction text generalizing cursor behind rest with
  | nil =>
    refine ⟨(List.isPrefixOf_nil_left).symm, ?_⟩
    rintro remaining rfl
    simpa [Cursor.walkLiteral] using splits
  | cons expected text hypothesis =>
    unfold Cursor.walkLiteral
    rw [splits.peek]
    cases rest with
    | nil => exact ⟨rfl, nofun⟩
    | cons char rest =>
      by_cases same : char = expected
      · subst same
        obtain ⟨found, stands⟩ := hypothesis splits.advance
        simp only [List.head?_cons, beq_self_eq_true, if_true, List.isPrefixOf,
          Bool.true_and]
        refine ⟨found, fun remaining taken => ?_⟩
        simpa using stands remaining (List.cons.inj taken).2
      · have different : (expected == char) = false :=
          beq_false_of_ne (Ne.symm same)
        simp [List.isPrefixOf, same, different]

theorem source_walkWhile (accepts : Char → Bool) (bound : Nat) (cursor : Cursor) :
    (walkWhile accepts bound cursor).source = cursor.source := by
  induction bound generalizing cursor with
  | zero => rfl
  | succ bound hypothesis =>
    unfold walkWhile
    split
    · split
      · rw [hypothesis, source_advance]
      · rfl
    · rfl

/-- The walk over the characters of a class takes all of them. -/
theorem Splits.walkWhile (splits : cursor.Splits behind rest)
    (accepts : Char → Bool) {bound : Nat} (enough : rest.length ≤ bound) :
    (walkWhile accepts bound cursor).Splits (behind ++ rest.takeWhile accepts)
      (rest.dropWhile accepts) := by
  induction bound generalizing cursor behind rest with
  | zero =>
    cases List.eq_nil_of_length_eq_zero (Nat.le_zero.mp enough)
    simpa [Cursor.walkWhile] using splits
  | succ bound hypothesis =>
    unfold Cursor.walkWhile
    rw [splits.peek]
    cases rest with
    | nil => simpa using splits
    | cons char rest =>
      by_cases accepted : accepts char = true
      · have walked := hypothesis splits.advance (Nat.le_of_succ_le_succ enough)
        simpa [accepted] using walked
      · simpa [accepted] using splits

/-- Skipping takes the longest accepted prefix. -/
theorem Splits.skipWhile (splits : cursor.Splits behind rest)
    (accepts : Char → Bool) :
    (cursor.skipWhile accepts).Splits (behind ++ rest.takeWhile accepts)
      (rest.dropWhile accepts) :=
  splits.walkWhile accepts splits.length_le

theorem source_walkQuoted (quote : Char) (bound : Nat) (escaped : Bool)
    (collected : List Char) (cursor : Cursor) :
    (walkQuoted quote bound escaped collected cursor).2.source =
      cursor.source := by
  induction bound generalizing escaped collected cursor with
  | zero => rfl
  | succ bound hypothesis =>
    unfold walkQuoted
    cases cursor.peek? with
    | none => rfl
    | some char => grind [source_advance]

/-- The walk over a quoted text ends behind its closing quote. -/
theorem Splits.walkQuoted (splits : cursor.Splits behind rest) (quote : Char)
    {bound : Nat} (enough : rest.length ≤ bound) (escaped : Bool)
    (collected : List Char) :
    (walkQuoted quote bound escaped collected cursor).1 =
      (cutQuoted quote escaped collected rest).map Prod.fst ∧
    ∀ text remaining,
      cutQuoted quote escaped collected rest = some (text, remaining) →
      ∃ consumed,
        rest = consumed ++ remaining ∧
        (walkQuoted quote bound escaped collected cursor).2.Splits
          (behind ++ consumed) remaining := by
  induction bound generalizing cursor behind rest escaped collected with
  | zero =>
    cases List.eq_nil_of_length_eq_zero (Nat.le_zero.mp enough)
    exact ⟨rfl, nofun⟩
  | succ bound hypothesis =>
    unfold Cursor.walkQuoted
    rw [splits.peek]
    cases rest with
    | nil => exact ⟨rfl, nofun⟩
    | cons char rest =>
      have next := splits.advance
      have goesOn : ∀ escaped collected,
          (Cursor.walkQuoted quote bound escaped collected cursor.advance).1 =
            (cutQuoted quote escaped collected rest).map Prod.fst ∧
          ∀ text remaining,
            cutQuoted quote escaped collected rest = some (text, remaining) →
            ∃ consumed,
              char :: rest = consumed ++ remaining ∧
              (Cursor.walkQuoted quote bound escaped collected
                cursor.advance).2.Splits (behind ++ consumed) remaining := by
        intro escaped collected
        obtain ⟨same, stands⟩ :=
          hypothesis next (Nat.le_of_succ_le_succ enough) escaped collected
        refine ⟨same, fun text remaining cut => ?_⟩
        obtain ⟨consumed, rfl, after⟩ := stands text remaining cut
        exact ⟨char :: consumed, rfl, by simpa using after⟩
      simp only [List.head?_cons, cutQuoted]
      split
      · exact ⟨rfl, nofun⟩
      · split
        · exact goesOn _ _
        · split
          · exact goesOn _ _
          · split
            · refine ⟨rfl, fun text remaining cut => ?_⟩
              cases cut
              exact ⟨[char], rfl, next⟩
            · exact goesOn _ _

end Cursor

/-! ## The matchers -/

/-- What a matcher answers at a cursor: the token text that it cuts off the
characters still to be read, and a cursor behind the text it consumed. -/
structure Matcher.Answers (shape : Matcher) (cursor : Cursor)
    (behind rest : List Char) : Prop where
  source : (shape.run cursor).2.source = cursor.source
  text : (shape.run cursor).1 = (shape.cut? rest).map Prod.fst
  stands : ∀ text remaining,
      shape.cut? rest = some (text, remaining) →
      ∃ consumed,
        rest = consumed ++ remaining ∧
        (shape.run cursor).2.Splits (behind ++ consumed) remaining

variable {cursor after : Cursor}
  {behind rest consumed remaining text : List Char} {shape : Matcher}

/-- A matcher answers with nothing where its shape cuts nothing. -/
theorem Matcher.answers_none (runs : shape.run cursor = (none, after))
    (same : after.source = cursor.source) (cuts : shape.cut? rest = none) :
    shape.Answers cursor behind rest := by
  constructor
  · rw [runs, same]
  · rw [runs, cuts]
    rfl
  · intro text remaining cut
    rw [cuts] at cut
    cases cut

/-- A matcher answers with what its shape cuts off. -/
theorem Matcher.answers_some (runs : shape.run cursor = (some text, after))
    (same : after.source = cursor.source)
    (taken : rest = consumed ++ remaining)
    (cuts : shape.cut? rest = some (text, remaining))
    (stands : after.Splits (behind ++ consumed) remaining) :
    shape.Answers cursor behind rest := by
  constructor
  · rw [runs, same]
  · rw [runs, cuts]
    rfl
  · intro other others cut
    rw [cuts] at cut
    cases cut
    exact ⟨consumed, taken, runs ▸ stands⟩

/-- Matching one character of a set is cutting it off. -/
theorem Matcher.answers_oneOf (splits : cursor.Splits behind rest)
    (set : List Char) : (Matcher.oneOf set).Answers cursor behind rest := by
  cases rest with
  | nil =>
    have stays : (Matcher.oneOf set).run cursor = (none, cursor) := by
      simp [Matcher.run, splits.peek]
    exact answers_none stays rfl rfl
  | cons char rest =>
    have runs : (Matcher.oneOf set).run cursor =
        (if set.contains char then some [char] else none, cursor.advance) := by
      simp [Matcher.run, splits.peek]
    by_cases member : set.contains char = true
    · rw [if_pos member] at runs
      exact answers_some runs (Cursor.source_advance cursor) rfl (if_pos member)
        splits.advance
    · rw [if_neg member] at runs
      exact answers_none runs (Cursor.source_advance cursor) (if_neg member)

/-- Matching a literal is cutting it off. -/
theorem Matcher.answers_literal (splits : cursor.Splits behind rest)
    (text : List Char) : (Matcher.literal text).Answers cursor behind rest := by
  obtain ⟨found, stands⟩ := splits.walkLiteral text
  have same := Cursor.source_walkLiteral text cursor
  by_cases isPrefix : text.isPrefixOf rest = true
  · have runs : (Matcher.literal text).run cursor =
          (some text, (cursor.walkLiteral text).2) := by
      simp only [Matcher.run]
      rw [← Prod.eta (cursor.walkLiteral text), found, isPrefix]
    obtain ⟨remaining, rfl⟩ := List.isPrefixOf_iff_prefix.mp isPrefix
    refine answers_some runs same rfl ?_ (stands remaining rfl)
    rw [Matcher.cut?, if_pos isPrefix, List.drop_left]
  · have runs : (Matcher.literal text).run cursor =
          (none, (cursor.walkLiteral text).2) := by
      simp only [Matcher.run]
      rw [← Prod.eta (cursor.walkLiteral text), found,
        Bool.eq_false_iff.mpr isPrefix]
    exact answers_none runs same (if_neg isPrefix)

/-- Matching a keyword is cutting it off where no word goes on. -/
theorem Matcher.answers_keyword (splits : cursor.Splits behind rest)
    (word : List Char) : (Matcher.keyword word).Answers cursor behind rest := by
  obtain ⟨found, stands⟩ := splits.walkLiteral word
  have same := Cursor.source_walkLiteral word cursor
  by_cases isPrefix : word.isPrefixOf rest = true
  · obtain ⟨remaining, rfl⟩ := List.isPrefixOf_iff_prefix.mp isPrefix
    have runs : (Matcher.keyword word).run cursor =
        (if remaining.head?.any Text.isWordChar then none else some word,
          (cursor.walkLiteral word).2) := by
      simp only [Matcher.run]
      rw [← (stands remaining rfl).peek, ← Prod.eta (cursor.walkLiteral word),
        found, isPrefix]
    by_cases continued : remaining.head?.any Text.isWordChar = true
    · rw [if_pos continued] at runs
      refine answers_none runs same ?_
      rw [Matcher.cut?, isPrefix, List.drop_left, continued]
      rfl
    · rw [if_neg continued] at runs
      refine answers_some runs same rfl ?_ (stands remaining rfl)
      rw [Matcher.cut?, isPrefix, List.drop_left, Bool.eq_false_iff.mpr continued]
      rfl
  · have runs : (Matcher.keyword word).run cursor =
          (none, (cursor.walkLiteral word).2) := by
      simp only [Matcher.run]
      rw [← Prod.eta (cursor.walkLiteral word), found,
        Bool.eq_false_iff.mpr isPrefix]
    refine answers_none runs same ?_
    rw [Matcher.cut?, Bool.eq_false_iff.mpr isPrefix]
    rfl

/-- Matching a comment is cutting it off up to the end of its line. -/
theorem Matcher.answers_comment (splits : cursor.Splits behind rest)
    (first : Char) (opening : List Char) :
    (Matcher.comment first opening).Answers cursor behind rest := by
  obtain ⟨found, stands⟩ := splits.walkLiteral (first :: opening)
  have same := Cursor.source_walkLiteral (first :: opening) cursor
  by_cases isPrefix : (first :: opening).isPrefixOf rest = true
  · obtain ⟨line, rfl⟩ := List.isPrefixOf_iff_prefix.mp isPrefix
    have after := (stands line rfl).skipWhile (· != '\n')
    rw [List.append_assoc] at after
    have taken : first :: opening ++ line =
          (first :: opening ++ line.takeWhile (· != '\n')) ++
            line.dropWhile (· != '\n') := by
      rw [List.append_assoc, List.takeWhile_append_dropWhile]
    have slice := (taken ▸ splits).slice after
    have runs : (Matcher.comment first opening).run cursor =
        (some (first :: opening ++ line.takeWhile (· != '\n')),
          (cursor.walkLiteral (first :: opening)).2.skipWhile (· != '\n')) := by
      rw [← slice, Matcher.run,
        ← Prod.eta (cursor.walkLiteral (first :: opening)), found, isPrefix]
    refine answers_some runs ((Cursor.source_walkWhile _ _ _).trans same)
      taken ?_ after
    rw [Matcher.cut?, if_pos isPrefix, List.drop_left]
  · have runs : (Matcher.comment first opening).run cursor =
        (none, (cursor.walkLiteral (first :: opening)).2) := by
      simp only [Matcher.run]
      rw [← Prod.eta (cursor.walkLiteral (first :: opening)), found,
        Bool.eq_false_iff.mpr isPrefix]
    exact answers_none runs same (if_neg isPrefix)

/-- Matching a quoted text is cutting it off up to its closing quote. -/
theorem Matcher.answers_quotedText (splits : cursor.Splits behind rest) :
    Matcher.quotedText.Answers cursor behind rest := by
  cases rest with
  | nil =>
    have stays : Matcher.quotedText.run cursor = (none, cursor) := by
      simp [Matcher.run, splits.peek]
    exact answers_none stays rfl rfl
  | cons char rest =>
    by_cases quote : (char == '"' || char == '\'') = true
    · have runs : Matcher.quotedText.run cursor =
          cursor.advance.walkQuoted char cursor.source.size false [] := by
        simp only [Matcher.run, splits.peek, List.head?_cons, quote, if_true]
      have enough : rest.length ≤ cursor.source.size :=
        Nat.le_of_succ_le splits.length_le
      obtain ⟨same, stands⟩ := splits.advance.walkQuoted char enough false []
      have cuts : Matcher.quotedText.cut? (char :: rest) =
            cutQuoted char false [] rest :=
        if_pos quote
      constructor
      · rw [runs, Cursor.source_walkQuoted, Cursor.source_advance]
      · rw [runs, cuts, same]
      · intro text remaining cut
        rw [cuts] at cut
        obtain ⟨consumed, rfl, after⟩ := stands text remaining cut
        rw [List.append_assoc] at after
        exact ⟨char :: consumed, rfl, runs ▸ after⟩
    · have runs : Matcher.quotedText.run cursor = (none, cursor.advance) := by
        simp only [Matcher.run, splits.peek, List.head?_cons, quote,
          Bool.false_eq_true, if_false]
      exact answers_none runs (Cursor.source_advance cursor) (if_neg quote)

/-- A walk over digits has moved if there was one. -/
theorem Cursor.Splits.index_skipWhile (splits : cursor.Splits behind rest)
    (accepts : Char → Bool) :
    ((cursor.skipWhile accepts).index == cursor.index) =
      (rest.takeWhile accepts).isEmpty := by
  rw [(splits.skipWhile accepts).index, splits.index, List.length_append]
  cases rest.takeWhile accepts <;> simp

/-- With a fraction, digits stand on both sides of a dot. -/
theorem Matcher.answers_fraction (splits : cursor.Splits behind rest)
    (digits : (rest.takeWhile Text.isDigit).isEmpty = false) :
    (Matcher.number true).Answers cursor behind rest := by
  have after := splits.skipWhile Text.isDigit
  have moved := splits.index_skipWhile Text.isDigit
  have same : (cursor.skipWhile Text.isDigit).source = cursor.source :=
    Cursor.source_walkWhile _ _ _
  have taken : rest = rest.takeWhile Text.isDigit ++ rest.dropWhile Text.isDigit :=
    (List.takeWhile_append_dropWhile).symm
  by_cases dotted : (rest.dropWhile Text.isDigit).head? = some '.'
  · obtain ⟨tail, left⟩ : ∃ tail, rest.dropWhile Text.isDigit = '.' :: tail := by
      cases remaining : rest.dropWhile Text.isDigit with
      | nil =>
        rw [remaining] at dotted
        cases dotted
      | cons char tail =>
        rw [remaining] at dotted
        cases dotted
        exact ⟨tail, rfl⟩
    rw [left] at after taken
    have peeks : (cursor.skipWhile Text.isDigit).peek? = some '.' := after.peek
    have dot := after.advance
    have behindDot := dot.skipWhile Text.isDigit
    have movedAgain := dot.index_skipWhile Text.isDigit
    have sameAgain :
        ((cursor.skipWhile Text.isDigit).advance.skipWhile
          Text.isDigit).source = cursor.source :=
      (Cursor.source_walkWhile _ _ _).trans ((Cursor.source_advance _).trans same)
    cases nothing : (tail.takeWhile Text.isDigit).isEmpty with
    | true =>
      have runs : (Matcher.number true).run cursor =
            (none, (cursor.skipWhile Text.isDigit).advance.skipWhile
               Text.isDigit) := by
        simp [Matcher.run, moved, digits, peeks, movedAgain, nothing]
      exact answers_none runs sameAgain
        (by simp [Matcher.cut?, digits, left, nothing])
    | false =>
      have whole : rest =
            (rest.takeWhile Text.isDigit ++ '.' ::
              tail.takeWhile Text.isDigit) ++ tail.dropWhile Text.isDigit := by
        rw [List.append_assoc, List.cons_append, List.takeWhile_append_dropWhile]
        exact taken
      rw [List.append_assoc, List.append_assoc] at behindDot
      have slice := (whole ▸ splits).slice behindDot
      have runs : (Matcher.number true).run cursor =
          (some (rest.takeWhile Text.isDigit ++ '.' :: tail.takeWhile Text.isDigit),
            (cursor.skipWhile Text.isDigit).advance.skipWhile Text.isDigit) := by
        rw [← slice]
        simp [Matcher.run, moved, digits, peeks, movedAgain, nothing]
      refine answers_some runs sameAgain whole ?_ behindDot
      simp [Matcher.cut?, digits, left, nothing]
  · have runs : (Matcher.number true).run cursor =
        (none, (cursor.skipWhile Text.isDigit).advance) := by
      simp [Matcher.run, moved, digits, after.peek, dotted]
    refine answers_none runs ((Cursor.source_advance _).trans same) ?_
    simp only [Matcher.cut?, digits, Bool.false_eq_true, if_false, Bool.not_true]
    split
    · next tail left =>
      rw [left] at dotted
      exact absurd rfl dotted
    · rfl

/-- Matching a number is cutting off its sign and its digits. -/
theorem Matcher.answers_number (splits : cursor.Splits behind rest)
    (fraction : Bool) :
    (Matcher.number fraction).Answers cursor behind rest := by
  have after := splits.skipWhile Text.isDigit
  have moved := splits.index_skipWhile Text.isDigit
  have same : (cursor.skipWhile Text.isDigit).source = cursor.source :=
    Cursor.source_walkWhile _ _ _
  have taken : rest = rest.takeWhile Text.isDigit ++ rest.dropWhile Text.isDigit :=
    (List.takeWhile_append_dropWhile).symm
  cases nothing : (rest.takeWhile Text.isDigit).isEmpty with
  | true =>
    have runs : (Matcher.number fraction).run cursor =
        (none, cursor.skipWhile Text.isDigit) := by
      simp only [Matcher.run, moved, nothing, if_true]
    exact answers_none runs same (by simp only [Matcher.cut?, nothing, if_true])
  | false =>
    cases fraction with
    | false =>
      have slice := (taken ▸ splits).slice after
      have runs : (Matcher.number false).run cursor =
          (some (rest.takeWhile Text.isDigit), cursor.skipWhile Text.isDigit) := by
        rw [← slice]
        simp only [Matcher.run, moved, nothing, Bool.false_eq_true, if_false,
          Bool.not_false, if_true]
      exact answers_some runs same taken (by simp [Matcher.cut?, nothing]) after
    | true => exact answers_fraction splits nothing

/-- Matching an identifier is cutting off its first character and those that go
on. -/
theorem Matcher.answers_identifier (splits : cursor.Splits behind rest) :
    Matcher.identifier.Answers cursor behind rest := by
  cases rest with
  | nil =>
    have stays : Matcher.identifier.run cursor = (none, cursor) := by
      simp [Matcher.run, splits.peek]
    exact answers_none stays rfl rfl
  | cons char rest =>
    by_cases begins : beginsName char = true
    · have after := splits.advance.skipWhile Text.isWordChar
      rw [List.append_assoc] at after
      have taken : char :: rest = (char :: rest.takeWhile Text.isWordChar) ++
          rest.dropWhile Text.isWordChar := by
        rw [List.cons_append, List.takeWhile_append_dropWhile]
      have slice := (taken ▸ splits).slice after
      have runs : Matcher.identifier.run cursor =
          (some (char :: rest.takeWhile Text.isWordChar),
            cursor.advance.skipWhile Text.isWordChar) := by
        simp only [Matcher.run, splits.peek, List.head?_cons, begins, if_true]
        exact Prod.ext (congrArg some slice) rfl
      have same :
          (cursor.advance.skipWhile Text.isWordChar).source = cursor.source :=
        (Cursor.source_walkWhile _ _ _).trans (Cursor.source_advance cursor)
      exact answers_some runs same taken (if_pos begins) after
    · have runs : Matcher.identifier.run cursor = (none, cursor.advance) := by
        simp only [Matcher.run, splits.peek, List.head?_cons, begins,
          Bool.false_eq_true, if_false]
      exact answers_none runs (Cursor.source_advance cursor) (if_neg begins)

/-- Running a matcher on a cursor is cutting the characters it has still to read. -/
theorem Matcher.answers (splits : cursor.Splits behind rest) (shape : Matcher) :
    shape.Answers cursor behind rest := by
  cases shape with
  | oneOf set => exact answers_oneOf splits set
  | literal text => exact answers_literal splits text
  | keyword word => exact answers_keyword splits word
  | comment first opening => exact answers_comment splits first opening
  | quotedText => exact answers_quotedText splits
  | number fraction => exact answers_number splits fraction
  | identifier => exact answers_identifier splits

end LiveMarkup
