import Mathlib.Data.List.TakeWhile
import LiveMarkup.Token.Lexer

/-!
# Positions are exact

A cursor notes the beginning of a line when it walks past the end of the line
before, and it keeps what it has noted when it is moved back.  So it always
knows the line beginnings up to the furthest offset it has ever reached,
whatever a failed attempt has looked ahead at; and the position of any offset up
to there is the one that counting characters gives.
-/

namespace LiveMarkup

/-- The position of an offset, counted in the text before it. -/
def exactPosition (source : List Char) (offset : Nat) : Position :=
  ⟨(source.take offset).count '\n' + 1,
    ((source.take offset).reverse.takeWhile (· != '\n')).length + 1⟩

/-- The beginnings of the lines that begin at an offset or before, latest first,
without the first line. -/
def lineStartsUpTo (source : List Char) : Nat → List Nat
  | 0 => []
  | offset + 1 =>
    if source[offset]? = some '\n' then (offset + 1) :: lineStartsUpTo source offset
    else lineStartsUpTo source offset

/-! ## Line beginnings -/

variable {source : List Char} {offset reach : Nat}

/-- Line starts are noted only as far as the cursor came. -/
theorem le_of_mem_lineStartsUpTo {start : Nat}
    (member : start ∈ lineStartsUpTo source reach) : start ≤ reach := by
  induction reach with
  | zero => cases member
  | succ reach hypothesis =>
    unfold lineStartsUpTo at member
    split at member
    · rcases List.mem_cons.mp member with rfl | earlier
      · exact Nat.le_refl _
      · exact Nat.le_succ_of_le (hypothesis earlier)
    · exact Nat.le_succ_of_le (hypothesis member)

theorem headD_lineStartsUpTo_le :
    (lineStartsUpTo source reach).headD 0 ≤ reach := by
  cases starts : lineStartsUpTo source reach with
  | nil => exact Nat.zero_le _
  | cons start others =>
    exact le_of_mem_lineStartsUpTo (by rw [starts]; exact List.mem_cons_self ..)

/-- Behind a line end that has been reached there is a line beginning. -/
theorem lt_headD_lineStartsUpTo (lineEnd : source[offset]? = some '\n')
    (reached : offset < reach) :
    offset < (lineStartsUpTo source reach).headD 0 := by
  induction reach with
  | zero => cases reached
  | succ reach hypothesis =>
    unfold lineStartsUpTo
    rcases Nat.lt_succ_iff_lt_or_eq.mp reached with before | rfl
    · split
      · exact Nat.lt_succ_of_lt before
      · exact hypothesis before
    · rw [if_pos lineEnd]
      exact Nat.lt_succ_self _

/-- The line starts up to an offset are those of the text before it. -/
theorem filter_lineStartsUpTo (within : offset ≤ reach) :
    (lineStartsUpTo source reach).filter (· ≤ offset) =
      lineStartsUpTo source offset := by
  induction reach with
  | zero =>
    cases Nat.le_zero.mp within
    rfl
  | succ reach hypothesis =>
    rcases Nat.le_succ_iff.mp within with earlier | rfl
    · rw [lineStartsUpTo]
      split
      · rw [List.filter_cons_of_neg (by simpa using Nat.lt_succ_of_le earlier),
          hypothesis earlier]
      · exact hypothesis earlier
    · exact List.filter_eq_self.mpr fun start member =>
        decide_eq_true (le_of_mem_lineStartsUpTo member)

theorem take_succ_of_getElem? {char : Char} (next : source[offset]? = some char) :
    source.take (offset + 1) = source.take offset ++ [char] := by
  rw [List.take_add_one, next, Option.toList_some]

/-- The line beginnings up to an offset tell its position. -/
theorem position_lineStartsUpTo (within : offset ≤ source.length) :
    (⟨(lineStartsUpTo source offset).length + 1,
      offset - (lineStartsUpTo source offset).headD 0 + 1⟩ : Position) =
      exactPosition source offset := by
  unfold exactPosition
  induction offset with
  | zero => rfl
  | succ offset hypothesis =>
    have next : source[offset]? = some source[offset] :=
      List.getElem?_eq_getElem within
    have before := Position.mk.inj (hypothesis (Nat.le_of_succ_le within))
    have start := @headD_lineStartsUpTo_le source offset
    rw [take_succ_of_getElem? next]
    by_cases lineEnd : source[offset] = '\n'
    · rw [lineStartsUpTo, if_pos (by rw [next, lineEnd]), lineEnd]
      simp only [List.length_cons, List.headD_cons, Nat.sub_self,
        List.count_append, List.count_singleton_self, List.reverse_append,
        List.reverse_cons, List.reverse_nil, List.nil_append, List.cons_append,
        bne_self_eq_false, Bool.false_eq_true, not_false_eq_true,
        List.takeWhile_cons_of_neg, List.length_nil]
      rw [before.1]
    · have other : (source[offset] != '\n') = true := bne_iff_ne.mpr lineEnd
      have count : [source[offset]].count '\n' = 0 := by
        simp [lineEnd]
      rw [lineStartsUpTo, if_neg (by rw [next]; simpa using lineEnd)]
      simp only [List.count_append, count, Nat.add_zero, List.reverse_append,
        List.reverse_cons, List.reverse_nil, List.nil_append, List.cons_append,
        other, List.takeWhile_cons_of_pos, List.length_cons, ← before.1]
      congr 1
      omega

namespace Cursor

/-! ## What a cursor has noted -/

/-- A cursor that has noted the lines of its text up to an offset, and stands
there or before. -/
structure Notes (cursor : Cursor) (reach : Nat) : Prop where
  index : cursor.index ≤ reach
  within : reach ≤ cursor.source.size
  lineStarts : cursor.lineStarts = lineStartsUpTo cursor.source.toList reach

theorem notes_ofString (text : String) : (ofString text).Notes 0 :=
  ⟨Nat.le_refl _, Nat.zero_le _, rfl⟩

variable {cursor after : Cursor}

/-- The position of an offset is exact once the cursor has been there. -/
theorem Notes.position (notes : cursor.Notes reach) (reached : offset ≤ reach) :
    cursor.position offset = exactPosition cursor.source.toList offset := by
  unfold Cursor.position
  rw [notes.lineStarts, filter_lineStartsUpTo reached]
  exact position_lineStartsUpTo (by
    rw [Array.length_toList]
    exact Nat.le_trans reached notes.within)

theorem Notes.moveTo (notes : cursor.Notes reach) (reached : offset ≤ reach) :
    (cursor.moveTo offset).Notes reach :=
  ⟨reached, notes.within, notes.lineStarts⟩

/-- A cursor over the same text that has noted the lines up to an offset further
on, or as far. -/
structure Goes (reach : Nat) (cursor after : Cursor) : Prop where
  source : after.source = cursor.source
  notes : ∃ further, reach ≤ further ∧ after.Notes further

theorem Notes.stays (notes : cursor.Notes reach) : Goes reach cursor cursor :=
  ⟨rfl, reach, Nat.le_refl _, notes⟩

theorem Goes.trans {middle : Cursor} (first : Goes reach cursor middle)
    (second : ∀ further, middle.Notes further → Goes further middle after) :
    Goes reach cursor after := by
  obtain ⟨further, longer, notes⟩ := first.notes
  obtain ⟨source, furthest, longest, noted⟩ := second further notes
  exact ⟨source.trans first.source, furthest, Nat.le_trans longer longest, noted⟩

/-- A line beginning is noted only the first time that the cursor walks past it. -/
theorem Notes.advance (notes : cursor.Notes reach) :
    Goes reach cursor cursor.advance := by
  refine ⟨source_advance cursor, ?_⟩
  unfold Cursor.advance Cursor.peek?
  split
  · exact ⟨reach, Nat.le_refl _, notes⟩
  · next char next =>
    have inside : cursor.index < cursor.source.size :=
      (Array.getElem?_eq_some_iff.mp next).1
    rw [← Array.getElem?_toList] at next
    rcases Nat.lt_or_eq_of_le notes.index with behind | atReach
    · -- the cursor has been here before, so there is nothing to note
      refine ⟨reach, Nat.le_refl _, ?_⟩
      have known :
          (char == '\n' && decide
             (cursor.lineStarts.headD 0 < cursor.index + 1)) = false := by
        by_cases lineEnd : char = '\n'
        · subst lineEnd
          have noted := lt_headD_lineStartsUpTo next behind
          rw [← notes.lineStarts] at noted
          simpa using Nat.succ_le_of_lt noted
        · simp [lineEnd]
      simp only [known, Bool.false_eq_true, if_false]
      exact ⟨behind, notes.within, notes.lineStarts⟩
    · refine ⟨reach + 1, Nat.le_succ _, ?_⟩
      have new : cursor.lineStarts.headD 0 < cursor.index + 1 := by
        rw [notes.lineStarts, atReach]
        exact Nat.lt_succ_of_le headD_lineStartsUpTo_le
      rw [atReach] at next inside new ⊢
      by_cases lineEnd : char = '\n'
      · subst lineEnd
        simp only [beq_self_eq_true, Bool.true_and, decide_eq_true_eq, new, if_true]
        refine ⟨Nat.le_refl _, inside, ?_⟩
        rw [lineStartsUpTo, if_pos next, notes.lineStarts]
      · simp only [beq_iff_eq, lineEnd, Bool.and_eq_true, false_and, if_false]
        refine ⟨Nat.le_refl _, inside, ?_⟩
        rw [lineStartsUpTo, if_neg (by rw [next]; simpa using lineEnd),
          notes.lineStarts]

/-- A literal is walked over with its lines noted. -/
theorem Notes.walkLiteral (notes : cursor.Notes reach) (text : List Char) :
    Goes reach cursor (cursor.walkLiteral text).2 := by
  induction text generalizing cursor reach with
  | nil => exact notes.stays
  | cons expected text hypothesis =>
    unfold Cursor.walkLiteral
    split
    · exact notes.advance.trans fun further noted => hypothesis noted
    · exact notes.advance

/-- So is a run of characters. -/
theorem Notes.walkWhile (notes : cursor.Notes reach) (accepts : Char → Bool)
    (bound : Nat) : Goes reach cursor (cursor.walkWhile accepts bound) := by
  induction bound generalizing cursor reach with
  | zero => exact notes.stays
  | succ bound hypothesis =>
    unfold Cursor.walkWhile
    split
    · split
      · exact notes.advance.trans fun further noted => hypothesis noted
      · exact notes.stays
    · exact notes.stays

theorem Notes.skipWhile (notes : cursor.Notes reach) (accepts : Char → Bool) :
    Goes reach cursor (cursor.skipWhile accepts) :=
  notes.walkWhile accepts _

/-- And so is a quoted text. -/
theorem Notes.walkQuoted (notes : cursor.Notes reach) (quote : Char)
    (bound : Nat) (escaped : Bool) (collected : List Char) :
    Goes reach cursor (cursor.walkQuoted quote bound escaped collected).2 := by
  induction bound generalizing cursor reach escaped collected with
  | zero => exact notes.stays
  | succ bound hypothesis =>
    have goesOn : ∀ escaped collected,
        Goes reach cursor (cursor.advance.walkQuoted quote bound escaped
          collected).2 :=
      fun escaped collected => notes.advance.trans fun further noted =>
        hypothesis noted _ _
    unfold Cursor.walkQuoted
    split
    · exact notes.stays
    · dsimp only
      split
      · exact notes.advance
      · split
        · exact goesOn _ _
        · split
          · exact goesOn _ _
          · split
            · exact notes.advance
            · exact goesOn _ _

end Cursor

variable {cursor : Cursor}

/-- Whatever a matcher looks at, the cursor notes all lines it has walked past. -/
theorem Matcher.goes_run (shape : Matcher) (notes : cursor.Notes reach) :
    Cursor.Goes reach cursor (shape.run cursor).2 := by
  cases shape with
  | oneOf set =>
    unfold Matcher.run
    dsimp only
    split
    · exact notes.advance
    · exact notes.stays
  | literal text =>
    have walked := notes.walkLiteral text
    unfold Matcher.run
    dsimp only
    split <;> next run => rw [run] at walked; exact walked
  | keyword word =>
    have walked := notes.walkLiteral word
    unfold Matcher.run
    dsimp only
    split <;> next run => rw [run] at walked; exact walked
  | comment first opening =>
    have walked := notes.walkLiteral (first :: opening)
    unfold Matcher.run
    dsimp only
    split
    · next run =>
      rw [run] at walked
      exact walked.trans fun further noted => noted.skipWhile _
    · next run => rw [run] at walked; exact walked
  | quotedText =>
    unfold Matcher.run
    dsimp only
    split
    · split
      · exact notes.advance.trans fun further noted => noted.walkQuoted _ _ _ _
      · exact notes.advance
    · exact notes.stays
  | number fraction =>
    have whole := notes.skipWhile Text.isDigit
    have dot := whole.trans fun further noted => noted.advance
    have digits := dot.trans fun further noted => noted.skipWhile Text.isDigit
    unfold Matcher.run
    dsimp only
    split
    · exact whole
    · split
      · exact whole
      · split
        · exact dot
        · split
          · exact digits
          · exact digits
  | identifier =>
    unfold Matcher.run
    dsimp only
    split
    · split
      · exact notes.advance.trans fun further noted => noted.skipWhile _
      · exact notes.advance
    · exact notes.stays

/-- However many rules fail before one matches or none does, all lines walked
past are noted. -/
theorem goes_firstMatch (rules : List Rule) (notes : cursor.Notes reach)
    (reached : offset ≤ reach) :
    (∀ found,
      firstMatch offset rules cursor = .inl found →
      Cursor.Goes reach cursor found.after) ∧
    ∀ after,
      firstMatch offset rules cursor = .inr after →
      Cursor.Goes reach cursor after := by
  induction rules generalizing cursor reach with
  | nil =>
    refine ⟨nofun, fun after none => ?_⟩
    cases none
    exact notes.stays
  | cons rule others hypothesis =>
    have run := rule.shape.goes_run notes
    obtain ⟨further, longer, noted⟩ := run.notes
    have stillReached := Nat.le_trans reached longer
    have rest := hypothesis (noted.moveTo stillReached) stillReached
    have goesOn : ∀ after,
        Cursor.Goes further ((rule.shape.run cursor).2.moveTo offset) after →
        Cursor.Goes reach cursor after := by
      rintro after ⟨source, furthest, longest, notes⟩
      exact ⟨source.trans run.source, furthest, Nat.le_trans longer longest, notes⟩
    unfold firstMatch
    rw [← Prod.eta (rule.shape.run cursor)]
    cases (rule.shape.run cursor).1 with
    | none =>
      exact ⟨fun found same => goesOn _ (rest.1 found same),
        fun after same => goesOn _ (rest.2 after same)⟩
    | some text =>
      dsimp only
      split
      · refine ⟨fun found same => ?_, nofun⟩
        cases same
        exact run
      · constructor
        · intro found same
          exact goesOn _ (rest.1 found same)
        · intro after same
          exact goesOn _ (rest.2 after same)

end LiveMarkup
