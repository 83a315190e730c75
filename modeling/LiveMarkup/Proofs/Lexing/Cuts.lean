import LiveMarkup.Proofs.Printing.Lexemes

/-!
# What a shape takes

A shape takes some characters off the beginning of a text for what these
characters are and for the one that follows them: that one could not have been
taken too.  Nothing further on matters, so a shape takes the same from a text
that is cut short behind what it takes.
-/

namespace LiveMarkup

/-- A text without line ends in which every quote of the given kind stands
behind a backslash that shields it. -/
inductive Shielded (quote : Char) : List Char → Prop where
  | nil : Shielded quote []
  | plain {char : Char} {rest : List Char} (other : char ≠ quote)
      (bare : char ≠ '\\') (inLine : char ≠ '\n')
      (others : Shielded quote rest) :
      Shielded quote (char :: rest)
  | shield {char : Char} {rest : List Char} (inLine : char ≠ '\n')
      (others : Shielded quote rest) : Shielded quote ('\\' :: char :: rest)

/-- The quotation marks. -/
def quoteChars : List Char := ['"', '\'']

/-- A shape makes a token text of some characters when others follow them. -/
def Matcher.Takes : Matcher → List Char → List Char → List Char → Prop
  | .oneOf set, text, consumed, _ => ∃ char ∈ set, consumed = [char] ∧ text = [char]
  | .literal mark, text, consumed, _ => consumed = mark ∧ text = mark
  | .keyword word, text, consumed, remaining =>
    consumed = word ∧ text = word ∧ remaining.head?.any Text.isWordChar = false
  | .comment first opening, text, consumed, remaining =>
    text = consumed ∧ (∃ line, consumed = first :: opening ++ line ∧ '\n' ∉ line) ∧
      remaining.head?.all (· == '\n') = true
  | .quotedText, text, consumed, _ =>
    ∃ quote ∈ quoteChars, consumed = quote :: text ++ [quote] ∧ Shielded quote text
  | .number false, text, consumed, remaining =>
    text = consumed ∧ IsDigits consumed ∧ remaining.head?.any Text.isDigit = false
  | .number true, text, consumed, remaining =>
    text = consumed ∧
    (∃ whole fraction,
      consumed = whole ++ '.' :: fraction ∧ IsDigits whole ∧
      IsDigits fraction) ∧
    remaining.head?.any Text.isDigit = false
  | .identifier, text, consumed, remaining =>
    text = consumed ∧
    (∃ first others,
      consumed = first :: others ∧ beginsName first = true ∧
      others.all Text.isWordChar = true) ∧
    remaining.head?.any Text.isWordChar = false

variable {shape : Matcher} {text consumed remaining chars : List Char}

/-! ## Runs of characters -/

theorem head?_dropWhile (accepts : Char → Bool) (chars : List Char) :
    (chars.dropWhile accepts).head?.any accepts = false := by
  cases left : chars.dropWhile accepts with
  | nil => rfl
  | cons char rest =>
    have outside := List.head?_dropWhile_not accepts chars
    rw [left] at outside
    simpa using outside

theorem isDigits_takeWhile (some : (chars.takeWhile Text.isDigit).isEmpty = false) :
    IsDigits (chars.takeWhile Text.isDigit) :=
  ⟨by simpa using some, List.all_takeWhile⟩

theorem head?_dropWhile_line (chars : List Char) :
    (chars.dropWhile (· != '\n')).head?.all (· == '\n') = true := by
  have stops := head?_dropWhile (· != '\n') chars
  cases head : (chars.dropWhile (· != '\n')).head? with
  | none => rfl
  | some char =>
    rw [head] at stops
    simpa using stops

theorem not_mem_takeWhile_line (chars : List Char) :
    '\n' ∉ chars.takeWhile (· != '\n') := by
  intro member
  have inLine :=
    List.all_eq_true.mp (List.all_takeWhile (p := (· != '\n')) (l := chars)) _
      member
  simp at inLine

theorem any_line_of_all {behind : Option Char}
    (ends : behind.all (· == '\n') = true) :
    behind.any (· != '\n') = false := by
  cases behind with
  | none => rfl
  | some char => simpa using ends

/-! ## Quoted texts -/

/-- What is cut off at a closing quote: with a shield open, the first character
does not close. -/
theorem shielded_of_cutQuoted {quote : Char} {escaped : Bool}
    {collected : List Char}
    (cut : cutQuoted quote escaped collected chars = some (text, remaining)) :
    ∃ body,
      chars = body ++ quote :: remaining ∧ text = collected.reverse ++ body ∧
      (escaped = false → Shielded quote body) ∧
      (escaped = true →
       ∃ char rest,
         body = char :: rest ∧ char ≠ '\n' ∧ Shielded quote rest) := by
  induction chars generalizing escaped collected with
  | nil => cases cut
  | cons char chars hypothesis =>
    rw [cutQuoted] at cut
    split at cut
    · cases cut
    · next inLine =>
      have inLine : char ≠ '\n' := by simpa using inLine
      split at cut
      · next shield =>
        obtain ⟨body, parts, same, unshielded, -⟩ := hypothesis cut
        refine ⟨char :: body, by rw [parts]; rfl, by simp [same], ?_, fun _ => ?_⟩
        · intro unescaped
          rw [unescaped] at shield
          cases shield
        · exact ⟨char, body, rfl, inLine, unshielded rfl⟩
      · next unescaped =>
        have unescaped : escaped = false := by simpa using unescaped
        subst unescaped
        split at cut
        · next backslash =>
          cases eq_of_beq backslash
          obtain ⟨body, parts, same, -, shielded⟩ := hypothesis cut
          obtain ⟨shielding, rest, rfl, within, others⟩ := shielded rfl
          refine ⟨'\\' :: shielding :: rest, by rw [parts]; rfl, by
            simp [same], fun _ => .shield within others, ?_⟩
          intro shields
          exact absurd shields Bool.false_ne_true
        · next bare =>
          split at cut
          · next closes =>
            cases cut
            cases eq_of_beq closes
            refine ⟨[], rfl, by simp, fun _ => .nil, ?_⟩
            intro shields
            exact absurd shields Bool.false_ne_true
          · next other =>
            obtain ⟨body, parts, same, unshielded, -⟩ := hypothesis cut
            refine ⟨char :: body, by rw [parts]; rfl, by simp [same], ?_, ?_⟩
            · intro _
              exact .plain (by simpa using other) (by simpa using bare) inLine
                (unshielded rfl)
            · intro shields
              exact absurd shields Bool.false_ne_true

/-- A text without a bare quotation mark is cut off before the mark that closes
it. -/
theorem Shielded.cutQuoted {quote : Char} (isQuote : quote ∈ quoteChars)
    (shielded : Shielded quote text) (collected remaining : List Char) :
    LiveMarkup.cutQuoted quote false collected (text ++ quote :: remaining) =
      some (collected.reverse ++ text, remaining) := by
  induction shielded generalizing collected with
  | nil =>
    have parts : (quote == '\n') = false ∧ (quote == '\\') = false := by
      simp only [quoteChars, List.mem_cons, List.not_mem_nil, or_false] at isQuote
      rcases isQuote with rfl | rfl <;> decide
    simp [LiveMarkup.cutQuoted, parts.1, parts.2]
  | plain other bare inLine others hypothesis =>
    simp [LiveMarkup.cutQuoted, other, bare, inLine, hypothesis]
  | shield inLine others hypothesis =>
    simp [LiveMarkup.cutQuoted, inLine, hypothesis]

/-! ## Cutting off -/

/-- What a shape cuts off is what it takes. -/
theorem Matcher.takes_of_cut?
    (cut : shape.cut? (consumed ++ remaining) = some (text, remaining)) :
    shape.Takes text consumed remaining := by
  have consumes :
      ∀ taken, consumed ++ remaining = taken ++ remaining → consumed = taken :=
    fun taken => List.append_cancel_right
  generalize whole : consumed ++ remaining = chars at cut consumes
  cases shape with
  | oneOf set =>
    cases chars with
    | nil => cases cut
    | cons char chars =>
      simp only [Matcher.cut?, Option.ite_none_right_eq_some, Option.some.injEq,
        Prod.mk.injEq] at cut
      obtain ⟨member, rfl, rfl⟩ := cut
      exact ⟨char, List.contains_iff_mem.mp member, consumes [char] rfl, rfl⟩
  | literal literal =>
    simp only [Matcher.cut?, Option.ite_none_right_eq_some, Option.some.injEq,
      Prod.mk.injEq] at cut
    obtain ⟨isPrefix, rfl, rest⟩ := cut
    obtain ⟨tail, rfl⟩ := List.isPrefixOf_iff_prefix.mp isPrefix
    rw [List.drop_left] at rest
    subst rest
    exact ⟨consumes _ rfl, rfl⟩
  | keyword word =>
    simp only [Matcher.cut?, Bool.and_eq_true, Bool.not_eq_true',
      Option.ite_none_right_eq_some, Option.some.injEq, Prod.mk.injEq] at cut
    obtain ⟨⟨isPrefix, stops⟩, rfl, rest⟩ := cut
    obtain ⟨tail, rfl⟩ := List.isPrefixOf_iff_prefix.mp isPrefix
    rw [List.drop_left] at rest stops
    subst rest
    exact ⟨consumes _ rfl, rfl, stops⟩
  | comment first opening =>
    simp only [Matcher.cut?, Option.ite_none_right_eq_some, Option.some.injEq,
      Prod.mk.injEq] at cut
    obtain ⟨isPrefix, same, rest⟩ := cut
    obtain ⟨tail, rfl⟩ := List.isPrefixOf_iff_prefix.mp isPrefix
    rw [List.drop_left] at rest same
    have taken : consumed = first :: opening ++ tail.takeWhile (· != '\n') := by
      apply consumes
      rw [← rest, List.append_assoc, List.takeWhile_append_dropWhile]
    refine ⟨by rw [taken, ← same], ⟨_, taken, not_mem_takeWhile_line tail⟩, ?_⟩
    rw [← rest]
    exact head?_dropWhile_line tail
  | quotedText =>
    cases chars with
    | nil => cases cut
    | cons char chars =>
      simp only [Matcher.cut?, Option.ite_none_right_eq_some] at cut
      obtain ⟨isQuote, cut⟩ := cut
      obtain ⟨body, rfl, same, shielded, -⟩ := shielded_of_cutQuoted cut
      simp only [List.reverse_nil, List.nil_append] at same
      subst same
      refine ⟨char, by simpa [quoteChars] using isQuote, consumes _ ?_,
        shielded rfl⟩
      simp
  | number fraction =>
    have parts := List.takeWhile_append_dropWhile (p := Text.isDigit) (l := chars)
    cases whole : (chars.takeWhile Text.isDigit).isEmpty with
    | true => simp [Matcher.cut?, whole] at cut
    | false =>
      have digits := isDigits_takeWhile whole
      cases fraction with
      | false =>
        simp only [Matcher.cut?, whole, Bool.false_eq_true, if_false,
          Bool.not_false, if_true, Option.some.injEq, Prod.mk.injEq] at cut
        obtain ⟨rfl, rfl⟩ := cut
        have taken := consumes _ parts.symm
        exact ⟨taken.symm, taken ▸ digits, head?_dropWhile _ _⟩
      | true =>
        simp only [Matcher.cut?, whole, Bool.false_eq_true, if_false,
          Bool.not_true] at cut
        split at cut
        · next tail left =>
          split at cut
          · cases cut
          · next some =>
            cases cut
            have taken : consumed =
                  chars.takeWhile Text.isDigit ++ '.' ::
                    tail.takeWhile Text.isDigit := by
              apply consumes
              rw [List.append_assoc, List.cons_append,
                List.takeWhile_append_dropWhile, ← left, parts]
            exact ⟨taken.symm,
              ⟨_, _, taken, digits, isDigits_takeWhile (by simpa using some)⟩,
              head?_dropWhile _ _⟩
        · cases cut
  | identifier =>
    cases chars with
    | nil => cases cut
    | cons char chars =>
      simp only [Matcher.cut?, Option.ite_none_right_eq_some, Option.some.injEq,
        Prod.mk.injEq] at cut
      obtain ⟨begins, rfl, rfl⟩ := cut
      have taken : consumed = char :: chars.takeWhile Text.isWordChar := by
        apply consumes
        rw [List.cons_append, List.takeWhile_append_dropWhile]
      exact ⟨taken.symm, ⟨char, _, taken, begins, List.all_takeWhile⟩,
        head?_dropWhile _ _⟩

/-- And what it takes is what it cuts off. -/
theorem Matcher.Takes.cut? (takes : shape.Takes text consumed remaining) :
    shape.cut? (consumed ++ remaining) = some (text, remaining) := by
  cases shape with
  | oneOf set =>
    obtain ⟨char, member, rfl, rfl⟩ := takes
    exact if_pos (List.contains_iff_mem.mpr member)
  | literal literal =>
    obtain ⟨rfl, rfl⟩ := takes
    simp [Matcher.cut?]
  | keyword word =>
    obtain ⟨rfl, rfl, stops⟩ := takes
    simp [Matcher.cut?, stops]
  | comment first opening =>
    obtain ⟨rfl, ⟨line, rfl, inLine⟩, ends⟩ := takes
    have all : line.all (· != '\n') = true := by
      rw [List.all_eq_true]
      rintro char member
      exact bne_iff_ne.mpr fun same => inLine (same ▸ member)
    obtain ⟨takesLine, leaves⟩ := takeWhile_append_stop all (any_line_of_all ends)
    have isPrefix :
        (first :: opening).isPrefixOf
          (first :: opening ++ (line ++ remaining)) = true :=
      List.isPrefixOf_iff_prefix.mpr (List.prefix_append ..)
    rw [List.append_assoc, Matcher.cut?, if_pos isPrefix, List.drop_left]
    simp [takesLine, leaves]
  | quotedText =>
    obtain ⟨quote, isQuote, rfl, shielded⟩ := takes
    have opens : (quote == '"' || quote == '\'') = true := by
      simpa [quoteChars] using isQuote
    have cuts := shielded.cutQuoted isQuote [] remaining
    rw [List.append_assoc, List.cons_append, Matcher.cut?, if_pos opens]
    exact cuts
  | number fraction =>
    cases fraction with
    | false =>
      obtain ⟨rfl, digits, stops⟩ := takes
      obtain ⟨takesDigits, leaves⟩ := takeWhile_append_stop digits.all stops
      simp [Matcher.cut?, takesDigits, leaves, digits.some]
    | true =>
      obtain ⟨rfl, ⟨whole, fraction, rfl, isWhole, isFraction⟩, stops⟩ := takes
      have dot :
          ('.' :: (fraction ++ remaining)).head?.any Text.isDigit = false :=
        rfl
      obtain ⟨takesWhole, leaves⟩ := takeWhile_append_stop isWhole.all dot
      obtain ⟨takesFraction, leavesAgain⟩ :=
        takeWhile_append_stop isFraction.all stops
      simp [Matcher.cut?, takesWhole, leaves, takesFraction, leavesAgain,
        isWhole.some, isFraction.some]
  | identifier =>
    obtain ⟨rfl, ⟨first, others, rfl, begins, continues⟩, stops⟩ := takes
    obtain ⟨takesName, leaves⟩ := takeWhile_append_stop continues stops
    simp [Matcher.cut?, begins, takesName, leaves]

/-- What a shape takes depends on no more than the first of the characters that
follow. -/
theorem Matcher.Takes.congr {others : List Char}
    (takes : shape.Takes text consumed remaining)
    (any :
      ∀ accepts,
        remaining.head?.any accepts = false → others.head?.any accepts = false)
    (all :
      ∀ accepts,
        remaining.head?.all accepts = true → others.head?.all accepts = true) :
    shape.Takes text consumed others := by
  cases shape with
  | oneOf set => exact takes
  | literal literal => exact takes
  | keyword word => exact ⟨takes.1, takes.2.1, any _ takes.2.2⟩
  | comment first opening => exact ⟨takes.1, takes.2.1, all _ takes.2.2⟩
  | quotedText => exact takes
  | number fraction =>
    cases fraction with
    | false => exact ⟨takes.1, takes.2.1, any _ takes.2.2⟩
    | true => exact ⟨takes.1, takes.2.1, any _ takes.2.2⟩
  | identifier => exact ⟨takes.1, takes.2.1, any _ takes.2.2⟩

theorem Matcher.Takes.sameNext {others : List Char}
    (takes : shape.Takes text consumed remaining)
    (same : remaining.head? = others.head?) :
    shape.Takes text consumed others :=
  takes.congr (fun _ stops => same ▸ stops) fun _ ends => same ▸ ends

/-- A shape takes the same when the text ends earlier behind it. -/
theorem Matcher.Takes.cutShort {kept : List Char}
    (takes : shape.Takes text consumed (kept ++ remaining)) :
    shape.Takes text consumed kept := by
  cases kept with
  | nil => exact takes.congr (fun _ _ => rfl) fun _ _ => rfl
  | cons char kept => exact takes.sameNext rfl

/-- Something that is taken at the end of a text is also taken, or more is, when
the text goes on, except that a word may go on too. -/
theorem Matcher.Takes.goesOn (takes : shape.Takes text consumed [])
    (left : List Char) :
    (shape.cut? (consumed ++ left)).isSome = true ∨
    ∃ word,
      shape = .keyword word ∧ consumed = word ∧
      left.head?.any Text.isWordChar = true := by
  cases shape with
  | oneOf set =>
    refine .inl ?_
    rw [(show (oneOf set).Takes text consumed left from takes).cut?]
    rfl
  | literal mark =>
    refine .inl ?_
    rw [(show (literal mark).Takes text consumed left from takes).cut?]
    rfl
  | keyword word =>
    cases stops : left.head?.any Text.isWordChar with
    | true => exact .inr ⟨word, rfl, takes.1, rfl⟩
    | false =>
      have further : (keyword word).Takes text consumed left :=
        ⟨takes.1, takes.2.1, stops⟩
      exact .inl (by rw [further.cut?]; rfl)
  | comment first opening =>
    obtain ⟨-, ⟨line, rfl, -⟩, -⟩ := takes
    have isPrefix :
        (first :: opening).isPrefixOf (first :: opening ++ line ++ left) =
          true := by
      rw [List.append_assoc]
      exact List.isPrefixOf_iff_prefix.mpr (List.prefix_append ..)
    exact .inl (by rw [Matcher.cut?, if_pos isPrefix]; rfl)
  | quotedText =>
    refine .inl ?_
    rw [(show quotedText.Takes text consumed left from takes).cut?]
    rfl
  | number fraction =>
    cases fraction with
    | false =>
      obtain ⟨-, digits, -⟩ := takes
      obtain ⟨first, others, rfl, digit⟩ := digits.parts
      exact .inl (by simp [Matcher.cut?, digit])
    | true =>
      obtain ⟨-, ⟨whole, fraction, rfl, isWhole, isFraction⟩, -⟩ := takes
      obtain ⟨first, others, rfl, digit⟩ := isFraction.parts
      have dot :
          ('.' :: (first :: others ++ left)).head?.any Text.isDigit = false :=
        rfl
      obtain ⟨takesWhole, leaves⟩ := takeWhile_append_stop isWhole.all dot
      rw [List.append_assoc, List.cons_append]
      left
      simp only [Matcher.cut?, takesWhole, leaves]
      simp [isWhole.some, digit]
  | identifier =>
    obtain ⟨-, ⟨first, others, rfl, begins, -⟩, -⟩ := takes
    exact .inl (by simp [Matcher.cut?, begins])

/-- What a shape leaves stands at the end. -/
theorem Matcher.exists_consumed (cut : shape.cut? chars = some (text, remaining)) :
    ∃ consumed, chars = consumed ++ remaining := by
  have splits := Cursor.splits_ofString (String.ofList chars)
  rw [String.toList_ofList] at splits
  obtain ⟨consumed, parts, -⟩ := (shape.answers splits).stands text remaining cut
  exact ⟨consumed, parts⟩

end LiveMarkup
