import LiveMarkup.Text.KeyCase

/-!
# The underscored spelling is stable

The small form of a capital is either the capital itself or consists of letters
that are no capitals, so writing a key in its underscored spelling twice is the
same as doing it once.
-/

namespace LiveMarkup.Text

/-! ## Small letters are no capitals -/

/-- Whether a run of code points from a first to a last one shares none with
another run.  One that alternates shares none with an alternating run of the
other parity. -/
def isApart (alternating : Bool) (first last : Nat) (run : CodeRun) : Bool :=
  last.blt run.first || run.last.blt first ||
    (alternating && run.step.beq 2 && ((first + run.first) % 2).beq 1)

/-- Whether a shift leads outside of some runs. -/
def landsOutside (runs : List CodeRun) (shift : CodeShift) : Bool :=
  decide (0 ≤ Int.ofNat shift.run.first + shift.distance) &&
    runs.all (isApart (shift.run.step.beq 2 || shift.run.first.beq shift.run.last)
      (Int.ofNat shift.run.first + shift.distance).toNat
      (Int.ofNat shift.run.last + shift.distance).toNat)

/-- The capitals and the hyphen. -/
def unstableRuns : List CodeRun :=
  ⟨45, 45, 1⟩ :: ⟨65, 90, 1⟩ :: capitalRuns

theorem smallShifts_landOutside :
    smallShifts.all (landsOutside unstableRuns) = true := by
  decide +kernel

theorem landsOutside_contains {runs : List CodeRun} {shift : CodeShift}
    {code : Nat} (outside : landsOutside runs shift = true)
    (member : shift.run.contains code = true) {run : CodeRun}
    (among : run ∈ runs) :
    run.contains (Int.ofNat code + shift.distance).toNat = false := by
  simp only [landsOutside, Bool.and_eq_true, decide_eq_true_eq,
    List.all_eq_true] at outside
  obtain ⟨start, all⟩ := outside
  have apart := all run among
  simp only [isApart, Bool.or_eq_true, Bool.and_eq_true, Nat.blt_eq, Nat.beq_eq]
    at apart
  simp only [CodeRun.contains, Bool.and_eq_true, decide_eq_true_eq, beq_iff_eq]
    at member
  refine Bool.eq_false_iff.mpr fun contained => ?_
  simp only [CodeRun.contains, Bool.and_eq_true, decide_eq_true_eq, beq_iff_eq]
    at contained
  obtain ⟨⟨low, high⟩, step⟩ := member
  obtain ⟨⟨lowImage, highImage⟩, stepImage⟩ := contained
  simp only [Int.ofNat_eq_natCast] at *
  rcases apart with (before | behind) | ⟨⟨alternating, even⟩, parity⟩
  · omega
  · omega
  · rw [even] at stepImage
    rcases alternating with two | single
    · rw [two] at step
      omega
    · omega

/-- A character that the underscored spelling keeps as it is wherever it stands. -/
def IsStable (char : Char) : Prop :=
  isCapital char = false ∧ char ≠ '-'

theorem isStable_ofNat {code : Nat} (outside : inRuns unstableRuns code = false) :
    IsStable (Char.ofNat code) := by
  simp only [inRuns, unstableRuns, List.any_cons, Bool.or_eq_false_iff] at outside
  obtain ⟨hyphen, letters, capitals⟩ := outside
  by_cases valid : code.isValidChar
  · have value : (Char.ofNat code).toNat = code := by
      rw [Char.ofNat, dif_pos valid]
      rfl
    constructor
    · rw [isCapital, value]
      split
      case isTrue small =>
        refine Bool.eq_false_iff.mpr fun capital => ?_
        simp only [Bool.and_eq_true, decide_eq_true_eq, Char.le_def,
          UInt32.le_iff_toNat_le] at capital
        have low : (65 : Nat) ≤ (Char.ofNat code).toNat := capital.1
        have high : (Char.ofNat code).toNat ≤ 90 := capital.2
        simp only [CodeRun.contains, Bool.and_eq_false_iff,
          decide_eq_false_iff_not] at letters
        simp at letters
        omega
      case isFalse => exact capitals
    · intro equal
      have same : code = 45 := by rw [← value, equal]; rfl
      subst same
      exact absurd hyphen (by decide)
  · have zero : Char.ofNat code = Char.ofNat 0 := by
      rw [Char.ofNat, dif_neg valid]
      rfl
    rw [zero]
    exact ⟨by decide, by decide⟩

theorem isStable_toLower : ∀ code < 128, isCapital (Char.ofNat code) = true →
    IsStable (Char.ofNat code).toLower := by
  unfold IsStable
  decide

/-- A capital stays, or its small form consists of stable characters. -/
theorem smalls_stable {char : Char} (capital : isCapital char = true) :
    smalls char = [char] ∨
    smalls char ≠ [] ∧ ∀ small ∈ smalls char, IsStable small := by
  unfold smalls
  split
  case isTrue ascii =>
    refine .inr ⟨List.cons_ne_nil _ _, fun small member => ?_⟩
    cases List.mem_singleton.mp member
    have same : Char.ofNat char.toNat = char := Char.ofNat_toNat char
    rw [← same] at capital ⊢
    exact isStable_toLower char.toNat ascii capital
  case isFalse =>
    unfold mapCase
    split
    case h_1 codes found =>
      have codesEqual : codes = [0x69, 0x307] := by
        simp only [smallSequences, List.lookup_cons, List.lookup_nil] at found
        split at found
        · exact (Option.some.inj found).symm
        · cases found
      subst codesEqual
      refine .inr ⟨List.cons_ne_nil _ _, fun small member => ?_⟩
      unfold IsStable
      simp only [List.map_cons, List.map_nil, List.mem_cons, List.not_mem_nil,
        or_false] at member
      rcases member with rfl | rfl <;> exact ⟨by decide +kernel, by decide⟩
    case h_2 =>
      split
      case h_1 code shifted =>
        refine .inr ⟨List.cons_ne_nil _ _, fun small member => ?_⟩
        cases List.mem_singleton.mp member
        obtain ⟨shift, found, rfl⟩ := Option.map_eq_some_iff.mp shifted
        refine isStable_ofNat ?_
        have listed := List.mem_of_find?_eq_some found
        have contains := List.find?_some found
        have outside := List.all_eq_true.mp smallShifts_landOutside shift listed
        refine List.any_eq_false.mpr fun run among => ?_
        rw [landsOutside_contains outside contains among]
        exact Bool.false_ne_true
      case h_2 => exact .inl rfl

/-! ## The spelling is stable -/

/-- A text that the underscored spelling keeps, after a last character. -/
def Spelled : Option Char → List Char → Prop
  | _, [] => True
  | last, char :: rest =>
    char ≠ '-' ∧
    (isCapital char = true →
     smalls char = [char] ∧ (last = none ∨ last = some '_')) ∧
    Spelled (some char) rest

/-- Splitting leaves a text that is spelled in words as it is. -/
theorem splitWords_spelled (text : List Char) (last : Option Char)
    (spelled : Spelled last text) : splitWords last text = text := by
  induction text generalizing last with
  | nil => rfl
  | cons char rest hypothesis =>
    obtain ⟨noHyphen, capital, others⟩ := spelled
    have tail := hypothesis (some char) others
    simp only [splitWords, beq_eq_false_iff_ne.mpr noHyphen,
      Bool.false_eq_true, if_false]
    split
    case isTrue isCapital =>
      obtain ⟨small, place⟩ := capital isCapital
      rcases place with rfl | rfl <;> simp [small, tail]
    case isFalse => rw [tail]

theorem spelled_append_stable (stable : List Char) (last : Option Char)
    (rest : List Char) (all : ∀ char ∈ stable, IsStable char)
    (spelled : Spelled (stable.getLast?.or last) rest) :
    Spelled last (stable ++ rest) := by
  induction stable generalizing last with
  | nil => exact spelled
  | cons char others hypothesis =>
    have here := all char (List.mem_cons_self ..)
    refine ⟨here.2, fun capital => ?_, hypothesis (some char)
      (fun other member => all other (List.mem_cons_of_mem _ member)) ?_⟩
    · rw [here.1] at capital
      cases capital
    · cases others with
      | nil => exact spelled
      | cons other others =>
        rw [List.getLast?_cons_cons] at spelled
        cases last : (other :: others).getLast? with
        | none => cases (List.getLast?_eq_none_iff.mp last)
        | some final =>
          rw [last] at spelled
          exact spelled

theorem underscore_stable : IsStable '_' := by
  unfold IsStable
  decide

/-- What splitting gives is spelled in words. -/
theorem spelled_splitWords (text : List Char) (last : Option Char) :
    Spelled last (splitWords last text) := by
  induction text generalizing last with
  | nil => trivial
  | cons char rest hypothesis =>
    unfold splitWords
    split
    case isTrue =>
      refine spelled_append_stable ['_'] last _ ?_ (hypothesis _)
      intro _ member
      exact List.mem_singleton.mp member ▸ underscore_stable
    case isFalse noHyphen =>
      have different : char ≠ '-' := by simpa using noHyphen
      split
      case isFalse small =>
        exact ⟨different, fun capital => absurd capital small, hypothesis _⟩
      case isTrue capital =>
        rcases smalls_stable capital with same | ⟨some, stable⟩
        · simp only [same, List.getLast?_singleton, Option.some_or]
          have tail : Spelled (some char) (splitWords (some char) rest) :=
            hypothesis _
          split
          case isTrue separated =>
            refine ⟨underscore_stable.2, ?_, different,
              fun _ => ⟨same, .inr rfl⟩, tail⟩
            intro isCapital
            exact absurd isCapital (by decide)
          case isFalse unseparated =>
            refine ⟨different, fun _ => ⟨same, ?_⟩, tail⟩
            cases last with
            | none => exact .inl rfl
            | some last => exact .inr (by simpa using unseparated)
        · have tail := hypothesis ((smalls char).getLast?.or last)
          split
          case isTrue separated =>
            refine spelled_append_stable ['_'] last _
              (fun _ member => List.mem_singleton.mp member ▸ underscore_stable)
              (spelled_append_stable (smalls char) _ _ stable ?_)
            cases final : (smalls char).getLast? with
            | none => exact absurd (List.getLast?_eq_none_iff.mp final) some
            | some final' =>
              rw [final] at tail
              exact tail
          case isFalse unseparated =>
            exact spelled_append_stable (smalls char) last _ stable tail

/-- The underscored spelling of a key is its own underscored spelling. -/
theorem snakeCase_snakeCase (text : String) :
    snakeCase (snakeCase text) = snakeCase text := by
  unfold snakeCase
  rw [String.toList_ofList,
    splitWords_spelled _ _ (spelled_splitWords text.toList none)]

end LiveMarkup.Text
