import LiveMarkup.Proofs.Naming.Renaming
import LiveMarkup.Proofs.Parsing.Steps

/-!
# Parsing with renamed keys, alongside parsing without

A parser that renames keys reads the same tokens as one that does not, and
refuses more: where two keys that differ get the same name.  What it returns is
the renamed result of the other one.  This module says so for an outcome and
for a parser, with a rule for each way to put parsers together.

When the renaming parser refuses, the other one goes on.  So that a clash found
in a part is one of the whole, the rules also ask that what follows keeps the
keys of the part; this is a property of the parser without renaming alone.
-/

namespace LiveMarkup

/-- A type whose values carry keys. -/
class Keyed (α : Type) where
  /-- The keys that have to differ from each other, list by list. -/
  keyLists : α → List (List String)
  rename : (String → String) → α → α

/-- All keys of one list get different names. -/
def Separates (change : String → String) (lists : List (List String)) : Prop :=
  ∀ list ∈ lists, (list.map change).Nodup

/-- Two different keys of one list get the name `merged`. -/
def Merges (change : String → String) (merged : String)
    (lists : List (List String)) : Prop :=
  ∃ list ∈ lists, ∃ first ∈ list, ∃ second ∈ list,
    first ≠ second ∧ change first = merged ∧ change second = merged

section Lists

variable {change : String → String} {merged : String}
  {lists others : List (List String)}

theorem separates_nil : Separates change [] := by
  simp [Separates]

theorem separates_cons {list : List String} :
    Separates change (list :: lists) ↔
      (list.map change).Nodup ∧ Separates change lists := by
  simp [Separates]

/-- Keys are kept apart in joined lists if they are in both. -/
theorem separates_append :
    Separates change (lists ++ others) ↔
      Separates change lists ∧ Separates change others := by
  simp only [Separates, List.mem_append]
  constructor
  · intro all
    constructor
    · intro list member
      exact all list (.inl member)
    · intro list member
      exact all list (.inr member)
  · intro both list member
    exact member.elim (both.1 list) (both.2 list)

theorem Separates.of_subset (separates : Separates change lists)
    (subset : others ⊆ lists) : Separates change others :=
  fun list member => separates list (subset member)

theorem Merges.of_subset (merges : Merges change merged lists)
    (subset : lists ⊆ others) : Merges change merged others := by
  obtain ⟨list, member, clash⟩ := merges
  exact ⟨list, subset member, clash⟩

/-- Lists that grow keep their clashes. -/
theorem Merges.of_grows (merges : Merges change merged lists)
    (grows : ∀ list ∈ lists, ∃ longer ∈ others, list ⊆ longer) :
    Merges change merged others := by
  obtain ⟨list, member, first, firstIn, second, secondIn, clash⟩ := merges
  obtain ⟨longer, longerIn, subset⟩ := grows list member
  exact ⟨longer, longerIn, first, subset firstIn, second, subset secondIn, clash⟩

end Lists

/-- The outcome of a parser that renames keys, beside that of one that does not. -/
inductive Beside {α : Type} [Keyed α] (change : String → String) :
    Except ParseError (α × TokenStream) →
    Except ParseError (α × TokenStream) → Prop where
  /-- Both read the same, up to the names of keys. -/
  | read {value : α} {rest : TokenStream}
      (separates : Separates change (Keyed.keyLists value)) :
      Beside change (.ok (value, rest)) (.ok (Keyed.rename change value, rest))
  /-- Two keys have got one name. -/
  | merged {value : α} {rest : TokenStream} {error : ParseError} {key : String}
      (kind : error.cause.kind = .duplicateKey key)
      (merges : Merges change key (Keyed.keyLists value)) :
      Beside change (.ok (value, rest)) (.error error)
  | failed {first second : ParseError} :
      Beside change (.error first) (.error second)

/-- Two parsers that fail. -/
theorem Beside.of_ne_ok {α : Type} [Keyed α] {change : String → String}
    {first second : Except ParseError (α × TokenStream)}
    (one : ∀ result, first ≠ .ok result)
    (other : ∀ result, second ≠ .ok result) : Beside change first second := by
  cases first with
  | ok result => exact absurd rfl (one result)
  | error error =>
      cases second with
      | ok result => exact absurd rfl (other result)
      | error error => exact .failed

namespace Parser

variable {α β : Type} {change : String → String}

/-! ## What a parser returns -/

/-- Whatever a parser returns is as described. -/
def Yields (good : α → Prop) (parser : Parser α) : Prop :=
  ∀ stream value rest, parser stream = .ok (value, rest) → good value

section Yields

variable {good better : α → Prop} {parser : Parser α}

theorem Yields.pure {value : α} (known : good value) :
    Yields good (Pure.pure value : Parser α) := by
  intro stream result rest returned
  rw [pure_apply] at returned
  cases returned
  exact known

theorem Yields.bind {first : Parser β} {further : β → Parser α}
    (each : ∀ value, Yields good (further value)) :
    Yields good (first >>= further) := by
  intro stream result rest returned
  obtain ⟨between, middle, -, parsed⟩ := bind_eq_ok.mp returned
  exact each between middle result rest parsed

theorem Yields.andThen {known : β → Prop} {first : Parser β}
    {further : β → Parser α} (begins : Yields known first)
    (each : ∀ value, known value → Yields good (further value)) :
    Yields good (first >>= further) := by
  intro stream result rest returned
  obtain ⟨between, middle, begun, parsed⟩ := bind_eq_ok.mp returned
  exact each between (begins stream between middle begun) middle result rest parsed

theorem Yields.stop {cause : Token → ParseError.Cause} {further : β → Parser α} :
    Yields good (Parser.failHere cause >>= further) :=
  fun _ _ _ returned => absurd returned (by simp [bind_apply, Parser.failHere])

theorem Yields.fail {cause : ParseError.Cause} {position : Position} :
    Yields good (Parser.fail cause position) :=
  fun _ _ _ returned => absurd returned fail_ne_ok

theorem Yields.failHere {cause : Token → ParseError.Cause} :
    Yields good (Parser.failHere cause) :=
  fun _ _ _ returned => absurd returned failHere_ne_ok

theorem Yields.mono (yields : Yields good parser)
    (implies : ∀ value, good value → better value) : Yields better parser := by
  intro stream value rest returned
  exact implies value (yields stream value rest returned)

end Yields

/-! ## Two parsers alongside each other -/

/-- A parser does as another one does, but renames keys. -/
def Follows [Keyed α] (change : String → String) (plain renamer : Parser α) :
    Prop :=
  ∀ stream, Beside change (plain stream) (renamer stream)

section Follows

variable [Keyed α]

theorem Follows.pure {value renamed : α}
    (separates : Separates change (Keyed.keyLists value))
    (same : renamed = Keyed.rename change value) :
    Follows change (Pure.pure value) (Pure.pure renamed) :=
  fun _ => same ▸ .read separates

theorem Follows.fail {first second : ParseError.Cause}
    {position other : Position} :
    Follows change (Parser.fail first position : Parser α)
      (Parser.fail second other) :=
  fun _ => .failed

theorem Follows.failHere {first second : Token → ParseError.Cause} :
    Follows change (Parser.failHere first : Parser α) (Parser.failHere second) :=
  fun _ => .failed

/-- Nothing comes after a failure. -/
theorem Follows.stop {first second : Token → ParseError.Cause}
    {plain renamer : β → Parser α} :
    Follows change (Parser.failHere first >>= plain)
      (Parser.failHere second >>= renamer) :=
  fun _ => .failed

/-- The renaming parser fails because two keys have got one name. -/
theorem Follows.merged {plain : Parser α} {cause : ParseError.Cause}
    {position : Position} {key : String}
    (kind : cause.kind = .duplicateKey key)
    (merges :
      Yields (fun value => Merges change key (Keyed.keyLists value)) plain) :
    Follows change plain (Parser.fail cause position) := by
  intro stream
  cases parsed : plain stream with
  | error error => exact .failed
  | ok result => exact .merged kind (merges stream result.1 result.2 parsed)

/-- Both parsers begin with a step that reads no keys. -/
theorem Follows.step {first : Parser β} {plain renamer : β → Parser α}
    (further : ∀ value, Follows change (plain value) (renamer value)) :
    Follows change (first >>= plain) (first >>= renamer) := by
  intro stream
  rw [bind_apply, bind_apply]
  cases first stream with
  | error error => exact .failed
  | ok result => exact further result.1 result.2

/-- One parser follows the other part by part, if what comes after a part keeps
its keys. -/
theorem Follows.bind [Keyed β] {first second : Parser β}
    {plain renamer : β → Parser α} (begins : Follows change first second)
    (further :
      ∀ value,
        Separates change (Keyed.keyLists value) →
        Follows change (plain value) (renamer (Keyed.rename change value)))
    (keeps :
      ∀ value key,
        Merges change key (Keyed.keyLists value) →
        Yields (fun result => Merges change key (Keyed.keyLists result))
          (plain value)) :
    Follows change (first >>= plain) (second >>= renamer) := by
  intro stream
  rw [bind_apply, bind_apply]
  have beside := begins stream
  generalize second stream = other at beside ⊢
  cases parsed : first stream with
  | error error =>
      rw [parsed] at beside
      cases beside
      exact .failed
  | ok result =>
      obtain ⟨value, rest⟩ := result
      rw [parsed] at beside
      cases beside with
      | read separates => exact further value separates rest
      | merged kind merges =>
          cases read : plain value rest with
          | error error => simp only [read]; exact .failed
          | ok result =>
              simp only [read]
              exact .merged kind (keeps value _ merges rest result.1 result.2 read)

/--
A further name is refused if it has been taken.  The renaming parser refuses it
also where it gets the name of a different one, which is a clash.
-/
theorem Follows.ifFresh {names : List String} {key : String}
    {plain renamer : Parser α} {first second : ParseError.Cause}
    {position other : Position}
    (kind : second.kind = .duplicateKey (change key))
    (apart : (names.map change).Nodup)
    (further :
      ((names ++ [key]).map change).Nodup → Follows change plain renamer)
    (keeps :
      ∀ merged,
        Merges change merged [names ++ [key]] →
        Yields (fun result => Merges change merged (Keyed.keyLists result))
          plain) :
    Follows change (if names.any (· == key) then Parser.fail first position
      else plain) (if (names.map change).any (· == change key)
        then Parser.fail second other else renamer) := by
  cases taken : names.any (· == key) with
  | true =>
      obtain ⟨same, member, equal⟩ := List.any_eq_true.mp taken
      have alsoTaken : (names.map change).any (· == change key) = true :=
        List.any_eq_true.mpr ⟨change same, List.mem_map_of_mem member,
          by rw [beq_iff_eq.mp equal, beq_self_eq_true]⟩
      rw [if_pos rfl, if_pos alsoTaken]
      exact .fail
  | false =>
      rw [if_neg Bool.false_ne_true]
      split
      case isTrue clash =>
        obtain ⟨_, renamed, equal⟩ := List.any_eq_true.mp clash
        obtain ⟨same, member, rfl⟩ := List.mem_map.mp renamed
        refine .merged kind
          (keeps _ ⟨_, List.mem_singleton_self _, same, by simp [member], key,
            by simp, ?_, beq_iff_eq.mp equal, rfl⟩)
        rintro rfl
        exact List.any_eq_false.mp taken same member (beq_self_eq_true same)
      case isFalse fresh =>
        refine further ?_
        rw [List.map_append, List.map_singleton]
        exact List.nodup_append.mpr ⟨apart, by simp, by
          rintro name member other (_ | ⟨_, ⟨⟩⟩) rfl
          exact fresh (List.any_eq_true.mpr ⟨_, member, beq_self_eq_true _⟩)⟩

end Follows

end Parser

end LiveMarkup
