import LiveMarkup.Proofs.Parsing.Steps
import LiveMarkup.Proofs.Printing.Lexing

/-!
# Parsers on tokens that stand elsewhere

A parser looks at the kinds and values of tokens.  Where they stand it only
hands on, to trees and to errors.  So two streams whose tokens have the same
kinds and values lead to the same outcome, up to places.

Two parsers mirror each other if they do so on any two such streams.  There is a
rule for each elementary parser and for each way to put parsers together.
-/

namespace LiveMarkup

/-- Two streams of tokens with the same kinds and values, behind the same
aliases. -/
structure TokenStream.Matches (first second : TokenStream) : Prop where
  upcoming : first.upcoming.map Token.piece = second.upcoming.map Token.piece
  final : first.final.piece = second.final.piece
  aliases : first.aliases = second.aliases

/-- Two outcomes that are the same up to places: values that correspond, or
errors of one kind. -/
inductive Matching {α : Type} (same : α → α → Prop) :
    Except ParseError (α × TokenStream) →
    Except ParseError (α × TokenStream) → Prop where
  | read {first second : α} {rest other : TokenStream}
      (values : same first second) (streams : rest.Matches other) :
      Matching same (.ok (first, rest)) (.ok (second, other))
  | failed {first second : ParseError}
      (kind : first.cause.kind = second.cause.kind) :
      Matching same (.error first) (.error second)

namespace TokenStream.Matches

variable {first second : TokenStream}

/-- The next tokens are one token at two places. -/
theorem head (streams : first.Matches second) :
    ∃ kind value span other,
      first.head = ⟨kind, value, span⟩ ∧
      second.head = ⟨kind, value, other⟩ := by
  have same : first.head.piece = second.head.piece := by
    have upcoming := streams.upcoming
    unfold TokenStream.head
    cases here : first.upcoming with
    | nil =>
        rw [here] at upcoming
        rw [List.map_eq_nil_iff.mp upcoming.symm]
        exact streams.final
    | cons token rest =>
        rw [here] at upcoming
        obtain ⟨other, others, there, piece, -⟩ :=
          List.map_eq_cons_iff.mp upcoming.symm
        rw [there]
        exact piece.symm
  refine ⟨first.head.kind, first.head.value, first.head.span,
    second.head.span, rfl, ?_⟩
  rw [show first.head.kind = second.head.kind from congrArg Prod.fst same,
    show first.head.value = second.head.value from congrArg Prod.snd same]

theorem tail (streams : first.Matches second) : first.tail.Matches second.tail := by
  have upcoming := streams.upcoming
  unfold TokenStream.tail
  cases here : first.upcoming with
  | nil =>
      rw [here] at upcoming
      rw [List.map_eq_nil_iff.mp upcoming.symm]
      exact streams
  | cons token rest =>
      rw [here] at upcoming
      obtain ⟨other, others, there, -, same⟩ :=
        List.map_eq_cons_iff.mp upcoming.symm
      rw [there]
      exact ⟨same.symm, streams.final, streams.aliases⟩

end TokenStream.Matches

namespace Parser

variable {α β : Type} {same : α → α → Prop} {corresponds : β → β → Prop}

/-- Two parsers that read the same, up to places, from streams that are the same
up to places. -/
def Mirrors (same : α → α → Prop) (first second : Parser α) : Prop :=
  ∀ stream other, stream.Matches other → Matching same (first stream) (second other)

namespace Mirrors

theorem pure {first second : α} (values : same first second) :
    Mirrors same (Pure.pure first) (Pure.pure second) :=
  fun _ _ streams => .read values streams

/-- Parsers that answer alike may be followed by parsers that answer alike. -/
theorem bind {first second : Parser β} {further others : β → Parser α}
    (begins : Mirrors corresponds first second)
    (continues :
      ∀ value other,
        corresponds value other → Mirrors same (further value) (others other)) :
    Mirrors same (first >>= further) (second >>= others) := by
  intro stream other streams
  rw [bind_apply, bind_apply]
  have outcomes := begins stream other streams
  generalize first stream = one at outcomes ⊢
  generalize second other = two at outcomes ⊢
  cases outcomes with
  | read values streams => exact continues _ _ values _ _ streams
  | failed kind => exact .failed kind

theorem fail {first second : ParseError.Cause} {position other : Position}
    (kind : first.kind = second.kind) :
    Mirrors same (Parser.fail first position) (Parser.fail second other) :=
  fun _ _ _ => .failed kind

theorem failHere {first second : Token → ParseError.Cause}
    (kind : ∀ token other, (first token).kind = (second other).kind) :
    Mirrors same (Parser.failHere first) (Parser.failHere second) :=
  fun _ _ _ => .failed (kind _ _)

theorem unexpected {first second : String} :
    Mirrors same (Parser.unexpected first) (Parser.unexpected second) :=
  failHere fun _ _ => rfl

/-- A choice answers alike when both of its sides do. -/
theorem ifThen {condition : Prop} [Decidable condition]
    {first second third fourth : Parser α}
    (yes : condition → Mirrors same first second)
    (no : ¬ condition → Mirrors same third fourth) :
    Mirrors same (if condition then first else third)
      (if condition then second else fourth) := by
  split
  case isTrue holds => exact yes holds
  case isFalse fails => exact no fails

/-! ## Tokens -/

section Tokens

variable {further others : Token → Parser α}
  (continues : ∀ kind value span other,
    Mirrors same (further ⟨kind, value, span⟩) (others ⟨kind, value, other⟩))
include continues

theorem peek : Mirrors same (Parser.peek >>= further) (Parser.peek >>= others) := by
  intro stream other streams
  obtain ⟨kind, value, span, place, here, there⟩ := streams.head
  rw [bind_apply, bind_apply, peek_apply, peek_apply, here, there]
  exact continues kind value span place stream other streams

theorem next : Mirrors same (Parser.next >>= further) (Parser.next >>= others) := by
  intro stream other streams
  obtain ⟨kind, value, span, place, here, there⟩ := streams.head
  rw [bind_apply, bind_apply, next_apply, next_apply, here, there]
  exact continues kind value span place stream.tail other.tail streams.tail

end Tokens

theorem expect {kind : TokenKind} {further others : Token → Parser α}
    (continues :
      ∀ value span other,
        Mirrors same (further ⟨kind, value, span⟩)
          (others ⟨kind, value, other⟩)) :
    Mirrors same (Parser.expect kind >>= further)
      (Parser.expect kind >>= others) := by
  intro stream other streams
  obtain ⟨found, value, span, place, here, there⟩ := streams.head
  rw [bind_apply, bind_apply]
  by_cases expected : found = kind
  · subst expected
    rw [expect_of_kind (by rw [here]), expect_of_kind (by rw [there]), here, there]
    exact continues value span place stream.tail other.tail streams.tail
  · simp only [Parser.expect, bind_apply, peek_apply, here, there, beq_iff_eq,
      expected, if_false]
    exact .failed rfl

theorem lastStop {further others : Nat → Parser α}
    (continues : ∀ stop other, Mirrors same (further stop) (others other)) :
    Mirrors same (Parser.lastStop >>= further) (Parser.lastStop >>= others) :=
  fun _ _ streams => continues _ _ _ _ streams

theorem declareAlias {name : String} {position other : Position} :
    Mirrors (fun _ _ => True) (Parser.declareAlias name position)
      (Parser.declareAlias name other) := by
  intro stream place streams
  unfold Parser.declareAlias
  rw [streams.aliases]
  split
  · exact .failed rfl
  · exact .read trivial ⟨streams.upcoming, streams.final, rfl⟩

end Mirrors

end Parser

end LiveMarkup
