import Mathlib.Data.List.Forall2
import LiveMarkup.Proofs.Places.Nesting

/-!
# Spans of derived expressions

The tokens of a source text stand in it one behind the other.  The span of a
derived expression reaches from the beginning of one of its tokens to the end
of another; it is not always the first and the last one, because parentheses
are left out.  That is enough to compare spans: what is derived from tokens
between others lies between them.
-/

namespace LiveMarkup

open Grammar

/-! ## Tokens in a source -/

/-- Tokens that stand in a source text one behind the other. -/
structure Laid (source : List Char) (tokens : List Token) : Prop where
  fits : ∀ token ∈ tokens, token.span.Fits source
  ordered :
      tokens.Pairwise fun earlier later => earlier.span.stop ≤ later.span.start

variable {source : List Char} {tokens others before after : List Token}
  {token : Token}

theorem Laid.sublist (laid : Laid source tokens) (sublist : others.Sublist tokens) :
    Laid source others where
  fits := fun token member => laid.fits token (sublist.subset member)
  ordered := laid.ordered.sublist sublist

theorem Laid.left (laid : Laid source (before ++ after)) : Laid source before :=
  laid.sublist (List.sublist_append_left ..)

theorem Laid.right (laid : Laid source (before ++ after)) : Laid source after :=
  laid.sublist (List.sublist_append_right ..)

theorem Laid.tail (laid : Laid source (token :: tokens)) : Laid source tokens :=
  laid.sublist (List.sublist_cons_self ..)

theorem Laid.apart (laid : Laid source (before ++ after)) :
    ∀ earlier ∈ before, ∀ later ∈ after, earlier.span.stop ≤ later.span.start :=
  (List.pairwise_append.mp laid.ordered).2.2

/-! ## Spans over tokens -/

/-- A span reaches from the beginning of one of some tokens to the end of one of
them. -/
structure Covers (tokens : List Token) (span : Span) : Prop where
  first : ∃ token ∈ tokens,
      span.start = token.span.start ∧ span.position = token.span.position
  last : ∃ token ∈ tokens, span.stop = token.span.stop
  some : span.start < span.stop

variable {span first last : Span}

/-- A stretch that covers a span still does when it is part of a longer one. -/
theorem Covers.mono (covers : Covers tokens span) (subset : tokens ⊆ others) :
    Covers others span where
  first := by
    obtain ⟨token, member, same⟩ := covers.first
    exact ⟨token, subset member, same⟩
  last := by
    obtain ⟨token, member, same⟩ := covers.last
    exact ⟨token, subset member, same⟩
  some := covers.some

/-- A span that laid tokens cover lies within the source. -/
theorem Covers.fits (covers : Covers tokens span) (laid : Laid source tokens) :
    span.Fits source := by
  obtain ⟨opening, opens, start, position⟩ := covers.first
  obtain ⟨closing, closes, stop⟩ := covers.last
  constructor
  · exact covers.some
  · rw [stop]
    exact (laid.fits closing closes).within
  · rw [position, start]
    exact (laid.fits opening opens).exact

theorem Laid.covers (laid : Laid source tokens) (member : token ∈ tokens) :
    Covers [token] token.span where
  first := ⟨token, List.mem_singleton_self token, rfl, rfl⟩
  last := ⟨token, List.mem_singleton_self token, rfl⟩
  some := (laid.fits token member).some

/-- What stands over earlier tokens ends before what stands over later ones. -/
theorem Covers.stop_le_start (firstCovers : Covers before first)
    (lastCovers : Covers after last) (laid : Laid source (before ++ after)) :
    first.stop ≤ last.start := by
  obtain ⟨closing, closes, stop⟩ := firstCovers.last
  obtain ⟨opening, opens, start, -⟩ := lastCovers.first
  rw [stop, start]
  exact laid.apart closing closes opening opens

/-- A span that is drawn from one behind another covers the tokens of both. -/
theorem Covers.through (firstCovers : Covers before first)
    (lastCovers : Covers after last) (laid : Laid source (before ++ after)) :
    Covers (before ++ after) (first.through last) where
  first := (firstCovers.mono (List.subset_append_left ..)).first
  last := (lastCovers.mono (List.subset_append_right ..)).last
  some :=
    calc first.start
        < first.stop := firstCovers.some
      _ ≤ last.start := firstCovers.stop_le_start lastCovers laid
      _ < last.stop := lastCovers.some

/-- The first of two covered spans lies inside the span through both. -/
theorem Covers.inside_left (firstCovers : Covers before first)
    (lastCovers : Covers after last) (laid : Laid source (before ++ after)) :
    first.Inside (first.through last) where
  start := Nat.le_refl _
  stop :=
    Nat.le_trans (firstCovers.stop_le_start lastCovers laid)
      (Nat.le_of_lt lastCovers.some)

/-- The last of two covered spans lies inside the span through both. -/
theorem Covers.inside_right (firstCovers : Covers before first)
    (lastCovers : Covers after last) (laid : Laid source (before ++ after)) :
    last.Inside (first.through last) where
  start :=
    Nat.le_trans (Nat.le_of_lt firstCovers.some)
      (firstCovers.stop_le_start lastCovers laid)
  stop := Nat.le_refl _

theorem Span.Inside.trans {inner middle outer : Span} (inside : inner.Inside middle)
    (further : middle.Inside outer) : inner.Inside outer where
  start := Nat.le_trans further.start inside.start
  stop := Nat.le_trans inside.stop further.stop

/-! ## Spans between a head and a closing token -/

variable {head closing : Token}

/-- A literal, or anything else that ends with a token of its own. -/
theorem covers_closed (laid : Laid source (head :: tokens ++ [closing])) :
    Covers (head :: tokens ++ [closing]) (head.span.through closing.span) := by
  have opens : Covers (head :: tokens) head.span :=
    (laid.covers (List.mem_cons_self ..)).mono (by simp)
  exact opens.through (laid.covers (by simp)) laid

/-- What stands between the head and the closing token lies inside. -/
theorem Covers.inside_closed (covers : Covers tokens span)
    (laid : Laid source (head :: tokens ++ [closing])) :
    span.Inside (head.span.through closing.span) where
  start := by
    have opens : Covers [head] head.span := laid.covers (by simp)
    exact Nat.le_trans (Nat.le_of_lt opens.some)
      (opens.stop_le_start covers laid.left)
  stop := by
    have closes : Covers [closing] closing.span := laid.covers (by simp)
    exact Nat.le_trans (covers.stop_le_start closes laid.tail)
      (Nat.le_of_lt closes.some)

/-! ## Spans in order -/

variable {groups : List (List Token)} {spans : List Span}

/-- Spans that groups of tokens cover one by one are covered by all of them
together. -/
theorem covers_flatten (covers : List.Forall₂ Covers groups spans) :
    ∀ span ∈ spans, Covers groups.flatten span := by
  induction covers with
  | nil => exact nofun
  | @cons group span groups spans first others induction =>
      intro later member
      rw [List.flatten_cons]
      rcases List.mem_cons.mp member with rfl | among
      · exact first.mono (List.subset_append_left ..)
      · exact (induction later among).mono (List.subset_append_right ..)

/-- Spans over groups of tokens, one behind the other. -/
theorem inOrder_of_groups (covers : List.Forall₂ Covers groups spans)
    (laid : Laid source groups.flatten) : InOrder spans := by
  induction covers with
  | nil => exact List.Pairwise.nil
  | @cons group span groups spans first others induction =>
      rw [List.flatten_cons] at laid
      refine List.pairwise_cons.mpr ⟨?_, induction laid.right⟩
      intro later member
      exact first.stop_le_start (covers_flatten others later member) laid

/-- Spans over groups of tokens between a head and a closing token. -/
theorem frames_of_groups (covers : List.Forall₂ Covers groups spans)
    (laid : Laid source (head :: tokens ++ [closing]))
    (sublist : groups.flatten.Sublist tokens) :
    Frames (head.span.through closing.span) spans where
  inside := fun span member =>
    ((covers_flatten covers span member).mono sublist.subset).inside_closed laid
  ordered := inOrder_of_groups covers (laid.left.tail.sublist sublist)

end LiveMarkup
