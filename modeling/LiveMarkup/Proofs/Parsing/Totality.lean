import Mathlib.Logic.Relation
import LiveMarkup.Proofs.Parsing.Consuming

/-!
# Parsing ends

A bound on the depth of nesting that covers a call makes no difference, so the
parse is what the parser does under any such bound.  A call needs another if its
outcome would be different with another outcome there.  What it needs comes
below it.  So a chain of needs that comes back to the same function has taken
tokens on the way, and the number of tokens bounds how long such chains are.
-/

namespace LiveMarkup.Parser

namespace Call

variable {α β : Type} {tokens : List Token} {stream later : TokenStream}

/-- What a call leads to, in as much depth as it takes. -/
def parse (call : Call α) : Parser α :=
  fun stream => call.run .none (call.enough stream + 1) stream

/-- Depths that suffice for a call lead to the same outcome, which keeps to the
contract. -/
theorem run_meets {α : Type} (call : Call α) {stream : TokenStream}
    (stands : stream.Stands tokens) (given : call.Given tokens stream)
    {first second : Nat} (one : call.enough stream < first)
    (other : call.enough stream < second) :
    Meets tokens (call.Gives tokens) (call.limit stream) (call.run .none first)
      (call.run .none second) stream := by
  obtain ⟨first, rfl⟩ : ∃ less, first = less + 1 := ⟨first - 1, by omega⟩
  obtain ⟨second, rfl⟩ : ∃ less, second = less + 1 := ⟨second - 1, by omega⟩
  have covers : stream.upcoming.length ≤ call.enough stream := by
    unfold enough
    omega
  refine Meets.congr (run_succ .none first call stands.ends (by omega))
    (run_succ .none second call stands.ends (by omega)) ?_
  refine call.turn_keeps stands given fun below later stands given comes => ?_
  have fewer := comes.enough_lt
  exact run_meets below stands given (by omega) (by omega)
termination_by call.enough stream

theorem parse_within (call : Call α) (stands : stream.Stands tokens)
    (given : call.Given tokens stream) :
    Within tokens (call.Gives tokens) (call.limit stream) (call.parse stream) :=
  (call.run_meets stands given (Nat.lt_succ_self _) (Nat.lt_succ_self _)).within

/-- The parse is what the parser does to any depth that suffices. -/
theorem run_eq_parse (call : Call α) (stands : stream.Stands tokens)
    (given : call.Given tokens stream) {depth : Nat}
    (enough : call.enough stream < depth) :
    call.run .none depth stream = call.parse stream :=
  (call.run_meets stands given enough (Nat.lt_succ_self _)).same

/-- A turn whose calls below lead to what they parse is the parse. -/
theorem turn_eq_parse (call : Call α) (stands : stream.Stands tokens)
    (given : call.Given tokens stream) {calls : Calls}
    (below :
      ∀ {β : Type} (other : Call β) (later : TokenStream),
        later.Stands tokens → other.Given tokens later →
        other.Below later call stream → calls other later = other.parse later) :
    call.turn .none calls stream = call.parse stream := by
  have covers : stream.upcoming.length ≤ call.enough stream := by
    unfold enough
    omega
  have agree :
      call.Agree tokens stream calls (Call.run .none (call.enough stream)) := by
    intro β other later stands given comes
    have same := below other later stands given comes
    have deep := other.run_eq_parse stands given comes.enough_lt
    refine ⟨same.trans deep.symm, ?_⟩
    change Within _ _ _ (calls other later)
    rw [same]
    exact other.parse_within stands given
  rw [(call.turn_keeps stands given agree).same,
    ← run_succ .none _ call stands.ends covers]
  rfl

/-- Being called from further above is transitive. -/
theorem Below.trans {γ : Type} {first : Call α} {second : Call β}
    {third : Call γ} {nearer further : TokenStream}
    (lower : third.Below further second nearer)
    (upper : second.Below nearer first stream) :
    third.Below further first stream := by
  unfold Below at *
  omega

/-- A call below one of the same rank has fewer tokens. -/
theorem Below.fewer {call : Call α} {other : Call β}
    (below : other.Below later call stream) (same : other.rank = call.rank) :
    later.upcoming.length < stream.upcoming.length := by
  unfold Below at below
  omega

end Call

/-- A call on a stream. -/
structure Site where
  {result : Type}
  call : Call result
  stream : TokenStream

namespace Site

/-- A call may be made on a stream of a token list. -/
def Proper (tokens : List Token) (site : Site) : Prop :=
  site.stream.Stands tokens ∧ site.call.Given tokens site.stream

/-- A call needs another one: with another outcome there, its own would be
different. -/
def Needs (site other : Site) : Prop :=
  ∃ calls : Calls, (∀ third : Site, third ≠ other →
        calls third.call third.stream = third.call.parse third.stream) ∧
      site.call.turn .none calls site.stream ≠ site.call.parse site.stream

variable {tokens : List Token} {site other first last : Site}

/-- What a call needs is a call that may be made, below it. -/
theorem Needs.below (needs : site.Needs other) (proper : site.Proper tokens) :
    other.Proper tokens ∧ other.call.Below other.stream site.call site.stream := by
  obtain ⟨calls, alike, different⟩ := needs
  by_contra outside
  refine different (site.call.turn_eq_parse proper.1 proper.2
    fun below later stands given comes => ?_)
  refine alike ⟨below, later⟩ ?_
  rintro rfl
  exact outside ⟨⟨stands, given⟩, comes⟩

/-- What a call needs in some steps comes below it. -/
theorem below_of_chain (proper : first.Proper tokens)
    (chain : Relation.TransGen Needs first last) :
    last.Proper tokens ∧
    last.call.Below last.stream first.call first.stream := by
  induction chain with
  | single needs => exact needs.below proper
  | tail _ needs hypothesis =>
    obtain ⟨between, upper⟩ := hypothesis
    obtain ⟨proper, lower⟩ := needs.below between
    exact ⟨proper, lower.trans upper⟩

/-- A call that suffices for so much depth has no longer chain of needs. -/
theorem length_of_chain (proper : first.Proper tokens) {chain : List Site}
    (needs : List.IsChain Needs (first :: chain)) :
    chain.length ≤ first.call.enough first.stream := by
  induction chain generalizing first with
  | nil => exact Nat.zero_le _
  | cons second chain hypothesis =>
    obtain ⟨here, further⟩ := List.isChain_cons_cons.mp needs
    obtain ⟨proper, below⟩ := here.below proper
    exact Nat.le_trans (Nat.succ_le_succ (hypothesis proper further))
      below.enough_lt

end Site

end LiveMarkup.Parser
