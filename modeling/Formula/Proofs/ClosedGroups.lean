import Formula.Proofs.Parentheses
import Mathlib.Data.List.Induction
import Mathlib.Tactic.ByContra

/-!
# Closed groups and open groups

An open parenthesis is closed by the first closed one that has matching parentheses before it. It
stays open if there is none, and of those that stay open the last one is the innermost: behind it
the parentheses match.

* `ClosedIn`, `AllClosed`, `InnermostOpen`, `Enclosed`: which parentheses belong together.
* `closedIn_iff`: an open parenthesis is closed where more are closed than opened behind it.
* `Balanced.allClosed`: where parentheses match, all are closed.
* `innermostOpen_iff`: behind the innermost open parenthesis, and behind no other, they match.
* `append_inj_of_balanced`: there is only one.
-/

namespace Formula

open Token (opening closing)

/-- What follows an open parenthesis closes it: a closed one with matching parentheses before it. -/
def ClosedIn (after : List Token) : Prop :=
  ∃ inner rest, after = inner ++ closing :: rest ∧ Balanced inner

/-- Every open parenthesis is closed. -/
def AllClosed (tokens : List Token) : Prop :=
  ∀ before after, tokens = before ++ opening :: after → ClosedIn after

/-- What follows the innermost open parenthesis: it does not close it, and closes all others that
    it opens. -/
structure InnermostOpen (after : List Token) : Prop where
  unclosed : ¬ ClosedIn after
  allClosed : AllClosed after

/-- A token between these stands inside a pair of parentheses that belong together. -/
def Enclosed (before : List Token) (token : Token) (after : List Token) : Prop :=
  ∃ outer inner inner' rest, before = outer ++ opening :: inner ∧
    after = inner' ++ closing :: rest ∧ Balanced (inner ++ token :: inner')

variable {tokens before after : List Token}

/-! ## Counting -/

theorem balanced_nil : Balanced [] where
  beginning first h := by rw [List.prefix_nil.1 h]; exact Nat.le_refl _
  total := rfl

theorem neverCloses_opening : NeverCloses [opening] := by
  intro first h
  have hle := h.sublist.count_le closing
  rw [List.count_cons_of_ne opening_ne_closing, List.count_nil] at hle
  omega

/-- An open parenthesis is closed where more are closed than opened behind it. -/
theorem closedIn_iff : ClosedIn after ↔ ¬ NeverCloses after := by
  constructor
  · rintro ⟨inner, rest, rfl, hinner⟩ hnever
    have hle := hnever (inner ++ [closing]) ⟨rest, by simp⟩
    have htotal := hinner.total
    rw [List.count_append, List.count_append, List.count_singleton_self,
      count_opening_closing] at hle
    omega
  · induction after using List.reverseRecOn with
    | nil => exact fun h => absurd balanced_nil.beginning h
    | append_singleton init token ih =>
      intro h
      by_cases hinit : NeverCloses init
      · -- the last token is the first that closes more than was opened
        obtain ⟨first, hfirst, hlt⟩ : ∃ first, first <+: init ++ [token] ∧
            first.count opening < first.count closing := by
          simpa only [NeverCloses, not_forall, exists_prop, Nat.not_le] using h
        rcases List.prefix_concat_iff.1 hfirst with rfl | hfirst
        · have hle := hinit init (List.prefix_refl init)
          rw [List.count_append, List.count_append] at hlt
          have htoken : token = closing := by
            by_contra hne
            rw [List.count_singleton, List.count_singleton] at hlt
            simp only [beq_iff_eq, hne, if_false] at hlt
            omega
          rw [htoken, List.count_singleton_self, count_opening_closing] at hlt
          exact ⟨init, [], by rw [htoken], hinit, by omega⟩
        · have := hinit first hfirst
          omega
      · obtain ⟨inner, rest, hi, hinner⟩ := ih hinit
        exact ⟨inner, rest ++ [token], by rw [hi]; simp, hinner⟩

/-- Where parentheses match, all are closed. -/
theorem Balanced.allClosed (h : Balanced tokens) : AllClosed tokens := by
  rintro before after rfl
  rw [closedIn_iff]
  intro hafter
  have hbefore := h.beginning before (List.prefix_append _ _)
  have hend := hafter after (List.prefix_refl after)
  have htotal := h.total
  rw [List.count_append, List.count_append, List.count_cons_self,
    List.count_cons_of_ne opening_ne_closing] at htotal
  omega

/-- Where all are closed, no more are opened than closed. -/
theorem AllClosed.count_le (h : AllClosed tokens) :
    tokens.count opening ≤ tokens.count closing := by
  induction hn : tokens.length using Nat.strongRecOn generalizing tokens with
  | ind n ih =>
    match tokens with
    | [] => exact Nat.le_refl _
    | token :: tokens =>
      by_cases ht : token = opening
      · subst ht
        obtain ⟨inner, rest, rfl, hinner⟩ := h [] tokens rfl
        have hrest : AllClosed rest := by
          rintro before after rfl
          exact h (opening :: (inner ++ closing :: before)) after (by simp)
        have hle := ih rest.length (by rw [← hn]; simp; omega) hrest rfl
        have htotal := hinner.total
        rw [List.count_cons_self, List.count_cons_of_ne opening_ne_closing, List.count_append,
          List.count_append, List.count_cons_self, List.count_cons_of_ne opening_ne_closing.symm]
        omega
      · have hrest : AllClosed tokens := by
          rintro before after rfl
          exact h (token :: before) after rfl
        have hle := ih tokens.length (by rw [← hn]; simp) hrest rfl
        have hcons := List.count_le_count_cons (a := closing) (b := token) (l := tokens)
        rw [List.count_cons_of_ne ht]
        omega

/-! ## The innermost open group -/

/-- Behind the innermost open parenthesis, and behind no other, parentheses match. -/
theorem innermostOpen_iff : InnermostOpen after ↔ Balanced after := by
  constructor
  · rintro ⟨hopen, hclosed⟩
    have hnever : NeverCloses after := not_not.1 (mt closedIn_iff.2 hopen)
    exact ⟨hnever, Nat.le_antisymm hclosed.count_le (hnever after (List.prefix_refl after))⟩
  · intro h
    exact ⟨fun hclosed => closedIn_iff.1 hclosed h.beginning, h.allClosed⟩

/-- An open parenthesis before matching ones does not match. -/
theorem Balanced.not_append_opening (h : Balanced after) (before : List Token) :
    ¬ Balanced (before ++ opening :: after) := by
  intro hall
  exact closedIn_iff.1 (hall.allClosed before after rfl) h.beginning

/-- There is only one innermost open parenthesis. -/
theorem append_inj_of_balanced {before' after' : List Token} (h : Balanced after)
    (h' : Balanced after') (heq : before ++ opening :: after = before' ++ opening :: after') :
    before = before' ∧ after = after' := by
  rcases List.append_eq_append_iff.1 heq with ⟨more, rfl, hmore⟩ | ⟨more, rfl, hmore⟩
  · cases more with
    | nil => simpa [eq_comm] using hmore
    | cons token more =>
      rw [List.cons_append, List.cons.injEq] at hmore
      obtain ⟨-, rfl⟩ := hmore
      exact absurd h (h'.not_append_opening more)
  · cases more with
    | nil => simpa [eq_comm] using hmore
    | cons token more =>
      rw [List.cons_append, List.cons.injEq] at hmore
      obtain ⟨-, rfl⟩ := hmore
      exact absurd h' (h.not_append_opening more)

/-! ## Tokens inside of groups -/

/-- Behind a token that stands inside a closed group, more are closed than opened. -/
theorem Enclosed.not_neverCloses {token : Token} (ht : token.isParenthesis = false)
    (h : Enclosed before token after) : ¬ NeverCloses after := by
  obtain ⟨outer, inner, inner', rest, rfl, rfl, hinner⟩ := h
  intro hnever
  have hle := hnever (inner' ++ [closing]) ⟨rest, by simp⟩
  have hbefore := hinner.beginning inner (List.prefix_append _ _)
  have htotal := hinner.total
  obtain ⟨ho, hc⟩ := count_of_isParenthesis ht
  rw [List.append_cons, List.count_append, List.count_append, List.count_append,
    List.count_append, ho, hc] at htotal
  rw [List.count_append, List.count_append, List.count_singleton_self,
    count_opening_closing] at hle
  omega

end Formula
