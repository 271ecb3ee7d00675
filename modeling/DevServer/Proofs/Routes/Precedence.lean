import DevServer.Http.Route.Router
import DevServer.Proofs.Routes.Conflicts
import Mathlib.Data.List.Pairwise

/-!
# The pattern that serves a path does not depend on the order of the table

Two patterns that match the same path are ordered by precedence unless they conflict. In a table
without conflicts the match that serves a path is therefore the only one that no other precedes,
whatever the order in which the patterns were added.
-/
namespace DevServer.Http

set_option autoImplicit false

namespace Pattern

theorem precedes_irrefl (ts : List Token) : precedes ts ts = false := by
  induction ts with
  | nil => rfl
  | cons t ts ih => cases t <;> simp [precedes, ih]

theorem precedes_trans {ts us vs : List Token} (h : precedes ts us) (h' : precedes us vs) :
    precedes ts vs := by
  fun_induction precedes ts us generalizing vs with
  | case1 c ts d us ih =>
    simp only [Bool.and_eq_true, decide_eq_true_eq] at h
    obtain ⟨rfl, h⟩ := h
    match vs with
    | .literal e :: vs =>
      simp only [precedes, Bool.and_eq_true, decide_eq_true_eq] at h' ⊢
      exact ⟨h'.1, ih h h'.2⟩
    | .param _ :: _ => rfl
    | .rest _ :: _ => rfl
  | case2 c ts m us =>
    match vs with
    | .param _ :: _ => rfl
  | case3 c ts m us => cases h'
  | case4 m ts n us ih =>
    match vs with
    | .param _ :: vs => exact ih h h'
  | case5 => cases h

theorem precedes_asymm {ts us : List Token} (h : precedes ts us) : ¬ precedes us ts := by
  intro h'
  have hc := precedes_trans h h'
  rw [precedes_irrefl] at hc
  cases hc

/-- Only a pattern without parts matches the empty path. -/
theorem eq_nil_of_matchTokens_nil {ts : List Token} (h : (matchTokens ts []).isSome) : ts = [] := by
  induction ts with
  | nil => rfl
  | cons t ts ih =>
    cases t with
    | literal c => cases h
    | param m =>
      by_cases ht : ts = []
      · simp [matchTokens, ht] at h
      · have hr : (matchTokens ts []).isSome := by simpa [matchTokens, ht] using h
        exact absurd (ih hr) ht
    | rest m => cases h

/-- What is left of a path behind a segment. -/
theorem matchTokens_param_tail {m : String} {ts : List Token} {path : List Char}
    (h : (matchTokens (.param m :: ts) path).isSome) :
    (matchTokens ts (path.drop (path.takeWhile (· ≠ '/')).length)).isSome := by
  simp only [matchTokens] at h
  split at h
  · cases h
  · simpa using h

/-- Text at the head of a pattern is the character at the head of the path. -/
theorem matchTokens_literal {c d : Char} {ts : List Token} {path : List Char}
    (h : (matchTokens (.literal c :: ts) (d :: path)).isSome) :
    c = d ∧ (matchTokens ts path).isSome := by
  rw [matchTokens] at h
  split at h
  · exact ⟨‹_›, h⟩
  · cases h

/-- Of two patterns that match a path one precedes the other, or they conflict. -/
theorem precedes_or_conflict {ts us : List Token} {path : List Char}
    (ht : (matchTokens ts path).isSome) (hu : (matchTokens us path).isSome) :
    precedes ts us ∨ precedes us ts ∨ Conflict ts us := by
  -- The patterns agree up to here, so they have come to the same place of the path.
  induction ts generalizing us path with
  | nil =>
    cases path with
    | nil =>
      rw [eq_nil_of_matchTokens_nil hu]
      exact .inr (.inr .done)
    | cons d path => cases ht
  | cons t ts ih =>
    cases path with
    | nil => cases eq_nil_of_matchTokens_nil ht
    | cons d path =>
      match t, us with
      | _, [] => cases hu
      | .literal c, .literal c' :: us =>
        obtain ⟨rfl, ht'⟩ := matchTokens_literal ht
        obtain ⟨rfl, hu'⟩ := matchTokens_literal hu
        rcases ih ht' hu' with h | h | h
        · exact .inl (by simpa [precedes] using h)
        · exact .inr (.inl (by simpa [precedes] using h))
        · exact .inr (.inr (.literal _ h))
      | .literal c, .param n :: us => exact .inl rfl
      | .literal c, .rest n :: us => exact .inl rfl
      | .param m, .literal c :: us => exact .inr (.inl rfl)
      | .param m, .param n :: us =>
        rcases ih (matchTokens_param_tail ht) (matchTokens_param_tail hu) with h | h | h
        · exact .inl h
        · exact .inr (.inl h)
        · exact .inr (.inr (.param m n h))
      | .param m, .rest n :: us => exact .inr (.inr (.paramRest m n))
      | .rest m, .literal c :: us => exact .inr (.inl rfl)
      | .rest m, .param n :: us => exact .inr (.inr (.restParam m n))
      | .rest m, .rest n :: us => exact .inr (.inr (.restRest m n))

end Pattern

namespace Router

variable {α : Type}

/-- One of two matches precedes the other. -/
def Matched.Ordered (m n : Matched α) : Prop :=
  Pattern.precedes m.route.pattern.tokens n.route.pattern.tokens ∨
    Pattern.precedes n.route.pattern.tokens m.route.pattern.tokens

instance : Std.Symm (@Matched.Ordered α) := ⟨fun _ _ => Or.symm⟩

/-- No match of a list precedes this one. -/
def Matched.Leads (m : Matched α) (ms : List (Matched α)) : Prop :=
  ∀ n ∈ ms, ¬ Pattern.precedes n.route.pattern.tokens m.route.pattern.tokens

theorem first?_eq_none_iff {ms : List (Matched α)} : first? ms = none ↔ ms = [] := by
  cases ms with
  | nil => simp [first?]
  | cons m ms =>
    rw [first?]
    split
    · simp
    · split <;> simp

theorem first?_mem {ms : List (Matched α)} {m : Matched α} (h : first? ms = some m) : m ∈ ms := by
  induction ms with
  | nil => cases h
  | cons k ms ih =>
    rw [first?] at h
    split at h
    · exact List.mem_cons.mpr (.inl (Option.some.inj h).symm)
    · split at h
      · exact List.mem_cons_of_mem _ (ih (by rw [← h]; assumption))
      · exact List.mem_cons.mpr (.inl (Option.some.inj h).symm)

/-- The chosen match is preceded by none, where all matches are ordered. -/
theorem first?_leads {ms : List (Matched α)} (ho : ms.Pairwise Matched.Ordered) {m : Matched α}
    (h : first? ms = some m) : m.Leads ms := by
  induction ms generalizing m with
  | nil => cases h
  | cons k ms ih =>
    obtain ⟨hk, hms⟩ := List.pairwise_cons.mp ho
    rw [first?] at h
    split at h
    · rename_i hnone
      obtain rfl := Option.some.inj h
      rw [first?_eq_none_iff.mp hnone]
      intro n hn
      obtain rfl := List.mem_singleton.mp hn
      rw [Pattern.precedes_irrefl]
      exact Bool.false_ne_true
    · rename_i f hf
      have hlead := ih hms hf
      split at h
      · obtain rfl := Option.some.inj h
        intro n hn
        rcases List.mem_cons.mp hn with rfl | hn
        · exact Pattern.precedes_asymm ‹_›
        · exact hlead n hn
      · obtain rfl := Option.some.inj h
        -- The head is before the best of the rest, so before all of them.
        have hkf := (hk f (first?_mem hf)).resolve_right ‹_›
        intro n hn hp
        rcases List.mem_cons.mp hn with rfl | hn
        · rw [Pattern.precedes_irrefl] at hp
          cases hp
        · exact hlead n hn (Pattern.precedes_trans hp hkf)

/-- Ordered matches have one leader at most. -/
theorem Matched.Leads.unique {ms : List (Matched α)} (ho : ms.Pairwise Matched.Ordered)
    {m n : Matched α} (hm : m ∈ ms) (hn : n ∈ ms) (h : m.Leads ms) (h' : n.Leads ms) : m = n := by
  by_cases he : m = n
  · exact he
  · rcases ho.forall hm hn he with hp | hp
    · exact absurd hp (h' m hm)
    · exact absurd hp (h n hn)

theorem first?_eq_some_iff {ms : List (Matched α)} (ho : ms.Pairwise Matched.Ordered)
    {m : Matched α} : first? ms = some m ↔ m ∈ ms ∧ m.Leads ms := by
  constructor
  · intro h
    exact ⟨first?_mem h, first?_leads ho h⟩
  · rintro ⟨hm, hl⟩
    cases hf : first? ms with
    | none =>
      rw [first?_eq_none_iff.mp hf] at hm
      cases hm
    | some n => rw [Matched.Leads.unique ho (first?_mem hf) hm (first?_leads ho hf) hl]

end Router
end DevServer.Http
