import DevServer.Http.Route.Conflict

/-!
# Room for a pattern is the absence of conflicts

`Conflict` says on two lists of parts alone that they cannot stand beside each other. Looking for
room walks all patterns at once, and finds room exactly if the rest of the path stands last and
no single pattern conflicts. Which of several conflicting patterns is reported is not settled here.
-/
namespace DevServer.Http

set_option autoImplicit false

/-- Parts that cannot stand beside each other: names of parameters aside they are the same, to
their ends or to a place where one has the rest of the path and the other a parameter or the rest. -/
inductive Conflict : List Token → List Token → Prop
  | done : Conflict [] []
  | literal {ts us : List Token} (c : Char) :
    Conflict ts us → Conflict (.literal c :: ts) (.literal c :: us)
  | param {ts us : List Token} (m n : String) :
    Conflict ts us → Conflict (.param m :: ts) (.param n :: us)
  | paramRest {ts us : List Token} (m n : String) : Conflict (.param m :: ts) (.rest n :: us)
  | restParam {ts us : List Token} (m n : String) : Conflict (.rest m :: ts) (.param n :: us)
  | restRest {ts us : List Token} (m n : String) : Conflict (.rest m :: ts) (.rest n :: us)

namespace Conflict

/-- Parts conflict with themselves, so a pattern is served once only. -/
theorem refl (ts : List Token) : Conflict ts ts := by
  induction ts with
  | nil => exact .done
  | cons t ts ih =>
    cases t with
    | literal c => exact .literal c ih
    | param m => exact .param m m ih
    | rest m => exact .restRest m m

theorem symm {ts us : List Token} (h : Conflict ts us) : Conflict us ts := by
  induction h with
  | done => exact .done
  | literal c _ ih => exact .literal c ih
  | param m n _ ih => exact .param n m ih
  | paramRest m n => exact .restParam n m
  | restParam m n => exact .paramRest n m
  | restRest m n => exact .restRest n m

theorem nil_right_iff {ts : List Token} : Conflict ts [] ↔ ts = [] := by
  constructor
  · intro h
    cases h
    rfl
  · rintro rfl
    exact .done

theorem literal_right_iff {ts us : List Token} {c : Char} :
    Conflict ts (.literal c :: us) ↔ ts.head? = some (.literal c) ∧ Conflict ts.tail us := by
  constructor
  · intro h
    cases h with
    | literal _ h => exact ⟨rfl, h⟩
  · rintro ⟨hh, ht⟩
    cases ts with
    | nil => cases hh
    | cons t ts =>
      obtain rfl := Option.some.inj hh
      exact .literal c ht

/-- What conflicts with a parameter is the rest of the path or a parameter before a conflict. -/
theorem param_right_iff {ts us : List Token} {n : String} :
    Conflict ts (.param n :: us) ↔
      (∃ m, ts.head? = some (.rest m)) ∨
        ∃ m, ts.head? = some (.param m) ∧ Conflict ts.tail us := by
  constructor
  · intro h
    cases h with
    | param m _ h => exact .inr ⟨m, rfl, h⟩
    | restParam m _ => exact .inl ⟨m, rfl⟩
  · intro h
    cases ts with
    | nil => simp at h
    | cons t ts =>
      rcases h with ⟨m, hh⟩ | ⟨m, hh, ht⟩
      · obtain rfl := Option.some.inj hh
        exact .restParam m n
      · obtain rfl := Option.some.inj hh
        exact .param m n ht

theorem rest_right_iff {ts us : List Token} {n : String} :
    Conflict ts (.rest n :: us) ↔ ts.head?.any Token.isWild := by
  constructor
  · intro h
    cases h <;> rfl
  · intro h
    cases ts with
    | nil => cases h
    | cons t ts =>
      cases t with
      | literal c => cases h
      | param m => exact .paramRest m n
      | rest m => exact .restRest m n

end Conflict

/-- The rest of the path stands at the end only. -/
def RestLast : List Token → Prop
  | [] => True
  | .literal _ :: ts => RestLast ts
  | .param _ :: ts => RestLast ts
  | .rest _ :: ts => ts = []

theorem mem_withLiteral {c : Char} {rs : List Remaining} {r : Remaining} :
    r ∈ withLiteral c rs ↔ ∃ q ∈ rs, q.tokens.head? = some (.literal c) ∧ r = q.tail := by
  simp only [withLiteral, List.mem_map, List.mem_filter, decide_eq_true_eq]
  constructor
  · rintro ⟨q, ⟨hq, hc⟩, rfl⟩
    exact ⟨q, hq, hc, rfl⟩
  · rintro ⟨q, hq, hc, rfl⟩
    exact ⟨q, ⟨hq, hc⟩, rfl⟩

theorem mem_withWild {rs : List Remaining} {r : Remaining} :
    r ∈ withWild rs ↔ r ∈ rs ∧ r.tokens.head?.any Token.isWild := by
  simp only [withWild, List.mem_filter]

theorem Remaining.atParam_iff {r : Remaining} :
    r.atParam ↔ ∃ m, r.tokens.head? = some (.param m) := by
  unfold Remaining.atParam
  constructor
  · intro h
    split at h
    · exact ⟨_, ‹_›⟩
    · cases h
  · rintro ⟨m, hm⟩
    rw [hm]

/-- Some remaining patterns conflict with parts. -/
def Blocked (rs : List Remaining) (ts : List Token) : Prop := ∃ r ∈ rs, Conflict r.tokens ts

theorem blocked_nil_iff {rs : List Remaining} : Blocked rs [] ↔ ∃ r ∈ rs, r.tokens = [] := by
  simp only [Blocked, Conflict.nil_right_iff]

theorem blocked_literal_iff {rs : List Remaining} {c : Char} {ts : List Token} :
    Blocked rs (.literal c :: ts) ↔ Blocked (withLiteral c rs) ts := by
  constructor
  · rintro ⟨r, hr, h⟩
    obtain ⟨hh, ht⟩ := Conflict.literal_right_iff.mp h
    exact ⟨r.tail, mem_withLiteral.mpr ⟨r, hr, hh, rfl⟩, ht⟩
  · rintro ⟨r, hr, h⟩
    obtain ⟨q, hq, hh, rfl⟩ := mem_withLiteral.mp hr
    exact ⟨q, hq, Conflict.literal_right_iff.mpr ⟨hh, h⟩⟩

theorem not_blocked_of_no_wild {rs : List Remaining} (h : withWild rs = []) {t : Token}
    (ht : t.isWild) (ts : List Token) : ¬ Blocked rs (t :: ts) := by
  rintro ⟨r, hr, hc⟩
  have hw : r.tokens.head?.any Token.isWild = true := by
    cases t with
    | literal c => cases ht
    | param n =>
      rcases Conflict.param_right_iff.mp hc with ⟨m, hh⟩ | ⟨m, hh, _⟩
      · rw [hh]; rfl
      · rw [hh]; rfl
    | rest n => exact Conflict.rest_right_iff.mp hc
  have hm : r ∈ withWild rs := mem_withWild.mpr ⟨hr, hw⟩
  rw [h] at hm
  cases hm

/-- Where all wild parts are parameters, they are left behind like equal text. -/
theorem blocked_param_iff {rs : List Remaining}
    (h : (withWild rs).all Remaining.atParam) {n : String} {ts : List Token} :
    Blocked rs (.param n :: ts) ↔ Blocked ((withWild rs).map Remaining.tail) ts := by
  have hp : ∀ r ∈ withWild rs, ∃ m, r.tokens.head? = some (.param m) := fun r hr =>
    Remaining.atParam_iff.mp (List.all_eq_true.mp h r hr)
  constructor
  · rintro ⟨r, hr, hc⟩
    rcases Conflict.param_right_iff.mp hc with ⟨m, hh⟩ | ⟨m, hh, ht⟩
    · obtain ⟨k, hk⟩ := hp r (mem_withWild.mpr ⟨hr, by rw [hh]; rfl⟩)
      rw [hh] at hk
      cases hk
    · exact ⟨r.tail, List.mem_map_of_mem (mem_withWild.mpr ⟨hr, by rw [hh]; rfl⟩), ht⟩
  · rintro ⟨r, hr, hc⟩
    obtain ⟨q, hq, rfl⟩ := List.mem_map.mp hr
    obtain ⟨m, hm⟩ := hp q hq
    exact ⟨q, (mem_withWild.mp hq).1, Conflict.param_right_iff.mpr (.inr ⟨m, hm, hc⟩)⟩

/-- A wild part that is no parameter is the rest of the path, which leaves no room. -/
theorem blocked_param_of_rest {rs : List Remaining} {r : Remaining} (hr : r ∈ withWild rs)
    (h : ¬ r.atParam) (n : String) (ts : List Token) : Blocked rs (.param n :: ts) := by
  obtain ⟨hmem, hw⟩ := mem_withWild.mp hr
  refine ⟨r, hmem, Conflict.param_right_iff.mpr (.inl ?_)⟩
  cases ht : r.tokens with
  | nil => rw [ht] at hw; cases hw
  | cons t ts =>
    cases t with
    | literal c => rw [ht] at hw; cases hw
    | param m => exact absurd (Remaining.atParam_iff.mpr ⟨m, by rw [ht]; rfl⟩) h
    | rest m => exact ⟨m, rfl⟩

theorem blocked_rest_iff {rs : List Remaining} {n : String} {ts : List Token} :
    Blocked rs (.rest n :: ts) ↔ withWild rs ≠ [] := by
  constructor
  · intro h he
    exact not_blocked_of_no_wild he rfl ts h
  · intro h
    obtain ⟨r, hr⟩ := List.exists_mem_of_ne_nil _ h
    obtain ⟨hmem, hw⟩ := mem_withWild.mp hr
    exact ⟨r, hmem, Conflict.rest_right_iff.mpr hw⟩

/-- What looking for room comes to. -/
inductive RoomSpec (rs : List Remaining) (ts : List Token) : Except PatternFault Unit → Prop
  | room : RestLast ts → ¬ Blocked rs ts → RoomSpec rs ts (.ok ())
  | blocked (shown : String) : Blocked rs ts → RoomSpec rs ts (.error (.conflict shown))
  | restNotLast : ¬ RestLast ts → RoomSpec rs ts (.error .restNotLast)

theorem RoomSpec.of_iff {rs qs : List Remaining} {ts us : List Token} {o : Except PatternFault Unit}
    (h : RoomSpec qs us o) (hl : RestLast ts ↔ RestLast us) (hb : Blocked rs ts ↔ Blocked qs us) :
    RoomSpec rs ts o := by
  cases h with
  | room hlast hfree => exact .room (hl.mpr hlast) fun h => hfree (hb.mp h)
  | blocked shown h => exact .blocked shown (hb.mpr h)
  | restNotLast hlast => exact .restNotLast fun h => hlast (hl.mp h)

/-- The walk over the parts finds out about all remaining patterns at once. -/
theorem findRoom_spec (rs : List Remaining) (ts : List Token) : RoomSpec rs ts (findRoom rs ts) := by
  induction ts generalizing rs with
  | nil =>
    rw [findRoom]
    cases hf : rs.find? (·.tokens = []) with
    | none =>
      refine .room trivial fun hb => ?_
      obtain ⟨r, hr, he⟩ := blocked_nil_iff.mp hb
      exact List.find?_eq_none.mp hf r hr (decide_eq_true he)
    | some r =>
      have he := List.find?_some hf
      exact .blocked _ (blocked_nil_iff.mpr ⟨r, List.mem_of_find?_eq_some hf, of_decide_eq_true he⟩)
  | cons t ts ih =>
    cases t with
    | literal c =>
      rw [findRoom]
      exact (ih (withLiteral c rs)).of_iff Iff.rfl blocked_literal_iff
    | param n =>
      rw [findRoom]
      by_cases hw : withWild rs = []
      · have hfree := not_blocked_of_no_wild hw (t := .param n) rfl ts
        have hnone : ¬ Blocked [] ts := fun ⟨_, hr, _⟩ => List.not_mem_nil hr
        simp only [hw]
        exact (ih []).of_iff Iff.rfl (iff_of_false hfree hnone)
      · by_cases hall : (withWild rs).all Remaining.atParam
        · simp only [hall]
          exact (ih _).of_iff Iff.rfl (blocked_param_iff hall)
        · simp only [hall]
          obtain ⟨r, hr, hn⟩ : ∃ r ∈ withWild rs, ¬ r.atParam := by simpa using hall
          exact .blocked _ (blocked_param_of_rest hr hn n ts)
    | rest n =>
      rw [findRoom]
      cases hw : withWild rs with
      | nil =>
        have hfree := not_blocked_of_no_wild hw (t := .rest n) rfl ts
        by_cases ht : ts = []
        · simp only [ht]
          exact .room rfl (ht ▸ hfree)
        · simp only [ht]
          exact .restNotLast ht
      | cons w ws =>
        exact .blocked _ (blocked_rest_iff.mpr (by rw [hw]; exact List.cons_ne_nil w ws))

theorem findRoom_eq_ok_iff {rs : List Remaining} {ts : List Token} :
    findRoom rs ts = .ok () ↔ RestLast ts ∧ ¬ Blocked rs ts := by
  have hs := findRoom_spec rs ts
  constructor
  · intro h
    rw [h] at hs
    cases hs with
    | room hl hb => exact ⟨hl, hb⟩
  · rintro ⟨hl, hb⟩
    cases hf : findRoom rs ts with
    | ok u => rfl
    | error fault =>
      rw [hf] at hs
      cases hs with
      | blocked _ h => exact absurd h hb
      | restNotLast h => exact absurd hl h

/-- The fault of a pattern that is well formed itself is a conflict. -/
theorem findRoom_eq_conflict {rs : List Remaining} {ts : List Token} (hl : RestLast ts)
    (hb : Blocked rs ts) : ∃ shown, findRoom rs ts = .error (.conflict shown) := by
  have hs := findRoom_spec rs ts
  cases hf : findRoom rs ts with
  | ok u => exact absurd hb (findRoom_eq_ok_iff.mp hf).2
  | error fault =>
    rw [hf] at hs
    cases hs with
    | blocked shown _ => exact ⟨shown, rfl⟩
    | restNotLast h => exact absurd hl h

/-- Patterns of which nothing has been compared. -/
theorem blocked_whole_iff {qs : List Pattern} {ts : List Token} :
    Blocked (qs.map fun q => ⟨q, q.tokens⟩) ts ↔ ∃ q ∈ qs, Conflict q.tokens ts := by
  unfold Blocked
  constructor
  · rintro ⟨r, hr, hc⟩
    obtain ⟨q, hq, rfl⟩ := List.mem_map.mp hr
    exact ⟨q, hq, hc⟩
  · rintro ⟨q, hq, hc⟩
    exact ⟨_, List.mem_map_of_mem hq, hc⟩

end DevServer.Http
