import DevServer.Http.Route.Router
import DevServer.Proofs.Routes.Conflicts

/-!
# Tables of routes as sets of patterns

`Sound` is what adding routes keeps: each pattern reads back from its text, has the rest of the path
at its end only, and conflicts with no other. Merging two sound tables that share no text succeeds
exactly if no pattern of one conflicts with a pattern of the other, and then the routes of both stand
beside each other.
-/
namespace DevServer.Http

set_option autoImplicit false

namespace Pattern

theorem text_of_ofString {text : String} {p : Pattern} (h : ofString text = .ok p) :
    p.text = text := by
  unfold ofString at h
  cases hr : readTokens 0 .text (undouble text.toList) with
  | error f => rw [hr] at h; cases h
  | ok ts =>
    rw [hr] at h
    obtain rfl := Except.ok.inj h
    rfl

/-- A pattern that a table can have: its text may be added and reads as the pattern. -/
structure WellFormed (p : Pattern) : Prop where
  checked : Router.checkPath p.text = .ok ()
  reads : ofString p.text = .ok p
  restLast : RestLast p.tokens

theorem WellFormed.eq_of_text_eq {p q : Pattern} (hp : p.WellFormed) (hq : q.WellFormed)
    (h : p.text = q.text) : p = q := by
  have hr := hp.reads
  rw [h, hq.reads] at hr
  exact (Except.ok.inj hr).symm

/-- Every pattern of a table begins with a slash. -/
theorem WellFormed.head_slash {p : Pattern} (hp : p.WellFormed) :
    p.tokens.head? = some (.literal '/') := by
  have hc := hp.checked
  have hr := hp.reads
  unfold Router.checkPath at hc
  unfold ofString at hr
  cases ht : p.text.toList with
  | nil => rw [ht] at hc; cases hc
  | cons c cs =>
    rw [ht] at hc hr
    by_cases hs : c = '/'
    · subst hs
      have hu : undouble ('/' :: cs) = ⟨'/', false⟩ :: undouble cs := by
        rw [undouble]
        · rintro rest ⟨⟩
        · rintro rest ⟨⟩
      have hrt : readTokens 0 .text (⟨'/', false⟩ :: undouble cs) =
          (readTokens 0 .text (undouble cs)).map (.literal '/' :: ·) := by
        simp [readTokens]
      rw [hu, hrt] at hr
      cases hts : readTokens 0 .text (undouble cs) with
      | error f => rw [hts] at hr; cases hr
      | ok ts =>
        rw [hts] at hr
        rw [← Except.ok.inj hr]
        rfl
    · dsimp only at hc
      rw [if_pos hs] at hc
      cases hc

/-- A pattern finds room beside patterns that it does not conflict with. -/
theorem WellFormed.room_eq_ok {p : Pattern} (hp : p.WellFormed) {qs : List Pattern}
    (h : ∀ q ∈ qs, ¬ Conflict q.tokens p.tokens) : room p.text qs = .ok p := by
  have hb : ¬ Blocked (qs.map fun q => ⟨q, q.tokens⟩) p.tokens := fun hb => by
    obtain ⟨q, hq, hc⟩ := blocked_whole_iff.mp hb
    exact h q hq hc
  have hf := findRoom_eq_ok_iff.mpr ⟨hp.restLast, hb⟩
  simp [room, hp.reads, hf, bind, Except.bind, pure, Except.pure]

theorem WellFormed.room_eq_conflict {p : Pattern} (hp : p.WellFormed) {qs : List Pattern}
    (h : ∃ q ∈ qs, Conflict q.tokens p.tokens) :
    ∃ shown, room p.text qs = .error (.conflict shown) := by
  obtain ⟨shown, hf⟩ := findRoom_eq_conflict hp.restLast (blocked_whole_iff.mpr h)
  exact ⟨shown, by simp [room, hp.reads, hf, bind, Except.bind]⟩

theorem of_room_ok {text : String} {qs : List Pattern} {p : Pattern} (h : room text qs = .ok p) :
    ofString text = .ok p ∧ RestLast p.tokens ∧ ∀ q ∈ qs, ¬ Conflict q.tokens p.tokens := by
  unfold room at h
  cases hr : ofString text with
  | error f => rw [hr] at h; cases h
  | ok p' =>
    rw [hr] at h
    cases hf : findRoom (qs.map fun q => ⟨q, q.tokens⟩) p'.tokens with
    | error f => simp [hf, bind, Except.bind] at h
    | ok u =>
      obtain rfl : p' = p := by simpa [hf, bind, Except.bind, pure, Except.pure] using h
      obtain ⟨hl, hb⟩ := findRoom_eq_ok_iff.mp hf
      exact ⟨rfl, hl, fun q hq hc => hb (blocked_whole_iff.mpr ⟨q, hq, hc⟩)⟩

end Pattern

/-- Patterns that can be one table: each is well formed and no two of them conflict. -/
structure Sound (ps : List Pattern) : Prop where
  wellFormed : ∀ p ∈ ps, p.WellFormed
  separate : ps.Pairwise fun p q => ¬ Conflict p.tokens q.tokens

namespace Sound

theorem nil : Sound [] := ⟨by simp, .nil⟩

theorem append {ps qs : List Pattern} (hp : Sound ps) (hq : Sound qs)
    (h : ∀ p ∈ ps, ∀ q ∈ qs, ¬ Conflict p.tokens q.tokens) : Sound (ps ++ qs) where
  wellFormed p hm := (List.mem_append.mp hm).elim (hp.wellFormed p) (hq.wellFormed p)
  separate := List.pairwise_append.mpr ⟨hp.separate, hq.separate, h⟩

theorem singleton {p : Pattern} (hp : p.WellFormed) : Sound [p] where
  wellFormed q hq := by rw [List.mem_singleton.mp hq]; exact hp
  separate := List.pairwise_singleton _ _

/-- Patterns without conflicts have different texts. -/
theorem nodup_texts {ps : List Pattern} (h : Sound ps) : (ps.map Pattern.text).Nodup := by
  refine List.pairwise_map.mpr (h.separate.imp_of_mem fun {p q} hp hq hc he => ?_)
  rw [(h.wellFormed p hp).eq_of_text_eq (h.wellFormed q hq) he] at hc
  exact hc (Conflict.refl _)

end Sound

namespace Router

variable {α : Type}

/-- The patterns of a table. -/
def patterns (r : Router α) : List Pattern := r.routes.map fun t => t.pattern

theorem paths_eq (r : Router α) : r.paths = r.patterns.map Pattern.text := by
  simp [paths, patterns]

theorem mem_paths {r : Router α} {text : String} :
    text ∈ r.paths ↔ ∃ p ∈ r.patterns, p.text = text := by
  rw [paths_eq, List.mem_map]

/-- The patterns of a table are those that some texts write, one for each and in their order. -/
def Lists (r : Router α) (texts : List String) : Prop :=
  r.patterns.map .ok = texts.map Pattern.ofString

theorem lists_paths {r : Router α} (hs : Sound r.patterns) : r.Lists r.paths := by
  unfold Lists
  rw [paths_eq, List.map_map]
  exact List.map_congr_left fun p hp => (hs.wellFormed p hp).reads.symm

/-- The routes of both tables. -/
def beside (r s : Router α) : Router α := ⟨r.routes ++ s.routes⟩

@[simp] theorem patterns_beside (r s : Router α) :
    (r.beside s).patterns = r.patterns ++ s.patterns := by
  simp [patterns, beside]

@[simp] theorem paths_beside (r s : Router α) : (r.beside s).paths = r.paths ++ s.paths := by
  simp [paths, beside]

theorem find_text_eq_none {r : Router α} {text : String} (h : text ∉ r.paths) :
    r.routes.find? (·.pattern.text = text) = none := by
  refine List.find?_eq_none.mpr fun t ht he => h ?_
  rw [← of_decide_eq_true he]
  exact List.mem_map_of_mem ht

/-- A well-formed pattern of a new text is added as a route of its own. -/
theorem insert_new {r : Router α} {p : Pattern} (hp : p.WellFormed) (hn : p.text ∉ r.paths)
    (h : ∀ q ∈ r.patterns, ¬ Conflict q.tokens p.tokens) (e : Endpoints α) :
    r.insert p.text e = .ok (r.beside ⟨[⟨p, e⟩]⟩) := by
  have hroom := hp.room_eq_ok h
  unfold patterns at hroom
  simp [insert, hp.checked, find_text_eq_none hn, hroom, beside, bind, Except.bind, pure,
    Except.pure]

/-- A well-formed pattern of a new text is refused where it conflicts with a pattern. -/
theorem insert_conflict {r : Router α} {p : Pattern} (hp : p.WellFormed) (hn : p.text ∉ r.paths)
    (h : ∃ q ∈ r.patterns, Conflict q.tokens p.tokens) (e : Endpoints α) :
    ∃ shown, r.insert p.text e = .error (.pattern p.text (.conflict shown)) := by
  obtain ⟨shown, hroom⟩ := hp.room_eq_conflict h
  unfold patterns at hroom
  exact ⟨shown, by simp [insert, hp.checked, find_text_eq_none hn, hroom, bind, Except.bind]⟩

/-- Adding what serves a path leaves the patterns as they are or brings one more. -/
theorem patterns_of_insert {r r' : Router α} {path : String} {e : Endpoints α}
    (h : r.insert path e = .ok r') :
    (path ∈ r.paths ∧ r'.patterns = r.patterns) ∨
      path ∉ r.paths ∧ ∃ p : Pattern, p.text = path ∧ p.WellFormed ∧
        (∀ q ∈ r.patterns, ¬ Conflict q.tokens p.tokens) ∧ r'.patterns = r.patterns ++ [p] := by
  unfold insert at h
  cases hc : checkPath path with
  | error f => simp [hc, bind, Except.bind] at h
  | ok u =>
    cases hf : r.routes.find? (·.pattern.text = path) with
    | some there =>
      have he := List.find?_some hf
      have hm : path ∈ r.paths := by
        rw [← of_decide_eq_true he]
        exact List.mem_map_of_mem (List.mem_of_find?_eq_some hf)
      refine .inl ⟨hm, ?_⟩
      cases hj : join path there.endpoints e with
      | error f => simp [hc, hf, hj, bind, Except.bind] at h
      | ok joined =>
        simp only [hc, hf, hj, bind, Except.bind, pure, Except.pure] at h
        rw [← Except.ok.inj h]
        simp only [patterns, List.map_map]
        refine List.map_congr_left fun t _ => ?_
        simp only [Function.comp_apply]
        split <;> rfl
    | none =>
      have hm : path ∉ r.paths := fun hm => by
        obtain ⟨t, ht, he⟩ := List.mem_map.mp hm
        exact List.find?_eq_none.mp hf t ht (decide_eq_true he)
      refine .inr ⟨hm, ?_⟩
      cases hr : Pattern.room path (r.routes.map fun t => t.pattern) with
      | error f => simp [hc, hf, hr, bind, Except.bind] at h
      | ok p =>
        obtain ⟨hread, hlast, hfree⟩ := Pattern.of_room_ok hr
        have ht := Pattern.text_of_ofString hread
        simp only [hc, hf, hr, bind, Except.bind, pure, Except.pure] at h
        rw [← Except.ok.inj h]
        exact ⟨p, ht, ⟨ht.symm ▸ hc, ht.symm ▸ hread, hlast⟩, hfree, by simp [patterns]⟩

theorem sound_insert {r r' : Router α} {path : String} {e : Endpoints α} (hs : Sound r.patterns)
    (h : r.insert path e = .ok r') : Sound r'.patterns := by
  rcases patterns_of_insert h with ⟨_, he⟩ | ⟨_, p, _, hw, hfree, he⟩
  · rw [he]
    exact hs
  · rw [he]
    refine hs.append (.singleton hw) fun q hq p' hp' => ?_
    rw [List.mem_singleton.mp hp']
    exact hfree q hq

/-- A pattern of one table conflicts with a pattern of another. -/
def Clashing (r s : Router α) : Prop :=
  ∃ q ∈ r.patterns, ∃ p ∈ s.patterns, Conflict q.tokens p.tokens

/-- A route that fits into the one table and stands beside the others of its own may move over. -/
theorem clashing_move {r : Router α} {t : Route α} {ts : List (Route α)}
    (hr : ∀ q ∈ r.patterns, ¬ Conflict q.tokens t.pattern.tokens)
    (ht : ∀ u ∈ ts, ¬ Conflict t.pattern.tokens u.pattern.tokens) :
    (r.beside ⟨[t]⟩).Clashing ⟨ts⟩ ↔ r.Clashing ⟨t :: ts⟩ := by
  constructor
  · rintro ⟨q, hq, p, hp, hc⟩
    rw [patterns_beside] at hq
    rcases List.mem_append.mp hq with hq | hq
    · exact ⟨q, hq, p, List.mem_cons_of_mem _ hp, hc⟩
    · rw [List.mem_singleton.mp hq] at hc
      obtain ⟨u, hu, rfl⟩ := List.mem_map.mp hp
      exact absurd hc (ht u hu)
  · rintro ⟨q, hq, p, hp, hc⟩
    rcases List.mem_cons.mp hp with rfl | hp
    · exact absurd hc (hr q hq)
    · exact ⟨q, by rw [patterns_beside]; exact List.mem_append_left _ hq, p, hp, hc⟩

/-- What merging comes to. -/
inductive MergeSpec (r s : Router α) : Except RouteFault (Router α) → Prop
  | merged : ¬ r.Clashing s → MergeSpec r s (.ok (r.beside s))
  | refused (p : Pattern) (shown : String) : p ∈ s.patterns → r.Clashing s →
    MergeSpec r s (.error (.pattern p.text (.conflict shown)))

theorem MergeSpec.move {r : Router α} {t : Route α} {ts : List (Route α)}
    {o : Except RouteFault (Router α)} (h : MergeSpec (r.beside ⟨[t]⟩) ⟨ts⟩ o)
    (hc : (r.beside ⟨[t]⟩).Clashing ⟨ts⟩ ↔ r.Clashing ⟨t :: ts⟩) : MergeSpec r ⟨t :: ts⟩ o := by
  cases h with
  | merged hfree =>
    have hassoc : (r.beside ⟨[t]⟩).beside ⟨ts⟩ = r.beside ⟨t :: ts⟩ := by simp [beside]
    rw [hassoc]
    exact .merged fun h => hfree (hc.mpr h)
  | refused p shown hm hclash => exact .refused p shown (List.mem_cons_of_mem _ hm) (hc.mp hclash)

/-- Routes are added one by one, and none of them stands in the way of the next. -/
theorem merge_spec {r s : Router α} (hs : Sound s.patterns) (hn : ∀ text ∈ s.paths, text ∉ r.paths) :
    MergeSpec r s (r.merge s) := by
  obtain ⟨ts⟩ := s
  unfold merge
  induction ts generalizing r with
  | nil =>
    have hfree : ¬ r.Clashing (⟨[]⟩ : Router α) := fun ⟨_, _, p, hp, _⟩ => List.not_mem_nil hp
    simpa [beside, pure, Except.pure] using MergeSpec.merged hfree
  | cons t ts ih =>
    have hw : t.pattern.WellFormed := hs.wellFormed _ (List.mem_cons_self ..)
    have hnew : t.pattern.text ∉ r.paths := hn _ (List.mem_cons_self ..)
    obtain ⟨hsep, hrest⟩ := List.pairwise_cons.mp hs.separate
    have htexts := List.nodup_cons.mp hs.nodup_texts
    simp only [List.foldlM_cons]
    by_cases hc : ∃ q ∈ r.patterns, Conflict q.tokens t.pattern.tokens
    · obtain ⟨shown, hi⟩ := insert_conflict hw hnew hc t.endpoints
      obtain ⟨q, hq, hc⟩ := hc
      have hm : t.pattern ∈ (⟨t :: ts⟩ : Router α).patterns := List.mem_cons_self ..
      rw [hi]
      exact .refused t.pattern shown hm ⟨q, hq, t.pattern, hm, hc⟩
    · have hfree : ∀ q ∈ r.patterns, ¬ Conflict q.tokens t.pattern.tokens :=
        fun q hq h => hc ⟨q, hq, h⟩
      rw [insert_new hw hnew hfree t.endpoints]
      have hs' : Sound (⟨ts⟩ : Router α).patterns :=
        ⟨fun p hp => hs.wellFormed p (List.mem_cons_of_mem _ hp), hrest⟩
      have hn' : ∀ text ∈ (⟨ts⟩ : Router α).paths, text ∉ (r.beside ⟨[t]⟩).paths := by
        intro text hm hm'
        rw [paths_beside] at hm'
        rcases List.mem_append.mp hm' with h | h
        · exact hn text (List.mem_cons_of_mem _ hm) h
        · obtain rfl : text = t.pattern.text := by simpa [paths] using h
          rw [paths_eq] at hm
          exact htexts.1 hm
      exact (ih hs' hn').move (clashing_move hfree fun u hu => hsep _ (List.mem_map_of_mem hu))

theorem merge_eq_ok {r s : Router α} (hs : Sound s.patterns)
    (hn : ∀ text ∈ s.paths, text ∉ r.paths) (h : ¬ r.Clashing s) : r.merge s = .ok (r.beside s) := by
  have hspec := merge_spec hs hn
  cases hm : r.merge s with
  | ok t =>
    rw [hm] at hspec
    cases hspec
    rfl
  | error fault =>
    rw [hm] at hspec
    cases hspec with
    | refused _ _ _ hc => exact absurd hc h

theorem merge_eq_error {r s : Router α} (hs : Sound s.patterns)
    (hn : ∀ text ∈ s.paths, text ∉ r.paths) (h : r.Clashing s) :
    ∃ p ∈ s.patterns, ∃ shown, r.merge s = .error (.pattern p.text (.conflict shown)) := by
  have hspec := merge_spec hs hn
  cases hm : r.merge s with
  | ok t =>
    rw [hm] at hspec
    cases hspec with
    | merged hfree => exact absurd h hfree
  | error fault =>
    rw [hm] at hspec
    cases hspec with
    | refused p shown hp _ => exact ⟨p, hp, shown, rfl⟩

/-- Tables that do not clash are one table. -/
theorem sound_beside {r s : Router α} (hr : Sound r.patterns) (hs : Sound s.patterns)
    (h : ¬ r.Clashing s) : Sound (r.beside s).patterns := by
  rw [patterns_beside]
  exact hr.append hs fun q hq p hp hc => h ⟨q, hq, p, hp, hc⟩

end Router
end DevServer.Http
