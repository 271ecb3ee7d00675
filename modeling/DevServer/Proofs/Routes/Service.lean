import DevServer.Http.Serving
import DevServer.Proofs.Routes.Precedence
import DevServer.Proofs.Routes.Tables

/-!
# What serves a path in a table without conflicts

The route that serves a path is the only match that no other match precedes. Where two tables stand
beside each other it is therefore what one of them has alone, and what a pattern matches is told
from its text.
-/
namespace DevServer.Http

set_option autoImplicit false

/-- The text of a pattern that matches a path. -/
def Serves (text path : String) : Prop :=
  ∃ p, Pattern.ofString text = .ok p ∧ (p.match? path).isSome

/-- The texts of two patterns that conflict. -/
def Clash (text text' : String) : Prop :=
  ∃ p q, Pattern.ofString text = .ok p ∧ Pattern.ofString text' = .ok q ∧
    Conflict p.tokens q.tokens

namespace Router

variable {α : Type}

theorem matching_beside (r s : Router α) (path : String) :
    (r.beside s).matching path = r.matching path ++ s.matching path := by
  simp [matching, beside]

theorem mem_matching {r : Router α} {path : String} {m : Matched α} :
    m ∈ r.matching path ↔ m.route ∈ r.routes ∧ m.route.pattern.match? path = some m.params := by
  unfold matching
  rw [List.mem_filterMap]
  constructor
  · rintro ⟨t, ht, hm⟩
    obtain ⟨params, hp, rfl⟩ := Option.map_eq_some_iff.mp hm
    exact ⟨ht, hp⟩
  · rintro ⟨hm, hp⟩
    exact ⟨m.route, hm, by rw [hp]; rfl⟩

/-- In a sound table the matches of a path are ordered. -/
theorem matching_ordered {r : Router α} (hs : Sound r.patterns) (path : String) :
    (r.matching path).Pairwise Matched.Ordered := by
  have hsep : r.routes.Pairwise fun t u => ¬ Conflict t.pattern.tokens u.pattern.tokens :=
    List.pairwise_map.mp hs.separate
  unfold matching
  refine List.pairwise_filterMap.mpr (hsep.imp fun {t u} hc m hm n hn => ?_)
  obtain ⟨params, hp, rfl⟩ := Option.map_eq_some_iff.mp hm
  obtain ⟨params', hp', rfl⟩ := Option.map_eq_some_iff.mp hn
  unfold Pattern.match? at hp hp'
  rcases Pattern.precedes_or_conflict (Option.isSome_of_eq_some hp)
    (Option.isSome_of_eq_some hp') with h | h | h
  · exact .inl h
  · exact .inr h
  · exact absurd h hc

theorem find?_eq_some_iff {r : Router α} (hs : Sound r.patterns) {path : String} {m : Matched α} :
    r.find? path = some m ↔ m ∈ r.matching path ∧ m.Leads (r.matching path) :=
  first?_eq_some_iff (matching_ordered hs path)

theorem find?_eq_none_iff {r : Router α} {path : String} :
    r.find? path = none ↔ ∀ p ∈ r.patterns, p.match? path = none := by
  unfold find? matching
  rw [first?_eq_none_iff, List.filterMap_eq_nil_iff]
  simp [patterns]

/-- A path that one table does not match is served by the other. -/
theorem find?_beside_of_left_none {r s : Router α} {path : String} (h : r.find? path = none) :
    (r.beside s).find? path = s.find? path := by
  unfold find? at h ⊢
  rw [matching_beside, first?_eq_none_iff.mp h, List.nil_append]

theorem find?_beside_of_right_none {r s : Router α} {path : String} (h : s.find? path = none) :
    (r.beside s).find? path = r.find? path := by
  unfold find? at h ⊢
  rw [matching_beside, first?_eq_none_iff.mp h, List.append_nil]

/-- Of two tables that do not clash one serves the path as it does alone. -/
theorem find?_beside {r s : Router α} (hr : Sound r.patterns) (hs : Sound s.patterns)
    (h : ¬ r.Clashing s) (path : String) :
    (r.beside s).find? path = r.find? path ∨ (r.beside s).find? path = s.find? path := by
  cases hf : (r.beside s).find? path with
  | none =>
    refine .inl (Eq.symm (find?_eq_none_iff.mpr fun p hp => ?_))
    refine find?_eq_none_iff.mp hf p ?_
    rw [patterns_beside]
    exact List.mem_append_left _ hp
  | some m =>
    obtain ⟨hm, hl⟩ := (find?_eq_some_iff (sound_beside hr hs h)).mp hf
    rw [matching_beside] at hm hl
    -- The leader of all matches leads those of the table that it is from.
    rcases List.mem_append.mp hm with hm | hm
    · exact .inl ((find?_eq_some_iff hr).mpr ⟨hm, fun n hn => hl n (List.mem_append_left _ hn)⟩).symm
    · exact .inr ((find?_eq_some_iff hs).mpr ⟨hm, fun n hn => hl n (List.mem_append_right _ hn)⟩).symm

/-- The texts of the patterns tell whether a path is served. -/
theorem find?_eq_none_iff_serves {r : Router α} (hs : Sound r.patterns) {path : String} :
    r.find? path = none ↔ ∀ text ∈ r.paths, ¬ Serves text path := by
  rw [find?_eq_none_iff]
  constructor
  · rintro h text ht ⟨p, hp, hm⟩
    obtain ⟨q, hq, rfl⟩ := mem_paths.mp ht
    rw [(hs.wellFormed q hq).reads] at hp
    obtain rfl := Except.ok.inj hp
    rw [h q hq] at hm
    cases hm
  · intro h p hp
    have hn := h p.text (mem_paths.mpr ⟨p, hp, rfl⟩)
    exact Option.not_isSome_iff_eq_none.mp fun hm => hn ⟨p, (hs.wellFormed p hp).reads, hm⟩

/-- The texts of the patterns tell whether two tables clash. -/
theorem clashing_iff_clash {r s : Router α} (hr : Sound r.patterns) (hs : Sound s.patterns) :
    r.Clashing s ↔ ∃ text ∈ s.paths, ∃ text' ∈ r.paths, Clash text' text := by
  constructor
  · rintro ⟨q, hq, p, hp, hc⟩
    exact ⟨p.text, mem_paths.mpr ⟨p, hp, rfl⟩, q.text, mem_paths.mpr ⟨q, hq, rfl⟩, q, p,
      (hr.wellFormed q hq).reads, (hs.wellFormed p hp).reads, hc⟩
  · rintro ⟨text, ht, text', ht', q, p, hq, hp, hc⟩
    obtain ⟨p', hp', rfl⟩ := mem_paths.mp ht
    obtain ⟨q', hq', rfl⟩ := mem_paths.mp ht'
    rw [(hs.wellFormed p' hp').reads] at hp
    rw [(hr.wellFormed q' hq').reads] at hq
    obtain rfl := Except.ok.inj hp
    obtain rfl := Except.ok.inj hq
    exact ⟨q', hq', p', hp', hc⟩

/-- Only targets that begin with a slash are served. -/
theorem find?_eq_none_of_head {r : Router α} (hs : Sound r.patterns) {path : String}
    (h : path.toList.head? ≠ some '/') : r.find? path = none := by
  refine find?_eq_none_iff.mpr fun p hp => ?_
  have hh := (hs.wellFormed p hp).head_slash
  unfold Pattern.match?
  cases ht : p.tokens with
  | nil => rw [ht] at hh; cases hh
  | cons t ts =>
    rw [ht] at hh
    obtain rfl := Option.some.inj hh
    cases hc : path.toList with
    | nil => rfl
    | cons c cs =>
      rw [hc] at h
      have hne : '/' ≠ c := fun he => h (by rw [← he]; rfl)
      rw [Pattern.matchTokens, if_neg hne]

/-- What is answered depends on the route of the path alone. -/
theorem answer_congr {r s : Router Endpoint} {req : Request}
    (h : r.find? req.uri.path = s.find? req.uri.path) : r.answer req = s.answer req := by
  have hl : r.lookup req = s.lookup req := by
    unfold lookup
    rw [h]
  unfold answer
  rw [hl]

/-- No route answers a request: its path has no pattern, or it has no path that could have one. -/
def FallsBack (r : Router Endpoint) (req : Request) : Prop :=
  r.lookup req = .noRoute ∨ r.lookup req = .noPath

theorem fallsBack_iff {r : Router Endpoint} (hs : Sound r.patterns) {req : Request} :
    r.FallsBack req ↔ r.find? req.uri.path = none := by
  unfold FallsBack lookup
  by_cases hh : req.uri.path.toList.head? ≠ some '/'
  · simp [hh, find?_eq_none_of_head hs hh]
  · rw [if_neg hh]
    cases hf : r.find? req.uri.path with
    | none => simp
    | some m =>
      dsimp only
      cases m.route.endpoints.find? req.method <;> simp

/-- Completing a response leaves its status. -/
theorem status_complete (method : Method) (allow : Option String) (resp : Response) :
    (Found.complete method allow resp).status = resp.status := by
  unfold Found.complete
  split
  · rfl
  · rfl

theorem status_finish (found : Found) (req : Request) (resp : Response) :
    (found.finish req resp).status = resp.status := by
  cases found with
  | route endpoint params allow => exact status_complete req.method allow resp
  | noRoute => rfl
  | noPath => exact status_complete req.method none resp

theorem status_answer (r : Router Endpoint) (req : Request) :
    (r.answer req).status = ((r.lookup req).run handlerBodyLimit req).response.status :=
  status_finish (r.lookup req) req _

/-- Where no route answers, nothing is there. -/
theorem status_of_fallsBack {r : Router Endpoint} {req : Request} (h : r.FallsBack req) :
    (r.answer req).status = 404 := by
  rw [status_answer]
  rcases h with h | h
  · rw [h]
    rfl
  · rw [h]
    rfl

/-- What serves a path in a table serves it in every part of the table that has the route. -/
theorem find?_of_part {r s : Router α} (hr : Sound r.patterns) (hs : Sound s.patterns)
    (hsub : ∀ t ∈ s.routes, t ∈ r.routes) {path : String} {m : Matched α}
    (h : r.find? path = some m) (hm : m.route ∈ s.routes) : s.find? path = some m := by
  obtain ⟨hmatch, hlead⟩ := (find?_eq_some_iff hr).mp h
  refine (find?_eq_some_iff hs).mpr ⟨mem_matching.mpr ⟨hm, (mem_matching.mp hmatch).2⟩, ?_⟩
  intro n hn
  obtain ⟨hroute, hparams⟩ := mem_matching.mp hn
  exact hlead n (mem_matching.mpr ⟨hsub _ hroute, hparams⟩)

theorem route_mem_of_find? {r : Router α} (hr : Sound r.patterns) {path : String} {m : Matched α}
    (h : r.find? path = some m) : m.route ∈ r.routes :=
  (mem_matching.mp ((find?_eq_some_iff hr).mp h).1).1

end Router
end DevServer.Http
