import DevServer.Proofs.Routes.Literals
import DevServer.Proofs.Routes.Service

/-!
# A path that has a route of its own

Text comes before parameters, so a route without parameters serves its own path in every table
without conflicts, whatever the other patterns match. In a table of such routes alone, each of them
for one method, the status of every answer is told by the path and the method. What a handler
answers is not looked at here beyond its status and its body.
-/
namespace DevServer.Http

set_option autoImplicit false

namespace Pattern

theorem matchTokens_text (cs path : List Char) :
    matchTokens (cs.map .literal) path = if path = cs then some [] else none := by
  induction cs generalizing path with
  | nil => cases path <;> rfl
  | cons c cs ih =>
    cases path with
    | nil => rfl
    | cons d path =>
      rw [List.map_cons, matchTokens, ih]
      by_cases hc : c = d
      · subst hc
        simp
      · have hne : d :: path ≠ c :: cs := fun he => hc (List.cons.inj he).1.symm
        rw [if_neg hc, if_neg hne]

theorem match?_literal (text path : String) :
    (literal text).match? path = if path = text then some [] else none := by
  unfold match? literal
  rw [matchTokens_text]
  by_cases h : path = text
  · rw [if_pos h, if_pos (congrArg String.toList h)]
  · rw [if_neg h, if_neg fun he => h (String.toList_inj.mp he)]

/-- Nothing comes before text. -/
theorem precedes_text (ts : List Token) (cs : List Char) : precedes ts (cs.map .literal) = false := by
  induction cs generalizing ts with
  | nil => cases ts <;> simp [precedes]
  | cons c cs ih =>
    cases ts with
    | nil => simp [precedes]
    | cons t ts => cases t <;> simp [precedes, ih]

end Pattern

theorem Endpoints.find?_single_get {α : Type} (h : α) (m : Method) :
    (Endpoints.single (.only .get) h).find? m = if m = .get ∨ m = .head then some h else none := by
  have hsingle : (Endpoints.single (.only .get) h).handlers = [(.get, h)] := rfl
  have hfallback : (Endpoints.single (.only .get) h).fallback = none := rfl
  unfold Endpoints.find?
  rw [hsingle, hfallback]
  by_cases hg : m = .get
  · subst hg
    rfl
  · by_cases hh : m = .head
    · subst hh
      rfl
    · have hb : (m == Method.get) = false := by simpa using hg
      simp [List.lookup_cons, hb, hg, hh]

namespace Router

variable {α : Type}

/-- A route without parameters serves its path, whatever else the table has. -/
theorem find?_literal {r : Router α} (hs : Sound r.patterns) {path : String} {e : Endpoints α}
    (h : Route.literal path e ∈ r.routes) : r.find? path = some ⟨.literal path e, []⟩ := by
  refine (find?_eq_some_iff hs).mpr ⟨mem_matching.mpr ⟨h, ?_⟩, ?_⟩
  · exact (Pattern.match?_literal path path).trans (if_pos rfl)
  -- Whichever other route matches, it cannot come before one that is text throughout.
  · intro n _ hp
    have hn := Pattern.precedes_text n.route.pattern.tokens path.toList
    exact Bool.false_ne_true (hn.symm.trans hp)

theorem head_of_find? {r : Router α} (hs : Sound r.patterns) {path : String} {m : Matched α}
    (h : r.find? path = some m) : ¬ path.toList.head? ≠ some '/' := by
  intro hne
  rw [find?_eq_none_of_head hs hne] at h
  cases h

theorem lookup_of_find? {r : Router Endpoint} (hs : Sound r.patterns) {req : Request}
    {m : Matched Endpoint} (h : r.find? req.uri.path = some m) {e : Endpoint}
    (he : m.route.endpoints.find? req.method = some e) : r.lookup req = .route e m.params none := by
  have hh := head_of_find? hs h
  simp [lookup, hh, h, he]

theorem lookup_not_allowed {r : Router Endpoint} (hs : Sound r.patterns) {req : Request}
    {m : Matched Endpoint} (h : r.find? req.uri.path = some m)
    (he : m.route.endpoints.find? req.method = none) :
    r.lookup req = .route methodNotAllowed m.params (some m.route.endpoints.allowed) := by
  have hh := head_of_find? hs h
  simp [lookup, hh, h, he]

/-- A route without parameters that answers GET, always with success. -/
inductive View : Route Endpoint → Prop
  | get (path : String) (handler : Endpoint) :
    (∀ call, (handler call).response.status = 200) →
      View (.literal path (.single (.only .get) handler))

theorem lookup_view {r : Router Endpoint} (hs : Sound r.patterns) {req : Request} {h : Endpoint}
    (hr : Route.literal req.uri.path (.single (.only .get) h) ∈ r.routes) :
    r.lookup req =
      if req.method = .get ∨ req.method = .head then .route h [] none
      else .route methodNotAllowed [] (some "GET,HEAD") := by
  have hfind := find?_literal hs hr
  have hserved := Endpoints.find?_single_get h req.method
  by_cases hm : req.method = .get ∨ req.method = .head
  · rw [if_pos hm] at hserved ⊢
    exact lookup_of_find? hs hfind hserved
  · rw [if_neg hm] at hserved ⊢
    exact lookup_not_allowed hs hfind hserved

theorem body_view {r : Router Endpoint} (hs : Sound r.patterns) {req : Request} {h : Endpoint}
    (hr : Route.literal req.uri.path (.single (.only .get) h) ∈ r.routes) (hg : req.method = .get)
    {text : String} (ht : ∀ call, (h call).response.body = text) : (r.answer req).body = text := by
  unfold answer
  rw [lookup_view hs hr, if_pos (.inl hg)]
  simp [Found.finish, Found.complete, Found.run, hg, ht]

/-- In a table of views the status is told by path and method. -/
theorem status_of_views {r : Router Endpoint} (hs : Sound r.patterns)
    (hv : ∀ t ∈ r.routes, View t) (req : Request) :
    (r.answer req).status =
      if req.uri.path ∈ r.paths then
        if req.method = .get ∨ req.method = .head then 200 else 405
      else 404 := by
  rw [status_answer]
  by_cases hp : req.uri.path ∈ r.paths
  · obtain ⟨t, ht, he⟩ := List.mem_map.mp hp
    cases hv t ht with
    | get path h hok =>
      obtain rfl : path = req.uri.path := he
      rw [if_pos hp, lookup_view hs ht]
      split
      · exact hok _
      · rfl
  · have hnone : r.find? req.uri.path = none := by
      refine find?_eq_none_iff.mpr fun p hm => ?_
      obtain ⟨t, ht, rfl⟩ := List.mem_map.mp hm
      cases hv t ht with
      | get path h _ =>
        have hne : req.uri.path ≠ path := fun he => hp (he ▸ List.mem_map_of_mem ht)
        exact (Pattern.match?_literal path req.uri.path).trans (if_neg hne)
    rw [if_neg hp, ← status_answer]
    exact status_of_fallsBack ((fallsBack_iff hs).mpr hnone)

end Router
end DevServer.Http
