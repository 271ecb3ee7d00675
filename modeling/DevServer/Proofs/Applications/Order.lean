import DevServer.Http.Metrics
import DevServer.Proofs.Applications.Runs

/-!
# The order of registrations does not matter

Blueprints are accepted one after the other exactly if each of them fits into the application and
each two of them fit beside each other (`accepts_iff`). Neither depends on their order, and the
application that they leave is that of their routes, names and paths in this order. All that
requests can tell of it is the set of its routes. Tables that were lost on the way are included.
-/
namespace DevServer

set_option autoImplicit false

open Http

namespace Http.Router

variable {α : Type}

theorem Clashing.symm {r s : Router α} (h : r.Clashing s) : s.Clashing r := by
  obtain ⟨q, hq, p, hp, hc⟩ := h
  exact ⟨p, hp, q, hq, hc.symm⟩

/-- Nothing clashes with routes of two tables unless it clashes with those of one. -/
theorem clashing_beside {r s t : Router α} :
    (r.beside s).Clashing t ↔ r.Clashing t ∨ s.Clashing t := by
  simp only [Clashing, patterns_beside, List.mem_append, or_and_right, exists_or]

/-- What serves a path depends on which routes there are, not on their order. -/
theorem find?_congr {r s : Router α} (hr : Sound r.patterns) (hs : Sound s.patterns)
    (h : ∀ t, t ∈ r.routes ↔ t ∈ s.routes) (path : String) : r.find? path = s.find? path := by
  have hmatching : ∀ m, m ∈ r.matching path ↔ m ∈ s.matching path := by
    intro m
    rw [mem_matching, mem_matching, h]
  apply Option.ext
  intro m
  rw [find?_eq_some_iff hr, find?_eq_some_iff hs, hmatching]
  simp only [Matched.Leads, hmatching]

theorem serve_congr {r s : Router Endpoint} (h : ∀ path, r.find? path = s.find? path)
    (settings : Settings) (fresh : String) (req : Request) :
    r.serve settings fresh req = s.serve settings fresh req := by
  unfold serve lookup
  simp only [h]

/-- Tables with the same route for each path serve alike, and what is counted is the same. -/
theorem serveAll_congr {r s : Router Endpoint} (h : ∀ path, r.find? path = s.find? path)
    (settings : Settings) (arrivals : List Arrival) (ms : Metrics) :
    r.serveAll settings arrivals ms = s.serveAll settings arrivals ms := by
  induction arrivals generalizing ms with
  | nil => rfl
  | cons a arrivals ih =>
    unfold serveAll receive
    simp only [serve_congr h, ih]

end Http.Router

namespace Application

/-- What every run keeps, also where a table was lost on its way: the patterns can be one table, and
all their paths are listed. -/
structure Orderly (app : Application) : Prop where
  sound : Sound app.router.patterns
  listed : ∀ path ∈ app.router.paths, path ∈ app.paths

theorem Consistent.orderly {bs : List Blueprint} {app : Application} (hc : Consistent bs app) :
    app.Orderly where
  sound := hc.sound
  listed path hp := by
    rw [hc.served]
    exact hp

/-- The blueprint can be registered: its name and its paths are free, and no pattern of it conflicts
with one that is there. -/
structure Fits (app : Application) (b : Blueprint) : Prop where
  fresh : app.Fresh b
  free : ¬ app.router.Clashing b.router

/-- The blueprints can stand beside each other. -/
structure Apart (b c : Blueprint) : Prop where
  names : b.name ≠ c.name
  paths : ∀ p ∈ b.paths, p ∉ c.paths
  free : ¬ b.router.Clashing c.router

theorem Apart.symm {b c : Blueprint} (h : Apart b c) : Apart c b where
  names := h.names.symm
  paths p hp hp' := h.paths p hp' hp
  free hc := h.free hc.symm

/-- The application with the names, the paths and the routes of some more blueprints. -/
def joined (app : Application) (bs : List Blueprint) : Application :=
  { app with
    router := ⟨app.router.routes ++ bs.flatMap fun b => b.router.routes⟩
    blueprints := app.blueprints ++ bs.map Blueprint.name
    paths := app.paths ++ bs.flatMap Blueprint.paths }

theorem joined_nil (app : Application) : app.joined [] = app := by
  simp [joined]

theorem joined_joined (app : Application) (bs cs : List Blueprint) :
    (app.joined bs).joined cs = app.joined (bs ++ cs) := by
  simp [joined]

theorem withBlueprint_beside (app : Application) (b : Blueprint) :
    app.withBlueprint b (app.router.beside b.router) = app.joined [b] := by
  simp [withBlueprint, joined, Router.beside]

/-- A blueprint fits behind another one if it fits before it and the two fit beside each other. -/
theorem fits_joined_iff {app : Application} {b c : Blueprint} :
    (app.joined [b]).Fits c ↔ app.Fits c ∧ Apart b c := by
  have hclash : (app.joined [b]).router.Clashing c.router ↔
      app.router.Clashing c.router ∨ b.router.Clashing c.router := by
    rw [← withBlueprint_beside]
    exact Router.clashing_beside
  constructor
  · rintro ⟨⟨hname, hpaths⟩, hfree⟩
    rw [hclash, not_or] at hfree
    simp only [joined, List.map_cons, List.map_nil, List.flatMap_cons, List.flatMap_nil,
      List.append_nil, List.mem_append, List.mem_singleton, not_or] at hname hpaths
    exact ⟨⟨⟨hname.1, fun p hp => (hpaths p hp).1⟩, hfree.1⟩,
      ⟨fun he => hname.2 he.symm, fun p hp hp' => (hpaths p hp').2 hp, hfree.2⟩⟩
  · rintro ⟨⟨⟨hname, hpaths⟩, hfree⟩, ⟨hnames, hpaths', hfree'⟩⟩
    refine ⟨⟨?_, fun p hp => ?_⟩, fun hc => (hclash.mp hc).elim hfree hfree'⟩
    · simpa [joined] using ⟨hname, fun he => hnames he.symm⟩
    · simpa [joined] using ⟨hpaths p hp, fun hp' => hpaths' p hp' hp⟩

namespace Orderly

variable {app : Application} {b : Blueprint} {ps : List String}

theorem not_mem_paths (ho : app.Orderly) (hb : b.Built ps) (hf : app.Fresh b) :
    ∀ text ∈ b.router.paths, text ∉ app.router.paths := by
  intro text ht hm
  rw [← hb.served] at ht
  exact hf.paths text ht (ho.listed text hm)

/-- A blueprint is accepted exactly if it fits, and then its parts stand behind those before. -/
theorem register_eq_ok_iff (ho : app.Orderly) (hb : b.Built ps) {app' : Application}
    {events : List Log.Event} :
    app.register b = .ok (app', events) ↔
      app.Fits b ∧ app' = app.joined [b] ∧ events = [registered b.name] := by
  constructor
  · intro h
    obtain ⟨hf, router, hm, rfl, rfl⟩ := register_ok h
    have hn := ho.not_mem_paths hb hf
    by_cases hc : app.router.Clashing b.router
    · obtain ⟨p, _, shown, he⟩ := Router.merge_eq_error hb.sound hn hc
      rw [he] at hm
      cases hm
    · rw [Router.merge_eq_ok hb.sound hn hc] at hm
      rw [← Except.ok.inj hm, withBlueprint_beside]
      exact ⟨⟨hf, hc⟩, rfl, rfl⟩
  · rintro ⟨hfits, rfl, rfl⟩
    have hm := Router.merge_eq_ok hb.sound (ho.not_mem_paths hb hfits.fresh) hfits.free
    have hs := attempt_spec app b
    rw [Application.register_eq_ok_iff]
    generalize app.attempt b = step at hs
    cases hs with
    | duplicate hname => exact absurd hname hfits.fresh.name
    | taken path _ htaken => exact absurd htaken (hfits.fresh.not_firstTaken path)
    | refused fault _ he =>
      rw [hm] at he
      cases he
    | accepted router _ he =>
      rw [hm] at he
      rw [← Except.ok.inj he, withBlueprint_beside]

theorem joined (ho : app.Orderly) (hb : b.Built ps) (hfits : app.Fits b) :
    (app.joined [b]).Orderly := by
  rw [← withBlueprint_beside]
  refine ⟨Router.sound_beside ho.sound hb.sound hfits.free, fun path hp => ?_⟩
  rw [withBlueprint, Router.paths_beside] at hp
  rcases List.mem_append.mp hp with hp | hp
  · exact List.mem_append_left _ (ho.listed path hp)
  · exact List.mem_append_right _ (hb.served ▸ hp)

/-- One operation, whatever it comes to. A blueprint that is refused leaves an empty table. -/
theorem perform (ho : app.Orderly) {op : Operation}
    (hb : ∀ b, op = .register b → ∃ ps, b.Built ps) : (app.perform op).app.Orderly := by
  cases op with
  | new => exact consistent_new.orderly
  | build s =>
    cases h : Application.build s with
    | error fault =>
      rw [Application.perform, h]
      exact ho
    | ok result =>
      rw [Application.perform, h]
      exact (Consistent.build h).orderly
  | register b =>
    obtain ⟨ps, hb⟩ := hb b rfl
    change (app.attempt b).app.Orderly
    have hs := attempt_spec app b
    generalize hstep : app.attempt b = step at hs
    cases hs with
    | duplicate _ => exact ho
    | taken path _ _ => exact ho
    | refused fault _ _ => exact ⟨.nil, fun path hp => absurd hp List.not_mem_nil⟩
    | accepted router _ _ =>
      obtain ⟨hfits, he, _⟩ :=
        (ho.register_eq_ok_iff hb).mp (Application.register_eq_ok_iff.mpr hstep)
      rw [he]
      exact ho.joined hb hfits

/-- Every run, whatever its operations come to. -/
theorem after (ho : app.Orderly) {ops : List Operation}
    (hb : ∀ b, .register b ∈ ops → ∃ ps, b.Built ps) : (app.after ops).Orderly := by
  induction ops generalizing app with
  | nil => exact ho
  | cons op ops ih =>
    have hstep := ho.perform fun b he => hb b (he ▸ List.mem_cons_self ..)
    exact ih hstep fun b hm => hb b (List.mem_cons_of_mem _ hm)

end Orderly

/-- All of the blueprints can be registered, one after the other. -/
def Accepts (app : Application) (bs : List Blueprint) : Prop :=
  ∀ step ∈ app.run (bs.map .register), step.fault = none

theorem accepts_cons {app : Application} {b : Blueprint} {bs : List Blueprint} :
    app.Accepts (b :: bs) ↔
      ∃ app' events, app.register b = .ok (app', events) ∧ app'.Accepts bs := by
  unfold Accepts
  simp only [List.map_cons, run, List.forall_mem_cons, perform, register_eq_ok_iff]
  constructor
  · rintro ⟨hb, hbs⟩
    refine ⟨_, (app.attempt b).events, ?_, hbs⟩
    rw [← hb]
  · rintro ⟨app', events, hb, hbs⟩
    rw [hb]
    exact ⟨rfl, hbs⟩

/-- Blueprints are accepted exactly if each fits and each two can stand beside each other; what they
leave is the application with all of them. The induction is on the blueprints, and each is part of
the application into which the rest has to fit. -/
theorem Orderly.accepts_iff {app : Application} (ho : app.Orderly) {bs : List Blueprint}
    (hb : ∀ b ∈ bs, ∃ ps, b.Built ps) :
    (app.Accepts bs ↔ (∀ b ∈ bs, app.Fits b) ∧ bs.Pairwise Apart) ∧
      (app.Accepts bs →
        app.after (bs.map .register) = app.joined bs ∧ (app.joined bs).Orderly) := by
  induction bs generalizing app with
  | nil =>
    rw [joined_nil]
    refine ⟨⟨fun _ => ⟨by simp, .nil⟩, fun _ step hs => absurd hs List.not_mem_nil⟩, ?_⟩
    exact fun _ => ⟨rfl, ho⟩
  | cons b bs ih =>
    obtain ⟨⟨ps, hbuilt⟩, hrest⟩ := List.forall_mem_cons.mp hb
    have hcons : app.Accepts (b :: bs) ↔ app.Fits b ∧ (app.joined [b]).Accepts bs := by
      rw [accepts_cons]
      constructor
      · rintro ⟨app', events, hr, hbs⟩
        obtain ⟨hfits, rfl, -⟩ := (ho.register_eq_ok_iff hbuilt).mp hr
        exact ⟨hfits, hbs⟩
      · rintro ⟨hfits, hbs⟩
        exact ⟨_, _, (ho.register_eq_ok_iff hbuilt).mpr ⟨hfits, rfl, rfl⟩, hbs⟩
    rw [hcons]
    constructor
    · rw [List.forall_mem_cons, List.pairwise_cons, and_assoc]
      refine and_congr_right fun hfits => ?_
      rw [(ih (ho.joined hbuilt hfits) hrest).1]
      simp only [fits_joined_iff, forall_and]
      tauto
    · rintro ⟨hfits, hbs⟩
      have hr := (ho.register_eq_ok_iff hbuilt).mpr ⟨hfits, rfl, rfl⟩
      have hstep : (app.perform (.register b)).app = app.joined [b] :=
        congrArg Step.app (Application.register_eq_ok_iff.mp hr)
      obtain ⟨hafter, hjoined⟩ := (ih (ho.joined hbuilt hfits) hrest).2 hbs
      rw [joined_joined, List.singleton_append] at hafter hjoined
      rw [← hstep] at hafter
      exact ⟨hafter, hjoined⟩

/-- Two applications that differ in the order of their lists only. -/
structure Rearranged (app app' : Application) : Prop where
  blueprints : app.blueprints.Perm app'.blueprints
  paths : app.paths.Perm app'.paths
  adapter : app.adapter = app'.adapter
  has : ∀ name, app.hasBlueprint name = app'.hasBlueprint name
  finds : ∀ path, app.router.find? path = app'.router.find? path
  answers : ∀ req, app.router.answer req = app'.router.answer req
  serves : ∀ s arrivals ms, app.router.serveAll s arrivals ms = app'.router.serveAll s arrivals ms

/-- Routes, names and paths in another order make no difference that anyone can tell. -/
theorem rearranged_joined {app : Application} {bs cs : List Blueprint} (hperm : bs.Perm cs)
    (hbs : (app.joined bs).Orderly) (hcs : (app.joined cs).Orderly) :
    Rearranged (app.joined bs) (app.joined cs) := by
  have hnames : (app.joined bs).blueprints.Perm (app.joined cs).blueprints :=
    (hperm.map Blueprint.name).append_left app.blueprints
  have hroutes : (app.joined bs).router.routes.Perm (app.joined cs).router.routes :=
    (hperm.flatMap_right fun b : Blueprint => b.router.routes).append_left app.router.routes
  have hfinds := Router.find?_congr hbs.sound hcs.sound fun t => hroutes.mem_iff
  exact {
    blueprints := hnames
    paths := (hperm.flatMap_right Blueprint.paths).append_left app.paths
    adapter := rfl
    has := fun name => hnames.contains_eq
    finds := hfinds
    answers := fun req => Router.answer_congr (hfinds req.uri.path)
    serves := Router.serveAll_congr hfinds }

/-- Two blueprints that were registered one after the other can be registered the other way round as
well: the same is told, and the lists have the two in the other order. More generally, blueprints
that an application accepts are accepted in every order, and all these orders leave applications
that answer alike. The application may have been reached by any run. -/
theorem registered_in_any_order {ops : List Operation}
    (hops : ∀ b, .register b ∈ ops → ∃ ps, b.Built ps) :
    (∀ b c psb psc, b.Built psb → c.Built psc → b.name ≠ c.name → ∀ app₁ app₂ told₁ told₂,
      (new.after ops).register b = .ok (app₁, told₁) → app₁.register c = .ok (app₂, told₂) →
      ∃ other₁ other₂, (new.after ops).register c = .ok (other₁, told₂) ∧
        other₁.register b = .ok (other₂, told₁) ∧ Rearranged app₂ other₂ ∧
        app₂.blueprints = (new.after ops).blueprints ++ [b.name, c.name] ∧
        other₂.blueprints = (new.after ops).blueprints ++ [c.name, b.name] ∧
        app₂.paths = (new.after ops).paths ++ b.paths ++ c.paths ∧
        other₂.paths = (new.after ops).paths ++ c.paths ++ b.paths) ∧
    ∀ bs cs : List Blueprint, (∀ b ∈ bs, ∃ ps, b.Built ps) → bs.Perm cs →
      (new.after ops).Accepts bs → (new.after ops).Accepts cs ∧
        Rearranged ((new.after ops).after (bs.map .register))
          ((new.after ops).after (cs.map .register)) := by
  have ho : (new.after ops).Orderly := consistent_new.orderly.after hops
  generalize new.after ops = app at ho
  constructor
  · intro b c psb psc hb hc _ app₁ app₂ told₁ told₂ h₁ h₂
    obtain ⟨hfits, rfl, rfl⟩ := (ho.register_eq_ok_iff hb).mp h₁
    have hob := ho.joined hb hfits
    obtain ⟨hfits', rfl, rfl⟩ := (hob.register_eq_ok_iff hc).mp h₂
    obtain ⟨hfitsc, hapart⟩ := fits_joined_iff.mp hfits'
    have hoc := ho.joined hc hfitsc
    have hfitsb : (app.joined [c]).Fits b := fits_joined_iff.mpr ⟨hfits, hapart.symm⟩
    refine ⟨_, _, (ho.register_eq_ok_iff hc).mpr ⟨hfitsc, rfl, rfl⟩,
      (hoc.register_eq_ok_iff hb).mpr ⟨hfitsb, rfl, rfl⟩, ?_, ?_, ?_, ?_, ?_⟩
    · have hbc := hob.joined hc hfits'
      have hcb := hoc.joined hb hfitsb
      rw [joined_joined] at hbc hcb ⊢
      rw [joined_joined]
      exact rearranged_joined (.swap c b []) hbc hcb
    all_goals simp [joined]
  · intro bs cs hbs hperm haccepts
    have hcs : ∀ c ∈ cs, ∃ ps, c.Built ps := fun c hc => hbs c (hperm.mem_iff.mpr hc)
    obtain ⟨hiff, hjoined⟩ := ho.accepts_iff hbs
    obtain ⟨hiff', hjoined'⟩ := ho.accepts_iff hcs
    -- What has to hold of the blueprints does not mention their order.
    have haccepts' : app.Accepts cs := by
      obtain ⟨hfits, hapart⟩ := hiff.mp haccepts
      exact hiff'.mpr ⟨fun c hc => hfits c (hperm.mem_iff.mpr hc),
        hapart.perm hperm fun h => h.symm⟩
    obtain ⟨hafter, hbs⟩ := hjoined haccepts
    obtain ⟨hafter', hcs⟩ := hjoined' haccepts'
    refine ⟨haccepts', ?_⟩
    rw [hafter, hafter']
    exact rearranged_joined hperm hbs hcs

/-- Of two pages of any name the second is refused, which loses the table; then an application with
the reports takes the place of the lost one. -/
def mixedRun : List Operation :=
  [.register (page "a"), .register (page "b"), .build { adapter := some "MYSQL" }]

theorem pages_beside_form :
    (∀ b, .register b ∈ mixedRun → ∃ ps, b.Built ps) ∧
      (new.after mixedRun).Accepts [form, page "a"] ∧
      (new.after mixedRun).Accepts [page "a", form] ∧
      ∀ req, ((new.after mixedRun).after [.register form, .register (page "a")]).router.answer req =
        ((new.after mixedRun).after [.register (page "a"), .register form]).router.answer req := by
  have hops : ∀ b, .register b ∈ mixedRun → ∃ ps, b.Built ps := by
    intro b hm
    have hcases : b = page "a" ∨ b = page "b" := by simpa [mixedRun] using hm
    rcases hcases with rfl | rfl
    · exact ⟨_, built_page_a⟩
    · exact ⟨_, built_page_b⟩
  have hbuilt : ∀ b ∈ [form, page "a"], ∃ ps, b.Built ps := by
    intro b hm
    have hcases : b = form ∨ b = page "a" := by simpa using hm
    rcases hcases with rfl | rfl
    · exact ⟨_, built_form⟩
    · exact ⟨_, built_page_a⟩
  have hfaults : ((new.after mixedRun).run [.register form, .register (page "a")]).map Step.fault =
      [none, none] := rfl
  have haccepts : (new.after mixedRun).Accepts [form, page "a"] := by
    intro step hs
    have hm : step.fault ∈ ([none, none] : List (Option AppFault)) :=
      hfaults ▸ List.mem_map_of_mem hs
    simpa using hm
  obtain ⟨hother, halike⟩ := (registered_in_any_order hops).2 _ _ hbuilt (.swap _ _ []) haccepts
  exact ⟨hops, haccepts, hother, halike.answers⟩

end Application
end DevServer
