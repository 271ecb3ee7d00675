import DevServer.Proofs.Routes.Literals
import DevServer.Reporting
import Mathlib.Data.List.Induction

/-!
# Blueprints as declarations make them

A draft is made by attaching what serves a path, again and again; a path may be declared several
times. Its paths are then the declared ones without repetitions, they are the paths of its table
in the same order, and the table is sound. A state changes none of this. The reporting views are
such a blueprint.
-/
namespace DevServer

set_option autoImplicit false

open Http

namespace Blueprint

variable {σ : Type}

/-- Drafts of a name that declarations make, with the paths as they were declared. -/
inductive Draft.Made (name : String) : List String → Draft σ → Prop
  | empty : Made name [] { name }
  | attach {ps : List String} {d d' : Draft σ} {path : String} {e : Endpoints (Handler σ)} :
    Made name ps d → d.attach path e = .ok d' → Made name (ps ++ [path]) d'

/-- A blueprint that was made from declarations of these paths and a state. -/
def Built (b : Blueprint) (ps : List String) : Prop :=
  ∃ (σ : Type) (d : Draft σ) (state : σ), Draft.Made b.name ps d ∧ b = d.withState state

theorem Draft.attach_ok {d d' : Draft σ} {path : String} {e : Endpoints (Handler σ)}
    (h : d.attach path e = .ok d') :
    ∃ router, d.router.insert path e = .ok router ∧
      d' = { d with router, paths := if path ∈ d.paths then d.paths else d.paths ++ [path] } := by
  unfold Draft.attach at h
  cases hi : d.router.insert path e with
  | error f => simp [hi, bind, Except.bind] at h
  | ok router =>
    refine ⟨router, rfl, ?_⟩
    simp only [hi, bind, Except.bind, pure, Except.pure] at h
    rw [← Except.ok.inj h]
    simp

/-- The declared path that comes last is a new one or none. -/
theorem eraseDups_concat (ps : List String) (path : String) :
    (ps ++ [path]).eraseDups =
      if path ∈ ps then ps.eraseDups else ps.eraseDups ++ [path] := by
  rw [List.eraseDups_append]
  by_cases h : path ∈ ps
  · simp [List.removeAll, h]
  · simp [List.removeAll, h, List.eraseDups_cons]

theorem find?_eraseDups (ps : List String) (accept : String → Bool) :
    ps.eraseDups.find? accept = ps.find? accept := by
  induction ps using List.reverseRecOn with
  | nil => rfl
  | append_singleton ps path ih =>
    rw [eraseDups_concat]
    split
    · rw [List.find?_append, ih]
      cases hf : ps.find? accept with
      | some p => rfl
      | none =>
        have hn : accept path = false := by simpa using List.find?_eq_none.mp hf path ‹_›
        simp [hn]
    · rw [List.find?_append, List.find?_append, ih]

theorem Draft.Made.name_eq {name : String} {ps : List String} {d : Draft σ} (h : Made name ps d) :
    d.name = name := by
  induction h with
  | empty => rfl
  | attach _ ha ih =>
    obtain ⟨router, _, rfl⟩ := attach_ok ha
    exact ih

theorem Draft.Made.declarations {name : String} {ps : List String} {d d' : Draft σ}
    (hm : Made name ps d) {ds : List (Declaration σ)}
    (h : ds.foldlM (fun (d : Draft σ) r => d.route r.path r.verb r.handler) d = .ok d') :
    Made name (ps ++ ds.map Declaration.path) d' := by
  induction ds generalizing d ps with
  | nil =>
    obtain rfl := Except.ok.inj h
    simpa using hm
  | cons r ds ih =>
    rw [List.foldlM_cons] at h
    cases hr : d.route r.path r.verb r.handler with
    | error f => simp [hr, bind, Except.bind] at h
    | ok d₁ =>
      have hrest := ih (hm.attach hr) (by simpa [hr, bind, Except.bind] using h)
      simpa using hrest

/-- Blueprints of declarations are built from their paths. -/
theorem built_of_ofList {name : String} {state : σ} {ds : List (Declaration σ)} {b : Blueprint}
    (h : ofList name state ds = .ok b) : b.Built (ds.map Declaration.path) := by
  unfold ofList at h
  cases hd : ds.foldlM (fun (d : Draft σ) r => d.route r.path r.verb r.handler) { name } with
  | error f => simp [hd, bind, Except.bind] at h
  | ok d =>
    simp only [hd, bind, Except.bind, pure, Except.pure] at h
    obtain rfl := Except.ok.inj h
    have hm := Draft.Made.empty.declarations hd
    have hname : d.name = name := hm.name_eq
    refine ⟨σ, d, state, ?_, rfl⟩
    simpa [Draft.withState, hname] using hm

/-- What declarations keep: the paths are the declared ones, and the table has no others. -/
structure Draft.Consistent (d : Draft σ) (ps : List String) : Prop where
  declared : d.paths = ps.eraseDups
  served : d.paths = d.router.paths
  sound : Sound d.router.patterns

theorem Draft.Consistent.attach {d d' : Draft σ} {ps : List String} {path : String}
    {e : Endpoints (Handler σ)} (hc : d.Consistent ps) (h : d.attach path e = .ok d') :
    d'.Consistent (ps ++ [path]) := by
  obtain ⟨router, hi, rfl⟩ := attach_ok h
  refine ⟨?_, ?_, Router.sound_insert hc.sound hi⟩
  · simp only [eraseDups_concat, hc.declared, List.mem_eraseDups]
  · simp only [hc.served]
    rcases Router.patterns_of_insert hi with ⟨hm, he⟩ | ⟨hm, p, rfl, _, _, he⟩
    · rw [if_pos hm, Router.paths_eq, Router.paths_eq, he]
    · rw [if_neg hm, Router.paths_eq router, he, Router.paths_eq]
      simp

theorem Draft.Made.consistent {name : String} {ps : List String} {d : Draft σ}
    (h : Made name ps d) : d.Consistent ps := by
  induction h with
  | empty => exact ⟨rfl, rfl, .nil⟩
  | attach _ ha ih => exact ih.attach ha

/-- A state leaves the patterns as they are. -/
theorem patterns_withState (d : Draft σ) (state : σ) :
    (d.withState state).router.patterns = d.router.patterns := by
  simp [Draft.withState, Router.map, Router.patterns]

namespace Built

variable {b : Blueprint} {ps : List String}

theorem sound (h : b.Built ps) : Sound b.router.patterns := by
  obtain ⟨σ, d, state, hm, rfl⟩ := h
  rw [patterns_withState]
  exact hm.consistent.sound

theorem declared (h : b.Built ps) : b.paths = ps.eraseDups := by
  obtain ⟨σ, d, state, hm, rfl⟩ := h
  exact hm.consistent.declared

theorem served (h : b.Built ps) : b.paths = b.router.paths := by
  obtain ⟨σ, d, state, hm, rfl⟩ := h
  rw [Router.paths_eq, patterns_withState, ← Router.paths_eq]
  exact hm.consistent.served

theorem mem_paths (h : b.Built ps) {path : String} : path ∈ b.paths ↔ path ∈ ps := by
  rw [h.declared, List.mem_eraseDups]

end Built

/-- A pattern of a new text is attached as a route of its own. -/
theorem Draft.attach_new {d : Draft σ} {p : Pattern} (hw : p.WellFormed) (hp : p.text ∉ d.paths)
    (hn : p.text ∉ d.router.paths) (hf : ∀ q ∈ d.router.patterns, ¬ Conflict q.tokens p.tokens)
    (e : Endpoints (Handler σ)) :
    d.attach p.text e = .ok { d with router := d.router.beside ⟨[⟨p, e⟩]⟩,
                                     paths := d.paths ++ [p.text] } := by
  have hi := Router.insert_new hw hn hf e
  simp [attach, hi, hp, bind, Except.bind, pure, Except.pure]

/-- A blueprint of one route. -/
def single (name : String) (p : Pattern) (e : Endpoints Endpoint) : Blueprint :=
  { name, paths := [p.text], router := ⟨[⟨p, e⟩]⟩ }

theorem built_single (name : String) {p : Pattern} (hw : p.WellFormed) (e : Endpoints Endpoint) :
    (single name p e).Built [p.text] := by
  refine ⟨Unit, _, (), .attach .empty (Draft.attach_new hw ?_ ?_ ?_ (e.map fun h _ => h)), ?_⟩
  · exact List.not_mem_nil
  · exact List.not_mem_nil
  · exact fun q hq => absurd hq List.not_mem_nil
  · simp [single, Draft.withState, Router.map, Router.beside, Endpoints.map, Function.comp_def]

theorem wellFormed_indexPath : (Pattern.literal Reporting.indexPath).WellFormed :=
  Pattern.wellFormed_literal rfl (by decide)

theorem wellFormed_statusPath : (Pattern.literal Reporting.statusPath).WellFormed :=
  Pattern.wellFormed_literal rfl (by decide)

/-- The reporting views are made from two declarations and the adapter as their state. -/
theorem built_reporting (a : Adapter) :
    (Reporting.blueprint a).Built [Reporting.indexPath, Reporting.statusPath] := by
  refine ⟨Adapter, _, a, .attach (.attach .empty
    (Draft.attach_new wellFormed_indexPath ?_ ?_ ?_ (.single (.only .get) Reporting.index)))
    (Draft.attach_new wellFormed_statusPath ?_ ?_ ?_ (.single (.only .get) Reporting.status)),
    rfl⟩
  · exact List.not_mem_nil
  · exact List.not_mem_nil
  · exact fun q hq => absurd hq List.not_mem_nil
  · show Reporting.statusPath ∉ [Reporting.indexPath]
    decide
  · show Reporting.statusPath ∉ [Reporting.indexPath]
    decide
  · intro q hq
    obtain rfl := List.mem_singleton.mp hq
    show ¬ Conflict (Reporting.indexPath.toList.map .literal) (Reporting.statusPath.toList.map .literal)
    rw [Pattern.conflict_literal_iff]
    decide

end Blueprint
end DevServer
