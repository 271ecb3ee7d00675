import DevServer.Proofs.Applications.Building
import Mathlib.Data.List.Nodup

/-!
# Runs of operations

A run takes an application through operations that build, register or start anew; some of them may
be rejected, but none breaks the table. Behind every such run the names, the paths, the adapter and
the table agree with the blueprints that were accepted. What requests are answered is not looked at.
-/
namespace DevServer

set_option autoImplicit false

open Http

namespace Application

/-- The application that some operations leave. -/
def after (app : Application) (ops : List Operation) : Application :=
  ops.foldl (fun app op => (app.perform op).app) app

/-- No operation of a run breaks the table. -/
def Intact (app : Application) (ops : List Operation) : Prop :=
  ∀ f, some (.refused f) ∉ (app.run ops).map Step.fault

/-- The blueprints behind an operation that succeeds, where there were some before. -/
def Operation.leaves (bs : List Blueprint) : Operation → List Blueprint
  | .new => []
  | .build s => (s.adapter.bind Adapter.ofName?).toList.map Reporting.blueprint
  | .register b => bs ++ [b]

/-- The blueprints behind an operation; one that fails leaves those from before. -/
def accept (app : Application) (bs : List Blueprint) (op : Operation) : List Blueprint :=
  match (app.perform op).fault with
  | some _ => bs
  | none => op.leaves bs

/-- The blueprints that a run has accepted, in their order. -/
def accepted (app : Application) (bs : List Blueprint) : List Operation → List Blueprint
  | [] => bs
  | op :: ops => accepted (app.perform op).app (app.accept bs op) ops

theorem intact_cons {app : Application} {op : Operation} {ops : List Operation} :
    app.Intact (op :: ops) ↔
      (∀ f, (app.perform op).fault ≠ some (.refused f)) ∧ (app.perform op).app.Intact ops := by
  unfold Intact
  simp only [run, List.map_cons, List.mem_cons, not_or]
  constructor
  · intro h
    exact ⟨fun f he => (h f).1 he.symm, fun f => (h f).2⟩
  · rintro ⟨hop, hops⟩ f
    exact ⟨fun he => hop f he.symm, hops f⟩

theorem accept_failed {app : Application} {bs : List Blueprint} {op : Operation} {fault : AppFault}
    (h : (app.perform op).fault = some fault) : app.accept bs op = bs := by
  rw [accept, h]

theorem accept_done {app : Application} {bs : List Blueprint} {op : Operation}
    (h : (app.perform op).fault = none) : app.accept bs op = op.leaves bs := by
  rw [accept, h]

theorem Assembled.perform_build {bs : List Blueprint} {app : Application} (ha : Assembled bs app)
    (s : Settings) : Assembled (app.accept bs (.build s)) (app.perform (.build s)).app := by
  cases h : Application.build s with
  | error fault =>
    have hp : app.perform (.build s) = { app, fault := some fault } := by rw [Application.perform, h]
    rw [accept_failed (congrArg Step.fault hp), hp]
    exact ha
  | ok result =>
    obtain ⟨built, events⟩ := result
    have hp : app.perform (.build s) = { app := built, events } := by rw [Application.perform, h]
    rw [accept_done (congrArg Step.fault hp), hp, Operation.leaves, ← adapter_of_build h]
    exact .build h

theorem Assembled.perform_register {bs : List Blueprint} {app : Application} {b : Blueprint}
    {ps : List String} (ha : Assembled bs app) (hb : b.Built ps)
    (hf : ∀ f, (app.attempt b).fault ≠ some (.refused f)) :
    Assembled (app.accept bs (.register b)) (app.attempt b).app := by
  have hs := attempt_spec app b
  have hp : app.perform (.register b) = app.attempt b := rfl
  generalize hstep : app.attempt b = step at hs hf hp
  cases hs with
  | duplicate _ =>
    rw [accept_failed (congrArg Step.fault hp)]
    exact ha
  | taken path _ _ =>
    rw [accept_failed (congrArg Step.fault hp)]
    exact ha
  | refused fault _ _ => exact absurd rfl (hf fault)
  | accepted router _ _ =>
    rw [accept_done (congrArg Step.fault hp)]
    exact .register ha hb (register_eq_ok_iff.mpr hstep)

theorem Assembled.perform {bs : List Blueprint} {app : Application} (ha : Assembled bs app)
    {op : Operation} (hb : ∀ b, op = .register b → ∃ ps, b.Built ps)
    (hf : ∀ f, (app.perform op).fault ≠ some (.refused f)) :
    Assembled (app.accept bs op) (app.perform op).app := by
  cases op with
  | new => exact .new
  | build s => exact ha.perform_build s
  | register b =>
    obtain ⟨ps, hb⟩ := hb b rfl
    exact ha.perform_register hb hf

/-- A run that does not break the table leads from one assembled application to another. -/
theorem Assembled.after {bs : List Blueprint} {app : Application} (ha : Assembled bs app)
    {ops : List Operation} (hb : ∀ b, .register b ∈ ops → ∃ ps, b.Built ps) (hi : app.Intact ops) :
    Assembled (app.accepted bs ops) (app.after ops) := by
  -- Along the operations, with the blueprints accepted so far carried beside the application.
  induction ops generalizing bs app with
  | nil => exact ha
  | cons op ops ih =>
    obtain ⟨hop, hops⟩ := intact_cons.mp hi
    have hstep := ha.perform (fun b he => hb b (he ▸ List.mem_cons_self ..)) hop
    exact ih hstep (fun b hm => hb b (List.mem_cons_of_mem _ hm)) hops

theorem Consistent.paths_eq {bs : List Blueprint} {app : Application} (hc : Consistent bs app) :
    app.paths = Health.path :: bs.flatMap Blueprint.paths := by
  have hparts : (bs.map Blueprint.router).flatMap Router.paths = bs.flatMap Blueprint.paths := by
    rw [List.flatMap_map]
    refine List.flatMap_congr fun b hb => ?_
    obtain ⟨ps, hbuilt⟩ := hc.built b hb
    exact hbuilt.served.symm
  have hpaths : app.router.paths = (parts bs).flatMap Router.paths := by
    rw [Router.paths, hc.routes, List.map_flatMap]
    rfl
  rw [hc.served, hpaths, parts, List.flatMap_cons, hparts]
  rfl

/-- The paths of blueprints are the declared ones of each without repetitions. -/
theorem flatMap_declared {bs : List Blueprint} {pss : List (List String)}
    (h : List.Forall₂ Blueprint.Built bs pss) :
    bs.flatMap Blueprint.paths = pss.flatMap List.eraseDups := by
  induction h with
  | nil => rfl
  | cons hb _ ih => rw [List.flatMap_cons, List.flatMap_cons, hb.declared, ih]

theorem exists_declared {bs : List Blueprint} (h : ∀ b ∈ bs, ∃ ps, b.Built ps) :
    ∃ pss, List.Forall₂ Blueprint.Built bs pss := by
  induction bs with
  | nil => exact ⟨[], .nil⟩
  | cons b bs ih =>
    obtain ⟨ps, hb⟩ := h b (List.mem_cons_self ..)
    obtain ⟨pss, hbs⟩ := ih fun b' hm => h b' (List.mem_cons_of_mem _ hm)
    exact ⟨ps :: pss, .cons hb hbs⟩

theorem Assembled.nodup_names {bs : List Blueprint} {app : Application} (ha : Assembled bs app) :
    app.blueprints.Nodup := by
  induction ha with
  | new => exact .nil
  | @build s app events h =>
    rw [(Consistent.build h).names]
    cases app.adapter with
    | none => exact .nil
    | some a => exact List.nodup_singleton _
  | register _ _ h ih =>
    obtain ⟨hf, router, _, rfl, _⟩ := register_ok h
    refine List.nodup_append.mpr ⟨ih, List.nodup_singleton _, fun n hn m hm he => ?_⟩
    obtain rfl := List.mem_singleton.mp hm
    exact hf.name (he ▸ hn)

/-- The reports of the adapter are registered before anything else. -/
theorem Assembled.reports_first {bs : List Blueprint} {app : Application} (ha : Assembled bs app)
    {a : Adapter} (h : app.adapter = some a) : [Reporting.blueprint a] <+: bs := by
  induction ha with
  | new => cases h
  | build _ =>
    rw [h]
    exact List.prefix_rfl
  | register _ _ hr ih =>
    obtain ⟨_, router, _, rfl, _⟩ := register_ok hr
    exact (ih h).trans (List.prefix_append _ _)

/-- Names, paths, adapter and table of an application that has accepted some blueprints. -/
structure Agrees (bs : List Blueprint) (app : Application) : Prop where
  names : app.blueprints = bs.map Blueprint.name
  nodup_names : app.blueprints.Nodup
  declared : ∃ pss, List.Forall₂ Blueprint.Built bs pss
  paths : ∀ pss, List.Forall₂ Blueprint.Built bs pss →
    app.paths = "/health" :: pss.flatMap List.eraseDups
  nodup_paths : app.paths.Nodup
  table : app.router.Lists app.paths
  has : ∀ name, app.hasBlueprint name ↔ name ∈ app.blueprints
  reporting : ∀ a, app.adapter = some a → ["reporting"] <+: app.blueprints ∧
    ["/health", "/reporting", "/reporting/status"] <+: app.paths

theorem Assembled.agrees {bs : List Blueprint} {app : Application} (ha : Assembled bs app) :
    Agrees bs app where
  names := ha.consistent.names
  nodup_names := ha.nodup_names
  declared := exists_declared ha.consistent.built
  paths pss h := by
    rw [ha.consistent.paths_eq, flatMap_declared h]
    rfl
  nodup_paths := by
    rw [ha.consistent.served, Router.paths_eq]
    exact ha.consistent.sound.nodup_texts
  table := by
    rw [ha.consistent.served]
    exact Router.lists_paths ha.consistent.sound
  has name := hasBlueprint_iff
  reporting a h := by
    obtain ⟨rest, rfl⟩ := ha.reports_first h
    constructor
    · rw [ha.consistent.names]
      exact ⟨_, rfl⟩
    · rw [ha.consistent.paths_eq]
      exact ⟨_, rfl⟩

/-- Behind every run that does not break the table, whatever it has rejected, names, paths, adapter
and table agree with the blueprints that were accepted; and so do the paths and the table of every
blueprint, however often its paths were declared. -/
theorem records_agree {ops : List Operation} (hb : ∀ b, .register b ∈ ops → ∃ ps, b.Built ps)
    (hi : new.Intact ops) :
    Agrees (new.accepted [] ops) (new.after ops) ∧
      ∀ (b : Blueprint) (ps : List String), b.Built ps →
        b.paths = ps.eraseDups ∧ b.paths.Nodup ∧ b.router.Lists b.paths := by
  refine ⟨(Assembled.new.after hb hi).agrees, fun b ps hbuilt => ⟨hbuilt.declared, ?_, ?_⟩⟩
  · rw [hbuilt.served, Router.paths_eq]
    exact hbuilt.sound.nodup_texts
  · rw [hbuilt.served]
    exact Router.lists_paths hbuilt.sound

/-- A blueprint that declares its path twice, with two methods. -/
def form : Blueprint where
  name := "form"
  paths := ["/form"]
  router := ⟨[⟨.literal "/form",
    { groups := [[(.get, Endpoint.text "form")], [(.post, Endpoint.echo)]] }⟩]⟩

theorem built_form : form.Built ["/form", "/form"] := by
  have hd : Blueprint.ofList "form" ()
      [⟨"/form", .only .get, fun _ => Endpoint.text "form"⟩,
        ⟨"/form", .only .post, fun _ => Endpoint.echo⟩] = .ok form := rfl
  exact Blueprint.built_of_ofList hd

/-- The reports and the form, the form once more, and a view that is there already. -/
def formRun : List Operation :=
  [.build { adapter := some "RANDOM" }, .register form, .register form, .register statusView]

theorem faults_formRun : (new.run formRun).map Step.fault =
    [none, none, some (.duplicateBlueprint "form"),
      some (.pathTaken "status" "/reporting/status")] := rfl

theorem form_beside_reports :
    (∀ b, .register b ∈ formRun → ∃ ps, b.Built ps) ∧ new.Intact formRun ∧
      (new.after formRun).blueprints = ["reporting", "form"] ∧
      (new.after formRun).paths = ["/health", "/reporting", "/reporting/status", "/form"] ∧
      (new.after formRun).router.Lists (new.after formRun).paths := by
  have hb : ∀ b, .register b ∈ formRun → ∃ ps, b.Built ps := by
    intro b hm
    have hcases : b = form ∨ b = statusView := by simpa [formRun] using hm
    rcases hcases with rfl | rfl
    · exact ⟨_, built_form⟩
    · exact ⟨_, Blueprint.built_single "status" Blueprint.wellFormed_statusPath _⟩
  have hi : new.Intact formRun := by
    intro f
    rw [faults_formRun]
    simp
  have hagrees := (records_agree hb hi).1
  have haccepted : new.accepted [] formRun = [Reporting.blueprint .random, form] := rfl
  rw [haccepted] at hagrees
  refine ⟨hb, hi, hagrees.names, ?_, hagrees.table⟩
  exact hagrees.paths _ (.cons (Blueprint.built_reporting .random) (.cons built_form .nil))

end Application
end DevServer
