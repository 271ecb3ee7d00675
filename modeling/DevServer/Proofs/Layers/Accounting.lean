import DevServer.Http.Metrics
import DevServer.Proofs.Layers.Limits
import Mathlib.Data.List.Nodup

/-!
# What is counted of a sequence of requests

Counting stands inside of both limits, so it sees exactly the requests that are neither refused nor
given up, each of them once and with the status that its client gets. Both metrics have a series for
a method and a status as soon as one such request has come, and no other series. How long requests
took is not kept, only that it was measured.
-/
namespace DevServer.Http

set_option autoImplicit false

namespace Metrics

theorem count_cons (t : Series) (n : Nat) (ms : Metrics) (s : Series) :
    count ((t, n) :: ms) s = if s = t then n else count ms s := by
  unfold count
  rw [List.lookup_cons]
  by_cases h : s = t
  · rw [if_pos h, h, beq_self_eq_true]
    rfl
  · have hb : (s == t) = false := by simpa using h
    rw [if_neg h, hb]

theorem count_increment (ms : Metrics) (s t : Series) :
    (ms.increment s).count t = ms.count t + if s = t then 1 else 0 := by
  induction ms with
  | nil =>
    have hzero : count [] t = 0 := rfl
    rw [increment, count_cons, hzero, Nat.zero_add]
    exact if_congr eq_comm rfl rfl
  | cons m ms ih =>
    obtain ⟨u, n⟩ := m
    rw [increment]
    by_cases hu : u = s
    · subst hu
      rw [if_pos rfl, count_cons, count_cons]
      by_cases ht : t = u
      · rw [if_pos ht, if_pos ht, if_pos ht.symm]
      · rw [if_neg ht, if_neg ht, if_neg fun h => ht h.symm]
        rfl
    · rw [if_neg hu, count_cons, count_cons, ih]
      by_cases ht : t = u
      · have hst : s ≠ t := fun h => hu (h.trans ht).symm
        rw [if_pos ht, if_pos ht, if_neg hst]
        rfl
      · rw [if_neg ht, if_neg ht]

theorem keys_increment (ms : Metrics) (s : Series) :
    ∀ t, t ∈ (ms.increment s).map Prod.fst ↔ t ∈ ms.map Prod.fst ∨ t = s := by
  induction ms with
  | nil => simp [increment]
  | cons m ms ih =>
    obtain ⟨u, n⟩ := m
    intro t
    rw [increment]
    by_cases hu : u = s
    · rw [if_pos hu]
      simp only [List.map_cons, List.mem_cons]
      constructor
      · exact .inl
      · rintro (h | rfl)
        · exact h
        · exact .inl hu.symm
    · rw [if_neg hu]
      simp only [List.map_cons, List.mem_cons, ih t, or_assoc]

/-- Each series is there once, and none without a measurement. -/
structure Proper (ms : Metrics) : Prop where
  nodup : (ms.map Prod.fst).Nodup
  positive : ∀ m ∈ ms, 0 < m.2

theorem Proper.nil : Proper [] := ⟨List.nodup_nil, by simp⟩

theorem Proper.increment {ms : Metrics} (h : Proper ms) (s : Series) : Proper (ms.increment s) := by
  induction ms with
  | nil => exact ⟨List.nodup_singleton s, by simp [Metrics.increment]⟩
  | cons m ms ih =>
    obtain ⟨u, n⟩ := m
    obtain ⟨hfresh, hnodup⟩ := List.nodup_cons.mp h.nodup
    have hrest : Proper ms := ⟨hnodup, fun m hm => h.positive m (List.mem_cons_of_mem _ hm)⟩
    rw [Metrics.increment]
    by_cases hu : u = s
    · rw [if_pos hu]
      refine ⟨h.nodup, fun m hm => ?_⟩
      rcases List.mem_cons.mp hm with rfl | hm
      · exact Nat.succ_pos n
      · exact hrest.positive m hm
    · rw [if_neg hu]
      have hproper := ih hrest
      refine ⟨List.nodup_cons.mpr ⟨fun hm => ?_, hproper.nodup⟩, fun m hm => ?_⟩
      · exact ((keys_increment ms s u).mp hm).elim hfresh hu
      · rcases List.mem_cons.mp hm with rfl | hm
        · exact h.positive _ (List.mem_cons_self ..)
        · exact hproper.positive m hm

/-- The entries are the series that have been measured, with their counts. -/
theorem Proper.mem_iff {ms : Metrics} (h : Proper ms) (t : Series) (n : Nat) :
    (t, n) ∈ ms ↔ ms.count t = n ∧ 0 < n := by
  induction ms with
  | nil =>
    have hzero : count [] t = 0 := rfl
    simp only [List.not_mem_nil, false_iff]
    omega
  | cons m ms ih =>
    obtain ⟨u, k⟩ := m
    obtain ⟨hfresh, hnodup⟩ := List.nodup_cons.mp h.nodup
    have hrest := ih ⟨hnodup, fun m hm => h.positive m (List.mem_cons_of_mem _ hm)⟩
    have hk : 0 < k := h.positive (u, k) (List.mem_cons_self ..)
    rw [List.mem_cons, count_cons]
    by_cases ht : t = u
    · subst ht
      have habsent : (t, n) ∉ ms := fun hm => hfresh (List.mem_map.mpr ⟨_, hm, rfl⟩)
      rw [if_pos rfl]
      constructor
      · rintro (he | hm)
        · obtain rfl : n = k := (Prod.mk.inj he).2
          exact ⟨rfl, hk⟩
        · exact absurd hm habsent
      · rintro ⟨rfl, _⟩
        exact .inl rfl
    · rw [if_neg ht, ← hrest]
      exact or_iff_right fun he => ht (Prod.mk.inj he).1

/-- All measurements of a metric. -/
def total (metric : Metric) : Metrics → Nat
  | [] => 0
  | (t, n) :: ms => (if t.metric = metric then n else 0) + total metric ms

theorem total_increment (ms : Metrics) (s : Series) (metric : Metric) :
    total metric (ms.increment s) = total metric ms + if s.metric = metric then 1 else 0 := by
  induction ms with
  | nil =>
    have hzero : total metric [] = 0 := rfl
    rw [increment, hzero, total, hzero]
    omega
  | cons m ms ih =>
    obtain ⟨u, n⟩ := m
    rw [increment]
    by_cases hu : u = s
    · rw [if_pos hu, total, total, ← hu]
      split <;> omega
    · rw [if_neg hu, total, total, ih]
      omega

theorem count_record (ms : Metrics) (method : Method) (status : Nat) (t : Series) :
    (ms.record method status).count t =
      ms.count t + if method = t.method ∧ status = t.status then 1 else 0 := by
  unfold record
  rw [count_increment, count_increment]
  obtain ⟨metric, m, st⟩ := t
  -- Of the two measurements one is of the metric of the series.
  cases metric <;> simp

theorem total_record (ms : Metrics) (method : Method) (status : Nat) (metric : Metric) :
    total metric (ms.record method status) = total metric ms + 1 := by
  unfold record
  rw [total_increment, total_increment]
  cases metric <;> simp

theorem Proper.observe {ms : Metrics} (h : Proper ms) (req : Request) (served : Served) :
    Proper (ms.observe req served) := by
  unfold Metrics.observe
  split
  · exact (h.increment _).increment _
  · exact h

end Metrics

namespace Router

variable (r : Router Endpoint) (s : Settings)

/-- A request is answered by the time limit. -/
def givesUp (a : Arrival) : Bool :=
  !a.request.refused s && decide (s.timeouts.millis ≤ (r.outcome s a.fresh a.request).waits)

theorem givesUp_of_refused {a : Arrival} (h : a.request.refused s = true) :
    r.givesUp s a = false := by
  unfold givesUp
  rw [h]
  rfl

/-- A request is answered by the routes with this status. -/
def counts (method : Method) (status : Nat) (a : Arrival) : Bool :=
  !a.request.refused s && !r.givesUp s a && decide (a.request.method = method) &&
    decide ((r.receive s a).response.status = status)

/-- How many requests of a method the routes answer with a status. -/
def tally (as : List Arrival) (method : Method) (status : Nat) : Nat :=
  as.countP (r.counts s method status)

theorem fromRoutes_receive (a : Arrival) :
    (r.receive s a).fromRoutes = (!a.request.refused s && !r.givesUp s a) := by
  unfold receive givesUp
  cases hr : a.request.refused s with
  | true => exact (serve_refused hr).1
  | false =>
    by_cases hw : s.timeouts.millis ≤ (r.outcome s a.fresh a.request).waits
    · rw [(serve_givenUp hr hw).1]
      simp [hw]
    · rw [(serve_answered hr (by omega)).1]
      simp [hw]

/-- What one request adds to a series. -/
theorem count_observe (ms : Metrics) (a : Arrival) (t : Series) :
    (ms.observe a.request (r.receive s a)).count t =
      ms.count t + if r.counts s t.method t.status a then 1 else 0 := by
  have hroutes := r.fromRoutes_receive s a
  unfold Metrics.observe counts
  rw [← hroutes]
  cases (r.receive s a).fromRoutes with
  | false => rfl
  | true =>
    rw [if_pos rfl, Metrics.count_record]
    simp only [Bool.true_and, Bool.and_eq_true, decide_eq_true_eq]

theorem total_observe (ms : Metrics) (a : Arrival) (metric : Metric) :
    (ms.observe a.request (r.receive s a)).total metric +
        (if a.request.refused s then 1 else 0) + (if r.givesUp s a then 1 else 0) =
      ms.total metric + 1 := by
  have hroutes := r.fromRoutes_receive s a
  unfold Metrics.observe
  rw [hroutes]
  cases hr : a.request.refused s with
  | true =>
    have hn : r.givesUp s a = false := r.givesUp_of_refused s hr
    simp [hn]
  | false =>
    cases r.givesUp s a with
    | true => simp
    | false => simp [Metrics.total_record]

theorem count_serveAll (as : List Arrival) (ms : Metrics) (t : Series) :
    (r.serveAll s as ms).2.count t = ms.count t + r.tally s as t.method t.status := by
  -- Along the requests, with what has been counted so far carried along.
  induction as generalizing ms with
  | nil => rfl
  | cons a as ih =>
    have hstep := r.count_observe s ms a t
    have hrun := ih (ms.observe a.request (r.receive s a))
    have htally : r.tally s (a :: as) t.method t.status =
        r.tally s as t.method t.status + if r.counts s t.method t.status a then 1 else 0 :=
      List.countP_cons
    show (r.serveAll s as (ms.observe a.request (r.receive s a))).2.count t = _
    rw [hrun, hstep, htally]
    omega

theorem proper_serveAll (as : List Arrival) {ms : Metrics} (h : ms.Proper) :
    (r.serveAll s as ms).2.Proper := by
  induction as generalizing ms with
  | nil => exact h
  | cons a as ih => exact ih (h.observe a.request (r.receive s a))

theorem total_serveAll (as : List Arrival) (ms : Metrics) (metric : Metric) :
    (r.serveAll s as ms).2.total metric + as.countP (fun a => a.request.refused s) +
        as.countP (r.givesUp s) =
      ms.total metric + as.length := by
  induction as generalizing ms with
  | nil => rfl
  | cons a as ih =>
    have hstep := r.total_observe s ms a metric
    have hrun := ih (ms.observe a.request (r.receive s a))
    rw [List.countP_cons, List.countP_cons, List.length_cons]
    show (r.serveAll s as (ms.observe a.request (r.receive s a))).2.total metric + _ + _ = _
    omega

theorem responses_serveAll (as : List Arrival) (ms : Metrics) :
    (r.serveAll s as ms).1 = as.map fun a => (r.receive s a).response := by
  induction as generalizing ms with
  | nil => rfl
  | cons a as ih =>
    rw [List.map_cons, ← ih (ms.observe a.request (r.receive s a))]
    rfl

/-- What has been counted of some requests and nothing else. -/
structure Accounts (as : List Arrival) (ms : Metrics) : Prop where
  /-- Both metrics count the same, by method and status. -/
  counted : ∀ metric method status,
    ms.count ⟨metric, method, status⟩ = r.tally s as method status
  /-- There is no other series, and none twice. -/
  series : ∀ t n, (t, n) ∈ ms ↔ r.tally s as t.method t.status = n ∧ 0 < n
  once : (ms.map Prod.fst).Nodup
  reported : ∀ l, l ∈ ms.render ↔ ∃ t : Series, 0 < r.tally s as t.method t.status ∧
    l = Metrics.line t (r.tally s as t.method t.status)
  total : ∀ metric, ms.total metric + as.countP (fun a => a.request.refused s) +
    as.countP (r.givesUp s) = as.length

theorem accounts_serveAll (as : List Arrival) : r.Accounts s as (r.serveAll s as []).2 := by
  have hcount : ∀ t : Series, (r.serveAll s as []).2.count t = r.tally s as t.method t.status := by
    intro t
    rw [count_serveAll]
    exact Nat.zero_add _
  have hproper := r.proper_serveAll s as Metrics.Proper.nil
  have hseries : ∀ t n, (t, n) ∈ (r.serveAll s as []).2 ↔
      r.tally s as t.method t.status = n ∧ 0 < n := by
    intro t n
    rw [hproper.mem_iff, hcount]
  refine ⟨fun metric method status => hcount _, hseries, hproper.nodup, fun l => ?_, ?_⟩
  · unfold Metrics.render
    rw [List.mem_mergeSort, List.mem_map]
    constructor
    · rintro ⟨⟨t, n⟩, hm, rfl⟩
      obtain ⟨rfl, hpos⟩ := (hseries t n).mp hm
      exact ⟨t, hpos, rfl⟩
    · rintro ⟨t, hpos, rfl⟩
      exact ⟨(t, _), (hseries t _).mpr ⟨rfl, hpos⟩, rfl⟩
  · intro metric
    rw [total_serveAll]
    exact Nat.zero_add _

end Router

/-- Of every sequence of requests exactly those are counted that are neither refused for their
length nor given up, once each and with the status that is sent; both metrics have the same series,
and no others. The refused and the given up are what is missing of all requests, and the order of
the requests does not matter. -/
theorem requests_accounted (app : Application) (s : Settings) (as : List Arrival) :
    app.router.Accounts s as (app.router.serveAll s as []).2 ∧
    (app.router.serveAll s as []).1 = as.map (fun a => (app.router.receive s a).response) ∧
    (∀ a ∈ as, a.request.refused s = true → (app.router.receive s a).response.status = 413) ∧
    (∀ a ∈ as, app.router.givesUp s a = true → (app.router.receive s a).response.status = 408) ∧
    ∀ as', as.Perm as' → ∀ t,
      (app.router.serveAll s as' []).2.count t = (app.router.serveAll s as []).2.count t := by
  refine ⟨app.router.accounts_serveAll s as, app.router.responses_serveAll s as [], ?_, ?_, ?_⟩
  · exact fun a _ hr => (Router.serve_refused hr).2
  · intro a _ hg
    obtain ⟨hr, hw⟩ : a.request.refused s = false ∧
        s.timeouts.millis ≤ (app.router.outcome s a.fresh a.request).waits := by
      simpa [Router.givesUp] using hg
    exact (Router.serve_givenUp hr hw).2
  · intro as' hp t
    rw [Router.count_serveAll, Router.count_serveAll]
    unfold Router.tally
    rw [hp.countP_eq]

/-- Requests that end in every way there is. -/
def visits : List Arrival :=
  [⟨overstated, fun _ => 0⟩,
    ⟨late, fun _ => 0⟩,
    ⟨⟨.get, { path := "/none" }, [], []⟩, fun _ => 0⟩,
    ⟨⟨.put, { path := "/echo" }, [], []⟩, fun _ => 0⟩,
    ⟨understated, fun _ => 0⟩,
    ⟨oneByte, fun _ => 0⟩,
    ⟨⟨.post, { path := "/echo" }, [], [0x68, 0x69]⟩, fun _ => 0⟩]

/-- Of two requests that get the same status, the one that the routes have answered is counted. -/
theorem refused_by_reader_counted :
    visits.countP (fun a => a.request.refused {}) = 1 ∧ visits.countP (busy.router.givesUp {}) = 1 ∧
      (busy.router.serveAll {} visits []).2.total .requests = 5 ∧
      (busy.router.serveAll {} visits []).2.count ⟨.durations, .post, 413⟩ = 1 ∧
      (∀ n, (⟨.requests, .get, 413⟩, n) ∉ (busy.router.serveAll {} visits []).2) ∧
      (busy.router.receive {} ⟨overstated, fun _ => 0⟩).response.status = 413 ∧
      (busy.router.receive {} ⟨late, fun _ => 0⟩).response.status = 408 ∧
      ∀ t, (busy.router.serveAll {} visits.reverse []).2.count t =
        (busy.router.serveAll {} visits []).2.count t := by
  obtain ⟨hms, _, hrefused, hgiven, horder⟩ := requests_accounted busy {} visits
  have hearly : visits.countP (fun a => a.request.refused {}) = 1 := by decide +kernel
  have hlate : visits.countP (busy.router.givesUp {}) = 1 := by decide +kernel
  have hpost : busy.router.tally {} visits .post 413 = 1 := by decide +kernel
  have hget : busy.router.tally {} visits .get 413 = 0 := by decide +kernel
  have htotal := hms.total .requests
  have hlength : visits.length = 7 := rfl
  refine ⟨hearly, hlate, by omega, (hms.counted _ _ _).trans hpost, fun n hn => ?_, ?_, ?_, ?_⟩
  · obtain ⟨rfl, hpos⟩ := (hms.series _ _).mp hn
    exact Nat.lt_irrefl 0 (Nat.lt_of_lt_of_eq hpos hget)
  · exact hrefused _ (List.mem_cons_self ..) (by decide +kernel)
  · exact hgiven _ (List.mem_cons_of_mem _ (List.mem_cons_self ..)) (by decide +kernel)
  · exact horder _ (List.reverse_perm visits).symm

end DevServer.Http
