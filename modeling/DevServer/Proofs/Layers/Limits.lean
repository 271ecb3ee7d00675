import DevServer.Proofs.Applications.Assembly
import DevServer.Proofs.Layers.Outcomes
import DevServer.Proofs.Routes.Handlers

/-!
# What limits a request, and in which order

The announced length decides before the routes are entered, the time decides over what they answer,
and a handler gets no more of a body than is allowed and announced. That a handler was not asked is
said by putting another handler in its place, which changes nothing. Readers of bodies have a lower
limit of their own beside these; where it lies plays no part here.
-/
namespace DevServer.Http

set_option autoImplicit false

/-- A call whose body is within a limit, or held back. -/
def Call.Within (n : Nat) (call : Call) : Prop := ∀ bytes, call.body = some bytes → bytes.length ≤ n

theorem Request.handed_within (req : Request) (limit : Nat) (params : List (String × String)) :
    (req.handed limit params).Within limit := by
  intro bytes h
  by_cases hl : req.body.length ≤ limit
  · have hb : (req.handed limit params).body = some req.body := if_pos hl
    obtain rfl := Option.some.inj (hb.symm.trans h)
    exact hl
  · have hb : (req.handed limit params).body = none := if_neg hl
    rw [hb] at h
    cases h

theorem Call.Within.mono {call : Call} {m n : Nat} (h : call.Within m) (hmn : m ≤ n) :
    call.Within n := fun bytes hb => Nat.le_trans (h bytes hb) hmn

namespace Endpoint

/-- A handler that reads the body first and is not asked without it. -/
def reading (f : List UInt8 → Endpoint) : Endpoint := fun call =>
  match call.body with
  | none => .now bodyTooLong
  | some bytes => f bytes call

/-- A reader is not asked for a body that is held back. -/
theorem reading_of_none {call : Call} (h : call.body = none) (f : List UInt8 → Endpoint) :
    reading f call = .now bodyTooLong := by
  unfold reading
  rw [h]

theorem reading_of_some {call : Call} {bytes : List UInt8} (h : call.body = some bytes)
    (f : List UInt8 → Endpoint) : reading f call = f bytes call := by
  unfold reading
  rw [h]

/-- What is made of the bytes of a text; others are refused. -/
def decoding (f : String → Endpoint) (bytes : List UInt8) : Endpoint := fun call =>
  match Text.Utf8.decode bytes with
  | .ok text => f text call
  | .error fault => .now (.plain 400 ("Request body didn't contain valid UTF-8: " ++ fault.message))

/-- A handler that reads the body as text. -/
def readingText (f : String → Endpoint) : Endpoint := reading (decoding f)

theorem decoding_of_ok {bytes : List UInt8} {text : String}
    (h : Text.Utf8.decode bytes = .ok text) (f : String → Endpoint) :
    decoding f bytes = f text := by
  funext call
  unfold decoding
  rw [h]

theorem bodyLength_eq :
    bodyLength = reading fun bytes _ => .now (.plain 200 (toString bytes.length)) := by
  funext call
  unfold bodyLength withBytes reading
  cases call.body <;> rfl

theorem echo_eq : echo = readingText fun text _ => .now (.plain 200 text) := by
  funext call
  unfold echo withText withBytes readingText reading decoding
  cases call.body with
  | none => rfl
  | some bytes =>
    dsimp only
    cases Text.Utf8.decode bytes <;> rfl

end Endpoint

namespace Router

variable {r : Router Endpoint} {s : Settings} {fresh : String} {req : Request}

theorem lookup_of_handler? (hs : Sound r.patterns) {e : Endpoint} (h : r.handler? req = some e) :
    ∃ params, r.lookup req = .route e params none := by
  obtain ⟨m, hm, he⟩ := Option.bind_eq_some_iff.mp h
  exact ⟨m.params, lookup_of_find? hs hm he⟩

/-- A request as its handler sees it within the layers. -/
def handed (s : Settings) (fresh : String) (req : Request) (params : List (String × String)) :
    Call :=
  (req.identified fresh).handed (min handlerBodyLimit (req.allowance s)) params

theorem outcome_route {e : Endpoint} {params : List (String × String)} {allow : Option String}
    (h : r.lookup req = .route e params allow) :
    r.outcome s fresh req = e (handed s fresh req params) := by
  have ha := req.allowance_identified s fresh
  unfold outcome Found.outcome handed
  rw [h, ha, Found.run_route]

theorem outcome_map {f : Endpoint → Endpoint}
    (h : ∀ e params, r.lookup req = .route e params none →
      f e (handed s fresh req params) = e (handed s fresh req params)) :
    (r.map f).outcome s fresh req = r.outcome s fresh req := by
  have ha := req.allowance_identified s fresh
  unfold outcome Found.outcome
  rw [lookup_map, ha]
  exact Found.run_map h

/-- Other handlers that agree on the calls that are made change no answer, and of a request that is
refused no call is made. -/
theorem serve_map {f : Endpoint → Endpoint}
    (h : req.refused s = true ∨ ∀ e params, r.lookup req = .route e params none →
      f e (handed s fresh req params) = e (handed s fresh req params)) :
    (r.map f).serve s fresh req = r.serve s fresh req := by
  have hwithin : (r.map f).within s fresh req = r.within s fresh req := by
    rw [within_cases, within_cases]
    rcases h with h | h
    · rw [if_pos h, if_pos h]
    · rw [outcome_map h]
  rw [serve_eq, serve_eq, hwithin, lookup_map, Found.finish_map]

theorem handed_within (s : Settings) (fresh : String) (req : Request)
    (params : List (String × String)) : (handed s fresh req params).Within (req.allowance s) :=
  ((req.identified fresh).handed_within _ params).mono (Nat.min_le_right _ _)

/-- A body that is longer than is let through is held back. -/
theorem body_handed_of_lt (fresh : String) (params : List (String × String))
    (h : min handlerBodyLimit (req.allowance s) < req.body.length) :
    (handed s fresh req params).body = none := if_neg (Nat.not_le.mpr h)

theorem body_handed_of_le (fresh : String) (params : List (String × String))
    (h : req.body.length ≤ min handlerBodyLimit (req.allowance s)) :
    (handed s fresh req params).body = some req.body := if_pos h

theorem serve_reading_held (hs : Sound r.patterns) {f : List UInt8 → Endpoint}
    (hf : r.handler? req = some (.reading f)) (hsecs : 1 ≤ s.timeouts.requestSecs.toNat)
    (h : min handlerBodyLimit (req.allowance s) < req.body.length) :
    (r.serve s fresh req).response.status = 413 ∧
      ∀ g, (r.map fun _ => .reading g).serve s fresh req = r.serve s fresh req := by
  obtain ⟨params, hl⟩ := lookup_of_handler? hs hf
  have hbody : ∀ ps, (handed s fresh req ps).body = none := fun ps => body_handed_of_lt fresh ps h
  have hout : r.outcome s fresh req = .now bodyTooLong := by
    rw [outcome_route hl, Endpoint.reading_of_none (hbody params)]
  constructor
  · cases hr : req.refused s with
    | true => exact (serve_refused hr).2
    | false =>
      have hmillis : (r.outcome s fresh req).waits < s.timeouts.millis := by
        rw [hout]
        exact Timeouts.millis_pos hsecs
      rw [(serve_answered hr hmillis).2, hout]
      rfl
  · intro g
    refine serve_map (.inr fun e ps he => ?_)
    obtain ⟨rfl, rfl⟩ : .reading f = e ∧ params = ps := by
      have hroute := hl.symm.trans he
      injection hroute with he hp
      exact ⟨he, hp⟩
    rw [Endpoint.reading_of_none (hbody params), Endpoint.reading_of_none (hbody params)]

end Router

open Application (Assembled)

/-- A request that announces too much is refused before the routes are entered, whichever they are.
Else it is given up exactly if its handler, with the values that the path has for its parameters,
takes as long as is allowed, or longer; these are the seconds of the settings if timers can tell
them. No handler runs on more of a body than is allowed and announced, and one that reads bodies
refuses a longer one without running. -/
theorem limits_in_order {bs : List Blueprint} {app : Application} (ha : Assembled bs app)
    (s : Settings) (fresh : String) (req : Request) :
    (∀ n, req.announced? = some n → s.security.maxBodySize.toNat < n →
      (app.router.serve s fresh req).response.status = 413 ∧
      ∀ f, (app.router.map f).serve s fresh req = app.router.serve s fresh req) ∧
    ((∀ n, req.announced? = some n → n ≤ s.security.maxBodySize.toNat) →
      (s.timeouts.InRange → s.timeouts.millis = s.timeouts.requestSecs.toNat * 1000) ∧
      ∀ e, app.router.handler? req = some e → ∃ params,
      app.router.lookup req = .route e params none ∧
      (((app.router.serve s fresh req).fromRoutes = false ∧
        (app.router.serve s fresh req).response.status = 408) ↔
          s.timeouts.millis ≤ (e (Router.handed s fresh req params)).waits) ∧
      ((e (Router.handed s fresh req params)).response.status ≠ 408 →
        ((app.router.serve s fresh req).response.status = 408 ↔
          s.timeouts.millis ≤ (e (Router.handed s fresh req params)).waits))) ∧
    (∀ f, (∀ e call, call.Within (req.allowance s) → f e call = e call) →
      (app.router.map f).serve s fresh req = app.router.serve s fresh req) ∧
    (1 ≤ s.timeouts.requestSecs.toNat → req.allowance s < req.body.length →
      ∀ f, app.router.handler? req = some (.reading f) →
      (app.router.serve s fresh req).response.status = 413 ∧
      ∀ g, (app.router.map fun _ => .reading g).serve s fresh req =
        app.router.serve s fresh req) := by
  have hs := ha.consistent.sound
  refine ⟨fun n hn hlt => ?_, fun hle => ⟨Timeouts.millis_of_inRange, fun e he => ?_⟩,
    fun f hf => ?_, fun hsecs hlong f hf => ?_⟩
  · have hr := Request.refused_iff.mpr (by rw [hn]; exact hlt)
    exact ⟨(Router.serve_refused hr).2, fun f => Router.serve_map (.inl hr)⟩
  · have hr := Request.not_refused_iff.mpr hle
    obtain ⟨params, hl⟩ := Router.lookup_of_handler? hs he
    have hout : app.router.outcome s fresh req = e (Router.handed s fresh req params) :=
      Router.outcome_route hl
    refine ⟨params, hl, ?_⟩
    rw [← hout]
    by_cases hlate : s.timeouts.millis ≤ (app.router.outcome s fresh req).waits
    · have hend := Router.serve_givenUp hr hlate
      exact ⟨iff_of_true hend hlate, fun _ => iff_of_true hend.2 hlate⟩
    · have hend := Router.serve_answered hr (Nat.not_le.mp hlate)
      refine ⟨iff_of_false (fun h => ?_) hlate, fun hown => iff_of_false (fun h => ?_) hlate⟩
      · exact Bool.false_ne_true (h.1.symm.trans hend.1)
      · exact hown (hend.2.symm.trans h)
  · exact Router.serve_map (.inr fun e params _ => hf e _ (Router.handed_within s fresh req params))
  · exact Router.serve_reading_held hs hf hsecs (by omega)

/-- A view that takes as long as is allowed by default. -/
def waiting : Blueprint :=
  .single "waiting" (.literal "/wait") (.single (.only .get) (Endpoint.delayed 30000 "late"))

def busy : Application := echoing.withBlueprint waiting (echoing.router.beside waiting.router)

theorem assembled_busy : Assembled [echo, waiting] busy := by
  have hecho : echo.Built ["/echo"] :=
    Blueprint.built_single "echo" (Pattern.wellFormed_literal rfl (by decide)) _
  have hwaiting : waiting.Built ["/wait"] :=
    Blueprint.built_single "waiting" (Pattern.wellFormed_literal rfl (by decide)) _
  have hfirst : Application.new.register echo =
      .ok (echoing, [Application.registered "echo"]) := rfl
  have hsecond : echoing.register waiting = .ok (busy, [Application.registered "waiting"]) := rfl
  exact (Assembled.new.register hecho hfirst).register hwaiting hsecond

def late : Request := ⟨.get, { path := "/wait" }, [], []⟩

/-- Two bytes that were announced as one. -/
def understated : Request := ⟨.post, { path := "/echo" }, [("content-length", "1")], [0x68, 0x69]⟩

/-- One byte more is announced than is allowed by default, for a path that nothing serves. -/
def overstated : Request := ⟨.get, { path := "/none" }, [("content-length", "2097153")], []⟩

theorem tie_given_up_and_lengths_refused :
    Assembled [echo, waiting] busy ∧
      (busy.router.serve {} "7" late).response.status = 408 ∧
      (busy.router.serve {} "7" overstated).response.status = 413 ∧
      (busy.router.serve {} "7" understated).response.status = 413 ∧
      ∀ g, (busy.router.map fun _ => .reading g).serve {} "7" understated =
        busy.router.serve {} "7" understated := by
  obtain ⟨_, htime, _, _⟩ := limits_in_order assembled_busy {} "7" late
  obtain ⟨hannounced, _, _, _⟩ := limits_in_order assembled_busy {} "7" overstated
  obtain ⟨_, _, _, hbody⟩ := limits_in_order assembled_busy {} "7" understated
  have hwait : busy.router.handler? late = some (Endpoint.delayed 30000 "late") := rfl
  have hecho : busy.router.handler? understated = some Endpoint.echo := rfl
  obtain ⟨params, _, hgiven, _⟩ := (htime (fun n hn => by cases hn)).2 _ hwait
  have hmillis : ({} : Settings).timeouts.millis = 30000 := by decide
  have hlate := hgiven.mpr (Nat.le_of_eq hmillis)
  have hread := hbody (by decide) (by decide) _ (hecho.trans (congrArg some Endpoint.echo_eq))
  exact ⟨assembled_busy, hlate.2, (hannounced 2097153 rfl (by decide)).1, hread⟩

end DevServer.Http
