import DevServer.Proofs.Layers.Limits

/-!
# Readers of bodies have two limits

The settings limit bodies, and so does every reader of a body, by a number that no setting moves: of
the two limits the lower one is in force. So settings that allow more than readers do are not the
limit that is in force.
-/
namespace DevServer.Http

set_option autoImplicit false

open Application (Assembled)

/-- Of the bodies of a request that comes with its length, or without one, all are read and answered
that are within both limits, and all others are refused. What is answered is all that is made of the
call with the whole body, beside the identifier of the request. -/
structure Router.ReadsWithin (r : Router Endpoint) (s : Settings) (fresh : String) (req : Request)
    (answer : Endpoint) : Prop where
  within : req.body.length ≤ min s.security.maxBodySize.toNat handlerBodyLimit →
    ∃ e params, r.lookup req = .route e params none ∧
      (handed s fresh req params).body = some req.body ∧
      ((answer (handed s fresh req params)).waits < s.timeouts.millis →
        (r.serve s fresh req).fromRoutes = true ∧
        (r.serve s fresh req).response.status =
          (answer (handed s fresh req params)).response.status ∧
        Response.Identifies (req.identifier fresh)
          (Found.complete req.method none (answer (handed s fresh req params)).response)
          (r.serve s fresh req).response)
  beyond : min s.security.maxBodySize.toNat handlerBodyLimit < req.body.length →
    (r.serve s fresh req).response.status = 413 ∧
      ∀ g, (r.map fun _ => .reading g).serve s fresh req = r.serve s fresh req

/-- An honest length moves neither limit. -/
theorem Request.held_iff {s : Settings} {req : Request}
    (h : req.announced? = none ∨ req.announced? = some req.body.length) :
    min handlerBodyLimit (req.allowance s) < req.body.length ↔
      min s.security.maxBodySize.toNat handlerBodyLimit < req.body.length := by
  unfold allowance
  rcases h with h | h
  · rw [h]
    dsimp only
    omega
  · rw [h]
    dsimp only
    omega

theorem Request.not_refused_of_le {s : Settings} {req : Request}
    (h : req.announced? = none ∨ req.announced? = some req.body.length)
    (hle : req.body.length ≤ s.security.maxBodySize.toNat) : req.refused s = false := by
  refine not_refused_iff.mpr fun n hn => ?_
  rcases h with h | h
  · rw [h] at hn
    cases hn
  · obtain rfl := Option.some.inj (h.symm.trans hn)
    exact hle

theorem Router.readsWithin {r : Router Endpoint} (s : Settings) (fresh : String) {req : Request}
    (hs : Sound r.patterns) {f : List UInt8 → Endpoint} (hf : r.handler? req = some (.reading f))
    (hl : req.announced? = none ∨ req.announced? = some req.body.length)
    (hsecs : 1 ≤ s.timeouts.requestSecs.toNat) : r.ReadsWithin s fresh req (f req.body) where
  within h := by
    obtain ⟨params, hroute⟩ := lookup_of_handler? hs hf
    have hheld := (Request.held_iff (s := s) hl).not
    have hbody : (handed s fresh req params).body = some req.body :=
      body_handed_of_le fresh params (by omega)
    have hout : r.outcome s fresh req = f req.body (handed s fresh req params) :=
      (outcome_route hroute).trans (Endpoint.reading_of_some hbody f)
    refine ⟨_, params, hroute, hbody, fun hw => ?_⟩
    rw [← hout] at hw ⊢
    have hrefused : req.refused s = false := Request.not_refused_of_le hl (by omega)
    have hserve := serve_answered hrefused hw
    have hidentifies := serve_identifies (within_answered hrefused hw)
    rw [hroute] at hidentifies
    exact ⟨hserve.1, hserve.2, hidentifies⟩
  beyond h := serve_reading_held hs hf hsecs ((Request.held_iff hl).mpr h)

/-- Whatever the settings allow, readers of bodies get and answer those that are within the settings
and within 2097152 bytes, and refuse the others. Settings that allow more than that are not the
limit that is in force. -/
theorem readers_limited_twice {bs : List Blueprint} {app : Application} (ha : Assembled bs app)
    (s : Settings) (fresh : String) {req : Request}
    (hl : req.announced? = none ∨ req.announced? = some req.body.length)
    (hsecs : 1 ≤ s.timeouts.requestSecs.toNat) :
    (∀ f, app.router.handler? req = some (.reading f) →
      app.router.ReadsWithin s fresh req (f req.body)) ∧
    ∀ f text, app.router.handler? req = some (.readingText f) →
      Text.Utf8.decode req.body = .ok text → app.router.ReadsWithin s fresh req (f text) := by
  have hs := ha.consistent.sound
  refine ⟨fun f hf => Router.readsWithin s fresh hs hf hl hsecs, fun f text hf htext => ?_⟩
  rw [← Endpoint.decoding_of_ok htext f]
  exact Router.readsWithin s fresh hs hf hl hsecs

/-- A blueprint that tells how long a body is. -/
def measure : Blueprint :=
  .single "measure" (.literal "/len") (.single (.only .post) Endpoint.bodyLength)

def measuring : Application :=
  Application.new.withBlueprint measure (Application.new.router.beside measure.router)

theorem assembled_measuring : Assembled [measure] measuring := by
  have hmeasure : measure.Built ["/len"] :=
    Blueprint.built_single "measure" (Pattern.wellFormed_literal rfl (by decide)) _
  have hr : Application.new.register measure =
      .ok (measuring, [Application.registered "measure"]) := rfl
  exact Assembled.new.register hmeasure hr

/-- Settings that allow more than readers of bodies do. -/
def generous : Settings := { security := { maxBodySize := 4194304 } }

/-- A body of some bytes, without its length. -/
def upload (n : Nat) : Request := ⟨.post, { path := "/len" }, [], List.replicate n 0x61⟩

theorem handler?_upload (n : Nat) :
    measuring.router.handler? (upload n) = some Endpoint.bodyLength := by
  have h : ((measuring.router.find? "/len").bind fun m => m.route.endpoints.find? .post) =
      some Endpoint.bodyLength := rfl
  exact h

/-- A body that the settings allow is refused as too long. -/
theorem allowed_body_refused :
    Assembled [measure] measuring ∧ 1 ≤ generous.timeouts.requestSecs.toNat ∧
      measuring.router.handler? (upload 2097153) = some Endpoint.bodyLength ∧
      (upload 2097153).announced? = none ∧
      (upload 2097153).body.length ≤ generous.security.maxBodySize.toNat ∧
      (measuring.router.serve generous "7" (upload 2097153)).response.status = 413 := by
  have hlength : (upload 2097153).body.length = 2097153 := List.length_replicate
  have hs := assembled_measuring.consistent.sound
  have hhandler := handler?_upload 2097153
  have hreader := hhandler.trans (congrArg some Endpoint.bodyLength_eq)
  have hreads := Router.readsWithin generous "7" hs hreader (.inl rfl) (by decide)
  refine ⟨assembled_measuring, by decide, hhandler, rfl, ?_, (hreads.beyond ?_).1⟩
  · rw [hlength]
    decide
  · rw [hlength]
    decide

theorem body_at_both_limits_read :
    Assembled [measure] measuring ∧ (upload 2097152).announced? = none ∧
      1 ≤ generous.timeouts.requestSecs.toNat ∧
      (measuring.router.serve generous "7" (upload 2097152)).response.status = 200 := by
  have hlength : (upload 2097152).body.length = 2097152 := List.length_replicate
  have hnone : (upload 2097152).announced? = none := rfl
  have hreader := (handler?_upload 2097152).trans (congrArg some Endpoint.bodyLength_eq)
  have hboth := readers_limited_twice assembled_measuring generous "7" (.inl hnone) (by decide)
  have hreads := hboth.1 _ hreader
  obtain ⟨_, params, _, _, hanswer⟩ := hreads.within (by rw [hlength]; decide)
  exact ⟨assembled_measuring, hnone, by decide, (hanswer (Timeouts.millis_pos (by decide))).2.1⟩

end DevServer.Http
