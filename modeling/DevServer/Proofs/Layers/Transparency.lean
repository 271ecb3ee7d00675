import DevServer.Http.Layers
import DevServer.Proofs.Applications.Assembly

/-!
# The layers add an identifier and nothing else

A request that is within its limits is answered by the layered table as by the bare one, but for the
field of the identifier. The routes see the identifier as well: a handler that reads it is compared
on the request that has it, and every other handler on the request as it came. How requests beyond
their limits are answered is not looked at here. That the bare table gives every request the same
answer but for an added identifier is refuted at the end.
-/
namespace DevServer.Http

set_option autoImplicit false

namespace Headers

theorem first?_addMissing {hs : Headers} {name other value : String} (h : other ≠ name) :
    (hs.addMissing name value).first? other = hs.first? other := by
  have hb : (other == name) = false := by simpa using h
  unfold addMissing first?
  split
  · rfl
  · rw [List.lookup_append]
    simp [List.lookup_cons, hb]

theorem has_addMissing {hs : Headers} {name other value : String} (h : other ≠ name) :
    (hs.addMissing name value).has other = hs.has other := by
  unfold has
  rw [first?_addMissing h]

/-- A field has been put among others, which keep their order. -/
def Inserted (f : String × String) (hs hs' : Headers) : Prop :=
  ∃ before after, hs = before ++ after ∧ hs' = before ++ f :: after

theorem Inserted.has_eq {f : String × String} {hs hs' : Headers} (h : Inserted f hs hs')
    {name : String} (hn : name ≠ f.1) : hs'.has name = hs.has name := by
  obtain ⟨before, after, rfl, rfl⟩ := h
  have hb : (name == f.1) = false := by simpa using hn
  unfold has first?
  rw [List.lookup_append, List.lookup_append, List.lookup_cons, hb]

theorem Inserted.length_eq {f : String × String} {hs hs' : Headers} (h : Inserted f hs hs') :
    hs'.length = hs.length + 1 := by
  obtain ⟨before, after, rfl, rfl⟩ := h
  rw [List.length_append, List.length_append, List.length_cons]
  omega

theorem Inserted.addMissing {f : String × String} {hs hs' : Headers} (h : Inserted f hs hs')
    {name : String} (hn : name ≠ f.1) (value : String) :
    Inserted f (hs.addMissing name value) (hs'.addMissing name value) := by
  have hhas := h.has_eq hn
  unfold Headers.addMissing
  rw [hhas]
  split
  · exact h
  · obtain ⟨before, after, rfl, rfl⟩ := h
    exact ⟨before, after ++ [(name, value)], by simp, by simp⟩

end Headers

/-- The identifier of a request: the first that it has, or a fresh one. -/
def Request.identifier (req : Request) (fresh : String) : String :=
  (req.headers.first? requestIdField).getD fresh

/-- The request as it comes to the routes. -/
def Request.identified (req : Request) (fresh : String) : Request :=
  { req with headers := req.headers.addMissing requestIdField fresh }

theorem Request.announced?_identified (req : Request) (fresh : String) :
    (req.identified fresh).announced? = req.announced? := by
  have hne : "content-length" ≠ requestIdField := by decide
  unfold Request.announced? Request.identified
  rw [Headers.first?_addMissing hne]

/-- A response is another one with an identifier; one that has an identifier keeps its own. -/
structure Response.Identifies (id : String) (bare resp : Response) : Prop where
  status : resp.status = bare.status
  body : resp.body = bare.body
  kept : bare.headers.has requestIdField = true → resp.headers = bare.headers
  added : bare.headers.has requestIdField = false →
    Headers.Inserted (requestIdField, id) bare.headers resp.headers

namespace Response.Identifies

variable {id : String} {bare resp : Response}

theorem addMissing (id : String) (resp : Response) :
    Identifies id resp { resp with headers := resp.headers.addMissing requestIdField id } where
  status := rfl
  body := rfl
  kept h := if_pos h
  added h := by
    have he : resp.headers.addMissing requestIdField id =
        resp.headers ++ [(requestIdField, id)] := if_neg (by rw [h]; exact Bool.false_ne_true)
    rw [he]
    exact ⟨resp.headers, [], by simp, rfl⟩

theorem withField (h : Identifies id bare resp) {name : String} (hn : name ≠ requestIdField)
    (value : String) :
    Identifies id { bare with headers := bare.headers.addMissing name value }
      { resp with headers := resp.headers.addMissing name value } where
  status := h.status
  body := h.body
  kept hb := by
    rw [Headers.has_addMissing hn.symm] at hb
    show resp.headers.addMissing name value = bare.headers.addMissing name value
    rw [h.kept hb]
  added hb := by
    rw [Headers.has_addMissing hn.symm] at hb
    exact (h.added hb).addMissing hn value

theorem withBody (h : Identifies id bare resp) (body : String) :
    Identifies id { bare with body } { resp with body } :=
  ⟨h.status, rfl, h.kept, h.added⟩

/-- Completing a response looks at its status and at its body only. -/
theorem complete (h : Identifies id bare resp) (method : Method) (allow : Option String) :
    Identifies id (Found.complete method allow bare) (Found.complete method allow resp) := by
  have hsuccess : resp.isSuccess = bare.isSuccess := by
    unfold Response.isSuccess
    rw [h.status]
  have hallow : "allow" ≠ requestIdField := by decide
  have hlength : "content-length" ≠ requestIdField := by decide
  unfold Found.complete
  rw [hsuccess]
  split
  · exact h.withBody ""
  · rw [h.body]
    cases allow with
    | none => exact (h.withField hlength _).withBody _
    | some methods => exact ((h.withField hallow methods).withField hlength _).withBody _

theorem finish (h : Identifies id bare resp) (found : Found) (req : Request) :
    Identifies id (found.finish req bare) (found.finish req resp) := by
  cases found with
  | route endpoint params allow => exact h.complete req.method allow
  | noRoute => exact h
  | noPath => exact h.complete req.method none

end Response.Identifies

/-- A body that is as long as was announced is handed on as it would be without the limit. -/
theorem Found.run_min (found : Found) {announced : Nat} {req : Request}
    (h : req.body.length ≤ announced) :
    found.run (min handlerBodyLimit announced) req = found.run handlerBodyLimit req := by
  have hiff : req.body.length ≤ min handlerBodyLimit announced ↔
      req.body.length ≤ handlerBodyLimit := by omega
  cases found with
  | route endpoint params allow => simp only [Found.run, hiff]
  | noRoute => rfl
  | noPath => rfl

/-- Within its limits a request is answered by what the table has for it. -/
theorem serveWithin_eq {s : Settings} {found : Found} {req : Request}
    (hbody : req.body.length ≤ s.security.maxBodySize.toNat)
    (hlength : ∀ n, req.announced? = some n →
      req.body.length ≤ n ∧ n ≤ s.security.maxBodySize.toNat)
    (hwait : (found.run handlerBodyLimit req).waits < s.timeouts.millis) :
    serveWithin s found req = ⟨(found.run handlerBodyLimit req).response, true⟩ := by
  have hannounced : req.body.length ≤ req.announced?.getD s.security.maxBodySize.toNat ∧
      req.announced?.getD s.security.maxBodySize.toNat ≤ s.security.maxBodySize.toNat := by
    cases ha : req.announced? with
    | none => exact ⟨hbody, Nat.le_refl _⟩
    | some n => exact hlength n ha
  unfold serveWithin
  simp only [found.run_min hannounced.1]
  rw [if_neg (Nat.not_lt.mpr hannounced.2), if_neg (Nat.not_le.mpr hwait)]

/-- A handler that does not read the identifier of a request. -/
def Endpoint.Heedless (e : Endpoint) : Prop :=
  ∀ (call : Call) (id : String),
    e { call with headers := call.headers ++ [(requestIdField, id)] } = e call

/-- What serves a request by a route, if anything does. -/
def Router.handler? (r : Router Endpoint) (req : Request) : Option Endpoint :=
  (r.find? req.uri.path).bind fun m => m.route.endpoints.find? req.method

theorem Router.lookup_cases (r : Router Endpoint) (req : Request) :
    r.lookup req = .noRoute ∨ r.lookup req = .noPath ∨
      (∃ e params, r.handler? req = some e ∧ r.lookup req = .route e params none) ∨
      ∃ params allow, r.lookup req = .route methodNotAllowed params allow := by
  unfold Router.lookup Router.handler?
  split
  · exact .inr (.inl rfl)
  · cases hf : r.find? req.uri.path with
    | none => exact .inl rfl
    | some m =>
      dsimp only [Option.bind_some]
      cases m.route.endpoints.find? req.method with
      | none => exact .inr (.inr (.inr ⟨_, _, rfl⟩))
      | some e => exact .inr (.inr (.inl ⟨e, _, rfl, rfl⟩))

theorem Router.run_identified {r : Router Endpoint} {req : Request}
    (h : ∀ e, r.handler? req = some e → e.Heedless) (limit : Nat) (fresh : String) :
    (r.lookup req).run limit (req.identified fresh) = (r.lookup req).run limit req := by
  unfold Request.identified Headers.addMissing
  split
  · rfl
  · rcases r.lookup_cases req with hl | hl | ⟨e, params, he, hl⟩ | ⟨params, allow, hl⟩
    · rw [hl]
      rfl
    · rw [hl]
      rfl
    · rw [hl]
      exact h e he ⟨req.method, req.uri, req.headers, params, _⟩ fresh
    · rw [hl]
      rfl

theorem Router.answer_identified {r : Router Endpoint} {req : Request} (fresh : String)
    (h : req.headers.has requestIdField = true ∨ ∀ e, r.handler? req = some e → e.Heedless) :
    r.answer (req.identified fresh) = r.answer req := by
  rcases h with h | h
  · have he : req.identified fresh = req := by
      unfold Request.identified Headers.addMissing
      rw [if_pos h]
    rw [he]
  · have hrun := run_identified h handlerBodyLimit fresh
    show (r.lookup req).finish req ((r.lookup req).run handlerBodyLimit (req.identified fresh)).response =
      r.answer req
    rw [hrun]
    rfl

/-- What the layers make of a request before its identifier is added and its answer completed. -/
def Router.within (r : Router Endpoint) (s : Settings) (fresh : String) (req : Request) : Served :=
  serveWithin s (r.lookup req) (req.identified fresh)

/-- The identifier is added last, and then the answer is completed. -/
theorem Router.serve_eq (r : Router Endpoint) (s : Settings) (fresh : String) (req : Request) :
    r.serve s fresh req =
      { r.within s fresh req with
        response := (r.lookup req).finish (req.identified fresh)
          { (r.within s fresh req).response with
            headers := (r.within s fresh req).response.headers.addMissing requestIdField
              (req.identifier fresh) } } := rfl

/-- What the layers within the identifiers leave gets the identifier before it is completed. -/
theorem Router.serve_identifies {r : Router Endpoint} {s : Settings} {fresh : String} {req : Request}
    {resp : Response} {fromRoutes : Bool}
    (h : r.within s fresh req = ⟨resp, fromRoutes⟩) :
    Response.Identifies (req.identifier fresh) ((r.lookup req).finish (req.identified fresh) resp)
      (r.serve s fresh req).response := by
  rw [serve_eq, h]
  -- Completing comes last, and it reads nothing of the identifier.
  exact (Response.Identifies.addMissing (req.identifier fresh) resp).finish _ _

/-- A request whose body and announced length are within the limit, and whose handler answers in
time, is answered through the layers as by the bare table, with the identifier of the request added
and nothing else changed. A handler that reads the identifier is asked the same question on both
sides: the bare table gets the request with it. -/
theorem serve_adds_identifier (app : Application) (s : Settings) (fresh : String) (req : Request)
    (hbody : req.body.length ≤ s.security.maxBodySize.toNat)
    (hlength : ∀ n, req.announced? = some n →
      req.body.length ≤ n ∧ n ≤ s.security.maxBodySize.toNat)
    (hwait : ((app.router.lookup req).run handlerBodyLimit (req.identified fresh)).waits <
      s.timeouts.millis) :
    Response.Identifies (req.identifier fresh) (app.router.answer (req.identified fresh))
      (app.router.serve s fresh req).response ∧
    (req.headers.has requestIdField = true ∨
        (∀ e, app.router.handler? req = some e → e.Heedless) →
      Response.Identifies (req.identifier fresh) (app.router.answer req)
        (app.router.serve s fresh req).response) := by
  have hlength' : ∀ n, (req.identified fresh).announced? = some n →
      req.body.length ≤ n ∧ n ≤ s.security.maxBodySize.toNat := by
    intro n hn
    rw [Request.announced?_identified] at hn
    exact hlength n hn
  have hwithin : serveWithin s (app.router.lookup req) (req.identified fresh) =
      ⟨((app.router.lookup req).run handlerBodyLimit (req.identified fresh)).response, true⟩ :=
    serveWithin_eq hbody hlength' hwait
  have hserve : Response.Identifies (req.identifier fresh)
      (app.router.answer (req.identified fresh)) (app.router.serve s fresh req).response :=
    Router.serve_identifies hwithin
  refine ⟨hserve, fun h => ?_⟩
  rw [← Router.answer_identified fresh h]
  exact hserve

/-- A blueprint that repeats the text of a body. -/
def echo : Blueprint := .single "echo" (.literal "/echo") (.single (.only .post) Endpoint.echo)

def echoing : Application := Application.new.withBlueprint echo (Application.new.router.beside echo.router)

/-- A body of one byte, which is no text. -/
def oneByte : Request := ⟨.post, { path := "/echo" }, [("content-length", "1")], [0xff]⟩

/-- The byte is refused by the reader of texts, with the identifier and without it. -/
theorem one_byte_refused_with_identifier :
    oneByte.body.length ≤ ({} : Settings).security.maxBodySize.toNat ∧
      oneByte.announced? = some 1 ∧ echoing.router.handler? oneByte = some Endpoint.echo ∧
      (echoing.router.answer oneByte).status = 400 ∧
      (echoing.router.serve {} "7" oneByte).response.status = 400 ∧
      (echoing.router.serve {} "7" oneByte).response.body = (echoing.router.answer oneByte).body ∧
      Headers.Inserted ("x-request-id", "7") (echoing.router.answer oneByte).headers
        (echoing.router.serve {} "7" oneByte).response.headers := by
  have hbody : oneByte.body.length ≤ ({} : Settings).security.maxBodySize.toNat := by decide
  have hannounced : oneByte.announced? = some 1 := rfl
  have hhandler : echoing.router.handler? oneByte = some Endpoint.echo := rfl
  have hstatus : (echoing.router.answer oneByte).status = 400 := by decide +kernel
  have hbare : (echoing.router.answer oneByte).headers.has requestIdField = false := by
    decide +kernel
  have hlength : ∀ n, oneByte.announced? = some n →
      oneByte.body.length ≤ n ∧ n ≤ ({} : Settings).security.maxBodySize.toNat := by
    intro n hn
    obtain rfl := Option.some.inj (hannounced.symm.trans hn)
    decide
  have hwait : ((echoing.router.lookup oneByte).run handlerBodyLimit
      (oneByte.identified "7")).waits < ({} : Settings).timeouts.millis := by decide
  have hheedless : ∀ e, echoing.router.handler? oneByte = some e → e.Heedless := by
    intro e he
    obtain rfl := Option.some.inj (hhandler.symm.trans he)
    exact fun call id => rfl
  have hserve := (serve_adds_identifier echoing {} "7" oneByte hbody hlength hwait).2 (.inr hheedless)
  exact ⟨hbody, hannounced, hhandler, hstatus, hserve.status.trans hstatus, hserve.body,
    hserve.added hbare⟩

/-- A response is another one with an identifier among its fields, and is the same in all else. -/
def Response.OnlyAdds (bare resp : Response) : Prop :=
  resp.status = bare.status ∧ resp.body = bare.body ∧
    ∃ id, Headers.Inserted (requestIdField, id) bare.headers resp.headers

/-- A request is within the sizes and within the seconds that settings name. -/
structure Router.Moderate (r : Router Endpoint) (s : Settings) (fresh : String) (req : Request) :
    Prop where
  secs : 1 ≤ s.timeouts.requestSecs.toNat
  body : req.body.length ≤ s.security.maxBodySize.toNat
  length : ∀ n, req.announced? = some n →
    req.body.length ≤ n ∧ n ≤ s.security.maxBodySize.toNat
  waits : ((r.lookup req).run handlerBodyLimit (req.identified fresh)).waits <
    s.timeouts.requestSecs.toNat * 1000

/-- A view of the identifier of the request, one that sets an identifier of its own, and one that
takes more than thirty years. -/
def tracing : Blueprint where
  name := "tracing"
  paths := ["/id", "/own", "/late"]
  router := ⟨[
    .literal "/id" (.single (.only .get) fun call =>
      .now (.plain 200 ((call.headers.first? requestIdField).getD ""))),
    .literal "/own" (.single (.only .get) fun _ =>
      .now { headers := [(requestIdField, "own")] }),
    .literal "/late" (.single (.only .get) (Endpoint.delayed 1000000000000000 "late"))]⟩

def traced : Application :=
  Application.new.withBlueprint tracing (Application.new.router.beside tracing.router)

theorem assembled_traced : Application.Assembled [tracing] traced := by
  have hlist : Blueprint.ofList "tracing" ()
      [⟨"/id", .only .get, fun _ call =>
          .now (.plain 200 ((call.headers.first? requestIdField).getD ""))⟩,
        ⟨"/own", .only .get, fun _ _ => .now { headers := [(requestIdField, "own")] }⟩,
        ⟨"/late", .only .get, fun _ => Endpoint.delayed 1000000000000000 "late"⟩] = .ok tracing := rfl
  have hr : Application.new.register tracing =
      .ok (traced, [Application.registered "tracing"]) := rfl
  exact Application.Assembled.new.register (Blueprint.built_of_ofList hlist) hr

/-- As many seconds as settings can name. -/
def patient : Settings := { timeouts := { requestSecs := 18446744073709551615 } }

def fetch (path : String) : Request := ⟨.get, { path }, [], []⟩

theorem moderate_fetch : ∀ path ∈ ["/id", "/own", "/late"],
    traced.router.Moderate patient "7" (fetch path) := by
  have hwaits : ∀ path ∈ ["/id", "/own", "/late"],
      ((traced.router.lookup (fetch path)).run handlerBodyLimit
        ((fetch path).identified "7")).waits < patient.timeouts.requestSecs.toNat * 1000 := by
    decide +kernel
  intro path hpath
  have hnone : (fetch path).announced? = none := rfl
  have hlength : ∀ n, (fetch path).announced? = some n →
      (fetch path).body.length ≤ n ∧ n ≤ patient.security.maxBodySize.toNat := by
    intro n hn
    rw [hnone] at hn
    cases hn
  exact ⟨by decide, Nat.zero_le _, hlength, hwaits path hpath⟩

/-- The layers show handlers an identifier, leave one alone that a handler has set, and do not wait
for as long as settings can say. -/
theorem answers_changed_beyond_identifier :
    Application.Assembled [tracing] traced ∧
      (∀ path ∈ ["/id", "/own", "/late"],
        traced.router.Moderate patient "7" (fetch path) ∧
        ¬ Response.OnlyAdds (traced.router.answer (fetch path))
            (traced.router.serve patient "7" (fetch path)).response) ∧
      ((traced.router.answer (fetch "/id")).body = "" ∧
        (traced.router.serve patient "7" (fetch "/id")).response.body = "7") ∧
      (traced.router.serve patient "7" (fetch "/own")).response =
        traced.router.answer (fetch "/own") ∧
      (traced.router.answer (fetch "/late")).status = 200 ∧
      (traced.router.serve patient "7" (fetch "/late")).response.status = 408 := by
  have hid : (traced.router.answer (fetch "/id")).body = "" ∧
      (traced.router.serve patient "7" (fetch "/id")).response.body = "7" := by decide +kernel
  have hown : (traced.router.serve patient "7" (fetch "/own")).response =
      traced.router.answer (fetch "/own") := by decide +kernel
  have hlate : (traced.router.answer (fetch "/late")).status = 200 ∧
      (traced.router.serve patient "7" (fetch "/late")).response.status = 408 := by decide +kernel
  refine ⟨assembled_traced, fun path hpath => ⟨moderate_fetch path hpath, fun h => ?_⟩, hid, hown,
    hlate⟩
  obtain ⟨hstatus, hbody, id, hadded⟩ := h
  have hcases : path = "/id" ∨ path = "/own" ∨ path = "/late" := by simpa using hpath
  rcases hcases with rfl | rfl | rfl
  · rw [hid.1, hid.2] at hbody
    exact absurd hbody (by decide)
  · have hlength := hadded.length_eq
    rw [hown] at hlength
    omega
  · rw [hlate.1, hlate.2] at hstatus
    cases hstatus

end DevServer.Http
