import DevServer.Proofs.Layers.Transparency
import DevServer.Proofs.Routes.Fixed

/-!
# The three ends of a request

Within the identifiers a request is refused for the length that it announces, or given up for the
time that its answer takes, or answered by what the table has for it. The announced length comes
first, whatever the table has; the time counts from what the routes make of the part of the body
that is let through. What the routes themselves answer is left open here.
-/
namespace DevServer.Http

set_option autoImplicit false

namespace Request

/-- A request announces more than the settings allow. -/
def refused (s : Settings) (req : Request) : Bool :=
  req.announced?.any fun n => s.security.maxBodySize.toNat < n

/-- As much of a body as is let through: what is allowed, or what is announced if that is less. -/
def allowance (s : Settings) (req : Request) : Nat :=
  match req.announced? with
  | none => s.security.maxBodySize.toNat
  | some n => min s.security.maxBodySize.toNat n

/-- The length that counts is the announced one, or the limit itself. -/
theorem refused_iff {s : Settings} {req : Request} :
    req.refused s = true ↔
      s.security.maxBodySize.toNat < req.announced?.getD s.security.maxBodySize.toNat := by
  unfold refused
  cases req.announced? <;> simp

theorem not_refused_iff {s : Settings} {req : Request} :
    req.refused s = false ↔ ∀ n, req.announced? = some n → n ≤ s.security.maxBodySize.toNat := by
  unfold refused
  cases req.announced? <;> simp

theorem refused_identified (s : Settings) (req : Request) (fresh : String) :
    (req.identified fresh).refused s = req.refused s := by
  unfold refused
  rw [announced?_identified]

theorem allowance_identified (s : Settings) (req : Request) (fresh : String) :
    (req.identified fresh).allowance s = req.allowance s := by
  unfold allowance
  rw [announced?_identified]

/-- A request that is not refused is let through as far as it announces. -/
theorem getD_announced {s : Settings} {req : Request} (h : req.refused s = false) :
    req.announced?.getD s.security.maxBodySize.toNat = req.allowance s := by
  have hle := not_refused_iff.mp h
  unfold allowance
  cases ha : req.announced? with
  | none => rfl
  | some n =>
    have hn := hle n ha
    show n = min s.security.maxBodySize.toNat n
    omega

theorem allowance_le (s : Settings) (req : Request) :
    req.allowance s ≤ s.security.maxBodySize.toNat := by
  unfold allowance
  cases req.announced? with
  | none => exact Nat.le_refl _
  | some n => exact Nat.min_le_left _ _

end Request

/-- What the table has for a request makes of it, with as much of the body as is let through. -/
def Found.outcome (found : Found) (s : Settings) (req : Request) : Outcome :=
  found.run (min handlerBodyLimit (req.allowance s)) req

/-- The announced length is looked at before anything else, and the time before the answer. -/
theorem serveWithin_cases (s : Settings) (found : Found) (req : Request) :
    serveWithin s found req =
      if req.refused s then ⟨announcedTooLong, false⟩
      else if s.timeouts.millis ≤ (found.outcome s req).waits then ⟨timedOut, false⟩
      else ⟨(found.outcome s req).response, true⟩ := by
  unfold serveWithin
  dsimp only
  cases hr : req.refused s with
  | true =>
    have hlt := Request.refused_iff.mp hr
    rw [if_pos hlt, if_pos rfl]
  | false =>
    have hann := Request.getD_announced hr
    have hmax := req.allowance_le s
    rw [hann, if_neg (by omega), if_neg Bool.false_ne_true]
    rfl

namespace Router

variable {r : Router Endpoint} {s : Settings} {fresh : String} {req : Request}

/-- What the routes make of a request, which they see with its identifier. -/
def outcome (r : Router Endpoint) (s : Settings) (fresh : String) (req : Request) : Outcome :=
  (r.lookup req).outcome s (req.identified fresh)

theorem within_cases (r : Router Endpoint) (s : Settings) (fresh : String) (req : Request) :
    r.within s fresh req =
      if req.refused s then ⟨announcedTooLong, false⟩
      else if s.timeouts.millis ≤ (r.outcome s fresh req).waits then ⟨timedOut, false⟩
      else ⟨(r.outcome s fresh req).response, true⟩ := by
  rw [← req.refused_identified s fresh]
  exact serveWithin_cases s (r.lookup req) (req.identified fresh)

theorem fromRoutes_serve (r : Router Endpoint) (s : Settings) (fresh : String) (req : Request) :
    (r.serve s fresh req).fromRoutes = (r.within s fresh req).fromRoutes := rfl

theorem status_serve (r : Router Endpoint) (s : Settings) (fresh : String) (req : Request) :
    (r.serve s fresh req).response.status = (r.within s fresh req).response.status :=
  status_finish _ _ _

theorem serve_refused (h : req.refused s = true) :
    (r.serve s fresh req).fromRoutes = false ∧ (r.serve s fresh req).response.status = 413 := by
  rw [fromRoutes_serve, status_serve, within_cases, if_pos h]
  exact ⟨rfl, rfl⟩

theorem serve_givenUp (h : req.refused s = false)
    (hw : s.timeouts.millis ≤ (r.outcome s fresh req).waits) :
    (r.serve s fresh req).fromRoutes = false ∧ (r.serve s fresh req).response.status = 408 := by
  rw [fromRoutes_serve, status_serve, within_cases, if_neg (by rw [h]; decide), if_pos hw]
  exact ⟨rfl, rfl⟩

theorem within_answered (h : req.refused s = false)
    (hw : (r.outcome s fresh req).waits < s.timeouts.millis) :
    r.within s fresh req = ⟨(r.outcome s fresh req).response, true⟩ := by
  rw [within_cases, if_neg (by rw [h]; decide), if_neg (by omega)]

theorem serve_answered (h : req.refused s = false)
    (hw : (r.outcome s fresh req).waits < s.timeouts.millis) :
    (r.serve s fresh req).fromRoutes = true ∧
      (r.serve s fresh req).response.status = (r.outcome s fresh req).response.status := by
  rw [fromRoutes_serve, status_serve, within_answered h hw]
  exact ⟨rfl, rfl⟩

end Router
end DevServer.Http
