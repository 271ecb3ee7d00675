import DevServer.Http.Metrics
import DevServer.Proofs.Layers.Limits

/-!
# Every answer has one identifier

The identifier is added outside of everything that can answer: handlers, readers of bodies, the
answers where nothing is served, and the limits. So it is there once whoever has answered, provided
that handlers do not set it. That drawn bytes differ from request to request is not claimed.
-/
namespace DevServer.Http

set_option autoImplicit false

namespace Uuid

/-- A character that a place of the usual form may have: `x` and `y` stand for digits. -/
def fits (place c : Char) : Bool :=
  if place = 'x' then "0123456789abcdef".toList.contains c
  else if place = 'y' then "89ab".toList.contains c
  else c = place

/-- A text in the form of version 4. -/
def IsVersion4 (text : String) : Prop :=
  List.Forall₂ (fun place c => fits place c = true)
    "xxxxxxxx-xxxx-4xxx-yxxx-xxxxxxxxxxxx".toList text.toList

theorem fits_digit {n : Nat} (h : n < 16) : fits 'x' n.digitChar = true := by
  have hall : ∀ n < 16, fits 'x' n.digitChar = true := by decide
  exact hall n h

theorem fits_variant {n : Nat} (h : 8 ≤ n) (h' : n < 12) : fits 'y' n.digitChar = true := by
  have hall : ∀ n < 12, 8 ≤ n → fits 'y' n.digitChar = true := by decide
  exact hall n h' h

theorem high_lt (b : UInt8) : b.toNat / 16 < 16 := by
  have hb := b.toNat_lt
  omega

theorem byte_version (drawn : Fin 16 → UInt8) : ((ofDrawn drawn).byte 6).toNat / 16 = 4 := by
  have h : ((ofDrawn drawn).byte 6).toNat = (0x40 + (drawn 6).toNat % 0x10) % 256 :=
    UInt8.toNat_ofNat'
  omega

theorem byte_variant (drawn : Fin 16 → UInt8) :
    8 ≤ ((ofDrawn drawn).byte 8).toNat / 16 ∧ ((ofDrawn drawn).byte 8).toNat / 16 < 12 := by
  have h : ((ofDrawn drawn).byte 8).toNat = (0x80 + (drawn 8).toNat % 0x40) % 256 :=
    UInt8.toNat_ofNat'
  omega

/-- The digits of a byte. -/
def digits (b : UInt8) : List Char := [(b.toNat / 16).digitChar, (b.toNat % 16).digitChar]

theorem toList_text (u : Uuid) : u.text.toList =
    digits (u.byte 0) ++ digits (u.byte 1) ++ digits (u.byte 2) ++ digits (u.byte 3) ++ '-' ::
      digits (u.byte 4) ++ digits (u.byte 5) ++ '-' :: digits (u.byte 6) ++ digits (u.byte 7) ++
      '-' :: digits (u.byte 8) ++ digits (u.byte 9) ++ '-' :: digits (u.byte 10) ++
      digits (u.byte 11) ++ digits (u.byte 12) ++ digits (u.byte 13) ++ digits (u.byte 14) ++
      digits (u.byte 15) := by
  simp [text, List.finRange, groupStarts, Text.Json.hexByte, digits, String.join]

theorem isVersion4_text (drawn : Fin 16 → UInt8) : IsVersion4 (ofDrawn drawn).text := by
  obtain ⟨hlow, hhigh⟩ := byte_variant drawn
  have hx : ∀ b : UInt8, fits 'x' (b.toNat / 16).digitChar = true := fun b => fits_digit (high_lt b)
  have hx' : ∀ b : UInt8, fits 'x' (b.toNat % 16).digitChar = true :=
    fun b => fits_digit (Nat.mod_lt _ (by decide))
  have hversion : fits '4' (((ofDrawn drawn).byte 6).toNat / 16).digitChar = true := by
    rw [byte_version]
    decide
  have hvariant := fits_variant hlow hhigh
  have hdash : fits '-' '-' = true := by decide
  unfold IsVersion4
  rw [toList_text]
  simp [digits, hx, hx', hversion, hvariant, hdash]

end Uuid

namespace Headers

/-- All values of a field, in their order. -/
def values (hs : Headers) (name : String) : List String :=
  (hs.filter fun h => h.1 = name).map Prod.snd

theorem values_eq_nil {hs : Headers} {name : String} (h : hs.has name = false) :
    hs.values name = [] := by
  unfold has first? at h
  induction hs with
  | nil => rfl
  | cons f hs ih =>
    rw [List.lookup_cons] at h
    by_cases hf : f.1 = name
    · rw [hf, beq_self_eq_true] at h
      cases h
    · have hb : (name == f.1) = false := by simpa using fun he => hf he.symm
      rw [hb] at h
      have hrest := ih h
      unfold values at hrest ⊢
      rw [List.filter_cons_of_neg (by simpa using hf)]
      exact hrest

theorem values_append (hs : Headers) (f : String × String) (name : String) :
    (hs ++ [f]).values name = hs.values name ++ if f.1 = name then [f.2] else [] := by
  unfold values
  rw [List.filter_append, List.map_append]
  by_cases hf : f.1 = name <;> simp [hf]

/-- A field that is missing is there once when it has been added. -/
theorem values_addMissing {hs : Headers} {name : String} (h : hs.has name = false)
    (value : String) : (hs.addMissing name value).values name = [value] := by
  unfold addMissing
  rw [h, if_neg Bool.false_ne_true, values_append, values_eq_nil h, if_pos rfl]
  rfl

theorem values_addMissing_of_ne (hs : Headers) {name other : String} (hn : name ≠ other)
    (value : String) : (hs.addMissing name value).values other = hs.values other := by
  unfold addMissing
  split
  · rfl
  · rw [values_append, if_neg hn, List.append_nil]

end Headers

/-- Completing an answer adds no identifier and takes none away. -/
theorem Found.values_complete (method : Method) (allow : Option String) (resp : Response) :
    (Found.complete method allow resp).headers.values requestIdField =
      resp.headers.values requestIdField := by
  have hlength : "content-length" ≠ requestIdField := by decide
  have hallow : "allow" ≠ requestIdField := by decide
  unfold Found.complete
  split
  · rfl
  · cases allow with
    | none => exact Headers.values_addMissing_of_ne _ hlength _
    | some methods =>
      exact (Headers.values_addMissing_of_ne _ hlength _).trans
        (Headers.values_addMissing_of_ne _ hallow _)

theorem Found.values_finish (found : Found) (req : Request) (resp : Response) :
    (found.finish req resp).headers.values requestIdField =
      resp.headers.values requestIdField := by
  cases found with
  | route endpoint params allow => exact values_complete req.method allow resp
  | noRoute => rfl
  | noPath => exact values_complete req.method none resp

/-- A handler that does not set the identifier itself. -/
def Endpoint.Unmarked (e : Endpoint) : Prop :=
  ∀ call, (e call).response.headers.has requestIdField = false

theorem Endpoint.Unmarked.reading {f : List UInt8 → Endpoint} (h : ∀ bytes, (f bytes).Unmarked) :
    (Endpoint.reading f).Unmarked := by
  intro call
  unfold Endpoint.reading
  cases call.body with
  | none => rfl
  | some bytes => exact h bytes call

namespace Router

variable {r : Router Endpoint} {s : Settings} {fresh : String} {req : Request}

theorem outcome_unmarked (h : ∀ e, r.handler? req = some e → e.Unmarked) :
    (r.outcome s fresh req).response.headers.has requestIdField = false := by
  rcases r.lookup_cases req with hl | hl | ⟨e, params, he, hl⟩ | ⟨params, allow, hl⟩
  · unfold outcome
    rw [hl]
    rfl
  · unfold outcome
    rw [hl]
    rfl
  · rw [outcome_route hl]
    exact h e he _
  · rw [outcome_route hl]
    rfl

/-- Nothing within the identifiers sets one, whichever way a request ends. -/
theorem within_unmarked (h : ∀ e, r.handler? req = some e → e.Unmarked) :
    (r.within s fresh req).response.headers.has requestIdField = false := by
  rw [within_cases]
  split
  · rfl
  · split
    · rfl
    · exact outcome_unmarked h

theorem values_serve (h : ∀ e, r.handler? req = some e → e.Unmarked) :
    (r.serve s fresh req).response.headers.values requestIdField = [req.identifier fresh] := by
  rw [serve_eq, Found.values_finish]
  exact Headers.values_addMissing (within_unmarked h) _

end Router

/-- Every answer has exactly one identifier, whether it comes from a handler, from where nothing is
served, from a reader of bodies or from a limit: the first one of the request as it was sent, or
the text of the bytes that were drawn for it. -/
theorem one_identifier (app : Application) (s : Settings) (a : Arrival)
    (h : ∀ e, app.router.handler? a.request = some e → e.Unmarked) :
    ∃ id, (app.router.receive s a).response.headers.values "x-request-id" = [id] ∧
      (∀ sent, a.request.headers.first? "x-request-id" = some sent → id = sent) ∧
      (a.request.headers.first? "x-request-id" = none →
        id = (Uuid.ofDrawn a.drawn).text ∧ Uuid.IsVersion4 id) := by
  have hid : ∀ first, a.request.headers.first? "x-request-id" = first →
      a.request.identifier a.fresh = first.getD a.fresh := by
    rintro first rfl
    rfl
  refine ⟨a.request.identifier a.fresh, Router.values_serve h, fun sent hs => hid _ hs, ?_⟩
  intro hn
  rw [hid none hn, Option.getD_none, Arrival.fresh]
  exact ⟨rfl, Uuid.isVersion4_text a.drawn⟩

theorem unmarked_echo : Endpoint.echo.Unmarked := by
  rw [Endpoint.echo_eq]
  refine .reading fun bytes call => ?_
  unfold Endpoint.decoding
  cases Text.Utf8.decode bytes <;> rfl

/-- A body that is longer than announced, with two identifiers of which the first is empty. -/
def marked : Request := { understated with
  headers := [("x-request-id", ""), ("content-length", "1"), ("x-request-id", "second")] }

theorem empty_identifier_and_drawn_one :
    busy.router.handler? marked = some Endpoint.echo ∧
      (busy.router.receive {} ⟨marked, fun _ => 0⟩).response.headers.values "x-request-id" = [""] ∧
      (∀ e, busy.router.handler? overstated = some e → e.Unmarked) ∧
      ∃ id, (busy.router.receive {} ⟨overstated, fun _ => 0⟩).response.headers.values
        "x-request-id" = [id] ∧ Uuid.IsVersion4 id := by
  have hmarked : busy.router.handler? marked = some Endpoint.echo := rfl
  have hover : busy.router.handler? overstated = none := rfl
  have hunmarked : ∀ e, busy.router.handler? marked = some e → e.Unmarked := by
    intro e he
    obtain rfl := Option.some.inj (hmarked.symm.trans he)
    exact unmarked_echo
  have hnothing : ∀ e, busy.router.handler? overstated = some e → e.Unmarked := by
    intro e he
    cases hover.symm.trans he
  obtain ⟨sent, hsent, hfirst, _⟩ := one_identifier busy {} ⟨marked, fun _ => 0⟩ hunmarked
  obtain ⟨id, hid, _, hversion⟩ := one_identifier busy {} ⟨overstated, fun _ => 0⟩ hnothing
  refine ⟨hmarked, ?_, hnothing, id, hid, (hversion rfl).2⟩
  rw [hsent, hfirst "" rfl]

end DevServer.Http
