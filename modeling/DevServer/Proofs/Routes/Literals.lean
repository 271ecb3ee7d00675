import DevServer.Proofs.Routes.Tables

/-!
# Paths without parameters

A text without braces is the pattern of its own characters: it matches itself alone, and two of
them conflict only if they are the same text.
-/
namespace DevServer.Http

set_option autoImplicit false

/-- Text in which nothing is a brace. -/
def Plain (cs : List Char) : Prop := ∀ c ∈ cs, c ≠ '{' ∧ c ≠ '}'

instance (cs : List Char) : Decidable (Plain cs) :=
  List.decidableBAll (fun c => c ≠ '{' ∧ c ≠ '}') cs

theorem undouble_plain {cs : List Char} (h : Plain cs) :
    undouble cs = cs.map fun c => ⟨c, false⟩ := by
  induction cs with
  | nil => rfl
  | cons c cs ih =>
    obtain ⟨⟨hopen, hclose⟩, hcs⟩ := List.forall_mem_cons.mp h
    rw [undouble, ih hcs, List.map_cons]
    · rintro rest rfl
      exact absurd rfl hopen
    · rintro rest rfl
      exact absurd rfl hclose

theorem readTokens_plain {cs : List Char} (h : Plain cs) (params : Nat) :
    readTokens params .text (cs.map fun c => ⟨c, false⟩) = .ok (cs.map .literal) := by
  induction cs with
  | nil => rfl
  | cons c cs ih =>
    obtain ⟨⟨hopen, hclose⟩, hcs⟩ := List.forall_mem_cons.mp h
    rw [List.map_cons, readTokens, ih hcs]
    simp [hopen, hclose, Except.map]

namespace Pattern

theorem ofString_literal {text : String} (h : Plain text.toList) :
    ofString text = .ok (literal text) := by
  unfold ofString
  rw [undouble_plain h, readTokens_plain h]
  rfl

theorem restLast_literal (cs : List Char) : RestLast (cs.map .literal) := by
  induction cs with
  | nil => trivial
  | cons c cs ih => exact ih

theorem wellFormed_literal {text : String} (hc : Router.checkPath text = .ok ())
    (h : Plain text.toList) : (literal text).WellFormed :=
  ⟨hc, ofString_literal h, restLast_literal _⟩

theorem conflict_literal_iff {cs ds : List Char} :
    Conflict (cs.map .literal) (ds.map .literal) ↔ cs = ds := by
  constructor
  · intro h
    induction cs generalizing ds with
    | nil =>
      cases ds with
      | nil => rfl
      | cons d ds => cases h
    | cons c cs ih =>
      cases ds with
      | nil => cases h
      | cons d ds =>
        obtain ⟨hh, ht⟩ := Conflict.literal_right_iff.mp h
        obtain rfl : c = d := by simpa using hh
        rw [ih ht]
  · rintro rfl
    exact Conflict.refl _

end Pattern

end DevServer.Http
