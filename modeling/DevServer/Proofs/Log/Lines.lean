import DevServer.Log.Line
import DevServer.Proofs.Text.Lines

/-!
# Events on one line

An event in JSON has one line, whatever it carries. In the pretty form it has one exactly if it is
contained: if no part of it that is written as it is has a line end. What is quoted does not count.
-/
namespace DevServer.Log

set_option autoImplicit false

open Text (Unbroken unbroken_append unbroken_intercalate unbroken_natural)

theorem FieldValue.unbroken_json (v : FieldValue) : Unbroken v.json := by
  cases v with
  | text s => exact Text.Json.unbroken_quote s
  | shown s => exact Text.Json.unbroken_quote s
  | natural n => exact unbroken_natural n
  | truth b => cases b <;> decide

theorem FieldValue.unbroken_pretty_iff {v : FieldValue} :
    Unbroken v.pretty ↔ ∀ s, v = .shown s → Unbroken s := by
  cases v with
  | text s => exact iff_of_true (Text.Quoted.unbroken_quote s) nofun
  | shown s => exact ⟨fun h t ht => FieldValue.shown.inj ht ▸ h, fun h => h s rfl⟩
  | natural n => exact iff_of_true (unbroken_natural n) nofun
  | truth b => exact iff_of_true (by cases b <;> decide) nofun

/-- Neither the name of a field nor what it shows has a line end. -/
def ContainedField (f : String × FieldValue) : Prop :=
  Unbroken f.1 ∧ ∀ s, f.2 = .shown s → Unbroken s

theorem ContainedField.shown {name s : String} (hname : Unbroken name) (hs : Unbroken s) :
    ContainedField (name, .shown s) := ⟨hname, fun _ ht => FieldValue.shown.inj ht ▸ hs⟩

theorem ContainedField.text {name : String} (hname : Unbroken name) (s : String) :
    ContainedField (name, .text s) := ⟨hname, nofun⟩

theorem ContainedField.natural {name : String} (hname : Unbroken name) (n : Nat) :
    ContainedField (name, .natural n) := ⟨hname, nofun⟩

theorem ContainedField.truth {name : String} (hname : Unbroken name) (b : Bool) :
    ContainedField (name, .truth b) := ⟨hname, nofun⟩

namespace Event

/-- Nothing that is written as it is has a line end. -/
structure Contained (e : Event) : Prop where
  target : Unbroken e.target
  message : Unbroken e.message
  fields : ∀ f ∈ e.fields, ContainedField f

theorem contained_mk {level : Level} {target message : String} {fields : List (String × FieldValue)}
    (htarget : Unbroken target) (hmessage : Unbroken message)
    (hfields : ∀ f ∈ fields, ContainedField f) : Contained { level, target, message, fields } :=
  ⟨htarget, hmessage, hfields⟩

/-- An event that shows one text is as contained as that text. -/
theorem contained_shown_iff {level : Level} {target message name s : String}
    (htarget : Unbroken target) (hmessage : Unbroken message) (hname : Unbroken name) :
    Contained { level, target, message, fields := [(name, .shown s)] } ↔ Unbroken s := by
  constructor
  · intro h
    exact (h.fields _ (List.mem_singleton_self _)).2 s rfl
  · intro h
    exact contained_mk htarget hmessage (List.forall_mem_singleton.mpr (.shown hname h))

variable {e : Event} {time : String}

theorem unbroken_json (time : String) (e : Event) : Unbroken (e.json time) := by
  have hfields : ∀ m ∈ ("message", Text.Json.quote e.message) ::
      e.fields.map (fun f => (f.1, f.2.json)), Unbroken m.2 := by
    rw [List.forall_mem_cons]
    exact ⟨Text.Json.unbroken_quote e.message,
      List.forall_mem_map.mpr fun f _ => f.2.unbroken_json⟩
  refine Text.Json.unbroken_object ?_
  simp only [List.forall_mem_cons]
  exact ⟨Text.Json.unbroken_quote time, Text.Json.unbroken_quote e.level.name,
    Text.Json.unbroken_object hfields, Text.Json.unbroken_quote e.target, nofun⟩

theorem unbroken_padded (l : Level) : Unbroken l.padded := by
  cases l <;> decide

theorem unbroken_pretty_iff (htime : Unbroken time) : Unbroken (e.pretty time) ↔ e.Contained := by
  have hblank : Unbroken " " := by decide
  have hcolon : Unbroken ": " := by decide
  have hequals : Unbroken "=" := by decide
  unfold pretty
  simp only [unbroken_append, unbroken_intercalate hblank, List.forall_mem_cons,
    List.forall_mem_map, FieldValue.unbroken_pretty_iff, unbroken_padded, htime, hblank, hcolon,
    hequals, true_and, and_true]
  constructor
  · intro h
    exact ⟨h.1, h.2.1, h.2.2⟩
  · intro h
    exact ⟨h.target, h.message, h.fields⟩

/-- A contained event has one line in either form. -/
theorem Contained.unbroken_render (h : e.Contained) (htime : Unbroken time) (format : LogFormat) :
    Unbroken (e.render format time) := by
  cases format with
  | pretty => exact (unbroken_pretty_iff htime).mpr h
  | json => exact unbroken_json time e

end Event
end DevServer.Log
