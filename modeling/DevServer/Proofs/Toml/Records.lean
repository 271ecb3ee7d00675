import DevServer.Proofs.Toml.Distinct
import DevServer.Toml.Decode
import Mathlib.Data.List.Nodup
import Mathlib.Data.List.Pairwise

/-!
# Records are read field by field

A record has slots: a part of it, the reader of a field that writes this part and no other, and what
the reader makes of a node. Where each name stands once, reading gives the record whose slots are
what is written for their names and what they were before where nothing is, in whatever order the
entries come and whatever stands between them. An array is a table without names.
-/
namespace DevServer.Toml

set_option autoImplicit false

open Decoder (FieldReader fromEntries fromItems atKey ofTables)

theorem Decoder.atKey_eq_ok {α : Type} {key : Key} {node : Node} {x : Except Misfit α} {a : α} :
    atKey key node x = .ok a ↔ x = .ok a := by
  cases x <;> simp [atKey]

/-- What is written is read as the value, and where nothing is written it is the default. -/
def Holds {α : Type} (Reads : Node → α → Prop) (default : α) : Option Node → α → Prop
  | none, a => a = default
  | some node, a => Reads node a

/-- The nodes of a section by their names. In an array they stand in the order of `names`. -/
def Node.members (names : List String) : Node → Option (String → Option Node)
  | .inlineTable t => some t.find?
  | .table t => some t.find?
  | .array items _ => some fun name => items[names.idxOf name]?
  | .tables items => some fun name => (ofTables items)[names.idxOf name]?
  -- A date is a section in which nothing is written.
  | .scalar .instant _ => some fun _ => none
  | .scalar _ _ => none

/-- A part of a record that a reader reads. -/
structure Slot (σ : Type) where
  reader : FieldReader σ
  Value : Type
  get : σ → Value
  put : Value → σ → σ
  Reads : Node → Value → Prop
  get_put : ∀ v s, get (put v s) = v
  set_iff : ∀ {node : Node}, node.Clear → ∀ s s',
    reader.set node s = .ok s' ↔ ∃ v, Reads node v ∧ put v s = s'

namespace Slot

variable {σ : Type}

/-- The name under which it is written. -/
def name (p : Slot σ) : String := p.reader.name

/-- Neither of two slots writes to the other one. -/
def Apart (p q : Slot σ) : Prop :=
  (∀ v s, p.get (q.put v s) = p.get s) ∧ ∀ v s, q.get (p.put v s) = q.get s

end Slot

/-- The slots of a record, which are all of it. -/
structure Layout (σ : Type) where
  slots : List (Slot σ)
  namesOnce : (slots.map Slot.name).Nodup
  apart : slots.Pairwise Slot.Apart
  ext : ∀ s s', (∀ p ∈ slots, p.get s = p.get s') → s = s'

namespace Layout

variable {σ : Type} (L : Layout σ)

def readers : List (FieldReader σ) := L.slots.map Slot.reader

def names : List String := L.slots.map Slot.name

/-- Every slot of the second record holds what is written for its name, or what it holds in the
first one. -/
def Describes (find : String → Option Node) (s s' : σ) : Prop :=
  ∀ p ∈ L.slots, Holds p.Reads (p.get s) (find p.name) (p.get s')

variable {L} {p q : Slot σ} {s s' : σ}

theorem eq_of_name (hp : p ∈ L.slots) (hq : q ∈ L.slots) (h : p.name = q.name) : p = q :=
  List.inj_on_of_nodup_map L.namesOnce hp hq h

theorem get_put_of_ne (hp : p ∈ L.slots) (hq : q ∈ L.slots) (hne : p ≠ q) (v : q.Value) (s : σ) :
    p.get (q.put v s) = p.get s := by
  have hsymm : Std.Symm (Slot.Apart (σ := σ)) := ⟨fun _ _ h => ⟨h.2, h.1⟩⟩
  exact (L.apart.forall hp hq hne).1 v s

theorem find?_readers (hp : p ∈ L.slots) :
    L.readers.find? (·.name = p.name) = some p.reader := by
  unfold readers
  rw [List.find?_map]
  cases hf : L.slots.find? ((fun f : FieldReader σ => decide (f.name = p.name)) ∘ Slot.reader) with
  | none => exact absurd (List.find?_eq_none.mp hf p hp) (by simp [Slot.name])
  | some q =>
    have hname : q.reader.name = p.name := by simpa using List.find?_some hf
    rw [eq_of_name (List.mem_of_find?_eq_some hf) hp hname]
    rfl

theorem mem_of_find?_readers {name : String} {f : FieldReader σ}
    (h : L.readers.find? (·.name = name) = some f) :
    ∃ p ∈ L.slots, p.reader = f ∧ p.name = name := by
  obtain ⟨p, hp, rfl⟩ := List.mem_map.mp (List.mem_of_find?_eq_some h)
  have hname : p.reader.name = name := by simpa using List.find?_some h
  exact ⟨p, hp, rfl, hname⟩

theorem describes_nothing : L.Describes (fun _ => none) s s' ↔ s' = s :=
  ⟨fun h => L.ext s' s fun p hp => h p hp, fun h p _ => congrArg p.get h⟩

theorem describes_congr {find find' : String → Option Node} (h : ∀ p ∈ L.slots, find p.name = find' p.name) :
    L.Describes find s s' ↔ L.Describes find' s s' := by
  unfold Describes
  exact forall₂_congr fun p hp => by rw [h p hp]

/-- A node for one name, and for the others what there was. -/
def also (name : String) (node : Node) (find : String → Option Node) : String → Option Node :=
  fun n => if n = name then some node else find n

theorem also_self (name : String) (node : Node) (find : String → Option Node) :
    also name node find name = some node :=
  if_pos rfl

theorem also_of_ne {name n : String} (h : n ≠ name) (node : Node) (find : String → Option Node) :
    also name node find n = find n :=
  if_neg h

/-- A name that comes first and no more is what it has been read as; the others are read from the
record in which it has been put. -/
theorem describes_also {find : String → Option Node} {node : Node} (hp : p ∈ L.slots)
    (hrest : find p.name = none) :
    L.Describes (also p.name node find) s s' ↔
      ∃ v, p.Reads node v ∧ L.Describes find (p.put v s) s' := by
  have hne : ∀ q ∈ L.slots, q ≠ p → q.name ≠ p.name := fun q hq hqp hname =>
    hqp (eq_of_name hq hp hname)
  constructor
  · intro h
    have hread := h p hp
    rw [also_self] at hread
    refine ⟨p.get s', hread, fun q hq => ?_⟩
    by_cases hqp : q = p
    · subst hqp
      rw [hrest]
      exact (q.get_put _ _).symm
    · have hother := h q hq
      rw [also_of_ne (hne q hq hqp)] at hother
      rwa [get_put_of_ne hq hp hqp]
  · rintro ⟨v, hread, h⟩ q hq
    have hother := h q hq
    by_cases hqp : q = p
    · subst hqp
      rw [hrest] at hother
      have hv : q.get s' = v := Eq.trans hother (q.get_put v s)
      rw [also_self]
      exact hv ▸ hread
    · rw [also_of_ne (hne q hq hqp)]
      rwa [get_put_of_ne hq hp hqp] at hother

/-- What the entries of a table say of a name. -/
def said (entries : List (Key × Node)) (name : String) : Option Node :=
  (entries.find? fun e => e.1.name = name).map Prod.snd

theorem said_cons (key : Key) (node : Node) (entries : List (Key × Node)) :
    said ((key, node) :: entries) = also key.name node (said entries) := by
  funext name
  by_cases h : key.name = name
  · subst h
    simp [said, also]
  · simp [said, also, h, Ne.symm h]

theorem said_eq_none {entries : List (Key × Node)} {name : String}
    (h : name ∉ entries.map fun e => e.1.name) : said entries name = none := by
  simp only [List.mem_map, not_exists, not_and] at h
  simpa [said] using fun a b hab => h (a, b) hab

theorem fromEntries_iff {entries : List (Key × Node)}
    (hnames : (entries.map fun e => e.1.name).Nodup) (hclear : ∀ e ∈ entries, e.2.Clear) :
    fromEntries L.readers entries s = .ok s' ↔ L.Describes (said entries) s s' := by
  induction entries generalizing s with
  | nil =>
    show Except.ok s = .ok s' ↔ L.Describes (fun _ => none) s s'
    rw [describes_nothing, Except.ok.injEq, eq_comm]
  | cons e entries ih =>
    obtain ⟨key, node⟩ := e
    obtain ⟨hkey, hnames⟩ := List.nodup_cons.mp hnames
    obtain ⟨hnode, hclear⟩ := List.forall_mem_cons.mp hclear
    have hnone := said_eq_none hkey
    rw [fromEntries, said_cons]
    cases hf : L.readers.find? (·.name = key.name) with
    | none =>
      -- The name is none of the record's.
      rw [ih hnames hclear]
      refine describes_congr fun p hp => ?_
      refine (also_of_ne (fun hname => ?_) _ _).symm
      have hfound := find?_readers hp
      rw [hname, hf] at hfound
      cases hfound
    | some f =>
      obtain ⟨p, hp, rfl, hname⟩ := mem_of_find?_readers hf
      have hstep : (do
          let s ← atKey key node (p.reader.set node s)
          fromEntries L.readers entries s) = .ok s' ↔
          ∃ v, p.Reads node v ∧ fromEntries L.readers entries (p.put v s) = .ok s' := by
        simp only [bind_eq_ok, Decoder.atKey_eq_ok, p.set_iff hnode]
        constructor
        · rintro ⟨_, ⟨v, hread, rfl⟩, hrest⟩
          exact ⟨v, hread, hrest⟩
        · rintro ⟨v, hread, hrest⟩
          exact ⟨_, ⟨v, hread, rfl⟩, hrest⟩
      dsimp only
      rw [hstep, ← hname, describes_also hp (hname ▸ hnone)]
      simp only [ih hnames hclear]

/-- The items of an array as entries. The names have no place in the text. -/
def placed (names : List String) (items : List Node) : List (Key × Node) :=
  (names.zip items).map fun e => (⟨e.1, ⟨0, 0⟩⟩, e.2)

theorem said_placed {names : List String} {name : String} (hname : name ∈ names)
    (items : List Node) : said (placed names items) name = items[names.idxOf name]? := by
  induction names generalizing items with
  | nil => cases hname
  | cons n names ih =>
    cases items with
    | nil => rfl
    | cons item items =>
      show said ((⟨n, ⟨0, 0⟩⟩, item) :: placed names items) name = _
      rw [said_cons]
      by_cases h : name = n
      · subst h
        rw [also_self, List.idxOf_cons_self]
        rfl
      · have hmem := (List.mem_cons.mp hname).resolve_left h
        rw [also_of_ne h, List.idxOf_cons_ne _ (Ne.symm h), ih hmem]
        rfl

/-- An array is read like a table of its items. -/
theorem fromItems_eq_ok {ps : List (Slot σ)} (hps : ps ⊆ L.slots) (items : List Node) :
    fromItems (ps.map Slot.reader) items s = .ok s' ↔
      fromEntries L.readers (placed (ps.map Slot.name) items) s = .ok s' := by
  induction ps generalizing items s with
  | nil => rfl
  | cons p ps ih =>
    cases items with
    | nil => rfl
    | cons item items =>
      obtain ⟨hp, hps⟩ := List.cons_subset.mp hps
      show (do
          let s ← p.reader.set item s
          fromItems (ps.map Slot.reader) items s) = .ok s' ↔
        fromEntries L.readers ((⟨p.name, ⟨0, 0⟩⟩, item) :: placed (ps.map Slot.name) items) s = .ok s'
      rw [fromEntries, find?_readers hp]
      simp only [bind_eq_ok, Decoder.atKey_eq_ok, ih hps]

theorem names_placed_sublist (names : List String) (items : List Node) :
    ((placed names items).map fun e => e.1.name).Sublist names := by
  induction names generalizing items with
  | nil => exact List.Sublist.slnil
  | cons n names ih =>
    cases items with
    | nil => exact List.nil_sublist _
    | cons item items => exact (ih items).cons_cons n

theorem fromItems_iff {items : List Node} (hclear : ∀ n ∈ items, n.Clear) :
    fromItems L.readers items s = .ok s' ↔
      L.Describes (fun name => items[L.names.idxOf name]?) s s' := by
  have hvalues : ∀ e ∈ placed L.names items, e.2.Clear := by
    intro e he
    obtain ⟨⟨name, node⟩, hmem, rfl⟩ := List.mem_map.mp he
    exact hclear node (List.of_mem_zip hmem).2
  have hentries : fromItems L.readers items s = .ok s' ↔
      L.Describes (said (placed L.names items)) s s' :=
    (fromItems_eq_ok (List.Subset.refl L.slots) items).trans
      (fromEntries_iff (L.namesOnce.sublist (names_placed_sublist _ _)) hvalues)
  rw [hentries]
  exact describes_congr fun p hp => said_placed (List.mem_map_of_mem hp) items

variable {default : σ} {wanted : String} {node : Node}

/-- A record is what its section says, slot by slot. -/
theorem record_iff (hclear : node.Clear) :
    Decoder.record wanted L.readers default node = .ok s ↔
      ∃ find, node.members L.names = some find ∧ L.Describes find default s := by
  have hmembers : ∀ {find : String → Option Node}, node.members L.names = some find →
      (Decoder.record wanted L.readers default node = .ok s ↔ L.Describes find default s) →
      (Decoder.record wanted L.readers default node = .ok s ↔
        ∃ find, node.members L.names = some find ∧ L.Describes find default s) := by
    intro find hfind h
    rw [h, hfind]
    simp only [Option.some.injEq, exists_eq_left']
  cases hclear with
  | @scalar value span =>
    cases value with
    | instant =>
      refine hmembers rfl ?_
      rw [describes_nothing]
      show Except.ok default = .ok s ↔ _
      rw [Except.ok.injEq, eq_comm]
    | _ => simp [Decoder.record, Decoder.wrongType, Node.members]
  | array hitems => exact hmembers rfl (fromItems_iff hitems)
  | inlineTable hnames hvalues => exact hmembers rfl (fromEntries_iff hnames hvalues)
  | table hnames hvalues => exact hmembers rfl (fromEntries_iff hnames hvalues)
  | @tables items _ hnames hvalues =>
    refine hmembers rfl (fromItems_iff fun n hn => ?_)
    obtain ⟨t, ht, rfl⟩ := List.mem_map.mp hn
    exact .table (hnames t ht) (hvalues t ht)

end Layout
end DevServer.Toml
