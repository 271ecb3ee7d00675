import DevServer.Proofs.Toml.Records
import DevServer.Settings.Decode

/-!
# What a document says about a setting, and what it leaves at its default

`Given` holds the settings that layers above the file can replace, each only if the document names
it. Decoding is the statement that these are the values of the settings, and the defaults where
there are none. Documents that do not decode are not described here.
-/
namespace DevServer.Settings

set_option autoImplicit false

open Toml (Key Node bind_eq_ok)
open Toml.Decoder (FieldReader atKey_eq_ok fromEntries fromItems)

/-- The value of a name, the last one if the name comes several times. -/
def lastOf (name : String) : List (Key × Node) → Option Node
  | [] => none
  | (key, node) :: rest => (lastOf name rest).or (if key.name = name then some node else none)

/-- The value of a field of a section, which has its name in a table and its place in an array. -/
def member (name : String) (place : Nat) : Node → Option Node
  | .inlineTable t => lastOf name t.entries
  | .table t => lastOf name t.entries
  | .array items _ => items[place]?
  | .tables items => (Toml.Decoder.ofTables items)[place]?
  | .scalar _ _ => none

/-- The settings that layers above the file can replace, if they are given. -/
structure Given where
  adapter : Option String := none
  strictAdapter : Option Bool := none
  host : Option String := none
  port : Option UInt16 := none

def textOf (node : Node) : Option String := (Toml.Decoder.text node).toOption

def truthOf (node : Node) : Option Bool := (Toml.Decoder.truth node).toOption

def portOf (node : Node) : Option UInt16 :=
  (Toml.Decoder.natural Number.Decimal.maxUInt16 "u16" node).toOption.map UInt16.ofNat

/-- What a table says. -/
def Given.ofTable (t : Toml.Table) : Given where
  adapter := (lastOf "adapter" t.entries).bind textOf
  strictAdapter := (lastOf "strict_adapter" t.entries).bind truthOf
  host := (lastOf "listener" t.entries).bind fun node => (member "host" 0 node).bind textOf
  port := (lastOf "listener" t.entries).bind fun node => (member "port" 1 node).bind portOf

/-- What a text says, which is nothing if it is no document. -/
def Given.ofText (text : String) : Given :=
  match Toml.read text.toList with
  | .ok t => .ofTable t
  | .error _ => {}

/-- The part of a record is what `read` makes of a node if there is one, and else what it was. -/
def ReadFrom {α : Type} (read : Node → Option α) (before after : α) : Option Node → Prop
  | none => after = before
  | some node => read node = some after

theorem ReadFrom.eq_getD {α : Type} {read : Node → Option α} {before after : α}
    {node : Option Node} (h : ReadFrom read before after node) :
    after = (node.bind read).getD before := by
  cases node with
  | none => simpa [ReadFrom] using h
  | some node =>
    have hr : read node = some after := h
    simp [hr]

section Fields

variable {σ α β : Type} {name : String} {get : σ → β} {read : Node → Option β}
  {fields : List (FieldReader σ)}

/-- The field writes what `read` makes of a node to a part of the record. -/
def Own (get : σ → β) (read : Node → Option β) (f : FieldReader σ) : Prop :=
  ∀ node s s', f.set node s = .ok s' → read node = some (get s')

/-- The field leaves a part of the record as it was. -/
def Frame (get : σ → β) (f : FieldReader σ) : Prop :=
  ∀ node s s', f.set node s = .ok s' → get s' = get s

/-- The field of this name writes a part of the record that all others leave as it was. -/
inductive Writes (name : String) (get : σ → β) (read : Node → Option β) :
    List (FieldReader σ) → Prop
  | own {f : FieldReader σ} {fields : List (FieldReader σ)} : f.name = name → Own get read f →
    (∀ g ∈ fields, Frame get g) → Writes name get read (f :: fields)
  | frame {f : FieldReader σ} {fields : List (FieldReader σ)} : f.name ≠ name → Frame get f →
    Writes name get read fields → Writes name get read (f :: fields)

theorem Writes.find?_own (hw : Writes name get read fields) :
    ∃ f, fields.find? (·.name = name) = some f ∧ Own get read f := by
  induction hw with
  | @own f fields hn ho _ => exact ⟨f, by simp [hn], ho⟩
  | frame hn _ _ ih =>
    obtain ⟨f, hf, ho⟩ := ih
    exact ⟨f, by simpa [hn] using hf, ho⟩

theorem Writes.frame_of_find? (hw : Writes name get read fields) {key : String} (hk : key ≠ name)
    {f : FieldReader σ} (hf : fields.find? (·.name = key) = some f) : Frame get f := by
  induction hw with
  | own hn _ hrest =>
    rw [List.find?_cons_of_neg (by simp [hn, hk.symm])] at hf
    exact hrest f (List.mem_of_find?_eq_some hf)
  | @frame g fields _ hg _ ih =>
    by_cases hname : g.name = key
    · rw [List.find?_cons_of_pos (by simp [hname])] at hf
      rw [← Option.some.inj hf]
      exact hg
    · rw [List.find?_cons_of_neg (by simp [hname])] at hf
      exact ih hf

/-- Later entries of a name replace earlier ones, and entries of other names do not matter. -/
theorem fromEntries_readFrom (hw : Writes name get read fields) (entries : List (Key × Node))
    {s s' : σ} (h : fromEntries fields entries s = .ok s') :
    ReadFrom read (get s) (get s') (lastOf name entries) := by
  induction entries generalizing s with
  | nil =>
    cases h
    exact rfl
  | cons entry rest ih =>
    obtain ⟨key, node⟩ := entry
    rw [fromEntries] at h
    by_cases hk : key.name = name
    · obtain ⟨f, hf, hown⟩ := hw.find?_own
      rw [hk, hf] at h
      obtain ⟨s1, hset, hrest⟩ := bind_eq_ok.mp h
      have hread := hown node s s1 (atKey_eq_ok.mp hset)
      have hlast := ih hrest
      cases hl : lastOf name rest with
      | none =>
        rw [hl] at hlast
        have hsame : get s' = get s1 := hlast
        simpa [lastOf, hl, hk, ReadFrom, hsame] using hread
      | some later =>
        rw [hl] at hlast
        simpa [lastOf, hl, ReadFrom] using hlast
    · have hlast : lastOf name ((key, node) :: rest) = lastOf name rest := by simp [lastOf, hk]
      rw [hlast]
      cases hf : fields.find? (·.name = key.name) with
      | none =>
        rw [hf] at h
        exact ih h
      | some f =>
        rw [hf] at h
        obtain ⟨s1, hset, hrest⟩ := bind_eq_ok.mp h
        rw [← hw.frame_of_find? hk hf node s s1 (atKey_eq_ok.mp hset)]
        exact ih hrest

variable {decode : Toml.Decoder α} {put : α → σ → σ}

theorem set_fieldOf {node : Node} {s s' : σ} :
    (fieldOf name decode put).set node s = .ok s' ↔ ∃ a, decode node = .ok a ∧ put a s = s' := by
  cases h : decode node <;> simp [fieldOf, h, Except.map]

theorem own_fieldOf
    (hput : ∀ node a s, decode node = .ok a → read node = some (get (put a s))) :
    Own get read (fieldOf name decode put) := by
  intro node s s' h
  obtain ⟨a, ha, rfl⟩ := set_fieldOf.mp h
  exact hput node a s ha

theorem frame_fieldOf (hput : ∀ a s, get (put a s) = get s) :
    Frame get (fieldOf name decode put) := by
  intro node s s' h
  obtain ⟨a, -, rfl⟩ := set_fieldOf.mp h
  exact hput a s

end Fields

/-- The listener of a node. -/
def listenerOf (node : Node) : Option Listener :=
  (Toml.Decoder.record "struct ListenerConfig" Listener.fields {} node).toOption

theorem listenerOf_eq_some {node : Node} {l : Listener} :
    listenerOf node = some l ↔
      Toml.Decoder.record "struct ListenerConfig" Listener.fields {} node = .ok l := by
  rw [listenerOf]
  cases Toml.Decoder.record "struct ListenerConfig" Listener.fields {} node <;>
    simp [Except.toOption]

theorem own_host : Own Listener.host textOf Listener.fields[0] :=
  own_fieldOf fun node a s ha => by simp [textOf, ha, Except.toOption]

theorem own_port : Own Listener.port portOf Listener.fields[1] :=
  own_fieldOf fun node a s ha => by simp [portOf, ha, Except.toOption]

theorem frame_host : Frame Listener.host Listener.fields[1] := frame_fieldOf fun _ _ => rfl

theorem frame_port : Frame Listener.port Listener.fields[0] := frame_fieldOf fun _ _ => rfl

theorem writes_host : Writes "host" Listener.host textOf Listener.fields :=
  .own rfl own_host (List.forall_mem_singleton.mpr frame_host)

theorem writes_port : Writes "port" Listener.port portOf Listener.fields :=
  .frame (by decide) frame_port (.own rfl own_port (List.forall_mem_nil _))

theorem writes_listener : Writes "listener" Settings.listener listenerOf fields := by
  refine .frame (by decide) (frame_fieldOf fun _ _ => rfl) ?_
  refine .frame (by decide) (frame_fieldOf fun _ _ => rfl) ?_
  refine .own rfl (own_fieldOf fun node a s ha => listenerOf_eq_some.mpr ha) ?_
  simp only [List.forall_mem_cons]
  exact ⟨frame_fieldOf fun _ _ => rfl, frame_fieldOf fun _ _ => rfl, frame_fieldOf fun _ _ => rfl,
    List.forall_mem_nil _⟩

theorem writes_strictAdapter : Writes "strict_adapter" Settings.strictAdapter truthOf fields := by
  refine .frame (by decide) (frame_fieldOf fun _ _ => rfl) ?_
  refine .own rfl (own_fieldOf fun node a s ha => by simp [truthOf, ha, Except.toOption]) ?_
  simp only [List.forall_mem_cons]
  exact ⟨frame_fieldOf fun _ _ => rfl, frame_fieldOf fun _ _ => rfl, frame_fieldOf fun _ _ => rfl,
    frame_fieldOf fun _ _ => rfl, List.forall_mem_nil _⟩

theorem writes_adapter :
    Writes "adapter" Settings.adapter (fun node => (textOf node).map some) fields := by
  refine .own rfl (own_fieldOf fun node a s ha => by simp [textOf, ha, Except.toOption]) ?_
  simp only [List.forall_mem_cons]
  exact ⟨frame_fieldOf fun _ _ => rfl, frame_fieldOf fun _ _ => rfl, frame_fieldOf fun _ _ => rfl,
    frame_fieldOf fun _ _ => rfl, frame_fieldOf fun _ _ => rfl, List.forall_mem_nil _⟩

/-- An array gives the host first and then the port. -/
theorem fromItems_listener {items : List Node} {l l' : Listener}
    (h : fromItems Listener.fields items l = .ok l') :
    ReadFrom textOf l.host l'.host items[0]? ∧ ReadFrom portOf l.port l'.port items[1]? := by
  cases items with
  | nil =>
    cases h
    exact ⟨rfl, rfl⟩
  | cons first rest =>
    rw [Listener.fields, fromItems] at h
    obtain ⟨l1, hfirst, h⟩ := bind_eq_ok.mp h
    have hhost := own_host first l l1 hfirst
    have hport := frame_port first l l1 hfirst
    cases rest with
    | nil =>
      cases h
      exact ⟨hhost, hport⟩
    | cons second rest =>
      rw [fromItems] at h
      obtain ⟨l2, hsecond, h⟩ := bind_eq_ok.mp h
      cases h
      have hkept := frame_host second l1 l' hsecond
      exact ⟨hhost.trans (by rw [hkept]), own_port second l1 l' hsecond⟩

/-- Each field of a listener is that of the node, and its default if the node has none. -/
theorem record_listener {node : Node} {l : Listener}
    (h : Toml.Decoder.record "struct ListenerConfig" Listener.fields {} node = .ok l) :
    ReadFrom textOf ({} : Listener).host l.host (member "host" 0 node) ∧
      ReadFrom portOf ({} : Listener).port l.port (member "port" 1 node) := by
  cases node with
  | scalar value span =>
    cases value with
    | instant =>
      cases h
      exact ⟨rfl, rfl⟩
    | _ => cases h
  | array items span => exact fromItems_listener h
  | inlineTable t =>
    exact ⟨fromEntries_readFrom writes_host t.entries h,
      fromEntries_readFrom writes_port t.entries h⟩
  | table t =>
    exact ⟨fromEntries_readFrom writes_host t.entries h,
      fromEntries_readFrom writes_port t.entries h⟩
  | tables items => exact fromItems_listener h

/-- Settings are what is given, and the defaults where nothing is. -/
structure Given.Describes (given : Given) (s : Settings) : Prop where
  adapter : s.adapter = given.adapter
  strictAdapter : s.strictAdapter = given.strictAdapter.getD false
  host : s.listener.host = given.host.getD ({} : Listener).host
  port : s.listener.port = given.port.getD ({} : Listener).port

theorem describes_defaults : Given.Describes {} {} := ⟨rfl, rfl, rfl, rfl⟩

theorem describes_ofTable {t : Toml.Table} {s : Settings} (h : ofTable t = .ok s) :
    (Given.ofTable t).Describes s := by
  have hadapter := (fromEntries_readFrom writes_adapter t.entries h).eq_getD
  have hstrict := (fromEntries_readFrom writes_strictAdapter t.entries h).eq_getD
  have hlistener := fromEntries_readFrom writes_listener t.entries h
  have hname : s.adapter = (Given.ofTable t).adapter := by
    rw [hadapter, Given.ofTable]
    cases lastOf "adapter" t.entries with
    | none => rfl
    | some node => cases ht : textOf node <;> simp [ht]
  cases hl : lastOf "listener" t.entries with
  | none =>
    rw [hl] at hlistener
    have hdefault : s.listener = {} := hlistener
    exact ⟨hname, hstrict, by simp [Given.ofTable, hl, hdefault],
      by simp [Given.ofTable, hl, hdefault]⟩
  | some node =>
    rw [hl] at hlistener
    obtain ⟨hhost, hport⟩ := record_listener (listenerOf_eq_some.mp hlistener)
    exact ⟨hname, hstrict, by simpa [Given.ofTable, hl] using hhost.eq_getD,
      by simpa [Given.ofTable, hl] using hport.eq_getD⟩

/-- A text that decodes says what its settings are. -/
theorem describes_ofText {text : String} {s : Settings} (h : ofDocument text = .ok s) :
    (Given.ofText text).Describes s := by
  rw [ofDocument] at h
  cases ht : Toml.read text.toList with
  | error f => simp [ht] at h
  | ok t =>
    cases hs : ofTable t with
    | error m => simp [ht, hs] at h
    | ok s' =>
      have hsame : s' = s := by simpa [ht, hs] using h
      subst hsame
      rw [Given.ofText, ht]
      exact describes_ofTable hs

end DevServer.Settings
