import DevServer.Proofs.Toml.Records
import DevServer.Settings.Decode

/-!
# What a table says about the settings

The settings of a table are those that have, for each field, the value that stands below its name,
and its default where the name or its whole section is missing; there are none if a value is of
another type or out of range. No field depends on the name of another one.
-/
namespace DevServer

set_option autoImplicit false

open Toml (Decoder Holds Layout Node Slot Table TableOf bind_eq_ok)

namespace Toml.Node

def scalar? : Node → Option Toml.Scalar
  | .scalar value _ => some value
  | _ => none

/-- The values of an array, in whatever way it is written. -/
def items? : Node → Option (List Node)
  | .array items _ => some items
  | .tables items => some (Decoder.ofTables items)
  | _ => none

/-- A table, in whatever way it is written. -/
def table? : Node → Option Table
  | .inlineTable t => some t
  | .table t => some t
  | _ => none

end Toml.Node

def IsText (node : Node) (s : String) : Prop := node.scalar? = some (.text s)

def IsTruth (node : Node) (b : Bool) : Prop := node.scalar? = some (.truth b)

def IsNumber (node : Node) (n : Nat) : Prop := node.scalar? = some (.integer n)

/-- The node is the number of a port. -/
def IsPort (node : Node) (port : UInt16) : Prop := IsNumber node port.toNat

/-- The node is a number of eight bytes. -/
def IsLong (node : Node) (n : UInt64) : Prop := IsNumber node n.toNat

/-- An array or a table in which nothing stands. -/
def IsEmpty (node : Node) : Prop :=
  node.items? = some [] ∨ ∃ t, node.table? = some t ∧ t.entries = []

/-- The name of the format, or a table in which the name alone stands, for nothing. -/
inductive IsFormat (f : LogFormat) (node : Node) : Prop
  | name : IsText node f.name → IsFormat f node
  | table {t : Table} {key : Toml.Key} {content : Node} : node.table? = some t →
    t.entries = [(key, content)] → key.name = f.name → IsEmpty content → IsFormat f node

structure Listener.Described (find : String → Option Node) (l : Listener) : Prop where
  host : Holds IsText "0.0.0.0" (find "host") l.host
  port : Holds IsPort 8000 (find "port") l.port

structure Timeouts.Described (find : String → Option Node) (t : Timeouts) : Prop where
  requestSecs :
    Holds IsLong 30 (find "request_secs") t.requestSecs

structure Security.Described (find : String → Option Node) (s : Security) : Prop where
  maxBodySize :
    Holds IsLong 2097152 (find "max_body_size") s.maxBodySize

structure Observability.Described (find : String → Option Node) (o : Observability) : Prop where
  logLevel : Holds IsText "info" (find "log_level") o.logLevel
  logFormat : Holds (fun node f => IsFormat f node) .pretty (find "log_format") o.logFormat
  metricsEnabled : Holds IsTruth false (find "metrics_enabled") o.metricsEnabled
  metricsAddress : Holds IsText "0.0.0.0:9090" (find "metrics_address") o.metricsAddress

/-- The node is a section with these names that says what the part of the settings is. -/
def InSection {σ : Type} (names : List String) (Described : (String → Option Node) → σ → Prop)
    (node : Node) (s : σ) : Prop :=
  ∃ find, node.members names = some find ∧ Described find s

/-- The settings are what the table says, and the defaults where it says nothing. -/
structure Settings.Documented (t : Table) (c : Settings) : Prop where
  adapter : Holds (fun node a => ∃ s, IsText node s ∧ a = some s) none (t.find? "adapter") c.adapter
  strictAdapter : Holds IsTruth false (t.find? "strict_adapter") c.strictAdapter
  listener : Holds (InSection ["host", "port"] Listener.Described) {} (t.find? "listener") c.listener
  timeouts : Holds (InSection ["request_secs"] Timeouts.Described) {} (t.find? "timeouts") c.timeouts
  security : Holds (InSection ["max_body_size"] Security.Described) {} (t.find? "security") c.security
  observability :
    Holds (InSection ["log_level", "log_format", "metrics_enabled", "metrics_address"]
      Observability.Described) {} (t.find? "observability") c.observability

section Decoders

variable {node : Node}

theorem text_eq_ok {s : String} : Decoder.text node = .ok s ↔ IsText node s := by
  cases node with
  | scalar value span =>
    cases value <;> simp [Decoder.text, Decoder.wrongType, IsText, Node.scalar?]
  | _ => simp [Decoder.text, Decoder.wrongType, IsText, Node.scalar?]

theorem truth_eq_ok {b : Bool} : Decoder.truth node = .ok b ↔ IsTruth node b := by
  cases node with
  | scalar value span =>
    cases value <;> simp [Decoder.truth, Decoder.wrongType, IsTruth, Node.scalar?]
  | _ => simp [Decoder.truth, Decoder.wrongType, IsTruth, Node.scalar?]

theorem natural_eq_ok {limit n : Nat} {wanted : String} :
    Decoder.natural limit wanted node = .ok n ↔ n ≤ limit ∧ IsNumber node n := by
  unfold Decoder.natural IsNumber
  split
  · next found span =>
    simp only [Node.scalar?, Option.some.injEq, Toml.Scalar.integer.injEq, Bool.and_eq_true,
      decide_eq_true_eq]
    constructor
    · intro h
      split at h
      · next hrange =>
        obtain rfl := Except.ok.inj h
        omega
      · cases h
    · rintro ⟨hle, rfl⟩
      rw [if_pos (by omega)]
      simp
  · next hnot =>
    have hno : node.scalar? ≠ some (.integer n) := by
      intro h
      cases node <;> cases h
      exact hnot _ _ rfl
    simp [Decoder.wrongType, hno]

theorem emptyContent_eq_ok : Decoder.emptyContent node = .ok () ↔ IsEmpty node := by
  unfold IsEmpty
  cases node with
  | scalar value span => simp [Decoder.emptyContent, Node.items?, Node.table?]
  | array items span => cases items <;> simp [Decoder.emptyContent, Node.items?, Node.table?]
  | inlineTable t =>
    cases h : t.entries <;> simp [Decoder.emptyContent, Node.items?, Node.table?, h]
  | table t => cases h : t.entries <;> simp [Decoder.emptyContent, Node.items?, Node.table?, h]
  | tables items =>
    cases items <;> simp [Decoder.emptyContent, Node.items?, Node.table?, Decoder.ofTables]

theorem variantName_eq_ok {name : String} {span : Option Toml.Span} {f : LogFormat} :
    Decoder.variantName LogFormat.variants name span = .ok f ↔ name = f.name := by
  unfold Decoder.variantName LogFormat.variants
  by_cases hpretty : name = "pretty"
  · subst hpretty
    cases f <;> simp [LogFormat.name]
  · by_cases hjson : name = "json"
    · subst hjson
      cases f <;> simp [LogFormat.name, List.lookup_cons]
    · have hne : (name == "pretty") = false ∧ (name == "json") = false := by simp [hpretty, hjson]
      cases f <;> simp [LogFormat.name, List.lookup_cons, hne, hpretty, hjson]

theorem ofTable_eq_ok {t : Table} {f : LogFormat} :
    Decoder.variant.ofTable LogFormat.variants t = .ok f ↔
      ∃ key content, t.entries = [(key, content)] ∧ key.name = f.name ∧ IsEmpty content := by
  unfold Decoder.variant.ofTable
  split
  · next hnone => simp [hnone]
  · next key content hone =>
    simp only [hone, bind_eq_ok, variantName_eq_ok, ← emptyContent_eq_ok, List.cons.injEq,
      Prod.mk.injEq, and_true]
    constructor
    · rintro ⟨g, hname, h⟩
      split at h
      · next hempty =>
        obtain rfl := Except.ok.inj h
        exact ⟨key, content, ⟨rfl, rfl⟩, hname, hempty⟩
      · cases h
    · rintro ⟨_, _, ⟨rfl, rfl⟩, hname, hempty⟩
      refine ⟨f, hname, ?_⟩
      rw [hempty]
  · next hnone hone =>
    simp only [reduceCtorEq, false_iff]
    rintro ⟨key, content, h, _⟩
    exact hone key content h

theorem variant_eq_ok {f : LogFormat} :
    Decoder.variant LogFormat.variants node = .ok f ↔ IsFormat f node := by
  constructor
  · intro h
    unfold Decoder.variant at h
    split at h
    · exact .name (by rw [variantName_eq_ok.mp h]; rfl)
    · obtain ⟨key, content, hone, hname, hempty⟩ := ofTable_eq_ok.mp h
      exact .table rfl hone hname hempty
    · obtain ⟨key, content, hone, hname, hempty⟩ := ofTable_eq_ok.mp h
      exact .table rfl hone hname hempty
    · cases h
  · intro h
    cases h with
    | name h =>
      cases node <;> cases h
      exact variantName_eq_ok.mpr rfl
    | table ht hone hname hempty =>
      cases node <;> cases ht <;> exact ofTable_eq_ok.mpr ⟨_, _, hone, hname, hempty⟩

end Decoders

/-- The slot of a field that a decoder reads. `conv` is what the record keeps of the value. -/
def slotOf {σ α β : Type} (name : String) (decode : Decoder α) (conv : α → β) (get : σ → β)
    (put : β → σ → σ) (Reads : Node → β → Prop) (get_put : ∀ b s, get (put b s) = b)
    (reads : ∀ {node : Node}, node.Clear → ∀ b,
      Reads node b ↔ ∃ a, decode node = .ok a ∧ conv a = b) : Slot σ where
  reader := fieldOf name decode fun a => put (conv a)
  Value := β
  get
  put
  Reads
  get_put
  set_iff := by
    intro node hclear s s'
    cases hd : decode node with
    | error m => simp [fieldOf, reads hclear, hd, Except.map]
    | ok a => simp [fieldOf, reads hclear, hd, Except.map]

section Reads

variable {node : Node}

theorem reads_text (s : String) : IsText node s ↔ ∃ a, Decoder.text node = .ok a ∧ id a = s := by
  simp [text_eq_ok]

theorem reads_adapter (a : Option String) :
    (∃ s, IsText node s ∧ a = some s) ↔ ∃ s, Decoder.text node = .ok s ∧ some s = a := by
  simp only [text_eq_ok, @eq_comm _ a]

theorem reads_truth (b : Bool) : IsTruth node b ↔ ∃ a, Decoder.truth node = .ok a ∧ id a = b := by
  simp [truth_eq_ok]

theorem reads_format (f : LogFormat) :
    IsFormat f node ↔ ∃ a, Decoder.variant LogFormat.variants node = .ok a ∧ id a = f := by
  simp [variant_eq_ok]

theorem reads_port (p : UInt16) : IsPort node p ↔
    ∃ n, Decoder.natural Number.Decimal.maxUInt16 "u16" node = .ok n ∧ UInt16.ofNat n = p := by
  unfold IsPort
  simp only [natural_eq_ok]
  constructor
  · intro h
    exact ⟨p.toNat, ⟨Nat.le_of_lt_succ p.toNat_lt, h⟩, UInt16.ofNat_toNat⟩
  · rintro ⟨n, ⟨hle, h⟩, rfl⟩
    rwa [UInt16.toNat_ofNat_of_lt' (Nat.lt_succ_of_le hle)]

theorem reads_long (wanted : String) (p : UInt64) : IsLong node p ↔
    ∃ n, Decoder.natural Number.Decimal.maxUInt64 wanted node = .ok n ∧ UInt64.ofNat n = p := by
  unfold IsLong
  simp only [natural_eq_ok]
  constructor
  · intro h
    exact ⟨p.toNat, ⟨Nat.le_of_lt_succ p.toNat_lt, h⟩, UInt64.ofNat_toNat⟩
  · rintro ⟨n, ⟨hle, h⟩, rfl⟩
    rwa [UInt64.toNat_ofNat_of_lt' (Nat.lt_succ_of_le hle)]

end Reads

def Listener.layout : Layout Listener where
  slots :=
    [ slotOf "host" .text id Listener.host (fun host l => { l with host }) IsText
        (fun _ _ => rfl) fun _ => reads_text,
      slotOf "port" (.natural Number.Decimal.maxUInt16 "u16") UInt16.ofNat Listener.port
        (fun port l => { l with port }) IsPort
        (fun _ _ => rfl) fun _ => reads_port ]
  namesOnce := by decide
  apart := by simp [Slot.Apart, slotOf]
  ext := by
    rintro ⟨_, _⟩ ⟨_, _⟩ h
    simpa [slotOf] using h

def Timeouts.layout : Layout Timeouts where
  slots :=
    [ slotOf "request_secs" (.natural Number.Decimal.maxUInt64 "u64") UInt64.ofNat
        Timeouts.requestSecs (fun requestSecs t => { t with requestSecs })
        IsLong (fun _ _ => rfl) fun _ => reads_long "u64" ]
  namesOnce := by decide
  apart := by simp
  ext := by
    rintro ⟨_⟩ ⟨_⟩ h
    simpa [slotOf] using h

def Security.layout : Layout Security where
  slots :=
    [ slotOf "max_body_size" (.natural Number.Decimal.maxUInt64 "usize") UInt64.ofNat
        Security.maxBodySize (fun maxBodySize s => { s with maxBodySize })
        IsLong (fun _ _ => rfl) fun _ => reads_long "usize" ]
  namesOnce := by decide
  apart := by simp
  ext := by
    rintro ⟨_⟩ ⟨_⟩ h
    simpa [slotOf] using h

def Observability.layout : Layout Observability where
  slots :=
    [ slotOf "log_level" .text id Observability.logLevel (fun logLevel o => { o with logLevel })
        IsText (fun _ _ => rfl) fun _ => reads_text,
      slotOf "log_format" (.variant LogFormat.variants) id Observability.logFormat
        (fun logFormat o => { o with logFormat }) (fun node f => IsFormat f node)
        (fun _ _ => rfl) fun _ => reads_format,
      slotOf "metrics_enabled" .truth id Observability.metricsEnabled
        (fun metricsEnabled o => { o with metricsEnabled }) IsTruth (fun _ _ => rfl)
        fun _ => reads_truth,
      slotOf "metrics_address" .text id Observability.metricsAddress
        (fun metricsAddress o => { o with metricsAddress }) IsText (fun _ _ => rfl)
        fun _ => reads_text ]
  namesOnce := by decide
  apart := by simp [Slot.Apart, slotOf]
  ext := by
    rintro ⟨_, _, _, _⟩ ⟨_, _, _, _⟩ h
    simpa [slotOf] using h

section Sections

variable {find : String → Option Node}

theorem Listener.describes_iff (l : Listener) : layout.Describes find {} l ↔ l.Described find := by
  unfold Layout.Describes layout
  simp only [List.forall_mem_cons]
  exact ⟨fun ⟨hhost, hport, _⟩ => ⟨hhost, hport⟩, fun h => ⟨h.host, h.port, List.forall_mem_nil _⟩⟩

theorem Timeouts.describes_iff (t : Timeouts) : layout.Describes find {} t ↔ t.Described find := by
  unfold Layout.Describes layout
  simp only [List.forall_mem_cons]
  exact ⟨fun ⟨hsecs, _⟩ => ⟨hsecs⟩, fun h => ⟨h.requestSecs, List.forall_mem_nil _⟩⟩

theorem Security.describes_iff (s : Security) : layout.Describes find {} s ↔ s.Described find := by
  unfold Layout.Describes layout
  simp only [List.forall_mem_cons]
  exact ⟨fun ⟨hsize, _⟩ => ⟨hsize⟩, fun h => ⟨h.maxBodySize, List.forall_mem_nil _⟩⟩

theorem Observability.describes_iff (o : Observability) :
    layout.Describes find {} o ↔ o.Described find := by
  unfold Layout.Describes layout
  simp only [List.forall_mem_cons]
  exact ⟨fun ⟨hlevel, hformat, hmetrics, haddress, _⟩ => ⟨hlevel, hformat, hmetrics, haddress⟩,
    fun h => ⟨h.logLevel, h.logFormat, h.metricsEnabled, h.metricsAddress, List.forall_mem_nil _⟩⟩

theorem reads_section {σ : Type} (L : Layout σ) {default : σ}
    {Described : (String → Option Node) → σ → Prop}
    (h : ∀ {find} s, L.Describes find default s ↔ Described find s) (wanted : String) {node : Node}
    (hclear : node.Clear) (s : σ) :
    InSection L.names Described node s ↔
      ∃ a, Decoder.record wanted L.readers default node = .ok a ∧ id a = s := by
  simp only [id_eq, exists_eq_right, L.record_iff hclear, h]
  exact Iff.rfl

end Sections

namespace Settings

def layout : Layout Settings where
  slots :=
    [ slotOf "adapter" .text some Settings.adapter (fun adapter s => { s with adapter })
        (fun node a => ∃ s, IsText node s ∧ a = some s) (fun _ _ => rfl)
        fun _ => reads_adapter,
      slotOf "strict_adapter" .truth id Settings.strictAdapter
        (fun strictAdapter s => { s with strictAdapter }) IsTruth (fun _ _ => rfl)
        fun _ => reads_truth,
      slotOf "listener" (.record "struct ListenerConfig" Listener.fields {}) id Settings.listener
        (fun listener s => { s with listener }) (InSection ["host", "port"] Listener.Described)
        (fun _ _ => rfl) (reads_section Listener.layout Listener.describes_iff _),
      slotOf "timeouts" (.record "struct TimeoutConfig" Timeouts.fields {}) id Settings.timeouts
        (fun timeouts s => { s with timeouts }) (InSection ["request_secs"] Timeouts.Described)
        (fun _ _ => rfl) (reads_section Timeouts.layout Timeouts.describes_iff _),
      slotOf "security" (.record "struct SecurityConfig" Security.fields {}) id Settings.security
        (fun security s => { s with security }) (InSection ["max_body_size"] Security.Described)
        (fun _ _ => rfl) (reads_section Security.layout Security.describes_iff _),
      slotOf "observability" (.record "struct ObservabilityConfig" Observability.fields {}) id
        Settings.observability (fun observability s => { s with observability })
        (InSection ["log_level", "log_format", "metrics_enabled", "metrics_address"]
          Observability.Described)
        (fun _ _ => rfl) (reads_section Observability.layout Observability.describes_iff _) ]
  namesOnce := by decide
  apart := by simp [Slot.Apart, slotOf]
  ext := by
    rintro ⟨_, _, _, _, _, _⟩ ⟨_, _, _, _, _, _⟩ h
    simpa [slotOf] using h

theorem describes_iff {t : Table} {c : Settings} :
    layout.Describes t.find? {} c ↔ Documented t c := by
  unfold Layout.Describes layout
  simp only [List.forall_mem_cons]
  exact ⟨fun ⟨hadapter, hstrict, hlistener, htimeouts, hsecurity, hobservability, _⟩ =>
      ⟨hadapter, hstrict, hlistener, htimeouts, hsecurity, hobservability⟩,
    fun h => ⟨h.adapter, h.strictAdapter, h.listener, h.timeouts, h.security, h.observability,
      List.forall_mem_nil _⟩⟩

/-- A table gives the settings that it documents, and no others. -/
theorem ofTable_iff {t : Table} (hclear : t.Clear) {c : Settings} :
    ofTable t = .ok c ↔ Documented t c :=
  (Layout.fromEntries_iff (L := layout) hclear.names hclear.values).trans describes_iff

end Settings
end DevServer
