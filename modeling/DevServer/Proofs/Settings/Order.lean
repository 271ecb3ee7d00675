import DevServer.Proofs.Settings.Schema
import DevServer.Proofs.Text.Encoding
import DevServer.Settings.Resolve
import Mathlib.Algebra.Group.Nat.Defs
import Mathlib.Data.List.Forall2

/-!
# What of a document matters

A file gives the settings that its table documents. A field that is given a value of another type, or
a number that it cannot hold, makes the whole document undecodable. The order of names, where they
are written, and names that are none of the settings' make no difference.
-/
namespace DevServer

set_option autoImplicit false

open Toml (Holds Key Node Table)

namespace Toml

/-- The same data, up to the order of names and up to where and how it is written. -/
inductive Node.Alike : Node → Node → Prop
  | scalar {value : Scalar} {span span' : Span} : Alike (.scalar value span) (.scalar value span')
  | items {n n' : Node} {xs ys : List Node} : n.items? = some xs → n'.items? = some ys →
    List.Forall₂ Alike xs ys → Alike n n'
  | table {n n' : Node} {t t' : Table} : n.table? = some t → n'.table? = some t' →
    (∀ name, Option.Rel Alike (t.find? name) (t'.find? name)) → Alike n n'

/-- The same data below some names. -/
def AgreeOn (names : List String) (find find' : String → Option Node) : Prop :=
  ∀ name ∈ names, Option.Rel Node.Alike (find name) (find' name)

/-- Sections with the same data below some names, or no sections. -/
def SameSection (names : List String) (n n' : Node) : Prop :=
  Option.Rel (AgreeOn names) (n.members names) (n'.members names)

end Toml

open Toml (AgreeOn SameSection)

namespace Settings

/-- Tables that differ only in names that are none of the settings', in the order of names and in
where they are written. -/
structure Same (t t' : Table) : Prop where
  fields : AgreeOn ["adapter", "strict_adapter"] t.find? t'.find?
  listener : Option.Rel (SameSection ["host", "port"]) (t.find? "listener") (t'.find? "listener")
  timeouts : Option.Rel (SameSection ["request_secs"]) (t.find? "timeouts") (t'.find? "timeouts")
  security : Option.Rel (SameSection ["max_body_size"]) (t.find? "security") (t'.find? "security")
  observability :
    Option.Rel (SameSection ["log_level", "log_format", "metrics_enabled", "metrics_address"])
      (t.find? "observability") (t'.find? "observability")

end Settings

namespace Toml

theorem rel_none_iff {α β : Type} {R : α → β → Prop} {a : Option α} {b : Option β}
    (h : Option.Rel R a b) : a = none ↔ b = none := by
  cases h <;> simp

/-- What is so of one of two related values is so of the other one. -/
theorem rel_exists_iff {α β : Type} {R : α → β → Prop} {P : α → Prop} {Q : β → Prop} {a : Option α}
    {b : Option β} (h : Option.Rel R a b) (hPQ : ∀ x y, a = some x → b = some y → R x y → (P x ↔ Q y)) :
    (∃ x, a = some x ∧ P x) ↔ ∃ y, b = some y ∧ Q y := by
  cases h with
  | none => simp
  | some h => simpa using hPQ _ _ rfl rfl h

namespace TableOf

variable {α : Type} {t : TableOf α}

theorem entries_eq_nil_iff : t.entries = [] ↔ ∀ name, t.find? name = none := by
  simp only [find?_eq_none_iff, List.eq_nil_iff_forall_not_mem]
  exact ⟨fun h name e he => absurd he (h e), fun h e he => h e.1.name e he rfl⟩

/-- A name that stands alone in a table. -/
theorem sole_iff (ht : t.NamesOnce) {name : String} {a : α} :
    (∃ key, t.entries = [(key, a)] ∧ key.name = name) ↔
      t.find? name = some a ∧ ∀ other, other ≠ name → t.find? other = none := by
  constructor
  · rintro ⟨key, hone, rfl⟩
    refine ⟨by simp [find?, hone], fun other hother => ?_⟩
    simp [find?, hone, hother.symm]
  · rintro ⟨hfound, hothers⟩
    obtain ⟨key, hmem, hname⟩ := exists_of_find? hfound
    have hall : ∀ e ∈ t.entries, e.1.name = name := by
      intro e he
      by_contra hne
      exact find?_eq_none_iff.mp (hothers _ hne) e he rfl
    unfold NamesOnce at ht
    cases hentries : t.entries with
    | nil => simp [hentries] at hmem
    | cons e rest =>
      rw [hentries] at ht hmem hall
      have hrest : rest = [] := by
        refine List.eq_nil_iff_forall_not_mem.mpr fun e' he' => ?_
        have hsame := (hall e' (List.mem_cons_of_mem _ he')).trans (hall e List.mem_cons_self).symm
        exact (List.nodup_cons.mp ht).1 (List.mem_map.mpr ⟨e', he', hsame⟩)
      subst hrest
      rw [← List.mem_singleton.mp hmem]
      exact ⟨key, rfl, hname⟩

end TableOf

namespace Node

variable {n n' : Node}

theorem Clear.of_members (hclear : n.Clear) {names : List String} {find : String → Option Node}
    (h : n.members names = some find) {name : String} {m : Node} (hm : find name = some m) :
    m.Clear := by
  cases hclear with
  | @scalar value _ =>
    cases value <;> cases h
    cases hm
  | array hitems =>
    cases h
    exact hitems m (List.mem_of_getElem? hm)
  | inlineTable hnames hvalues =>
    cases h
    exact TableOf.Distinct.of_find? ⟨hnames, hvalues⟩ hm
  | table hnames hvalues =>
    cases h
    exact TableOf.Distinct.of_find? ⟨hnames, hvalues⟩ hm
  | tables _ hnames hvalues =>
    cases h
    obtain ⟨t, ht, rfl⟩ := List.mem_map.mp (List.mem_of_getElem? hm)
    exact .table (hnames t ht) (hvalues t ht)

namespace Alike

variable (h : n.Alike n')

include h

theorem scalar?_eq : n.scalar? = n'.scalar? := by
  cases h with
  | scalar => rfl
  | items hn hn' _ => cases n <;> cases hn <;> cases n' <;> cases hn' <;> rfl
  | table hn hn' _ => cases n <;> cases hn <;> cases n' <;> cases hn' <;> rfl

theorem items?_rel : Option.Rel (List.Forall₂ Alike) n.items? n'.items? := by
  cases h with
  | scalar => exact .none
  | items hn hn' h =>
    rw [hn, hn']
    exact .some h
  | table hn hn' _ => cases n <;> cases hn <;> cases n' <;> cases hn' <;> exact .none

theorem table?_rel : Option.Rel (fun t t' => ∀ name, Option.Rel Alike (t.find? name) (t'.find? name))
    n.table? n'.table? := by
  cases h with
  | scalar => exact .none
  | items hn hn' _ => cases n <;> cases hn <;> cases n' <;> cases hn' <;> exact .none
  | table hn hn' h =>
    rw [hn, hn']
    exact .some h

end Alike

end Node
end Toml

section Reads

variable {node : Node}

theorem isFormat_iff (hclear : node.Clear) {f : LogFormat} :
    IsFormat f node ↔ IsText node f.name ∨ ∃ t, node.table? = some t ∧
      (∃ content, t.find? f.name = some content ∧ IsEmpty content) ∧
      ∀ other, other ≠ f.name → t.find? other = none := by
  have hnames : ∀ t, node.table? = some t → t.NamesOnce := by
    intro t ht
    cases hclear <;> cases ht <;> assumption
  constructor
  · intro h
    cases h with
    | name h => exact .inl h
    | table ht hone hname hempty =>
      have hsole := (Toml.TableOf.sole_iff (hnames _ ht)).mp ⟨_, hone, hname⟩
      exact .inr ⟨_, ht, ⟨_, hsole.1, hempty⟩, hsole.2⟩
  · rintro (h | ⟨t, ht, ⟨content, hfound, hempty⟩, hothers⟩)
    · exact .name h
    · obtain ⟨key, hone, hname⟩ := (Toml.TableOf.sole_iff (hnames t ht)).mpr ⟨hfound, hothers⟩
      exact .table ht hone hname hempty

end Reads

section Congruence

variable {n n' : Node}

theorem isText_congr (h : n.Alike n') (s : String) : IsText n s ↔ IsText n' s := by
  unfold IsText
  rw [h.scalar?_eq]

theorem isTruth_congr (h : n.Alike n') (b : Bool) : IsTruth n b ↔ IsTruth n' b := by
  unfold IsTruth
  rw [h.scalar?_eq]

theorem isNumber_congr (h : n.Alike n') (k : Nat) : IsNumber n k ↔ IsNumber n' k := by
  unfold IsNumber
  rw [h.scalar?_eq]

theorem isEmpty_congr (h : n.Alike n') : IsEmpty n ↔ IsEmpty n' := by
  have hitems : n.items? = some [] ↔ n'.items? = some [] := by
    simpa using Toml.rel_exists_iff (P := (· = [])) (Q := (· = [])) h.items?_rel
      fun xs ys _ _ hxs => by cases hxs <;> simp
  have htable := Toml.rel_exists_iff (P := fun t => t.entries = []) (Q := fun t => t.entries = [])
    h.table?_rel fun t t' _ _ ht => by
      rw [Toml.TableOf.entries_eq_nil_iff, Toml.TableOf.entries_eq_nil_iff]
      exact forall_congr' fun name => Toml.rel_none_iff (ht name)
  exact or_congr hitems htable

theorem isFormat_congr (h : n.Alike n') (hclear : n.Clear) (hclear' : n'.Clear) (f : LogFormat) :
    IsFormat f n ↔ IsFormat f n' := by
  rw [isFormat_iff hclear, isFormat_iff hclear']
  refine or_congr (isText_congr h f.name) (Toml.rel_exists_iff h.table?_rel fun t t' _ _ ht => ?_)
  refine and_congr (Toml.rel_exists_iff (ht f.name) fun _ _ _ _ => isEmpty_congr) ?_
  exact forall₂_congr fun other _ => Toml.rel_none_iff (ht other)

/-- Nodes that are read alike give a field the same value. -/
theorem holds_congr {α : Type} {R : Node → Node → Prop} {w w' : Option Node}
    (Reads : Node → α → Prop) (default a : α) (h : Option.Rel R w w')
    (hreads : ∀ m m', w = some m → w' = some m' → R m m' → (Reads m a ↔ Reads m' a)) :
    Holds Reads default w a ↔ Holds Reads default w' a := by
  cases h with
  | none => exact Iff.rfl
  | some h => exact hreads _ _ rfl rfl h

/-- What is below a name is clear. -/
def ClearBelow (find : String → Option Node) : Prop := ∀ name m, find name = some m → m.Clear

section Sections

variable {find find' : String → Option Node}

theorem Listener.described_congr (h : AgreeOn ["host", "port"] find find') (l : Listener) :
    l.Described find ↔ l.Described find' := by
  have hhost := holds_congr IsText "0.0.0.0" l.host (h "host" (by simp))
    fun _ _ _ _ hm => isText_congr hm l.host
  have hport := holds_congr IsPort 8000 l.port
    (h "port" (by simp)) fun _ _ _ _ hm => isNumber_congr hm l.port.toNat
  exact ⟨fun hl => ⟨hhost.mp hl.host, hport.mp hl.port⟩,
    fun hl => ⟨hhost.mpr hl.host, hport.mpr hl.port⟩⟩

theorem Timeouts.described_congr (h : AgreeOn ["request_secs"] find find') (t : Timeouts) :
    t.Described find ↔ t.Described find' := by
  have hsecs := holds_congr IsLong 30 t.requestSecs
    (h "request_secs" (by simp)) fun _ _ _ _ hm => isNumber_congr hm t.requestSecs.toNat
  exact ⟨fun ht => ⟨hsecs.mp ht.requestSecs⟩, fun ht => ⟨hsecs.mpr ht.requestSecs⟩⟩

theorem Security.described_congr (h : AgreeOn ["max_body_size"] find find') (s : Security) :
    s.Described find ↔ s.Described find' := by
  have hsize := holds_congr IsLong 2097152 s.maxBodySize
    (h "max_body_size" (by simp)) fun _ _ _ _ hm => isNumber_congr hm s.maxBodySize.toNat
  exact ⟨fun hs => ⟨hsize.mp hs.maxBodySize⟩, fun hs => ⟨hsize.mpr hs.maxBodySize⟩⟩

theorem Observability.described_congr
    (h : AgreeOn ["log_level", "log_format", "metrics_enabled", "metrics_address"] find find')
    (hclear : ClearBelow find) (hclear' : ClearBelow find') (o : Observability) :
    o.Described find ↔ o.Described find' := by
  have hlevel := holds_congr IsText "info" o.logLevel (h "log_level" (by simp))
    fun _ _ _ _ hm => isText_congr hm o.logLevel
  have hformat := holds_congr (fun node f => IsFormat f node) .pretty o.logFormat
    (h "log_format" (by simp))
    fun _ _ hw hw' hm => isFormat_congr hm (hclear _ _ hw) (hclear' _ _ hw') o.logFormat
  have hmetrics := holds_congr IsTruth false o.metricsEnabled (h "metrics_enabled" (by simp))
    fun _ _ _ _ hm => isTruth_congr hm o.metricsEnabled
  have haddress := holds_congr IsText "0.0.0.0:9090" o.metricsAddress
    (h "metrics_address" (by simp)) fun _ _ _ _ hm => isText_congr hm o.metricsAddress
  exact ⟨fun ho => ⟨hlevel.mp ho.logLevel, hformat.mp ho.logFormat, hmetrics.mp ho.metricsEnabled,
      haddress.mp ho.metricsAddress⟩,
    fun ho => ⟨hlevel.mpr ho.logLevel, hformat.mpr ho.logFormat, hmetrics.mpr ho.metricsEnabled,
      haddress.mpr ho.metricsAddress⟩⟩

theorem inSection_congr {σ : Type} {names : List String}
    {Described : (String → Option Node) → σ → Prop} {s : σ} (h : SameSection names n n')
    (hclear : n.Clear) (hclear' : n'.Clear)
    (hdesc : ∀ {find find'}, AgreeOn names find find' → ClearBelow find → ClearBelow find' →
      (Described find s ↔ Described find' s)) :
    InSection names Described n s ↔ InSection names Described n' s :=
  Toml.rel_exists_iff h fun _ _ hfind hfind' hagree => hdesc hagree
    (fun _ _ => hclear.of_members hfind) fun _ _ => hclear'.of_members hfind'

end Sections

end Congruence

namespace Settings

variable {t t' : Table}

/-- The same tables document the same settings. -/
theorem documented_congr (h : Same t t') (hclear : t.Clear) (hclear' : t'.Clear) (c : Settings) :
    Documented t c ↔ Documented t' c := by
  have hadapter := holds_congr (fun node a => ∃ s, IsText node s ∧ a = some s) none c.adapter
    (h.fields "adapter" (by simp))
    fun _ _ _ _ hm => exists_congr fun s => and_congr_left' (isText_congr hm s)
  have hstrict := holds_congr IsTruth false c.strictAdapter (h.fields "strict_adapter" (by simp))
    fun _ _ _ _ hm => isTruth_congr hm c.strictAdapter
  have hlistener := holds_congr _ {} c.listener h.listener
    fun _ _ hw hw' hm => inSection_congr hm (hclear.of_find? hw) (hclear'.of_find? hw')
      fun hagree _ _ => Listener.described_congr hagree c.listener
  have htimeouts := holds_congr _ {} c.timeouts h.timeouts
    fun _ _ hw hw' hm => inSection_congr hm (hclear.of_find? hw) (hclear'.of_find? hw')
      fun hagree _ _ => Timeouts.described_congr hagree c.timeouts
  have hsecurity := holds_congr _ {} c.security h.security
    fun _ _ hw hw' hm => inSection_congr hm (hclear.of_find? hw) (hclear'.of_find? hw')
      fun hagree _ _ => Security.described_congr hagree c.security
  have hobservability := holds_congr _ {} c.observability h.observability
    fun _ _ hw hw' hm => inSection_congr hm (hclear.of_find? hw) (hclear'.of_find? hw')
      fun hagree hbelow hbelow' => Observability.described_congr hagree hbelow hbelow' c.observability
  exact ⟨fun hc => ⟨hadapter.mp hc.adapter, hstrict.mp hc.strictAdapter, hlistener.mp hc.listener,
      htimeouts.mp hc.timeouts, hsecurity.mp hc.security, hobservability.mp hc.observability⟩,
    fun hc => ⟨hadapter.mpr hc.adapter, hstrict.mpr hc.strictAdapter, hlistener.mpr hc.listener,
      htimeouts.mpr hc.timeouts, hsecurity.mpr hc.security, hobservability.mpr hc.observability⟩⟩

/-- The file is a document with this table. -/
def HasTable (files : Storage.Reader) (path : Storage.Bytes) (t : Table) : Prop :=
  ∃ bytes text, files path = .ok bytes ∧ Text.Utf8.decode bytes = .ok text ∧
    Toml.read text.toList = .ok t

/-- The fields of the settings. -/
inductive Field where
  | adapter
  | strictAdapter
  | host
  | port
  | requestSecs
  | maxBodySize
  | logLevel
  | logFormat
  | metricsEnabled
  | metricsAddress

namespace Field

/-- The value of a name in a section with these names. -/
def inSection? (t : Table) (sectionName : String) (names : List String) (name : String) :
    Option Node :=
  (t.find? sectionName).bind fun node => (node.members names).bind fun find => find name

/-- What a table has for a field. -/
def node? (t : Table) : Field → Option Node
  | .adapter => t.find? "adapter"
  | .strictAdapter => t.find? "strict_adapter"
  | .host => inSection? t "listener" ["host", "port"] "host"
  | .port => inSection? t "listener" ["host", "port"] "port"
  | .requestSecs => inSection? t "timeouts" ["request_secs"] "request_secs"
  | .maxBodySize => inSection? t "security" ["max_body_size"] "max_body_size"
  | .logLevel => observability t "log_level"
  | .logFormat => observability t "log_format"
  | .metricsEnabled => observability t "metrics_enabled"
  | .metricsAddress => observability t "metrics_address"
where
  observability (t : Table) : String → Option Node :=
    inSection? t "observability" ["log_level", "log_format", "metrics_enabled", "metrics_address"]

/-- The node is of the type of the field, and a number is in its range. -/
def Fits (node : Node) : Field → Prop
  | .adapter | .host | .logLevel | .metricsAddress => ∃ s, IsText node s
  | .strictAdapter | .metricsEnabled => ∃ b, IsTruth node b
  | .port => ∃ n ≤ 65535, IsNumber node n
  | .requestSecs | .maxBodySize => ∃ n < 2 ^ 64, IsNumber node n
  | .logFormat => ∃ f, IsFormat f node

end Field

section Fields

variable {c : Settings} {node : Node}

theorem reads_of_inSection {σ α : Type} {names : List String} {sectionName name : String}
    {Described : (String → Option Node) → σ → Prop} {default s : σ}
    (Reads : Node → α → Prop) {d a : α}
    (h : Holds (InSection names Described) default (t.find? sectionName) s)
    (hdesc : ∀ {find}, Described find s → Holds Reads d (find name) a)
    (hnode : Field.inSection? t sectionName names name = some node) : Reads node a := by
  obtain ⟨place, hplace, hnode⟩ := Option.bind_eq_some_iff.mp hnode
  obtain ⟨find, hfind, hnode⟩ := Option.bind_eq_some_iff.mp hnode
  rw [hplace] at h
  obtain ⟨find', hfind', h⟩ := h
  obtain rfl := Option.some.inj (hfind.symm.trans hfind')
  have hread := hdesc h
  rwa [hnode] at hread

/-- Settings are documented only by values that fit. -/
theorem Documented.fits (h : Documented t c) {field : Field} (hnode : field.node? t = some node) :
    field.Fits node := by
  cases field with
  | adapter =>
    have hread := h.adapter
    rw [show t.find? "adapter" = some node from hnode] at hread
    obtain ⟨s, hs, _⟩ := hread
    exact ⟨s, hs⟩
  | strictAdapter =>
    have hread := h.strictAdapter
    rw [show t.find? "strict_adapter" = some node from hnode] at hread
    exact ⟨_, hread⟩
  | host => exact ⟨_, reads_of_inSection IsText h.listener Listener.Described.host hnode⟩
  | port =>
    exact ⟨_, Nat.le_of_lt_succ c.listener.port.toNat_lt,
      reads_of_inSection IsPort h.listener Listener.Described.port hnode⟩
  | requestSecs =>
    exact ⟨_, c.timeouts.requestSecs.toNat_lt,
      reads_of_inSection IsLong h.timeouts Timeouts.Described.requestSecs hnode⟩
  | maxBodySize =>
    exact ⟨_, c.security.maxBodySize.toNat_lt,
      reads_of_inSection IsLong h.security Security.Described.maxBodySize hnode⟩
  | logLevel =>
    exact ⟨_, reads_of_inSection IsText h.observability Observability.Described.logLevel hnode⟩
  | logFormat =>
    exact ⟨_, reads_of_inSection (fun node f => IsFormat f node) h.observability
      Observability.Described.logFormat hnode⟩
  | metricsEnabled =>
    exact ⟨_, reads_of_inSection IsTruth h.observability Observability.Described.metricsEnabled hnode⟩
  | metricsAddress =>
    exact ⟨_, reads_of_inSection IsText h.observability Observability.Described.metricsAddress hnode⟩

end Fields

section Files

variable {files : Storage.Reader} {path : Storage.Bytes} {c : Settings}

theorem read_of_hasTable (h : HasTable files path t) :
    (∃ c, read files path = .ok c ∧ ofTable t = .ok c) ∨
      ∃ fault, read files path = .error (.undecodable fault) ∧ ∀ c, ofTable t ≠ .ok c := by
  obtain ⟨bytes, text, hbytes, htext, htable⟩ := h
  unfold read ofFile ofDocument
  rw [hbytes]
  dsimp only
  rw [htext]
  dsimp only
  rw [htable]
  cases hc : ofTable t with
  | ok c => exact .inl ⟨c, by simp only [hc], rfl⟩
  | error m => exact .inr ⟨.ofMisfit text.toList m, by simp only [hc], fun c h => by cases h⟩

theorem hasTable_of_read (h : read files path = .ok c) : ∃ t, HasTable files path t := by
  unfold read ofFile at h
  split at h
  · cases h
  · next bytes hbytes =>
    split at h
    · cases h
    · next text htext =>
      unfold ofDocument at h
      cases ht : Toml.read text.toList with
      | error f =>
        rw [ht] at h
        cases h
      | ok t => exact ⟨t, bytes, text, hbytes, htext, ht⟩

theorem HasTable.clear (h : HasTable files path t) : t.Clear := by
  obtain ⟨_, _, _, _, ht⟩ := h
  exact Toml.clear_of_read ht

theorem read_iff_documented (h : HasTable files path t) :
    read files path = .ok c ↔ Documented t c := by
  rw [← ofTable_iff h.clear]
  rcases read_of_hasTable h with ⟨c', hread, hc'⟩ | ⟨fault, hread, hnone⟩
  · rw [hread, hc']
    simp
  · rw [hread]
    simp [hnone c]

end Files

/-- A file gives the settings that its table documents. A value that does not fit its field makes the
document undecodable, and tables that differ in nothing but other names and the order of names give
the same settings, or none. -/
theorem read_by_table (files : Storage.Reader) (path : Storage.Bytes) :
    (∀ c, read files path = .ok c ↔ ∃ t, HasTable files path t ∧ Documented t c) ∧
      ∀ t, HasTable files path t →
        (∀ field node, Field.node? t field = some node → ¬ field.Fits node →
          ∃ fault, read files path = .error (.undecodable fault)) ∧
        ∀ files' path' t', HasTable files' path' t' → Same t t' →
          ∀ c, read files path = .ok c ↔ read files' path' = .ok c := by
  refine ⟨fun c => ⟨fun h => ?_, fun ⟨t, ht, h⟩ => (read_iff_documented ht).mpr h⟩,
    fun t ht => ⟨fun field node hnode hfits => ?_, fun files' path' t' ht' hsame c => ?_⟩⟩
  · obtain ⟨t, ht⟩ := hasTable_of_read h
    exact ⟨t, ht, (read_iff_documented ht).mp h⟩
  · rcases read_of_hasTable ht with ⟨c, hread, _⟩ | ⟨fault, hread, _⟩
    · exact absurd (((read_iff_documented ht).mp hread).fits hnode) hfits
    · exact ⟨fault, hread⟩
  · rw [read_iff_documented ht, read_iff_documented ht',
      documented_congr hsame ht.clear ht'.clear]

/-- Files that all have this text. -/
def everywhere (text : String) : Storage.Reader := fun _ => .ok (Text.Utf8.encode text)

/-- The scalars below the names of the settings. -/
def outline (t : Table) : List (Option (Option Toml.Scalar)) :=
  ["adapter", "strict_adapter", "listener", "timeouts", "security", "observability"].map
    fun name => (t.find? name).map Node.scalar?

theorem hasTable_of_outline {text : String} {shape : List (Option (Option Toml.Scalar))}
    (h : (Toml.read text.toList).toOption.map outline = some shape) (path : Storage.Bytes) :
    ∃ t, HasTable (everywhere text) path t ∧ outline t = shape := by
  cases ht : Toml.read text.toList with
  | error f =>
    rw [ht] at h
    cases h
  | ok t =>
    rw [ht] at h
    exact ⟨t, ⟨_, text, rfl, Text.Utf8.decode_encode text, ht⟩, Option.some.inj h⟩

theorem alike_of_scalar {t t' : Table} {name : String} {value : Toml.Scalar}
    (h : (t.find? name).map Node.scalar? = some (some value))
    (h' : (t'.find? name).map Node.scalar? = some (some value)) :
    Option.Rel Node.Alike (t.find? name) (t'.find? name) := by
  obtain ⟨n, hn, hscalar⟩ := Option.map_eq_some_iff.mp h
  obtain ⟨n', hn', hscalar'⟩ := Option.map_eq_some_iff.mp h'
  rw [hn, hn']
  cases n <;> cases hscalar
  cases n' <;> cases hscalar'
  exact .some .scalar

/-- The other order and another name change nothing; a port that is too large is refused. -/
theorem reordered_and_out_of_range :
    (∀ c, read (everywhere "adapter = 'MYSQL'\nstrict_adapter = true\n") [] = .ok c ↔
      read (everywhere "colour = 3\nstrict_adapter = true\nadapter = \"MYSQL\"\n") [] = .ok c) ∧
      ∃ fault, read (everywhere "listener.port = 65536") [] = .error (.undecodable fault) := by
  have hshape : (Toml.read "adapter = 'MYSQL'\nstrict_adapter = true\n".toList).toOption.map outline =
      some [some (some (.text "MYSQL")), some (some (.truth true)), none, none, none, none] := by
    decide +kernel
  have hshape' : (Toml.read
      "colour = 3\nstrict_adapter = true\nadapter = \"MYSQL\"\n".toList).toOption.map outline =
      some [some (some (.text "MYSQL")), some (some (.truth true)), none, none, none, none] := by
    decide +kernel
  have hport : (Toml.read "listener.port = 65536".toList).toOption.map
      (fun t => (Field.node? t .port).bind Node.scalar?) = some (some (.integer 65536)) := by
    decide +kernel
  constructor
  · obtain ⟨t, ht, hout⟩ := hasTable_of_outline hshape []
    obtain ⟨t', ht', hout'⟩ := hasTable_of_outline hshape' []
    simp only [outline, List.map_cons, List.map_nil, List.cons.injEq, Option.map_eq_none_iff] at hout hout'
    obtain ⟨hadapter, hstrict, hlistener, htimeouts, hsecurity, hobservability, _⟩ := hout
    obtain ⟨hadapter', hstrict', hlistener', htimeouts', hsecurity', hobservability', _⟩ := hout'
    have hsame : Same t t' := by
      refine ⟨List.forall_mem_cons.mpr ⟨alike_of_scalar hadapter hadapter',
        List.forall_mem_singleton.mpr (alike_of_scalar hstrict hstrict')⟩, ?_, ?_, ?_, ?_⟩
      · rw [hlistener, hlistener']
        exact .none
      · rw [htimeouts, htimeouts']
        exact .none
      · rw [hsecurity, hsecurity']
        exact .none
      · rw [hobservability, hobservability']
        exact .none
    exact ((read_by_table _ _).2 t ht).2 _ _ t' ht' hsame
  · cases ht : Toml.read "listener.port = 65536".toList with
    | error f =>
      rw [ht] at hport
      cases hport
    | ok t =>
      rw [ht] at hport
      obtain ⟨n, hn, hscalar⟩ := Option.bind_eq_some_iff.mp (Option.some.inj hport)
      have htable : HasTable (everywhere "listener.port = 65536") [] t :=
        ⟨_, _, rfl, Text.Utf8.decode_encode _, ht⟩
      refine ((read_by_table _ _).2 t htable).1 .port n hn ?_
      rintro ⟨k, hk, hnumber⟩
      have h65536 : (65536 : Int) = k := by
        simpa using (hscalar.symm.trans hnumber)
      omega

end Settings
end DevServer
