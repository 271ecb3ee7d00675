import DevServer.Toml.Document

/-!
# Each key once

In the table that a text is read as, and in every table inside it, each name stands once. The tables
change in five ways (a further entry, another value in its place, one taken away, one moved to the
end, a table added to several), each of which keeps that; values are read by scans, of which it is
enough to know what they yield when they succeed.
-/
namespace DevServer.Toml

set_option autoImplicit false

section Tables

variable {α : Type} {P : α → Prop} {t : TableOf α} {name : String} {a : α}

def TableOf.NamesOnce (t : TableOf α) : Prop := (t.entries.map fun e => e.1.name).Nodup

/-- Each name stands once in the table, and every value has the property. -/
structure TableOf.Distinct (P : α → Prop) (t : TableOf α) : Prop where
  names : t.NamesOnce
  values : ∀ e ∈ t.entries, P e.2

namespace TableOf

theorem find?_eq_none_iff : t.find? name = none ↔ ∀ e ∈ t.entries, e.1.name ≠ name := by
  simp [find?]

theorem exists_of_find? (h : t.find? name = some a) : ∃ key, (key, a) ∈ t.entries ∧ key.name = name := by
  obtain ⟨⟨key, value⟩, he, rfl⟩ := Option.map_eq_some_iff.mp h
  exact ⟨key, List.mem_of_find?_eq_some he, by simpa using List.find?_some he⟩

theorem find?_erase_self : (t.erase name).find? name = none := by
  rw [find?_eq_none_iff]
  intro e he
  simpa using (List.mem_filter.mp he).2

namespace Distinct

theorem of_find? (ht : t.Distinct P) (h : t.find? name = some a) : P a := by
  obtain ⟨key, hmem, _⟩ := exists_of_find? h
  exact ht.values _ hmem

theorem of_no_entries (h : t.entries = []) : t.Distinct P := by
  constructor <;> simp [NamesOnce, h]

/-- What else is known of a table does not matter. -/
theorem of_entries {t' : TableOf α} (ht : t.Distinct P) (h : t'.entries = t.entries) :
    t'.Distinct P := by
  constructor
  · unfold NamesOnce
    rw [h]
    exact ht.names
  · rw [h]
    exact ht.values

theorem push {key : Key} (ht : t.Distinct P) (hkey : t.find? key.name = none) (ha : P a) :
    (t.push key a).Distinct P := by
  have hnew := find?_eq_none_iff.mp hkey
  constructor
  · unfold NamesOnce TableOf.push
    rw [List.map_append, List.nodup_append]
    refine ⟨ht.names, List.pairwise_singleton .., ?_⟩
    rintro _ hold _ hadded rfl
    obtain ⟨e, he, hname⟩ := List.mem_map.mp hold
    exact hnew e he (hname.trans (List.mem_singleton.mp hadded))
  · intro e he
    rcases List.mem_append.mp he with hold | hadded
    · exact ht.values e hold
    · rw [List.mem_singleton.mp hadded]
      exact ha

theorem replace (ht : t.Distinct P) (ha : P a) : (t.replace name a).Distinct P := by
  constructor
  · have hsame : (t.replace name a).entries.map (fun e => e.1.name) =
        t.entries.map fun e => e.1.name := by
      unfold TableOf.replace
      rw [List.map_map]
      refine List.map_congr_left fun e _ => ?_
      dsimp only [Function.comp]
      split <;> rfl
    unfold NamesOnce
    rw [hsame]
    exact ht.names
  · intro e he
    obtain ⟨old, hold, rfl⟩ := List.mem_map.mp he
    split
    · exact ha
    · exact ht.values old hold

theorem erase (ht : t.Distinct P) : (t.erase name).Distinct P :=
  ⟨ht.names.sublist (List.filter_sublist.map _), fun e he => ht.values e (List.mem_filter.mp he).1⟩

end Distinct
end TableOf

end Tables

/-- In a value, each table has each name once. -/
inductive Node.Clear : Node → Prop
  | scalar {value : Scalar} {span : Span} : Clear (.scalar value span)
  | array {items : List Node} {span : Span} : (∀ n ∈ items, Clear n) → Clear (.array items span)
  | inlineTable {t : Table} : t.NamesOnce → (∀ e ∈ t.entries, Clear e.2) → Clear (.inlineTable t)
  | table {t : Table} : t.NamesOnce → (∀ e ∈ t.entries, Clear e.2) → Clear (.table t)
  | tables {items : List Table} : items ≠ [] → (∀ t ∈ items, t.NamesOnce) →
    (∀ t ∈ items, ∀ e ∈ t.entries, Clear e.2) → Clear (.tables items)

/-- Each name stands once in the table and in those inside it. -/
abbrev Table.Clear (t : Table) : Prop := t.Distinct Node.Clear

namespace Node

variable {t : Table} {items : List Table}

theorem clear_inlineTable_iff : (inlineTable t).Clear ↔ Table.Clear t :=
  ⟨fun | .inlineTable hnames hvalues => ⟨hnames, hvalues⟩, fun h => .inlineTable h.names h.values⟩

theorem clear_table_iff : (table t).Clear ↔ Table.Clear t :=
  ⟨fun | .table hnames hvalues => ⟨hnames, hvalues⟩, fun h => .table h.names h.values⟩

theorem clear_tables_iff : (tables items).Clear ↔ items ≠ [] ∧ ∀ t ∈ items, Table.Clear t :=
  ⟨fun | .tables hne hnames hvalues => ⟨hne, fun t ht => ⟨hnames t ht, hvalues t ht⟩⟩,
    fun ⟨hne, h⟩ => .tables hne (fun t ht => (h t ht).names) fun t ht => (h t ht).values⟩

end Node

/-- The change makes tables that are clear of such ones. -/
def KeepsClear (change : Table → Except Cause Table) : Prop :=
  ∀ t t', t.Clear → change t = .ok t' → Table.Clear t'

theorem bind_eq_ok {ε α β : Type} {x : Except ε α} {f : α → Except ε β} {b : β} :
    (x >>= f) = .ok b ↔ ∃ a, x = .ok a ∧ f a = .ok b := by
  cases x <;> simp [bind, Except.bind]

theorem asCheck_eq_ok_iff {α : Type} {x : Except Cause α} {a : α} :
    asCheck x = .ok a ↔ x = .ok a := by
  cases x <;> simp [asCheck]

section Changes

variable {change : Table → Except Cause Table}

theorem Table.clear_implied (dotted : Bool) : Table.Clear (.implied dotted) := .of_no_entries rfl

theorem keepsClear_insert {e : Entry} (he : e.value.Clear) (place : Option (List String)) :
    KeepsClear (e.insert place) := by
  intro t t' ht h
  unfold Entry.insert at h
  split at h
  · cases h
  · split at h
    · cases h
    · next hnew =>
      obtain rfl := Except.ok.inj h
      exact ht.push (by simpa using hnew) he

theorem keepsClear_alterInline (hchange : KeepsClear change) (before path : List Key) :
    KeepsClear (alterInline change before path) := by
  induction path generalizing before with
  | nil => exact hchange
  | cons k rest ih =>
    intro t t' ht h
    unfold alterInline at h
    split at h
    · next hnone =>
      obtain ⟨child, hchild, h⟩ := bind_eq_ok.mp h
      obtain rfl := Except.ok.inj h
      have hclear := ih _ _ _ (Table.clear_implied true) hchild
      exact ht.push hnone (Node.clear_inlineTable_iff.mpr hclear)
    · next child hfound =>
      split at h
      · cases h
      · obtain ⟨child', hchild, h⟩ := bind_eq_ok.mp h
        obtain rfl := Except.ok.inj h
        have hclear := ih _ _ _ (Node.clear_inlineTable_iff.mp (ht.of_find? hfound)) hchild
        exact ht.replace (Node.clear_inlineTable_iff.mpr hclear)
    · cases h

theorem Table.clear_ofEntries {entries : List Entry} (he : ∀ e ∈ entries, e.value.Clear) {t : Table}
    (h : Table.ofEntries entries = .ok t) : t.Clear := by
  have hfold : ∀ (es : List Entry) (t t' : Table), (∀ e ∈ es, e.value.Clear) → t.Clear →
      es.foldlM (fun t e => alterInline (e.insert none) [] e.path t) t = .ok t' → t'.Clear := by
    intro es
    induction es with
    | nil =>
      intro t t' _ ht h
      obtain rfl := Except.ok.inj h
      exact ht
    | cons e es ih =>
      intro t t' hes ht h
      rw [List.foldlM_cons] at h
      obtain ⟨t1, h1, h⟩ := bind_eq_ok.mp h
      have hstep := keepsClear_alterInline (keepsClear_insert (hes e List.mem_cons_self) none) [] e.path
      exact ih t1 t' (fun e' he' => hes e' (List.mem_cons_of_mem _ he')) (hstep t t1 ht h1) h
  exact hfold entries {} t he (.of_no_entries rfl) h

theorem clear_getLast {items : List Table} (hne : items ≠ []) (h : ∀ t ∈ items, Table.Clear t) :
    Table.Clear (items.getLast?.getD {}) := by
  rw [List.getLast?_eq_some_getLast hne]
  exact h _ (List.getLast_mem hne)

theorem keepsClear_alterTable (hchange : KeepsClear change) (dotted : Bool) (before path : List Key) :
    KeepsClear (alterTable dotted change before path) := by
  induction path generalizing before with
  | nil => exact hchange
  | cons k rest ih =>
    intro t t' ht h
    unfold alterTable at h
    split at h
    · next hnone =>
      obtain ⟨child, hchild, h⟩ := bind_eq_ok.mp h
      obtain rfl := Except.ok.inj h
      have hclear := ih _ _ _ (Table.clear_implied dotted) hchild
      exact ht.push hnone (Node.clear_table_iff.mpr hclear)
    · next child hfound =>
      split at h
      · cases h
      · obtain ⟨child', hchild, h⟩ := bind_eq_ok.mp h
        obtain rfl := Except.ok.inj h
        have hclear := ih _ _ _ (Node.clear_table_iff.mp (ht.of_find? hfound)) hchild
        exact ht.replace (Node.clear_table_iff.mpr hclear)
    · next items hfound =>
      obtain ⟨last, hlast, h⟩ := bind_eq_ok.mp h
      obtain rfl := Except.ok.inj h
      obtain ⟨hne, hitems⟩ := Node.clear_tables_iff.mp (ht.of_find? hfound)
      have hclear := ih _ _ _ (clear_getLast hne hitems) hlast
      refine ht.replace (Node.clear_tables_iff.mpr ⟨by simp, fun t hmem => ?_⟩)
      rcases List.mem_append.mp hmem with hold | hnew
      · exact hitems t (List.dropLast_subset _ hold)
      · rw [List.mem_singleton.mp hnew]
        exact hclear
    · cases h

end Changes

namespace Assembly

/-- The tables of a document of which some lines have been read. -/
structure Clear (a : Assembly) : Prop where
  root : a.root.Clear
  current : a.current.Clear

variable {a a' : Assembly}

theorem clear_start : Clear {} := ⟨.of_no_entries rfl, .of_no_entries rfl⟩

theorem clear_reopen {before : List Key} {key : Key} {parent t : Table} (hp : parent.Clear)
    (h : reopen before key parent = .ok t) : t.Clear := by
  unfold reopen at h
  split at h
  · obtain rfl := Except.ok.inj h
    exact .of_no_entries rfl
  · next found hfound =>
    split at h
    · obtain rfl := Except.ok.inj h
      exact Node.clear_table_iff.mp (hp.of_find? hfound)
    · cases h
  · cases h

/-- Where there are no other tables yet there is no entry either. -/
theorem others_spec {before : List Key} {key : Key} {parent : Table} {items : List Table}
    (hp : parent.Clear) (h : others before key parent = .ok items) :
    (∀ t ∈ items, t.Clear) ∧ (items = [] → parent.find? key.name = none) := by
  unfold others at h
  split at h
  · next hnone =>
    obtain rfl := Except.ok.inj h
    exact ⟨List.forall_mem_nil _, fun _ => hnone⟩
  · next found hfound =>
    obtain rfl := Except.ok.inj h
    obtain ⟨hne, hitems⟩ := Node.clear_tables_iff.mp (hp.of_find? hfound)
    exact ⟨hitems, fun hempty => absurd hempty hne⟩
  · cases h

theorem clear_close (ha : a.Clear) {t : Table} (h : a.close = .ok t) : t.Clear := by
  unfold close at h
  split at h
  · obtain rfl := Except.ok.inj h
    exact ha.current
  · next key _ =>
    refine keepsClear_alterTable ?_ false [] _ _ _ ha.root h
    intro parent t' hparent hplace
    dsimp only at hplace
    split at hplace
    · obtain ⟨items, hitems, hplace⟩ := bind_eq_ok.mp hplace
      obtain ⟨hclear, hnew⟩ := others_spec hparent hitems
      split at hplace
      · next hempty =>
        obtain rfl := Except.ok.inj hplace
        exact hparent.push (hnew (List.isEmpty_iff.mp hempty))
          (Node.clear_tables_iff.mpr ⟨List.cons_ne_nil _ _, List.forall_mem_singleton.mpr ha.current⟩)
      · obtain rfl := Except.ok.inj hplace
        refine hparent.replace (Node.clear_tables_iff.mpr ⟨by simp, ?_⟩)
        exact List.forall_mem_append.mpr ⟨hclear, List.forall_mem_singleton.mpr ha.current⟩
    · obtain ⟨_, _, hplace⟩ := bind_eq_ok.mp hplace
      obtain rfl := Except.ok.inj hplace
      exact hparent.erase.push TableOf.find?_erase_self (Node.clear_table_iff.mpr ha.current)

theorem clear_follow (before path : List Key) {t t' : Table} (ht : t.Clear)
    (h : follow before path t = .ok t') : t'.Clear := by
  induction path generalizing before t with
  | nil =>
    obtain rfl := Except.ok.inj h
    exact ht
  | cons k rest ih =>
    unfold follow at h
    split at h
    · obtain rfl := Except.ok.inj h
      exact .of_no_entries rfl
    · next child hfound => exact ih _ (Node.clear_table_iff.mp (ht.of_find? hfound)) h
    · next items hfound =>
      obtain ⟨hne, hitems⟩ := Node.clear_tables_iff.mp (ht.of_find? hfound)
      exact ih _ (clear_getLast hne hitems) h
    · cases h

theorem clear_openTable (ha : a.Clear) {path : List Key} {repeated : Bool} {span : Span}
    (h : a.openTable path repeated span = .ok a') : a'.Clear := by
  unfold openTable at h
  obtain ⟨root, hroot, h⟩ := bind_eq_ok.mp h
  have hroot := clear_close ha hroot
  split at h
  · obtain rfl := Except.ok.inj h
    exact ⟨hroot, .of_no_entries rfl⟩
  · obtain ⟨parent, hparent, h⟩ := bind_eq_ok.mp h
    have hparent := clear_follow _ _ hroot hparent
    dsimp only at h
    split at h
    · obtain ⟨_, _, h⟩ := bind_eq_ok.mp h
      obtain rfl := Except.ok.inj h
      exact ⟨hroot, .of_no_entries rfl⟩
    · obtain ⟨found, hfound, h⟩ := bind_eq_ok.mp h
      obtain rfl := Except.ok.inj h
      exact ⟨hroot, (clear_reopen hparent hfound).of_entries rfl⟩

theorem clear_add (ha : a.Clear) {e : Entry} (he : e.value.Clear) (h : a.add e = .ok a') :
    a'.Clear := by
  unfold add at h
  obtain ⟨current, hcurrent, h⟩ := bind_eq_ok.mp h
  obtain rfl := Except.ok.inj h
  have hcurrent := keepsClear_alterTable (keepsClear_insert he _) true [] _ _ _ ha.current hcurrent
  exact ⟨ha.root, hcurrent.of_entries rfl⟩

end Assembly

namespace Scan

/-- What the scan takes from a text has the property. -/
def Yields {α : Type} (P : α → Prop) (scan : Scan α) : Prop :=
  ∀ c a c', scan c = .ok (a, c') → P a

section Yields

variable {α β : Type} {P : α → Prop} {Q : β → Prop} {scan : Scan α}

theorem yields_any (scan : Scan α) : Yields (fun _ => True) scan := fun _ _ _ _ => trivial

theorem yields_pure {a : α} (h : P a) : Yields P (pure a) := by
  rintro c _ _ ⟨⟩
  exact h

theorem yields_fail (cause : Option Cause) : Yields P (fail cause) := by
  rintro c a c' ⟨⟩

theorem Yields.bind {next : α → Scan β} (h : Yields P scan) (hnext : ∀ a, P a → Yields Q (next a)) :
    Yields Q (scan >>= next) := by
  intro c b c' hb
  obtain ⟨⟨a, c1⟩, ha, hb⟩ := bind_eq_ok.mp hb
  exact hnext a (h c a c1 ha) c1 b c' hb

/-- What was read before does not matter. -/
theorem Yields.after {next : α → Scan β} (hnext : ∀ a, Yields Q (next a)) :
    Yields Q (scan >>= next) :=
  (yields_any scan).bind fun a _ => hnext a

theorem Yields.orElse {second : Scan α} (h : Yields P scan) (hsecond : Yields P second) :
    Yields P (orElse scan second) := by
  intro c a c' ha
  unfold Scan.orElse at ha
  split at ha
  · split at ha
    · cases ha
    · exact hsecond c a c' ha
  · next hr =>
    obtain rfl := Except.ok.inj ha
    exact h c a c' hr

theorem Yields.mapFailure {change : Failure → Failure} (h : Yields P scan) :
    Yields P (mapFailure change scan) := by
  intro c a c' ha
  unfold Scan.mapFailure at ha
  split at ha
  · cases ha
  · next hr =>
    obtain rfl := Except.ok.inj ha
    exact h c a c' hr

theorem Yields.check {accept : α → Except (Option Cause) β} (h : Yields P scan)
    (haccept : ∀ a b, P a → accept a = .ok b → Q b) : Yields Q (check accept scan) := by
  intro c b c' hb
  unfold Scan.check at hb
  split at hb
  · cases hb
  · next a _ ha =>
    split at hb
    · cases hb
    · next hok =>
      obtain ⟨⟩ := Except.ok.inj hb
      exact haccept a _ (h c a _ ha) hok

theorem Yields.optional (h : Yields P scan) :
    Yields (fun found => ∀ a, found = some a → P a) (optional scan) := by
  refine Yields.orElse (Yields.bind h fun a ha => yields_pure ?_) (yields_pure fun a h => by cases h)
  rintro _ ⟨⟩
  exact ha

theorem yields_loop {σ : Type} {I : σ → Prop} {step : σ → Scan (Option σ)}
    (hstep : ∀ s, I s → Yields (fun found => ∀ s', found = some s' → I s') (step s)) {s : σ}
    (hs : I s) : Yields I (loop step s) := by
  intro c s' c' h
  -- The rounds of the loop leave less and less.
  induction hn : c.left using Nat.strongRecOn generalizing s c with
  | _ n ih =>
    subst hn
    unfold loop at h
    split at h
    · cases h
    · obtain ⟨⟩ := Except.ok.inj h
      exact hs
    · next s1 c1 hr =>
      have hs1 := hstep s hs c _ c1 hr s1 rfl
      split at h
      · next hless => exact ih c1.left hless hs1 c1 h rfl
      · obtain ⟨⟩ := Except.ok.inj h
        exact hs1

theorem yields_iterate {σ : Type} {I : σ → Prop} {step : σ → Scan σ}
    (hstep : ∀ s, I s → Yields I (step s)) {s : σ} (hs : I s) : Yields I (iterate step s) :=
  yields_loop (fun s hs => (hstep s hs).optional) hs

theorem Yields.many (h : Yields P scan) : Yields (fun l => ∀ a ∈ l, P a) (many scan) := by
  have hiterate : Yields (fun l => ∀ a ∈ l, P a)
      (iterate (fun acc => return (← scan) :: acc) []) :=
    yields_iterate
      (fun acc hacc => h.bind fun a ha => yields_pure (List.forall_mem_cons.mpr ⟨ha, hacc⟩))
      (List.forall_mem_nil _)
  exact hiterate.bind fun l hl => yields_pure fun a ha => hl a (List.mem_reverse.mp ha)

theorem Yields.separated (h : Yields P scan) (separator : Scan Unit) :
    Yields (fun l => ∀ a ∈ l, P a) (separated separator scan) := by
  refine Yields.orElse (h.bind fun a ha => ?_) (yields_pure (List.forall_mem_nil _))
  have hmore : Yields (fun l => ∀ a ∈ l, P a) (Scan.many (do separator; scan)) :=
    (Yields.after fun _ => h).many
  exact hmore.bind fun l hl => yields_pure (List.forall_mem_cons.mpr ⟨ha, hl⟩)

theorem Yields.spanned (h : Yields P scan) : Yields (fun r => P r.1) (spanned scan) :=
  Yields.after fun _ => h.bind fun _ ha => Yields.after fun _ => yields_pure ha

end Yields

theorem yields_entry {value : Scan Node} (h : Yields Node.Clear value) (ending : Scan Unit) :
    Yields (fun e : Entry => e.value.Clear) (entry value ending) := by
  refine Yields.after fun path => ?_
  have hvalue : Yields Node.Clear (committed do
      equalsSign
      blanks
      let value ← value
      ending
      return value) :=
    (Yields.after fun _ => .after fun _ => h.bind fun _ hn => .after fun _ => yields_pure hn).mapFailure
  refine hvalue.bind fun node hnode => ?_
  split
  · exact yields_pure hnode
  · exact yields_fail none

theorem yields_array {value : Scan Node} (h : Yields Node.Clear value) :
    Yields (fun items => ∀ n ∈ items, Node.Clear n) (array value) := by
  have hitems : Yields (fun items => ∀ n ∈ items, Node.Clear n) (arrayItems value) := by
    refine Yields.after fun next => ?_
    split
    · exact yields_pure (List.forall_mem_nil _)
    · have hvalues : Yields (fun items => ∀ n ∈ items, Node.Clear n)
          (separated (do let _ ← char ',') do
            layout
            let item ← value
            layout
            return item) :=
        Yields.separated (.after fun _ => h.bind fun _ hn => .after fun _ => yields_pure hn) _
      refine hvalues.bind fun items hclear => ?_
      split
      · exact .after fun _ => .after fun _ => yields_pure hclear
      · exact .after fun _ => yields_pure hclear
  exact .after fun _ => hitems.mapFailure.bind fun items hclear =>
    .after fun _ => yields_pure hclear

theorem yields_inlineTable {value : Scan Node} (h : Yields Node.Clear value) :
    Yields Table.Clear (inlineTable value) := by
  have hentries : Yields (fun es => ∀ e ∈ es, Node.Clear (Entry.value e)) (inlineEntries value) :=
    ((yields_entry h _).separated _).bind fun _ hes => .after fun _ => yields_pure hes
  refine Yields.after fun _ => (Yields.mapFailure (hentries.check fun es t hes ht => ?_)).bind
    fun t ht => .after fun _ => yields_pure ht
  split at ht
  · next hok =>
    obtain rfl := Except.ok.inj ht
    exact Table.clear_ofEntries hes hok
  · cases ht

theorem yields_scalar : Yields Node.Clear (do
    let (v, span) ← spanned scalar
    return .scalar v span) :=
  .after fun _ => yields_pure .scalar

theorem yields_valueWith {nested : Option (Scan Node)}
    (h : ∀ value, nested = some value → Yields Node.Clear value) :
    Yields Node.Clear (valueWith nested) := by
  refine Yields.after fun next => ?_
  split
  · exact (yields_array (h _ rfl)).spanned.bind fun _ hitems => yields_pure (.array hitems)
  · refine (yields_inlineTable (h _ rfl)).spanned.bind fun _ ht => yields_pure ?_
    exact Node.clear_inlineTable_iff.mpr (ht.of_entries rfl)
  · exact (yields_fail _).mapFailure
  · exact (yields_fail _).mapFailure
  · exact yields_scalar

theorem yields_valueWithin (depth : Nat) : Yields Node.Clear (valueWithin depth) := by
  induction depth with
  | zero => exact yields_valueWith fun _ h => by cases h
  | succ depth ih =>
    refine yields_valueWith fun value h => ?_
    obtain rfl := Option.some.inj h
    exact ih

theorem yields_headerLine {a : Assembly} (ha : a.Clear) : Yields Assembly.Clear (headerLine a) := by
  refine Yields.mapFailure (.after fun start => ?_)
  split
  · exact (yields_any _).check fun _ _ _ h => Assembly.clear_openTable ha (asCheck_eq_ok_iff.mp h)
  · exact (yields_any _).check fun _ _ _ h => Assembly.clear_openTable ha (asCheck_eq_ok_iff.mp h)
  · exact yields_fail none

theorem yields_entryLine {a : Assembly} (ha : a.Clear) : Yields Assembly.Clear (entryLine a) := by
  exact (yields_entry (yields_valueWithin _) _).check fun e a' he h =>
    Assembly.clear_add ha he (asCheck_eq_ok_iff.mp h)

theorem yields_line {a : Assembly} (ha : a.Clear) : Yields Assembly.Clear (line a) := by
  have hblanks : ∀ a : Assembly, a.Clear → Yields Assembly.Clear (do
      blanks
      return a) :=
    fun _ ha => .after fun _ => yields_pure ha
  refine Yields.after fun next => ?_
  split
  · exact (yields_fail none).bind hblanks
  · exact (Yields.mapFailure (.after fun _ => yields_pure ha)).bind hblanks
  · exact (yields_headerLine ha).mapFailure.bind hblanks
  · exact .after fun _ => (yields_pure ha).bind hblanks
  · exact .after fun _ => (yields_pure ha).bind hblanks
  · exact (yields_entryLine ha).mapFailure.bind hblanks

theorem yields_document : Yields Table.Clear document := by
  refine .after fun _ => .after fun _ => ?_
  refine (yields_iterate (fun a ha => yields_line ha) Assembly.clear_start).bind fun a ha => ?_
  refine .after fun _ => ?_
  split
  · next hclose => exact yields_pure (Assembly.clear_close ha hclose)
  · exact yields_fail _

end Scan

/-- What a text is read as has each name once, in each of its tables. -/
theorem clear_of_read {text : List Char} {t : Table} (h : read text = .ok t) : t.Clear := by
  unfold read at h
  cases hr : Scan.document (Cursor.ofText text) with
  | error f =>
    rw [hr] at h
    cases h
  | ok r =>
    rw [hr] at h
    obtain rfl := Except.ok.inj h
    exact Scan.yields_document _ _ _ hr

end DevServer.Toml
