import DevServer.Proofs.Toml.Distinct
import DevServer.Proofs.Toml.Written
import Mathlib.Data.List.Forall2

/-!
# A document of entries and sections is read back

One entry is written on each line, first those of the document itself and then those of each section
below its header. Reading follows the lines: an entry goes to the end of the table that is open, and a
header closes that table and opens its own. What is read is the entries and the sections in the order
in which they were written.
-/
namespace DevServer.Toml

set_option autoImplicit false

/-- The table has these entries in this order. -/
def Lists {β : Type} (R : Node → β → Prop) (t : Table) (items : List (String × β)) : Prop :=
  List.Forall₂ (fun e i => e.1.name = i.1 ∧ R e.2 i.2) t.entries items

section Lists

variable {β : Type} {R : Node → β → Prop} {t : Table} {items : List (String × β)} {name : String}

theorem Lists.push (h : Lists R t items) {k : Key} {node : Node} {b : β} (hk : k.name = name)
    (hb : R node b) : Lists R (t.push k node) (items ++ [(name, b)]) :=
  List.rel_append h (.cons ⟨hk, hb⟩ .nil)

/-- What the table has for a name is what was written for it. -/
theorem Lists.find?_rel (h : Lists R t items) (name : String) :
    Option.Rel R (t.find? name) (items.lookup name) := by
  unfold Lists at h
  unfold TableOf.find?
  generalize t.entries = entries at h
  induction h with
  | nil => exact .none
  | @cons e i entries items hei _ ih =>
    obtain ⟨hname, hvalue⟩ := hei
    by_cases hi : i.1 = name
    · have he : e.1.name = name := hname.trans hi
      rw [List.find?_cons_of_pos (by simpa using he), List.lookup_cons]
      simpa [hi] using Option.Rel.some hvalue
    · have he : e.1.name ≠ name := fun he => hi (hname.symm.trans he)
      have hbeq : (name == i.1) = false := beq_false_of_ne (Ne.symm hi)
      rw [List.find?_cons_of_neg (by simpa using he), List.lookup_cons, hbeq]
      exact ih

theorem Lists.find?_eq_none (h : Lists R t items) (hname : name ∉ items.map Prod.fst) :
    t.find? name = none := by
  have hrel := h.find?_rel name
  have hlookup : items.lookup name = none := by
    rw [List.lookup_eq_none_iff]
    intro i hi
    simpa using fun heq => hname (List.mem_map.mpr ⟨i, hi, heq.symm⟩)
  rw [hlookup] at hrel
  generalize t.find? name = found at hrel
  cases hrel
  rfl

end Lists

/-- A value of a literal. -/
def IsLiteral (node : Node) (l : Literal) : Prop := ∃ span, node = .scalar l.scalar span

/-- What stands in a document under a name. -/
inductive Item where
  | literal (l : Literal)
  | table (entries : List (String × Literal))

def IsItem (node : Node) : Item → Prop
  | .literal l => IsLiteral node l
  | .table entries => ∃ t, node = .table t ∧ Lists IsLiteral t entries

namespace Assembly

/-- Lines have been read: the items are in their places, and the entries are below a name or in the
document itself. -/
structure Open (a : Assembly) (placed : List (String × Item)) (name : Option String)
    (entries : List (String × Literal)) : Prop where
  root : Lists IsItem a.root placed
  current : Lists IsLiteral a.current entries
  undotted : a.current.origin.dotted = false
  path : a.path.map Key.name = name.toList
  single : a.repeated = false

/-- The items when the open table is in its place. -/
def closed (placed : List (String × Item)) (name : Option String)
    (entries : List (String × Literal)) : List (String × Item) :=
  match name with
  | none => entries.map fun e => (e.1, .literal e.2)
  | some name => placed ++ [(name, .table entries)]

/-- These are the items when the open table is in its place. -/
def Complete (a : Assembly) (items : List (String × Item)) : Prop :=
  ∃ placed name entries, a.Open placed name entries ∧ (∀ n ∈ name, n ∉ placed.map Prod.fst) ∧
    closed placed name entries = items

variable {a : Assembly} {placed : List (String × Item)} {name : Option String}
  {entries : List (String × Literal)}

theorem open_start : Open {} [] none [] where
  root := .nil
  current := .nil
  undotted := rfl
  path := rfl
  single := rfl

theorem close_spec (ha : Open a placed name entries)
    (hname : ∀ n ∈ name, n ∉ placed.map Prod.fst) :
    ∃ t, a.close = .ok t ∧ Lists IsItem t (closed placed name entries) := by
  cases name with
  | none =>
    have hpath : a.path = [] := List.map_eq_nil_iff.mp ha.path
    refine ⟨a.current, ?_, ?_⟩
    · unfold close
      rw [hpath]
      rfl
    · exact List.forall₂_map_right_iff.mpr ha.current
  | some n =>
    obtain ⟨k, hpath, hk⟩ : ∃ k : Key, a.path = [k] ∧ k.name = n := by
      simpa using List.map_eq_singleton_iff.mp ha.path
    have hnone : a.root.find? k.name = none := ha.root.find?_eq_none (hk ▸ hname n rfl)
    have herase : Lists IsItem (a.root.erase k.name) placed := by
      have hsame : (a.root.erase k.name).entries = a.root.entries :=
        List.filter_eq_self.mpr fun e he => by
          simpa using TableOf.find?_eq_none_iff.mp hnone e he
      unfold Lists
      rw [hsame]
      exact ha.root
    refine ⟨(a.root.erase k.name).push k (.table a.current), ?_,
      herase.push hk ⟨a.current, rfl, ha.current⟩⟩
    unfold close
    rw [hpath]
    show alterTable false _ [] [] a.root = _
    unfold alterTable
    rw [ha.single]
    show (reopen [] k a.root >>= fun _ => _) = _
    unfold reopen
    rw [hnone]
    rfl

/-- A header puts the open table in its place and opens an empty one. -/
theorem openTable_spec (ha : Open a placed name entries)
    (hname : ∀ n ∈ name, n ∉ placed.map Prod.fst) {k : Key}
    (hnew : k.name ∉ (closed placed name entries).map Prod.fst) (span : Span) :
    ∃ a', a.openTable [k] false span = .ok a' ∧
      Open a' (closed placed name entries) (some k.name) [] := by
  obtain ⟨t, hclose, ht⟩ := close_spec ha hname
  have hnone := ht.find?_eq_none hnew
  refine ⟨{ root := t, path := [k], current := { span := some span } }, ?_, ht, .nil, rfl, rfl, rfl⟩
  unfold openTable
  rw [hclose]
  show (reopen [] k t >>= fun _ => _) = _
  unfold reopen
  rw [hnone]
  rfl

/-- An entry goes to the end of the open table. -/
theorem add_spec (ha : Open a placed name entries) {e : Entry} (hpath : e.path = [])
    (hnew : e.key.name ∉ entries.map Prod.fst) {l : Literal} (hl : IsLiteral e.value l) :
    ∃ a', a.add e = .ok a' ∧ Open a' placed name (entries ++ [(e.key.name, l)]) := by
  have hnone := ha.current.find?_eq_none hnew
  have hinsert : alterTable true (e.insert (some (a.path.map Key.name))) [] e.path a.current =
      .ok (a.current.push e.key e.value) := by
    rw [hpath]
    unfold alterTable Entry.insert
    rw [hpath, ha.undotted, hnone]
    rfl
  unfold add
  dsimp only
  rw [hinsert]
  exact ⟨_, rfl, ha.root, ha.current.push rfl hl, ha.undotted, ha.path, ha.single⟩

end Assembly

/-- A line with an entry. -/
def entryText (e : String × Literal) : List Char :=
  e.1.toList ++ " = ".toList ++ e.2.write ++ ['\n']

/-- A line with a header. -/
def headerText (name : String) : List Char := '[' :: name.toList ++ [']', '\n']

def sectionText (s : String × List (String × Literal)) : List Char :=
  headerText s.1 ++ s.2.flatMap entryText

def documentText (entries : List (String × Literal))
    (sections : List (String × List (String × Literal))) : List Char :=
  entries.flatMap entryText ++ sections.flatMap sectionText

/-- Entries that can be written: names without quotes, each once, and numbers that can be read. -/
structure Writable (entries : List (String × Literal)) : Prop where
  names : (entries.map Prod.fst).Nodup
  bare : ∀ e ∈ entries, Bare e.1
  small : ∀ e ∈ entries, e.2.Small

theorem Writable.of_names {entries : List (String × Literal)} (names : List String)
    (h : entries.map Prod.fst = names) (hnames : names.Nodup) (hbare : ∀ n ∈ names, Bare n)
    (hsmall : ∀ e ∈ entries, e.2.Small) : Writable entries where
  names := h ▸ hnames
  bare e he := hbare e.1 (h ▸ List.mem_map_of_mem he)
  small := hsmall

namespace Scan

variable {name : String} {l : Literal} {rest : List Char}

theorem takes_lineTail (rest : List Char) :
    Takes lineTailExpected ['\n'] rest fun _ => True := by
  have hcomment : Takes (optional comment) [] ('\n' :: rest) (· = none) :=
    ((declines_satisfy (stops_cons (by decide) rest)).bind _).optional
  have hend : Takes lineEnd ['\n'] rest fun _ => True := by
    refine Takes.orElse (Takes.orElse ?_ _) _
    exact (takes_char '\n').last fun _ _ => takes_pure trivial
  refine Takes.mapFailure ?_ _
  exact (takes_no_blanks (stops_cons (by decide) rest)).first fun _ _ => hcomment.first fun _ _ => hend

theorem takes_entry (hname : Bare name) (hl : l.Small) (rest : List Char) :
    Takes (entry value lineTailExpected) (entryText (name, l)) rest
      (fun e => e.path = [] ∧ e.key.name = name ∧ IsLiteral e.value l) := by
  obtain ⟨c, s, hcons, _, _, hblank⟩ := head_write l
  have hvalue : Takes (do
      equalsSign
      blanks
      let value ← value
      lineTailExpected
      return value) ('=' :: ' ' :: l.write ++ ['\n']) rest (fun node => IsLiteral node l) := by
    have hequals : Takes equalsSign ['='] (' ' :: l.write ++ ['\n'] ++ rest) fun _ => True :=
      ((takes_char '=').mapFailure _).last fun _ _ => takes_pure trivial
    have hblanks : Takes blanks [' '] (l.write ++ ['\n'] ++ rest) fun _ => True := by
      refine takes_blanks (List.forall_mem_singleton.mpr rfl) ?_
      rw [hcons]
      exact stops_cons hblank _
    refine hequals.bind (t := ' ' :: l.write ++ ['\n']) fun _ _ => ?_
    refine hblanks.bind (t := l.write ++ ['\n']) fun _ _ => ?_
    refine (takes_value hl rest).bind fun node hnode => ?_
    exact (takes_lineTail rest).last fun _ _ => takes_pure hnode
  have htext : entryText (name, l) =
      (name.toList ++ [' ']) ++ ('=' :: ' ' :: l.write ++ ['\n']) := by
    simp [entryText]
  rw [htext]
  refine (takes_dottedKey hname (List.forall_mem_singleton.mpr rfl) (stops_cons (by decide) _) (stops_cons (by decide) _)
    (stops_cons (by decide) _)).bind fun path hpath => ?_
  obtain ⟨k, rfl, hk⟩ := hpath
  exact (hvalue.mapFailure _).last fun node hnode => takes_pure ⟨rfl, hk, hnode⟩

section Line

variable {a : Assembly} {placed : List (String × Item)} {current : Option String}
  {entries : List (String × Literal)}

/-- The line of an entry. -/
theorem takes_entryLine (ha : a.Open placed current entries) (hname : Bare name) (hl : l.Small)
    (hnew : name ∉ entries.map Prod.fst) (hrest : Stops isBlank rest) :
    Takes (line a) (entryText (name, l)) rest
      (fun a' => a'.Open placed current (entries ++ [(name, l)])) := by
  have hentry : Takes (entryLine a) (entryText (name, l)) rest
      (fun a' => a'.Open placed current (entries ++ [(name, l)])) := by
    refine (takes_entry hname hl rest).check fun e ⟨hpath, hkey, hvalue⟩ => ?_
    obtain ⟨a', hadd, ha'⟩ := Assembly.add_spec ha hpath (hkey ▸ hnew) hvalue
    exact ⟨a', asCheck_eq_ok_iff.mpr hadd, hkey ▸ ha'⟩
  obtain ⟨c, cs, hcons, hc⟩ := hname.eq_cons
  have hother : ∀ x : Char, isBareKeyChar x = false → c ≠ x := by
    rintro _ hx rfl
    rw [hc] at hx
    cases hx
  have htext : entryText (name, l) = c :: (cs ++ " = ".toList ++ l.write ++ ['\n']) := by
    unfold entryText
    rw [hcons]
    rfl
  refine takes_peek_at htext ?_
  split
  · next h => cases h
  · next h => exact absurd (Option.some.inj h) (hother _ (by decide))
  · next h => exact absurd (Option.some.inj h) (hother _ (by decide))
  · next h => exact absurd (Option.some.inj h) (hother _ (by decide))
  · next h => exact absurd (Option.some.inj h) (hother _ (by decide))
  · exact (hentry.mapFailure _).last fun a' ha' =>
      (takes_no_blanks hrest).last fun _ _ => takes_pure ha'

theorem takes_header (hname : Bare name) (rest : List Char) :
    Takes (header ['['] [']']) ('[' :: name.toList ++ [']']) rest
      (fun r => IsPath name r.1) := by
  refine Takes.spanned (R := IsPath name) ?_
  refine (takes_literal ['[']).bind (t := name.toList ++ [']']) fun _ _ => ?_
  have hkey : Takes dottedKey name.toList ([']'] ++ rest) (IsPath name) := by
    have h : Takes dottedKey (name.toList ++ []) (']' :: rest) (IsPath name) :=
      takes_dottedKey hname (List.forall_mem_nil _) (stops_cons (by decide) _)
        (stops_cons (by decide) _) (stops_cons (by decide) _)
    rwa [List.append_nil] at h
  refine (hkey.mapFailure _).bind fun path hpath => ?_
  exact (((takes_literal [']']).mapFailure _).mapFailure _).last fun _ _ => takes_pure hpath

/-- The line of a header. -/
theorem takes_headerLine (ha : a.Open placed current entries)
    (hcurrent : ∀ n ∈ current, n ∉ placed.map Prod.fst) (hname : Bare name)
    (hnew : name ∉ (Assembly.closed placed current entries).map Prod.fst)
    (hrest : Stops isBlank rest) :
    Takes (line a) (headerText name) rest
      (fun a' => a'.Open (Assembly.closed placed current entries) (some name) []) := by
  have hheader : Takes (do
      let r ← header ['['] [']']
      committed lineTailExpected
      return r) (headerText name) rest (fun r => IsPath name r.1) := by
    have htext : headerText name = ('[' :: name.toList ++ [']']) ++ ['\n'] := by
      simp [headerText]
    rw [htext]
    refine (takes_header hname _).bind fun r hr => ?_
    exact ((takes_lineTail rest).mapFailure _).last fun _ _ => takes_pure hr
  obtain ⟨c, cs, hcons, hc⟩ := hname.eq_cons
  have hline : Takes (headerLine a) (headerText name) rest
      (fun a' => a'.Open (Assembly.closed placed current entries) (some name) []) := by
    refine Takes.mapFailure (takes_here ?_) _
    split
    · next tail h =>
      unfold headerText at h
      rw [hcons] at h
      obtain ⟨rfl, _⟩ := List.cons.inj (List.cons.inj h).2
      cases hc
    · refine hheader.check ?_
      rintro ⟨_, span⟩ ⟨k, rfl, hk⟩
      obtain ⟨a', hopen, ha'⟩ := Assembly.openTable_spec ha hcurrent (k := k) (hk ▸ hnew) span
      exact ⟨a', asCheck_eq_ok_iff.mpr hopen, hk ▸ ha'⟩
    · next hshort =>
      unfold headerText at hshort
      rw [hcons] at hshort
      exact absurd rfl (hshort _ _ _)
  refine takes_peek ?_
  exact (hline.mapFailure _).last fun a' ha' =>
    (takes_no_blanks hrest).last fun _ _ => takes_pure ha'

theorem stops_entries (hentries : ∀ e ∈ entries, Bare e.1) {s : List Char} {p : Char → Bool}
    (hp : ∀ c, isBareKeyChar c = true → p c = false) (hs : Stops p s) :
    Stops p (entries.flatMap entryText ++ s) := by
  cases entries with
  | nil => exact hs
  | cons e entries =>
    rw [List.flatMap_cons]
    unfold entryText
    simp only [List.append_assoc]
    exact stops_bare (hentries e List.mem_cons_self) hp _

theorem stops_sections (sections : List (String × List (String × Literal))) {p : Char → Bool}
    (hp : p '[' = false) : Stops p (sections.flatMap sectionText) := by
  cases sections with
  | nil => rintro c ⟨⟩
  | cons s sections => exact stops_cons hp _

/-- Entries are added one after the other to the table that is open. -/
theorem takes_entries {done : List (String × Literal)} (ha : a.Open placed current done)
    (hnames : ((done ++ entries).map Prod.fst).Nodup) (hbare : ∀ e ∈ entries, Bare e.1)
    (hsmall : ∀ e ∈ entries, e.2.Small) {s : List Char} (hs : Stops isBlank (s ++ rest))
    {Q : Assembly → Prop}
    (hmore : ∀ a' : Assembly, a'.Open placed current (done ++ entries) →
      Takes (iterate line a') s rest Q) :
    Takes (iterate line a) (entries.flatMap entryText ++ s) rest Q := by
  induction entries generalizing a done with
  | nil => exact hmore a (by rwa [List.append_nil])
  | cons e entries ih =>
    obtain ⟨name, l⟩ := e
    obtain ⟨hname, hbare⟩ := List.forall_mem_cons.mp hbare
    obtain ⟨hl, hsmall⟩ := List.forall_mem_cons.mp hsmall
    have hsplit : done ++ (name, l) :: entries = done ++ [(name, l)] ++ entries := by simp
    rw [hsplit] at hnames hmore
    have hnew : name ∉ done.map Prod.fst := by
      rw [List.map_append, List.map_append] at hnames
      have hdone := (List.nodup_append.mp (List.nodup_append.mp hnames).1).2.2
      exact fun hmem => hdone name hmem name (by simp) rfl
    have hstops : Stops isBlank (entries.flatMap entryText ++ s ++ rest) := by
      rw [List.append_assoc]
      exact stops_entries hbare (fun _ => not_isBlank) hs
    rw [List.flatMap_cons, List.append_assoc]
    exact takes_iterate_round (takes_entryLine ha hname hl hnew hstops) (by simp [entryText])
      fun a' ha' => ih ha' hnames hbare hsmall hmore

/-- Each section goes behind the items that are in their places when its header comes. -/
theorem takes_sections {sections : List (String × List (String × Literal))}
    {items : List (String × Item)} (ha : a.Complete items)
    (hnames : (items.map Prod.fst ++ sections.map Prod.fst).Nodup)
    (hbare : ∀ s ∈ sections, Bare s.1) (hwritable : ∀ s ∈ sections, Writable s.2) :
    Takes (iterate line a) (sections.flatMap sectionText) []
      (fun a' => a'.Complete (items ++ sections.map fun s => (s.1, .table s.2))) := by
  induction sections generalizing a items with
  | nil =>
    refine takes_iterate_stop (declines_peek ((declines_fail none).bind _)) ?_
    rwa [List.map_nil, List.append_nil]
  | cons s sections ih =>
    obtain ⟨name, es⟩ := s
    obtain ⟨hname, hbare⟩ := List.forall_mem_cons.mp hbare
    obtain ⟨hes, hwritable⟩ := List.forall_mem_cons.mp hwritable
    obtain ⟨placed, current, entries, ha, hcurrent, rfl⟩ := ha
    have hsplit : Assembly.closed placed current entries ++
        ((name, es) :: sections).map (fun s => (s.1, Item.table s.2)) =
        Assembly.closed placed current entries ++ [(name, .table es)] ++
          sections.map fun s => (s.1, .table s.2) := by
      simp
    have hnew : name ∉ (Assembly.closed placed current entries).map Prod.fst := fun hmem =>
      (List.nodup_append.mp hnames).2.2 name hmem name List.mem_cons_self rfl
    have hstops : Stops isBlank (sections.flatMap sectionText ++ []) := by
      rw [List.append_nil]
      exact stops_sections sections (by decide)
    have hstops' : Stops isBlank (es.flatMap entryText ++ sections.flatMap sectionText ++ []) := by
      rw [List.append_assoc]
      exact stops_entries hes.bare (fun _ => not_isBlank) hstops
    rw [hsplit, List.flatMap_cons]
    unfold sectionText
    rw [List.append_assoc]
    refine takes_iterate_round (takes_headerLine ha hcurrent hname hnew hstops')
      (List.cons_ne_nil _ _) fun a1 ha1 => ?_
    refine takes_entries ha1 hes.names hes.bare hes.small hstops fun a2 ha2 => ?_
    refine ih ⟨_, _, _, ha2, ?_, rfl⟩ ?_ hbare hwritable
    · rintro _ ⟨⟩
      exact hnew
    · simpa using hnames

end Line

/-- The text of entries and sections is read as a document of them. -/
theorem takes_document {entries : List (String × Literal)}
    {sections : List (String × List (String × Literal))} (hentries : Writable entries)
    (hnames : (entries.map Prod.fst ++ sections.map Prod.fst).Nodup)
    (hbare : ∀ s ∈ sections, Bare s.1) (hwritable : ∀ s ∈ sections, Writable s.2) :
    Takes document (documentText entries sections) []
      (fun t => Lists IsItem t (entries.map (fun e => (e.1, .literal e.2)) ++
        sections.map fun s => (s.1, .table s.2))) := by
  have hstops : ∀ p : Char → Bool, (∀ c, isBareKeyChar c = true → p c = false) → p '[' = false →
      Stops p (documentText entries sections ++ []) := by
    intro p hp hbracket
    unfold documentText
    rw [List.append_assoc, List.append_nil]
    exact stops_entries hentries.bare hp (stops_sections sections hbracket)
  have hmark : Takes (optional (char byteOrderMark)) [] (documentText entries sections ++ [])
      (· = none) := by
    refine (declines_satisfy (hstops _ (fun c hc => ?_) (by decide))).optional
    refine decide_eq_false ?_
    rintro rfl
    cases hc
  have hlines : Takes (iterate line {}) (documentText entries sections) []
      (fun a => a.Complete (entries.map (fun e => (e.1, .literal e.2)) ++
        sections.map fun s => (s.1, .table s.2))) := by
    have hrest : Stops isBlank (sections.flatMap sectionText ++ []) := by
      rw [List.append_nil]
      exact stops_sections sections (by decide)
    refine takes_entries Assembly.open_start hentries.names hentries.bare hentries.small hrest
      fun a ha => takes_sections ⟨_, _, _, ha, (fun _ h => by cases h), rfl⟩ ?_ hbare hwritable
    simpa [Function.comp_def] using hnames
  refine hmark.first fun _ _ => ?_
  refine (takes_no_blanks (hstops _ (fun _ => not_isBlank) (by decide))).first fun _ _ => ?_
  refine hlines.last fun a ha => takes_atEnd.first fun _ _ => ?_
  obtain ⟨placed, current, es, ha, hcurrent, hitems⟩ := ha
  obtain ⟨t, hclose, ht⟩ := Assembly.close_spec ha hcurrent
  rw [hclose]
  exact takes_pure (hitems ▸ ht)

end Scan

/-- A document of entries and sections is read back. -/
theorem read_documentText {entries : List (String × Literal)}
    {sections : List (String × List (String × Literal))} (hentries : Writable entries)
    (hnames : (entries.map Prod.fst ++ sections.map Prod.fst).Nodup)
    (hbare : ∀ s ∈ sections, Bare s.1) (hwritable : ∀ s ∈ sections, Writable s.2) :
    ∃ t, read (documentText entries sections) = .ok t ∧
      Lists IsItem t (entries.map (fun e => (e.1, .literal e.2)) ++
        sections.map fun s => (s.1, .table s.2)) := by
  obtain ⟨t, ht, hscan⟩ := Scan.takes_document hentries hnames hbare hwritable
  refine ⟨t, ?_, ht⟩
  unfold read
  rw [← List.append_nil (documentText entries sections), hscan]
  rfl

end DevServer.Toml
