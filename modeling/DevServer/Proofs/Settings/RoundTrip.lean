import DevServer.Proofs.Settings.Order
import DevServer.Proofs.Toml.Lines
import DevServer.Settings.Printer

/-!
# Settings survive being written

The document of settings is one of entries and sections, so it is read back as a table of them, and
that table documents the settings that were written. Nothing is asked of the texts; the two numbers of
eight bytes have to fit in the integers of a document.
-/
namespace DevServer.Settings

set_option autoImplicit false

open Toml (Bare Holds IsItem IsLiteral Item Lists Literal Node Writable)

/-- The entries before the sections. -/
def literals (c : Settings) : List (String × Literal) :=
  (c.adapter.elim [] fun a => [("adapter", .text a)]) ++ [("strict_adapter", .truth c.strictAdapter)]

def sections (c : Settings) : List (String × List (String × Literal)) :=
  [ ("listener",
      [("host", .text c.listener.host), ("port", .number c.listener.port.toNat)]),
    ("timeouts", [("request_secs", .number c.timeouts.requestSecs.toNat)]),
    ("security", [("max_body_size", .number c.security.maxBodySize.toNat)]),
    ("observability",
      [("log_level", .text c.observability.logLevel),
        ("log_format", .text c.observability.logFormat.name),
        ("metrics_enabled", .truth c.observability.metricsEnabled),
        ("metrics_address", .text c.observability.metricsAddress)]) ]

theorem flatMap_literals (c : Settings) : c.literals.flatMap Toml.entryText = c.adapterLines := by
  unfold literals adapterLines
  cases c.adapter with
  | none => exact List.append_nil _
  | some a => exact congrArg (Toml.entryText _ ++ ·) (List.append_nil _)

theorem flatMap_sections (c : Settings) : c.sections.flatMap Toml.sectionText =
    listenerLines c.listener ++ timeoutLines c.timeouts ++ securityLines c.security ++
      observabilityLines c.observability := by
  simp only [sections, Toml.sectionText, List.flatMap_cons, List.flatMap_nil, List.append_nil,
    ← List.append_assoc, listenerLines, timeoutLines, securityLines, observabilityLines]
  rfl

theorem toList_toDocument (c : Settings) :
    c.toDocument.toList = Toml.documentText c.literals c.sections := by
  unfold toDocument Toml.documentText
  rw [String.toList_ofList, flatMap_literals, flatMap_sections]
  simp only [List.append_assoc]

section Written

variable {c : Settings}

theorem writable_literals (c : Settings) : Writable c.literals := by
  unfold literals
  cases c.adapter with
  | none =>
    exact .of_names ["strict_adapter"] rfl (by decide) (by decide) (by simp [Literal.Small])
  | some a =>
    exact .of_names ["adapter", "strict_adapter"] rfl (by decide) (by decide)
      (by simp [Literal.Small])

theorem writable_sections (hsecs : c.timeouts.requestSecs.toNat < 2 ^ 63)
    (hsize : c.security.maxBodySize.toNat < 2 ^ 63) : ∀ s ∈ c.sections, Writable s.2 := by
  have hport : c.listener.port.toNat < 2 ^ 63 := Nat.lt_trans c.listener.port.toNat_lt (by decide)
  refine List.forall_mem_cons.mpr ⟨?_, List.forall_mem_cons.mpr ⟨?_, List.forall_mem_cons.mpr
    ⟨?_, List.forall_mem_singleton.mpr ?_⟩⟩⟩
  · exact .of_names ["host", "port"] rfl (by decide) (by decide)
      (by simpa [Literal.Small] using hport)
  · exact .of_names ["request_secs"] rfl (by decide) (by decide)
      (by simpa [Literal.Small] using hsecs)
  · exact .of_names ["max_body_size"] rfl (by decide) (by decide)
      (by simpa [Literal.Small] using hsize)
  · exact .of_names ["log_level", "log_format", "metrics_enabled", "metrics_address"] rfl (by decide)
      (by decide) (by simp [Literal.Small])

theorem names_nodup (c : Settings) :
    (c.literals.map Prod.fst ++ c.sections.map Prod.fst).Nodup := by
  unfold literals
  cases c.adapter with
  | none => exact (by decide : ["strict_adapter", "listener", "timeouts", "security",
      "observability"].Nodup)
  | some a => exact (by decide : ["adapter", "strict_adapter", "listener", "timeouts", "security",
      "observability"].Nodup)

theorem bare_sections (c : Settings) : ∀ s ∈ c.sections, Bare s.1 := by
  have hnames : ∀ n ∈ c.sections.map Prod.fst, Bare n :=
    (by decide : ∀ n ∈ ["listener", "timeouts", "security", "observability"], Bare n)
  exact fun s hs => hnames s.1 (List.mem_map_of_mem hs)

end Written

section Documented

variable {α : Type} {Reads : Node → α → Prop} {default a : α} {found : Option Node} {l : Literal}

/-- A literal that was written is what the field holds. -/
theorem holds_of_literal (h : Option.Rel IsLiteral found (some l))
    (hread : ∀ span, Reads (.scalar l.scalar span) a) : Holds Reads default found a := by
  cases h with
  | some h =>
    obtain ⟨span, rfl⟩ := h
    exact hread span

theorem literal_of_item (h : Option.Rel IsItem found (some (.literal l))) :
    Option.Rel IsLiteral found (some l) := by
  cases h with
  | some h => exact .some h

/-- A section that was written says what its entries say. -/
theorem holds_of_section {names : List String} {Described : (String → Option Node) → α → Prop}
    {entries : List (String × Literal)} (h : Option.Rel IsItem found (some (.table entries)))
    (hdesc : ∀ t, Lists IsLiteral t entries → Described t.find? a) :
    Holds (InSection names Described) default found a := by
  cases h with
  | some h =>
    obtain ⟨t, rfl, ht⟩ := h
    exact ⟨t.find?, rfl, hdesc t ht⟩

theorem listener_described {l : Listener} {t : Toml.Table}
    (h : Lists IsLiteral t [("host", .text l.host), ("port", .number l.port.toNat)]) :
    l.Described t.find? where
  host := holds_of_literal (h.find?_rel "host") fun _ => rfl
  port := holds_of_literal (h.find?_rel "port") fun _ => rfl

theorem observability_described {o : Observability} {t : Toml.Table}
    (h : Lists IsLiteral t [("log_level", .text o.logLevel), ("log_format", .text o.logFormat.name),
      ("metrics_enabled", .truth o.metricsEnabled), ("metrics_address", .text o.metricsAddress)]) :
    o.Described t.find? where
  logLevel := holds_of_literal (h.find?_rel "log_level") fun _ => rfl
  logFormat := holds_of_literal (h.find?_rel "log_format") fun _ => .name rfl
  metricsEnabled := holds_of_literal (h.find?_rel "metrics_enabled") fun _ => rfl
  metricsAddress := holds_of_literal (h.find?_rel "metrics_address") fun _ => rfl

/-- The items of a document of settings. -/
def items (c : Settings) : List (String × Item) :=
  c.literals.map (fun e => (e.1, .literal e.2)) ++ c.sections.map fun s => (s.1, .table s.2)

theorem lookup_adapter (c : Settings) :
    c.items.lookup "adapter" = c.adapter.map fun a => .literal (.text a) := by
  unfold items literals
  cases c.adapter <;> rfl

/-- The adapter is written if there is one, and none is the default. -/
theorem adapter_holds {c : Settings} {t : Toml.Table} (h : Lists IsItem t c.items) :
    Holds (fun node a => ∃ s, IsText node s ∧ a = some s) none (t.find? "adapter") c.adapter := by
  have hadapter := h.find?_rel "adapter"
  rw [lookup_adapter] at hadapter
  cases ha : c.adapter with
  | none =>
    rw [ha] at hadapter
    rw [(Toml.rel_none_iff hadapter).mpr rfl]
    exact rfl
  | some a =>
    rw [ha] at hadapter
    exact holds_of_literal (literal_of_item hadapter) fun _ => ⟨a, rfl, rfl⟩

theorem documented_of_lists {c : Settings} {t : Toml.Table} (h : Lists IsItem t c.items) :
    Documented t c := by
  obtain ⟨hstrict, hlistener, htimeouts, hsecurity, hobservability⟩ :
      c.items.lookup "strict_adapter" = some (.literal (.truth c.strictAdapter)) ∧
        c.items.lookup "listener" = some (.table
          [("host", .text c.listener.host), ("port", .number c.listener.port.toNat)]) ∧
        c.items.lookup "timeouts" =
          some (.table [("request_secs", .number c.timeouts.requestSecs.toNat)]) ∧
        c.items.lookup "security" =
          some (.table [("max_body_size", .number c.security.maxBodySize.toNat)]) ∧
        c.items.lookup "observability" = some (.table
          [("log_level", .text c.observability.logLevel),
            ("log_format", .text c.observability.logFormat.name),
            ("metrics_enabled", .truth c.observability.metricsEnabled),
            ("metrics_address", .text c.observability.metricsAddress)]) := by
    unfold items literals
    cases c.adapter <;> exact ⟨rfl, rfl, rfl, rfl, rfl⟩
  have hwritten : ∀ {name item}, c.items.lookup name = some item →
      Option.Rel IsItem (t.find? name) (some item) :=
    fun hi => hi ▸ h.find?_rel _
  exact ⟨adapter_holds h, holds_of_literal (literal_of_item (hwritten hstrict)) fun _ => rfl,
    holds_of_section (hwritten hlistener) fun _ => listener_described,
    holds_of_section (hwritten htimeouts) fun _ ht =>
      ⟨holds_of_literal (ht.find?_rel "request_secs") fun _ => rfl⟩,
    holds_of_section (hwritten hsecurity) fun _ ht =>
      ⟨holds_of_literal (ht.find?_rel "max_body_size") fun _ => rfl⟩,
    holds_of_section (hwritten hobservability) fun _ => observability_described⟩

end Documented

/-- The document of settings gives the settings, whatever is wrong with them. -/
theorem read_toDocument {files : Storage.Reader} {path : Storage.Bytes} {c : Settings}
    (hsecs : c.timeouts.requestSecs.toNat ≤ 2 ^ 63 - 1)
    (hsize : c.security.maxBodySize.toNat ≤ 2 ^ 63 - 1)
    (hfile : files path = .ok (Text.Utf8.encode c.toDocument)) : read files path = .ok c := by
  obtain ⟨t, ht, hlists⟩ := Toml.read_documentText (writable_literals c) (names_nodup c)
    (bare_sections c) (writable_sections (Nat.lt_of_le_pred (by decide) hsecs)
      (Nat.lt_of_le_pred (by decide) hsize))
  rw [← toList_toDocument] at ht
  have htable : HasTable files path t :=
    ⟨_, c.toDocument, hfile, Text.Utf8.decode_encode c.toDocument, ht⟩
  exact (read_iff_documented htable).mpr (documented_of_lists hlists)

/-- Settings in which much is wrong: a name that needs escapes, no address to listen on, no time. -/
def unsound : Settings where
  adapter := some "\"\\\u0000\n\tØ"
  listener := { host := "", port := 0 }
  timeouts := { requestSecs := 0 }
  security := { maxBodySize := 9223372036854775807 }

theorem unsound_read_back :
    unsound.timeouts.requestSecs.toNat ≤ 2 ^ 63 - 1 ∧
      unsound.security.maxBodySize.toNat ≤ 2 ^ 63 - 1 ∧
      read (everywhere unsound.toDocument) [] = .ok unsound := by
  have hsecs : unsound.timeouts.requestSecs.toNat ≤ 2 ^ 63 - 1 := by decide
  have hsize : unsound.security.maxBodySize.toNat ≤ 2 ^ 63 - 1 := by decide
  exact ⟨hsecs, hsize, read_toDocument hsecs hsize rfl⟩

end DevServer.Settings
