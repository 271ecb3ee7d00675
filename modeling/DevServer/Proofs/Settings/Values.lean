import DevServer.Proofs.Number.Numerals
import DevServer.Proofs.Settings.Writes
import DevServer.Proofs.Text.Trimming

/-!
# The texts that variables may have

Two of the variables are read by a grammar. `IsFlag` and `IsPort` are these grammars, in which white
space, case, signs and zeros play different parts: a flag may have any white space of Unicode around
it and any case of ASCII, a port has neither but may have any number of zeros. The environment takes
these texts and no others, and tells of any other text as it was given.
-/
namespace DevServer.Settings

set_option autoImplicit false

open Number.Decimal (Numeral readUInt16? readUInt16?_eq_some_iff)
open Text.Blank (Core IsWhiteSpace core_of_blanks foldCase isBlank isBlank_iff trim trim_eq_iff)

/-- The words for each flag, in lower case. -/
def wordsFor : Bool → List String
  | true => ["1", "true", "yes", "on"]
  | false => ["0", "false", "no", "off", ""]

/-- A word for the flag in any case of ASCII, with any white space around it. -/
def IsFlag (raw : String) (flag : Bool) : Prop :=
  ∃ core, Core raw.toList core ∧
    ∃ word ∈ wordsFor flag, core.map Char.toLower = word.toList.map Char.toLower

/-- The digits of the port, perhaps with a plus sign before them. -/
def IsPort (raw : String) (port : UInt16) : Prop := Numeral 65535 raw.toList port.toNat

/-- The policy is a flag if it is set. -/
def PolicyIsFlag (env : Environment) : Prop :=
  ∀ raw, env .strictAdapter = some raw → ∃ flag, IsFlag raw flag

/-- The variable at which the reading stops, with its value as it was given. -/
inductive StopsAt (env : Environment) : BadVariable → Prop
  | policy {raw : String} : env .strictAdapter = some raw → (∀ flag, ¬ IsFlag raw flag) →
    StopsAt env ⟨.strictAdapter, raw⟩
  | port {raw : String} : PolicyIsFlag env → env .port = some raw → (∀ port, ¬ IsPort raw port) →
    StopsAt env ⟨.port, raw⟩

section Texts

variable {raw : String} {flag : Bool} {port : UInt16}

theorem lookup_flagWords {word : String} :
    flagWords.lookup word = some flag ↔ word ∈ wordsFor flag := by
  have hmem : (word, flag) ∈ flagWords ↔ word ∈ wordsFor flag := by
    cases flag <;> simp [flagWords, wordsFor]
  rw [← hmem]
  constructor
  · intro h
    obtain ⟨before, after, hwords, -⟩ := List.lookup_eq_some_iff.mp h
    rw [hwords]
    exact List.mem_append_right _ (List.mem_cons_self ..)
  · -- No word stands for both flags.
    have hall : ∀ w ∈ flagWords, flagWords.lookup w.1 = some w.2 := by decide
    exact hall (word, flag)

theorem lower_of_mem_wordsFor {word : String} (h : word ∈ wordsFor flag) :
    word.toList.map Char.toLower = word.toList := by
  have hall : ∀ flag, ∀ word ∈ wordsFor flag, word.toList.map Char.toLower = word.toList := by
    decide
  exact hall flag word h

theorem flag?_eq_some_iff : flag? raw = some flag ↔ IsFlag raw flag := by
  unfold flag? IsFlag
  rw [lookup_flagWords]
  constructor
  · intro h
    refine ⟨trim raw.toList, trim_eq_iff.mp rfl, _, h, ?_⟩
    rw [lower_of_mem_wordsFor h, String.toList_ofList, foldCase]
  · rintro ⟨core, hcore, word, hword, hcase⟩
    rw [trim_eq_iff.mpr hcore, foldCase, hcase, lower_of_mem_wordsFor hword, String.ofList_toList]
    exact hword

theorem flag?_eq_none_iff : flag? raw = none ↔ ∀ flag, ¬ IsFlag raw flag := by
  simp only [← flag?_eq_some_iff, Option.eq_none_iff_forall_ne_some, ne_eq]

theorem readUInt16?_eq_none_iff : readUInt16? raw = none ↔ ∀ port, ¬ IsPort raw port := by
  rw [Option.eq_none_iff_forall_ne_some]
  exact forall_congr' fun port => not_congr readUInt16?_eq_some_iff

/-- Nothing but white space stands for false. -/
theorem isFlag_of_blanks (h : ∀ c ∈ raw.toList, IsWhiteSpace c) : IsFlag raw false :=
  ⟨[], core_of_blanks h, "", by simp [wordsFor], rfl⟩

end Texts

variable {env : Environment}

theorem flagReads_iff : FlagReads env ↔ PolicyIsFlag env := by
  unfold FlagReads PolicyIsFlag
  simp only [ne_eq, flag?_eq_none_iff, Classical.not_forall, Classical.not_not]

theorem stopsAt_of_applyEnvironment {s : Settings} {bad : BadVariable}
    (h : (s.applyEnvironment env).2 = some bad) : StopsAt env bad := by
  by_cases hf : FlagReads env
  · by_cases hp : PortReads env
    · rw [applyEnvironment_eq hf hp] at h
      cases h
    · obtain ⟨raw, hset, hr⟩ := exists_of_not_portReads hp
      rw [applyEnvironment_badPort hf hset hr] at h
      obtain rfl := Option.some.inj h
      exact .port (flagReads_iff.mp hf) hset (readUInt16?_eq_none_iff.mp hr)
  · obtain ⟨raw, hset, hr⟩ := exists_of_not_flagReads hf
    rw [applyEnvironment_badFlag hset hr] at h
    obtain rfl := Option.some.inj h
    exact .policy hset (flag?_eq_none_iff.mp hr)

/-- The reading stops exactly at these variables. -/
theorem applyEnvironment_eq_some_iff {s : Settings} {bad : BadVariable} :
    (s.applyEnvironment env).2 = some bad ↔ StopsAt env bad := by
  refine ⟨stopsAt_of_applyEnvironment, ?_⟩
  rintro (⟨hset, hr⟩ | ⟨hf, hset, hr⟩)
  · exact applyEnvironment_badFlag hset (flag?_eq_none_iff.mpr hr) s
  · exact applyEnvironment_badPort (flagReads_iff.mpr hf) hset (readUInt16?_eq_none_iff.mpr hr) s

theorem policy_of_flagReads (hf : FlagReads env) {raw : String} {flag : Bool}
    (hset : env .strictAdapter = some raw) (hr : flag? raw = some flag) (s : Settings) :
    (s.applyEnvironment env).1.strictAdapter = flag := by
  rw [applyEnvironment_reached hf, hset, Option.bind_some, hr, highest_some]

/-- A policy that is set is taken for a flag exactly if it is one in the grammar. -/
theorem policy_taken_iff {raw : String} (hset : env .strictAdapter = some raw) (s : Settings)
    (flag : Bool) :
    ((∀ given, (s.applyEnvironment env).2 ≠ some ⟨.strictAdapter, given⟩) ∧
      (s.applyEnvironment env).1.strictAdapter = flag) ↔ IsFlag raw flag := by
  rw [← flag?_eq_some_iff]
  cases hr : flag? raw with
  | none =>
    simp only [reduceCtorEq, iff_false]
    exact fun h => h.1 raw (applyEnvironment_badFlag hset hr s)
  | some read =>
    have hf : FlagReads env := by
      intro given hgiven
      rw [hset] at hgiven
      rw [← Option.some.inj hgiven, hr]
      exact nofun
    have hgoes : ∀ given, (s.applyEnvironment env).2 ≠ some ⟨.strictAdapter, given⟩ := by
      intro given h
      cases stopsAt_of_applyEnvironment h with
      | policy hgiven hbad =>
        obtain ⟨other, hother⟩ := flagReads_iff.mp hf given hgiven
        exact hbad other hother
    rw [policy_of_flagReads hf hset hr, Option.some.injEq]
    exact and_iff_right hgoes

/-- A port that is set and reached is taken exactly if it is one in the grammar. -/
theorem port_taken_iff {raw : String} (hf : PolicyIsFlag env) (hset : env .port = some raw)
    (s : Settings) (port : UInt16) :
    ((s.applyEnvironment env).2 = none ∧ (s.applyEnvironment env).1.listener.port = port) ↔
      IsPort raw port := by
  have hf := flagReads_iff.mpr hf
  rw [IsPort, ← Number.Decimal.maxUInt16, ← readUInt16?_eq_some_iff]
  cases hr : readUInt16? raw with
  | none => simp [applyEnvironment_badPort hf hset hr]
  | some read =>
    have hp : PortReads env := by
      intro given hgiven
      rw [hset] at hgiven
      rw [← Option.some.inj hgiven, hr]
      exact nofun
    rw [applyEnvironment_eq hf hp]
    simp [hset, hr]

/-- The environment takes exactly the flags and the ports of the grammars, each for what it stands
for; white space alone is the flag false. At any other text it stops, and tells that text unchanged.
-/
theorem takes_flags_and_ports (env : Environment) (s : Settings) :
    (∀ bad, (s.applyEnvironment env).2 = some bad ↔ StopsAt env bad) ∧
      (∀ raw, env .strictAdapter = some raw → ∀ flag,
        ((∀ given, (s.applyEnvironment env).2 ≠ some ⟨.strictAdapter, given⟩) ∧
          (s.applyEnvironment env).1.strictAdapter = flag) ↔ IsFlag raw flag) ∧
      (∀ raw, PolicyIsFlag env → env .port = some raw → ∀ port,
        ((s.applyEnvironment env).2 = none ∧ (s.applyEnvironment env).1.listener.port = port) ↔
          IsPort raw port) ∧
      ∀ raw : String, (∀ c ∈ raw.toList, IsWhiteSpace c) → IsFlag raw false :=
  ⟨fun _ => applyEnvironment_eq_some_iff, fun _ hset => policy_taken_iff hset s,
    fun _ hf hset => port_taken_iff hf hset s, fun _ => isFlag_of_blanks⟩

/-- A policy with white space of two kinds around it, and a port with a sign and zeros. -/
def spacedAndPadded : Environment
  | .strictAdapter => some "\u3000oN\t"
  | .port => some "+00065535"
  | _ => none

theorem spaced_policy_and_padded_port :
    spacedAndPadded .strictAdapter = some "\u3000oN\t" ∧
      spacedAndPadded .port = some "+00065535" ∧
      PolicyIsFlag spacedAndPadded ∧
      (({} : Settings).applyEnvironment spacedAndPadded).1.strictAdapter = true ∧
      (({} : Settings).applyEnvironment spacedAndPadded).2 = none ∧
      (({} : Settings).applyEnvironment spacedAndPadded).1.listener.port = 65535 ∧
      IsFlag "\u2003\r\n" false := by
  obtain ⟨-, hpolicy, hport, hblank⟩ := takes_flags_and_ports spacedAndPadded {}
  have hflag : IsFlag "\u3000oN\t" true := flag?_eq_some_iff.mp (by decide +kernel)
  have hpadded : IsPort "+00065535" 65535 := readUInt16?_eq_some_iff.mp (by decide +kernel)
  have hisFlag : PolicyIsFlag spacedAndPadded := by
    rintro raw ⟨⟩
    exact ⟨true, hflag⟩
  obtain ⟨-, hstrict⟩ := (hpolicy _ rfl true).mpr hflag
  obtain ⟨hnone, htaken⟩ := (hport _ hisFlag rfl 65535).mpr hpadded
  have hall : "\u2003\r\n".toList.all isBlank = true := by decide
  exact ⟨rfl, rfl, hisFlag, hstrict, hnone, htaken,
    hblank _ fun c hc => isBlank_iff.mp (List.all_eq_true.mp hall c hc)⟩

end DevServer.Settings
