import DevServer.Net.Reader
import Mathlib.Data.List.Induction
import Mathlib.Tactic.Ring

/-!
# The texts that are addresses

`IsIPv4`, `IsIPv6` and `IsSocket` say which texts are addresses, by their parts alone: what a
reader does with a text, and in which order, plays no part in them. The readers take these texts and
no others. They take as much as they can, so that each lemma about one of them speaks of what may
stand behind the text (`Ends`).
-/
namespace DevServer.Net

set_option autoImplicit false

/-- A digit of base sixteen. -/
def IsHex (c : Char) : Prop :=
  ('0' ≤ c ∧ c ≤ '9') ∨ ('a' ≤ c ∧ c ≤ 'f') ∨ ('A' ≤ c ∧ c ≤ 'F')

instance (c : Char) : Decidable (IsHex c) :=
  inferInstanceAs (Decidable (_ ∨ _ ∨ _))

/-- Digits of a number up to `limit`, with any number of zeros before them. -/
structure Decimal (limit : Nat) (cs : List Char) : Prop where
  ne_nil : cs ≠ []
  digits : ∀ c ∈ cs, c.isDigit = true
  le_limit : Nat.ofDigitChars 10 cs 0 ≤ limit

/-- A number from 0 to 255 as it is written between dots: zero is `0`, and no other number begins
with it. -/
structure Octet (cs : List Char) : Prop where
  decimal : Decimal 255 cs
  canonical : cs.head? = some '0' → cs = ['0']

/-- Four numbers with dots between them. -/
def IsIPv4 (cs : List Char) : Prop :=
  ∃ a b c d, Octet a ∧ Octet b ∧ Octet c ∧ Octet d ∧
    cs = a ++ '.' :: (b ++ '.' :: (c ++ '.' :: d))

/-- A group of an address of version 6. -/
structure Group (cs : List Char) : Prop where
  ne_nil : cs ≠ []
  length_le : cs.length ≤ 4
  digits : ∀ c ∈ cs, IsHex c

/-- What stands before a group. -/
def separator (first : Bool) : List Char := if first then [] else [':']

/-- A text of groups with colons between them, as many as `width`. The last two may be written as an
address of version 4, and then the text is `dotted`. -/
inductive Pieces : (first : Bool) → (cs : List Char) → (width : Nat) → (dotted : Bool) → Prop
  | none {first : Bool} : Pieces first [] 0 false
  | group {first : Bool} {cs more : List Char} {width : Nat} {dotted : Bool} :
    Group cs → Pieces false more width dotted →
      Pieces first (separator first ++ cs ++ more) (width + 1) dotted
  | embedded {first : Bool} {cs : List Char} : IsIPv4 cs → Pieces first (separator first ++ cs) 2 true

/-- Eight groups, or fewer with one `::` among them, before which nothing is dotted. -/
inductive IsIPv6 : List Char → Prop
  | full {cs : List Char} {dotted : Bool} : Pieces true cs 8 dotted → IsIPv6 cs
  | compressed {front back : List Char} {m n : Nat} {dotted : Bool} : Pieces true front m false →
    Pieces true back n dotted → m + n ≤ 7 → IsIPv6 (front ++ ':' :: ':' :: back)

/-- A percent sign and a number, or nothing. -/
def Scope (cs : List Char) : Prop :=
  cs = [] ∨ ∃ n, Decimal 4294967295 n ∧ cs = '%' :: n

/-- An address and a port; one of version 6 stands in brackets, perhaps with a scope. -/
inductive IsSocket : List Char → Prop
  | v4 {cs port : List Char} : IsIPv4 cs → Decimal 65535 port → IsSocket (cs ++ ':' :: port)
  | v6 {cs scope port : List Char} : IsIPv6 cs → Scope scope → Decimal 65535 port →
    IsSocket ('[' :: (cs ++ (scope ++ ']' :: ':' :: port)))

/-- The text ends where no character of this kind follows. -/
def Ends (p : Char → Prop) (rest : List Char) : Prop := ∀ c, rest.head? = some c → ¬ p c

theorem Ends.nil {p : Char → Prop} : Ends p [] := by
  intro c h
  cases h

theorem Ends.cons {p : Char → Prop} {c : Char} {rest : List Char} (h : ¬ p c) :
    Ends p (c :: rest) := by
  intro d hd
  rwa [← Option.some.inj hd]

theorem Ends.mono {p q : Char → Prop} {rest : List Char} (h : Ends q rest) (hpq : ∀ c, p c → q c) :
    Ends p rest := fun c hc hp => h c hc (hpq c hp)

section Digits

variable {base : Nat} {c : Char} {cs rest s : List Char}

theorem isDigit_iff : c.isDigit = true ↔ '0' ≤ c ∧ c ≤ '9' := by
  unfold Char.isDigit
  simp only [Bool.and_eq_true, decide_eq_true_eq]
  exact Iff.rfl

theorem isHex_of_isDigit (h : c.isDigit = true) : IsHex c := .inl (isDigit_iff.mp h)

theorem digitOf?_ten (c : Char) :
    digitOf? 10 c = if c.isDigit then some (c.toNat - '0'.toNat) else none := by
  unfold digitOf?
  by_cases hc : '0' ≤ c ∧ c ≤ '9'
  · have hlt : c.toNat - '0'.toNat < 10 := by
      have h9 : c.toNat ≤ 57 := hc.2
      have h0 : '0'.toNat = 48 := rfl
      omega
    rw [if_pos hc, if_pos (isDigit_iff.mpr hc), if_pos hlt]
  · rw [if_neg hc, if_neg fun h => hc (isDigit_iff.mp h)]
    split
    · rw [if_neg (by omega)]
    · split
      · rw [if_neg (by omega)]
      · rfl

theorem digitOf?_lt {d : Nat} (h : digitOf? base c = some d) : d < base := by
  unfold digitOf? at h
  obtain ⟨hlt, he⟩ := Option.ite_none_right_eq_some.mp h
  rw [← Option.some.inj he]
  exact hlt

theorem isSome_digitOf?_ten : (digitOf? 10 c).isSome = true ↔ c.isDigit = true := by
  rw [digitOf?_ten]
  split <;> simp_all

theorem isSome_digitOf?_sixteen : (digitOf? 16 c).isSome = true ↔ IsHex c := by
  unfold digitOf? IsHex
  have h0 : '0'.toNat = 48 := rfl
  have ha : 'a'.toNat = 97 := rfl
  have hA : 'A'.toNat = 65 := rfl
  split
  · next h =>
    have h9 : c.toNat ≤ 57 := h.2
    rw [if_pos (by omega)]
    simp [h]
  · next hdigit =>
    split
    · next h =>
      have hf : c.toNat ≤ 102 := h.2
      rw [if_pos (by omega)]
      simp [h]
    · next hlower =>
      split
      · next h =>
        have hF : c.toNat ≤ 70 := h.2
        rw [if_pos (by omega)]
        simp [h]
      · next hupper => simp [hdigit, hlower, hupper]

/-- The digits of a text, and nothing of what follows them. -/
theorem digitsOf_append (hcs : ∀ c ∈ cs, (digitOf? base c).isSome = true)
    (hrest : Ends (fun c => (digitOf? base c).isSome = true) rest) :
    digitsOf base (cs ++ rest) = (cs.filterMap (digitOf? base), rest) := by
  induction cs with
  | nil =>
    cases rest with
    | nil => rfl
    | cons c rest =>
      have hc : digitOf? base c = none := by simpa using hrest c rfl
      simp [digitsOf, hc]
  | cons c cs ih =>
    obtain ⟨hc, hcs⟩ := List.forall_mem_cons.mp hcs
    obtain ⟨d, hd⟩ := Option.isSome_iff_exists.mp hc
    simp [digitsOf, hd, ih hcs]

theorem digitsOf_spec (base : Nat) (s : List Char) :
    ∃ cs, s = cs ++ (digitsOf base s).2 ∧ (∀ c ∈ cs, (digitOf? base c).isSome = true) ∧
      (digitsOf base s).1 = cs.filterMap (digitOf? base) ∧
      Ends (fun c => (digitOf? base c).isSome = true) (digitsOf base s).2 := by
  induction s with
  | nil => exact ⟨[], rfl, by simp, rfl, .nil⟩
  | cons c s ih =>
    cases hd : digitOf? base c with
    | none => exact ⟨[], by simp [digitsOf, hd], by simp, by simp [digitsOf, hd],
        by simp only [digitsOf, hd]; exact .cons (by simp [hd])⟩
    | some d =>
      obtain ⟨cs, hs, hcs, hds, hends⟩ := ih
      refine ⟨c :: cs, ?_, ?_, ?_, ?_⟩
      · simpa [digitsOf, hd] using hs
      · simpa [hd] using hcs
      · simpa [digitsOf, hd] using hds
      · simpa [digitsOf, hd] using hends

theorem length_filterMap_digits (hcs : ∀ c ∈ cs, (digitOf? base c).isSome = true) :
    (cs.filterMap (digitOf? base)).length = cs.length := by
  induction cs with
  | nil => rfl
  | cons c cs ih =>
    obtain ⟨hc, hcs⟩ := List.forall_mem_cons.mp hcs
    obtain ⟨d, hd⟩ := Option.isSome_iff_exists.mp hc
    simp [hd, ih hcs]

theorem ofDigits_ten (hcs : ∀ c ∈ cs, c.isDigit = true) :
    ofDigits 10 (cs.filterMap (digitOf? 10)) = Nat.ofDigitChars 10 cs 0 := by
  unfold ofDigits
  generalize (0 : Nat) = n
  induction cs generalizing n with
  | nil => rfl
  | cons c cs ih =>
    obtain ⟨hc, hcs⟩ := List.forall_mem_cons.mp hcs
    have hd : digitOf? 10 c = some (c.toNat - '0'.toNat) := by rw [digitOf?_ten, if_pos hc]
    rw [List.filterMap_cons_some hd, List.foldl_cons, ih hcs, Nat.ofDigitChars_cons, Nat.mul_comm]

theorem ofDigits_lt (ds : List Nat) (hds : ∀ d ∈ ds, d < base) :
    ofDigits base ds < base ^ ds.length := by
  induction ds using List.reverseRecOn with
  | nil => simp [ofDigits]
  | append_singleton ds d ih =>
    have hd : d < base := hds d (by simp)
    have hlt := ih fun d hm => hds d (List.mem_append_left _ hm)
    unfold ofDigits at hlt ⊢
    rw [List.foldl_append, List.length_append, List.length_singleton, Nat.pow_succ]
    simp only [List.foldl_cons, List.foldl_nil]
    calc _ < (ds.foldl (fun n d => n * base + d) 0 + 1) * base := by
            rw [Nat.add_mul, Nat.one_mul]
            omega
      _ ≤ base ^ ds.length * base := Nat.mul_le_mul_right base hlt

/-- A number as `readNumber` takes it. -/
structure Written (base limit : Nat) (width : Option Nat) (leadingZeros : Bool) (cs : List Char) :
    Prop where
  ne_nil : cs ≠ []
  digits : ∀ c ∈ cs, (digitOf? base c).isSome = true
  length_le : ∀ w, width = some w → cs.length ≤ w
  canonical : leadingZeros = false → (cs.filterMap (digitOf? base)).head? = some 0 → cs.length ≤ 1
  le_limit : ofDigits base (cs.filterMap (digitOf? base)) ≤ limit

/-- The reader takes all digits or nothing. -/
theorem readNumber_eq_some_iff {base limit n : Nat} {width : Option Nat} {leadingZeros : Bool}
    {s rest : List Char} :
    readNumber base limit width leadingZeros s = some (n, rest) ↔
      ∃ cs, s = cs ++ rest ∧ Written base limit width leadingZeros cs ∧
        n = ofDigits base (cs.filterMap (digitOf? base)) ∧
        Ends (fun c => (digitOf? base c).isSome = true) rest := by
  constructor
  · intro h
    obtain ⟨cs, hs, hcs, hds, hends⟩ := digitsOf_spec base s
    have hlength := length_filterMap_digits hcs
    unfold readNumber at h
    simp only [hds] at h
    obtain ⟨hok, he⟩ := Option.ite_none_left_eq_some.mp h
    obtain ⟨rfl, rfl⟩ := Prod.mk.inj (Option.some.inj he)
    simp only [Bool.or_eq_true, decide_eq_true_eq, not_or, List.isEmpty_iff, Bool.and_eq_true,
      Bool.not_eq_true', not_and] at hok
    obtain ⟨⟨⟨hne, hwidth⟩, hzeros⟩, hlimit⟩ := hok
    refine ⟨cs, hs, ⟨?_, hcs, ?_, ?_, by omega⟩, rfl, hends⟩
    · rintro rfl
      exact hne rfl
    · rintro w rfl
      have hw : ¬ w < (cs.filterMap (digitOf? base)).length := by simpa using hwidth
      omega
    · intro hz hhead
      have hl := hzeros ⟨hz, hhead⟩
      omega
  · rintro ⟨cs, rfl, hw, rfl, hends⟩
    have hlength := length_filterMap_digits hw.digits
    unfold readNumber
    simp only [digitsOf_append hw.digits hends]
    refine Option.ite_none_left_eq_some.mpr ⟨?_, rfl⟩
    simp only [Bool.or_eq_true, decide_eq_true_eq, not_or, List.isEmpty_iff, Bool.and_eq_true,
      Bool.not_eq_true', not_and]
    refine ⟨⟨⟨?_, ?_⟩, ?_⟩, by have := hw.le_limit; omega⟩
    · rw [← List.length_eq_zero_iff, hlength, List.length_eq_zero_iff]
      exact hw.ne_nil
    · cases width with
      | none => simp
      | some w =>
        have hle := hw.length_le w rfl
        simp only [decide_eq_true_eq]
        omega
    · rintro ⟨hz, hhead⟩
      have hle := hw.canonical hz hhead
      omega

theorem written_decimal_iff {limit : Nat} : Written 10 limit none true cs ↔ Decimal limit cs := by
  constructor
  · intro h
    have hdigits : ∀ c ∈ cs, c.isDigit = true := fun c hc => isSome_digitOf?_ten.mp (h.digits c hc)
    exact ⟨h.ne_nil, hdigits, ofDigits_ten hdigits ▸ h.le_limit⟩
  · intro h
    refine ⟨h.ne_nil, fun c hc => isSome_digitOf?_ten.mpr (h.digits c hc), ?_, ?_, ?_⟩
    · rintro w ⟨⟩
    · rintro ⟨⟩
    · rw [ofDigits_ten h.digits]
      exact h.le_limit

theorem le_ofDigitChars (n : Nat) (cs : List Char) :
    n * 10 ^ cs.length ≤ Nat.ofDigitChars 10 cs n := by
  induction cs generalizing n with
  | nil => simp
  | cons c cs ih =>
    rw [Nat.ofDigitChars_cons, List.length_cons, Nat.pow_succ']
    calc n * (10 * 10 ^ cs.length) = 10 * n * 10 ^ cs.length := by ring
      _ ≤ (10 * n + (c.toNat - '0'.toNat)) * 10 ^ cs.length :=
        Nat.mul_le_mul_right _ (Nat.le_add_right _ _)
      _ ≤ _ := ih _

/-- A number below a thousand that does not begin with zero has three digits at most. -/
theorem Octet.length_le (h : Octet cs) : cs.length ≤ 3 := by
  cases cs with
  | nil => simp
  | cons c cs =>
    by_cases hc : c = '0'
    · rw [h.canonical (by rw [hc]; rfl)]
      decide
    · have hdigit := (isDigit_iff.mp (h.decimal.digits c (by simp))).1
      have hpos : 1 ≤ c.toNat - '0'.toNat := by
        have hne : c.toNat ≠ '0'.toNat := fun he => hc (Char.toNat_inj.mp he)
        have hle : '0'.toNat ≤ c.toNat := hdigit
        omega
      have hvalue := h.decimal.le_limit
      rw [Nat.ofDigitChars_cons, Nat.mul_zero, Nat.zero_add] at hvalue
      have hpow : 10 ^ cs.length < 10 ^ 3 := by
        calc 10 ^ cs.length ≤ (c.toNat - '0'.toNat) * 10 ^ cs.length :=
              Nat.le_mul_of_pos_left _ hpos
          _ ≤ 255 := (le_ofDigitChars _ cs).trans hvalue
          _ < 10 ^ 3 := by decide
      have hlt := (Nat.pow_lt_pow_iff_right (by decide)).mp hpow
      rw [List.length_cons]
      omega

/-- The first digit is zero exactly if its character is. -/
theorem head?_digits (hcs : ∀ c ∈ cs, c.isDigit = true) :
    (cs.filterMap (digitOf? 10)).head? = some 0 ↔ cs.head? = some '0' := by
  cases cs with
  | nil => simp
  | cons c cs =>
    have hc := hcs c (by simp)
    have hd : digitOf? 10 c = some (c.toNat - '0'.toNat) := by rw [digitOf?_ten, if_pos hc]
    rw [List.filterMap_cons_some hd, List.head?_cons, List.head?_cons, Option.some.injEq,
      Option.some.injEq, ← Char.toNat_inj]
    have hle : '0'.toNat ≤ c.toNat := (isDigit_iff.mp hc).1
    omega

theorem written_octet_iff : Written 10 255 (some 3) false cs ↔ Octet cs := by
  constructor
  · intro h
    have hdigits : ∀ c ∈ cs, c.isDigit = true := fun c hc => isSome_digitOf?_ten.mp (h.digits c hc)
    refine ⟨⟨h.ne_nil, hdigits, ofDigits_ten hdigits ▸ h.le_limit⟩, fun hhead => ?_⟩
    have hle := h.canonical rfl ((head?_digits hdigits).mpr hhead)
    obtain ⟨c, hc⟩ := List.length_eq_one_iff.mp
      (Nat.le_antisymm hle (List.length_pos_iff.mpr h.ne_nil))
    rw [hc] at hhead ⊢
    rw [Option.some.inj hhead]
  · intro h
    refine ⟨h.decimal.ne_nil, fun c hc => isSome_digitOf?_ten.mpr (h.decimal.digits c hc), ?_, ?_, ?_⟩
    · rintro w ⟨⟩
      exact h.length_le
    · intro _ hhead
      rw [h.canonical ((head?_digits h.decimal.digits).mp hhead)]
      decide
    · rw [ofDigits_ten h.decimal.digits]
      exact h.decimal.le_limit

/-- Four digits of base sixteen are never more than a group can hold. -/
theorem written_group_iff : Written 16 65535 (some 4) true cs ↔ Group cs := by
  constructor
  · intro h
    exact ⟨h.ne_nil, h.length_le 4 rfl, fun c hc => isSome_digitOf?_sixteen.mp (h.digits c hc)⟩
  · intro h
    have hdigits : ∀ c ∈ cs, (digitOf? 16 c).isSome = true :=
      fun c hc => isSome_digitOf?_sixteen.mpr (h.digits c hc)
    refine ⟨h.ne_nil, hdigits, ?_, ?_, ?_⟩
    · rintro w ⟨⟩
      exact h.length_le
    · rintro ⟨⟩
    · have hlt : ofDigits 16 (cs.filterMap (digitOf? 16)) < 16 ^ _ := ofDigits_lt _ fun d hd => by
        obtain ⟨c, _, hc⟩ := List.mem_filterMap.mp hd
        exact digitOf?_lt hc
      rw [length_filterMap_digits hdigits] at hlt
      have hle : 16 ^ cs.length ≤ 16 ^ 4 := Nat.pow_le_pow_right (by decide) h.length_le
      omega

end Digits

/-- The reader takes the texts of this kind, up to where no character goes on with them. -/
def Reads {α : Type} (reader : Reader α) (p : Char → Prop) (Kind : List Char → Prop) : Prop :=
  ∀ s rest, (∃ x, reader s = some (x, rest)) ↔ ∃ cs, s = cs ++ rest ∧ Kind cs ∧ Ends p rest

section Readers

variable {cs rest s tail : List Char}

theorem reads_number {base limit : Nat} {width : Option Nat} {leadingZeros : Bool}
    {p : Char → Prop} {Kind : List Char → Prop} (hp : ∀ {c}, (digitOf? base c).isSome = true ↔ p c)
    (hKind : ∀ {cs}, Written base limit width leadingZeros cs ↔ Kind cs) :
    Reads (readNumber base limit width leadingZeros) p Kind := by
  intro s rest
  have hends : Ends (fun c => (digitOf? base c).isSome = true) rest ↔ Ends p rest :=
    ⟨fun h => h.mono fun _ => hp.mpr, fun h => h.mono fun _ => hp.mp⟩
  simp only [readNumber_eq_some_iff, hends]
  constructor
  · rintro ⟨n, cs, hs, hw, -, he⟩
    exact ⟨cs, hs, hKind.mp hw, he⟩
  · rintro ⟨cs, hs, hk, he⟩
    exact ⟨_, cs, hs, hKind.mpr hk, rfl, he⟩

theorem Reads.map {α β : Type} {reader : Reader α} {p : Char → Prop} {Kind : List Char → Prop}
    (h : Reads reader p Kind) (f : α → β) :
    Reads (fun s => (reader s).map fun (x, rest) => (f x, rest)) p Kind := by
  intro s rest
  rw [← h s rest]
  constructor
  · rintro ⟨x, hx⟩
    obtain ⟨⟨n, rest'⟩, hn, he⟩ := Option.map_eq_some_iff.mp hx
    obtain ⟨-, rfl⟩ := Prod.mk.inj he
    exact ⟨n, hn⟩
  · rintro ⟨n, hn⟩
    exact ⟨f n, by simp [hn]⟩

theorem reads_octet : Reads readOctet (·.isDigit = true) Octet :=
  (reads_number isSome_digitOf?_ten written_octet_iff).map UInt8.ofNat

theorem reads_group : Reads (readNumber 16 65535 (some 4) true) IsHex Group :=
  reads_number isSome_digitOf?_sixteen written_group_iff

theorem reads_decimal (limit : Nat) :
    Reads (readNumber 10 limit none true) (·.isDigit = true) (Decimal limit) :=
  reads_number isSome_digitOf?_ten written_decimal_iff

theorem reads_port : Reads readPort (·.isDigit = true) (Decimal 65535) :=
  (reads_decimal 65535).map UInt16.ofNat

theorem readChar_eq_some_iff {c : Char} {u : Unit} :
    readChar c s = some (u, rest) ↔ s = c :: rest := by
  cases s with
  | nil => simp [readChar]
  | cons d s =>
    by_cases h : c = d
    · simp [readChar, h]
    · simp [readChar, h, Ne.symm h]

@[simp] theorem readChar_cons (c : Char) (rest : List Char) :
    readChar c (c :: rest) = some ((), rest) := readChar_eq_some_iff.mpr rfl

theorem readChar_of_ne {c d : Char} (h : c ≠ d) (rest : List Char) :
    readChar c (d :: rest) = none := by
  simp [readChar, h]

theorem ends_dot : Ends (·.isDigit = true) ('.' :: rest) := .cons (by decide)

theorem ends_colon : Ends (·.isDigit = true) (':' :: rest) := .cons (by decide)

theorem reads_IPv4 : Reads readIPv4 (·.isDigit = true) IsIPv4 := by
  intro s rest
  constructor
  · rintro ⟨x, h⟩
    unfold readIPv4 at h
    simp only [Option.bind_eq_bind, Option.bind_eq_some_iff, Prod.exists, readChar_eq_some_iff,
      Option.pure_def, Option.some.injEq, Prod.mk.injEq] at h
    obtain ⟨a, _, ha, _, _, rfl, b, _, hb, _, _, rfl, c, _, hc, _, _, rfl, d, _, hd, -, rfl⟩ := h
    obtain ⟨as, rfl, hka, -⟩ := (reads_octet _ _).mp ⟨a, ha⟩
    obtain ⟨bs, rfl, hkb, -⟩ := (reads_octet _ _).mp ⟨b, hb⟩
    obtain ⟨cs, rfl, hkc, -⟩ := (reads_octet _ _).mp ⟨c, hc⟩
    obtain ⟨ds, rfl, hkd, hends⟩ := (reads_octet _ _).mp ⟨d, hd⟩
    exact ⟨_, by simp, ⟨as, bs, cs, ds, hka, hkb, hkc, hkd, rfl⟩, hends⟩
  · rintro ⟨_, rfl, ⟨as, bs, cs, ds, hka, hkb, hkc, hkd, rfl⟩, hends⟩
    obtain ⟨a, ha⟩ := (reads_octet _ ('.' :: (bs ++ '.' :: (cs ++ '.' :: (ds ++ rest))))).mpr
      ⟨as, rfl, hka, ends_dot⟩
    obtain ⟨b, hb⟩ := (reads_octet _ ('.' :: (cs ++ '.' :: (ds ++ rest)))).mpr
      ⟨bs, rfl, hkb, ends_dot⟩
    obtain ⟨c, hc⟩ := (reads_octet _ ('.' :: (ds ++ rest))).mpr ⟨cs, rfl, hkc, ends_dot⟩
    obtain ⟨d, hd⟩ := (reads_octet _ rest).mpr ⟨ds, rfl, hkd, hends⟩
    refine ⟨⟨a, b, c, d⟩, ?_⟩
    simp [readIPv4, ha, hb, hc, hd]

theorem not_isHex_dot : ¬ IsHex '.' := by decide

/-- What can stand behind groups, so that no more of them are read: `::`, or no character of a group
at all. -/
def GroupsEnd (rest : List Char) : Prop :=
  (∃ more, rest = ':' :: ':' :: more) ∨ Ends (fun c => c = ':' ∨ c = '.' ∨ IsHex c) rest

theorem GroupsEnd.ends (h : GroupsEnd rest) : Ends (fun c => c = '.' ∨ IsHex c) rest := by
  rcases h with ⟨more, rfl⟩ | h
  · exact .cons (by decide)
  · exact h.mono fun c => .inr

/-- Digits of base sixteen that no dot follows are no address of version 4. -/
theorem readIPv4_eq_none (hcs : ∀ c ∈ cs, IsHex c) (htail : Ends (fun c => c = '.' ∨ IsHex c) tail) :
    readIPv4 (cs ++ tail) = none := by
  rw [Option.eq_none_iff_forall_ne_some]
  rintro ⟨x, rest⟩ h
  obtain ⟨_, hs, ⟨as, bs, _, _, ha, -, -, -, rfl⟩, -⟩ := (reads_IPv4 _ _).mp ⟨x, h⟩
  rw [List.append_assoc, List.cons_append] at hs
  rcases List.append_eq_append_iff.mp hs with ⟨ds, rfl, hds⟩ | ⟨ds, rfl, hds⟩
  · -- The dot is in the tail, behind digits at most.
    cases ds with
    | nil => exact htail '.' (by rw [hds]; rfl) (.inl rfl)
    | cons d ds =>
      have hd := ha.decimal.digits d (by simp)
      exact htail d (by rw [hds]; rfl) (.inr (isHex_of_isDigit hd))
  · -- The dot is among the digits, or begins the tail.
    cases ds with
    | nil => exact htail '.' (by rw [← List.nil_append tail, ← hds]; rfl) (.inl rfl)
    | cons d ds =>
      obtain ⟨rfl, -⟩ := List.cons.inj hds
      exact not_isHex_dot (hcs '.' (by simp))

theorem readIPv4_eq_none_of_ends {s : List Char} (h : Ends (fun c => c = '.' ∨ IsHex c) s) :
    readIPv4 s = none := by
  have hnil : ∀ c ∈ ([] : List Char), IsHex c := nofun
  exact readIPv4_eq_none hnil h

theorem readGroup_eq_none (h : Ends IsHex s) : readNumber 16 65535 (some 4) true s = none := by
  rw [Option.eq_none_iff_forall_ne_some]
  rintro ⟨n, rest⟩ hn
  obtain ⟨cs, rfl, hg, -⟩ := (reads_group _ _).mp ⟨n, hn⟩
  obtain ⟨c, cs, rfl⟩ := List.exists_cons_of_ne_nil hg.ne_nil
  exact h c rfl (hg.digits c (by simp))

theorem readSeparator_eq_some_iff {first : Bool} {u : Unit} :
    readSeparator first s = some (u, rest) ↔ s = separator first ++ rest := by
  cases first with
  | true => simp [readSeparator, separator]
  | false => simp [readSeparator, separator, readChar_eq_some_iff]

/-- Behind groups there is nothing that a separator and a reader of groups would take. -/
theorem readSeparator_bind_eq_none {α : Type} (reader : Reader α)
    (hreader : ∀ {s}, Ends (fun c => c = '.' ∨ IsHex c) s → reader s = none) (first : Bool)
    (h : GroupsEnd rest) : (readSeparator first rest >>= fun r => reader r.2) = none := by
  cases first with
  | true => exact hreader h.ends
  | false =>
    rcases h with ⟨more, rfl⟩ | h
    · exact hreader (.cons (by decide))
    · cases rest with
      | nil => rfl
      | cons c rest =>
        have hc : ':' ≠ c := fun he => h c rfl (.inl he.symm)
        simp [readSeparator, readChar_of_ne hc]

theorem readGroups_end (first : Bool) (room : Nat) (h : GroupsEnd rest) :
    readGroups first room rest = (⟨[], false⟩, rest) := by
  cases room with
  | zero => rfl
  | succ room =>
    have hgroup := readSeparator_bind_eq_none (readNumber 16 65535 (some 4) true)
      (fun he => readGroup_eq_none (he.mono fun _ => .inr)) first h
    have hembedded := readSeparator_bind_eq_none readIPv4 (readIPv4_eq_none_of_ends ·) first h
    simp only [readGroups, hgroup, hembedded, ite_self]

theorem Pieces.head {cs : List Char} {width : Nat} {dotted : Bool} (h : Pieces false cs width dotted)
    (hrest : GroupsEnd rest) : Ends (fun c => c = '.' ∨ IsHex c) (cs ++ rest) := by
  cases h with
  | none => exact hrest.ends
  | group _ _ => exact .cons (by decide)
  | embedded _ => exact .cons (by decide)

/-- The groups of a text are read to its end, where there is room for them. -/
theorem Pieces.readGroups {first : Bool} {width : Nat} {dotted : Bool}
    (h : Pieces first cs width dotted) {room : Nat} (hroom : width ≤ room) (hrest : GroupsEnd rest) :
    ∃ gs, readGroups first room (cs ++ rest) = (⟨gs, dotted⟩, rest) ∧ gs.length = width := by
  induction h generalizing room with
  | none => exact ⟨[], readGroups_end _ room hrest, rfl⟩
  | @group first cs more width dotted hg hmore ih =>
    obtain ⟨room, rfl⟩ : ∃ r, room = r + 1 := ⟨room - 1, by omega⟩
    have htail := hmore.head hrest
    obtain ⟨g, hn⟩ := (reads_group (cs ++ (more ++ rest)) (more ++ rest)).mpr
      ⟨cs, rfl, hg, htail.mono fun _ => .inr⟩
    have hsep : readSeparator first (separator first ++ (cs ++ (more ++ rest))) =
        some ((), cs ++ (more ++ rest)) := readSeparator_eq_some_iff.mpr rfl
    obtain ⟨gs, hgs, hlength⟩ := ih (Nat.le_of_succ_le_succ hroom)
    refine ⟨UInt16.ofNat g :: gs, ?_, by rw [List.length_cons, hlength]⟩
    rw [List.append_assoc, List.append_assoc]
    simp [Net.readGroups, hsep, readIPv4_eq_none hg.digits htail, hn, hgs]
  | @embedded first cs hv =>
    obtain ⟨room, rfl⟩ : ∃ r, room = r + 2 := ⟨room - 2, by omega⟩
    have hsep : readSeparator first (separator first ++ (cs ++ rest)) = some ((), cs ++ rest) :=
      readSeparator_eq_some_iff.mpr rfl
    obtain ⟨x, hx⟩ := (reads_IPv4 (cs ++ rest) rest).mpr
      ⟨cs, rfl, hv, hrest.ends.mono fun _ hc => .inr (isHex_of_isDigit hc)⟩
    refine ⟨x.toGroups, ?_, rfl⟩
    rw [List.append_assoc]
    simp [Net.readGroups, hsep, hx]

/-- What is read as groups is a text of groups that fit into the room. -/
theorem pieces_of_readGroups {first : Bool} {room : Nat} {g : Groups}
    (h : Net.readGroups first room s = (g, rest)) :
    ∃ cs, s = cs ++ rest ∧ Pieces first cs g.groups.length g.dotted ∧ g.groups.length ≤ room := by
  induction room generalizing first s g with
  | zero =>
    obtain ⟨rfl, rfl⟩ := Prod.mk.inj h
    exact ⟨[], rfl, .none, Nat.le_refl 0⟩
  | succ room ih =>
    rw [Net.readGroups] at h
    dsimp only at h
    split at h
    · next x rest' hx =>
      obtain ⟨rfl, rfl⟩ := Prod.mk.inj h
      obtain ⟨hroom, hx⟩ := Option.ite_none_left_eq_some.mp hx
      obtain ⟨⟨_, s'⟩, hsep, hv⟩ := Option.bind_eq_some_iff.mp hx
      obtain rfl := readSeparator_eq_some_iff.mp hsep
      obtain ⟨cs, rfl, hcs, -⟩ := (reads_IPv4 _ _).mp ⟨x, hv⟩
      have hle : x.toGroups.length ≤ room + 1 := by
        change 2 ≤ room + 1
        omega
      exact ⟨separator first ++ cs, by simp, .embedded hcs, hle⟩
    · split at h
      · obtain ⟨rfl, rfl⟩ := Prod.mk.inj h
        exact ⟨[], rfl, .none, Nat.zero_le _⟩
      · next n rest' hn =>
        obtain ⟨⟨_, s'⟩, hsep, hg⟩ := Option.bind_eq_some_iff.mp hn
        obtain rfl := readSeparator_eq_some_iff.mp hsep
        obtain ⟨cs, rfl, hcs, -⟩ := (reads_group _ _).mp ⟨n, hg⟩
        cases hmore : Net.readGroups false room rest' with
        | mk more rest₂ =>
          rw [hmore] at h
          obtain ⟨rfl, rfl⟩ := Prod.mk.inj h
          obtain ⟨ds, rfl, hpieces, hle⟩ := ih hmore
          exact ⟨separator first ++ cs ++ ds, by simp, .group hcs hpieces, Nat.succ_le_succ hle⟩

/-- Behind a text of groups that is an address, no character goes on with it. -/
abbrev AddressEnd (rest : List Char) : Prop := Ends (fun c => c = ':' ∨ c = '.' ∨ IsHex c) rest

theorem ofGroups?_eq {gs : List UInt16} (h : gs.length = 8) : IPv6.ofGroups? gs = some ⟨gs, h⟩ := by
  rw [IPv6.ofGroups?, dif_pos h]

theorem IsIPv6.readIPv6 (h : IsIPv6 cs) (hrest : AddressEnd rest) :
    ∃ x, readIPv6 (cs ++ rest) = some (x, rest) := by
  cases h with
  | full hp =>
    obtain ⟨gs, hgs, hlength⟩ := hp.readGroups (Nat.le_refl 8) (.inr hrest)
    exact ⟨⟨gs, hlength⟩, by simp [Net.readIPv6, hgs, hlength, ofGroups?_eq]⟩
  | @compressed front back m n dotted hf hb hwidth =>
    have hfront : m ≤ 8 := by omega
    have hgap : GroupsEnd (':' :: ':' :: (back ++ rest)) := .inl ⟨_, rfl⟩
    obtain ⟨gs, hgs, rfl⟩ := hf.readGroups hfront hgap
    have hback : n ≤ 7 - gs.length := by omega
    obtain ⟨hs, hhs, rfl⟩ := hb.readGroups hback (.inr hrest)
    have hne : gs.length ≠ 8 := by omega
    have hlength : (gs ++ List.replicate (8 - gs.length - hs.length) (0 : UInt16) ++ hs).length = 8 := by
      simp only [List.length_append, List.length_replicate]
      omega
    refine ⟨⟨_, hlength⟩, ?_⟩
    rw [List.append_assoc, List.cons_append, List.cons_append]
    simp only [Net.readIPv6, hgs, hne, ↓reduceIte, Bool.false_eq_true, readChar_cons, hhs,
      ofGroups?_eq hlength, Option.bind_eq_bind, Option.bind_some, Option.pure_def]

theorem isIPv6_of_readIPv6 {x : IPv6} (h : Net.readIPv6 s = some (x, rest)) :
    ∃ cs, s = cs ++ rest ∧ IsIPv6 cs := by
  unfold Net.readIPv6 at h
  cases hf : Net.readGroups true 8 s with
  | mk front rest₁ =>
    obtain ⟨cs, rfl, hpieces, hfront⟩ := pieces_of_readGroups hf
    simp only [hf] at h
    split at h
    · next hlength =>
      rw [ofGroups?_eq hlength] at h
      obtain ⟨-, rfl⟩ := Prod.mk.inj (Option.some.inj h)
      exact ⟨cs, rfl, .full (hlength ▸ hpieces)⟩
    · next hlength =>
      split at h
      · cases h
      · next hdotted =>
        have hfalse : front.dotted = false := by simpa using hdotted
        simp only [Option.bind_eq_bind, Option.bind_eq_some_iff, Prod.exists, readChar_eq_some_iff,
          Option.pure_def, Option.some.injEq, Prod.mk.injEq] at h
        obtain ⟨_, _, rfl, _, rest₂, rfl, _, hx, _, rfl⟩ := h
        cases hb : Net.readGroups true (7 - front.groups.length) rest₂ with
        | mk back rest₃ =>
          obtain ⟨ds, rfl, hpieces', hle⟩ := pieces_of_readGroups hb
          rw [hfalse] at hpieces
          exact ⟨cs ++ ':' :: ':' :: ds, by simp, .compressed hpieces hpieces' (by omega)⟩

/-- A text of version 6 is never taken as one of version 4, not even at its beginning. -/
theorem IsIPv6.readIPv4_eq_none (h : IsIPv6 cs) : Net.readIPv4 cs = none := by
  have hpieces : ∀ {width : Nat} {dotted : Bool} {cs tail : List Char},
      Pieces true cs width dotted → GroupsEnd tail → (dotted = true → width = 8) →
      Net.readIPv4 (cs ++ tail) = none := by
    intro width dotted cs tail hp htail hdotted
    cases hp with
    | none => exact readIPv4_eq_none_of_ends htail.ends
    | group hg hmore =>
      rw [List.append_assoc]
      exact Net.readIPv4_eq_none hg.digits (hmore.head htail)
    | embedded _ => cases hdotted rfl
  cases h with
  | full hp =>
    have hall := hpieces hp (.inr .nil) fun _ => rfl
    rwa [List.append_nil] at hall
  | compressed hf _ _ => exact hpieces hf (.inl ⟨_, rfl⟩) nofun

/-- The texts of addresses. -/
def IsAddress (cs : List Char) : Prop := IsIPv4 cs ∨ IsIPv6 cs

theorem whole?_isSome_iff {α : Type} {reader : Reader α} {s : String} :
    (Reader.whole? reader s).isSome = true ↔ ∃ x, reader s.toList = some (x, []) := by
  unfold Reader.whole?
  split
  · next x hx => simp [hx]
  · next hx => simpa using hx

theorem IpAddress.ofString?_isSome_iff {s : String} :
    (IpAddress.ofString? s).isSome = true ↔ IsAddress s.toList := by
  unfold ofString? IsAddress
  rw [whole?_isSome_iff]
  unfold readIpAddress
  constructor
  · rintro ⟨x, hx⟩
    split at hx
    · next v rest hv =>
      obtain ⟨-, rfl⟩ := Prod.mk.inj (Option.some.inj hx)
      obtain ⟨cs, hcs, hk, -⟩ := (reads_IPv4 _ _).mp ⟨v, hv⟩
      rw [hcs, List.append_nil]
      exact .inl hk
    · obtain ⟨⟨v, rest⟩, hv, he⟩ := Option.map_eq_some_iff.mp hx
      obtain ⟨-, rfl⟩ := Prod.mk.inj he
      obtain ⟨cs, hcs, hk⟩ := isIPv6_of_readIPv6 hv
      rw [hcs, List.append_nil]
      exact .inr hk
  · rintro (hk | hk)
    · obtain ⟨v, hv⟩ := (reads_IPv4 _ []).mpr ⟨_, (List.append_nil _).symm, hk, .nil⟩
      exact ⟨.v4 v, by rw [hv]⟩
    · obtain ⟨v, hv⟩ := hk.readIPv6 .nil
      rw [List.append_nil] at hv
      exact ⟨.v6 v, by rw [hk.readIPv4_eq_none, hv]; rfl⟩

theorem scope_of_readScope (s : List Char) : ∃ cs, s = cs ++ (readScope s).2 ∧ Scope cs := by
  unfold readScope
  split
  · exact ⟨[], rfl, .inl rfl⟩
  · next m rest hm =>
    obtain ⟨⟨_, s'⟩, hc, hn⟩ := Option.bind_eq_some_iff.mp hm
    obtain rfl := readChar_eq_some_iff.mp hc
    obtain ⟨cs, rfl, hk, -⟩ := (reads_decimal _ _ _).mp ⟨m, hn⟩
    exact ⟨'%' :: cs, rfl, .inr ⟨cs, hk, rfl⟩⟩

theorem Scope.readScope (h : Scope cs) (rest : List Char) :
    ∃ n, readScope (cs ++ ']' :: rest) = (n, ']' :: rest) := by
  rcases h with rfl | ⟨ds, hds, rfl⟩
  · exact ⟨0, by simp [Net.readScope, readChar_of_ne]⟩
  · obtain ⟨n, hn⟩ := (reads_decimal 4294967295 (ds ++ ']' :: rest) (']' :: rest)).mpr
      ⟨ds, rfl, hds, .cons (by decide)⟩
    exact ⟨UInt32.ofNat n, by simp [Net.readScope, hn]⟩

/-- What stands behind an address in brackets. -/
theorem Scope.addressEnd (h : Scope cs) (rest : List Char) : AddressEnd (cs ++ ']' :: rest) := by
  rcases h with rfl | ⟨ds, -, rfl⟩
  · exact .cons (by decide)
  · exact .cons (by decide)

theorem isSocket_v4_iff {s : String} :
    (Reader.whole? readSocketV4 s).isSome = true ↔
      ∃ cs port, IsIPv4 cs ∧ Decimal 65535 port ∧ s.toList = cs ++ ':' :: port := by
  rw [whole?_isSome_iff]
  unfold readSocketV4
  constructor
  · rintro ⟨x, h⟩
    simp only [Option.bind_eq_bind, Option.bind_eq_some_iff, Prod.exists, readChar_eq_some_iff,
      Option.pure_def, Option.some.injEq, Prod.mk.injEq] at h
    obtain ⟨v, _, hv, _, _, rfl, port, _, hp, -, rfl⟩ := h
    obtain ⟨cs, hs, hcs, -⟩ := (reads_IPv4 _ _).mp ⟨v, hv⟩
    obtain ⟨ps, rfl, hps, -⟩ := (reads_port _ _).mp ⟨port, hp⟩
    exact ⟨cs, ps, hcs, hps, by rw [hs, List.append_nil]⟩
  · rintro ⟨cs, port, hcs, hport, hs⟩
    obtain ⟨v, hv⟩ := (reads_IPv4 (cs ++ ':' :: port) (':' :: port)).mpr ⟨cs, rfl, hcs, ends_colon⟩
    obtain ⟨p, hp⟩ := (reads_port port []).mpr ⟨port, (List.append_nil port).symm, hport, .nil⟩
    exact ⟨⟨.v4 v, p, 0⟩, by simp [hs, hv, hp]⟩

theorem isSocket_v6_iff {s : String} :
    (Reader.whole? readSocketV6 s).isSome = true ↔
      ∃ cs scope port, IsIPv6 cs ∧ Scope scope ∧ Decimal 65535 port ∧
        s.toList = '[' :: (cs ++ (scope ++ ']' :: ':' :: port)) := by
  rw [whole?_isSome_iff]
  unfold readSocketV6
  constructor
  · rintro ⟨x, h⟩
    simp only [Option.bind_eq_bind, Option.bind_eq_some_iff, Prod.exists, readChar_eq_some_iff,
      Option.pure_def, Option.some.injEq, Prod.mk.injEq] at h
    obtain ⟨_, _, hs, v, rest, hv, _, _, hbracket, _, _, rfl, port, _, hp, -, rfl⟩ := h
    obtain ⟨cs, rfl, hcs⟩ := isIPv6_of_readIPv6 hv
    obtain ⟨scope, hrest, hscope⟩ := scope_of_readScope rest
    rw [hbracket] at hrest
    subst hrest
    obtain ⟨ps, rfl, hps, -⟩ := (reads_port _ _).mp ⟨port, hp⟩
    exact ⟨cs, scope, ps, hcs, hscope, hps, by rw [hs, List.append_nil]⟩
  · rintro ⟨cs, scope, port, hcs, hscope, hport, hs⟩
    obtain ⟨v, hv⟩ := hcs.readIPv6 (hscope.addressEnd (':' :: port))
    obtain ⟨n, hn⟩ := hscope.readScope (':' :: port)
    obtain ⟨p, hp⟩ := (reads_port port []).mpr ⟨port, (List.append_nil port).symm, hport, .nil⟩
    exact ⟨⟨.v6 v, p, n⟩, by simp [hs, hv, hn, hp]⟩

theorem SocketAddress.ofString?_isSome_iff {s : String} :
    (SocketAddress.ofString? s).isSome = true ↔ IsSocket s.toList := by
  have hor : (SocketAddress.ofString? s).isSome = true ↔
      (Reader.whole? readSocketV4 s).isSome = true ∨ (Reader.whole? readSocketV6 s).isSome = true := by
    unfold SocketAddress.ofString?
    cases Reader.whole? readSocketV4 s <;> simp
  rw [hor, isSocket_v4_iff, isSocket_v6_iff]
  constructor
  · rintro (⟨cs, port, hcs, hport, hs⟩ | ⟨cs, scope, port, hcs, hscope, hport, hs⟩)
    · exact hs ▸ .v4 hcs hport
    · exact hs ▸ .v6 hcs hscope hport
  · generalize s.toList = text
    intro h
    cases h with
    | v4 hcs hport => exact .inl ⟨_, _, hcs, hport, rfl⟩
    | v6 hcs hscope hport => exact .inr ⟨_, _, _, hcs, hscope, hport, rfl⟩

end Readers

end DevServer.Net
