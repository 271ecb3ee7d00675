import DevServer.Number.Decimal
import DevServer.Proofs.Net.Addresses

/-!
# The texts that are whole numbers

A number is read from the left and given up at the first digit that takes it out of its range. That
the rest is never looked at does not show: the texts that are read are the digits of a number in the
range, with any number of zeros and perhaps a plus sign before them, and the number is their value.
-/
namespace DevServer.Number.Decimal

set_option autoImplicit false

/-- A number up to `limit` as it is written. -/
inductive Numeral (limit : Nat) : List Char → Nat → Prop
  | bare {ds : List Char} : Net.Decimal limit ds → Numeral limit ds (Nat.ofDigitChars 10 ds 0)
  | signed {ds : List Char} : Net.Decimal limit ds →
    Numeral limit ('+' :: ds) (Nat.ofDigitChars 10 ds 0)

theorem digit?_eq (c : Char) :
    digit? c = if c.isDigit then some (c.toNat - '0'.toNat) else none := by
  unfold digit?
  by_cases hc : '0' ≤ c ∧ c ≤ '9'
  · rw [if_pos hc, if_pos (Net.isDigit_iff.mpr hc)]
  · rw [if_neg hc, if_neg fun h => hc (Net.isDigit_iff.mp h)]

variable {limit n m : Nat} {s : List Char}

/-- More digits make a number no smaller. -/
theorem le_value (n : Nat) (s : List Char) : n ≤ Nat.ofDigitChars 10 s n :=
  (Nat.le_mul_of_pos_right n (Nat.pow_pos (by decide))).trans (Net.le_ofDigitChars n s)

/-- The induction is on the text, with the number that has been read so far inside its range. -/
theorem readDigits_eq_ok_iff (hn : n ≤ limit) : readDigits limit n s = .ok m ↔
    (∀ c ∈ s, c.isDigit = true) ∧ Nat.ofDigitChars 10 s n = m ∧ m ≤ limit := by
  induction s generalizing n with
  | nil =>
    simp only [readDigits, Except.ok.injEq, List.not_mem_nil, false_imp_iff, implies_true, true_and]
    constructor
    · rintro rfl
      exact ⟨rfl, hn⟩
    · exact And.left
  | cons c rest ih =>
    rw [readDigits, digit?_eq, List.forall_mem_cons, Nat.ofDigitChars_cons, Nat.mul_comm 10 n]
    cases hc : c.isDigit with
    | false => simp
    | true =>
      rw [if_pos rfl]
      dsimp only
      split
      · next hle => simp only [ih hle, true_and]
      · next hlt =>
        simp only [reduceCtorEq, false_iff]
        rintro ⟨-, rfl, hm⟩
        exact hlt ((le_value _ rest).trans hm)

theorem readNumeral_eq_ok_iff : readNumeral limit s = .ok n ↔
    Net.Decimal limit s ∧ Nat.ofDigitChars 10 s 0 = n := by
  cases s with
  | nil =>
    simp only [readNumeral, reduceCtorEq, false_iff]
    exact fun h => h.1.ne_nil rfl
  | cons c rest =>
    rw [readNumeral, readDigits_eq_ok_iff (Nat.zero_le limit)]
    · constructor
      · rintro ⟨hdigits, rfl, hle⟩
        exact ⟨⟨List.cons_ne_nil _ _, hdigits, hle⟩, rfl⟩
      · rintro ⟨h, rfl⟩
        exact ⟨h.digits, rfl, h.le_limit⟩
    · exact nofun

/-- The texts that are read, with their numbers. -/
theorem readNat_eq_ok_iff : readNat limit s = .ok n ↔ Numeral limit s n := by
  constructor
  · intro h
    unfold readNat at h
    split at h
    · cases h
    · obtain ⟨hds, rfl⟩ := readNumeral_eq_ok_iff.mp h
      exact .signed hds
    · obtain ⟨hds, rfl⟩ := readNumeral_eq_ok_iff.mp h
      exact .bare hds
  · intro h
    cases h with
    | signed hds => exact readNumeral_eq_ok_iff.mpr ⟨hds, rfl⟩
    | bare hds =>
      unfold readNat
      split
      · exact absurd rfl hds.ne_nil
      · have hplus := hds.digits '+' (List.mem_cons_self ..)
        cases hplus
      · exact readNumeral_eq_ok_iff.mpr ⟨hds, rfl⟩

theorem Numeral.le (h : Numeral limit s n) : n ≤ limit := by
  cases h with
  | bare hds => exact hds.le_limit
  | signed hds => exact hds.le_limit

/-- Numbers of two bytes are read as what they are, and larger ones are not brought back into their
range. -/
theorem readUInt16?_eq_some_iff {text : String} {k : UInt16} :
    readUInt16? text = some k ↔ Numeral maxUInt16 text.toList k.toNat := by
  rw [← readNat_eq_ok_iff, readUInt16?]
  cases hr : readNat maxUInt16 text.toList with
  | error fault => simp [Except.toOption]
  | ok n =>
    have hn : n < 65536 := Nat.lt_succ_of_le (readNat_eq_ok_iff.mp hr).le
    simp only [Except.toOption, Option.map_some, Option.some.injEq, Except.ok.injEq]
    constructor
    · rintro rfl
      exact (UInt16.toNat_ofNat_of_lt' hn).symm
    · rintro rfl
      exact UInt16.ofNat_toNat

end DevServer.Number.Decimal
