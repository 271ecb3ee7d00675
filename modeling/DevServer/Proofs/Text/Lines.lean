import DevServer.Text.Json
import DevServer.Text.Quoted

/-!
# Texts on one line

A text is unbroken if it has no line end. What is put together from unbroken texts is unbroken, and
so is every text that is quoted, whatever is between the quotes: both forms of quoting write a line
end by other characters.
-/
namespace DevServer.Text

set_option autoImplicit false

/-- No line ends within the text. -/
def Unbroken (s : String) : Prop := '\n' ∉ s.toList

instance (s : String) : Decidable (Unbroken s) := inferInstanceAs (Decidable (¬ _ ∈ _))

@[simp]
theorem unbroken_append {s t : String} : Unbroken (s ++ t) ↔ Unbroken s ∧ Unbroken t := by
  unfold Unbroken
  rw [String.toList_append, List.mem_append, not_or]

theorem Unbroken.between {left s right : String} (hs : Unbroken s) (hleft : Unbroken left)
    (hright : Unbroken right) : Unbroken (left ++ s ++ right) :=
  unbroken_append.mpr ⟨unbroken_append.mpr ⟨hleft, hs⟩, hright⟩

theorem unbroken_ofList {cs : List Char} : Unbroken (String.ofList cs) ↔ ∀ c ∈ cs, c ≠ '\n' := by
  unfold Unbroken
  rw [String.toList_ofList]
  exact ⟨fun h c hc he => h (he ▸ hc), fun h hn => h _ hn rfl⟩

theorem unbroken_singleton {c : Char} (h : c ≠ '\n') : Unbroken (String.singleton c) := by
  unfold Unbroken
  rw [String.toList_singleton]
  exact fun hm => h (List.mem_singleton.mp hm).symm

theorem unbroken_join {l : List String} (h : ∀ s ∈ l, Unbroken s) : Unbroken (String.join l) := by
  unfold Unbroken
  rw [String.toList_join]
  intro hm
  obtain ⟨s, hs, hn⟩ := List.mem_flatMap.mp hm
  exact h s hs hn

/-- Texts with something unbroken between them are unbroken exactly if each of them is. -/
theorem unbroken_intercalate {sep : String} (hsep : Unbroken sep) {l : List String} :
    Unbroken (sep.intercalate l) ↔ ∀ s ∈ l, Unbroken s := by
  induction l with
  | nil => exact ⟨fun _ => nofun, fun _ => List.not_mem_nil⟩
  | cons s l ih =>
    cases l with
    | nil =>
      rw [List.forall_mem_singleton]
      exact Iff.rfl
    | cons t l =>
      rw [String.intercalate_cons_cons, unbroken_append, unbroken_append, ih,
        List.forall_mem_cons (a := s)]
      simp only [hsep, and_true]

theorem digitChar_ne_newline (n : Nat) : n.digitChar ≠ '\n' := Nat.digitChar_ne '\n' rfl

/-- The digits of a number in any base, from the last one on. -/
theorem unbroken_toDigits {base : Nat} (hbase : 1 < base) (n : Nat) :
    ∀ c ∈ Nat.toDigits base n, c ≠ '\n' := by
  induction n using Nat.strongRecOn with
  | ind n ih =>
    intro c hc
    rw [Nat.toDigits_eq_if hbase] at hc
    split at hc
    · rw [List.mem_singleton.mp hc]
      exact digitChar_ne_newline n
    · next hlarge =>
      rcases List.mem_append.mp hc with hc | hc
      · exact ih (n / base) (Nat.div_lt_self (by omega) hbase) c hc
      · rw [List.mem_singleton.mp hc]
        exact digitChar_ne_newline _

theorem unbroken_natural (n : Nat) : Unbroken (toString n) := by
  unfold Unbroken
  rw [Nat.toString_eq_repr, Nat.toList_repr]
  exact fun hm => unbroken_toDigits (by decide) n _ hm rfl

/-- Between quotes a text is as unbroken as what its characters are written by. -/
theorem unbroken_quoted {escape : Char → String} (h : ∀ c, Unbroken (escape c)) (s : String) :
    Unbroken ("\"" ++ String.join (s.toList.map escape) ++ "\"") :=
  (unbroken_join (List.forall_mem_map.mpr fun c _ => h c)).between (by decide) (by decide)

namespace Quoted

theorem unbroken_codePoint (c : Char) : Unbroken (codePoint c) := by
  have hhex : Unbroken (hex c.toNat) := unbroken_ofList.mpr (unbroken_toDigits (by decide) c.toNat)
  exact hhex.between (by decide) (by decide)

/-- The line end has an escape of its own, and no escape has a line end. -/
theorem unbroken_escape (c : Char) : Unbroken (escape c) := by
  unfold escape
  iterate 3
    split
    · decide
  split
  · decide
  next hnewline =>
    iterate 2
      split
      · decide
    split
    · exact unbroken_codePoint c
    · exact unbroken_singleton hnewline

theorem unbroken_quote (s : String) : Unbroken (quote s) := unbroken_quoted unbroken_escape s

theorem unbroken_quoteOption (given : Option String) : Unbroken (quoteOption given) := by
  cases given with
  | none => decide
  | some s => exact (unbroken_quote s).between (by decide) (by decide)

theorem unbroken_quoteList (xs : List String) : Unbroken (quoteList xs) := by
  have hlist : Unbroken (", ".intercalate (xs.map quote)) :=
    (unbroken_intercalate (by decide)).mpr (List.forall_mem_map.mpr fun s _ => unbroken_quote s)
  exact hlist.between (by decide) (by decide)

/-- A byte is written by two digits in capitals. -/
theorem unbroken_byte (b : UInt8) : Unbroken ("\\x" ++ String.ofList
    [(Nat.digitChar (b.toNat / 16)).toUpper, (Nat.digitChar (b.toNat % 16)).toUpper]) := by
  have hdigits : ∀ n < 16, n.digitChar.toUpper ≠ '\n' := by decide
  have hhigh : b.toNat / 16 < 16 := Nat.div_lt_of_lt_mul b.toNat_lt
  have hlow : b.toNat % 16 < 16 := Nat.mod_lt _ (by decide)
  refine unbroken_append.mpr ⟨by decide, unbroken_ofList.mpr ?_⟩
  rw [List.forall_mem_cons, List.forall_mem_singleton]
  exact ⟨hdigits _ hhigh, hdigits _ hlow⟩

/-- The name of a file may be any bytes, line ends among them. -/
theorem unbroken_quotePath (path : List UInt8) : Unbroken (quotePath path) := by
  unfold quotePath
  refine (unbroken_join (List.forall_mem_map.mpr fun piece _ => ?_)).between (by decide) (by decide)
  cases piece with
  | char c =>
    dsimp only
    split
    · decide
    · exact unbroken_escape c
  | bytes bs => exact unbroken_join (List.forall_mem_map.mpr fun b _ => unbroken_byte b)

end Quoted

namespace Json

theorem unbroken_hexByte (n : Nat) : Unbroken (hexByte n) := by
  unfold hexByte
  rw [unbroken_ofList, List.forall_mem_cons, List.forall_mem_singleton]
  exact ⟨digitChar_ne_newline _, digitChar_ne_newline _⟩

theorem unbroken_escape (c : Char) : Unbroken (escape c) := by
  unfold escape
  iterate 4
    split
    · decide
  split
  · decide
  next hnewline =>
    iterate 2
      split
      · decide
    split
    · exact unbroken_append.mpr ⟨by decide, unbroken_hexByte c.toNat⟩
    · exact unbroken_singleton hnewline

theorem unbroken_quote (s : String) : Unbroken (quote s) := unbroken_quoted unbroken_escape s

/-- An object is unbroken if the values of its members are. -/
theorem unbroken_object {members : List (String × String)} (h : ∀ m ∈ members, Unbroken m.2) :
    Unbroken (object members) := by
  have hmembers : Unbroken (",".intercalate (members.map fun m => quote m.1 ++ ":" ++ m.2)) := by
    refine (unbroken_intercalate (by decide)).mpr (List.forall_mem_map.mpr fun m hm => ?_)
    exact Unbroken.between (by decide) (unbroken_quote m.1) (h m hm)
  exact hmembers.between (by decide) (by decide)

end Json
end DevServer.Text
