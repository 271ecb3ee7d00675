import DevServer.Text.Blank
import Mathlib.Data.List.TakeWhile

/-!
# A text without the blanks around it

`Core` says what trimming leaves, whatever order the two ends are taken in: the text is blanks, the
core and blanks again, and the core neither begins nor ends with a blank. Each text has one core.
-/
namespace DevServer.Text.Blank

set_option autoImplicit false

/-- The code points of the `White_Space` property. -/
def whiteSpace : List Nat :=
  [0x09, 0x0A, 0x0B, 0x0C, 0x0D, 0x20, 0x85, 0xA0, 0x1680, 0x2000, 0x2001, 0x2002, 0x2003, 0x2004,
    0x2005, 0x2006, 0x2007, 0x2008, 0x2009, 0x200A, 0x2028, 0x2029, 0x202F, 0x205F, 0x3000]

def IsWhiteSpace (c : Char) : Prop := c.toNat ∈ whiteSpace

/-- What is left of a text when the blanks at both ends are taken off. -/
structure Core (s core : List Char) : Prop where
  around : ∃ before after, s = before ++ (core ++ after) ∧
    (∀ c ∈ before, IsWhiteSpace c) ∧ ∀ c ∈ after, IsWhiteSpace c
  head : ∀ c, core.head? = some c → ¬ IsWhiteSpace c
  last : ∀ c, core.getLast? = some c → ¬ IsWhiteSpace c

theorem isBlank_iff {c : Char} : isBlank c = true ↔ IsWhiteSpace c := by
  simp only [isBlank, IsWhiteSpace, whiteSpace, Bool.or_eq_true, Bool.and_eq_true, decide_eq_true_eq,
    List.contains_eq_mem, List.mem_cons, List.not_mem_nil, or_false]
  omega

variable {s core : List Char}

/-- Where the dropping stops there is no blank. -/
theorem not_isWhiteSpace_head (s : List Char) {c : Char}
    (hc : (s.dropWhile isBlank).head? = some c) : ¬ IsWhiteSpace c := by
  have hstop := List.head?_dropWhile_not isBlank s
  rw [hc] at hstop
  rw [← isBlank_iff, Bool.not_eq_true]
  exact hstop

theorem isWhiteSpace_takeWhile {c : Char} (hc : c ∈ s.takeWhile isBlank) : IsWhiteSpace c :=
  isBlank_iff.mp (List.mem_takeWhile_imp hc)

theorem core_trim (s : List Char) : Core s (trim s) := by
  have hfront : s.takeWhile isBlank ++ s.dropWhile isBlank = s := List.takeWhile_append_dropWhile
  generalize hrest : s.dropWhile isBlank = rest at hfront
  have hback : trim s ++ (rest.reverse.takeWhile isBlank).reverse = rest := by
    rw [trim, hrest, ← List.reverse_append, List.takeWhile_append_dropWhile, List.reverse_reverse]
  refine ⟨⟨_, _, by rw [hback, hfront], fun c hc => isWhiteSpace_takeWhile hc, fun c hc =>
    isWhiteSpace_takeWhile (List.mem_reverse.mp hc)⟩, fun c hc => ?_, fun c hc => ?_⟩
  · -- What is taken off at the end leaves the first character as it was.
    refine not_isWhiteSpace_head s ?_
    rw [hrest, ← hback, List.head?_append, hc, Option.some_or]
  · rw [trim, List.getLast?_reverse] at hc
    exact not_isWhiteSpace_head _ hc

/-- Blanks before a text that does not begin with one are all that is dropped. -/
theorem dropWhile_blanks {before rest : List Char} (hbefore : ∀ c ∈ before, IsWhiteSpace c)
    (hrest : ∀ c, rest.head? = some c → ¬ IsWhiteSpace c) :
    (before ++ rest).dropWhile isBlank = rest := by
  rw [List.dropWhile_append_of_pos fun c hc => isBlank_iff.mpr (hbefore c hc)]
  cases rest with
  | nil => rfl
  | cons c rest =>
    have hc : ¬ isBlank c = true := fun h => hrest c rfl (isBlank_iff.mp h)
    exact List.dropWhile_cons_of_neg hc

/-- The core is what trimming leaves. -/
theorem trim_eq_iff : trim s = core ↔ Core s core := by
  constructor
  · rintro rfl
    exact core_trim s
  · rintro ⟨⟨before, after, rfl, hbefore, hafter⟩, hhead, hlast⟩
    cases core with
    | nil =>
      have hblank : ∀ c ∈ before ++ after, isBlank c = true := fun c hc =>
        isBlank_iff.mpr ((List.mem_append.mp hc).elim (hbefore c) (hafter c))
      rw [trim, List.nil_append, List.dropWhile_eq_nil_iff.mpr hblank]
      rfl
    | cons c core =>
      have hback : ∀ d ∈ after.reverse, IsWhiteSpace d := fun d hd =>
        hafter d (List.mem_reverse.mp hd)
      have hfront : ((c :: core) ++ after).head? = some c := rfl
      rw [trim, dropWhile_blanks hbefore (by rwa [hfront]), List.reverse_append,
        dropWhile_blanks hback (by rwa [List.head?_reverse]), List.reverse_reverse]

/-- A text of blanks has nothing for its core. -/
theorem core_of_blanks (hs : ∀ c ∈ s, IsWhiteSpace c) : Core s [] where
  around := ⟨s, [], (List.append_nil s).symm, hs, fun _ hc => absurd hc List.not_mem_nil⟩
  head := nofun
  last := nofun

end DevServer.Text.Blank
