import DevServer.Proofs.Toml.Reading
import Mathlib.Algebra.Group.Nat.Defs

/-!
# Values that were written are read back

A text between double quotes, with the escapes that the writer gives it, is read as the text; the
decimal digits of a number of at most sixty-three bits are read as the number, after a date, a time
and a number with a fraction have been tried; and so are the words of truth.
-/
namespace DevServer.Toml

set_option autoImplicit false

namespace Scan

/-- A text in pieces of which the scan takes one after the other until it declines. -/
inductive Pieces (scan : Scan (List Char)) (rest : List Char) : List Char → List Char → Prop
  | done : Declines scan rest → Pieces scan rest [] []
  | more {s s' p content : List Char} : s ≠ [] → Takes scan s (s' ++ rest) (· = p) →
    Pieces scan rest s' content → Pieces scan rest (s ++ s') (p ++ content)

theorem takes_many_none {α : Type} {scan : Scan α} {rest : List Char} (h : Declines scan rest) :
    Takes (many scan) [] rest (· = []) :=
  Takes.last (R := (· = [])) (takes_iterate_stop (h.bind _) rfl)
    fun _ hnone => takes_pure (by rw [hnone]; rfl)

theorem Pieces.many {scan : Scan (List Char)} {rest text content : List Char}
    (h : Pieces scan rest text content) :
    Takes (many scan) text rest (fun values => values.flatten = content) := by
  -- What has been read so far is kept in reverse.
  have hiterate : ∀ acc : List (List Char),
      Takes (iterate (fun acc => return (← scan) :: acc) acc) text rest
        (fun values => values.reverse.flatten = acc.reverse.flatten ++ content) := by
    induction h with
    | done h => exact fun acc => takes_iterate_stop (h.bind _) (by simp)
    | @more s s' p content hne htakes _ ih =>
      intro acc
      have hround : Takes (do return (← scan) :: acc) s (s' ++ rest) (· = p :: acc) :=
        htakes.last fun value hvalue => takes_pure (by rw [hvalue])
      refine takes_iterate_round hround hne fun acc' hacc => (ih acc').mono fun values hvalues => ?_
      rw [hvalues, hacc]
      simp
  exact (hiterate []).last fun values hvalues => takes_pure (by simpa using hvalues)

end Scan

section Escapes

/-- The ways in which a character is written. -/
inductive EscapeSpec (c : Char) : List Char → Prop
  | itself : isBasicChar c = true → EscapeSpec c [c]
  | letter {letter : Char} : shortEscapes.lookup letter = some c → EscapeSpec c ['\\', letter]
  | digits : c.toNat < 128 → EscapeSpec c ('\\' :: 'u' :: hex4 c.toNat)

theorem escape_spec (c : Char) : EscapeSpec c (escapeChar c) := by
  unfold escapeChar
  iterate 7
    split
    · next h =>
      subst h
      exact .letter (by decide)
  split
  · next h =>
    refine .digits ?_
    simp [isControl] at h
    omega
  · next hquote hbackslash _ htab _ _ _ hcontrol =>
    refine .itself ?_
    simp [isControl, htab] at hcontrol
    simp [isBasicChar, isPlain, isWide, hquote, hbackslash, htab]
    omega

theorem escapeChar_ne_nil (c : Char) : escapeChar c ≠ [] := by
  have h := escape_spec c
  generalize escapeChar c = s at h
  cases h <;> simp

/-- The digits of a code point are those of the character. -/
theorem hex4_spec : ∀ n < 128,
    (hex4 n).length = 4 ∧ (hex4 n).all isHexDigit = true ∧ ofDigits 16 (hex4 n) = n := by
  decide

end Escapes

namespace Scan

theorem takes_codePoint {c : Char} (h : c.toNat < 128) (rest : List Char) :
    Takes (codePoint 4) (hex4 c.toNat) rest (· = c) := by
  obtain ⟨hlength, hdigits, hvalue⟩ := hex4_spec c.toNat h
  refine (takes_takeExactly hlength (List.all_eq_true.mp hdigits)).check fun digits hd => ⟨c, ?_, rfl⟩
  subst hd
  dsimp only
  rw [hvalue, if_pos (show c.toNat.isValidChar from c.valid), Char.ofNat_toNat]

theorem takes_escape {c : Char} {s : List Char} (h : EscapeSpec c s) (hne : s ≠ [c])
    (rest : List Char) : Takes escape s rest (· = c) := by
  cases h with
  | itself _ => exact absurd rfl hne
  | @letter letter hlookup =>
    refine (takes_char '\\').bind (t := [letter]) fun _ _ => takes_here ?_
    refine (takes_satisfy rfl).last fun l hl => ?_
    rw [hl, hlookup]
    exact takes_pure rfl
  | digits hc =>
    refine (takes_char '\\').bind (t := 'u' :: hex4 c.toNat) fun _ _ => takes_here ?_
    refine (takes_satisfy (c := 'u') rfl).bind (t := hex4 c.toNat) fun l hl => ?_
    rw [hl]
    exact ((takes_codePoint hc rest).mapFailure _).mapFailure _

/-- The character is written as itself. -/
def isItself (c : Char) : Bool := escapeChar c = [c]

theorem isBasicChar_of_isItself {c : Char} (h : isItself c = true) : isBasicChar c = true := by
  have hspec := escape_spec c
  rw [of_decide_eq_true h] at hspec
  generalize hs : [c] = s at hspec
  cases hspec with
  | itself hc => exact hc
  | letter _ => simp at hs
  | digits _ => simp at hs

theorem escaped_eq_cons {c : Char} (h : isItself c = false) :
    ∃ s, escapeChar c = '\\' :: s ∧ escapeChar c ≠ [c] := by
  have hspec := escape_spec c
  have hne : escapeChar c ≠ [c] := of_decide_eq_false h
  generalize escapeChar c = s at hspec hne
  cases hspec with
  | itself _ => exact absurd rfl hne
  | letter _ => exact ⟨_, rfl, hne⟩
  | digits _ => exact ⟨_, rfl, hne⟩

theorem flatMap_itself {cs : List Char} (h : ∀ c ∈ cs, isItself c = true) :
    cs.flatMap escapeChar = cs := by
  induction cs with
  | nil => rfl
  | cons c cs ih =>
    obtain ⟨hc, hcs⟩ := List.forall_mem_cons.mp h
    rw [List.flatMap_cons, ih hcs, of_decide_eq_true hc]
    rfl

theorem exists_run (cs : List Char) : ∃ run left, cs = run ++ left ∧
    (∀ c ∈ run, isItself c = true) ∧ ∀ c ∈ left.head?, isItself c = false := by
  induction cs with
  | nil => exact ⟨[], [], rfl, List.forall_mem_nil _, fun _ h => by cases h⟩
  | cons c cs ih =>
    cases hc : isItself c with
    | false =>
      refine ⟨[], c :: cs, rfl, List.forall_mem_nil _, ?_⟩
      rintro _ ⟨⟩
      exact hc
    | true =>
      obtain ⟨run, left, rfl, hrun, hleft⟩ := ih
      exact ⟨c :: run, left, rfl, List.forall_mem_cons.mpr ⟨hc, hrun⟩, hleft⟩

/-- Behind characters that are written as themselves come the quote or a backslash. -/
theorem stops_written {cs : List Char} (h : ∀ c ∈ cs.head?, isItself c = false) (r : List Char) :
    Stops isBasicChar (cs.flatMap escapeChar ++ '"' :: r) := by
  cases cs with
  | nil => exact stops_cons (by decide) r
  | cons c cs =>
    obtain ⟨s, hs, _⟩ := escaped_eq_cons (h c rfl)
    rw [List.flatMap_cons, hs]
    exact stops_cons (by decide) _

theorem takes_escaped {c : Char} (h : isItself c = false) (rest : List Char) :
    Takes basicPiece (escapeChar c) rest (· = [c]) := by
  obtain ⟨s, hs, hne⟩ := escaped_eq_cons h
  have hstops : Stops isBasicChar (escapeChar c ++ rest) := hs ▸ stops_cons (by decide) _
  exact (declines_takeWhile1 hstops).orElse
    ((takes_escape (escape_spec c) hne rest).last fun x hx => takes_pure (by rw [hx]))

/-- Characters that are written as themselves are taken together, the others one by one. -/
theorem pieces_basic (cs r : List Char) :
    Pieces basicPiece ('"' :: r) (cs.flatMap escapeChar) cs := by
  induction hn : cs.length using Nat.strongRecOn generalizing cs with
  | _ n ih =>
    subst hn
    cases cs with
    | nil =>
      refine .done (Declines.or (declines_takeWhile1 (stops_cons (by decide) r)) ?_)
      exact ((declines_satisfy (stops_cons (by decide) r)).bind _).bind _
    | cons c cs =>
      cases hc : isItself c with
      | false =>
        exact .more (p := [c]) (escapeChar_ne_nil c) (takes_escaped hc _)
          (ih cs.length (Nat.lt_succ_self _) cs rfl)
      | true =>
        obtain ⟨run, left, rfl, hrun, hleft⟩ := exists_run cs
        have hitself : ∀ x ∈ c :: run, isItself x = true := List.forall_mem_cons.mpr ⟨hc, hrun⟩
        have htakes : Takes basicPiece (c :: run) (left.flatMap escapeChar ++ '"' :: r)
            (· = c :: run) :=
          (takes_takeWhile1 (List.cons_ne_nil c run)
            (fun x hx => isBasicChar_of_isItself (hitself x hx)) (stops_written hleft r)).orElse _
        have hless : left.length < (c :: (run ++ left)).length := by
          rw [List.length_cons, List.length_append]
          omega
        rw [← List.cons_append, List.flatMap_append, flatMap_itself hitself]
        exact .more (List.cons_ne_nil c run) htakes
          (ih left.length hless left rfl)

theorem takes_basicString (cs rest : List Char) :
    Takes basicString (writeBasic cs) rest (· = cs) := by
  refine (takes_char '"').bind (t := cs.flatMap escapeChar ++ ['"']) fun _ _ => ?_
  refine (pieces_basic cs rest).many.bind fun pieces hpieces => ?_
  exact ((takes_char '"').mapFailure _ |>.mapFailure _).last fun _ _ => takes_pure hpieces

theorem head_written (cs rest : List Char) (hrest : Stops (· = '"') rest) :
    ¬ ['"', '"', '"'] <+: writeBasic cs ++ rest := by
  intro h
  obtain ⟨_, h⟩ := List.cons_prefix_cons.mp h
  cases cs with
  | nil =>
    obtain ⟨_, h⟩ := List.cons_prefix_cons.mp h
    cases rest with
    | nil => simp at h
    | cons c rest =>
      obtain ⟨rfl, _⟩ := List.cons_prefix_cons.mp h
      cases hrest '"' rfl
  | cons c cs =>
    have hspec := escape_spec c
    rw [List.flatMap_cons] at h
    generalize escapeChar c = s at hspec h
    cases hspec with
    | itself hc =>
      obtain ⟨rfl, _⟩ := List.cons_prefix_cons.mp h
      cases hc
    | letter _ => exact absurd (List.cons_prefix_cons.mp h).1 (by decide)
    | digits _ => exact absurd (List.cons_prefix_cons.mp h).1 (by decide)

/-- An empty text is no beginning of one over several lines, if no quote follows it. -/
theorem takes_string (cs : List Char) {rest : List Char} (hrest : Stops (· = '"') rest) :
    Takes string (writeBasic cs) rest (· = cs) :=
  Declines.orElse (((declines_literal (head_written cs rest hrest)).bind _).labelled _)
    ((takes_basicString cs rest).orElse _)

end Scan

section Digits

variable {ds : List Char}

theorem ofDigits_eq (hds : ∀ c ∈ ds, c.isDigit = true) (n : Nat) :
    ds.foldl (fun n c => n * 10 + digitValue c) n = Nat.ofDigitChars 10 ds n := by
  induction ds generalizing n with
  | nil => rfl
  | cons d ds ih =>
    obtain ⟨hd, hds⟩ := List.forall_mem_cons.mp hds
    rw [List.foldl_cons, ih hds, Nat.ofDigitChars_cons, digitValue, if_pos hd, Nat.mul_comm]

theorem isDigit_toDigits (n : Nat) : ∀ c ∈ Nat.toDigits 10 n, c.isDigit = true :=
  fun _ => Nat.isDigit_of_mem_toDigits (by decide) (by decide)

theorem ofDigits_toDigits (n : Nat) : ofDigits 10 (Nat.toDigits 10 n) = n :=
  (ofDigits_eq (isDigit_toDigits n) 0).trans Nat.ofDigitChars_ten_toDigits

/-- Digits of which the first is no zero that others follow. -/
structure Numeral (ds : List Char) : Prop where
  digits : ∀ c ∈ ds, c.isDigit = true
  leading : ds = ['0'] ∨ ∃ d ds', ds = d :: ds' ∧ d ≠ '0'

theorem numeral_toDigits (n : Nat) : Numeral (Nat.toDigits 10 n) := by
  refine ⟨isDigit_toDigits n, ?_⟩
  induction n using Nat.strongRecOn with
  | _ n ih =>
    by_cases hsmall : n < 10
    · rw [Nat.toDigits_of_lt_base hsmall]
      cases n with
      | zero => exact .inl rfl
      | succ n =>
        refine .inr ⟨_, [], rfl, ?_⟩
        have hchars : ∀ k < 10, 0 < k → Nat.digitChar k ≠ '0' := by decide
        exact hchars (n + 1) hsmall (Nat.succ_pos n)
    · rw [Nat.toDigits_of_base_le (by decide) (Nat.le_of_not_lt hsmall)]
      have hquotient : Nat.toDigits 10 (n / 10) ≠ ['0'] := by
        intro h
        have hvalue := ofDigits_toDigits (n / 10)
        rw [h] at hvalue
        have hzero : ofDigits 10 ['0'] = 0 := by decide
        omega
      obtain ⟨d, ds, hd, hne⟩ := (ih (n / 10) (by omega)).resolve_left hquotient
      rw [hd]
      exact .inr ⟨d, _, List.cons_append, hne⟩

theorem Numeral.eq_cons (h : Numeral ds) : ∃ d ds', ds = d :: ds' ∧ d.isDigit = true := by
  rcases h.leading with rfl | ⟨d, ds', rfl, _⟩
  · exact ⟨'0', [], rfl, by decide⟩
  · exact ⟨d, ds', rfl, h.digits d List.mem_cons_self⟩

/-- A character that is a digit is none of the others. -/
theorem ne_of_isDigit {d c : Char} (hd : d.isDigit = true) (hc : c.isDigit = false) : d ≠ c := by
  rintro rfl
  rw [hd] at hc
  cases hc

end Digits

namespace Scan

variable {ds r : List Char}

/-- A class in which there are no digits and no line end. -/
theorem stops_digits (hds : ∀ c ∈ ds, c.isDigit = true) {p : Char → Bool}
    (hp : ∀ d : Char, d.isDigit = true → p d = false) (hend : p '\n' = false) (r : List Char) :
    Stops p (ds ++ '\n' :: r) := by
  cases ds with
  | nil => exact stops_cons hend r
  | cons d ds => exact stops_cons (hp d (hds d List.mem_cons_self)) _

theorem declines_char_behind (hds : ∀ c ∈ ds, c.isDigit = true) {c : Char}
    (hc : c.isDigit = false) (hend : c ≠ '\n') (r : List Char) :
    Declines (char c) (ds ++ '\n' :: r) :=
  declines_satisfy (stops_digits hds (fun _ hd => decide_eq_false (ne_of_isDigit hd hc))
    (decide_eq_false hend.symm) r)

theorem pieces_digits (hds : ∀ c ∈ ds, c.isDigit = true) (r : List Char) :
    Pieces (digitOrGap Char.isDigit) ('\n' :: r) ds ds := by
  induction ds with
  | nil =>
    exact .done (((declines_satisfy (stops_cons (by decide) r)).bind _).or
      ((declines_satisfy (stops_cons (by decide) r)).bind _))
  | cons d ds ih =>
    obtain ⟨hd, hds⟩ := List.forall_mem_cons.mp hds
    refine .more (p := [d]) (s := [d]) (List.cons_ne_nil _ _) ?_ (ih hds)
    exact ((takes_satisfy hd).last fun c hc => takes_pure (by rw [hc])).orElse _

theorem takes_no_sign (hds : Numeral ds) (r : List Char) :
    Takes sign [] (ds ++ '\n' :: r) (· = none) := by
  refine (declines_satisfy (stops_digits hds.digits (fun d hd => ?_) (by decide) r)).optional
  simp [ne_of_isDigit hd]

theorem takes_decimalInteger (hds : Numeral ds) (r : List Char) :
    Takes decimalInteger ds ('\n' :: r) (· = (none, ds)) := by
  have hdigits : Takes (orElse
      (do
        let first ← satisfy fun c => c.isDigit && c ≠ '0'
        let more ← many (digitOrGap Char.isDigit)
        return first :: more.flatten)
      (do return [← satisfy Char.isDigit])) ds ('\n' :: r) (· = ds) := by
    rcases hds.leading with rfl | ⟨d, ds', rfl, hne⟩
    · refine Declines.orElse ((declines_satisfy (stops_cons (by decide) _)).bind _) ?_
      exact (takes_satisfy (by decide)).last fun c hc => takes_pure (by rw [hc])
    · obtain ⟨hd, hds⟩ := List.forall_mem_cons.mp hds.digits
      refine Takes.orElse ((takes_satisfy (by simp [hd, hne])).bind (t := ds') fun c hc => ?_) _
      exact (pieces_digits hds r).many.last fun more hmore => takes_pure (by rw [hc, hmore])
  refine Takes.mapFailure ((takes_no_sign hds r).first fun s hs => ?_) _
  exact hdigits.last fun digits hd => takes_pure (by rw [hs, hd])

theorem declines_floatingPoint (hds : Numeral ds) (r : List Char) :
    Declines floatingPoint (ds ++ '\n' :: r) := by
  have hend : ∀ p : Char → Bool, p '\n' = false → Declines (satisfy p) ('\n' :: r) :=
    fun p hp => declines_satisfy (stops_cons hp r)
  have hword : ∀ c l, c.isDigit = false → Declines (literal (c :: l)) (ds ++ '\n' :: r) := by
    intro c l hc
    refine declines_literal fun h => ?_
    obtain ⟨d, ds', rfl, hd⟩ := hds.eq_cons
    exact ne_of_isDigit hd hc (List.cons_prefix_cons.mp h).1.symm
  refine Declines.labelled (Declines.or (Declines.require ?_ _) ?_) _
  · refine (takes_decimalInteger hds r).declines fun _ _ => Declines.bind ?_ _
    exact (((hend _ (by decide)).bind _).bind _).or (((hend _ (by decide)).bind _).bind _)
  · refine (takes_no_sign hds r).declines fun _ _ => ?_
    exact ((hword 'i' _ (by decide)).bind _).or ((hword 'n' _ (by decide)).bind _)

/-- A number of so many digits is there, or there are not as many digits. -/
theorem padded_spec (hds : ∀ c ∈ ds, c.isDigit = true) (n : Nat) (r : List Char) :
    Declines (paddedNumber n) (ds ++ '\n' :: r) ∨
      ∃ s left, s ++ left = ds ∧ Takes (paddedNumber n) s (left ++ '\n' :: r) fun _ => True := by
  by_cases hn : ds.length < n
  · exact .inl ((declines_takeExactly hn hds (stops_cons (by decide) r)).bind _)
  · refine .inr ⟨ds.take n, ds.drop n, List.take_append_drop n ds, ?_⟩
    have hlength : (ds.take n).length = n := List.length_take_of_le (Nat.le_of_not_lt hn)
    exact (takes_takeExactly hlength fun c hc => hds c (List.mem_of_mem_take hc)).last
      fun _ _ => takes_pure trivial

theorem declines_instant (hds : ∀ c ∈ ds, c.isDigit = true) (r : List Char) :
    Declines instant (ds ++ '\n' :: r) := by
  have hdate : Declines date (ds ++ '\n' :: r) := by
    rcases padded_spec hds 4 r with hno | ⟨s, left, rfl, htakes⟩
    · exact hno.bind _
    · rw [List.append_assoc]
      have hleft : ∀ c ∈ left, c.isDigit = true := fun c hc => hds c (List.mem_append_right s hc)
      exact htakes.declines fun _ _ =>
        (declines_char_behind hleft (by decide) (by decide) r).bind _
  have htime : Declines time (ds ++ '\n' :: r) := by
    rcases padded_spec hds 2 r with hno | ⟨s, left, rfl, htakes⟩
    · exact (hno.check _).bind _
    · rw [List.append_assoc]
      have hleft : ∀ c ∈ left, c.isDigit = true := fun c hc => hds c (List.mem_append_right s hc)
      exact htakes.declines_check fun _ =>
        (declines_char_behind hleft (by decide) (by decide) r).bind _
  exact ((hdate.bind _).labelled _).or (htime.labelled _)

/-- No letter of another base follows the first digit. -/
theorem takes_integer (hds : Numeral ds) (hrange : ofDigits 10 ds < 2 ^ 63) (r : List Char) :
    Takes integer ds ('\n' :: r) (· = (ofDigits 10 ds : Int)) := by
  have hrequire : Takes (require inRange (signed 10 <$> decimalInteger)) ds ('\n' :: r)
      (· = (ofDigits 10 ds : Int)) := by
    refine ((takes_decimalInteger hds r).map (signed 10) (Q := (· = (ofDigits 10 ds : Int)))
      fun a ha => by rw [ha]; rfl).require fun n hn => ⟨n, ?_, hn⟩
    unfold inRange
    rw [if_neg (by omega), if_neg (by omega)]
  have hsecond : ∀ c tail, c.isDigit = false → c ≠ '\n' → ds ++ '\n' :: r ≠ '0' :: c :: tail := by
    intro c tail hc hend h
    obtain ⟨d, ds', rfl, _⟩ := hds.eq_cons
    obtain ⟨_, h⟩ := List.cons.inj h
    have hdigits := (List.forall_mem_cons.mp hds.digits).2
    cases ds' with
    | nil => exact hend (List.cons.inj h).1.symm
    | cons d' ds' => exact ne_of_isDigit (hdigits d' List.mem_cons_self) hc (List.cons.inj h).1
  refine takes_here ?_
  split
  · next tail h => exact absurd h (hsecond _ _ (by decide) (by decide))
  · next tail h => exact absurd h (hsecond _ _ (by decide) (by decide))
  · next tail h => exact absurd h (hsecond _ _ (by decide) (by decide))
  · exact hrequire

end Scan

/-- A value on a line of its own. -/
inductive Literal where
  | text (s : String)
  | number (n : Nat)
  | truth (b : Bool)

namespace Literal

def write : Literal → List Char
  | .text s => writeBasic s.toList
  | .number n => Nat.toDigits 10 n
  | .truth b => if b then "true".toList else "false".toList

def scalar : Literal → Scalar
  | .text s => .text s
  | .number n => .integer n
  | .truth b => .truth b

/-- A number is one of sixty-three bits. -/
def Small : Literal → Prop
  | .number n => n < 2 ^ 63
  | _ => True

end Literal

namespace Scan

theorem takes_number {n : Nat} (hn : n < 2 ^ 63) (r : List Char) :
    Takes scalar (Nat.toDigits 10 n) ('\n' :: r) (· = .integer n) := by
  have hds := numeral_toDigits n
  obtain ⟨d, ds, hcons, hd⟩ := hds.eq_cons
  have hne : ∀ c : Char, c.isDigit = false → d ≠ c := fun c => ne_of_isDigit hd
  have hnumber : Takes (orElse (do instant; return .instant)
      (orElse (Scalar.decimal <$> floatingPoint) (Scalar.integer <$> integer)))
      (Nat.toDigits 10 n) ('\n' :: r) (· = .integer n) := by
    refine ((declines_instant hds.digits r).bind _).orElse
      (((declines_floatingPoint hds r).map _).orElse ?_)
    refine (takes_integer hds (by rwa [ofDigits_toDigits]) r).map _ fun k hk => ?_
    rw [hk, ofDigits_toDigits]
  refine takes_peek_at hcons ?_
  split
  · next h => cases h
  all_goals try next h => exact absurd (Option.some.inj h) (hne _ (by decide))
  next c _ _ _ _ _ _ _ _ _ h =>
    obtain rfl := Option.some.inj h
    rw [if_pos (by simp [hd])]
    exact hnumber

theorem takes_word (s rest : List Char) (v : Scalar) :
    Takes (word (committed (do literal s; return v))) s rest (· = v) := by
  have hword : Takes (do literal s; return v) s rest (· = v) :=
    (takes_literal s).last fun _ _ => takes_pure rfl
  exact ((hword.mapFailure _).mapFailure _).mapFailure _

/-- A literal before the end of a line. -/
theorem takes_scalar {l : Literal} (hl : l.Small) (r : List Char) :
    Takes scalar l.write ('\n' :: r) (· = l.scalar) := by
  cases l with
  | text s =>
    refine takes_peek ?_
    exact (takes_string s.toList (stops_cons (by decide) r)).last fun cs hcs =>
      takes_pure (by rw [hcs, String.ofList_toList]; rfl)
  | number n => exact takes_number hl r
  | truth b =>
    cases b with
    | true =>
      refine takes_peek ?_
      exact takes_word "true".toList _ (.truth true)
    | false =>
      refine takes_peek ?_
      exact takes_word "false".toList _ (.truth false)

theorem head_write (l : Literal) :
    ∃ c s, l.write = c :: s ∧ c ≠ '[' ∧ c ≠ '\x7b' ∧ isBlank c = false := by
  cases l with
  | text s => exact ⟨'"', _, rfl, by decide, by decide, by decide⟩
  | number n =>
    obtain ⟨d, ds, hcons, hd⟩ := (numeral_toDigits n).eq_cons
    refine ⟨d, ds, hcons, ne_of_isDigit hd (by decide), ne_of_isDigit hd (by decide), ?_⟩
    simp [isBlank, ne_of_isDigit hd]
  | truth b =>
    cases b with
    | true => exact ⟨'t', _, rfl, by decide, by decide, by decide⟩
    | false => exact ⟨'f', _, rfl, by decide, by decide, by decide⟩

theorem takes_valueWith {l : Literal} (hl : l.Small) (nested : Option (Scan Node)) (r : List Char) :
    Takes (valueWith nested) l.write ('\n' :: r) (fun node => ∃ span, node = .scalar l.scalar span) := by
  obtain ⟨c, s, hcons, hbracket, hbrace, _⟩ := head_write l
  refine takes_peek_at hcons ?_
  split
  · next h => exact absurd (Option.some.inj h) hbracket
  · next h => exact absurd (Option.some.inj h) hbrace
  · next h => exact absurd (Option.some.inj h) hbracket
  · next h => exact absurd (Option.some.inj h) hbrace
  · exact (takes_scalar hl r).spanned.last fun v hv => takes_pure ⟨v.2, by rw [← hv]⟩

theorem takes_value {l : Literal} (hl : l.Small) (r : List Char) :
    Takes value l.write ('\n' :: r) (fun node => ∃ span, node = .scalar l.scalar span) :=
  takes_valueWith hl _ r

end Scan

/-- A name that needs no quotes. -/
structure Bare (name : String) : Prop where
  ne_nil : name.toList ≠ []
  chars : ∀ c ∈ name.toList, isBareKeyChar c = true

instance (name : String) : Decidable (Bare name) :=
  decidable_of_iff (name.toList ≠ [] ∧ name.toList.all isBareKeyChar = true)
    ⟨fun h => ⟨h.1, List.all_eq_true.mp h.2⟩, fun h => ⟨h.ne_nil, List.all_eq_true.mpr h.chars⟩⟩

theorem Bare.eq_cons {name : String} (h : Bare name) :
    ∃ c cs, name.toList = c :: cs ∧ isBareKeyChar c = true := by
  obtain ⟨c, cs, hcons⟩ := List.exists_cons_of_ne_nil h.ne_nil
  exact ⟨c, cs, hcons, h.chars c (hcons ▸ List.mem_cons_self)⟩

/-- A path of one key with this name. -/
def IsPath (name : String) (path : List Key) : Prop := ∃ k, path = [k] ∧ k.name = name

namespace Scan

variable {name : String} {s rest : List Char}

theorem takes_simpleKey (hname : Bare name) (hrest : Stops isBareKeyChar rest) :
    Takes simpleKey name.toList rest (fun k => k.name = name) := by
  obtain ⟨c, cs, hcons, hc⟩ := hname.eq_cons
  have hquote : ∀ q : Char, isBareKeyChar q = false → some c ≠ some q := by
    rintro _ hq ⟨⟩
    rw [hc] at hq
    cases hq
  refine Takes.last (Takes.spanned (R := (· = name.toList)) (takes_peek_at hcons ?_)) fun r hr => ?_
  · split
    · next h => cases h
    · next h => exact absurd h (hquote _ (by decide))
    · next h => exact absurd h (hquote _ (by decide))
    · exact takes_takeWhile1 hname.ne_nil hname.chars hrest
  · exact takes_pure ((congrArg String.ofList hr).trans String.ofList_toList)

theorem takes_blanks (hs : ∀ c ∈ s, isBlank c = true) (hrest : Stops isBlank rest) :
    Takes blanks s rest fun _ => True :=
  (takes_takeWhile hs hrest).last fun _ _ => takes_pure trivial

theorem takes_no_blanks (hrest : Stops isBlank rest) : Takes blanks [] rest fun _ => True :=
  takes_blanks (List.forall_mem_nil _) hrest

theorem stops_bare (hname : Bare name) {p : Char → Bool}
    (hp : ∀ c, isBareKeyChar c = true → p c = false) (rest : List Char) :
    Stops p (name.toList ++ rest) := by
  obtain ⟨c, cs, hcons, hc⟩ := hname.eq_cons
  rw [hcons]
  exact stops_cons (hp c hc) _

theorem not_isBlank {c : Char} (hc : isBareKeyChar c = true) : isBlank c = false := by
  rw [Bool.eq_false_iff]
  intro h
  rcases (by simpa [isBlank] using h : c = ' ' ∨ c = '\t') with rfl | rfl <;> cases hc

/-- A name with blanks behind it is a path of one key. -/
theorem takes_dottedKey (hname : Bare name) (hs : ∀ c ∈ s, isBlank c = true)
    (hkey : Stops isBareKeyChar (s ++ rest)) (hblank : Stops isBlank rest)
    (hdot : Stops (· = '.') rest) :
    Takes dottedKey (name.toList ++ s) rest (IsPath name) := by
  have hpart : Takes (do
      blanks
      let key ← simpleKey
      blanks
      return key) (name.toList ++ s) rest (fun k => k.name = name) := by
    have hstart : Stops isBlank (name.toList ++ s ++ rest) := by
      rw [List.append_assoc]
      exact stops_bare hname (fun _ => not_isBlank) _
    refine (takes_no_blanks hstart).first fun _ _ => ?_
    refine (takes_simpleKey hname hkey).bind fun k hk => ?_
    exact (takes_blanks hs hblank).last fun _ _ => takes_pure hk
  have hpath : Takes (separated1 (do let _ ← char '.') do
      blanks
      let key ← simpleKey
      blanks
      return key) (name.toList ++ s) rest (IsPath name) := by
    refine hpart.last fun k hk => ?_
    exact (takes_many_none (((declines_satisfy hdot).bind _).bind _)).last fun more hmore =>
      takes_pure ⟨k, by rw [hmore], hk⟩
  refine (hpath.mapFailure _).check fun path hpath => ⟨path, ?_, hpath⟩
  obtain ⟨k, rfl, _⟩ := hpath
  rfl

end Scan

end DevServer.Toml
