import DevServer.Toml.Document

/-!
# Reading exactly what stands there

What a scan takes from a text that begins with given characters, and which texts it declines, so that
something else can be tried. The rules follow the scans: one after the other, one or the other, as
many as there are. A step that is repeated is followed round by round, each of which takes something.
-/
namespace DevServer.Toml.Scan

set_option autoImplicit false

/-- Before `rest`, the scan takes these characters and no more, for a value with the property. -/
def Takes {α : Type} (scan : Scan α) (s rest : List Char) (R : α → Prop) : Prop :=
  ∃ a, R a ∧ scan (.ofText (s ++ rest)) = .ok (a, .ofText rest)

/-- The scan does not take anything from the text, and lets others try. -/
def Declines {α : Type} (scan : Scan α) (s : List Char) : Prop :=
  ∃ f, scan (.ofText s) = .error f ∧ f.final = false

/-- The text does not begin with a character of the class. -/
def Stops (p : Char → Bool) (s : List Char) : Prop := ∀ c ∈ s.head?, p c = false

theorem stops_cons {p : Char → Bool} {c : Char} (h : p c = false) (s : List Char) :
    Stops p (c :: s) := by
  rintro _ ⟨⟩
  exact h

theorem rest_ofText (s : List Char) : (Cursor.ofText s).rest = s := rfl

theorem advance_ofText (s rest : List Char) :
    (Cursor.ofText (s ++ rest)).advance s.length = .ofText rest :=
  Cursor.ext_rest (List.drop_left ..)

section Rules

variable {α β : Type} {scan : Scan α} {next : α → Scan β} {s t rest : List Char} {R : α → Prop}
  {Q : β → Prop} {p : Char → Bool}

theorem Takes.mono {R' : α → Prop} (h : Takes scan s rest R) (hR : ∀ a, R a → R' a) :
    Takes scan s rest R' := by
  obtain ⟨a, ha, hs⟩ := h
  exact ⟨a, hR a ha, hs⟩

theorem takes_pure {a : α} (h : R a) : Takes (pure a) [] rest R := ⟨a, h, rfl⟩

theorem Takes.bind (h : Takes scan s (t ++ rest) R) (hnext : ∀ a, R a → Takes (next a) t rest Q) :
    Takes (scan >>= next) (s ++ t) rest Q := by
  obtain ⟨a, ha, hs⟩ := h
  obtain ⟨b, hb, hs'⟩ := hnext a ha
  refine ⟨b, hb, ?_⟩
  rw [List.append_assoc]
  show (scan (.ofText (s ++ (t ++ rest))) >>= fun r => next r.1 r.2) = _
  rw [hs]
  exact hs'

/-- What comes last takes nothing. -/
theorem Takes.last (h : Takes scan s rest R) (hnext : ∀ a, R a → Takes (next a) [] rest Q) :
    Takes (scan >>= next) s rest Q :=
  List.append_nil s ▸ h.bind hnext

/-- What comes first takes nothing. -/
theorem Takes.first (h : Takes scan [] (s ++ rest) R) (hnext : ∀ a, R a → Takes (next a) s rest Q) :
    Takes (scan >>= next) s rest Q :=
  h.bind hnext

/-- A scan whose value alone is changed. -/
theorem Takes.map (h : Takes scan s rest R) (f : α → β) (hf : ∀ a, R a → Q (f a)) :
    Takes (f <$> scan) s rest Q := by
  obtain ⟨a, ha, hs⟩ := h
  refine ⟨f a, hf a ha, ?_⟩
  show (scan (.ofText (s ++ rest)) >>= fun r => pure (f r.1, r.2)) = _
  rw [hs]
  rfl

theorem takes_peek {next : Option Char → Scan β} (h : Takes (next (s ++ rest).head?) s rest Q) :
    Takes (peek >>= next) s rest Q := h

/-- The character that is looked at is the first one. -/
theorem takes_peek_at {next : Option Char → Scan β} {c : Char} {cs : List Char} (hs : s = c :: cs)
    (h : Takes (next (some c)) s rest Q) : Takes (peek >>= next) s rest Q := by
  subst hs
  exact h

theorem takes_here {next : Cursor → Scan β} (h : Takes (next (.ofText (s ++ rest))) s rest Q) :
    Takes (here >>= next) s rest Q := h

theorem takes_satisfy {c : Char} (h : p c = true) : Takes (satisfy p) [c] rest (· = c) := by
  refine ⟨c, rfl, ?_⟩
  show (if p c then Except.ok (c, (Cursor.ofText ([c] ++ rest)).advance [c].length) else _) = _
  rw [if_pos h, advance_ofText]

theorem takes_char (c : Char) : Takes (char c) [c] rest (· = c) := takes_satisfy (decide_eq_true rfl)

theorem takes_literal (s : List Char) : Takes (literal s) s rest (fun _ => True) := by
  refine ⟨(), trivial, ?_⟩
  unfold literal
  rw [rest_ofText, if_pos (List.isPrefixOf_iff_prefix.mpr (List.prefix_append s rest)), advance_ofText]

theorem takeWhile_append (hs : ∀ c ∈ s, p c = true) (hrest : Stops p rest) :
    (s ++ rest).takeWhile p = s := by
  rw [List.takeWhile_append_of_pos hs]
  cases rest with
  | nil => simp
  | cons c rest => simp [hrest c rfl]

theorem takes_takeWhile (hs : ∀ c ∈ s, p c = true) (hrest : Stops p rest) :
    Takes (takeWhile p) s rest (· = s) := by
  refine ⟨s, rfl, ?_⟩
  show Except.ok ((s ++ rest).takeWhile p,
    (Cursor.ofText (s ++ rest)).advance ((s ++ rest).takeWhile p).length) = _
  rw [takeWhile_append hs hrest, advance_ofText]

theorem takes_takeWhile1 (hne : s ≠ []) (hs : ∀ c ∈ s, p c = true) (hrest : Stops p rest) :
    Takes (takeWhile1 p) s rest (· = s) := by
  obtain ⟨a, rfl, h⟩ := takes_takeWhile hs hrest
  refine ⟨a, rfl, ?_⟩
  unfold takeWhile1
  rw [if_neg, h]
  show ¬ ((a ++ rest).takeWhile p).isEmpty = true
  rw [takeWhile_append hs hrest]
  simpa using hne

theorem takes_takeExactly {n : Nat} (hn : s.length = n) (hs : ∀ c ∈ s, p c = true) :
    Takes (takeExactly n p) s rest (· = s) := by
  have htake : ((s ++ rest).take n).takeWhile p = s := by
    rw [List.take_left' hn]
    have hwhole : (s ++ []).takeWhile p = s := takeWhile_append hs (by simp [Stops])
    rwa [List.append_nil] at hwhole
  refine ⟨s, rfl, ?_⟩
  unfold takeExactly takeUpTo
  show (if (((s ++ rest).take n).takeWhile p).length = n then
    Except.ok (((s ++ rest).take n).takeWhile p,
      (Cursor.ofText (s ++ rest)).advance (((s ++ rest).take n).takeWhile p).length) else _) = _
  rw [htake, if_pos hn, advance_ofText]

theorem takes_atEnd : Takes atEnd [] [] (fun _ => True) := ⟨(), trivial, rfl⟩

theorem Takes.orElse (h : Takes scan s rest R) (second : Scan α) :
    Takes (orElse scan second) s rest R := by
  obtain ⟨a, ha, hs⟩ := h
  refine ⟨a, ha, ?_⟩
  unfold Scan.orElse
  rw [hs]

theorem Declines.orElse {second : Scan α} (h : Declines scan (s ++ rest))
    (hsecond : Takes second s rest R) : Takes (Scan.orElse scan second) s rest R := by
  obtain ⟨f, hf, hfinal⟩ := h
  obtain ⟨a, ha, hs⟩ := hsecond
  refine ⟨a, ha, ?_⟩
  unfold Scan.orElse
  rw [hf]
  dsimp only
  rw [hfinal, hs]
  rfl

theorem Takes.optional (h : Takes scan s rest R) :
    Takes (optional scan) s rest (fun found => ∃ a, found = some a ∧ R a) :=
  (h.map some fun a ha => ⟨a, rfl, ha⟩).orElse _

theorem Declines.map (h : Declines scan s) (f : α → β) : Declines (f <$> scan) s := by
  obtain ⟨e, he, hfinal⟩ := h
  refine ⟨e, ?_, hfinal⟩
  show (scan (.ofText s) >>= fun r => pure (f r.1, r.2)) = _
  rw [he]
  rfl

theorem Declines.optional (h : Declines scan rest) : Takes (optional scan) [] rest (· = none) :=
  (h.map some).orElse (takes_pure rfl)

theorem Takes.mapFailure (h : Takes scan s rest R) (change : Failure → Failure) :
    Takes (mapFailure change scan) s rest R := by
  obtain ⟨a, ha, hs⟩ := h
  refine ⟨a, ha, ?_⟩
  unfold Scan.mapFailure
  rw [hs]

theorem Takes.check {accept : α → Except (Option Cause) β} (h : Takes scan s rest R)
    (haccept : ∀ a, R a → ∃ b, accept a = .ok b ∧ Q b) : Takes (check accept scan) s rest Q := by
  obtain ⟨a, ha, hs⟩ := h
  obtain ⟨b, hb, hQ⟩ := haccept a ha
  refine ⟨b, hQ, ?_⟩
  unfold Scan.check
  rw [hs]
  dsimp only
  rw [hb]

theorem Takes.require {accept : α → Except (Option Cause) β} (h : Takes scan s rest R)
    (haccept : ∀ a, R a → ∃ b, accept a = .ok b ∧ Q b) : Takes (require accept scan) s rest Q := by
  obtain ⟨a, ha, hs⟩ := h
  obtain ⟨b, hb, hQ⟩ := haccept a ha
  refine ⟨b, hQ, ?_⟩
  unfold Scan.require
  rw [hs]
  dsimp only
  rw [hb]

theorem Takes.spanned (h : Takes scan s rest R) : Takes (spanned scan) s rest (fun r => R r.1) := by
  obtain ⟨a, ha, hs⟩ := h
  refine ⟨(a, ⟨(Cursor.ofText (s ++ rest)).left, (Cursor.ofText rest).left⟩), ha, ?_⟩
  show (scan (.ofText (s ++ rest)) >>= fun r =>
    pure ((r.1, (⟨(Cursor.ofText (s ++ rest)).left, r.2.left⟩ : Span)), r.2)) = _
  rw [hs]
  rfl

theorem declines_fail (cause : Option Cause) : Declines (fail (α := α) cause) s := ⟨_, rfl, rfl⟩

theorem declines_satisfy (h : Stops p s) : Declines (satisfy p) s := by
  cases s with
  | nil => exact ⟨_, rfl, rfl⟩
  | cons c s =>
    refine ⟨{ left := (Cursor.ofText (c :: s)).left }, ?_, rfl⟩
    show (if p c then _ else Except.error _) = _
    rw [if_neg (by simp [h c rfl])]

theorem declines_literal {l : List Char} (h : ¬ l <+: s) : Declines (literal l) s := by
  refine ⟨{ left := (Cursor.ofText s).left }, ?_, rfl⟩
  unfold literal
  rw [rest_ofText, if_neg fun hp => h (List.isPrefixOf_iff_prefix.mp hp)]

theorem declines_takeWhile1 (h : Stops p s) : Declines (takeWhile1 p) s := by
  refine ⟨{ left := (Cursor.ofText s).left }, ?_, rfl⟩
  unfold takeWhile1
  rw [if_pos]
  have hnone := takeWhile_append (s := []) (List.forall_mem_nil _) h
  rw [List.nil_append] at hnone
  show (s.takeWhile p).isEmpty = true
  rw [hnone]
  rfl

/-- There are fewer characters of the class than are wanted. -/
theorem declines_takeExactly {n : Nat} (hn : s.length < n) (hs : ∀ c ∈ s, p c = true)
    (hrest : Stops p rest) : Declines (takeExactly n p) (s ++ rest) := by
  have htake : ((s ++ rest).take n).takeWhile p = s := by
    rw [List.take_append, List.take_of_length_le (Nat.le_of_lt hn)]
    refine takeWhile_append hs fun c hc => hrest c ?_
    rwa [List.head?_take, if_neg (by omega)] at hc
  refine ⟨{ left := (Cursor.ofText (s ++ rest)).left }, ?_, rfl⟩
  unfold takeExactly
  rw [rest_ofText, htake, if_neg (Nat.ne_of_lt hn)]

theorem Declines.bind (h : Declines scan s) (next : α → Scan β) : Declines (scan >>= next) s := by
  obtain ⟨f, hf, hfinal⟩ := h
  refine ⟨f, ?_, hfinal⟩
  show (scan (.ofText s) >>= fun r => next r.1 r.2) = _
  rw [hf]
  rfl

theorem Takes.declines (h : Takes scan s rest R) (hnext : ∀ a, R a → Declines (next a) rest) :
    Declines (scan >>= next) (s ++ rest) := by
  obtain ⟨a, ha, hs⟩ := h
  obtain ⟨f, hf, hfinal⟩ := hnext a ha
  refine ⟨f, ?_, hfinal⟩
  show (scan (.ofText (s ++ rest)) >>= fun r => next r.1 r.2) = _
  rw [hs]
  exact hf

theorem declines_peek {next : Option Char → Scan β} (h : Declines (next s.head?) s) :
    Declines (peek >>= next) s := h

theorem Declines.or {second : Scan α} (h : Declines scan s) (hsecond : Declines second s) :
    Declines (Scan.orElse scan second) s := by
  obtain ⟨f, hf, hfinal⟩ := h
  obtain ⟨f', hf', hfinal'⟩ := hsecond
  refine ⟨f', ?_, hfinal'⟩
  unfold Scan.orElse
  rw [hf]
  dsimp only
  rw [hfinal, hf']
  rfl

theorem Declines.labelled (h : Declines scan s) (part : Part) : Declines (labelled part scan) s := by
  obtain ⟨f, hf, hfinal⟩ := h
  refine ⟨{ f with part := f.part.or (some part) }, ?_, hfinal⟩
  unfold Scan.labelled Scan.mapFailure
  rw [hf]

theorem Declines.check (h : Declines scan s) (accept : α → Except (Option Cause) β) :
    Declines (check accept scan) s := by
  obtain ⟨f, hf, hfinal⟩ := h
  refine ⟨f, ?_, hfinal⟩
  unfold Scan.check
  rw [hf]

/-- A value that is not accepted is declined, and one that is may be followed by nothing. -/
theorem Takes.declines_check {γ : Type} {accept : α → Except (Option Cause) β} {next : β → Scan γ}
    (h : Takes scan s rest R) (hnext : ∀ b, Declines (next b) rest) :
    Declines (Scan.check accept scan >>= next) (s ++ rest) := by
  obtain ⟨a, _, hs⟩ := h
  cases ha : accept a with
  | error cause =>
    refine Declines.bind ⟨{ left := (Cursor.ofText (s ++ rest)).left, cause }, ?_, rfl⟩ _
    unfold Scan.check
    rw [hs]
    dsimp only
    rw [ha]
  | ok b =>
    refine Takes.declines (R := fun _ => True) ⟨b, trivial, ?_⟩ fun b _ => hnext b
    unfold Scan.check
    rw [hs]
    dsimp only
    rw [ha]

theorem Declines.require (h : Declines scan s) (accept : α → Except (Option Cause) β) :
    Declines (require accept scan) s := by
  obtain ⟨f, hf, hfinal⟩ := h
  refine ⟨f, ?_, hfinal⟩
  unfold Scan.require
  rw [hf]

end Rules

section Repetition

variable {σ : Type} {step : σ → Scan σ} {st : σ} {s s' rest : List Char} {R Q : σ → Prop}

theorem takes_iterate_stop (h : Declines (step st) rest) (hst : Q st) :
    Takes (iterate step st) [] rest Q := by
  obtain ⟨found, rfl, hs⟩ := h.optional
  refine ⟨st, hst, ?_⟩
  unfold iterate loop
  rw [hs]

/-- A round that takes something is followed by the others. -/
theorem takes_iterate_round (hround : Takes (step st) s (s' ++ rest) R) (hne : s ≠ [])
    (hothers : ∀ st', R st' → Takes (iterate step st') s' rest Q) :
    Takes (iterate step st) (s ++ s') rest Q := by
  obtain ⟨found, ⟨st', rfl, hR⟩, hs⟩ := hround.optional
  obtain ⟨st'', hQ, hs'⟩ := hothers st' hR
  refine ⟨st'', hQ, ?_⟩
  have hless : (Cursor.ofText (s' ++ rest)).left < (Cursor.ofText (s ++ (s' ++ rest))).left := by
    have hpos := List.length_pos_iff.mpr hne
    have hlength : (s ++ (s' ++ rest)).length = s.length + (s' ++ rest).length :=
      List.length_append
    show (s' ++ rest).length < (s ++ (s' ++ rest)).length
    omega
  rw [List.append_assoc]
  unfold iterate loop
  rw [hs]
  dsimp only
  rw [if_pos hless]
  exact hs'

end Repetition

end DevServer.Toml.Scan
