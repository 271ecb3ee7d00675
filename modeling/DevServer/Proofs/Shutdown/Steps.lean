import DevServer.Shutdown
import Mathlib.Data.List.Count

/-!
# What a command makes of a signal

Every command comes to one of the outcomes of `StepSpec`. What a receiver gets depends on how many
signals it has not got, and on whether anyone can still send one; it says nothing of the numbers of
the signals, of which a state keeps more than anyone can see.
-/
namespace DevServer.Shutdown

set_option autoImplicit false

/-- How many signals a receiver that is held has not got. -/
def unseen? (s : Shutdown) (r : Nat) : Option Nat := (s.position? r).map fun n => s.sent - n

/-- The handle with which a command is done. -/
def Command.handle? : Command → Option Nat
  | .clone i => some i
  | .dropHandle i => some i
  | .subscribe i => some i
  | .trigger i => some i
  | .count i => some i
  | .receive _ => none
  | .drop _ => none

/-- The receiver with which a command is done. -/
def Command.receiver? : Command → Option Nat
  | .receive r => some r
  | .drop r => some r
  | _ => none

/-- What a receiver gets that has not got so many signals, and how many it has not got then. -/
inductive Answer (isOpen : Prop) : Nat → Reply → Nat → Prop
  | empty : isOpen → Answer isOpen 0 .empty 0
  | closed : ¬ isOpen → Answer isOpen 0 .closed 0
  | signal : Answer isOpen 1 .signal 0
  | lagged (u : Nat) : Answer isOpen (u + 2) (.lagged (u + 1)) 1

/-- Everything that a command can come to. -/
inductive StepSpec (s : Shutdown) : Command → Reply × Shutdown → Prop
  | clone {i : Nat} : s.isHeld i = true →
    StepSpec s (.clone i) (.handle s.handles.length, s.addHandle)
  | dropHandle {i : Nat} : s.isHeld i = true →
    StepSpec s (.dropHandle i) (.dropped, s.dropHandle i)
  | subscribe {i : Nat} : s.isHeld i = true →
    StepSpec s (.subscribe i) (.receiver s.receivers.length, s.addReceiver)
  | trigger {i : Nat} : s.isHeld i = true → StepSpec s (.trigger i) (.triggered, s.send)
  | count {i : Nat} : s.isHeld i = true → StepSpec s (.count i) (.count s.receiverCount, s)
  | receive {r n : Nat} (hat : ∀ m, some (s.read n).2 = some m → m ≤ s.sent) :
    s.position? r = some n →
    StepSpec s (.receive r) ((s.read n).1, s.place r (some (s.read n).2) hat)
  | drop {r n : Nat} : s.position? r = some n →
    StepSpec s (.drop r) (.dropped, s.place r none nofun)
  | noHandle {c : Command} {i : Nat} : c.handle? = some i → s.isHeld i = false →
    StepSpec s c (.gone, s)
  | noReceiver {c : Command} {r : Nat} : c.receiver? = some r → s.position? r = none →
    StepSpec s c (.gone, s)

variable {s : Shutdown}

theorem withHandle_spec {c : Command} {i : Nat} {done : Reply × Shutdown}
    (hc : c.handle? = some i) (hdone : s.isHeld i = true → StepSpec s c done) :
    StepSpec s c (s.withHandle i done) := by
  unfold withHandle
  cases hi : s.isHeld i with
  | true => exact hdone hi
  | false => exact .noHandle hc hi

theorem step_spec (s : Shutdown) (c : Command) : StepSpec s c (s.step c) := by
  cases c with
  | clone i => exact withHandle_spec rfl .clone
  | dropHandle i => exact withHandle_spec rfl .dropHandle
  | subscribe i => exact withHandle_spec rfl .subscribe
  | trigger i => exact withHandle_spec rfl .trigger
  | count i => exact withHandle_spec rfl .count
  | receive r =>
    show StepSpec s _ (s.receive r)
    unfold receive
    split
    · next hn => exact .noReceiver rfl hn
    · next n hn => exact .receive _ hn
  | drop r =>
    show StepSpec s _ (s.dropReceiver r)
    unfold dropReceiver
    split
    · next hn => exact .noReceiver rfl hn
    · next n hn => exact .drop hn

theorem step_of_isHeld {c : Command} {i : Nat} {done : Reply × Shutdown}
    (hc : s.step c = s.withHandle i done) (hi : s.isHeld i = true) : s.step c = done := by
  rw [hc, withHandle, if_pos hi]

theorem step_of_not_isHeld {c : Command} {i : Nat} (hc : c.handle? = some i)
    (hi : ¬ s.isHeld i = true) : s.step c = (.gone, s) := by
  have hgone : ∀ done, s.withHandle i done = (.gone, s) := fun done => if_neg hi
  cases c with
  | clone j => exact Option.some.inj hc ▸ hgone _
  | dropHandle j => exact Option.some.inj hc ▸ hgone _
  | subscribe j => exact Option.some.inj hc ▸ hgone _
  | trigger j => exact Option.some.inj hc ▸ hgone _
  | count j => exact Option.some.inj hc ▸ hgone _
  | receive r => cases hc
  | drop r => cases hc

theorem step_of_no_position {c : Command} {r : Nat} (hc : c.receiver? = some r)
    (hn : s.position? r = none) : s.step c = (.gone, s) := by
  cases c with
  | receive q =>
    obtain rfl := Option.some.inj hc
    show s.receive q = _
    unfold receive
    split
    · rfl
    · next n hq =>
      rw [hn] at hq
      cases hq
  | drop q =>
    obtain rfl := Option.some.inj hc
    show s.dropReceiver q = _
    unfold dropReceiver
    rw [hn]
  | clone i => cases hc
  | dropHandle i => cases hc
  | subscribe i => cases hc
  | trigger i => cases hc
  | count i => cases hc

theorem read_spec {n : Nat} (h : n ≤ s.sent) :
    Answer (s.isOpen = true) (s.sent - n) (s.read n).1 (s.sent - (s.read n).2) := by
  unfold read
  by_cases hn : n = s.sent
  · rw [if_pos hn, hn, Nat.sub_self]
    cases ho : s.isOpen with
    | true => exact .empty rfl
    | false => exact .closed (by decide)
  · rw [if_neg hn]
    by_cases hl : n < s.sent - capacity
    · -- Two signals or more: all but the last are gone.
      obtain ⟨u, hu⟩ : ∃ u, s.sent = n + (u + 2) := ⟨s.sent - n - 2, by unfold capacity at hl; omega⟩
      have hmissed : s.sent - capacity - n = u + 1 := by unfold capacity; omega
      have hunseen : s.sent - n = u + 2 := by omega
      have hlast : s.sent - (s.sent - capacity) = 1 := by unfold capacity; omega
      rw [if_pos hl]
      show Answer _ (s.sent - n) (.lagged (s.sent - capacity - n)) (s.sent - (s.sent - capacity))
      rw [hmissed, hunseen, hlast]
      exact .lagged u
    · have hone : s.sent - n = 1 := by unfold capacity at hl; omega
      have hnone : s.sent - (n + 1) = 0 := by omega
      rw [if_neg hl]
      show Answer _ (s.sent - n) .signal (s.sent - (n + 1))
      rw [hone, hnone]
      exact .signal

/-! ## What is held after a command -/

theorem isHeld_addHandle (i : Nat) :
    s.addHandle.isHeld i = true ↔ s.isHeld i = true ∨ i = s.handles.length := by
  unfold isHeld addHandle
  simp only [decide_eq_true_eq, List.getElem?_append]
  by_cases hi : i < s.handles.length
  · rw [if_pos hi]
    exact (or_iff_left (Nat.ne_of_lt hi)).symm
  · rw [if_neg hi, List.getElem?_eq_none (Nat.le_of_not_lt hi), List.getElem?_singleton]
    simp only [reduceCtorEq, false_or]
    split <;> simp <;> omega

theorem isHeld_dropHandle (i j : Nat) :
    (s.dropHandle i).isHeld j = true ↔ s.isHeld j = true ∧ j ≠ i := by
  unfold isHeld dropHandle
  simp only [decide_eq_true_eq, List.getElem?_set]
  by_cases hij : i = j
  · subst hij
    simp
  · rw [if_neg hij]
    exact (and_iff_left fun h => hij h.symm).symm

theorem lt_of_isHeld {i : Nat} (h : s.isHeld i = true) : i < s.handles.length := by
  unfold isHeld at h
  exact (List.getElem?_eq_some_iff.mp (of_decide_eq_true h)).1

theorem isOpen_iff : s.isOpen = true ↔ ∃ i, s.isHeld i = true := by
  unfold isOpen isHeld
  rw [List.contains_iff_mem, List.mem_iff_getElem?]
  simp only [decide_eq_true_eq]

theorem lt_of_position? {r n : Nat} (h : s.position? r = some n) : r < s.receivers.length :=
  (List.getElem?_eq_some_iff.mp (Option.join_eq_some_iff.mp h)).1

theorem position?_addReceiver (r : Nat) :
    s.addReceiver.position? r =
      if r = s.receivers.length then some s.sent else s.position? r := by
  unfold position? addReceiver
  simp only [List.getElem?_append]
  by_cases hr : r < s.receivers.length
  · rw [if_pos hr, if_neg (Nat.ne_of_lt hr)]
  · rw [if_neg hr, List.getElem?_singleton]
    by_cases hl : r = s.receivers.length
    · simp [hl]
    · have hpos : r - s.receivers.length ≠ 0 := by omega
      rw [if_neg hl, if_neg hpos, List.getElem?_eq_none (Nat.le_of_not_lt hr)]

theorem position?_place {r n : Nat} {at? : Option Nat} {hat : ∀ m, at? = some m → m ≤ s.sent}
    (hn : s.position? r = some n) (q : Nat) :
    (s.place r at? hat).position? q = if r = q then at? else s.position? q := by
  unfold position? place
  simp only [List.getElem?_set]
  by_cases hq : r = q
  · rw [if_pos hq, if_pos hq, if_pos (lt_of_position? hn)]
    rfl
  · rw [if_neg hq, if_neg hq]

theorem handles_send : s.send.handles = s.handles := by
  unfold send
  split <;> rfl

theorem receivers_send : s.send.receivers = s.receivers := by
  unfold send
  split <;> rfl

theorem position?_send (r : Nat) : s.send.position? r = s.position? r := by
  unfold position?
  rw [receivers_send]

theorem receiverCount_eq_zero_iff : s.receiverCount = 0 ↔ ∀ r, s.position? r = none := by
  unfold receiverCount position?
  rw [List.countP_eq_zero]
  constructor
  · intro h r
    cases hr : s.receivers[r]? with
    | none => rfl
    | some at? => simpa using h at? (List.mem_of_getElem? hr)
  · intro h at? hm
    obtain ⟨r, hr⟩ := List.mem_iff_getElem?.mp hm
    have hnone := h r
    rw [hr] at hnone
    simpa using hnone

/-- A signal is one more that each receiver has not got. -/
theorem unseen?_send (r : Nat) : s.send.unseen? r = (s.unseen? r).map (· + 1) := by
  unfold unseen?
  rw [position?_send]
  cases hn : s.position? r with
  | none => rfl
  | some n =>
    have hsome : s.receiverCount ≠ 0 := by
      intro hzero
      have hnone := receiverCount_eq_zero_iff.mp hzero r
      rw [hn] at hnone
      cases hnone
    have hle := s.position?_le hn
    have hsent : s.send.sent = s.sent + 1 := by
      unfold send
      rw [if_neg hsome]
    show some (s.send.sent - n) = some (s.sent - n + 1)
    rw [hsent, Nat.sub_add_comm hle]

theorem unseen?_addReceiver (r : Nat) :
    s.addReceiver.unseen? r = if r = s.receivers.length then some 0 else s.unseen? r := by
  unfold unseen?
  rw [position?_addReceiver]
  split
  · show some (s.sent - s.sent) = some 0
    rw [Nat.sub_self]
  · rfl

theorem unseen?_place {r n : Nat} {at? : Option Nat} {hat : ∀ m, at? = some m → m ≤ s.sent}
    (hn : s.position? r = some n) (q : Nat) :
    (s.place r at? hat).unseen? q =
      if r = q then at?.map (s.sent - ·) else s.unseen? q := by
  unfold unseen?
  rw [position?_place hn]
  split <;> rfl

/-- What a receiver gets, by what it has not got. -/
theorem answer_of_unseen? {r u : Nat} (hu : s.unseen? r = some u) :
    ∃ v, Answer (s.isOpen = true) u (s.step (.receive r)).1 v ∧
      (s.step (.receive r)).2.unseen? r = some v := by
  have hs := step_spec s (.receive r)
  generalize s.step (.receive r) = out at hs
  cases hs with
  | receive hat hn =>
    have ha := read_spec (s.position?_le hn)
    have hmissing : s.unseen? r = _ := congrArg (Option.map _) hn
    rw [hmissing] at hu
    obtain rfl := Option.some.inj hu
    refine ⟨_, ha, ?_⟩
    rw [unseen?_place hn, if_pos rfl]
    rfl
  | noHandle hc hi => cases hc
  | noReceiver hc hn =>
    obtain rfl := Option.some.inj hc
    unfold unseen? at hu
    rw [hn] at hu
    cases hu

theorem unseen?_drop (r : Nat) : (s.step (.drop r)).2.unseen? r = none := by
  have hs := step_spec s (.drop r)
  generalize s.step (.drop r) = out at hs
  cases hs with
  | drop hn =>
    rw [unseen?_place hn, if_pos rfl]
    rfl
  | noHandle hc hi => cases hc
  | noReceiver hc hn =>
    obtain rfl := Option.some.inj hc
    unfold unseen?
    rw [hn]
    rfl

/-- What is done with a receiver changes nothing else. -/
theorem frame_receiver {c : Command} {r : Nat} (hc : c.receiver? = some r) :
    (s.step c).2.handles = s.handles ∧
      (s.step c).2.receivers.length = s.receivers.length ∧
      ∀ q, q ≠ r → (s.step c).2.unseen? q = s.unseen? q := by
  have hs := step_spec s c
  generalize s.step c = out at hs
  cases hs with
  | receive hat hn =>
    obtain rfl := Option.some.inj hc
    refine ⟨rfl, List.length_set, fun q hq => ?_⟩
    rw [unseen?_place hn, if_neg (Ne.symm hq)]
  | drop hn =>
    obtain rfl := Option.some.inj hc
    refine ⟨rfl, List.length_set, fun q hq => ?_⟩
    rw [unseen?_place hn, if_neg (Ne.symm hq)]
  | noReceiver _ hn => exact ⟨rfl, rfl, fun q _ => rfl⟩
  | noHandle _ _ => exact ⟨rfl, rfl, fun q _ => rfl⟩
  | clone _ => cases hc
  | dropHandle _ => cases hc
  | subscribe _ => cases hc
  | trigger _ => cases hc
  | count _ => cases hc

end DevServer.Shutdown
