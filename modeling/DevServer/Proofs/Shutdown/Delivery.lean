import DevServer.Proofs.Shutdown.History

/-!
# Every signal reaches every receiver

After any commands at all, what a receiver gets next is given by the number of signals that it has
still to get and, only where there are none, by whether a handle is held. What others do with their
receivers makes no difference to it.
-/
namespace DevServer.Shutdown

set_option autoImplicit false

/-- What a history says of what comes next. -/
structure Delivers (h : History) (s : Shutdown) : Prop where
  /-- Whoever holds a handle is told how many receivers are held. -/
  counted : ∀ i, h.Held i → s.step (.count i) = (.count h.live.length, s)
  /-- That number is not a matter of handles and signals. -/
  count_kept : ∀ i c, c = .clone i ∨ c = .trigger i → (s.step c).2.receiverCount = s.receiverCount
  /-- Nobody gets a signal that has not been sent. -/
  covered : ∀ r ∈ h.live, h.consumed r ≤ h.issued r
  answered : ∀ r ∈ h.live, Answer (∃ i, h.Held i) (h.pending r) (s.step (.receive r)).1
    (History.pending r ((.receive r, (s.step (.receive r)).1) :: h))
  /-- Without receivers nothing is left of a signal. -/
  traceless : h.live = [] → ∀ i, h.Held i → s.step (.trigger i) = (.triggered, s)
  /-- What is no longer held does nothing. -/
  gone : ∀ c, (∃ i, c.handle? = some i ∧ ¬ h.Held i) ∨ (∃ r, c.receiver? = some r ∧ r ∉ h.live) →
    s.step c = (.gone, s)

variable {h : History} {s t : Shutdown}

theorem reaches_run {h : History} {s : Shutdown} (hr : Reaches h s) (cs : List Command) :
    Reaches ((cs.zip (s.run cs).1).reverse ++ h) (s.run cs).2 := by
  induction cs generalizing h s with
  | nil => exact hr
  | cons c cs ih =>
    have hrest := ih (hr.step c)
    have hzip : (((c :: cs).zip (s.run (c :: cs)).1).reverse ++ h) =
        (cs.zip ((s.step c).2.run cs).1).reverse ++ ((c, (s.step c).1) :: h) := by
      show ((c, (s.step c).1) :: cs.zip ((s.step c).2.run cs).1).reverse ++ h = _
      rw [List.reverse_cons, List.append_assoc]
      rfl
    rw [hzip]
    exact hrest

theorem receiverCount_addHandle : s.addHandle.receiverCount = s.receiverCount := rfl

theorem receiverCount_send : s.send.receiverCount = s.receiverCount := by
  unfold receiverCount
  rw [receivers_send]

theorem receiverCount_withHandle {i : Nat} {done : Reply × Shutdown}
    (hd : done.2.receiverCount = s.receiverCount) :
    (s.withHandle i done).2.receiverCount = s.receiverCount := by
  unfold withHandle
  split
  · exact hd
  · rfl

theorem Reaches.delivers (hr : Reaches h s) : Delivers h s := by
  have hhandles := hr.tracksHandles
  have hreceivers := hr.tracksReceivers
  have hopen : s.isOpen = true ↔ ∃ i, h.Held i := by
    rw [isOpen_iff]
    exact exists_congr hhandles.held_iff
  refine ⟨fun i hi => ?_, fun i c hc => ?_, fun r hlive => ?_, fun r hlive => ?_,
    fun hnone i hi => ?_, fun c hgone => ?_⟩
  · rw [← hreceivers.receiverCount_eq]
    exact step_of_isHeld rfl ((hhandles.held_iff i).mpr hi)
  · rcases hc with rfl | rfl
    · exact receiverCount_withHandle receiverCount_addHandle
    · exact receiverCount_withHandle receiverCount_send
  · obtain ⟨u, hu⟩ := (hreceivers.mem_live_iff r).mp hlive
    rw [hreceivers.unseen r u hu]
    exact Nat.le_add_right _ _
  · -- The next history says again what is missing, and that is what the answer leaves.
    obtain ⟨u, hu⟩ := (hreceivers.mem_live_iff r).mp hlive
    obtain ⟨v, ha, hv⟩ := answer_of_unseen? hu
    have hnext := (hr.step (.receive r)).tracksReceivers.unseen r v hv
    have hbefore : h.pending r = u := by
      have hu := hreceivers.unseen r u hu
      unfold History.pending
      omega
    have hafter : History.pending r ((.receive r, (s.step (.receive r)).1) :: h) = v := by
      unfold History.pending
      omega
    rw [hbefore, hafter, ← hopen]
    exact ha
  · have hzero : s.receiverCount = 0 := by
      rw [hreceivers.receiverCount_eq, hnone]
      rfl
    have hkept : s.send = s := if_pos hzero
    rw [step_of_isHeld rfl ((hhandles.held_iff i).mpr hi), hkept]
  · rcases hgone with ⟨i, hc, hi⟩ | ⟨r, hc, hdead⟩
    · exact step_of_not_isHeld hc fun hheld => hi ((hhandles.held_iff i).mp hheld)
    · refine step_of_no_position hc (Option.eq_none_iff_forall_ne_some.mpr fun n hn => hdead ?_)
      exact (hreceivers.mem_live_iff r).mpr ⟨s.sent - n, by rw [unseen?, hn]; rfl⟩

/-! ## What others do with their receivers -/

/-- Whether a command is done with a handle or with this receiver. -/
def Command.concerns (r : Nat) (c : Command) : Bool := c.receiver?.all (· = r)

/-- What a receiver gets in the course of some commands. -/
def answers (r : Nat) (s : Shutdown) (cs : List Command) : List Reply :=
  (cs.zip (s.run cs).1).filterMap fun e => if e.1 = .receive r then some e.2 else none

theorem answers_cons (r : Nat) (s : Shutdown) (c : Command) (cs : List Command) :
    answers r s (c :: cs) =
      (if c = .receive r then [(s.step c).1] else []) ++ answers r (s.step c).2 cs := by
  show List.filterMap _ ((c, (s.step c).1) :: cs.zip ((s.step c).2.run cs).1) = _
  rw [List.filterMap_cons]
  by_cases hc : c = .receive r
  · simp only [if_pos hc]
    rfl
  · simp only [if_neg hc]
    rfl

/-- Two states that differ at most in what other receivers have got. -/
structure Alike (r : Nat) (s t : Shutdown) : Prop where
  handles : s.handles = t.handles
  made : s.receivers.length = t.receivers.length
  unseen : s.unseen? r = t.unseen? r

theorem Answer.unique {isOpen : Prop} {u v w : Nat} {a b : Reply} (ha : Answer isOpen u a v)
    (hb : Answer isOpen u b w) : a = b ∧ v = w := by
  cases ha with
  | empty ho =>
    cases hb with
    | empty _ => exact ⟨rfl, rfl⟩
    | closed hc => exact absurd ho hc
  | closed hc =>
    cases hb with
    | empty ho => exact absurd ho hc
    | closed _ => exact ⟨rfl, rfl⟩
  | signal =>
    cases hb with
    | signal => exact ⟨rfl, rfl⟩
  | lagged u =>
    cases hb with
    | lagged _ => exact ⟨rfl, rfl⟩

namespace Alike

variable {r : Nat}

theorem refl (r : Nat) (s : Shutdown) : Alike r s s := ⟨rfl, rfl, rfl⟩

theorem isHeld_eq (ha : Alike r s t) (i : Nat) : s.isHeld i = t.isHeld i := by
  unfold isHeld
  rw [ha.handles]

theorem isOpen_eq (ha : Alike r s t) : s.isOpen = t.isOpen := by
  unfold isOpen
  rw [ha.handles]

theorem withHandle (ha : Alike r s t) {i : Nat} {a b : Reply × Shutdown}
    (hd : Alike r a.2 b.2) : Alike r (s.withHandle i a).2 (t.withHandle i b).2 := by
  unfold Shutdown.withHandle
  rw [ha.isHeld_eq]
  split
  · exact hd
  · exact ha

theorem send (ha : Alike r s t) : Alike r s.send t.send where
  handles := by rw [handles_send, handles_send, ha.handles]
  made := by rw [receivers_send, receivers_send, ha.made]
  unseen := by rw [unseen?_send, unseen?_send, ha.unseen]

theorem addReceiver (ha : Alike r s t) : Alike r s.addReceiver t.addReceiver where
  handles := ha.handles
  made := by simp [Shutdown.addReceiver, ha.made]
  unseen := by rw [unseen?_addReceiver, unseen?_addReceiver, ha.made, ha.unseen]

theorem addHandle (ha : Alike r s t) : Alike r s.addHandle t.addHandle where
  handles := by simp [Shutdown.addHandle, ha.handles]
  made := ha.made
  unseen := ha.unseen

theorem dropHandle (ha : Alike r s t) (i : Nat) : Alike r (s.dropHandle i) (t.dropHandle i) where
  handles := by simp [Shutdown.dropHandle, ha.handles]
  made := ha.made
  unseen := ha.unseen

/-- The receiver gets the same in both. -/
theorem receive (ha : Alike r s t) :
    (s.step (.receive r)).1 = (t.step (.receive r)).1 ∧
      (s.step (.receive r)).2.unseen? r = (t.step (.receive r)).2.unseen? r := by
  cases hu : s.unseen? r with
  | none =>
    have hnone : ∀ s : Shutdown, s.unseen? r = none → s.step (.receive r) = (.gone, s) :=
      fun s hu => step_of_no_position rfl (Option.map_eq_none_iff.mp hu)
    have ht : t.unseen? r = none := ha.unseen ▸ hu
    rw [hnone s hu, hnone t ht]
    exact ⟨rfl, hu.trans ht.symm⟩
  | some u =>
    obtain ⟨v, hs, hv⟩ := answer_of_unseen? hu
    obtain ⟨w, ht, hw⟩ := answer_of_unseen? (ha.unseen ▸ hu)
    rw [ha.isOpen_eq] at hs
    obtain ⟨hreply, rfl⟩ := hs.unique ht
    exact ⟨hreply, hv.trans hw.symm⟩

theorem step (ha : Alike r s t) {c : Command} (hc : c.concerns r = true) :
    Alike r (s.step c).2 (t.step c).2 := by
  cases c with
  | clone i => exact ha.withHandle ha.addHandle
  | dropHandle i => exact ha.withHandle (ha.dropHandle i)
  | subscribe i => exact ha.withHandle ha.addReceiver
  | trigger i => exact ha.withHandle ha.send
  | count i => exact ha.withHandle ha
  | receive q =>
    obtain rfl : q = r := by simpa [Command.concerns, Command.receiver?] using hc
    obtain ⟨hhs, hls, _⟩ := frame_receiver (s := s) (c := .receive q) rfl
    obtain ⟨hht, hlt, _⟩ := frame_receiver (s := t) (c := .receive q) rfl
    exact ⟨hhs.trans (ha.handles.trans hht.symm), hls.trans (ha.made.trans hlt.symm), ha.receive.2⟩
  | drop q =>
    obtain rfl : q = r := by simpa [Command.concerns, Command.receiver?] using hc
    obtain ⟨hhs, hls, _⟩ := frame_receiver (s := s) (c := .drop q) rfl
    obtain ⟨hht, hlt, _⟩ := frame_receiver (s := t) (c := .drop q) rfl
    exact ⟨hhs.trans (ha.handles.trans hht.symm), hls.trans (ha.made.trans hlt.symm),
      (unseen?_drop q).trans (unseen?_drop q).symm⟩

/-- What others do with their receivers can be left out. -/
theorem step_left (ha : Alike r s t) {c : Command} (hc : ¬ c.concerns r = true) :
    Alike r (s.step c).2 t := by
  obtain ⟨q, hq, hne⟩ : ∃ q, c.receiver? = some q ∧ q ≠ r := by
    cases hr : c.receiver? with
    | none => simp [Command.concerns, hr] at hc
    | some q => exact ⟨q, rfl, by simpa [Command.concerns, hr] using hc⟩
  obtain ⟨hh, hl, hu⟩ := frame_receiver (s := s) hq
  exact ⟨hh.trans ha.handles, hl.trans ha.made, (hu r (Ne.symm hne)).trans ha.unseen⟩

theorem answers_filter (ha : Alike r s t) (cs : List Command) :
    answers r s cs = answers r t (cs.filter (·.concerns r)) := by
  induction cs generalizing s t with
  | nil => rfl
  | cons c cs ih =>
    rw [answers_cons, List.filter_cons]
    by_cases hc : c.concerns r = true
    · rw [if_pos hc, answers_cons, ih (ha.step hc)]
      by_cases hr : c = .receive r
      · rw [if_pos hr, if_pos hr, hr, ha.receive.1]
      · rw [if_neg hr, if_neg hr]
    · have hr : c ≠ .receive r := by
        rintro rfl
        simp [Command.concerns, Command.receiver?] at hc
      rw [if_neg hc, if_neg hr]
      exact ih (ha.step_left hc)

end Alike

/-- After any commands each receiver gets exactly the signals that were sent since it was made, the
last one at the least and the number of those it missed, also after all handles are gone; the count
of receivers is that of those held; and nothing of that depends on what other receivers get. -/
theorem signals_delivered (cs : List Command) :
    Delivers (cs.zip (new.run cs).1).reverse (new.run cs).2 ∧
      ∀ r cs', cs.filter (·.concerns r) = cs'.filter (·.concerns r) →
        answers r new cs = answers r new cs' := by
  refine ⟨?_, fun r cs' hsame => ?_⟩
  · have hr := reaches_run .new cs
    rw [List.append_nil] at hr
    exact hr.delivers
  · rw [(Alike.refl r new).answers_filter cs, (Alike.refl r new).answers_filter cs', hsame]

/-- Two receivers; the second comes late and is told of a signal that it has missed. Both handles
are dropped before the first has got anything. -/
def overtaken : List Command :=
  [.subscribe 0, .clone 0, .trigger 0, .subscribe 1, .trigger 1, .trigger 0, .receive 1,
    .dropHandle 0, .dropHandle 1]

theorem last_signal_after_all_handles :
    (new.run overtaken).2.isOpen = false ∧
      ((new.run overtaken).2.step (.receive 0)).1 = .lagged 2 ∧
      ((new.run overtaken).2.step (.receive 1)).1 = .signal ∧
      answers 0 new (overtaken ++ [.receive 0, .receive 0, .receive 0]) =
        [.lagged 2, .signal, .closed] ∧
      answers 0 new (overtaken ++ [.receive 1, .receive 0, .drop 1, .receive 0, .receive 0]) =
        [.lagged 2, .signal, .closed] := by
  have hall := (signals_delivered overtaken).1.answered
  have hfirst := hall 0 (by decide)
  have hsecond := hall 1 (by decide)
  have hthree : History.pending 0 (overtaken.zip (new.run overtaken).1).reverse = 3 := by decide
  have hone : History.pending 1 (overtaken.zip (new.run overtaken).1).reverse = 1 := by decide
  have hsame := (signals_delivered (overtaken ++ [.receive 0, .receive 0, .receive 0])).2 0
    (overtaken ++ [.receive 1, .receive 0, .drop 1, .receive 0, .receive 0]) (by decide)
  have halone : answers 0 new (overtaken ++ [.receive 0, .receive 0, .receive 0]) =
      [.lagged 2, .signal, .closed] := by decide
  rw [hthree] at hfirst
  rw [hone] at hsecond
  refine ⟨by decide, ?_, ?_, halone, hsame.symm.trans halone⟩
  · generalize ((new.run overtaken).2.step (.receive 0)).1 = reply at hfirst
    cases hfirst with
    | lagged _ => rfl
  · generalize ((new.run overtaken).2.step (.receive 1)).1 = reply at hsecond
    cases hsecond with
    | signal => rfl

end DevServer.Shutdown
