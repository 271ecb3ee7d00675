import DevServer.Proofs.Shutdown.Steps
import Mathlib.Data.List.Range

/-!
# What receivers get, told from the history

The history of a signal is what has been done and what has come of it. It tells which handles and
receivers are held and, for each receiver, how many signals have been sent since it was made and how
many it has been given or has been told that it missed. What it gets next depends on the difference
alone, so no signal gets lost between the two and none is made up.
-/
namespace DevServer.Shutdown

set_option autoImplicit false

/-- The handle that has been made. -/
def Reply.madeHandle? : Reply → Option Nat
  | .handle i => some i
  | _ => none

/-- The receiver that has been made. -/
def Reply.madeReceiver? : Reply → Option Nat
  | .receiver r => some r
  | _ => none

/-- How many signals a receiver has not got any more after a reply. -/
def Reply.consumes : Reply → Nat
  | .signal => 1
  | .lagged n => n
  | _ => 0

/-- What has been done and what has come of it, the latest first. -/
abbrev History := List (Command × Reply)

namespace History

/-- The handles that have been made, the latest first; one was there from the beginning. -/
def handles (h : History) : List Nat := h.filterMap (fun e => e.2.madeHandle?) ++ [0]

/-- The receivers that have been made, the latest first. -/
def receivers (h : History) : List Nat := h.filterMap fun e => e.2.madeReceiver?

/-- A handle has been made and has not been dropped. -/
def Held (h : History) (i : Nat) : Prop := i ∈ h.handles ∧ (.dropHandle i, .dropped) ∉ h

/-- The receivers that have been made and have not been dropped. -/
def live (h : History) : List Nat := h.receivers.filter fun r => (.drop r, .dropped) ∉ h

/-- How many signals have been sent since a receiver was made, with any handle. -/
def issued (r : Nat) : History → Nat
  | [] => 0
  | e :: earlier =>
    if e.2 = .receiver r then 0 else (if e.2 = .triggered then 1 else 0) + issued r earlier

/-- How many signals a receiver has got or has been told to have missed. -/
def consumed (r : Nat) : History → Nat
  | [] => 0
  | e :: earlier => (if e.1 = .receive r then e.2.consumes else 0) + consumed r earlier

/-- How many signals a receiver has still to get. -/
def pending (r : Nat) (h : History) : Nat := issued r h - consumed r h

end History

/-- The histories that there are, with the state that each leaves. -/
inductive Reaches : History → Shutdown → Prop
  | new : Reaches [] new
  | step {h : History} {s : Shutdown} (c : Command) : Reaches h s →
    Reaches ((c, (s.step c).1) :: h) (s.step c).2

/-- What a history tells of the handles. -/
structure TracksHandles (h : History) (s : Shutdown) : Prop where
  made : ∀ i, i ∈ h.handles ↔ i < s.handles.length
  held : ∀ i, s.isHeld i = true ↔ i < s.handles.length ∧ (.dropHandle i, .dropped) ∉ h
  dropped : ∀ i, (.dropHandle i, .dropped) ∈ h → i < s.handles.length

/-- What a history tells of the receivers. -/
structure TracksReceivers (h : History) (s : Shutdown) : Prop where
  made : h.receivers = (List.range s.receivers.length).reverse
  held : ∀ r, (s.unseen? r).isSome ↔ r < s.receivers.length ∧ (.drop r, .dropped) ∉ h
  dropped : ∀ r, (.drop r, .dropped) ∈ h → r < s.receivers.length
  unmade : ∀ r, s.receivers.length ≤ r → h.consumed r = 0
  unseen : ∀ r u, s.unseen? r = some u → h.issued r = h.consumed r + u

variable {h : History} {s : Shutdown}

theorem TracksHandles.new : TracksHandles [] new where
  made i := by simp [History.handles, Shutdown.new]
  held i := by
    cases i with
    | zero => simp [isHeld, Shutdown.new]
    | succ i => simp [isHeld, Shutdown.new]
  dropped i := nofun

theorem TracksReceivers.new : TracksReceivers [] new where
  made := rfl
  held r := by simp [unseen?, position?, Shutdown.new]
  dropped r := nofun
  unmade r _ := rfl
  unseen r u hu := by simp [unseen?, position?, Shutdown.new] at hu

/-- Of an answer the signals it gives or tells of are those that are missing afterwards. -/
theorem Answer.consumes {isOpen : Prop} {u v : Nat} {reply : Reply} (ha : Answer isOpen u reply v) :
    u = reply.consumes + v := by
  cases ha with
  | empty _ => rfl
  | closed _ => rfl
  | signal => rfl
  | lagged u => rfl

theorem Answer.makes_nothing {isOpen : Prop} {u v : Nat} {reply : Reply}
    (ha : Answer isOpen u reply v) :
    reply.madeHandle? = none ∧ reply.madeReceiver? = none ∧ reply ≠ .triggered ∧
      reply ≠ .dropped := by
  cases ha <;> simp [Reply.madeHandle?, Reply.madeReceiver?]

/-- What is done without a handle being made or dropped. -/
theorem TracksHandles.keep (ht : TracksHandles h s) {t : Shutdown} {c : Command} {reply : Reply}
    (hhandles : t.handles = s.handles) (hmade : reply.madeHandle? = none)
    (hdropped : reply = .dropped → c.handle? = none) : TracksHandles ((c, reply) :: h) t := by
  have hkept : ∀ i, (.dropHandle i, .dropped) ∈ (c, reply) :: h ↔ (.dropHandle i, .dropped) ∈ h := by
    intro i
    rw [List.mem_cons, or_iff_right]
    intro he
    obtain ⟨rfl, rfl⟩ := Prod.mk.inj he
    cases hdropped rfl
  have hhandles' : History.handles ((c, reply) :: h) = h.handles := by
    simp [History.handles, hmade]
  have hisHeld : ∀ i, t.isHeld i = s.isHeld i := fun i => by
    unfold isHeld
    rw [hhandles]
  refine ⟨fun i => ?_, fun i => ?_, fun i => ?_⟩
  · rw [hhandles', hhandles]
    exact ht.made i
  · rw [hisHeld, hkept, hhandles]
    exact ht.held i
  · rw [hkept, hhandles]
    exact ht.dropped i

theorem TracksHandles.clone (ht : TracksHandles h s) (i : Nat) :
    TracksHandles ((.clone i, .handle s.handles.length) :: h) s.addHandle := by
  have hlen : s.addHandle.handles.length = s.handles.length + 1 := by simp [addHandle]
  have hkept : ∀ j, (.dropHandle j, .dropped) ∈ (Command.clone i, Reply.handle s.handles.length) :: h ↔
      (.dropHandle j, .dropped) ∈ h := fun j => by simp
  refine ⟨fun j => ?_, fun j => ?_, fun j hj => ?_⟩
  · have hhandles : History.handles ((.clone i, .handle s.handles.length) :: h) =
        s.handles.length :: h.handles := rfl
    rw [hhandles, List.mem_cons, ht.made, hlen]
    omega
  · rw [isHeld_addHandle, hkept, hlen, ht.held]
    -- The handle is new, so it has not been dropped.
    have hfresh := ht.dropped j
    constructor
    · rintro (⟨hj, hn⟩ | rfl)
      · exact ⟨by omega, hn⟩
      · exact ⟨by omega, fun hd => Nat.lt_irrefl _ (hfresh hd)⟩
    · rintro ⟨hj, hn⟩
      by_cases hl : j = s.handles.length
      · exact .inr hl
      · exact .inl ⟨by omega, hn⟩
  · rw [hlen]
    exact Nat.lt_succ_of_lt (ht.dropped j ((hkept j).mp hj))

theorem TracksHandles.dropHandle (ht : TracksHandles h s) {i : Nat} (hi : s.isHeld i = true) :
    TracksHandles ((.dropHandle i, .dropped) :: h) (s.dropHandle i) := by
  have hlen : (s.dropHandle i).handles.length = s.handles.length := by simp [Shutdown.dropHandle]
  have hmem : ∀ j, (.dropHandle j, .dropped) ∈ (Command.dropHandle i, Reply.dropped) :: h ↔
      j = i ∨ (.dropHandle j, .dropped) ∈ h := fun j => by simp
  refine ⟨fun j => ?_, fun j => ?_, fun j hj => ?_⟩
  · have hhandles : History.handles ((.dropHandle i, .dropped) :: h) = h.handles := rfl
    rw [hhandles, hlen]
    exact ht.made j
  · rw [isHeld_dropHandle, hmem, hlen, ht.held]
    simp only [not_or]
    constructor
    · rintro ⟨⟨hj, hn⟩, hne⟩
      exact ⟨hj, hne, hn⟩
    · rintro ⟨hj, hne, hn⟩
      exact ⟨⟨hj, hn⟩, hne⟩
  · rw [hlen]
    rcases (hmem j).mp hj with rfl | hj
    · exact lt_of_isHeld hi
    · exact ht.dropped j hj

theorem TracksHandles.step (ht : TracksHandles h s) (c : Command) :
    TracksHandles ((c, (s.step c).1) :: h) (s.step c).2 := by
  have hs := step_spec s c
  generalize s.step c = out at hs
  cases hs with
  | clone hi => exact ht.clone _
  | dropHandle hi => exact ht.dropHandle hi
  | subscribe hi => exact ht.keep rfl rfl nofun
  | trigger hi => exact ht.keep handles_send rfl nofun
  | count hi => exact ht.keep rfl rfl nofun
  | receive hat hn =>
    have ha := (read_spec (s.position?_le hn)).makes_nothing
    exact ht.keep rfl ha.1 fun hr => absurd hr ha.2.2.2
  | drop hn => exact ht.keep rfl rfl fun _ => rfl
  | noHandle hc hi => exact ht.keep rfl rfl nofun
  | noReceiver hc hn => exact ht.keep rfl rfl nofun

/-- What is done without a receiver being made or dropped and without a signal. -/
theorem TracksReceivers.keep (ht : TracksReceivers h s) {t : Shutdown} {c : Command} {reply : Reply}
    (hlen : t.receivers.length = s.receivers.length) (hunseen : ∀ r, t.unseen? r = s.unseen? r)
    (hmade : reply.madeReceiver? = none) (htriggered : reply ≠ .triggered)
    (hdropped : reply = .dropped → c.receiver? = none) (hconsumes : reply.consumes = 0) :
    TracksReceivers ((c, reply) :: h) t := by
  have hkept : ∀ r, (.drop r, .dropped) ∈ (c, reply) :: h ↔ (.drop r, .dropped) ∈ h := by
    intro r
    rw [List.mem_cons, or_iff_right]
    intro he
    obtain ⟨rfl, rfl⟩ := Prod.mk.inj he
    cases hdropped rfl
  have hreceivers : History.receivers ((c, reply) :: h) = h.receivers := by
    simp [History.receivers, hmade]
  have hconsumed : ∀ r, History.consumed r ((c, reply) :: h) = h.consumed r := by
    intro r
    simp [History.consumed, hconsumes]
  have hissued : ∀ r, History.issued r ((c, reply) :: h) = h.issued r := by
    intro r
    have hne : reply ≠ .receiver r := by
      rintro rfl
      cases hmade
    simp [History.issued, hne, htriggered]
  refine ⟨?_, fun r => ?_, fun r => ?_, fun r => ?_, fun r u => ?_⟩
  · rw [hreceivers, hlen]
    exact ht.made
  · rw [hunseen, hkept, hlen]
    exact ht.held r
  · rw [hkept, hlen]
    exact ht.dropped r
  · rw [hconsumed, hlen]
    exact ht.unmade r
  · rw [hunseen, hissued, hconsumed]
    exact ht.unseen r u

theorem TracksReceivers.subscribe (ht : TracksReceivers h s) (i : Nat) :
    TracksReceivers ((.subscribe i, .receiver s.receivers.length) :: h) s.addReceiver := by
  have hlen : s.addReceiver.receivers.length = s.receivers.length + 1 := by simp [addReceiver]
  have hkept : ∀ r, (.drop r, .dropped) ∈
      (Command.subscribe i, Reply.receiver s.receivers.length) :: h ↔ (.drop r, .dropped) ∈ h :=
    fun r => by simp
  have hconsumed : ∀ r,
      History.consumed r ((.subscribe i, .receiver s.receivers.length) :: h) = h.consumed r :=
    fun r => by simp [History.consumed]
  refine ⟨?_, fun r => ?_, fun r hr => ?_, fun r hr => ?_, fun r u hu => ?_⟩
  · have hreceivers : History.receivers ((.subscribe i, .receiver s.receivers.length) :: h) =
        s.receivers.length :: h.receivers := rfl
    rw [hreceivers, ht.made, hlen, List.range_succ, List.reverse_append]
    rfl
  · rw [unseen?_addReceiver, hkept, hlen]
    by_cases hr : r = s.receivers.length
    · rw [if_pos hr]
      have hfresh : (.drop r, .dropped) ∉ h := fun hd => Nat.ne_of_lt (ht.dropped r hd) hr
      exact iff_of_true rfl ⟨by omega, hfresh⟩
    · rw [if_neg hr, ht.held]
      have hlt : r < s.receivers.length + 1 ↔ r < s.receivers.length := by omega
      rw [hlt]
  · rw [hlen]
    exact Nat.lt_succ_of_lt (ht.dropped r ((hkept r).mp hr))
  · rw [hconsumed]
    exact ht.unmade r (by omega)
  · rw [unseen?_addReceiver] at hu
    rw [hconsumed]
    by_cases hr : r = s.receivers.length
    · rw [if_pos hr] at hu
      obtain rfl := Option.some.inj hu
      rw [ht.unmade r (Nat.le_of_eq hr.symm)]
      simp [History.issued, hr]
    · rw [if_neg hr] at hu
      rw [← ht.unseen r u hu]
      simp [History.issued, Ne.symm hr]

theorem TracksReceivers.trigger (ht : TracksReceivers h s) (i : Nat) :
    TracksReceivers ((.trigger i, .triggered) :: h) s.send := by
  have hlen : s.send.receivers.length = s.receivers.length := congrArg _ receivers_send
  have hsome : ∀ r, (s.send.unseen? r).isSome = (s.unseen? r).isSome := fun r => by
    rw [unseen?_send, Option.isSome_map]
  refine ⟨?_, fun r => ?_, fun r hr => ?_, fun r hr => ?_, fun r u hu => ?_⟩
  · rw [hlen]
    exact ht.made
  · have hkept : (.drop r, .dropped) ∈ (Command.trigger i, Reply.triggered) :: h ↔
        (.drop r, .dropped) ∈ h := by simp
    rw [hsome, hkept, hlen]
    exact ht.held r
  · rw [hlen]
    exact ht.dropped r (by simpa using hr)
  · rw [hlen] at hr
    simpa [History.consumed] using ht.unmade r hr
  · rw [unseen?_send, Option.map_eq_some_iff] at hu
    obtain ⟨v, hv, rfl⟩ := hu
    have hissued := ht.unseen r v hv
    simp [History.issued, History.consumed]
    omega

theorem TracksReceivers.receive (ht : TracksReceivers h s) {r n : Nat}
    (hat : ∀ m, some (s.read n).2 = some m → m ≤ s.sent) (hn : s.position? r = some n) :
    TracksReceivers ((.receive r, (s.read n).1) :: h) (s.place r (some (s.read n).2) hat) := by
  have ha := read_spec (s.position?_le hn)
  have hr : s.unseen? r = some (s.sent - n) := by
    unfold unseen?
    rw [hn]
    rfl
  have hlen : (s.place r (some (s.read n).2) hat).receivers.length = s.receivers.length := by
    simp [place]
  have hkept : ∀ q, (.drop q, .dropped) ∈ (Command.receive r, (s.read n).1) :: h ↔
      (.drop q, .dropped) ∈ h := fun q => by simp
  obtain ⟨_, hmade, htriggered, _⟩ := ha.makes_nothing
  have hissued : ∀ q, History.issued q ((.receive r, (s.read n).1) :: h) = h.issued q := by
    intro q
    have hne : (s.read n).1 ≠ .receiver q := by
      intro he
      rw [he] at hmade
      cases hmade
    simp [History.issued, hne, htriggered]
  refine ⟨?_, fun q => ?_, fun q hq => ?_, fun q hq => ?_, fun q u hu => ?_⟩
  · have hreceivers : History.receivers ((.receive r, (s.read n).1) :: h) = h.receivers := by
      simp [History.receivers, hmade]
    rw [hreceivers, hlen]
    exact ht.made
  · rw [unseen?_place hn, hkept, hlen, ← ht.held]
    by_cases hq : r = q
    · rw [if_pos hq, ← hq, hr]
      simp
    · rw [if_neg hq]
  · rw [hlen]
    exact ht.dropped q ((hkept q).mp hq)
  · rw [hlen] at hq
    have hne : r ≠ q := fun he => by
      have hlt := lt_of_position? hn
      omega
    simpa [History.consumed, hne] using ht.unmade q hq
  · rw [unseen?_place hn] at hu
    rw [hissued]
    by_cases hq : r = q
    · subst hq
      rw [if_pos rfl] at hu
      have hu : s.sent - (s.read n).2 = u := Option.some.inj hu
      have hold := ht.unseen r _ hr
      have hgot := ha.consumes
      simp [History.consumed]
      omega
    · rw [if_neg hq] at hu
      rw [ht.unseen q u hu]
      simp [History.consumed, hq]

theorem TracksReceivers.drop (ht : TracksReceivers h s) {r n : Nat} (hn : s.position? r = some n) :
    TracksReceivers ((.drop r, .dropped) :: h) (s.place r none nofun) := by
  have hlen : (s.place r none nofun).receivers.length = s.receivers.length := by simp [place]
  have hmem : ∀ q, (.drop q, .dropped) ∈ (Command.drop r, Reply.dropped) :: h ↔
      q = r ∨ (.drop q, .dropped) ∈ h := fun q => by simp
  have hlt := lt_of_position? hn
  refine ⟨?_, fun q => ?_, fun q hq => ?_, fun q hq => ?_, fun q u hu => ?_⟩
  · rw [hlen]
    exact ht.made
  · rw [unseen?_place hn, hmem, hlen]
    by_cases hq : r = q
    · rw [if_pos hq]
      simp [hq]
    · rw [if_neg hq, ht.held]
      simp [Ne.symm hq]
  · rw [hlen]
    rcases (hmem q).mp hq with rfl | hq
    · exact hlt
    · exact ht.dropped q hq
  · rw [hlen] at hq
    simpa [History.consumed] using ht.unmade q hq
  · rw [unseen?_place hn] at hu
    by_cases hq : r = q
    · rw [if_pos hq] at hu
      cases hu
    · rw [if_neg hq] at hu
      simpa [History.issued, History.consumed] using ht.unseen q u hu

theorem TracksReceivers.step (ht : TracksReceivers h s) (c : Command) :
    TracksReceivers ((c, (s.step c).1) :: h) (s.step c).2 := by
  have hs := step_spec s c
  generalize s.step c = out at hs
  cases hs with
  | clone hi => exact ht.keep rfl (fun _ => rfl) rfl nofun nofun rfl
  | dropHandle hi => exact ht.keep rfl (fun _ => rfl) rfl nofun (fun _ => rfl) rfl
  | subscribe hi => exact ht.subscribe _
  | trigger hi => exact ht.trigger _
  | count hi => exact ht.keep rfl (fun _ => rfl) rfl nofun nofun rfl
  | receive hat hn => exact ht.receive hat hn
  | drop hn => exact ht.drop hn
  | noHandle hc hi => exact ht.keep rfl (fun _ => rfl) rfl nofun nofun rfl
  | noReceiver hc hn => exact ht.keep rfl (fun _ => rfl) rfl nofun nofun rfl

theorem Reaches.tracksHandles (hr : Reaches h s) : TracksHandles h s := by
  induction hr with
  | new => exact .new
  | step c _ ih => exact ih.step c

theorem Reaches.tracksReceivers (hr : Reaches h s) : TracksReceivers h s := by
  induction hr with
  | new => exact .new
  | step c _ ih => exact ih.step c

theorem TracksHandles.held_iff (ht : TracksHandles h s) (i : Nat) :
    s.isHeld i = true ↔ h.Held i := by
  rw [ht.held, History.Held, ht.made]

theorem TracksReceivers.mem_live_iff (ht : TracksReceivers h s) (r : Nat) :
    r ∈ h.live ↔ ∃ u, s.unseen? r = some u := by
  rw [← Option.isSome_iff_exists, ht.held, History.live, List.mem_filter, ht.made, List.mem_reverse,
    List.mem_range, decide_eq_true_eq]

/-- A list of places, each occupied or not, has as many occupied ones as there are such numbers. -/
theorem countP_isSome (l : List (Option Nat)) :
    l.countP Option.isSome = (List.range l.length).countP fun i => l[i]?.join.isSome := by
  induction l with
  | nil => rfl
  | cons a l ih =>
    rw [List.countP_cons, ih, List.length_cons, List.range_succ_eq_map, List.countP_cons,
      List.countP_map]
    rfl

theorem TracksReceivers.receiverCount_eq (ht : TracksReceivers h s) :
    s.receiverCount = h.live.length := by
  have hlive : h.live = h.receivers.filter fun r => (s.position? r).isSome := by
    refine List.filter_congr fun r hr => ?_
    rw [ht.made, List.mem_reverse, List.mem_range] at hr
    have hheld := ht.held r
    rw [unseen?, Option.isSome_map] at hheld
    rw [Bool.eq_iff_iff, hheld, decide_eq_true_eq]
    exact (and_iff_right hr).symm
  rw [hlive, ← List.countP_eq_length_filter, ht.made, List.countP_reverse]
  exact countP_isSome s.receivers

end DevServer.Shutdown
