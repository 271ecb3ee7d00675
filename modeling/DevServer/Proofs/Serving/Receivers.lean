import DevServer.Proofs.Serving.Stages

/-!
# How many receivers are held

The number of receivers that are held goes up by one with each that is made and down by one with each
that is let go of; nothing else that can be done changes it. A run makes one receiver, and no step of
it changes the number but by making that one or letting go of it. So when the run holds it no longer
the number is what it was, up to what others have made and let go of in between.
-/
namespace DevServer

set_option autoImplicit false

namespace Shutdown

/-- Whether a command makes a receiver. -/
def subscribes (s : Shutdown) : Command → Bool
  | .subscribe i => s.isHeld i
  | _ => false

/-- Whether a command lets go of a receiver. -/
def releases (s : Shutdown) : Command → Bool
  | .drop r => (s.position? r).isSome
  | _ => false

variable {s : Shutdown} {c : Command}

theorem receiverCount_addReceiver : s.addReceiver.receiverCount = s.receiverCount + 1 :=
  List.countP_append

/-- A receiver that is held counts for one wherever it is. -/
theorem receiverCount_place {r n : Nat} (hn : s.position? r = some n) (at? : Option Nat)
    (hat : ∀ m, at? = some m → m ≤ s.sent) :
    (s.place r at? hat).receiverCount + 1 = s.receiverCount + at?.isSome.toNat := by
  have hr := lt_of_position? hn
  have hat' : s.receivers[r] = some n := by
    unfold position? at hn
    rw [List.getElem?_eq_getElem hr] at hn
    exact hn
  have hpos : 0 < s.receiverCount :=
    List.countP_pos_iff.mpr ⟨some n, hat' ▸ List.getElem_mem hr, rfl⟩
  unfold place receiverCount at *
  rw [List.countP_set hr, hat']
  cases at? with
  | none =>
    show s.receivers.countP Option.isSome - 1 + 0 + 1 = s.receivers.countP Option.isSome + 0
    omega
  | some m =>
    show s.receivers.countP Option.isSome - 1 + 1 + 1 = s.receivers.countP Option.isSome + 1
    omega

theorem releases_drop {r : Nat} (hr : (s.position? r).isSome) : s.releases (.drop r) = true := hr

/-- A command without a handle or a receiver to do it with makes and lets go of none. -/
theorem counts_nothing_of_gone (hgone : (s.step c).1 = .gone) :
    s.subscribes c = false ∧ s.releases c = false := by
  cases c with
  | subscribe i =>
    refine ⟨Bool.eq_false_iff.mpr fun hi => ?_, rfl⟩
    rw [step_of_isHeld (c := .subscribe i) rfl hi] at hgone
    cases hgone
  | drop r =>
    refine ⟨rfl, Bool.eq_false_iff.mpr fun hr => ?_⟩
    obtain ⟨n, hn⟩ := Option.isSome_iff_exists.mp hr
    change (s.dropReceiver r).1 = .gone at hgone
    unfold dropReceiver at hgone
    rw [hn] at hgone
    cases hgone
  | _ => exact ⟨rfl, rfl⟩

theorem receiverCount_step (s : Shutdown) (c : Command) :
    (s.step c).2.receiverCount + (s.releases c).toNat =
      s.receiverCount + (s.subscribes c).toNat := by
  have hgone := counts_nothing_of_gone (s := s) (c := c)
  have hs := step_spec s c
  generalize s.step c = out at hs hgone
  cases hs with
  | clone _ => rfl
  | dropHandle _ => rfl
  | count _ => rfl
  | subscribe hi =>
    have hsubscribes : s.subscribes (.subscribe _) = true := hi
    rw [hsubscribes]
    exact receiverCount_addReceiver
  | trigger _ =>
    show s.send.receivers.countP _ = _
    rw [receivers_send]
    rfl
  | receive hat hn => exact Nat.succ.inj (receiverCount_place hn _ hat)
  | drop hn =>
    rw [releases_drop (Option.isSome_of_eq_some hn)]
    exact receiverCount_place hn none fun m h => absurd h.symm (Option.some_ne_none m)
  | noHandle _ _ =>
    rw [(hgone rfl).1, (hgone rfl).2]
  | noReceiver _ _ =>
    rw [(hgone rfl).1, (hgone rfl).2]

/-- What is done with another receiver leaves one that is held. -/
theorem isSome_position?_step {r : Nat} (hr : (s.position? r).isSome) (hc : c.receiver? ≠ some r) :
    ((s.step c).2.position? r).isSome := by
  obtain ⟨n, hn⟩ := Option.isSome_iff_exists.mp hr
  have hu : s.unseen? r = some (s.sent - n) := congrArg (Option.map _) hn
  obtain ⟨m, hm, _⟩ := Option.map_eq_some_iff.mp (unseen?_step hu hc)
  exact Option.isSome_iff_exists.mpr ⟨m, hm⟩

/-- Besides so many receivers, none or this one is held. -/
inductive Holding (r n : Nat) (s : Shutdown) : Option Nat → Prop
  | free : s.receiverCount = n → Holding r n s none
  | held : (s.position? r).isSome → s.receiverCount = n + 1 → Holding r n s (some r)

namespace Holding

variable {r n : Nat} {held : Option Nat}

theorem subscribe (h : s.receiverCount = n) :
    Holding s.receivers.length n s.addReceiver (some s.receivers.length) := by
  refine .held ?_ ?_
  · rw [position?_addReceiver, if_pos rfl]
    rfl
  · rw [receiverCount_addReceiver, h]

theorem drop {q : Nat} (h : Holding r n s (some q)) : Holding r n (s.step (.drop q)).2 none := by
  cases h with
  | held hr hcount =>
    have hstep := receiverCount_step s (.drop r)
    rw [releases_drop hr, hcount] at hstep
    exact .free (Nat.succ.inj hstep)

theorem receive {q : Nat} (h : Holding r n s (some q)) :
    Holding r n (s.step (.receive q)).2 (some q) := by
  cases h with
  | held hr hcount =>
    obtain ⟨m, hm⟩ := Option.isSome_iff_exists.mp hr
    obtain ⟨_, _, hu⟩ := answer_of_unseen? (s := s) (congrArg (Option.map _) hm)
    obtain ⟨k, hk, _⟩ := Option.map_eq_some_iff.mp hu
    exact .held (Option.isSome_of_eq_some hk) ((receiverCount_step s (.receive r)).trans hcount)

/-- Others change the number of those that they hold themselves. -/
theorem command (h : Holding r n s held) (hc : c.receiver? ≠ some r) :
    ∃ m, m + (s.releases c).toNat = n + (s.subscribes c).toNat ∧
      Holding r m (s.step c).2 held := by
  have hstep := receiverCount_step s c
  cases h with
  | free hcount => exact ⟨_, hcount ▸ hstep, .free rfl⟩
  | held hr hcount =>
    have hr' := isSome_position?_step hr hc
    obtain ⟨k, hk⟩ := Option.isSome_iff_exists.mp hr'
    have hpos : (s.step c).2.receiverCount ≠ 0 := fun hzero => by
      rw [receiverCount_eq_zero_iff.mp hzero r] at hk
      cases hk
    obtain ⟨m, hm⟩ := Nat.exists_eq_succ_of_ne_zero hpos
    exact ⟨m, by omega, .held hr' hm⟩

end Holding

end Shutdown

/-- Whether somebody else does something of a kind in a turn. -/
def Turn.does (kind : Shutdown → Shutdown.Command → Bool) (s : Shutdown) : Turn → Bool
  | .command c => kind s c
  | _ => false

namespace Shared

variable {σ : Type} {step : Task σ}

/-- How often others do something of a kind in the course of some turns. -/
def tally (step : Task σ) (kind : Shutdown → Shutdown.Command → Bool) (w : Shared σ) :
    List Turn → Nat
  | [] => 0
  | t :: ts => (t.does kind w.shutdown).toNat + tally step kind (w.turn step t) ts

theorem tally_own (kind : Shutdown → Shutdown.Command → Bool) (w : Shared σ) (ts : List Turn) :
    w.tally step kind (.own :: ts) = (w.turn step .own).tally step kind ts := Nat.zero_add _

theorem tally_eq_zero {kind : Shutdown → Shutdown.Command → Bool} (w : Shared σ) {ts : List Turn}
    (hts : ∀ t ∈ ts, ∀ sd : Shutdown, t.does kind sd = false) : w.tally step kind ts = 0 := by
  induction ts generalizing w with
  | nil => rfl
  | cons t ts ih =>
    show (t.does kind w.shutdown).toNat + (w.turn step t).tally step kind ts = 0
    rw [hts t (List.mem_cons_self ..), ih _ fun u hu => hts u (List.mem_cons_of_mem _ hu)]
    rfl

end Shared

namespace Server

/-- The receiver that a server holds. -/
def receiver? (v : Server) : Option Nat :=
  match v.phase with
  | .bound => some v.receiver
  | .accepting => some v.receiver
  | .draining => none
  | .stopped => none

theorem holding_step {v : Server} {sd : Shutdown} {r n : Nat}
    (h : Shutdown.Holding r n sd v.receiver?) :
    Shutdown.Holding r n (v.step sd).shutdown (v.step sd).task.receiver? := by
  obtain ⟨a, q, phase⟩ := v
  cases phase with
  | bound => exact h
  | draining => exact h
  | stopped => exact h
  | accepting =>
    have hreceived : Shutdown.Holding r n (sd.step (.receive q)).2 (some q) := h.receive
    unfold Server.step
    dsimp only
    generalize sd.step (.receive q) = out at hreceived
    split
    · exact hreceived
    · exact hreceived.drop

end Server

namespace Startup

open Shutdown (Holding)

/-- The receiver that a run holds. -/
def Stage.receiver? : Stage → Option Nat
  | .called _ _ => none
  | .subscribed r _ => some r
  | .built r _ => some r
  | .measured r _ => some r
  | .serving v => v.receiver?
  | .finished => none
  | .failed _ => none

def Stage.isCalled : Stage → Bool
  | .called _ _ => true
  | _ => false

variable {s : Settings} {stage : Stage} {sd : Shutdown} {r n : Nat}

/-- A run that has its receiver holds it until it fails or its server gets something. -/
theorem holding_step (hcalled : stage.isCalled = false) (h : Holding r n sd stage.receiver?) :
    Holding r n (step s stage sd).shutdown (step s stage sd).task.receiver? ∧
      (step s stage sd).task.isCalled = false := by
  have hs := step_spec s stage sd
  generalize step s stage sd = p at hs
  cases hs with
  | subscribed _ => cases hcalled
  | gone _ => cases hcalled
  | built _ => exact ⟨h, rfl⟩
  | measured _ => exact ⟨h, rfl⟩
  | bound _ => exact ⟨h, rfl⟩
  | notBuilt _ => exact ⟨h.drop, rfl⟩
  | notMeasured _ => exact ⟨h.drop, rfl⟩
  | notBound _ => exact ⟨h.drop, rfl⟩
  | serves _ => exact ⟨Server.holding_step h, rfl⟩
  | @completes v _ hstopped =>
    have hfree : v.receiver? = none := by
      unfold Server.receiver?
      rw [hstopped]
    have h' : Holding r n sd v.receiver? := h
    rw [hfree] at h'
    exact ⟨h', rfl⟩
  | finished => exact ⟨h, rfl⟩
  | failed => exact ⟨h, rfl⟩

theorem holding_turn {w : Shared Stage} (hcalled : w.task.isCalled = false)
    (h : Holding r n w.shutdown w.task.receiver?) {t : Turn} (ht : t.Spares r) :
    ∃ m, m + (t.does Shutdown.releases w.shutdown).toNat =
        n + (t.does Shutdown.subscribes w.shutdown).toNat ∧
      Holding r m (w.turn (step s) t).shutdown (w.turn (step s) t).task.receiver? ∧
      (w.turn (step s) t).task.isCalled = false := by
  cases t with
  | own => exact ⟨n, rfl, holding_step hcalled h⟩
  | output o => exact ⟨n, rfl, h, hcalled⟩
  | command c =>
    obtain ⟨m, hm, h'⟩ := h.command (ht c rfl)
    exact ⟨m, hm, h', hcalled⟩

/-- How many receivers there are besides that of a run is for the others to decide. -/
theorem holding_run {w : Shared Stage} (hcalled : w.task.isCalled = false)
    (h : Holding r n w.shutdown w.task.receiver?) {ts : List Turn} (hts : ∀ t ∈ ts, t.Spares r) :
    ∃ m, m + w.tally (step s) Shutdown.releases ts = n + w.tally (step s) Shutdown.subscribes ts ∧
      Holding r m (w.run (step s) ts).shutdown (w.run (step s) ts).task.receiver? := by
  induction ts generalizing w n with
  | nil => exact ⟨n, rfl, h⟩
  | cons t ts ih =>
    obtain ⟨k, hk, h', hcalled'⟩ := holding_turn (s := s) hcalled h (hts t (List.mem_cons_self ..))
    obtain ⟨m, hm, hrun⟩ := ih hcalled' h' fun t ht => hts t (List.mem_cons_of_mem _ ht)
    refine ⟨m, ?_, hrun⟩
    unfold Shared.tally
    omega

end Startup

end DevServer
