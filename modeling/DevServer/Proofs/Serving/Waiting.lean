import DevServer.Proofs.Shutdown.Steps
import DevServer.Shared

/-!
# Waiting for a signal among others

A task waits with a receiver while others send signals, make and drop handles and do what they like
with receivers of their own. As soon as there is something for its receiver the task comes to its
end, in a number of its own turns that the others cannot change; as long as there is nothing it waits.
-/
namespace DevServer

set_option autoImplicit false

namespace Shutdown

/-- Whether a command sends a signal. -/
def sends (s : Shutdown) : Command → Bool
  | .trigger i => s.isHeld i
  | _ => false

/-- There is something for a receiver: a signal, or word that none can come. -/
def Alerts (s : Shutdown) (r : Nat) : Prop :=
  ∃ u, s.unseen? r = some u ∧ (0 < u ∨ s.isOpen = false)

variable {s : Shutdown} {c : Command} {r : Nat}

theorem lt_of_unseen? {u : Nat} (hu : s.unseen? r = some u) : r < s.receivers.length := by
  obtain ⟨n, hn, _⟩ := Option.map_eq_some_iff.mp hu
  exact lt_of_position? hn

theorem sends_of_not_isHeld {i : Nat} (hc : c.handle? = some i) (hi : s.isHeld i = false) :
    s.sends c = false := by
  cases c with
  | trigger j =>
    obtain rfl := Option.some.inj hc
    exact hi
  | _ => rfl

/-- What others do adds to what a receiver has not got exactly the signals that they send. -/
theorem unseen?_step {u : Nat} (hu : s.unseen? r = some u) (hc : c.receiver? ≠ some r) :
    (s.step c).2.unseen? r = some (u + if s.sends c then 1 else 0) := by
  cases hq : c.receiver? with
  | some q =>
    have hne : r ≠ q := fun he => hc (he ▸ hq)
    have hsends : s.sends c = false := by
      cases c with
      | trigger i => cases hq
      | _ => rfl
    rw [(frame_receiver hq).2.2 r hne, hsends]
    exact hu
  | none =>
    have hs := step_spec s c
    generalize s.step c = out at hs
    cases hs with
    | clone _ => exact hu
    | dropHandle _ => exact hu
    | count _ => exact hu
    | subscribe _ =>
      rw [unseen?_addReceiver, if_neg (Nat.ne_of_lt (lt_of_unseen? hu))]
      exact hu
    | trigger hi =>
      have hsends : s.sends (.trigger _) = true := hi
      rw [unseen?_send, hu, hsends]
      rfl
    | receive _ _ => cases hq
    | drop _ => cases hq
    | noHandle hh hi =>
      rw [sends_of_not_isHeld hh hi]
      exact hu
    | noReceiver hh _ =>
      rw [hq] at hh
      cases hh

theorem isOpen_of_handles {t : Shutdown} (h : t.handles = s.handles) : t.isOpen = s.isOpen := by
  unfold isOpen
  rw [h]

/-- Who holds no handle gets none. -/
theorem isOpen_step (ho : s.isOpen = false) : (s.step c).2.isOpen = false := by
  have hnone : ∀ i, ¬ s.isHeld i = true := fun i hi => by
    have hopen := isOpen_iff.mpr ⟨i, hi⟩
    rw [ho] at hopen
    cases hopen
  cases hh : c.handle? with
  | some i =>
    rw [step_of_not_isHeld hh (hnone i)]
    exact ho
  | none =>
    cases hr : c.receiver? with
    | some q => rw [isOpen_of_handles (frame_receiver hr).1, ho]
    | none => cases c <;> cases hh <;> cases hr

theorem isHeld_step {i : Nat} (hi : s.isHeld i = true) (hc : c ≠ .dropHandle i) :
    (s.step c).2.isHeld i = true := by
  cases hq : c.receiver? with
  | some q =>
    unfold isHeld
    rw [(frame_receiver hq).1]
    exact hi
  | none =>
    have hs := step_spec s c
    generalize s.step c = out at hs
    cases hs with
    | clone _ => exact (isHeld_addHandle i).mpr (.inl hi)
    | dropHandle _ => exact (isHeld_dropHandle _ i).mpr ⟨hi, fun he => hc (he ▸ rfl)⟩
    | subscribe _ => exact hi
    | trigger _ =>
      unfold isHeld
      rw [handles_send]
      exact hi
    | count _ => exact hi
    | receive _ _ => cases hq
    | drop _ => cases hq
    | noHandle _ _ => exact hi
    | noReceiver _ _ => exact hi

theorem Alerts.step (ha : s.Alerts r) (hc : c.receiver? ≠ some r) : (s.step c).2.Alerts r := by
  obtain ⟨u, hu, hsome⟩ := ha
  refine ⟨_, unseen?_step hu hc, ?_⟩
  rcases hsome with hpos | hclosed
  · exact .inl (Nat.lt_add_right _ hpos)
  · exact .inr (isOpen_step hclosed)

end Shutdown

/-- A turn in which nobody else does anything with this receiver. -/
def Turn.Spares (r : Nat) (t : Turn) : Prop := ∀ c, t = .command c → c.receiver? ≠ some r

def Turn.isOwn : Turn → Bool
  | .own => true
  | _ => false

/-- How many signals others send in a turn. -/
def Turn.signals (s : Shutdown) : Turn → Nat
  | .command c => if s.sends c then 1 else 0
  | _ => 0

/-- A task that waits with a receiver until that gets something, and then comes to its end. -/
structure Waiter {σ : Type} (step : Task σ) (r : Nat) where
  /-- The receiver has got nothing yet. -/
  Waits : σ → Prop
  /-- The receiver has got something. -/
  Told : σ → Prop
  rank : σ → Nat
  /-- The rank of a task that has come to its end. -/
  last : Nat
  /-- What the task has put out by then. -/
  log : σ → List Output
  waits_step : ∀ {x : σ} {s : Shutdown} {u : Nat}, Waits x → s.unseen? r = some u →
    (step x s).shutdown.handles = s.handles ∧
      (Waits (step x s).task ∧ (step x s).shutdown.unseen? r = some u ∨
        Told (step x s).task ∧ s.Alerts r)
  alerted_step : ∀ {x : σ} {s : Shutdown}, Waits x → s.Alerts r → rank x < rank (step x s).task
  told_step : ∀ {x : σ} {s : Shutdown}, Told x →
    (step x s).shutdown.handles = s.handles ∧ Told (step x s).task ∧
      min last (rank x + 1) ≤ rank (step x s).task
  log_step : ∀ {x : σ} {s : Shutdown}, Waits x ∨ Told x →
    log (step x s).task = log x ++ (step x s).output

namespace Shared

variable {σ : Type} {step : Task σ}

/-- How many signals others send in the course of some turns. -/
def signals (step : Task σ) (w : Shared σ) : List Turn → Nat
  | [] => 0
  | t :: ts => t.signals w.shutdown + signals step (w.turn step t) ts

theorem run_cons (w : Shared σ) (t : Turn) (ts : List Turn) :
    w.run step (t :: ts) = (w.turn step t).run step ts := rfl

theorem run_append (w : Shared σ) (ts us : List Turn) :
    w.run step (ts ++ us) = (w.run step ts).run step us := List.foldl_append

theorem signals_append (w : Shared σ) (ts us : List Turn) :
    w.signals step (ts ++ us) = w.signals step ts + (w.run step ts).signals step us := by
  induction ts generalizing w with
  | nil => exact (Nat.zero_add _).symm
  | cons t ts ih =>
    show t.signals w.shutdown + (w.turn step t).signals step (ts ++ us) = _
    rw [ih, ← Nat.add_assoc]
    rfl

theorem signals_eq_zero (w : Shared σ) {ts : List Turn}
    (hts : ∀ t ∈ ts, ∀ i, t ≠ .command (.trigger i)) : w.signals step ts = 0 := by
  induction ts generalizing w with
  | nil => rfl
  | cons t ts ih =>
    have hnone : t.signals w.shutdown = 0 := by
      cases t with
      | command c =>
        cases c with
        | trigger i => exact absurd rfl (hts _ (List.mem_cons_self ..) i)
        | _ => rfl
      | _ => rfl
    show t.signals w.shutdown + (w.turn step t).signals step ts = 0
    rw [hnone, ih _ fun u hu => hts u (List.mem_cons_of_mem _ hu)]

/-- What every turn of some kind keeps, all turns of that kind keep. -/
theorem run_keeps {I : Shared σ → Prop} {P : Turn → Prop}
    (hturn : ∀ w t, P t → I w → I (w.turn step t)) {w : Shared σ} (hw : I w) {ts : List Turn}
    (hts : ∀ t ∈ ts, P t) : I (w.run step ts) := by
  induction ts generalizing w with
  | nil => exact hw
  | cons t ts ih =>
    exact ih (hturn w t (hts t (List.mem_cons_self ..)) hw)
      fun u hu => hts u (List.mem_cons_of_mem _ hu)

end Shared

/-- If there is something for its receiver, a task ends in so many turns of its own, whoever does
what else in between. As long as there is nothing it goes on. -/
structure EndsWhenTold {σ : Type} (step : Task σ) (r : Nat) (w : Shared σ) (turns : Nat)
    (Ended GoesOn : Shared σ → Prop) : Prop where
  ended : ∀ ts us : List Turn, (∀ t ∈ ts, t.Spares r) → (∀ t ∈ us, t.Spares r) →
    0 < w.signals step ts ∨ (w.run step ts).shutdown.isOpen = false →
    turns ≤ us.countP Turn.isOwn → Ended (w.run step (ts ++ us))
  goesOn : ∀ ts : List Turn, (∀ t ∈ ts, t.Spares r) → w.signals step ts = 0 →
    (w.run step ts).shutdown.isOpen = true → GoesOn (w.run step ts)

namespace Waiter

variable {σ : Type} {step : Task σ} {r : Nat} (wt : Waiter step r) {w : Shared σ}

/-- The task waits, and its receiver has not got so many signals. -/
def Idle (u : Nat) (w : Shared σ) : Prop :=
  wt.Waits w.task ∧ w.shutdown.unseen? r = some u ∧ w.own = wt.log w.task

/-- The task has come to know that it should end. -/
def Ending (w : Shared σ) : Prop := wt.Told w.task ∧ w.own = wt.log w.task

/-- Nothing can keep the task from ending. -/
def Called (w : Shared σ) : Prop :=
  (∃ u, wt.Idle u w) ∧ w.shutdown.Alerts r ∨ wt.Ending w

theorem log_own (hx : wt.Waits w.task ∨ wt.Told w.task) (hlog : w.own = wt.log w.task) :
    (w.turn step .own).own = wt.log (w.turn step .own).task := by
  show w.own ++ (step w.task w.shutdown).output = wt.log (step w.task w.shutdown).task
  rw [wt.log_step hx, hlog]

theorem idle_turn {u : Nat} (hw : wt.Idle u w) {t : Turn} (ht : t.Spares r) :
    wt.Idle (u + t.signals w.shutdown) (w.turn step t) ∨
      wt.Ending (w.turn step t) ∧
        (0 < u + t.signals w.shutdown ∨ (w.turn step t).shutdown.isOpen = false) := by
  obtain ⟨hwaits, hu, hlog⟩ := hw
  cases t with
  | output o => exact .inl ⟨hwaits, hu, hlog⟩
  | command c => exact .inl ⟨hwaits, Shutdown.unseen?_step hu (ht c rfl), hlog⟩
  | own =>
    obtain ⟨hhandles, hstep⟩ := wt.waits_step hwaits hu
    have hlog' := wt.log_own (.inl hwaits) hlog
    rcases hstep with ⟨hwaits', hu'⟩ | ⟨htold, v, hv, hsome⟩
    · exact .inl ⟨hwaits', hu', hlog'⟩
    · have hsame : v = u := Option.some.inj (hv.symm.trans hu)
      refine .inr ⟨⟨htold, hlog'⟩, ?_⟩
      rcases hsome with hpos | hclosed
      · exact .inl (Nat.lt_add_right _ (hsame ▸ hpos))
      · exact .inr ((Shutdown.isOpen_of_handles hhandles).trans hclosed)

theorem ending_turn (hw : wt.Ending w) (t : Turn) :
    wt.Ending (w.turn step t) ∧
      (w.shutdown.isOpen = false → (w.turn step t).shutdown.isOpen = false) := by
  obtain ⟨htold, hlog⟩ := hw
  cases t with
  | output o => exact ⟨⟨htold, hlog⟩, id⟩
  | command c => exact ⟨⟨htold, hlog⟩, Shutdown.isOpen_step⟩
  | own =>
    obtain ⟨hhandles, htold', _⟩ := wt.told_step htold
    exact ⟨⟨htold', wt.log_own (.inr htold) hlog⟩, (Shutdown.isOpen_of_handles hhandles).trans⟩

theorem ending_run (hw : wt.Ending w) (ts : List Turn) :
    wt.Ending (w.run step ts) ∧
      (w.shutdown.isOpen = false → (w.run step ts).shutdown.isOpen = false) := by
  induction ts generalizing w with
  | nil => exact ⟨hw, id⟩
  | cons t ts ih =>
    obtain ⟨hturn, hclosed⟩ := wt.ending_turn hw t
    obtain ⟨hrun, hclosed'⟩ := ih hturn
    exact ⟨hrun, fun h => hclosed' (hclosed h)⟩

/-- Whatever others do, the task has either got nothing, and then all signals are still there for
its receiver, or it has got something that there was. -/
theorem idle_run {u : Nat} (hw : wt.Idle u w) {ts : List Turn} (hts : ∀ t ∈ ts, t.Spares r) :
    wt.Idle (u + w.signals step ts) (w.run step ts) ∨
      wt.Ending (w.run step ts) ∧
        (0 < u + w.signals step ts ∨ (w.run step ts).shutdown.isOpen = false) := by
  induction ts generalizing w u with
  | nil => exact .inl hw
  | cons t ts ih =>
    have hrest : ∀ t ∈ ts, t.Spares r := fun t ht => hts t (List.mem_cons_of_mem _ ht)
    have hsum : u + w.signals step (t :: ts) =
        u + t.signals w.shutdown + (w.turn step t).signals step ts := (Nat.add_assoc ..).symm
    -- What has been sent up to here is part of the number that the rest begins with.
    rw [Shared.run_cons, hsum]
    rcases wt.idle_turn hw (hts t (List.mem_cons_self ..)) with hidle | ⟨hending, hsome⟩
    · exact ih hidle hrest
    · obtain ⟨hrun, hclosed⟩ := wt.ending_run hending ts
      exact .inr ⟨hrun, hsome.imp (Nat.lt_add_right _) hclosed⟩

theorem called_turn (hw : wt.Called w) {t : Turn} (ht : t.Spares r) :
    wt.Called (w.turn step t) ∧
      min wt.last (wt.rank w.task + [t].countP Turn.isOwn) ≤ wt.rank (w.turn step t).task := by
  rcases hw with ⟨⟨u, hidle⟩, halerts⟩ | hending
  · obtain ⟨hwaits, hu, hlog⟩ := hidle
    cases t with
    | output o => exact ⟨.inl ⟨⟨u, hwaits, hu, hlog⟩, halerts⟩, Nat.min_le_right _ _⟩
    | command c =>
      have hu' := Shutdown.unseen?_step hu (ht c rfl)
      exact ⟨.inl ⟨⟨_, hwaits, hu', hlog⟩, halerts.step (ht c rfl)⟩, Nat.min_le_right _ _⟩
    | own =>
      have hlog' := wt.log_own (.inl hwaits) hlog
      -- Even if it does not look at its receiver yet, the task gets nearer to doing so.
      have hrank := wt.alerted_step hwaits halerts
      refine ⟨?_, Nat.le_trans (Nat.min_le_right _ _) hrank⟩
      obtain ⟨hhandles, hstep⟩ := wt.waits_step hwaits hu
      rcases hstep with ⟨hwaits', hu'⟩ | ⟨htold, _⟩
      · obtain ⟨v, hv, hsome⟩ := halerts
        have hsame : v = u := Option.some.inj (hv.symm.trans hu)
        refine .inl ⟨⟨u, hwaits', hu', hlog'⟩, u, hu', hsome.imp (hsame ▸ ·) fun hclosed => ?_⟩
        exact (Shutdown.isOpen_of_handles hhandles).trans hclosed
      · exact .inr ⟨htold, hlog'⟩
  · refine ⟨.inr (wt.ending_turn hending t).1, ?_⟩
    cases t with
    | output o => exact Nat.min_le_right _ _
    | command c => exact Nat.min_le_right _ _
    | own => exact (wt.told_step hending.1).2.2

/-- A task that nothing can keep from ending ends after as many turns of its own as it needs. -/
theorem called_run (hw : wt.Called w) {ts : List Turn} (hts : ∀ t ∈ ts, t.Spares r) :
    wt.Called (w.run step ts) ∧
      min wt.last (wt.rank w.task + ts.countP Turn.isOwn) ≤ wt.rank (w.run step ts).task := by
  induction ts generalizing w with
  | nil => exact ⟨hw, Nat.min_le_right _ _⟩
  | cons t ts ih =>
    obtain ⟨hturn, hrank⟩ := wt.called_turn hw (hts t (List.mem_cons_self ..))
    obtain ⟨hrun, hrank'⟩ := ih hturn fun t ht => hts t (List.mem_cons_of_mem _ ht)
    refine ⟨hrun, ?_⟩
    rw [Shared.run_cons]
    have hcount : (t :: ts).countP Turn.isOwn = [t].countP Turn.isOwn + ts.countP Turn.isOwn := by
      rw [← List.countP_append]
      rfl
    omega

theorem called_of_idle {u : Nat} (hw : wt.Idle u w)
    (hsome : 0 < u ∨ w.shutdown.isOpen = false) : wt.Called w :=
  .inl ⟨⟨u, hw⟩, u, hw.2.1, hsome⟩

/-- A signal or the loss of the last handle ends a task that waits, whenever it comes. -/
theorem ends (hw : wt.Idle 0 w) {ts us : List Turn} (hts : ∀ t ∈ ts, t.Spares r)
    (hus : ∀ t ∈ us, t.Spares r)
    (hsome : 0 < w.signals step ts ∨ (w.run step ts).shutdown.isOpen = false)
    (hcount : wt.last ≤ us.countP Turn.isOwn) :
    wt.last ≤ wt.rank (w.run step (ts ++ us)).task ∧
      (w.run step (ts ++ us)).own = wt.log (w.run step (ts ++ us)).task := by
  have hcalled : wt.Called (w.run step ts) := by
    rcases wt.idle_run hw hts with hidle | ⟨hending, _⟩
    · rw [Nat.zero_add] at hidle
      exact wt.called_of_idle hidle hsome
    · exact .inr hending
  obtain ⟨hrun, hrank⟩ := wt.called_run hcalled hus
  rw [Shared.run_append]
  refine ⟨by omega, ?_⟩
  rcases hrun with ⟨⟨_, _, _, hlog⟩, _⟩ | ⟨_, hlog⟩
  · exact hlog
  · exact hlog

/-- Without a signal, and while a handle is held, the task waits. -/
theorem stays (hw : wt.Idle 0 w) {ts : List Turn} (hts : ∀ t ∈ ts, t.Spares r)
    (hnone : w.signals step ts = 0) (hopen : (w.run step ts).shutdown.isOpen = true) :
    wt.Idle 0 (w.run step ts) := by
  have hrun := wt.idle_run hw hts
  rw [hnone, hopen] at hrun
  rcases hrun with hidle | ⟨_, hpos | hclosed⟩
  · exact hidle
  · exact absurd hpos (Nat.lt_irrefl 0)
  · cases hclosed

/-- A task that waits with a receiver ends when that gets something. -/
theorem endsWhenTold (hw : wt.Idle 0 w) {Ended GoesOn : Shared σ → Prop}
    (hended : ∀ w', wt.last ≤ wt.rank w'.task → w'.own = wt.log w'.task → Ended w')
    (hgoesOn : ∀ w', wt.Idle 0 w' → GoesOn w') : EndsWhenTold step r w wt.last Ended GoesOn where
  ended ts us hts hus hsome hcount := by
    obtain ⟨hrank, hlog⟩ := wt.ends hw hts hus hsome hcount
    exact hended _ hrank hlog
  goesOn ts hts hnone hopen := hgoesOn _ (wt.stays hw hts hnone hopen)

end Waiter

end DevServer
