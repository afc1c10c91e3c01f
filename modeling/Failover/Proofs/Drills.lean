import Failover.Drill.Run
import Failover.Proofs.Processes

-- Drills in which nothing runs beside the script, and how a probe of a host ends in them.

namespace Failover.Drill

open Process (Takes Comes)

/-! ## A script alone -/

namespace Run

/-- A run in which there is nothing but the script. -/
def alone (now number : Nat) (world : World) (main : Play Unit) : Run :=
  { now, number, world, main, loops := [] }

theorem tend_alone {now number : Nat} {world : World} {main : Play Unit}
    (hoff : world.loops = .off) :
    (alone now number world main).tend = alone now number world main := by
  simp [tend, alone, hoff]

theorem step?_alone (now number : Nat) {world : World} {main : Play Unit} {τ : Process.Timer}
    (hoff : world.loops = .off) (htimer : main.timer? = some τ) :
    (alone now number world main).step? =
      some ((alone now number world main).pollMain (max now τ.1)) := by
  unfold step?
  simp only [tend_alone hoff]
  split
  · rename_i hdone
    have hdone : main.timer? = none := congrArg Process.timer? hdone
    exact absurd (htimer.symm.trans hdone) (by simp)
  · simp only [alone, htimer, firstTimer?]

theorem pollMain_alone (now number : Nat) (world : World) (main : Play Unit) (time : Nat) :
    (alone now number world main).pollMain time =
      let polled := main.poll time (number, world)
      alone time polled.2.1 polled.2.2 polled.1 :=
  rfl

variable {P : World → Prop} {α : Type} {now time : Nat} (number : Nat) {w : World} {a : α} {p : Play α}
  {τ : Process.Timer}

/-- A script comes to the end of its first part, and goes on from there at that time. -/
theorem finish_alone (hoff : ∀ w, P w → w.loops = .off) (k : α → Play Unit)
    (htimer : p.timer? = some τ) (h : Comes P (max now τ.1) p time a) (hw : P w) :
    ∃ steps number' w', P w' ∧ ∀ fuel,
      finish (fuel + steps) (alone now number w (p.andThen k)) =
        finish fuel ((alone time number' w' (k a)).pollMain time) := by
  -- on the time that is left: the next timer is later than now, and not later than the end
  induction hleft : time - max now τ.1 using Nat.strong_induction_on
    generalizing now number w p τ with
  | _ left ih =>
    have hstep := step?_alone now number (hoff w hw)
      ((Process.timer?_andThen (k := k) (by simp [htimer])).trans htimer)
    rw [pollMain_alone, Process.poll_andThen] at hstep
    obtain ⟨hkept, hrests⟩ := h.poll (number, w) hw
    generalize p.poll (max now τ.1) (number, w) = polled at hstep hkept hrests
    obtain ⟨q, number₁, w₁⟩ := polled
    cases hnext : q.timer? with
    | none =>
      obtain ⟨rfl, rfl⟩ := hrests.ended hnext
      refine ⟨1, number₁, w₁, hkept, fun fuel => ?_⟩
      rw [finish, hstep]
      rfl
    | some υ =>
      have hwaits : q.timer? ≠ none := by simp [hnext]
      rw [Process.goOn_waits hwaits] at hstep
      have hlater : max now τ.1 < υ.1 := hrests.waits υ hnext
      have hcomes := hrests.later υ.1 hlater.le (hnext ▸ Process.dueFrom_some.mpr le_rfl)
      have hinTime := hrests.inTime υ hnext
      rw [max_eq_right hinTime] at hcomes
      have hmax : max (max now τ.1) υ.1 = υ.1 := max_eq_right hlater.le
      obtain ⟨steps, number', w', hkept', hrun⟩ := ih (time - υ.1) (by omega) number₁ hnext
        (hmax.symm ▸ hcomes) hkept (by rw [hmax])
      refine ⟨steps + 1, number', w', hkept', fun fuel => ?_⟩
      rw [← Nat.add_assoc, finish, hstep]
      exact hrun fuel

theorem finish_done (now number : Nat) (hoff : w.loops = .off) (fuel : Nat) :
    finish fuel (alone now number w (.done ())) = alone now number w (.done ()) := by
  cases fuel with
  | zero => rfl
  | succ fuel =>
    have hstep : (alone now number w (.done ())).step? = none := by
      unfold step?
      simp only [tend_alone hoff]
      rfl
    rw [finish, hstep]

/-- A script of one step that acts on the world at its end. -/
theorem finish_step (hoff : ∀ w, P w → w.loops = .off) {step : Step}
    {f : α → Nat → World → Result × World}
    (hstep : runStep scriptDepth step = p.andThen fun a => atOnce (f a))
    (hkept : ∀ w, P w → (f a time w).2.loops = .off)
    (htimer : p.timer? = some (0, 0)) (h : Comes P now p time a) (hw : P w) :
    ∃ steps w', P w' ∧ ∀ fuel ≥ steps,
      (finish fuel (alone now number w (playAll [step]))).world =
        (f a time w').2.closeFrame time (f a time w').1 := by
  have hmain : playAll [step] = p.andThen fun a =>
      (atOnce (f a)).andThen fun r => .act (fun now w => ((), w.closeFrame now r)) .done := by
    rw [← Process.andThen_assoc, ← hstep]
    rfl
  obtain ⟨steps, number', w', hw', hrun⟩ := finish_alone number hoff
    (fun a => (atOnce (f a)).andThen fun r =>
      .act (fun now w => ((), w.closeFrame now r)) .done) htimer
    (by rwa [max_eq_left (Nat.zero_le now)]) hw
  refine ⟨steps, w', hw', fun fuel hfuel => ?_⟩
  obtain ⟨left, rfl⟩ := Nat.exists_eq_add_of_le' hfuel
  rw [hmain, hrun]
  have hend : ((f a time w').2.closeFrame time (f a time w').1).loops = .off := hkept w' hw'
  exact congrArg Run.world (finish_done time number' hend left)

end Run

/-! ## The probe of a host -/

namespace Host

variable {σ : Type} (h : Host σ) (timeout : Nat)

def isReached : Bool := h.connectDelay < timeout && h.reachable

/-- The milliseconds that a probe of the host takes. -/
def probeSpan : Nat :=
  if h.isReached timeout then
    h.connectDelay + h.metricsDelay + if h.metrics.isOk then h.servicesDelay else 0
  else min timeout h.connectDelay

/-- How a probe of the host ends. -/
def probed : ProbeResult Float :=
  let latencyMs := (Span.ofMillis (h.probeSpan timeout)).millis
  if h.isReached timeout then
    match h.metrics, h.services with
    | .ok resources, .ok services => .answered resources services latencyMs
    | _, _ => .broken latencyMs
  else .unreachable latencyMs

end Host

section Probe

variable {P : World → Prop} {n : Node} {h : Host Step} {run : Runner} {now : Nat}
  (hhost : ∀ w, P w → w.host n.address = h)

include hhost

theorem takes_hostNow : Takes P now (hostNow n.address) now h := .view hhost

theorem takes_connect (hscript : Takes P now (run h.onConnect) now ()) (timeout : Nat)
    (hnote : ∀ w, P w → P (w.note (.line ("connect " ++ n.endpoint)))) :
    Takes P now (connect run n timeout) (now + min timeout h.connectDelay) (h.isReached timeout) := by
  refine Takes.andThen (.update hnote) (Takes.andThen (takes_hostNow hhost) ?_)
  refine Takes.andThen hscript ?_
  unfold Host.isReached
  by_cases hlate : timeout ≤ h.connectDelay
  · rw [if_pos hlate, min_eq_left hlate, decide_eq_false (not_lt.mpr hlate), Bool.false_and]
    exact (Takes.wait timeout).andThen (.done _ false)
  · rw [if_neg hlate, min_eq_right (le_of_not_ge hlate), decide_eq_true (not_le.mp hlate),
      Bool.true_and]
    exact (Takes.wait _).andThen (.done _ _)

theorem takes_fetchMetrics : Takes P now (fetchMetrics n) (now + h.metricsDelay) h.metrics :=
  (takes_hostNow hhost).andThen ((Takes.wait _).andThen (.done _ _))

theorem takes_fetchServices : Takes P now (fetchServices n) (now + h.servicesDelay) h.services :=
  (takes_hostNow hhost).andThen ((Takes.wait _).andThen (.done _ _))

omit hhost in
theorem takes_since (start span : Nat) :
    Takes P (start + span) (since start) (start + span) (Span.ofMillis span).millis :=
  .view fun _ _ => by rw [Nat.add_sub_cancel_left]

theorem takes_probe (hscript : Takes P now (run h.onConnect) now ()) (timeout : Nat)
    (hnote : ∀ w, P w → P (w.note (.line ("connect " ++ n.endpoint)))) :
    Takes P now (probe run timeout n) (now + h.probeSpan timeout) (h.probed timeout) := by
  refine Takes.andThen (.view fun _ _ => rfl)
    (Takes.andThen (takes_connect hhost hscript timeout hnote) ?_)
  unfold Host.probed Host.probeSpan
  cases hreached : h.isReached timeout with
  | false => exact (takes_since now _).andThen (.done _ _)
  | true =>
    have hspan : min timeout h.connectDelay = h.connectDelay := by
      simp [Host.isReached] at hreached
      omega
    rw [hspan]
    refine Takes.andThen (takes_fetchMetrics hhost) ?_
    rw [Nat.add_assoc]
    cases hmetrics : h.metrics with
    | error e => exact (takes_since now _).andThen (.done _ _)
    | ok resources =>
      refine Takes.andThen (takes_fetchServices hhost) ?_
      rw [Nat.add_assoc]
      cases hservices : h.services with
      | error e => exact (takes_since now _).andThen (.done _ _)
      | ok services => exact (takes_since now _).andThen (.done _ _)

end Probe

end Failover.Drill
