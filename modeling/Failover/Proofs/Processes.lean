import Mathlib.Data.List.OfFn
import Mathlib.Order.Lattice
import Failover.Drill.Process

-- When a process ends that runs alone. Time goes on to the next timer and no further,
-- so that each part is woken at its own times, whatever stands beside it. A part ends
-- when it would end by itself, and many parts end with the last of them.

namespace Failover.Drill.Process

variable {σ α β γ : Type}

/-! ## One process after another -/

theorem andThen_assoc (p : Process σ α) (f : α → Process σ β) (g : β → Process σ γ) :
    (p.andThen f).andThen g = p.andThen fun a => (f a).andThen g := by
  induction p <;> simp [andThen, *]

/-- A process that goes on after its first part, from how far that has come. -/
def goOn (now : Nat) (k : α → Process σ β) : Process σ α × (Nat × σ) → Process σ β × (Nat × σ)
  | (done a, s) => (k a).poll now s
  | (p, s) => (p.andThen k, s)

theorem timer?_andThen {p : Process σ α} {k : α → Process σ β} (h : p.timer? ≠ none) :
    (p.andThen k).timer? = p.timer? := by
  cases p with
  | done a => exact absurd rfl h
  | _ => rfl

theorem goOn_waits {now : Nat} {p : Process σ α} {k : α → Process σ β} {s : Nat × σ}
    (h : p.timer? ≠ none) : goOn now k (p, s) = (p.andThen k, s) := by
  cases p with
  | done a => exact absurd rfl h
  | _ => rfl

theorem poll_andThen (now : Nat) (p : Process σ α) (k : α → Process σ β) (s : Nat × σ) :
    (p.andThen k).poll now s = goOn now k (p.poll now s) := by
  induction p generalizing s with
  | done a => rfl
  | act f next ih => exact ih _ k _
  | sleep span next ih =>
    simp only [andThen, poll]
    by_cases h : span = 0
    · rw [if_pos h, if_pos h]
      exact ih k s
    · rw [if_neg h, if_neg h]
      rfl
  | «until» time number next ih =>
    simp only [andThen, poll]
    by_cases h : time ≤ now
    · rw [if_pos h, if_pos h]
      exact ih k s
    · rw [if_neg h, if_neg h]
      rfl
  | limit span body next _ ih =>
    simp only [andThen, poll]
    split
    · exact ih _ k _
    · by_cases h : span = 0
      · rw [if_pos h, if_pos h]
        exact ih _ k _
      · rw [if_neg h, if_neg h]
        rfl
  | within time number body next _ ih =>
    simp only [andThen, poll]
    split
    · exact ih _ k _
    · by_cases h : time ≤ now
      · rw [if_pos h, if_pos h]
        exact ih _ k _
      · rw [if_neg h, if_neg h]
        rfl
  | both first second next _ _ ih =>
    simp only [andThen, poll]
    split
    · exact ih _ _ k _
    · rfl
  | many count parts next _ ih =>
    simp only [andThen, poll]
    split
    · exact ih _ k _
    · rfl
  | turn fresh next ih =>
    simp only [andThen, poll]
    cases fresh
    · exact ih k s
    · rfl
  | never => rfl

/-! ## The first of some timers -/

/-- A timer, if there is one, is not due before a time. -/
def DueFrom (time : Nat) (timer : Option Timer) : Prop := ∀ τ, timer = some τ → time ≤ τ.1

@[simp]
theorem dueFrom_none (time : Nat) : DueFrom time none := nofun

@[simp]
theorem dueFrom_some {time : Nat} {τ : Timer} : DueFrom time (some τ) ↔ time ≤ τ.1 :=
  ⟨fun h => h τ rfl, fun h _ hτ => Option.some.inj hτ ▸ h⟩

theorem sooner_eq_none {a b : Option Timer} : sooner a b = none ↔ a = none ∧ b = none := by
  cases a <;> cases b <;> simp [sooner]
  split <;> simp

theorem dueFrom_sooner {time : Nat} {a b : Option Timer} :
    DueFrom time (sooner a b) ↔ DueFrom time a ∧ DueFrom time b := by
  cases a with
  | none => simp [sooner]
  | some a =>
    cases b with
    | none => simp [sooner]
    | some b =>
      by_cases h : b.isSooner a = true
      · simp only [sooner, h, if_true, dueFrom_some]
        simp only [Timer.isSooner, Bool.or_eq_true, Bool.and_eq_true, decide_eq_true_eq,
          beq_iff_eq] at h
        omega
      · simp only [sooner, h, dueFrom_some]
        simp only [Timer.isSooner, Bool.or_eq_true, Bool.and_eq_true, decide_eq_true_eq,
          beq_iff_eq] at h
        simp
        omega

theorem foldl_sooner_eq_none {timers : List (Option Timer)} {first : Option Timer} :
    timers.foldl sooner first = none ↔ first = none ∧ ∀ x ∈ timers, x = none := by
  induction timers generalizing first with
  | nil => simp
  | cons x rest ih => rw [List.foldl_cons, ih, sooner_eq_none, List.forall_mem_cons, and_assoc]

theorem dueFrom_foldl {time : Nat} {timers : List (Option Timer)} {first : Option Timer} :
    DueFrom time (timers.foldl sooner first) ↔
      DueFrom time first ∧ ∀ x ∈ timers, DueFrom time x := by
  induction timers generalizing first with
  | nil => simp
  | cons x rest ih => rw [List.foldl_cons, ih, dueFrom_sooner, List.forall_mem_cons, and_assoc]

/-! ## Straight processes -/

/-- A process that does one thing after the other, reached at a time, ends at a time
with a value. It is woken on time, and what it does keeps a property of the state. -/
inductive Takes (P : σ → Prop) : {α : Type} → Nat → Process σ α → Nat → α → Prop
  | done {α : Type} (now : Nat) (a : α) : Takes P now (.done a) now a
  | act {α β : Type} {now time : Nat} {f : Nat → σ → β × σ} {next : β → Process σ α} {b : β}
      {a : α} (said : ∀ s, P s → (f now s).1 = b ∧ P (f now s).2)
      (rest : Takes P now (next b) time a) : Takes P now (.act f next) time a
  | sleep {α : Type} {now time span : Nat} {next : Process σ α} {a : α}
      (rest : Takes P (now + span) next time a) : Takes P now (.sleep span next) time a
  | until {α : Type} {now time due number : Nat} {next : Process σ α} {a : α} (wait : now ≤ due)
      (rest : Takes P due next time a) : Takes P now (.until due number next) time a

/-- A process that is as far as it comes now. It has ended, or it waits for a later
time and can be left alone up to then. -/
structure Rests (R : Nat → Process σ α → Nat → α → Prop) (now : Nat) (p : Process σ α)
    (time : Nat) (a : α) : Prop where
  ended : p.timer? = none → p = .done a ∧ time = now
  waits : DueFrom (now + 1) p.timer?
  inTime : ∀ τ, p.timer? = some τ → τ.1 ≤ time
  later : ∀ now', now ≤ now' → DueFrom now' p.timer? → R now' p (max now' time) a

variable {P : σ → Prop} {p : Process σ α} {now time : Nat} {a : α}

theorem Takes.le (h : Takes P now p time a) : now ≤ time := by
  induction h <;> omega

theorem Takes.andThen {k : α → Process σ β} {time' : Nat} {b : β} (h : Takes P now p time a)
    (hk : Takes P time (k a) time' b) : Takes P now (p.andThen k) time' b := by
  induction h with
  | done => exact hk
  | act said _ ih => exact .act said (ih hk)
  | sleep _ ih => exact .sleep (ih hk)
  | «until» wait _ ih => exact .until wait (ih hk)

theorem Takes.view {f : Nat → σ → α} (h : ∀ s, P s → f now s = a) :
    Takes P now (view f) now a :=
  .act (fun s hs => ⟨h s hs, hs⟩) (.done now a)

theorem Takes.update {f : σ → σ} (h : ∀ s, P s → P (f s)) : Takes P now (update f) now () :=
  .act (fun s hs => ⟨rfl, h s hs⟩) (.done now ())

theorem Takes.wait (span : Nat) : Takes P now (wait span) (now + span) () :=
  .sleep (.done _ ())

/-- A part that no timer wakes now is as far as it comes. -/
theorem Takes.rests (h : Takes P now p time a) (hwaits : DueFrom (now + 1) p.timer?) :
    Rests (Takes P) now p time a := by
  cases h with
  | done =>
    refine ⟨fun _ => ⟨rfl, rfl⟩, hwaits, nofun, fun now' hle _ => ?_⟩
    rw [max_eq_left hle]
    exact .done now' a
  | act | sleep => exact absurd (dueFrom_some.mp hwaits) (by simp)
  | «until» wait rest =>
    refine ⟨nofun, hwaits, fun τ hτ => ?_, fun now' _ hdue => ?_⟩
    · cases hτ
      exact rest.le
    · have hdue := dueFrom_some.mp hdue
      rw [max_eq_right (hdue.trans rest.le)]
      exact .until hdue rest

theorem Takes.poll (h : Takes P now p time a) (s : Nat × σ) (hs : P s.2) :
    P (p.poll now s).2.2 ∧ Rests (Takes P) now (p.poll now s).1 time a := by
  induction h generalizing s with
  | done now a => exact ⟨hs, (Takes.done now a).rests (dueFrom_none _)⟩
  | act said _ ih =>
    obtain ⟨hsaid, hkept⟩ := said s.2 hs
    have := ih (s.1, _) hkept
    rw [← hsaid] at this
    exact this
  | @sleep now _ span next _ rest ih =>
    simp only [Process.poll]
    by_cases h : span = 0
    · subst h
      rw [if_pos rfl]
      exact ih s hs
    · rw [if_neg h]
      refine ⟨hs, (Takes.until (Nat.le_add_right ..) rest).rests (dueFrom_some.mpr ?_)⟩
      simp only; omega
  | @«until» now _ due number next _ wait rest ih =>
    simp only [Process.poll]
    by_cases h : due ≤ now
    · rw [if_pos h]
      obtain rfl := wait.antisymm h
      exact ih s hs
    · rw [if_neg h]
      exact ⟨hs, (Takes.until wait rest).rests (dueFrom_some.mpr (by simp only; omega))⟩

/-! ## Parts side by side -/

/-- The last of some times, and no time before now. -/
def latest (now : Nat) (times : List Nat) : Nat := times.foldr max now

theorem latest_le_iff {now bound : Nat} {times : List Nat} :
    latest now times ≤ bound ↔ now ≤ bound ∧ ∀ t ∈ times, t ≤ bound := by
  unfold latest
  induction times with
  | nil => simp
  | cons t rest ih => rw [List.foldr_cons, Nat.max_le, ih, List.forall_mem_cons]; exact and_left_comm

theorem le_latest (now : Nat) (times : List Nat) : now ≤ latest now times :=
  (latest_le_iff.mp le_rfl).1

theorem le_latest_of_mem {now time : Nat} {times : List Nat} (h : time ∈ times) :
    time ≤ latest now times :=
  (latest_le_iff.mp le_rfl).2 time h

/-- A part that has ended counts as one that ends now, and the last end is the same. -/
theorem latest_max {now now' : Nat} {times : List Nat} (hle : now ≤ now')
    (hlatest : now' ≤ latest now times) :
    latest now' (times.map (max now')) = latest now times := by
  refine eq_of_forall_ge_iff fun bound => ?_
  rw [latest_le_iff, latest_le_iff, List.forall_mem_map]
  constructor
  · rintro ⟨hnow', htimes⟩
    exact ⟨hle.trans hnow', fun t ht => (le_max_right ..).trans (htimes t ht)⟩
  · rintro ⟨hnow, htimes⟩
    have hnow' := hlatest.trans (latest_le_iff.mpr ⟨hnow, htimes⟩)
    exact ⟨hnow', fun t ht => max_le hnow' (htimes t ht)⟩

/-- A process, reached at a time, ends at a time with a value. Its parts run side by
side, and it goes on with the last of them. -/
inductive Comes (P : σ → Prop) : {α : Type} → Nat → Process σ α → Nat → α → Prop
  | straight {α : Type} {now time : Nat} {p : Process σ α} {a : α} (h : Takes P now p time a) :
      Comes P now p time a
  | act {α β : Type} {now time : Nat} {f : Nat → σ → β × σ} {next : β → Process σ α} {b : β}
      {a : α} (said : ∀ s, P s → (f now s).1 = b ∧ P (f now s).2)
      (rest : Comes P now (next b) time a) : Comes P now (.act f next) time a
  | both {α β γ : Type} {now t₁ t₂ time : Nat} {p : Process σ β} {q : Process σ γ}
      {next : β → γ → Process σ α} {b : β} {c : γ} {a : α} (first : Comes P now p t₁ b)
      (second : Comes P now q t₂ c) (rest : Comes P (max t₁ t₂) (next b c) time a) :
      Comes P now (.both p q next) time a
  | many {α β : Type} {now time count : Nat} {parts : Fin count → Process σ β}
      {next : List β → Process σ α} {times : Fin count → Nat} {values : Fin count → β} {a : α}
      (each : ∀ i, Takes P now (parts i) (times i) (values i))
      (rest : Comes P (latest now (List.ofFn times)) (next (List.ofFn values)) time a) :
      Comes P now (.many count parts next) time a

theorem Rests.mono {R S : Nat → Process σ α → Nat → α → Prop}
    (hmono : ∀ {now p time a}, R now p time a → S now p time a) (h : Rests R now p time a) :
    Rests S now p time a :=
  ⟨h.ended, h.waits, h.inTime, fun now' hle hdue => hmono (h.later now' hle hdue)⟩

theorem Rests.due_le {R : Nat → Process σ α → Nat → α → Prop} {due : Nat}
    (h : Rests R now p time a) (hwaits : p.timer? ≠ none) (hdue : DueFrom due p.timer?) :
    due ≤ time := by
  obtain ⟨τ, hτ⟩ := Option.ne_none_iff_exists'.mp hwaits
  exact (hdue τ hτ).trans (h.inTime τ hτ)

theorem Comes.le (h : Comes P now p time a) : now ≤ time := by
  induction h with
  | straight h => exact h.le
  | act _ _ ih => exact ih
  | both _ _ _ ih₁ ih₂ ih => exact (ih₁.trans (le_max_left ..)).trans ih
  | many _ _ ih => exact (le_latest ..).trans ih

section Both

variable {q : Process σ β} {next : α → β → Process σ γ} {s : Nat × σ}

theorem poll_both_done {b : β} (hp : (p.poll now s).1 = done a)
    (hq : (q.poll now (p.poll now s).2).1 = done b) :
    (both p q next).poll now s = (next a b).poll now (q.poll now (p.poll now s).2).2 := by
  simp only [Process.poll, hp, hq]

theorem poll_both_waits
    (h : (p.poll now s).1.timer? ≠ none ∨ (q.poll now (p.poll now s).2).1.timer? ≠ none) :
    (both p q next).poll now s =
      (both (p.poll now s).1 (q.poll now (p.poll now s).2).1 next,
        (q.poll now (p.poll now s).2).2) := by
  simp only [Process.poll]
  split
  · rename_i hp hq
    rw [hp, hq] at h
    simp [timer?] at h
  · rfl

end Both

/-- What waits may go on waiting up to its timer. -/
theorem Rests.waiting {R : Nat → Process σ α → Nat → α → Prop} (hwaits : p.timer? ≠ none)
    (hdue : DueFrom (now + 1) p.timer?)
    (hlater : ∀ now', now ≤ now' → DueFrom now' p.timer? → now' ≤ time ∧ R now' p time a) :
    Rests R now p time a := by
  refine ⟨fun hnone => absurd hnone hwaits, hdue, fun τ hτ => ?_, fun now' hle hdue' => ?_⟩
  · have hself : DueFrom τ.1 p.timer? := hτ ▸ dueFrom_some.mpr le_rfl
    exact (hlater τ.1 ((Nat.le_succ now).trans (hdue τ hτ)) hself).1
  · obtain ⟨hle', hcomes⟩ := hlater now' hle hdue'
    rwa [max_eq_right hle']

section Many

variable {count : Nat} {parts : Fin count → Process σ α} {next : List α → Process σ β}
  {s : Nat × σ} {times : Fin count → Nat} {values : Fin count → α}

theorem values?_cons_done (a : α) (ps : List (Process σ α)) :
    values? (done a :: ps) = (values? ps).map (a :: ·) := by
  unfold values?
  rw [List.mapM_cons, Option.map_eq_bind]
  rfl

theorem values?_cons_waits (h : ∀ a, p ≠ done a) (ps : List (Process σ α)) :
    values? (p :: ps) = none := by
  unfold values?
  rw [List.mapM_cons]
  cases p with
  | done a => exact absurd rfl (h a)
  | _ => rfl

theorem values?_done (as : List α) : values? (as.map (done : α → Process σ α)) = some as := by
  induction as with
  | nil => rfl
  | cons a as ih => rw [List.map_cons, values?_cons_done, ih, Option.map_some]

theorem values?_waits {ps : List (Process σ α)} (h : ∃ p ∈ ps, p.timer? ≠ none) :
    values? ps = none := by
  induction ps with
  | nil => simp at h
  | cons p ps ih =>
    by_cases hp : ∃ a, p = done a
    · obtain ⟨a, rfl⟩ := hp
      rw [values?_cons_done, ih (by simpa [timer?] using h), Option.map_none]
    · exact values?_cons_waits (not_exists.mp hp) ps

theorem mem_woken {timers : Fin count → Option Timer} {i : Fin count} :
    i ∈ woken now timers ↔ ¬ DueFrom (now + 1) (timers i) := by
  have hover : i ∈ woken now timers ↔ ∃ τ, timers i = some τ ∧ τ.1 ≤ now := by
    simp only [woken, List.mem_map, List.mem_mergeSort, List.mem_filterMap, List.mem_finRange,
      true_and, Option.map_eq_some_iff, Option.filter_eq_some_iff, decide_eq_true_eq]
    constructor
    · rintro ⟨_, ⟨i, τ, hover, rfl⟩, rfl⟩
      exact ⟨τ, hover⟩
    · rintro ⟨τ, hover⟩
      exact ⟨(τ, i), ⟨i, τ, hover, rfl⟩, rfl⟩
  simp only [hover, DueFrom, not_forall, not_le, Nat.lt_succ_iff, exists_prop]

/-- One part is woken, beside others that are as far as they have come. -/
def wakeOne (now : Nat) (parts : Fin count → Process σ α)
    (state : Vector (Process σ α) count × (Nat × σ)) (i : Fin count) :
    Vector (Process σ α) count × (Nat × σ) :=
  let woken := (parts i).poll now state.2
  (state.1.set i woken.1 i.2, woken.2)

theorem wakeOne_self (state : Vector (Process σ α) count × (Nat × σ)) (i : Fin count) :
    (wakeOne now parts state i).1.get i = ((parts i).poll now state.2).1 :=
  Vector.getElem_set_self i.2

theorem wakeOne_other (state : Vector (Process σ α) count × (Nat × σ)) {i j : Fin count}
    (h : i ≠ j) : (wakeOne now parts state j).1.get i = state.1.get i :=
  Vector.getElem_set_ne j.2 i.2 fun heq => h (Fin.ext heq.symm)

/-- The parts that are woken now, one after the other. -/
def wake (now : Nat) (parts : Fin count → Process σ α) (s : Nat × σ) :
    Vector (Process σ α) count × (Nat × σ) :=
  (woken now fun i => timer? (parts i)).foldl (wakeOne now parts) (Vector.ofFn parts, s)

theorem poll_many_done {as : List α} (h : (wake now parts s).1.toList = as.map .done) :
    (many count parts next).poll now s = (next as).poll now (wake now parts s).2 := by
  have hvalues := (congrArg values? h).trans (values?_done as)
  unfold wake wakeOne at hvalues ⊢
  simp only [Process.poll]
  rw [hvalues]

theorem poll_many_waits (h : ∃ i : Fin count, ((wake now parts s).1.get i).timer? ≠ none) :
    (many count parts next).poll now s =
      (many count (fun i => (wake now parts s).1.get i) next, (wake now parts s).2) := by
  have hvalues : values? (wake now parts s).1.toList = none := by
    obtain ⟨i, hi⟩ := h
    exact values?_waits ⟨_, List.mem_of_getElem rfl, hi⟩
  unfold wake wakeOne at hvalues ⊢
  simp only [Process.poll]
  rw [hvalues]
  rfl

/-- Of the parts that are still to be woken nothing is known, and all others are as far
as they come. -/
theorem foldl_wakeOne_rests (each : ∀ i, Takes P now (parts i) (times i) (values i))
    (is : List (Fin count)) (state : Vector (Process σ α) count × (Nat × σ)) (hs : P state.2.2)
    (hrests : ∀ i, i ∉ is → Rests (Takes P) now (state.1.get i) (times i) (values i)) :
    let woken := is.foldl (wakeOne now parts) state
    P woken.2.2 ∧ ∀ i : Fin count, Rests (Takes P) now (woken.1.get i) (times i) (values i) := by
  induction is generalizing state with
  | nil => exact ⟨hs, fun i => hrests i List.not_mem_nil⟩
  | cons j rest ih =>
    obtain ⟨hkept, hj⟩ := (each j).poll state.2 hs
    refine ih (wakeOne now parts state j) hkept fun i hi => ?_
    by_cases hij : i = j
    · rw [hij, wakeOne_self]
      exact hj
    · rw [wakeOne_other state hij]
      exact hrests i (by simp [hij, hi])

theorem wake_rests (each : ∀ i, Takes P now (parts i) (times i) (values i)) (hs : P s.2) :
    P (wake now parts s).2.2 ∧
      ∀ i : Fin count, Rests (Takes P) now ((wake now parts s).1.get i) (times i) (values i) := by
  refine foldl_wakeOne_rests each _ _ hs fun i hi => ?_
  have hwaits : DueFrom (now + 1) (parts i).timer? := by
    by_contra hdue
    exact hi (mem_woken.mpr hdue)
  have hnew : (Vector.ofFn parts).get i = parts i := Vector.getElem_ofFn i.2
  rw [hnew]
  exact (each i).rests hwaits

end Many

theorem Comes.poll (h : Comes P now p time a) (s : Nat × σ) (hs : P s.2) :
    P (p.poll now s).2.2 ∧ Rests (Comes P) now (p.poll now s).1 time a := by
  induction h generalizing s with
  | straight h =>
    obtain ⟨hkept, hrests⟩ := h.poll s hs
    exact ⟨hkept, hrests.mono .straight⟩
  | act said _ ih =>
    obtain ⟨hsaid, hkept⟩ := said s.2 hs
    have := ih (s.1, _) hkept
    rw [← hsaid] at this
    exact this
  | @both _ _ _ now t₁ t₂ time p q next b c a _ _ rest ih₁ ih₂ ih =>
    obtain ⟨hkept₁, hp⟩ := ih₁ s hs
    obtain ⟨hkept₂, hq⟩ := ih₂ (p.poll now s).2 hkept₁
    by_cases hdone : (p.poll now s).1.timer? = none ∧ (q.poll now (p.poll now s).2).1.timer? = none
    · obtain ⟨hpdone, rfl⟩ := hp.ended hdone.1
      obtain ⟨hqdone, rfl⟩ := hq.ended hdone.2
      rw [poll_both_done hpdone hqdone]
      rw [max_self] at ih
      exact ih _ hkept₂
    · -- One of them may have ended. The other one is not due before its own end, so that
      -- both end when they would have ended without the break.
      have hwaits := not_and_or.mp hdone
      rw [poll_both_waits hwaits]
      refine ⟨hkept₂, .waiting (fun hnone => hdone (sooner_eq_none.mp hnone))
        (dueFrom_sooner.mpr ⟨hp.waits, hq.waits⟩) fun now' hle hdue => ?_⟩
      obtain ⟨hdue₁, hdue₂⟩ := dueFrom_sooner.mp hdue
      have hnow' : now' ≤ max t₁ t₂ := by
        rcases hwaits with hwaits | hwaits
        · exact (hp.due_le hwaits hdue₁).trans (le_max_left ..)
        · exact (hq.due_le hwaits hdue₂).trans (le_max_right ..)
      refine ⟨hnow'.trans rest.le, .both (hp.later now' hle hdue₁) (hq.later now' hle hdue₂) ?_⟩
      rw [max_max_max_comm, max_self, max_eq_right hnow']
      exact rest
  | @many _ _ now time count parts next times values a each rest ih =>
    obtain ⟨hkept, hrests⟩ := wake_rests each hs
    by_cases hdone : ∀ i : Fin count, ((wake now parts s).1.get i).timer? = none
    · have hlatest : latest now (List.ofFn times) = now := by
        refine (latest_le_iff.mpr ⟨le_rfl, fun t ht => ?_⟩).antisymm (le_latest ..)
        obtain ⟨i, rfl⟩ := (List.mem_ofFn' ..).mp ht
        exact ((hrests i).ended (hdone i)).2.le
      have hvalues : (wake now parts s).1.toList = (List.ofFn values).map .done := by
        rw [List.map_ofFn]
        refine List.ext_getElem (by simp) fun i hi _ => ?_
        have hlt : i < count := by simpa using hi
        rw [List.getElem_ofFn]
        exact ((hrests ⟨i, hlt⟩).ended (hdone ⟨i, hlt⟩)).1
      rw [poll_many_done hvalues]
      rw [hlatest] at ih
      exact ih _ hkept
    · obtain ⟨i, hi⟩ := not_forall.mp hdone
      rw [poll_many_waits ⟨i, hi⟩]
      refine ⟨hkept, .waiting ?_ ?_ fun now' hle hdue => ?_⟩
      · intro hnone
        exact hi (List.forall_mem_ofFn_iff.mp (foldl_sooner_eq_none.mp hnone).2 i)
      · exact dueFrom_foldl.mpr
          ⟨dueFrom_none _, List.forall_mem_ofFn_iff.mpr fun i => (hrests i).waits⟩
      · have hdue := List.forall_mem_ofFn_iff.mp (dueFrom_foldl.mp hdue).2
        have hnow' : now' ≤ latest now (List.ofFn times) :=
          ((hrests i).due_le hi (hdue i)).trans (le_latest_of_mem (List.mem_ofFn.mpr ⟨i, rfl⟩))
        refine ⟨hnow'.trans rest.le, .many (fun i => (hrests i).later now' hle (hdue i)) ?_⟩
        have hlatest := latest_max hle hnow'
        rw [List.map_ofFn] at hlatest
        exact hlatest ▸ rest

theorem Comes.andThen {k : α → Process σ β} {time' : Nat} {b : β} (h : Comes P now p time a)
    (hk : Takes P time (k a) time' b) : Comes P now (p.andThen k) time' b := by
  induction h with
  | straight h => exact .straight (h.andThen hk)
  | act said _ ih => exact .act said (ih hk)
  | both first second _ _ _ ih => exact .both first second (ih hk)
  | many each _ ih => exact .many each (ih hk)

section All

variable {ι : Type} {xs : List ι} {part : ι → Process σ α} {ends : ι → Nat} {value : ι → α}

theorem Comes.few (h : ∀ x ∈ xs, Takes P now (part x) (ends x) (value x)) :
    Comes P now (few (xs.map part)) (latest now (xs.map ends)) (xs.map value) := by
  induction xs with
  | nil => exact .straight (.done now [])
  | cons x rest ih =>
    obtain ⟨hx, hrest⟩ := List.forall_mem_cons.mp h
    exact .both (.straight hx) (ih hrest) (.straight (.done _ _))

/-- Many parts end as each of them would end by itself, with the last of them. -/
theorem Comes.all (h : ∀ x ∈ xs, Takes P now (part x) (ends x) (value x)) :
    Comes P now (all (xs.map part)) (latest now (xs.map ends)) (xs.map value) := by
  unfold Process.all
  by_cases hfew : (xs.map part).length ≤ fewLimit
  · rw [if_pos hfew]
    exact .few h
  · rw [if_neg hfew]
    have hget {τ : Type} (f : ι → τ) :
        xs.map f = List.ofFn fun i : Fin (xs.map part).length =>
          f (xs.get ⟨i, List.length_map part ▸ i.2⟩) :=
      List.ext_getElem (by simp) fun i hi _ => by simp
    rw [hget ends, hget value]
    refine .many (fun i => ?_) (.straight (.done _ _))
    simpa using h _ (List.getElem_mem _)

end All

end Failover.Drill.Process
