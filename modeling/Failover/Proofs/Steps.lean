import Failover.Proofs.Sections

-- What one step of a system can do: an operation goes on by a section, or
-- none does.

namespace Failover

/-- How many operations are in a phase. -/
def System.count (w : System) (p : Phase) : Nat := w.tasks.countP fun t => t.activity.phase = p

namespace Move

/-- The phase of the operation that moves, before it does. -/
def phase : Move → Phase
  | resume _ _ a _ => a.phase
  | _ => .plain

/-- The candidates that it has been asking. -/
def asked : Move → List (Attempt × Candidate)
  | resume _ _ a _ => a.shortlist
  | _ => []

/-- The candidate that it has just reached. -/
def chosen? : Move → Option (Attempt × Candidate)
  | resume _ _ a reply => a.chosen? reply
  | _ => none

theorem resumes {m : Move} {p : Phase} (h : m.phase = p) (hp : p ≠ .plain) :
    ∃ now number a reply, m = .resume now number a reply ∧ a.phase = p := by
  cases m with
  | resume now number a reply => exact ⟨now, number, a, reply, rfl, h⟩
  | start | drop | order => exact absurd h.symm hp

end Move

/-- An operation has gone on by one section. -/
structure Advanced (m : Move) (w w' : System) : Prop where
  settings : w'.coordinator.settings = w.coordinator.settings
  observers : w'.coordinator.observers = w.coordinator.observers
  here : m.phase ≠ .plain → 0 < w.count m.phase
  asked : ∀ x ∈ m.asked, ∃ t ∈ w.tasks, x ∈ t.activity.shortlist
  /-- The other operations wait as before. -/
  tasks : ∀ t ∈ w'.tasks, t ∈ w.tasks ∨
    ∀ x ∈ t.activity.shortlist, x ∈ m.asked ∨ x.1.failing ≠ some x.2.id
  turn : ∃ now e q, w.coordinator.log.Took e w'.coordinator.log ∧
    w'.history = w.history ++ e.toList ∧
    Turn now w.coordinator.settings.heartbeatTimeout m.chosen? w.cluster m.phase q e w'.cluster ∧
    ∀ r, r ≠ .plain →
      w'.count r + (if m.phase = r then 1 else 0) = w.count r + if q = r then 1 else 0

/-- No operation has gone on. -/
structure Rested (m : Move) (w w' : System) : Prop where
  settings : w'.coordinator.settings = w.coordinator.settings
  log : w'.coordinator.log = w.coordinator.log
  history : w'.history = w.history
  cluster : Ordered w.cluster w'.cluster
  tasks : w'.tasks.Sublist w.tasks
  kept : m.isDrop = false → w'.tasks = w.tasks

/-- An operation that is over is in no phase but the plain one. -/
theorem Progress.count_tasks (progress : Progress) (number : Nat) {r : Phase} (hr : r ≠ .plain) :
    (progress.tasks number).countP (fun t => t.activity.phase = r) =
      if progress.phase = r then 1 else 0 := by
  cases progress with
  | waits a => by_cases h : a.phase = r <;> simp [tasks, phase, h]
  | ends answer => simp [tasks, phase, Ne.symm hr]

/-- An operation is in flight while it waits. -/
theorem Progress.mem_tasks_iff {progress : Progress} {number : Nat} {t : Task} :
    t ∈ progress.tasks number ↔ t.number = number ∧ progress = .waits t.activity := by
  cases progress with
  | waits a =>
    simp only [Progress.tasks, List.mem_singleton, Progress.waits.injEq]
    constructor
    · rintro rfl
      exact ⟨rfl, rfl⟩
    · rintro ⟨rfl, rfl⟩
      rfl
  | ends answer => simp [Progress.tasks]

theorem Progress.mem_tasks {progress : Progress} {number : Nat} {t : Task}
    (h : t ∈ progress.tasks number) : progress = .waits t.activity :=
  (mem_tasks_iff.mp h).2

/-- The others are those that are left when one is taken out. -/
theorem Task.sublist_others {before after : List Task} {t : Task} :
    (before ++ after).Sublist (before ++ t :: after) :=
  (List.Sublist.refl before).append (List.sublist_cons_self t after)

variable {w w' : System} {m : Move}

/-- A section that runs in the place of some operations. -/
theorem turn_advanced {now : Moment} {number : Nat} {before after : List Task}
    {r : Coordinator × Progress} (hsub : (before ++ after).Sublist w.tasks)
    (hasked : ∀ x ∈ m.asked, ∃ t ∈ w.tasks, x ∈ t.activity.shortlist)
    (hcount : ∀ q, q ≠ .plain → w.count q =
      (before ++ after).countP (fun t => t.activity.phase = q) + if m.phase = q then 1 else 0)
    (h : Turned now m.asked m.chosen? m.phase w.coordinator r) :
    Advanced m w (w.turn number before after r) := by
  obtain ⟨e, htook, hturn⟩ := h.turn
  refine ⟨h.settings, h.observers, ?_, hasked, ?_, now, e, r.2.phase, htook, ?_, hturn, ?_⟩
  · intro hp
    have hown := hcount m.phase hp
    rw [if_pos rfl] at hown
    omega
  · intro t ht
    simp only [System.turn, List.mem_append] at ht
    rcases ht with (ht | ht) | ht
    · exact Or.inl (hsub.subset (List.mem_append_left _ ht))
    · have hshortlist := h.shortlist
      rw [Progress.mem_tasks ht] at hshortlist
      exact Or.inr hshortlist
    · exact Or.inl (hsub.subset (List.mem_append_right _ ht))
  · simp only [System.turn, htook.since]
  · intro q hq
    have hnew := r.2.count_tasks number hq
    have hold := hcount q hq
    simp only [List.countP_append] at hold
    simp only [System.count, System.turn, List.countP_append] at hold ⊢
    omega

theorem launch_advanced (w : System) (now : Moment) (op : Operation) :
    Advanced (.start now op) w (w.launch now op) := by
  have h : Advanced (.start now op) w
      (w.turn w.started w.tasks [] (Coordinator.firstSection now op w.coordinator)) :=
    turn_advanced (by simp) (by simp [Move.asked])
      (fun q hq => by simp [System.count, Move.phase, Ne.symm hq])
      (Coordinator.firstSection_turned now op w.coordinator)
  exact ⟨h.settings, h.observers, h.here, h.asked, h.tasks, h.turn⟩

theorem resume_advanced {number : Nat} {before after : List Task} {a : Activity}
    (h : w.tasks = before ++ ⟨number, a⟩ :: after) (now : Moment) (reply : a.Reply) :
    Advanced (.resume now number a reply) w
      (w.turn number before after (Coordinator.nextSection now a reply w.coordinator)) := by
  refine turn_advanced ?_ ?_ ?_ (Coordinator.nextSection_turned now a reply w.coordinator)
  · rw [h]
    exact Task.sublist_others
  · intro x hx
    exact ⟨⟨number, a⟩, by simp [h], hx⟩
  · intro q _
    change w.count q = _ + if a.phase = q then 1 else 0
    simp only [System.count, h, List.countP_append, List.countP_cons, decide_eq_true_eq]
    omega

theorem Step.advanced_or_rested (h : Step w m w') : Advanced m w w' ∨ Rested m w w' := by
  cases h with
  | start now op => exact Or.inl (launch_advanced w now op)
  | resume now before after number a reply h => exact Or.inl (resume_advanced h now reply)
  | drop before after t h =>
    refine Or.inr ⟨rfl, rfl, rfl, .nothing, ?_, nofun⟩
    rw [h]
    exact Task.sublist_others
  | order now o =>
    have ho := order_obeyed now w.coordinator o
    exact Or.inr ⟨ho.settings, ho.log, rfl, ho.cluster, .refl _, fun _ => rfl⟩

theorem Step.settings (h : Step w m w') : w'.coordinator.settings = w.coordinator.settings := by
  rcases h.advanced_or_rested with ha | hrest
  · exact ha.settings
  · exact hrest.settings

theorem History.valid {trace : List (System × Move)} (h : History trace w) :
    w.coordinator.settings.validate = .ok () := by
  refine h.holds (P := fun w => w.coordinator.settings.validate = .ok ()) (fun c hc => hc.valid) ?_
  intro w m w' hw hs
  rw [hs.settings]
  exact hw

/-- An event comes from an operation that has gone on. -/
theorem Step.turn {e : FailoverEvent} (h : Step w m w') (hhistory : w'.history = w.history ++ [e]) :
    Advanced m w w' ∧ ∃ now q, Turn now w.coordinator.settings.heartbeatTimeout m.chosen? w.cluster
      m.phase q (some e) w'.cluster := by
  rcases h.advanced_or_rested with ha | hrest
  · obtain ⟨now, e', q, _, hhistory', hturn, _⟩ := ha.turn
    have heq : e'.toList = [e] := List.append_cancel_left (hhistory'.symm.trans hhistory)
    rw [Option.toList_eq_singleton_iff.mp heq] at hturn
    exact ⟨ha, now, q, hturn⟩
  · simp [hrest.history] at hhistory

/-- What holds of each operation that starts, and still holds where it goes
on, holds of all operations in flight. -/
theorem Step.each_task {P : Activity → Prop} (h : Step w m w')
    (hfirst : ∀ now op a, (Coordinator.firstSection now op w.coordinator).2 = .waits a → P a)
    (hnext : ∀ now a reply a', P a →
      (Coordinator.nextSection now a reply w.coordinator).2 = .waits a' → P a')
    (hw : ∀ t ∈ w.tasks, P t.activity) : ∀ t ∈ w'.tasks, P t.activity := by
  intro t ht
  cases h with
  | start now op =>
    simp only [System.launch, System.turn, List.append_nil, List.mem_append] at ht
    rcases ht with hold | hnew
    · exact hw t hold
    · exact hfirst now op _ (Progress.mem_tasks hnew)
  | resume now before after number a reply htasks =>
    have hothers : ∀ t ∈ before ++ after, P t.activity := fun t ht => by
      refine hw t ?_
      rw [htasks]
      exact Task.sublist_others.subset ht
    simp only [System.turn, List.mem_append] at ht hothers
    rcases ht with (hbefore | hnew) | hafter
    · exact hothers t (Or.inl hbefore)
    · have hasked : P a := hw ⟨number, a⟩ (by simp [htasks])
      exact hnext now a reply _ hasked (Progress.mem_tasks hnew)
    · exact hothers t (Or.inr hafter)
  | drop before after t' htasks =>
    refine hw t ?_
    rw [htasks]
    exact Task.sublist_others.subset ht
  | order => exact hw t ht

/-- No two operations in flight have the same number. -/
structure System.Numbered (w : System) : Prop where
  distinct : (w.tasks.map (·.number)).Nodup
  started : ∀ t ∈ w.tasks, t.number < w.started

theorem Progress.numbers (progress : Progress) (number : Nat) :
    ((progress.tasks number).map (·.number)).Sublist [number] := by
  cases progress with
  | waits a => exact .refl _
  | ends answer => exact List.nil_sublist _

theorem Step.numbered (h : Step w m w') (hw : w.Numbered) : w'.Numbered := by
  obtain ⟨hdistinct, hstarted⟩ := hw
  -- A step puts an operation back where it stood, or in the end under a new number.
  have hkept : ∀ numbers : List Nat, numbers.Sublist (w.tasks.map (·.number)) →
      numbers.Nodup ∧ ∀ n ∈ numbers, n < w.started := by
    intro numbers hsub
    refine ⟨hdistinct.sublist hsub, fun n hn => ?_⟩
    obtain ⟨t, ht, rfl⟩ := List.mem_map.mp (hsub.subset hn)
    exact hstarted t ht
  cases h with
  | start now op =>
    have hnew := Progress.numbers (Coordinator.firstSection now op w.coordinator).2 w.started
    constructor
    · simp only [System.launch, System.turn, List.append_nil, List.map_append]
      refine List.nodup_append.mpr ⟨hdistinct, List.Pairwise.sublist hnew (List.pairwise_singleton _ _), ?_⟩
      intro n hn n' hn'
      have heq := List.mem_singleton.mp (hnew.subset hn')
      have hlt := (hkept _ (.refl _)).2 n hn
      omega
    · intro t ht
      simp only [System.launch, System.turn, List.append_nil, List.mem_append] at ht ⊢
      rcases ht with ht | ht
      · exact Nat.lt_succ_of_lt (hstarted t ht)
      · rw [List.mem_singleton.mp (hnew.subset (List.mem_map_of_mem ht))]
        exact Nat.lt_succ_self _
  | resume now before after number a reply htasks =>
    have hnew := Progress.numbers (Coordinator.nextSection now a reply w.coordinator).2 number
    have hsub : ((before ++ (Coordinator.nextSection now a reply w.coordinator).2.tasks number ++
        after).map (·.number)).Sublist (w.tasks.map (·.number)) := by
      rw [htasks]
      simp only [List.map_append, List.map_cons, List.append_assoc]
      exact (List.Sublist.refl _).append (hnew.append (.refl (after.map (·.number))))
    exact ⟨(hkept _ hsub).1, fun t ht => (hkept _ hsub).2 _ (List.mem_map_of_mem ht)⟩
  | drop before after t htasks =>
    have hsub : ((before ++ after).map (·.number)).Sublist (w.tasks.map (·.number)) := by
      rw [htasks]
      exact Task.sublist_others.map _
    exact ⟨(hkept _ hsub).1, fun t ht => (hkept _ hsub).2 _ (List.mem_map_of_mem ht)⟩
  | order => exact ⟨hdistinct, hstarted⟩

theorem Step.resumed {now : Moment} {number : Nat} {a : Activity} {reply : a.Reply}
    (h : Step w (.resume now number a reply) w') : ⟨number, a⟩ ∈ w.tasks := by
  cases h with
  | resume _ before after _ _ _ h => simp [h]

end Failover
