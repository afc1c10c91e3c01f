import Mathlib.Logic.Function.Basic
import Failover.Proofs.Abreast
import Failover.Proofs.Maintenance

-- In which order observers hear of the events. Each operation calls the hooks
-- of its own events, one after the other, and waits for no other operation. So
-- the hooks of two events can only get out of order when the later event is
-- recorded while another operation still tells of the earlier one.

namespace Failover

/-! ## The ledger of hooks -/

/-- A hook that was called, and the place of its event in the history. -/
structure Call where
  place : Nat
  hook : Hook

/-- The hooks that were called, in their order, and the place of the event that
each operation told of last. -/
@[ext] structure Ledger where
  calls : List Call
  place : Nat → Nat

/-- The section that runs in a move, and the operation that it belongs to. -/
def Move.section? (w : System) : Move → Option (Nat × (Coordinator × Progress))
  | start now op => some (w.started, Coordinator.firstSection now op w.coordinator)
  | resume now number a reply => some (number, Coordinator.nextSection now a reply w.coordinator)
  | drop _ | order _ _ => none

namespace Ledger

/-- A section that records an event goes on to tell of it. The first hook is
called at once, and each other one as soon as the one before is over. -/
def note (l : Ledger) (w : System) (m : Move) : Ledger :=
  match m.section? w with
  | none => l
  | some (number, r) =>
    let place :=
      match r.1.log.since w.coordinator.log.appended with
      | [] => l.place number
      | _ :: _ => w.history.length
    { calls := l.calls ++ (r.2.hooks.take 1).map fun hook => ⟨place, hook⟩
      place := Function.update l.place number place }

def of (trace : List (System × Move)) : Ledger :=
  trace.foldl (fun l s => l.note s.1 s.2) ⟨[], fun _ => 0⟩

theorem of_snoc (trace : List (System × Move)) (w : System) (m : Move) :
    of (trace ++ [(w, m)]) = (of trace).note w m := by
  unfold of
  rw [List.foldl_append]
  rfl

/-- The hooks of one event that were called. -/
def started (l : Ledger) (place : Nat) : List Hook :=
  (l.calls.filter (·.place = place)).map (·.hook)

end Ledger

/-- The hooks that an operation is still to call. The one that it waits for has
been called. -/
def Task.left (t : Task) : List Hook := t.activity.hooks.tail

/-- The later event was recorded while another operation still had hooks of the
earlier one to call. -/
inductive Overtakes (trace : List (System × Move)) (late early : Nat) : Prop
  | intro {before after : List (System × Move)} {w : System} {m : Move} {number : Nat}
      {r : Coordinator × Progress} {t : Task} (htrace : trace = before ++ (w, m) :: after)
      (hr : m.section? w = some (number, r)) (hlate : w.history.length = late)
      (hrecords : r.1.log.since w.coordinator.log.appended ≠ []) (ht : t ∈ w.tasks)
      (hother : t.number ≠ number) (hleft : t.left ≠ [])
      (hearly : (Ledger.of before).place t.number = early)

theorem Overtakes.snoc {trace : List (System × Move)} {late early : Nat}
    (h : Overtakes trace late early) (s : System × Move) : Overtakes (trace ++ [s]) late early := by
  obtain @⟨before, after, w, m, _, _, _, htrace, hr, hlate, hrecords, ht, hother, hleft, hearly⟩ := h
  have hlonger : trace ++ [s] = before ++ (w, m) :: (after ++ [s]) := by
    rw [htrace, List.append_assoc, List.cons_append]
  exact ⟨hlonger, hr, hlate, hrecords, ht, hother, hleft, hearly⟩

/-! ## What holds on the way -/

/-- The hooks as they have been called since a start. -/
structure Delivered (start : System) (trace : List (System × Move)) (w : System) : Prop where
  numbered : w.Numbered
  observers : w.coordinator.observers = start.coordinator.observers
  grown : start.history.length ≤ w.history.length
  called : ∀ x ∈ (Ledger.of trace).calls, x.place < w.history.length
  /-- An operation that tells of an event has called its hooks up to the one
  that it waits for. -/
  telling : ∀ t ∈ w.tasks, t.activity.hooks ≠ [] → ∃ e,
    start.history.length ≤ (Ledger.of trace).place t.number ∧
    w.history[(Ledger.of trace).place t.number]? = some e ∧
    (∃ x ∈ (Ledger.of trace).calls, x.place = (Ledger.of trace).place t.number) ∧
    (Ledger.of trace).started ((Ledger.of trace).place t.number) ++ t.left =
      e.hooks start.coordinator.observers
  /-- No two operations tell of one event. -/
  apart : ∀ t ∈ w.tasks, ∀ t' ∈ w.tasks, t.activity.hooks ≠ [] → t'.activity.hooks ≠ [] →
    (Ledger.of trace).place t.number = (Ledger.of trace).place t'.number → t.number = t'.number
  orderly : ∀ p e, start.history.length ≤ p → w.history[p]? = some e →
    (Ledger.of trace).started p <+: e.hooks start.coordinator.observers
  complete : Undropped trace → ∀ p e, start.history.length ≤ p → w.history[p]? = some e →
    (Ledger.of trace).started p = e.hooks start.coordinator.observers ∨
      ∃ t ∈ w.tasks, t.left ≠ [] ∧ (Ledger.of trace).place t.number = p

/-- A hook of an earlier event comes after one of a later event only where the
later event has overtaken the earlier one. -/
structure Queued (trace : List (System × Move)) (w : System) : Prop where
  order : (Ledger.of trace).calls.Pairwise fun x y =>
    y.place < x.place → Overtakes trace x.place y.place
  ahead : ∀ x ∈ (Ledger.of trace).calls, ∀ t ∈ w.tasks, t.left ≠ [] →
    (Ledger.of trace).place t.number < x.place →
      Overtakes trace x.place ((Ledger.of trace).place t.number)

variable {start w w' : System} {trace : List (System × Move)} {m : Move}

/-- A section of one operation has run, and the others wait as before. -/
structure Sectioned (w : System) (number : Nat) (r : Coordinator × Progress) (w' : System) : Prop where
  coordinator : w'.coordinator = r.1
  history : w'.history = w.history ++ r.1.log.since w.coordinator.log.appended
  tasks : ∀ t, t ∈ w'.tasks ↔
    (t ∈ w.tasks ∧ t.number ≠ number) ∨ (t.number = number ∧ r.2 = .waits t.activity)

/-- What a section tells the observers: the next hook of the event that it has
been telling of, or what it records itself. -/
inductive Speaks (w : System) (number : Nat) (r : Coordinator × Progress) : Prop
  | on {hook hook' : Hook} {rest : List Hook} {failures failures' : Nat} {next : Continuation}
      (ht : ⟨number, .announcing hook (hook' :: rest) failures next⟩ ∈ w.tasks)
      (hr : r = (w.coordinator, .waits (.announcing hook' rest failures' next)))
  | anew (e : Option FailoverEvent) (ht : ∀ t ∈ w.tasks, t.number = number → t.left = [])
      (observers : r.1.observers = w.coordinator.observers)
      (events : r.1.log.since w.coordinator.log.appended = e.toList)
      (hooks : r.2.hooks = e.toList.flatMap (·.hooks w.coordinator.observers))

/-! ## Sections -/

theorem System.Numbered.eq_of_number (h : w.Numbered) {t t' : Task} (ht : t ∈ w.tasks)
    (ht' : t' ∈ w.tasks) (hn : t.number = t'.number) : t = t' :=
  List.inj_on_of_nodup_map h.distinct ht ht' hn

theorem launch_sectioned (hw : w.Numbered) (now : Moment) (op : Operation) :
    Sectioned w w.started (Coordinator.firstSection now op w.coordinator) (w.launch now op) := by
  refine ⟨rfl, rfl, fun t => ?_⟩
  simp only [System.launch, System.turn, List.append_nil, List.mem_append, Progress.mem_tasks_iff]
  constructor
  · rintro (ht | ht)
    · exact Or.inl ⟨ht, Nat.ne_of_lt (hw.started t ht)⟩
    · exact Or.inr ht
  · rintro (⟨ht, _⟩ | ht)
    · exact Or.inl ht
    · exact Or.inr ht

theorem turn_sectioned (hw : w.Numbered) {before after : List Task} {number : Nat} {a : Activity}
    (h : w.tasks = before ++ ⟨number, a⟩ :: after) (r : Coordinator × Progress) :
    Sectioned w number r (w.turn number before after r) := by
  refine ⟨rfl, rfl, fun t => ?_⟩
  have hdistinct := hw.distinct
  rw [h, List.map_append, List.map_cons, List.nodup_middle, List.nodup_cons] at hdistinct
  have hothers : ∀ t ∈ before ++ after, t.number ≠ number := by
    intro t ht heq
    refine hdistinct.1 ?_
    rw [← List.map_append]
    exact List.mem_map.mpr ⟨t, ht, heq⟩
  simp only [System.turn, h, List.mem_append, List.mem_cons, Progress.mem_tasks_iff] at hothers ⊢
  constructor
  · rintro ((ht | ht) | ht)
    · exact Or.inl ⟨Or.inl ht, hothers t (Or.inl ht)⟩
    · exact Or.inr ht
    · exact Or.inl ⟨Or.inr (Or.inr ht), hothers t (Or.inr ht)⟩
  · rintro (⟨ht | rfl | ht, hne⟩ | ht)
    · exact Or.inl (Or.inl ht)
    · exact absurd rfl hne
    · exact Or.inr ht
    · exact Or.inl (Or.inr ht)

theorem speaks_of_calls {number : Nat} {r : Coordinator × Progress} {k : Coordinator}
    (ht : ∀ t ∈ w.tasks, t.number = number → t.left = [])
    (hobservers : k.observers = w.coordinator.observers)
    (happended : k.log.appended = w.coordinator.log.appended) (h : ∃ e, k.Calls e r) :
    Speaks w number r := by
  obtain ⟨e, h⟩ := h
  refine .anew e ht (h.observers.trans hobservers) ?_ ?_
  · rw [← happended, h.events]
  · rw [← hobservers, h.hooks]

theorem launch_speaks (hw : w.Numbered) (now : Moment) (op : Operation) :
    Speaks w w.started (Coordinator.firstSection now op w.coordinator) := by
  refine speaks_of_calls (fun t ht hn => ?_) rfl rfl (Coordinator.firstSection_calls now op _)
  exact absurd hn (Nat.ne_of_lt (hw.started t ht))

theorem resume_speaks (hw : w.Numbered) {number : Nat} {a : Activity} (h : ⟨number, a⟩ ∈ w.tasks)
    (now : Moment) (reply : a.Reply) :
    Speaks w number (Coordinator.nextSection now a reply w.coordinator) := by
  have hown : ∀ t ∈ w.tasks, t.number = number → t = ⟨number, a⟩ :=
    fun t ht hn => hw.eq_of_number ht h hn
  by_cases ha : a.hooks = []
  · refine speaks_of_calls (fun t ht hn => ?_) rfl rfl (Coordinator.nextSection_calls ha now reply _)
    rw [hown t ht hn, Task.left, ha]
    rfl
  · cases a with
    | pinging | probing | connecting | ready => exact absurd rfl ha
    | announcing hook rest failures next =>
      cases rest with
      | cons hook' rest => exact .on h rfl
      | nil =>
        obtain ⟨counted, hlast⟩ : ∃ counted,
            Coordinator.nextSection now (.announcing hook [] failures next) reply w.coordinator =
              Coordinator.proceed now next (w.coordinator.countHookFailures counted) := ⟨_, rfl⟩
        have hobservers := (Coordinator.alike_countHookFailures w.coordinator counted).1.observers
        have happended := (w.coordinator.akin_countHookFailures counted).log.appended
        rw [hlast]
        refine speaks_of_calls (fun t ht hn => ?_) hobservers happended
          (Coordinator.proceed_calls now next _)
        rw [hown t ht hn]
        rfl

/-! ## The ledger, step by step -/

namespace Ledger

variable {l : Ledger} {number : Nat} {r : Coordinator × Progress}

theorem note_none (hm : m.section? w = none) : l.note w m = l := by
  unfold note
  rw [hm]

theorem note_silent (hm : m.section? w = some (number, r))
    (hevents : r.1.log.since w.coordinator.log.appended = []) :
    (l.note w m).calls = l.calls ++ (r.2.hooks.take 1).map (Call.mk (l.place number)) ∧
      (l.note w m).place = l.place := by
  unfold note
  rw [hm]
  simp only [hevents, Function.update_eq_self, and_self]

theorem note_recorded (hm : m.section? w = some (number, r)) {e : FailoverEvent}
    (hevents : r.1.log.since w.coordinator.log.appended = [e]) :
    (l.note w m).calls = l.calls ++ (r.2.hooks.take 1).map (Call.mk w.history.length) ∧
      (l.note w m).place = Function.update l.place number w.history.length := by
  unfold note
  rw [hm]
  simp only [hevents, and_self]

theorem started_of_calls {l' : Ledger} {place : Nat} {hooks : List Hook}
    (h : l'.calls = l.calls ++ hooks.map (Call.mk place)) (p : Nat) :
    l'.started p = l.started p ++ if p = place then hooks else [] := by
  unfold started
  rw [h, List.filter_append, List.map_append]
  congr 1
  by_cases hp : p = place
  · simp [hp, List.filter_map, Function.comp_def]
  · simp [hp, Ne.symm hp]

end Ledger

theorem Undropped.init {s : System × Move} (h : Undropped (trace ++ [s])) : Undropped trace :=
  fun s' hs => h s' (List.mem_append_left _ hs)

/-- A section tells of the event in this place: of one that it has recorded, or
of the one before. Its hooks are those of the event that are still to be called,
and nobody else tells of the event. -/
structure Ledger.Tells (l l' : Ledger) (start w w' : System) (number : Nat)
    (r : Coordinator × Progress) (q : Nat) (e : FailoverEvent) : Prop where
  calls : l'.calls = l.calls ++ (r.2.hooks.take 1).map (Call.mk q)
  place : l'.place = Function.update l.place number q
  event : w'.history[q]? = some e
  since : start.history.length ≤ q
  past : ∀ p, p ≠ q → w'.history[p]? = w.history[p]?
  hooks : l.started q ++ r.2.hooks = e.hooks start.coordinator.observers
  others : ∀ t ∈ w.tasks, t.number ≠ number → t.activity.hooks ≠ [] → l.place t.number ≠ q
  own : ∀ t ∈ w.tasks, t.number = number → t.left ≠ [] → l.place t.number = q

namespace Ledger.Tells

variable {l l' : Ledger} {number q : Nat} {r : Coordinator × Progress} {e : FailoverEvent}

theorem started (h : l.Tells l' start w w' number r q e) :
    l'.started q ++ r.2.hooks.tail = e.hooks start.coordinator.observers := by
  rw [started_of_calls h.calls, if_pos rfl, List.append_assoc, ← List.drop_one,
    List.take_append_drop, h.hooks]

theorem started_ne (h : l.Tells l' start w w' number r q e) {p : Nat} (hp : p ≠ q) :
    l'.started p = l.started p := by
  rw [started_of_calls h.calls, if_neg hp, List.append_nil]

theorem place_own (h : l.Tells l' start w w' number r q e) {n : Nat} (hn : n = number) :
    l'.place n = q := by
  rw [h.place, hn, Function.update_self]

theorem place_other (h : l.Tells l' start w w' number r q e) {n : Nat} (hn : n ≠ number) :
    l'.place n = l.place n := by
  rw [h.place, Function.update_of_ne hn]

theorem called (h : l.Tells l' start w w' number r q e) (hhooks : r.2.hooks ≠ []) :
    ∃ x ∈ l'.calls, x.place = q := by
  obtain ⟨hook, rest, hcons⟩ := List.exists_cons_of_ne_nil hhooks
  refine ⟨⟨q, hook⟩, ?_, rfl⟩
  rw [h.calls, hcons]
  exact List.mem_append_right _ (List.mem_singleton_self _)

end Ledger.Tells

theorem Progress.hooks_of_waits {progress : Progress} {a : Activity} (h : progress = .waits a) :
    a.hooks = progress.hooks := by
  rw [h]
  rfl

theorem Delivered.tell (h : Delivered start trace w) (hw' : w'.Numbered) {number q : Nat}
    {r : Coordinator × Progress} {e : FailoverEvent} (hs : Sectioned w number r w')
    (hobservers : r.1.observers = w.coordinator.observers)
    (ht : (Ledger.of trace).Tells (Ledger.of (trace ++ [(w, m)])) start w w' number r q e) :
    Delivered start (trace ++ [(w, m)]) w' := by
  have hgrown : w.history.length ≤ w'.history.length := by
    rw [hs.history, List.length_append]
    omega
  constructor
  case numbered => exact hw'
  case observers => rw [hs.coordinator, hobservers, h.observers]
  case grown => exact Nat.le_trans h.grown hgrown
  case called =>
    intro x hx
    rw [ht.calls, List.mem_append] at hx
    rcases hx with hx | hx
    · exact Nat.lt_of_lt_of_le (h.called x hx) hgrown
    · obtain ⟨hook, _, rfl⟩ := List.mem_map.mp hx
      exact (List.getElem?_eq_some_iff.mp ht.event).1
  case telling =>
    intro t ht' hhooks
    rcases (hs.tasks t).mp ht' with ⟨hold, hne⟩ | ⟨hn, hwait⟩
    · have hq := ht.others t hold hne hhooks
      obtain ⟨e', hp, he, ⟨x, hx, hxp⟩, hstarted⟩ := h.telling t hold hhooks
      rw [ht.place_other hne, ht.started_ne hq, ht.past _ hq, ht.calls]
      exact ⟨e', hp, he, ⟨x, List.mem_append_left _ hx, hxp⟩, hstarted⟩
    · rw [ht.place_own hn, Task.left, Progress.hooks_of_waits hwait]
      rw [Progress.hooks_of_waits hwait] at hhooks
      exact ⟨e, ht.since, ht.event, ht.called hhooks, ht.started⟩
  case apart =>
    intro t ht₁ t' ht₂ hhooks hhooks' heq
    rcases (hs.tasks t).mp ht₁ with ⟨hold, hne⟩ | ⟨hn, hwait⟩ <;>
      rcases (hs.tasks t').mp ht₂ with ⟨hold', hne'⟩ | ⟨hn', hwait'⟩
    · rw [ht.place_other hne, ht.place_other hne'] at heq
      exact h.apart t hold t' hold' hhooks hhooks' heq
    · rw [ht.place_other hne, ht.place_own hn'] at heq
      exact absurd heq (ht.others t hold hne hhooks)
    · rw [ht.place_own hn, ht.place_other hne'] at heq
      exact absurd heq.symm (ht.others t' hold' hne' hhooks')
    · exact hn.trans hn'.symm
  case orderly =>
    intro p e' hp he'
    by_cases hpq : p = q
    · subst hpq
      cases ht.event.symm.trans he'
      exact ⟨_, ht.started⟩
    · rw [ht.started_ne hpq]
      exact h.orderly p e' hp (ht.past p hpq ▸ he')
  case complete =>
    intro hd p e' hp he'
    by_cases hpq : p = q
    · subst hpq
      cases ht.event.symm.trans he'
      by_cases hleft : r.2.hooks.tail = []
      · exact Or.inl (by rw [← ht.started, hleft, List.append_nil])
      · refine Or.inr ?_
        obtain ⟨a, hwait⟩ : ∃ a, r.2 = .waits a := by
          cases hr : r.2 with
          | waits a => exact ⟨a, rfl⟩
          | ends answer => rw [hr] at hleft; exact absurd rfl hleft
        refine ⟨⟨number, a⟩, (hs.tasks _).mpr (Or.inr ⟨rfl, hwait⟩), ?_, ht.place_own rfl⟩
        rw [hwait] at hleft
        exact hleft
    · rw [ht.started_ne hpq]
      rcases h.complete hd.init p e' hp (ht.past p hpq ▸ he') with hall | ⟨t, hold, hleft, htp⟩
      · exact Or.inl hall
      · have hne : t.number ≠ number := fun hn => hpq (htp.symm.trans (ht.own t hold hn hleft))
        refine Or.inr ⟨t, (hs.tasks t).mpr (Or.inl ⟨hold, hne⟩), hleft, ?_⟩
        rw [ht.place_other hne, htp]

theorem Queued.tell (h : Queued trace w) {number q : Nat} {r : Coordinator × Progress}
    {e : FailoverEvent} (hs : Sectioned w number r w')
    (ht : (Ledger.of trace).Tells (Ledger.of (trace ++ [(w, m)])) start w w' number r q e)
    (hbehind : ∀ x ∈ (Ledger.of trace).calls, q < x.place → r.2.hooks ≠ [] →
      Overtakes (trace ++ [(w, m)]) x.place q)
    (hbefore : ∀ t ∈ w.tasks, t.number ≠ number → t.left ≠ [] →
      (Ledger.of trace).place t.number < q →
        Overtakes (trace ++ [(w, m)]) q ((Ledger.of trace).place t.number)) :
    Queued (trace ++ [(w, m)]) w' := by
  have hnew : ∀ x ∈ (r.2.hooks.take 1).map (Call.mk q), x.place = q ∧ r.2.hooks ≠ [] := by
    intro x hx
    obtain ⟨hook, hhook, rfl⟩ := List.mem_map.mp hx
    refine ⟨rfl, fun hnil => ?_⟩
    rw [hnil] at hhook
    cases hhook
  constructor
  case order =>
    rw [ht.calls]
    refine List.pairwise_append.mpr ⟨h.order.imp fun hxy hlt => (hxy hlt).snoc _, ?_, ?_⟩
    · generalize r.2.hooks = hooks
      cases hooks with
      | nil => exact .nil
      | cons hook rest => exact List.pairwise_singleton _ _
    · intro x hx y hy hlt
      obtain ⟨hyq, hhooks⟩ := hnew y hy
      rw [hyq] at hlt ⊢
      exact hbehind x hx hlt hhooks
  case ahead =>
    intro x hx t ht' hleft hlt
    rw [ht.calls, List.mem_append] at hx
    rcases (hs.tasks t).mp ht' with ⟨hold, hne⟩ | ⟨hn, hwait⟩
    · rw [ht.place_other hne] at hlt ⊢
      rcases hx with hx | hx
      · exact (h.ahead x hx t hold hleft hlt).snoc _
      · rw [(hnew x hx).1] at hlt ⊢
        exact hbefore t hold hne hleft hlt
    · rw [ht.place_own hn] at hlt ⊢
      rcases hx with hx | hx
      · refine hbehind x hx hlt fun hnil => hleft ?_
        rw [Task.left, Progress.hooks_of_waits hwait, hnil]
        rfl
      · rw [(hnew x hx).1] at hlt
        exact absurd hlt (Nat.lt_irrefl q)

/-- Nobody tells of anything, or an operation is dropped. -/
theorem Delivered.rest (h : Delivered start trace w) (hw' : w'.Numbered)
    (hobservers : w'.coordinator.observers = w.coordinator.observers)
    (hhistory : w'.history = w.history) (hl : Ledger.of (trace ++ [(w, m)]) = Ledger.of trace)
    (hold : ∀ t ∈ w'.tasks, t.activity.hooks ≠ [] → t ∈ w.tasks)
    (hkept : m.isDrop = false → ∀ t ∈ w.tasks, t.left ≠ [] → t ∈ w'.tasks) :
    Delivered start (trace ++ [(w, m)]) w' := by
  constructor
  case numbered => exact hw'
  case observers => exact hobservers.trans h.observers
  all_goals simp only [hl, hhistory]
  case grown => exact h.grown
  case called => exact h.called
  case telling => exact fun t ht hhooks => h.telling t (hold t ht hhooks) hhooks
  case apart =>
    exact fun t ht t' ht' hhooks hhooks' =>
      h.apart t (hold t ht hhooks) t' (hold t' ht' hhooks') hhooks hhooks'
  case orderly => exact h.orderly
  case complete =>
    intro hd p e hp he
    rcases h.complete hd.init p e hp he with hall | ⟨t, ht, hleft, htp⟩
    · exact Or.inl hall
    · have hm : m.isDrop = false := hd (w, m) (by simp)
      exact Or.inr ⟨t, hkept hm t ht hleft, hleft, htp⟩

theorem Task.hooks_of_left {t : Task} (h : t.left ≠ []) : t.activity.hooks ≠ [] := by
  intro hnil
  rw [Task.left, hnil] at h
  exact h rfl

theorem Queued.rest (h : Queued trace w) (hl : Ledger.of (trace ++ [(w, m)]) = Ledger.of trace)
    (hold : ∀ t ∈ w'.tasks, t.activity.hooks ≠ [] → t ∈ w.tasks) : Queued (trace ++ [(w, m)]) w' := by
  constructor
  · rw [hl]
    exact h.order.imp fun hxy hlt => (hxy hlt).snoc _
  · rw [hl]
    exact fun x hx t ht hleft hlt =>
      (h.ahead x hx t (hold t ht (Task.hooks_of_left hleft)) hleft hlt).snoc _

/-- An operation waits for a hook that has been called. Whoever is overtaken by
one of its hooks is overtaken by all. -/
theorem Delivered.overtaken (h : Delivered start trace w) (hq : Queued trace w) {t t' : Task}
    (ht : t ∈ w.tasks) (ht' : t' ∈ w.tasks) (hhooks : t.activity.hooks ≠ []) (hleft : t'.left ≠ [])
    (hlt : (Ledger.of trace).place t'.number < (Ledger.of trace).place t.number) :
    Overtakes trace ((Ledger.of trace).place t.number) ((Ledger.of trace).place t'.number) := by
  obtain ⟨_, _, _, ⟨x, hx, hxp⟩, _⟩ := h.telling t ht hhooks
  rw [← hxp] at hlt ⊢
  exact hq.ahead x hx t' ht' hleft hlt

theorem Sectioned.delivered {number : Nat} {r : Coordinator × Progress} (hs : Sectioned w number r w')
    (hspeaks : Speaks w number r) (hm : m.section? w = some (number, r))
    (hw' : w'.Numbered) (h : Delivered start trace w) (hq : Queued trace w) :
    Delivered start (trace ++ [(w, m)]) w' ∧ Queued (trace ++ [(w, m)]) w' := by
  cases hspeaks with
  | @on hook hook' rest failures failures' next ht hr =>
    have hevents : r.1.log.since w.coordinator.log.appended = [] := by
      rw [hr]
      exact w.coordinator.log.since_appended
    have hhistory : w'.history = w.history := by rw [hs.history, hevents, List.append_nil]
    obtain ⟨hcalls, hplace⟩ := Ledger.note_silent (l := Ledger.of trace) hm hevents
    rw [← Ledger.of_snoc] at hcalls hplace
    obtain ⟨e, hp, he, _, hstarted⟩ := h.telling _ ht nofun
    have htells : (Ledger.of trace).Tells (Ledger.of (trace ++ [(w, m)])) start w w' number r
        ((Ledger.of trace).place number) e := by
      refine ⟨hcalls, ?_, hhistory ▸ he, hp, fun p _ => by rw [hhistory], ?_, ?_, ?_⟩
      · rw [hplace, Function.update_eq_self]
      · rw [hr]
        exact hstarted
      · exact fun t hold hne hhooks heq => hne (h.apart t hold _ ht hhooks nofun heq)
      · exact fun t _ hn _ => by rw [hn]
    refine ⟨h.tell hw' hs (by rw [hr]) htells, hq.tell hs htells ?_ ?_⟩
    · exact fun x hx hlt _ => (hq.ahead x hx _ ht nofun hlt).snoc _
    · exact fun t hold _ hleft hlt => (h.overtaken hq ht hold nofun hleft hlt).snoc _
  | anew e hown hobservers hevents hhooks =>
    have hold : ∀ t ∈ w'.tasks, r.2.hooks = [] → t.activity.hooks ≠ [] → t ∈ w.tasks := by
      intro t ht' hnil hhooks
      rcases (hs.tasks t).mp ht' with ⟨hold, _⟩ | ⟨_, hwait⟩
      · exact hold
      · exact absurd hnil (Progress.hooks_of_waits hwait ▸ hhooks)
    have hkept : ∀ t ∈ w.tasks, t.left ≠ [] → t.number ≠ number :=
      fun t ht hleft hn => hleft (hown t ht hn)
    cases e with
    | none =>
      have hsilent : r.2.hooks = [] := hhooks
      obtain ⟨hcalls, hplace⟩ := Ledger.note_silent (l := Ledger.of trace) hm hevents
      have hl : Ledger.of (trace ++ [(w, m)]) = Ledger.of trace := by
        rw [Ledger.of_snoc]
        refine Ledger.ext ?_ hplace
        rw [hcalls, hsilent]
        exact List.append_nil _
      refine ⟨h.rest hw' ?_ ?_ hl (fun t ht => hold t ht hsilent) fun _ t ht hleft => ?_,
        hq.rest hl fun t ht => hold t ht hsilent⟩
      · rw [hs.coordinator, hobservers]
      · rw [hs.history, hevents]
        exact List.append_nil _
      · exact (hs.tasks t).mpr (Or.inl ⟨ht, hkept t ht hleft⟩)
    | some e =>
      obtain ⟨hcalls, hplace⟩ := Ledger.note_recorded (l := Ledger.of trace) hm hevents
      rw [← Ledger.of_snoc] at hcalls hplace
      have hhistory : w'.history = w.history ++ [e] := by rw [hs.history, hevents]; rfl
      have htold : ∀ t ∈ w.tasks, t.activity.hooks ≠ [] →
          (Ledger.of trace).place t.number < w.history.length := by
        intro t ht hhooks
        obtain ⟨_, _, he, _⟩ := h.telling t ht hhooks
        exact (List.getElem?_eq_some_iff.mp he).1
      have hnone : (Ledger.of trace).started w.history.length = [] := by
        rw [Ledger.started, List.filter_eq_nil_iff.mpr, List.map_nil]
        intro x hx
        simpa using Nat.ne_of_lt (h.called x hx)
      have htells : (Ledger.of trace).Tells (Ledger.of (trace ++ [(w, m)])) start w w' number r
          w.history.length e := by
        refine ⟨hcalls, hplace, by simp [hhistory], h.grown, ?_, ?_, ?_, ?_⟩
        · intro p hp
          rw [hhistory]
          rcases Nat.lt_or_gt_of_ne hp with hlt | hgt
          · exact List.getElem?_append_left hlt
          · rw [List.getElem?_eq_none (by simp; omega), List.getElem?_eq_none (by omega)]
        · rw [hnone, hhooks, h.observers]
          simp
        · exact fun t ht _ hhooks => Nat.ne_of_lt (htold t ht hhooks)
        · exact fun t ht hn hleft => absurd hn (hkept t ht hleft)
      refine ⟨h.tell hw' hs hobservers htells, hq.tell hs htells ?_ ?_⟩
      · intro x hx hlt _
        exact absurd (h.called x hx) (by omega)
      · intro t ht hne hleft _
        have hrecords : r.1.log.since w.coordinator.log.appended ≠ [] := by
          rw [hevents]
          exact List.cons_ne_nil e []
        exact ⟨rfl, hm, rfl, hrecords, ht, hne, hleft, rfl⟩

/-- No observer joins. -/
def Move.observes : Move → Bool
  | order _ .observe => true
  | _ => false

theorem Order.observers_apply (now : Moment) (c : Coordinator) {o : Order} (ho : o ≠ .observe) :
    (o.apply now c).observers = c.observers := by
  cases o with
  | observe => exact absurd rfl ho
  | join spec =>
    simp only [Order.apply, Coordinator.addNode]
    split <;> rfl
  | register n =>
    simp only [Order.apply]
    cases c.cluster.add n <;> rfl
  | unregister id =>
    simp only [Order.apply]
    cases c.cluster.remove id <;> rfl
  | maintenance id enabled =>
    simp only [Order.apply, Coordinator.setMaintenance]
    split <;> rfl

theorem Step.delivered (hs : Step w m w') (hm : m.observes = false) (h : Delivered start trace w)
    (hq : Queued trace w) :
    Delivered start (trace ++ [(w, m)]) w' ∧ Queued (trace ++ [(w, m)]) w' := by
  have hw' := hs.numbered h.numbered
  cases hs with
  | start now op =>
    exact (launch_sectioned h.numbered now op).delivered (launch_speaks h.numbered now op) rfl
      hw' h hq
  | resume now before after number a reply htasks =>
    have hmem : ⟨number, a⟩ ∈ w.tasks := by simp [htasks]
    exact (turn_sectioned h.numbered htasks _).delivered (resume_speaks h.numbered hmem now reply) rfl
      hw' h hq
  | drop before after t htasks =>
    have hl : Ledger.of (trace ++ [(w, .drop t.number)]) = Ledger.of trace := by
      rw [Ledger.of_snoc, Ledger.note_none rfl]
    have hold : ∀ t' ∈ before ++ after, t'.activity.hooks ≠ [] → t' ∈ w.tasks := by
      intro t' ht' _
      rw [htasks]
      exact Task.sublist_others.subset ht'
    exact ⟨h.rest hw' rfl rfl hl hold nofun, hq.rest hl hold⟩
  | order now o =>
    have hl : Ledger.of (trace ++ [(w, .order now o)]) = Ledger.of trace := by
      rw [Ledger.of_snoc, Ledger.note_none rfl]
    have ho : o ≠ .observe := by
      rintro rfl
      cases hm
    exact ⟨h.rest hw' (Order.observers_apply now _ ho) rfl hl (fun t ht _ => ht) fun _ t ht _ => ht,
      hq.rest hl fun t ht _ => ht⟩

theorem Run.delivered (hrun : Run start trace w) (hidle : start.tasks = [])
    (hobservers : ∀ s ∈ trace, s.2.observes = false) : Delivered start trace w ∧ Queued trace w := by
  induction hrun with
  | nil =>
    have hcalls : ∀ x, x ∉ (Ledger.of []).calls := fun x => List.not_mem_nil
    have htasks : ∀ t, t ∉ start.tasks := by
      rw [hidle]
      exact fun t => List.not_mem_nil
    constructor
    · constructor
      case numbered => exact ⟨by simp [hidle], fun t ht => absurd ht (htasks t)⟩
      case observers => rfl
      case grown => exact Nat.le_refl _
      case called => exact fun x hx => absurd hx (hcalls x)
      case telling => exact fun t ht => absurd ht (htasks t)
      case apart => exact fun t ht => absurd ht (htasks t)
      case orderly => exact fun p e _ _ => List.nil_prefix
      case complete =>
        intro _ p e hp he
        exact absurd (List.getElem?_eq_some_iff.mp he).1 (by omega)
    · exact ⟨.nil, fun x hx => absurd hx (hcalls x)⟩
  | @snoc trace w w' m _ hs ih =>
    obtain ⟨h, hq⟩ := ih fun s hmem => hobservers s (List.mem_append_left _ hmem)
    exact hs.delivered (hobservers (w, m) (by simp)) h hq

/-- The observers were registered before the start. Then the hooks of each event
are called one observer after the other, in the order of their registration, and
each observer gets its notices in order. When a hook is called, every hook of
every earlier event has been called, unless the event was recorded while another
operation still had hooks of the earlier one to call; and only then can a hook
of an earlier event come later. -/
theorem hooks_follow_the_events_unless_one_overtakes (hrun : Run start trace w)
    (hidle : start.tasks = []) (hobservers : ∀ s ∈ trace, s.2.observes = false) :
    (∀ p e, start.history.length ≤ p → w.history[p]? = some e →
      (Ledger.of trace).started p <+: e.hooks start.coordinator.observers) ∧
    ((Ledger.of trace).calls.Pairwise fun x y =>
      x.place ≤ y.place ∨ Overtakes trace x.place y.place) ∧
    (Undropped trace → ∀ x ∈ (Ledger.of trace).calls, ∀ p e, start.history.length ≤ p →
      p < x.place → w.history[p]? = some e →
      (Ledger.of trace).started p = e.hooks start.coordinator.observers ∨
        Overtakes trace x.place p) := by
  obtain ⟨h, hq⟩ := hrun.delivered hidle hobservers
  refine ⟨h.orderly, ?_, ?_⟩
  · refine hq.order.imp fun {x y} hxy => ?_
    by_cases hle : x.place ≤ y.place
    · exact Or.inl hle
    · exact Or.inr (hxy (by omega))
  · intro hd x hx p e hp hlt he
    rcases h.complete hd p e hp he with hall | ⟨t, ht, hleft, rfl⟩
    · exact Or.inl hall
    · exact Or.inr (hq.ahead x hx t ht hleft hlt)

/-- Two members and two observers. -/
def watched : System :=
  System.play calm (.initial .standard)
    (pair ++ [.order ⟨0, false⟩ .observe, .order ⟨0, false⟩ .observe])

/-- A failover is complete, and the first observer is told so. -/
def failedOver : List Cue :=
  .start ⟨0, false⟩ (.trigger "drill") :: List.replicate 5 (.resume ⟨0, false⟩ 0)

/-- Before the failover has told the others, an operator makes the old primary
the primary again. -/
def promotedSoon : List Cue :=
  failedOver ++ .start ⟨0, false⟩ (.promote "a") ::
    (List.replicate 4 (.resume ⟨0, false⟩ 1) ++ List.replicate 4 (.resume ⟨0, false⟩ 0))

theorem hooks_follow_the_events_unless_one_overtakes_in_a_drill :
    Run watched (watched.moves calm failedOver) (watched.play calm failedOver) ∧
      watched.tasks = [] ∧ (∀ s ∈ watched.moves calm failedOver, s.2.observes = false) ∧
      ((Ledger.of (watched.moves calm failedOver)).calls.map (·.place) = [0, 0, 0, 0, 1]) ∧
      ((Ledger.of (watched.moves calm failedOver)).calls.Pairwise fun x y =>
        x.place ≤ y.place ∨ Overtakes (watched.moves calm failedOver) x.place y.place) := by
  have hrun := (System.play_run calm watched failedOver).1
  have hidle : watched.tasks = [] := rfl
  have hobservers : ∀ s ∈ watched.moves calm failedOver, s.2.observes = false := by decide
  exact ⟨hrun, hidle, hobservers, by decide,
    (hooks_follow_the_events_unless_one_overtakes hrun hidle hobservers).2.1⟩

/-- The second observer hears of the later promotion first, and of the earlier
one last. -/
theorem a_later_promotion_is_told_first :
    Run watched (watched.moves calm promotedSoon) (watched.play calm promotedSoon) ∧
      watched.tasks = [] ∧ Undropped (watched.moves calm promotedSoon) ∧
      (∀ s ∈ watched.moves calm promotedSoon, s.2.observes = false) ∧
      (watched.play calm promotedSoon).history.map (·.type) =
        [.failoverInitiated, .failoverCompleted, .manualPromotion] ∧
      (watched.play calm promotedSoon).cluster.primary = some "a" ∧
      (((Ledger.of (watched.moves calm promotedSoon)).calls.filter (·.hook.observer = 1)).map
        (·.place) = [0, 0, 2, 2, 1, 1]) := by
  obtain ⟨hrun, hd⟩ := System.play_run calm watched promotedSoon
  exact ⟨hrun, rfl, hd, by decide, by decide, by decide, by decide⟩

end Failover
