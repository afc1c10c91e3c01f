import Mathlib.Data.List.Nodup
import Mathlib.Data.List.Pairwise
import Failover.Table

-- The laws of tables. A table is known by its look-ups: each operation says
-- what is found under a name afterwards.

namespace Failover.Table

variable {α β : Type}

/-! ## Entries and look-ups -/

/-- No name stands twice. -/
theorem names_nodup (t : Table α) : t.names.Nodup := by
  unfold names
  rw [List.Nodup, List.pairwise_map]
  apply t.sorted.imp
  intro a b hlt heq
  rw [heq] at hlt
  exact String.lt_irrefl _ hlt

theorem mem_of_get? {t : Table α} {name : String} {v : α} (h : t.get? name = some v) :
    (name, v) ∈ t.entries := by
  simp only [get?, Option.map_eq_some_iff] at h
  obtain ⟨⟨n, w⟩, hfind, rfl⟩ := h
  have hname := List.find?_some hfind
  simp only [beq_iff_eq] at hname
  subst hname
  exact List.mem_of_find?_eq_some hfind

/-- Two entries of one name are the same entry. -/
theorem entry_unique {l : List (String × α)} (hl : l.Pairwise fun a b => a.1 < b.1)
    {name : String} {v w : α} (hv : (name, v) ∈ l) (hw : (name, w) ∈ l) : v = w := by
  induction l with
  | nil => simp at hv
  | cons x rest ih =>
    rw [List.pairwise_cons] at hl
    rcases List.mem_cons.mp hv with hv | hv <;> rcases List.mem_cons.mp hw with hw | hw
    · have := hv.trans hw.symm
      simpa using this
    · have := hl.1 _ hw
      rw [← hv] at this
      exact absurd this (String.lt_irrefl _)
    · have := hl.1 _ hv
      rw [← hw] at this
      exact absurd this (String.lt_irrefl _)
    · exact ih hl.2 hv hw

theorem get?_eq_some_iff {t : Table α} {name : String} {v : α} :
    t.get? name = some v ↔ (name, v) ∈ t.entries := by
  refine ⟨mem_of_get?, fun h => ?_⟩
  cases hg : t.get? name with
  | none =>
    simp only [get?, Option.map_eq_none_iff, List.find?_eq_none] at hg
    exact absurd (by simp) (hg _ h)
  | some w => rw [entry_unique t.sorted h (mem_of_get? hg)]

/-- Tables are told apart by their look-ups. -/
theorem get?_congr {t u : Table α} {name : String}
    (h : ∀ v, (name, v) ∈ t.entries ↔ (name, v) ∈ u.entries) : t.get? name = u.get? name := by
  apply Option.ext
  intro v
  rw [get?_eq_some_iff, get?_eq_some_iff, h]

/-- Tables with the same look-ups are the same table. -/
theorem eq_of_get? {t u : Table α} (h : ∀ name, t.get? name = u.get? name) : t = u := by
  have hmem : ∀ e, e ∈ t.entries ↔ e ∈ u.entries := by
    rintro ⟨name, v⟩
    rw [← get?_eq_some_iff, h, get?_eq_some_iff]
  have hperm : t.entries.Perm u.entries :=
    (List.perm_ext_iff_of_nodup (t.names_nodup.of_map _) (u.names_nodup.of_map _)).mpr hmem
  have heq := hperm.eq_of_pairwise (fun a b _ _ hab hba => absurd hab (String.lt_asymm hba))
    t.sorted u.sorted
  cases t
  cases u
  cases heq
  rfl

theorem isEmpty_iff {t : Table α} : t.isEmpty = true ↔ ∀ name, t.get? name = none := by
  unfold isEmpty
  rw [List.isEmpty_iff]
  refine ⟨fun h name => by simp [get?, h], fun h => List.eq_nil_iff_forall_not_mem.mpr ?_⟩
  rintro ⟨name, v⟩ hmem
  rw [← get?_eq_some_iff, h name] at hmem
  cases hmem

theorem mem_values {t : Table α} {v : α} : v ∈ t.values ↔ ∃ name, t.get? name = some v := by
  simp only [values, List.mem_map, get?_eq_some_iff]
  constructor
  · rintro ⟨⟨name, w⟩, h, rfl⟩
    exact ⟨name, h⟩
  · rintro ⟨name, h⟩
    exact ⟨_, h, rfl⟩

/-! ## What is found after an operation -/

@[simp] theorem get?_empty (name : String) : (empty : Table α).get? name = none := rfl

@[simp] theorem get?_map (f : String → α → β) (t : Table α) (name : String) :
    (t.map f).get? name = (t.get? name).map (f name) := by
  apply Option.ext
  intro v
  rw [get?_eq_some_iff, Option.map_eq_some_iff]
  simp only [map, List.mem_map, Prod.mk.injEq, get?_eq_some_iff]
  constructor
  · rintro ⟨⟨n, w⟩, hmem, rfl, rfl⟩
    exact ⟨w, hmem, rfl⟩
  · rintro ⟨w, hmem, rfl⟩
    exact ⟨_, hmem, rfl, rfl⟩

@[simp] theorem names_map (f : String → α → β) (t : Table α) : (t.map f).names = t.names := by
  simp [names, map]

theorem values_map (f : α → β) (t : Table α) : (t.map fun _ v => f v).values = t.values.map f := by
  simp [values, map]

theorem get?_modify (t : Table α) (name other : String) (f : α → α) :
    (t.modify name f).get? other = (t.get? other).map fun v => if other = name then f v else v := by
  unfold modify
  rw [get?_map]
  simp

@[simp] theorem get?_erase (t : Table α) (name other : String) :
    (t.erase name).get? other = if other = name then none else t.get? other := by
  apply Option.ext
  intro v
  rw [get?_eq_some_iff]
  split
  · rename_i heq
    simp [erase, heq]
  · rename_i hne
    rw [get?_eq_some_iff]
    simp [erase, hne]

theorem mem_place_self (name : String) (value : α) (l : List (String × α)) :
    (name, value) ∈ place name value l := by
  induction l with
  | nil => simp [place]
  | cons x rest ih =>
    simp only [place]
    split
    · simp
    · split
      · exact List.mem_cons_of_mem _ ih
      · simp

theorem mem_place_of_ne {name : String} {value : α} {l : List (String × α)} {e : String × α}
    (hne : e.1 ≠ name) (h : e ∈ l) : e ∈ place name value l := by
  induction l with
  | nil => simp at h
  | cons x rest ih =>
    obtain ⟨n, v⟩ := x
    simp only [place]
    split
    · exact List.mem_cons_of_mem _ h
    · split
      · rcases List.mem_cons.mp h with h | h
        · simp [h]
        · exact List.mem_cons_of_mem _ (ih h)
      · rename_i h1 h2
        rcases List.mem_cons.mp h with h | h
        · exact absurd (eq_of_not_lt h1 h2).symm (by simpa [h] using hne)
        · exact List.mem_cons_of_mem _ h

@[simp] theorem get?_insert (t : Table α) (name other : String) (value : α) :
    (t.insert name value).get? other = if other = name then some value else t.get? other := by
  split
  · rename_i heq
    rw [heq, get?_eq_some_iff]
    exact mem_place_self name value t.entries
  · rename_i hne
    apply get?_congr
    intro v
    constructor
    · intro h
      rcases mem_place h with h | h
      · exact absurd (congrArg Prod.fst h) hne
      · exact h
    · exact mem_place_of_ne hne

/-! ## Tables from lists -/

theorem get?_insertAll {l : List (String × α)} (hnames : (l.map (·.1)).Nodup) (t : Table α)
    (name : String) {v : α} :
    (l.foldl (fun t e => t.insert e.1 e.2) t).get? name = some v ↔
      (name, v) ∈ l ∨ name ∉ l.map (·.1) ∧ t.get? name = some v := by
  induction l generalizing t with
  | nil => simp
  | cons e rest ih =>
    obtain ⟨n, w⟩ := e
    simp only [List.map_cons, List.nodup_cons] at hnames
    rw [List.foldl_cons, ih hnames.2, get?_insert]
    by_cases hn : name = n
    · subst hn
      have hout : ∀ v, (name, v) ∉ rest := fun v hv => hnames.1 (List.mem_map_of_mem (f := (·.1)) hv)
      simp [hout, hnames.1, eq_comm]
    · simp [hn]

/-- A table is made up of its entries, in whatever order they come. -/
theorem ofList_perm {l : List (String × α)} {t : Table α} (h : l.Perm t.entries) : ofList l = t := by
  have hnames : (l.map (·.1)).Nodup := (h.map _).nodup_iff.mpr t.names_nodup
  apply eq_of_get?
  intro name
  apply Option.ext
  intro v
  rw [ofList, get?_insertAll hnames, get?_empty, h.mem_iff, get?_eq_some_iff]
  simp

end Failover.Table
