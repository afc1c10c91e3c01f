import Failover.Data.Decode
import Failover.Proofs.JsonValues
import Failover.Proofs.Tables

-- Reading records: the members of known fields are stored one after the other, and
-- the first one that cannot be stored ends it.

namespace Failover.Decode

variable {α β σ : Type}

/-! ## Lists -/

theorem mapM_ok {f : α → Except Fault β} {g : α → β} {l : List α} (h : ∀ a ∈ l, f a = .ok (g a)) :
    l.mapM f = .ok (l.map g) := by
  induction l with
  | nil => rfl
  | cons a rest ih =>
    rw [List.mapM_cons, h a (List.mem_cons_self ..), ih fun a ha => h a (List.mem_cons_of_mem _ ha)]
    rfl

theorem mapM_error {f : α → Except Fault β} {l : List α} (h : ∃ a ∈ l, ∃ fault, f a = .error fault) :
    ∃ fault, l.mapM f = .error fault := by
  induction l with
  | nil =>
    obtain ⟨a, ha, _⟩ := h
    cases ha
  | cons a rest ih =>
    rw [List.mapM_cons]
    cases ha : f a with
    | error fault => exact ⟨fault, rfl⟩
    | ok b =>
      obtain ⟨a', ha', fault, hfault⟩ := h
      rcases List.mem_cons.mp ha' with rfl | ha'
      · rw [ha] at hfault
        cases hfault
      · obtain ⟨fault, hrest⟩ := ih ⟨a', ha', fault, hfault⟩
        exact ⟨fault, by rw [hrest]; rfl⟩

theorem bind_error {x : Except Fault α} {f : α → Except Fault β} (h : ∃ fault, x = .error fault) :
    ∃ fault, x >>= f = .error fault := by
  obtain ⟨fault, rfl⟩ := h
  exact ⟨fault, rfl⟩

/-! ## Tables of anything -/

/-- A table reads back from its entries, in whatever order they come. -/
theorem tableOf_anything {k : Dialect} {entries : List (String × Data)} {t : Table Data}
    (horder : entries.Perm t.entries) (hintact : ∀ f ∈ t.entries, f.2.intact = true)
    (hcanonical : ∀ f ∈ t.entries, f.2.canonical = f.2) :
    tableOf anything k (.record entries) = .ok t := by
  rw [tableOf, mapM_ok (g := id), List.map_id]
  · exact congrArg Except.ok (Table.ofList_perm horder)
  · rintro ⟨name, d⟩ hf
    have hmem := horder.mem_iff.mp hf
    simp only [anything, hintact _ hmem, hcanonical _ hmem, if_true]
    rfl

/-- What is known in part is no table. -/
theorem tableOf_anything_partial {k : Dialect} {d : Data} (h : d.intact = false) :
    ∃ fault, tableOf anything k d = .error fault := by
  cases d with
  | record entries =>
    rw [Data.intact, ← Bool.not_eq_true, Json.intactFields_iff] at h
    simp only [not_forall, Bool.not_eq_true] at h
    obtain ⟨f, hf, hpart⟩ := h
    unfold tableOf
    refine bind_error (mapM_error ⟨f, hf, .malformed, ?_⟩)
    simp only [anything, hpart]
    rfl
  | null | bool | int | float | text => cases h
  | list | unfit | misnamed | broken => exact ⟨_, rfl⟩

/-! ## Members -/

variable {k : Dialect} {fields : List (FieldRule σ)} {f : FieldRule σ} {name : String} {d : Data}

/-- A member of a known name is stored the first time that it comes, if its reader
understands it. -/
theorem storeMembers_stored {read : Decoder α} {set : α → σ → σ} {a : α} {seen : List String} {s : σ}
    {rest : List (String × Data)} (hknown : fields.find? (fun f => f.name == name) = some f)
    (hstore : f.store = fun k d s => (read k d).map fun a => set a s) (hseen : seen.contains name = false)
    (hnamed : ∀ d', d ≠ .misnamed d') (hread : read k d = .ok a) :
    storeMembers k fields seen s ((name, d) :: rest) =
      storeMembers k fields (name :: seen) (set a s) rest := by
  cases d with
  | misnamed d' => exact absurd rfl (hnamed d')
  | null | bool | int | float | text | list | record | unfit | broken =>
    simp only [storeMembers, hknown, hseen, hstore, hread, Except.map, Bool.false_eq_true, if_false]

theorem record_of_stored {blank s : σ} (seen : List String) {members : List (String × Data)}
    (hstored : storeMembers k fields [] blank members = .ok (seen, s))
    (hcomplete : (fields.all fun f => !f.required || seen.contains f.name) = true) :
    record fields blank k (.record members) = .ok s := by
  rw [record, hstored]
  exact if_pos hcomplete

/-- A member that its reader refuses is a fault, whatever stands before it. -/
theorem storeMembers_refused {read : Decoder α} {set : α → σ → σ} {fault : Fault}
    (hknown : fields.find? (fun f => f.name == name) = some f)
    (hstore : f.store = fun k d s => (read k d).map fun a => set a s) (hread : read k d = .error fault)
    {members : List (String × Data)} (hmem : (name, d) ∈ members) (seen : List String) (s : σ) :
    ∃ fault, storeMembers k fields seen s members = .error fault := by
  induction members generalizing seen s with
  | nil => cases hmem
  | cons m rest ih =>
    obtain ⟨name', d'⟩ := m
    rw [storeMembers.eq_def]
    dsimp only
    rcases List.mem_cons.mp hmem with heq | hlater
    · obtain ⟨rfl, rfl⟩ := Prod.mk.inj heq
      rw [hknown]
      split
      · exact ⟨_, rfl⟩
      · rename_i hunknown
        cases hunknown
      · rename_i hsame
        cases hsame
        rw [hstore]
        split
        · exact ⟨_, rfl⟩
        · exact ⟨fault, by simp only [hread, Except.map]⟩
    · split
      · exact ⟨_, rfl⟩
      · split
        · exact ih hlater ..
        · exact ⟨_, rfl⟩
      · split
        · exact ⟨_, rfl⟩
        · split
          · exact ⟨_, rfl⟩
          · exact ih hlater ..

end Failover.Decode
