import Failover.Proofs.JsonText

-- Values of JSON, however they nest. The reader takes back what was written while
-- the nesting lasts, and knows that it has missed something when it goes deeper.

namespace Failover.Json

/-! ## Documents -/

/-- A document as JSON can hold it: integers of 64 bits, with or without a sign, and
floats that read back from their own text. -/
inductive IsJson : Data → Prop
  | null : IsJson .null
  | bool (b : Bool) : IsJson (.bool b)
  | int {n : Int} (h : IsInteger n) : IsJson (.int n)
  | float {x : Float} (h : parse? (compact (.float x)) = some (.float x)) : IsJson (.float x)
  | text (s : String) : IsJson (.text s)
  | list {items : List Data} (h : ∀ d ∈ items, IsJson d) : IsJson (.list items)
  | record {fields : List (String × Data)} (h : ∀ f ∈ fields, IsJson f.2) : IsJson (.record fields)

mutual

/-- How deep arrays and objects nest. -/
def height : Data → Nat
  | .list items => heightItems items + 1
  | .record fields => heightFields fields + 1
  | _ => 0

def heightItems : List Data → Nat
  | [] => 0
  | d :: rest => max (height d) (heightItems rest)

def heightFields : List (String × Data) → Nat
  | [] => 0
  | (_, d) :: rest => max (height d) (heightFields rest)

end

theorem heightItems_le {items : List Data} {k : Nat} :
    heightItems items ≤ k ↔ ∀ d ∈ items, height d ≤ k := by
  induction items with
  | nil => simp [heightItems]
  | cons d rest ih =>
    rw [heightItems, Nat.max_le, ih]
    simp

theorem heightFields_le {fields : List (String × Data)} {k : Nat} :
    heightFields fields ≤ k ↔ ∀ f ∈ fields, height f.2 ≤ k := by
  induction fields with
  | nil => simp [heightFields]
  | cons f rest ih =>
    obtain ⟨name, d⟩ := f
    rw [heightFields, Nat.max_le, ih]
    simp

theorem intactItems_iff {items : List Data} :
    Data.intactItems items = true ↔ ∀ d ∈ items, d.intact = true := by
  induction items with
  | nil => simp [Data.intactItems]
  | cons d rest ih => simp [Data.intactItems, ih]

theorem intactFields_iff {fields : List (String × Data)} :
    Data.intactFields fields = true ↔ ∀ f ∈ fields, f.2.intact = true := by
  induction fields with
  | nil => simp [Data.intactFields]
  | cons f rest ih => simp [Data.intactFields, ih]

theorem IsJson.intact {d : Data} (h : IsJson d) : d.intact = true := by
  induction h with
  | null | bool | int | float | text => rfl
  | list _ ih => exact intactItems_iff.mpr ih
  | record _ ih => exact intactFields_iff.mpr ih

/-! ## Scalars -/

theorem skip_figures {cs : List Char} (h : Figures cs) : skip cs = cs := by
  cases cs with
  | nil => rfl
  | cons c cs =>
    have hblank : isBlank c = false := by
      rw [Bool.eq_false_iff]
      intro hc
      have hfigure := h c (List.mem_cons_self ..)
      simp only [isBlank, Bool.or_eq_true, beq_iff_eq] at hc
      rcases hc with ((rfl | rfl) | rfl) | rfl <;> cases hfigure
    exact skip_shown hblank cs

/-- The text of a float that reads back is a number throughout. -/
theorem numeral?_float {x : Float} (h : parse? (compact (.float x)) = some (.float x)) :
    ∃ n : Numeral, numeral? (compact (.float x)).toList = some (n, []) ∧ n.toData = .float x ∧
      (Leads (compact (.float x)).toList ∨ ∃ tail, (compact (.float x)).toList = '-' :: tail) := by
  have htext : compact (.float x) = (Shortest.render? x).getD "null" := rfl
  cases hx : Shortest.render? x with
  | none =>
    rw [htext, hx] at h
    cases h
  | some s =>
    rw [htext, hx, Option.getD_some] at h ⊢
    obtain ⟨hfigures, hbegins⟩ := render?_figures hx
    obtain ⟨rest, hvalue, hend⟩ := value_of_parse? h
    rw [skip_figures hfigures] at hvalue
    have hscalar : scalar? s.toList = some (.float x, rest) := by
      rcases hbegins with ⟨c, tail, heq, hc⟩ | ⟨tail, heq⟩
      · rw [heq] at hvalue ⊢
        refine scalar?_of_value ?_ ?_ hvalue <;> rintro rfl <;> cases hc
      · rw [heq] at hvalue ⊢
        exact scalar?_of_value (by decide) (by decide) hvalue
    rw [scalar?_number hbegins] at hscalar
    obtain ⟨⟨n, after⟩, hnumeral, heq⟩ := Option.map_eq_some_iff.mp hscalar
    obtain ⟨hdata, rfl⟩ := Prod.mk.inj heq
    -- what comes after the number would be figures, but only blanks may come
    have hnone : after = [] := by
      rw [← hend, skip_figures (hfigures.sublist (numeral?_suffix hnumeral).sublist)]
    exact ⟨n, hnone ▸ hnumeral, hdata, hbegins⟩

theorem scalar?_compact {d : Data} (h : IsJson d) (hflat : height d = 0) {rest : List Char}
    (hrest : Stops rest) : scalar? ((compact d).toList ++ rest) = some (d, rest) := by
  cases h with
  | null => rfl
  | bool b => cases b <;> rfl
  | @int n hn =>
    obtain ⟨numeral, hread, hdata⟩ := numeral?_integer hn hrest
    have hbegins : Leads ((toString n).toList ++ rest) ∨ ∃ tail, (toString n).toList ++ rest = '-' :: tail := by
      rcases leads_integer n with hleads | ⟨tail, heq⟩
      · exact .inl (hleads.append rest)
      · exact .inr ⟨tail ++ rest, by rw [heq]; rfl⟩
    show scalar? ((toString n).toList ++ rest) = _
    rw [scalar?_number hbegins, hread, Option.map_some, hdata]
  | @float x hx =>
    obtain ⟨numeral, hread, hdata, hleads⟩ := numeral?_float hx
    have hbegins : Leads ((compact (.float x)).toList ++ rest) ∨
        ∃ tail, (compact (.float x)).toList ++ rest = '-' :: tail := by
      rcases hleads with hleads | ⟨tail, heq⟩
      · exact .inl (hleads.append rest)
      · exact .inr ⟨tail ++ rest, by rw [heq]; rfl⟩
    rw [scalar?_number hbegins, numeral?_append hread hrest, Option.map_some, hdata]
    rfl
  | text s =>
    show scalar? ((quote s).toList ++ rest) = _
    rw [toList_quote, List.cons_append, List.append_assoc, List.singleton_append]
    simp only [scalar?, quotedText_quote]
  | list => exact absurd hflat (Nat.succ_ne_zero _)
  | record => exact absurd hflat (Nat.succ_ne_zero _)

/-! ## Arrays and objects -/

section Brackets

variable {value : List Char → Reading}

/-- The value is read and nothing that comes after it. -/
def Reads (value : List Char → Reading) (d : Data) : Prop :=
  ∀ rest, Stops rest → value ((compact d).toList ++ rest) = (d, some rest)

theorem skip_compact (d : Data) (rest : List Char) :
    skip ((compact d).toList ++ rest) = (compact d).toList ++ rest :=
  skip_opens (opens_compact d) rest

theorem opens_items (d : Data) (rest : List Data) : Opens (compactItems (d :: rest)).toList := by
  obtain ⟨c, tail, heq, h⟩ := opens_compact d
  cases rest with
  | nil => exact ⟨c, tail, heq, h⟩
  | cons e rest =>
    rw [toList_items_cons, heq]
    exact ⟨c, _, rfl, h⟩

/-- An element before a comma. -/
theorem elements_step {d e : Data} (hd : Reads value d) (fuel : Nat) (seen items : List Data)
    (rest : List Char) :
    elements value (fuel + 1) seen ((compactItems (d :: e :: items)).toList ++ rest) =
      elements value fuel (d :: seen) ((compactItems (e :: items)).toList ++ rest) := by
  rw [toList_items_cons, List.append_assoc, List.cons_append, elements, skip_compact,
    hd _ (stops_comma _)]
  simp (disch := decide) only [skip_shown]

theorem elements_compact {items : List Data} (hitems : items ≠ []) (hread : ∀ d ∈ items, Reads value d)
    {fuel : Nat} (hfuel : items.length ≤ fuel) (seen : List Data) (rest : List Char) :
    elements value fuel seen ((compactItems items).toList ++ ']' :: rest) =
      (.list (seen.reverse ++ items), some rest) := by
  induction items generalizing fuel seen with
  | nil => exact absurd rfl hitems
  | cons d items ih =>
    obtain ⟨fuel, rfl⟩ : ∃ k, fuel = k + 1 := ⟨fuel - 1, by rw [List.length_cons] at hfuel; omega⟩
    have hd := hread d (List.mem_cons_self ..)
    cases items with
    | nil =>
      show elements value (fuel + 1) seen ((compact d).toList ++ ']' :: rest) = _
      rw [elements, skip_compact, hd _ (stops_bracket rest)]
      simp (disch := decide) only [skip_shown, List.reverse_cons]
    | cons e items =>
      rw [elements_step hd, ih (List.cons_ne_nil _ _) (fun d hd => hread d (List.mem_cons_of_mem _ hd))
        (Nat.le_of_succ_le_succ hfuel)]
      simp only [List.reverse_cons, List.append_assoc, List.singleton_append]

/-- A member before a comma. -/
theorem members_step {name : String} {d : Data} {f : String × Data} (hd : Reads value d) (fuel : Nat)
    (seen fields : List (String × Data)) (rest : List Char) :
    members value (fuel + 1) seen ((compactFields ((name, d) :: f :: fields)).toList ++ rest) =
      members value fuel ((name, d) :: seen) ((compactFields (f :: fields)).toList ++ rest) := by
  rw [toList_fields_cons, toList_field, toList_quote]
  simp (disch := decide) only [List.cons_append, List.append_assoc, List.nil_append, members,
    skip_shown, quotedText_quote, skip_compact, hd _ (stops_comma _), member]

theorem members_compact {fields : List (String × Data)} (hfields : fields ≠ [])
    (hread : ∀ f ∈ fields, Reads value f.2) {fuel : Nat} (hfuel : fields.length ≤ fuel)
    (seen : List (String × Data)) (rest : List Char) :
    members value fuel seen ((compactFields fields).toList ++ '}' :: rest) =
      (.record (seen.reverse ++ fields), some rest) := by
  induction fields generalizing fuel seen with
  | nil => exact absurd rfl hfields
  | cons f fields ih =>
    obtain ⟨name, d⟩ := f
    obtain ⟨fuel, rfl⟩ : ∃ k, fuel = k + 1 := ⟨fuel - 1, by rw [List.length_cons] at hfuel; omega⟩
    have hd := hread (name, d) (List.mem_cons_self ..)
    cases fields with
    | nil =>
      rw [toList_field, toList_quote]
      simp (disch := decide) only [List.cons_append, List.append_assoc, List.nil_append, members,
        skip_shown, quotedText_quote, skip_compact, hd _ (stops_brace rest), List.reverse_cons, member]
    | cons g fields =>
      rw [members_step hd, ih (List.cons_ne_nil _ _) (fun f hf => hread f (List.mem_cons_of_mem _ hf))
        (Nat.le_of_succ_le_succ hfuel)]
      simp only [List.reverse_cons, List.append_assoc, List.singleton_append]

/-! ### What is missed -/

/-- Something of the value is missed, whatever comes after it. -/
def Misses (value : List Char → Reading) (d : Data) : Prop :=
  ∀ rest, (value ((compact d).toList ++ rest)).1.intact = false

theorem Reads.not_misses {d : Data} (h : Reads value d) (hintact : d.intact = true) :
    ¬ Misses value d := by
  intro hmisses
  have hpart := hmisses []
  rw [h [] stops_nil, hintact] at hpart
  cases hpart

variable (value) in
/-- What has been read stays, whatever becomes of the rest. -/
theorem elements_keeps (fuel : Nat) (seen : List Data) (cs : List Char) :
    ∃ more, (elements value fuel seen cs).1 = .list (seen.reverse ++ more) := by
  induction fuel generalizing seen cs with
  | zero => exact ⟨[.broken], by rw [elements, List.reverse_cons]⟩
  | succ fuel ih =>
    rw [elements]
    split
    · rename_i d _
      exact ⟨[d], by rw [List.reverse_cons]⟩
    · rename_i d rest _
      split
      · exact ⟨[d], by rw [List.reverse_cons]⟩
      · rename_i rest _
        obtain ⟨more, hmore⟩ := ih (d :: seen) rest
        exact ⟨d :: more, by rw [hmore, List.reverse_cons, List.append_assoc]; rfl⟩
      · exact ⟨[d, .broken], by simp only [List.reverse_cons, List.append_assoc]; rfl⟩

variable (value) in
theorem members_keeps (fuel : Nat) (seen : List (String × Data)) (cs : List Char) :
    ∃ more, (members value fuel seen cs).1 = .record (seen.reverse ++ more) := by
  have hone : ∀ f : String × Data, ∃ more, Data.record (f :: seen).reverse = .record (seen.reverse ++ more) :=
    fun f => ⟨[f], by rw [List.reverse_cons]⟩
  induction fuel generalizing seen cs with
  | zero => exact hone _
  | succ fuel ih =>
    rw [members]
    split
    · split
      · exact hone _
      · rename_i name _ _
        split
        · split
          · exact hone _
          · rename_i d _ _
            split
            · exact hone _
            · rename_i rest _
              obtain ⟨more, hmore⟩ := ih (member name d :: seen) rest fun f => ⟨[f], by rw [List.reverse_cons]⟩
              exact ⟨member name d :: more, by rw [hmore, List.reverse_cons, List.append_assoc]; rfl⟩
            · exact ⟨[member name d, member none .broken], by
                simp only [List.reverse_cons, List.append_assoc]; rfl⟩
        · exact hone _
    · exact hone _

variable (value) in
/-- The first member is read, well or not. -/
theorem members_head (fuel : Nat) (name : String) (d : Data) (seen : List (String × Data))
    (rest : List Char) :
    ∃ more, (members value (fuel + 1) seen ((compactFields [(name, d)]).toList ++ rest)).1 =
      .record (seen.reverse ++ (name, (value ((compact d).toList ++ rest)).1) :: more) := by
  rw [toList_field, toList_quote]
  simp (disch := decide) only [List.cons_append, List.append_assoc, List.nil_append, members,
    skip_shown, quotedText_quote, skip_compact, member]
  obtain ⟨d', left⟩ := value ((compact d).toList ++ rest)
  cases left with
  | none => exact ⟨[], by dsimp only; rw [List.reverse_cons]⟩
  | some left =>
    dsimp only
    split
    · exact ⟨[], by rw [List.reverse_cons]⟩
    · rename_i left _
      obtain ⟨more, hmore⟩ := members_keeps value fuel ((name, d') :: seen) left
      exact ⟨more, by rw [hmore, List.reverse_cons, List.append_assoc]; rfl⟩
    · exact ⟨[("", .misnamed .broken)], by simp only [List.reverse_cons, List.append_assoc]; rfl⟩

variable (value) in
theorem elements_head (fuel : Nat) (d : Data) (seen : List Data) (rest : List Char) :
    ∃ more, (elements value (fuel + 1) seen ((compact d).toList ++ rest)).1 =
      .list (seen.reverse ++ (value ((compact d).toList ++ rest)).1 :: more) := by
  rw [elements, skip_compact]
  obtain ⟨d', left⟩ := value ((compact d).toList ++ rest)
  cases left with
  | none => exact ⟨[], by dsimp only; rw [List.reverse_cons]⟩
  | some left =>
    dsimp only
    split
    · exact ⟨[], by rw [List.reverse_cons]⟩
    · rename_i left _
      obtain ⟨more, hmore⟩ := elements_keeps value fuel (d' :: seen) left
      exact ⟨more, by rw [hmore, List.reverse_cons, List.append_assoc]; rfl⟩
    · exact ⟨[.broken], by simp only [List.reverse_cons, List.append_assoc]; rfl⟩

/-- The elements before the first one that is missed are read. -/
theorem elements_missed {items : List Data} (hread : ∀ d ∈ items, Reads value d ∨ Misses value d)
    (hmissed : ∃ d ∈ items, Misses value d) {fuel : Nat} (hfuel : items.length ≤ fuel)
    (seen : List Data) (rest : List Char) :
    (elements value fuel seen ((compactItems items).toList ++ rest)).1.intact = false := by
  induction items generalizing fuel seen with
  | nil =>
    obtain ⟨d, hd, _⟩ := hmissed
    cases hd
  | cons d items ih =>
    obtain ⟨fuel, rfl⟩ : ∃ k, fuel = k + 1 := ⟨fuel - 1, by rw [List.length_cons] at hfuel; omega⟩
    by_cases hd : Misses value d
    · obtain ⟨after, hafter⟩ : ∃ after, (compactItems (d :: items)).toList ++ rest =
          (compact d).toList ++ after := by
        cases items with
        | nil => exact ⟨rest, rfl⟩
        | cons e items => exact ⟨_, by rw [toList_items_cons, List.append_assoc]⟩
      obtain ⟨more, hmore⟩ := elements_head value fuel d seen after
      rw [hafter, hmore, Bool.eq_false_iff]
      intro hintact
      have := intactItems_iff.mp hintact _ (List.mem_append_right _ (List.mem_cons_self ..))
      rw [hd after] at this
      cases this
    · have hreads := (hread d (List.mem_cons_self ..)).resolve_right hd
      cases items with
      | nil =>
        obtain ⟨e, he, hmisses⟩ := hmissed
        rw [List.mem_singleton.mp he] at hmisses
        exact absurd hmisses hd
      | cons e items =>
        rw [elements_step hreads]
        refine ih (fun d hd => hread d (List.mem_cons_of_mem _ hd)) ?_ (Nat.le_of_succ_le_succ hfuel) _
        obtain ⟨x, hx, hmisses⟩ := hmissed
        rcases List.mem_cons.mp hx with rfl | hx
        · exact absurd hmisses hd
        · exact ⟨x, hx, hmisses⟩

/-- A member that is missed is there under its name, but says not all. -/
theorem members_missed {fields : List (String × Data)}
    (hread : ∀ f ∈ fields, Reads value f.2 ∨ Misses value f.2)
    (hmissed : ∃ f ∈ fields, Misses value f.2) {fuel : Nat} (hfuel : fields.length ≤ fuel)
    (seen : List (String × Data)) (rest : List Char) :
    ∃ found, (members value fuel seen ((compactFields fields).toList ++ rest)).1 = .record found ∧
      ∃ f ∈ fields, Misses value f.2 ∧ ∃ d, (f.1, d) ∈ found ∧ d.intact = false := by
  induction fields generalizing fuel seen with
  | nil =>
    obtain ⟨f, hf, _⟩ := hmissed
    cases hf
  | cons f fields ih =>
    obtain ⟨name, d⟩ := f
    obtain ⟨fuel, rfl⟩ : ∃ k, fuel = k + 1 := ⟨fuel - 1, by rw [List.length_cons] at hfuel; omega⟩
    by_cases hd : Misses value d
    · obtain ⟨after, hafter⟩ : ∃ after, (compactFields ((name, d) :: fields)).toList ++ rest =
          (compactFields [(name, d)]).toList ++ after := by
        cases fields with
        | nil => exact ⟨rest, rfl⟩
        | cons g fields => exact ⟨_, by rw [toList_fields_cons, List.append_assoc]⟩
      obtain ⟨more, hmore⟩ := members_head value fuel name d seen after
      rw [hafter]
      exact ⟨_, hmore, (name, d), List.mem_cons_self .., hd, _,
        List.mem_append_right _ (List.mem_cons_self ..), hd after⟩
    · have hreads := (hread (name, d) (List.mem_cons_self ..)).resolve_right hd
      cases fields with
      | nil =>
        obtain ⟨g, hg, hmisses⟩ := hmissed
        rw [List.mem_singleton.mp hg] at hmisses
        exact absurd hmisses hd
      | cons g fields =>
        rw [members_step hreads]
        have hlater : ∃ f ∈ g :: fields, Misses value f.2 := by
          obtain ⟨x, hx, hmisses⟩ := hmissed
          rcases List.mem_cons.mp hx with rfl | hx
          · exact absurd hmisses hd
          · exact ⟨x, hx, hmisses⟩
        obtain ⟨found, hfound, f, hf, hrest⟩ := ih (fun f hf => hread f (List.mem_cons_of_mem _ hf))
          hlater (Nat.le_of_succ_le_succ hfuel) ((name, d) :: seen)
        exact ⟨found, hfound, f, List.mem_cons_of_mem _ hf, hrest⟩

end Brackets

/-! ## Values -/

theorem length_pos_compact (d : Data) : 0 < (compact d).toList.length := by
  obtain ⟨c, tail, heq, _⟩ := opens_compact d
  rw [heq]
  exact Nat.succ_pos _

/-- Neither an element nor the number of elements is longer than their text. -/
theorem length_items (items : List Data) :
    items.length ≤ (compactItems items).toList.length ∧
      ∀ d ∈ items, (compact d).toList.length ≤ (compactItems items).toList.length := by
  induction items with
  | nil => simp
  | cons d items ih =>
    cases items with
    | nil =>
      have hone : compactItems [d] = compact d := rfl
      simpa [hone, Nat.one_le_iff_ne_zero, Nat.pos_iff_ne_zero] using length_pos_compact d
    | cons e items =>
      rw [toList_items_cons]
      have hpos := length_pos_compact d
      simp only [List.length_append, List.length_cons, List.forall_mem_cons] at ih ⊢
      refine ⟨by omega, by omega, by omega, fun d' hd' => ?_⟩
      have := ih.2.2 d' hd'
      omega

theorem length_fields (fields : List (String × Data)) :
    fields.length ≤ (compactFields fields).toList.length ∧
      ∀ f ∈ fields, (compact f.2).toList.length ≤ (compactFields fields).toList.length := by
  induction fields with
  | nil => simp
  | cons f fields ih =>
    obtain ⟨name, d⟩ := f
    cases fields with
    | nil =>
      rw [toList_field]
      simp only [List.length_append, List.length_cons, List.length_nil, List.forall_mem_cons]
      exact ⟨by omega, by omega, by simp⟩
    | cons g fields =>
      rw [toList_fields_cons, toList_field]
      simp only [List.length_append, List.length_cons, List.forall_mem_cons] at ih ⊢
      refine ⟨by omega, by omega, by omega, fun f hf => ?_⟩
      have := ih.2.2 f hf
      omega

theorem count_elements (items : List Data) : items.length ≤ (compact (.list items)).toList.length := by
  have := (length_items items).1
  rw [toList_list, List.length_cons, List.length_append]
  omega

theorem length_element {items : List Data} {d : Data} (h : d ∈ items) :
    (compact d).toList.length ≤ (compact (.list items)).toList.length := by
  have := (length_items items).2 d h
  rw [toList_list, List.length_cons, List.length_append]
  omega

theorem count_members (fields : List (String × Data)) :
    fields.length ≤ (compact (.record fields)).toList.length := by
  have := (length_fields fields).1
  rw [toList_record, List.length_cons, List.length_append]
  omega

theorem length_member {fields : List (String × Data)} {f : String × Data} (h : f ∈ fields) :
    (compact f.2).toList.length ≤ (compact (.record fields)).toList.length := by
  have := (length_fields fields).2 f h
  rw [toList_record, List.length_cons, List.length_append]
  omega

/-- Brackets that hold something are gone through. -/
theorem value_list {size depth : Nat} {cs : List Char} (h : Opens cs) (rest : List Char) :
    value size (depth + 1) ('[' :: (cs ++ rest)) = elements (value size depth) size [] (cs ++ rest) := by
  rw [value, skip_opens h]
  obtain ⟨c, tail, rfl, _, hc, _⟩ := h
  split
  · rename_i heq
    exact absurd (List.cons.inj heq).1 hc
  · rfl

theorem value_record {size depth : Nat} {cs : List Char} (h : Opens cs) (rest : List Char) :
    value size (depth + 1) ('{' :: (cs ++ rest)) = members (value size depth) size [] (cs ++ rest) := by
  rw [value, skip_opens h]
  obtain ⟨c, tail, rfl, _, _, hc⟩ := h
  split
  · rename_i heq
    exact absurd (List.cons.inj heq).1 hc
  · rfl

theorem opens_fields (f : String × Data) (rest : List (String × Data)) :
    Opens (compactFields (f :: rest)).toList := by
  obtain ⟨name, d⟩ := f
  have hfield : ∃ tail, (compactFields [(name, d)]).toList = '"' :: tail := by
    rw [toList_field, toList_quote]
    exact ⟨_, rfl⟩
  obtain ⟨tail, heq⟩ := hfield
  cases rest with
  | nil => exact ⟨'"', tail, heq, rfl, by decide, by decide⟩
  | cons g rest =>
    rw [toList_fields_cons, heq]
    exact ⟨'"', _, rfl, rfl, by decide, by decide⟩

/-- A document reads back when it nests no deeper than the reader goes. -/
theorem value_compact {d : Data} (h : IsJson d) {size depth : Nat} (hdepth : height d ≤ depth)
    (hsize : (compact d).toList.length ≤ size) : Reads (value size depth) d := by
  induction h generalizing depth with
  | null => exact fun rest hrest => value_scalar (scalar?_compact .null rfl hrest)
  | bool b => exact fun rest hrest => value_scalar (scalar?_compact (.bool b) rfl hrest)
  | int hn => exact fun rest hrest => value_scalar (scalar?_compact (.int hn) rfl hrest)
  | float hx => exact fun rest hrest => value_scalar (scalar?_compact (.float hx) rfl hrest)
  | text s => exact fun rest hrest => value_scalar (scalar?_compact (.text s) rfl hrest)
  | @list items hitems ih =>
    obtain ⟨depth, rfl⟩ : ∃ k, depth = k + 1 := ⟨depth - 1, by rw [height] at hdepth; omega⟩
    rw [height, Nat.add_le_add_iff_right, heightItems_le] at hdepth
    have hcount := Nat.le_trans (count_elements items) hsize
    have hread : ∀ d ∈ items, Reads (value size depth) d := fun d hd =>
      ih d hd (hdepth d hd) (Nat.le_trans (length_element hd) hsize)
    intro rest hrest
    rw [toList_list_append]
    cases items with
    | nil => rfl
    | cons d items =>
      rw [value_list (opens_items d items),
        elements_compact (List.cons_ne_nil _ _) hread hcount [] rest]
      rfl
  | @record fields hfields ih =>
    obtain ⟨depth, rfl⟩ : ∃ k, depth = k + 1 := ⟨depth - 1, by rw [height] at hdepth; omega⟩
    rw [height, Nat.add_le_add_iff_right, heightFields_le] at hdepth
    have hcount := Nat.le_trans (count_members fields) hsize
    have hread : ∀ f ∈ fields, Reads (value size depth) f.2 := fun f hf =>
      ih f hf (hdepth f hf) (Nat.le_trans (length_member hf) hsize)
    intro rest hrest
    rw [toList_record_append]
    cases fields with
    | nil => rfl
    | cons f fields =>
      rw [value_record (opens_fields f fields),
        members_compact (List.cons_ne_nil _ _) hread hcount [] rest]
      rfl

theorem lt_heightItems {items : List Data} {k : Nat} : k < heightItems items ↔ ∃ d ∈ items, k < height d := by
  rw [← not_le, heightItems_le]
  simp

theorem lt_heightFields {fields : List (String × Data)} {k : Nat} :
    k < heightFields fields ↔ ∃ f ∈ fields, k < height f.2 := by
  rw [← not_le, heightFields_le]
  simp

/-- Brackets at the bottom are passed over, and nothing is known of what they hold. -/
theorem value_bottom (size : Nat) {c : Char} (h : c = '[' ∨ c = '{') (rest : List Char) :
    (value size 0 (c :: rest)).1.intact = false := by
  rcases h with rfl | rfl <;> rw [value] <;> split <;> rfl

/-- An object with a member that nests too deep is read up to such a member, of which
not all is known. -/
theorem value_record_deep {fields : List (String × Data)} {size depth : Nat}
    (hjson : ∀ f ∈ fields, IsJson f.2)
    (hmiss : ∀ f ∈ fields, depth < height f.2 → Misses (value size depth) f.2)
    (hdeep : ∃ f ∈ fields, depth < height f.2)
    (hsize : (compact (.record fields)).toList.length ≤ size) (rest : List Char) :
    ∃ found, (value size (depth + 1) ((compact (.record fields)).toList ++ rest)).1 = .record found ∧
      ∃ f ∈ fields, depth < height f.2 ∧ ∃ d, (f.1, d) ∈ found ∧ d.intact = false := by
  obtain ⟨deepest, hmem, hbelow⟩ := hdeep
  have hcount := Nat.le_trans (count_members fields) hsize
  have hreads : ∀ f ∈ fields, height f.2 ≤ depth → Reads (value size depth) f.2 := fun f hf hin =>
    value_compact (hjson f hf) hin (Nat.le_trans (length_member hf) hsize)
  have heither : ∀ f ∈ fields, Reads (value size depth) f.2 ∨ Misses (value size depth) f.2 := by
    intro f hf
    by_cases hin : height f.2 ≤ depth
    · exact .inl (hreads f hf hin)
    · exact .inr (hmiss f hf (Nat.lt_of_not_le hin))
  obtain ⟨g, others, rfl⟩ := List.exists_cons_of_ne_nil (List.ne_nil_of_mem hmem)
  rw [toList_record_append, value_record (opens_fields g others)]
  obtain ⟨found, hfound, f, hf, hmisses, hpart⟩ :=
    members_missed heither ⟨deepest, hmem, hmiss deepest hmem hbelow⟩ hcount [] ('}' :: rest)
  refine ⟨found, hfound, f, hf, Nat.lt_of_not_le fun hin => ?_, hpart⟩
  exact (hreads f hf hin).not_misses (hjson f hf).intact hmisses

/-- A document that nests deeper than the reader goes is missed in part. -/
theorem value_deep {d : Data} (h : IsJson d) {size depth : Nat} (hdeep : depth < height d)
    (hsize : (compact d).toList.length ≤ size) : Misses (value size depth) d := by
  induction h generalizing depth with
  | null | bool | int | float | text => exact absurd hdeep (Nat.not_lt_zero depth)
  | @list items hitems ih =>
    intro rest
    rw [toList_list_append]
    cases depth with
    | zero => exact value_bottom size (.inl rfl) _
    | succ depth =>
      rw [height, Nat.add_lt_add_iff_right] at hdeep
      obtain ⟨deepest, hmem, hbelow⟩ := lt_heightItems.mp hdeep
      have hcount := Nat.le_trans (count_elements items) hsize
      have hfits : ∀ d ∈ items, (compact d).toList.length ≤ size := fun d hd =>
        Nat.le_trans (length_element hd) hsize
      have heither : ∀ d ∈ items, Reads (value size depth) d ∨ Misses (value size depth) d := by
        intro d hd
        by_cases hin : height d ≤ depth
        · exact .inl (value_compact (hitems d hd) hin (hfits d hd))
        · exact .inr (ih d hd (Nat.lt_of_not_le hin) (hfits d hd))
      obtain ⟨e, others, rfl⟩ := List.exists_cons_of_ne_nil (List.ne_nil_of_mem hmem)
      rw [value_list (opens_items e others)]
      exact elements_missed heither ⟨deepest, hmem, ih deepest hmem hbelow (hfits deepest hmem)⟩
        hcount [] _
  | @record fields hfields ih =>
    intro rest
    cases depth with
    | zero =>
      rw [toList_record_append]
      exact value_bottom size (.inr rfl) _
    | succ depth =>
      rw [height, Nat.add_lt_add_iff_right] at hdeep
      have hfits : ∀ f ∈ fields, (compact f.2).toList.length ≤ size := fun f hf =>
        Nat.le_trans (length_member hf) hsize
      obtain ⟨found, hfound, f, _, _, d, hd, hpart⟩ := value_record_deep hfields
        (fun f hf hbelow => ih f hf hbelow (hfits f hf)) (lt_heightFields.mp hdeep) hsize rest
      rw [hfound, Bool.eq_false_iff]
      intro hintact
      have := intactFields_iff.mp hintact _ hd
      rw [hpart] at this
      cases this

/-! ## Whole texts -/

variable {α : Type} {read : Decoder α}

/-- What a reader finds in the text of a document is what it finds in the document. -/
theorem read?_compact {d : Data} (h : IsJson d) (hdepth : height d ≤ maxDepth) :
    read? read (compact d) = (read .json d).toOption := by
  have hvalue := value_compact h hdepth (Nat.le_succ _) [] stops_nil
  have hskip := skip_compact d []
  rw [List.append_nil] at hvalue hskip
  unfold read? scan
  simp only [hskip, hvalue]
  rfl

/-- A reader that refuses an object of which a member is known in part finds nothing in
the text of one with a member that nests too deep. -/
theorem read?_deep {fields : List (String × Data)} (h : ∀ f ∈ fields, IsJson f.2)
    (hdeep : ∃ f ∈ fields, maxDepth ≤ height f.2)
    (hrefused : ∀ found, (∃ f ∈ fields, maxDepth ≤ height f.2 ∧ ∃ d, (f.1, d) ∈ found ∧ d.intact = false) →
      (read .json (.record found)).toOption = none) :
    read? read (compact (.record fields)) = none := by
  have hfits : (compact (.record fields)).toList.length ≤ (compact (.record fields)).toList.length + 1 :=
    Nat.le_succ _
  obtain ⟨found, hfound, hpart⟩ := value_record_deep h
    (fun f hf hbelow => value_deep (h f hf) hbelow (Nat.le_trans (length_member hf) hfits))
    hdeep hfits []
  have hskip := skip_compact (.record fields) []
  rw [List.append_nil] at hfound hskip
  unfold read? scan
  simp only [hskip]
  have hdepth : maxDepth = 126 + 1 := rfl
  rw [hdepth]
  generalize value _ _ _ = reading at hfound ⊢
  obtain ⟨d, left⟩ := reading
  cases hfound
  cases left with
  | none => rfl
  | some rest =>
    dsimp only
    cases (skip rest).isEmpty with
    | false => rfl
    | true => exact hrefused found hpart

end Failover.Json
