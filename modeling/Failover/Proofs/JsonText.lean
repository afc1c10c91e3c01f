import Mathlib.Tactic.IntervalCases
import Failover.Proofs.Numerals

-- JSON text: what is written down on one line reads back, as far as the reader
-- goes into it.

namespace Failover.Json

/-! ## Texts -/

theorem hexDigit?_hexChar {n : Nat} (h : n < 16) : hexDigit? (hexChar n) = some n := by
  interval_cases n <;> rfl

/-- A character that has no letter of its own is escaped by its number. -/
theorem hex4?_control {n : Nat} (h : n < 0x20) :
    hex4? '0' '0' (hexChar (n / 16)) (hexChar (n % 16)) = some n := by
  unfold hex4?
  rw [hexDigit?_hexChar (by omega : n / 16 < 16), hexDigit?_hexChar (by omega : n % 16 < 16)]
  have hzero : hexDigit? '0' = some 0 := rfl
  simp only [hzero, Option.bind_eq_bind, Option.bind_some, Option.pure_def, Option.some.injEq]
  omega

/-- The characters that a letter stands for when they are escaped. -/
def common : List Char := ['"', '\\', '\n', '\r', '\t', '\x08', '\x0c']

theorem escaped_of_uncommon {c : Char} (h : c ∉ common) :
    escaped c =
      if c.toNat < 0x20 then ['\\', 'u', '0', '0', hexChar (c.toNat / 16), hexChar (c.toNat % 16)]
      else [c] := by
  simp only [common, List.mem_cons, List.not_mem_nil, or_false, not_or] at h
  obtain ⟨hquote, hback, hline, hreturn, htab, hb, hf⟩ := h
  unfold escaped
  simp only [beq_iff_eq, hquote, hback, hline, hreturn, htab, hb, hf, if_false]

/-- Each character of a text is taken back from what stands for it. -/
theorem quoted_escaped (seen : List Char) (c : Char) (rest : List Char) :
    quoted none (some seen) (escaped c ++ rest) = quoted none (some (c :: seen)) rest := by
  by_cases hcommon : c ∈ common
  · simp only [common, List.mem_cons, List.not_mem_nil, or_false] at hcommon
    rcases hcommon with rfl | rfl | rfl | rfl | rfl | rfl | rfl <;> rfl
  · rw [escaped_of_uncommon hcommon]
    by_cases hcontrol : c.toNat < 0x20
    · have hhigh : isHigh c.toNat = false := by
        simp only [isHigh, Bool.and_eq_false_iff, decide_eq_false_iff_not]
        omega
      have hlow : isLow c.toNat = false := by
        simp only [isLow, Bool.and_eq_false_iff, decide_eq_false_iff_not]
        omega
      rw [if_pos hcontrol]
      simp only [List.cons_append, List.nil_append]
      rw [quoted.eq_def]
      simp only [hex4?_control hcontrol, hhigh, hlow]
      simp [extend, Char.ofNat_toNat]
    · have hquote : c ≠ '"' := fun heq => hcommon (by simp [common, heq])
      have hback : c ≠ '\\' := fun heq => hcommon (by simp [common, heq])
      have hplain : ¬ (decide (c.toNat < 0x20) || c == '\\') = true := by simpa [hback] using hcontrol
      rw [if_neg hcontrol, List.singleton_append, quoted.eq_def]
      split
      all_goals rename_i heq
      all_goals cases heq
      · exact absurd rfl hquote
      · exact absurd rfl hback
      · exact absurd rfl hback
      · rw [if_neg hplain]
        rfl

theorem quoted_text (seen cs rest : List Char) :
    quoted none (some seen) (cs.flatMap escaped ++ '"' :: rest) =
      some (some (String.ofList (seen.reverse ++ cs)), rest) := by
  induction cs generalizing seen with
  | nil => simp [quoted, unpaired]
  | cons c cs ih =>
    rw [List.flatMap_cons, List.append_assoc, quoted_escaped, ih]
    simp

theorem toList_quote (s : String) : (quote s).toList = '"' :: (s.toList.flatMap escaped ++ ['"']) := by
  rw [quote, String.toList_ofList]
  rfl

theorem quotedText_quote (s : String) (rest : List Char) :
    quotedText (s.toList.flatMap escaped ++ '"' :: rest) = some (some s, rest) := by
  rw [quotedText, quoted_text, List.reverse_nil, List.nil_append, String.ofList_toList]

/-! ## One line -/

/-- No character is a control character, and none is a line break. -/
def Shown (cs : List Char) : Prop := ∀ c ∈ cs, 0x20 ≤ c.toNat

theorem shown_of_all {cs : List Char} (h : (cs.all fun c => 0x20 ≤ c.toNat) = true) : Shown cs := by
  simpa [Shown] using h

theorem shown_nil : Shown [] := by
  intro c hc
  cases hc

theorem Shown.append {cs ds : List Char} (h : Shown cs) (h' : Shown ds) : Shown (cs ++ ds) := by
  intro c hc
  rcases List.mem_append.mp hc with hc | hc
  · exact h c hc
  · exact h' c hc

theorem Shown.cons {c : Char} {cs : List Char} (hc : 0x20 ≤ c.toNat) (h : Shown cs) :
    Shown (c :: cs) := by
  intro d hd
  rcases List.mem_cons.mp hd with rfl | hd
  · exact hc
  · exact h d hd

theorem shown_figures {cs : List Char} (h : Figures cs) : Shown cs := by
  intro c hc
  have hfigure := h c hc
  simp only [isFigure, Bool.or_eq_true, beq_iff_eq] at hfigure
  rcases hfigure with (((hdigit | rfl) | rfl) | rfl) | rfl
  · have := (Char.isDigit_iff_toNat.mp hdigit).1
    have hzero : '0'.toNat = 0x30 := rfl
    omega
  all_goals decide

theorem shown_hexChar {n : Nat} (h : n < 16) : 0x20 ≤ (hexChar n).toNat := by
  interval_cases n <;> decide

theorem shown_escaped (c : Char) : Shown (escaped c) := by
  by_cases hcommon : c ∈ common
  · simp only [common, List.mem_cons, List.not_mem_nil, or_false] at hcommon
    rcases hcommon with rfl | rfl | rfl | rfl | rfl | rfl | rfl <;> exact shown_of_all (by decide)
  · rw [escaped_of_uncommon hcommon]
    split
    · rename_i hcontrol
      have hhigh := shown_hexChar (by omega : c.toNat / 16 < 16)
      have hlow := shown_hexChar (by omega : c.toNat % 16 < 16)
      exact .cons (by decide) (.cons (by decide) (.cons (by decide) (.cons (by decide)
        (.cons hhigh (.cons hlow shown_nil)))))
    · rename_i hplain
      exact .cons (Nat.not_lt.mp hplain) shown_nil

theorem shown_quote (s : String) : Shown (quote s).toList := by
  rw [toList_quote]
  refine .cons (by decide) (.append ?_ (.cons (by decide) shown_nil))
  intro c hc
  obtain ⟨d, _, hd⟩ := List.mem_flatMap.mp hc
  exact shown_escaped d c hd

theorem shown_null : Shown "null".toList := shown_of_all (by decide)

theorem shown_atom (d : Data) : Shown (atom d).toList := by
  cases d with
  | bool b => cases b <;> exact shown_of_all (by decide)
  | int n => exact shown_figures (figures_toString n)
  | float x =>
    show Shown ((Shortest.render? x).getD "null").toList
    cases hx : Shortest.render? x with
    | none => exact shown_null
    | some s => exact shown_figures (render?_figures hx).1
  | text s => exact shown_quote s
  | null | list | record | unfit | misnamed | broken => exact shown_null

/-! ### The characters of a value -/

theorem toList_list (items : List Data) :
    (compact (.list items)).toList = '[' :: ((compactItems items).toList ++ [']']) := by
  rw [compact, String.toList_append, String.toList_append]
  rfl

theorem toList_record (fields : List (String × Data)) :
    (compact (.record fields)).toList = '{' :: ((compactFields fields).toList ++ ['}']) := by
  rw [compact, String.toList_append, String.toList_append]
  rfl

theorem toList_list_append (items : List Data) (rest : List Char) :
    (compact (.list items)).toList ++ rest = '[' :: ((compactItems items).toList ++ ']' :: rest) := by
  rw [toList_list]
  simp

theorem toList_record_append (fields : List (String × Data)) (rest : List Char) :
    (compact (.record fields)).toList ++ rest = '{' :: ((compactFields fields).toList ++ '}' :: rest) := by
  rw [toList_record]
  simp

theorem toList_items_cons (d e : Data) (rest : List Data) :
    (compactItems (d :: e :: rest)).toList =
      (compact d).toList ++ ',' :: (compactItems (e :: rest)).toList := by
  rw [compactItems, String.toList_append, String.toList_append, List.append_assoc]
  · rfl
  · simp

theorem toList_field (name : String) (d : Data) :
    (compactFields [(name, d)]).toList = (quote name).toList ++ ':' :: (compact d).toList := by
  rw [compactFields, String.toList_append, String.toList_append, List.append_assoc]
  rfl

theorem toList_fields_cons (name : String) (d : Data) (f : String × Data)
    (rest : List (String × Data)) :
    (compactFields ((name, d) :: f :: rest)).toList =
      (compactFields [(name, d)]).toList ++ ',' :: (compactFields (f :: rest)).toList := by
  rw [toList_field, compactFields, String.toList_append, String.toList_append, String.toList_append,
    String.toList_append]
  · simp only [List.append_assoc]
    rfl
  · simp

mutual

/-- No value breaks its line. -/
theorem shown_compact : (d : Data) → Shown (compact d).toList
  | .list items => by
    rw [toList_list]
    exact .cons (by decide) ((shown_items items).append (.cons (by decide) shown_nil))
  | .record fields => by
    rw [toList_record]
    exact .cons (by decide) ((shown_fields fields).append (.cons (by decide) shown_nil))
  | .null | .bool _ | .int _ | .float _ | .text _ | .unfit | .misnamed _ | .broken => shown_atom _

theorem shown_items : (items : List Data) → Shown (compactItems items).toList
  | [] => shown_nil
  | [d] => shown_compact d
  | d :: e :: rest => by
    rw [toList_items_cons]
    exact (shown_compact d).append (.cons (by decide) (shown_items (e :: rest)))

theorem shown_fields : (fields : List (String × Data)) → Shown (compactFields fields).toList
  | [] => shown_nil
  | [(name, d)] => by
    rw [toList_field]
    exact (shown_quote name).append (.cons (by decide) (shown_compact d))
  | (name, d) :: f :: rest => by
    rw [toList_fields_cons, toList_field]
    exact ((shown_quote name).append (.cons (by decide) (shown_compact d))).append
      (.cons (by decide) (shown_fields (f :: rest)))

end

/-! ## Scalars -/

/-- A value begins with a character that shows and closes nothing. -/
def Opens (cs : List Char) : Prop :=
  ∃ c tail, cs = c :: tail ∧ isBlank c = false ∧ c ≠ ']' ∧ c ≠ '}'

theorem opens_number {cs : List Char} (h : Leads cs ∨ ∃ tail, cs = '-' :: tail) : Opens cs := by
  rcases h with ⟨c, tail, rfl, hc⟩ | ⟨tail, rfl⟩
  · refine ⟨c, tail, rfl, ?_, ?_, ?_⟩
    · unfold isBlank
      simp only [Bool.or_eq_false_iff, beq_eq_false_iff_ne]
      refine ⟨⟨⟨?_, ?_⟩, ?_⟩, ?_⟩ <;> rintro rfl <;> cases hc
    · rintro rfl
      cases hc
    · rintro rfl
      cases hc
  · exact ⟨'-', tail, rfl, rfl, by decide, by decide⟩

theorem leads_integer (n : Int) :
    Leads (toString n).toList ∨ ∃ tail, (toString n).toList = '-' :: tail := by
  rw [Int.toString_eq_repr, Int.repr_eq_if]
  split
  · rw [Nat.repr_eq_ofList_toDigits, String.toList_ofList]
    exact .inl (leads_toDigits _)
  · rw [String.toList_append]
    exact .inr ⟨_, rfl⟩

theorem opens_compact (d : Data) : Opens (compact d).toList := by
  have hnull : Opens "null".toList := ⟨'n', _, rfl, rfl, by decide, by decide⟩
  cases d with
  | bool b =>
    cases b with
    | false => exact ⟨'f', _, rfl, rfl, by decide, by decide⟩
    | true => exact ⟨'t', _, rfl, rfl, by decide, by decide⟩
  | int n => exact opens_number (leads_integer n)
  | float x =>
    show Opens ((Shortest.render? x).getD "null").toList
    cases hx : Shortest.render? x with
    | none => exact hnull
    | some s => exact opens_number (render?_figures hx).2
  | text s =>
    show Opens (quote s).toList
    rw [toList_quote]
    exact ⟨'"', _, rfl, rfl, by decide, by decide⟩
  | list items =>
    rw [toList_list]
    exact ⟨'[', _, rfl, rfl, by decide, by decide⟩
  | record fields =>
    rw [toList_record]
    exact ⟨'{', _, rfl, rfl, by decide, by decide⟩
  | null | unfit | misnamed | broken => exact hnull

theorem skip_shown {c : Char} (h : isBlank c = false) (rest : List Char) : skip (c :: rest) = c :: rest := by
  simp [skip, h]

theorem skip_opens {cs : List Char} (h : Opens cs) (rest : List Char) :
    skip (cs ++ rest) = cs ++ rest := by
  obtain ⟨c, tail, rfl, hc, _⟩ := h
  exact skip_shown hc _

/-- What begins like a number is read as one. -/
theorem scalar?_number {cs : List Char} (h : Leads cs ∨ ∃ tail, cs = '-' :: tail) :
    scalar? cs = (numeral? cs).map fun p => (p.1.toData, p.2) := by
  rcases h with ⟨c, tail, rfl, hc⟩ | ⟨tail, rfl⟩
  · unfold scalar?
    split
    all_goals first
      | rfl
      | rename_i heq
        cases heq
        cases hc
  · rfl

theorem value_scalar {size depth : Nat} {cs rest : List Char} {d : Data}
    (h : scalar? cs = some (d, rest)) : value size depth cs = (d, some rest) := by
  unfold value
  split
  · cases h
  · cases h
  · cases h
  · cases h
  · rw [h]

theorem scalar?_of_value {size depth : Nat} {c : Char} {tail rest : List Char} {d : Data}
    (harray : c ≠ '[') (hobject : c ≠ '{') (h : value size depth (c :: tail) = (d, some rest)) :
    scalar? (c :: tail) = some (d, rest) := by
  unfold value at h
  split at h
  · rename_i heq
    exact absurd (List.cons.inj heq).1 harray
  · rename_i heq
    exact absurd (List.cons.inj heq).1 hobject
  · rename_i heq
    exact absurd (List.cons.inj heq).1 harray
  · rename_i heq
    exact absurd (List.cons.inj heq).1 hobject
  · cases hscalar : scalar? (c :: tail) with
    | none =>
      rw [hscalar] at h
      cases h
    | some p =>
      rw [hscalar] at h
      cases h
      rfl

/-- A text is a document when a value stands in it and nothing but blanks comes
after. -/
theorem value_of_parse? {s : String} {d : Data} (h : parse? s = some d) :
    ∃ rest, value (s.toList.length + 1) maxDepth (skip s.toList) = (d, some rest) ∧ skip rest = [] := by
  unfold parse? scan at h
  dsimp only at h
  cases hvalue : value (s.toList.length + 1) maxDepth (skip s.toList) with
  | mk d' left =>
    rw [hvalue] at h
    cases left with
    | none => cases h
    | some rest =>
      dsimp only at h
      cases hend : (skip rest).isEmpty with
      | false =>
        rw [hend] at h
        cases h
      | true =>
        rw [hend] at h
        dsimp only at h
        split at h
        · cases h
          exact ⟨rest, rfl, List.isEmpty_iff.mp hend⟩
        · cases h

end Failover.Json
