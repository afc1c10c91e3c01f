import Failover.Data.Json
import Failover.Proofs.Decimals

-- Numbers in JSON text. What follows a number in a document does not belong to it,
-- and an integer of 64 bits reads back from its digits.

namespace Failover.Json

/-- A value is over: nothing comes next, or a comma or a closing bracket. -/
def Stops (rest : List Char) : Prop := ∀ c ∈ rest.head?, c = ',' ∨ c = ']' ∨ c = '}'

theorem stops_nil : Stops [] := by
  intro c hc
  cases hc

theorem stops_comma (rest : List Char) : Stops (',' :: rest) := by
  intro c hc
  cases hc
  exact .inl rfl

theorem stops_bracket (rest : List Char) : Stops (']' :: rest) := by
  intro c hc
  cases hc
  exact .inr (.inl rfl)

theorem stops_brace (rest : List Char) : Stops ('}' :: rest) := by
  intro c hc
  cases hc
  exact .inr (.inr rfl)

theorem Stops.noDigit {rest : List Char} (h : Stops rest) : NoDigit rest := by
  intro c hc
  rcases h c hc with rfl | rfl | rfl <;> rfl

/-- A number goes on with a point or an exponent, but not here. -/
theorem Stops.ends {rest : List Char} (h : Stops rest) :
    fraction? rest = some (none, rest) ∧ exponent? rest = some (none, rest) := by
  cases rest with
  | nil => exact ⟨rfl, rfl⟩
  | cons c rest => rcases h c rfl with rfl | rfl | rfl <;> exact ⟨rfl, rfl⟩

variable {cs rest after : List Char}

/-! ## What follows a number -/

theorem digits_append (cs : List Char) (h : NoDigit rest) :
    digits (cs ++ rest) = ((digits cs).1, (digits cs).2 ++ rest) := by
  unfold digits
  induction cs with
  | nil => exact Prod.ext h.takeWhile h.dropWhile
  | cons c cs ih =>
    by_cases hc : c.isDigit = true
    · simp [hc] at ih ⊢
      exact ih
    · simp [hc]

theorem someDigits?_append {ds : List Char} (hcs : someDigits? cs = some (ds, after))
    (h : NoDigit rest) : someDigits? (cs ++ rest) = some (ds, after ++ rest) := by
  unfold someDigits? at hcs ⊢
  rw [digits_append cs h]
  split at hcs
  · cases hcs
  · rename_i hsome
    rw [Option.some.injEq] at hcs
    rw [if_neg hsome, hcs]

theorem whole?_append {ds : List Char} (hcs : whole? cs = some (ds, after)) (h : NoDigit rest) :
    whole? (cs ++ rest) = some (ds, after ++ rest) := by
  unfold whole? at hcs ⊢
  obtain ⟨hdigits, hzero⟩ := Option.filter_eq_some_iff.mp hcs
  rw [someDigits?_append hdigits h]
  exact Option.filter_eq_some_iff.mpr ⟨rfl, hzero⟩

theorem minus_append (h : cs ≠ []) (rest : List Char) :
    minus (cs ++ rest) = ((minus cs).1, (minus cs).2 ++ rest) := by
  obtain ⟨c, cs, rfl⟩ := List.exists_cons_of_ne_nil h
  unfold minus
  split
  · rename_i heq
    cases heq
    rfl
  · rename_i hnot
    split
    · rename_i heq
      cases heq
      exact absurd rfl (hnot _)
    · rfl

theorem sign_append (h : cs ≠ []) (rest : List Char) :
    sign (cs ++ rest) = ((sign cs).1, (sign cs).2 ++ rest) := by
  obtain ⟨c, cs, rfl⟩ := List.exists_cons_of_ne_nil h
  by_cases hplus : c = '+'
  · subst hplus
    rfl
  · have hsign : ∀ tail, sign (c :: tail) = minus (c :: tail) := by
      intro tail
      unfold sign
      split
      · rename_i heq
        cases heq
        exact absurd rfl hplus
      · rfl
    rw [List.cons_append, hsign, hsign]
    exact minus_append (List.cons_ne_nil _ _) rest

theorem fraction?_append {f : Option (List Char)} (hcs : fraction? cs = some (f, after))
    (h : Stops rest) : fraction? (cs ++ rest) = some (f, after ++ rest) := by
  unfold fraction? at hcs
  split at hcs
  · rename_i tail
    rw [Option.map_eq_some_iff] at hcs
    obtain ⟨⟨ds, left⟩, hdigits, heq⟩ := hcs
    cases heq
    simp only [List.cons_append, fraction?, someDigits?_append hdigits h.noDigit, Option.map_some]
  · rename_i hnot
    cases hcs
    cases cs with
    | nil => exact h.ends.1
    | cons c cs =>
      unfold fraction?
      split
      · rename_i heq
        cases heq
        exact absurd rfl (hnot _)
      · rfl

theorem exponent?_append {e : Option (Bool × List Char)} (hcs : exponent? cs = some (e, after))
    (h : Stops rest) : exponent? (cs ++ rest) = some (e, after ++ rest) := by
  have hsome : ∀ tail, (someDigits? (sign tail).2).map (fun p => (some ((sign tail).1, p.1), p.2)) =
      some (e, after) →
      (someDigits? (sign (tail ++ rest)).2).map (fun p => (some ((sign (tail ++ rest)).1, p.1), p.2)) =
        some (e, after ++ rest) := by
    intro tail htail
    rw [Option.map_eq_some_iff] at htail
    obtain ⟨⟨ds, left⟩, hdigits, heq⟩ := htail
    cases heq
    have htail : tail ≠ [] := by
      rintro rfl
      cases hdigits
    rw [sign_append htail, someDigits?_append hdigits h.noDigit]
    rfl
  unfold exponent? at hcs
  split at hcs
  · exact hsome _ hcs
  · exact hsome _ hcs
  · rename_i hlower hupper
    cases hcs
    cases cs with
    | nil => exact h.ends.2
    | cons c cs =>
      unfold exponent?
      split
      · rename_i heq
        cases heq
        exact absurd rfl (hlower _)
      · rename_i heq
        cases heq
        exact absurd rfl (hupper _)
      · rfl

/-- A number is read in the same way when something comes after it. -/
theorem numeral?_append {n : Numeral} (hcs : numeral? cs = some (n, after)) (h : Stops rest) :
    numeral? (cs ++ rest) = some (n, after ++ rest) := by
  simp only [numeral?, Option.bind_eq_bind, Option.bind_eq_some_iff] at hcs
  obtain ⟨⟨whole, cs₁⟩, hwhole, ⟨f, cs₂⟩, hfraction, ⟨e, cs₃⟩, hexponent, hn⟩ := hcs
  cases hn
  have hcs : cs ≠ [] := by
    rintro rfl
    cases hwhole
  simp only [numeral?, minus_append hcs, whole?_append hwhole h.noDigit, fraction?_append hfraction h,
    exponent?_append hexponent h, Option.bind_eq_bind, Option.bind_some]
  rfl

/-! ## What a number leaves -/

theorem someDigits?_suffix {ds : List Char} (h : someDigits? cs = some (ds, after)) :
    after <:+ cs := by
  unfold someDigits? at h
  split at h
  · cases h
  · cases h
    exact List.dropWhile_suffix _

theorem minus_suffix (cs : List Char) : (minus cs).2 <:+ cs := by
  unfold minus
  split
  · exact List.suffix_cons _ _
  · exact List.suffix_rfl

theorem sign_suffix (cs : List Char) : (sign cs).2 <:+ cs := by
  unfold sign
  split
  · exact List.suffix_cons _ _
  · exact minus_suffix _

theorem fraction?_suffix {f : Option (List Char)} (h : fraction? cs = some (f, after)) :
    after <:+ cs := by
  unfold fraction? at h
  split at h
  · obtain ⟨⟨ds, left⟩, hdigits, heq⟩ := Option.map_eq_some_iff.mp h
    cases heq
    exact (someDigits?_suffix hdigits).trans (List.suffix_cons _ _)
  · cases h
    exact List.suffix_rfl

theorem exponent?_suffix {e : Option (Bool × List Char)} (h : exponent? cs = some (e, after)) :
    after <:+ cs := by
  unfold exponent? at h
  split at h
  · obtain ⟨⟨ds, left⟩, hdigits, heq⟩ := Option.map_eq_some_iff.mp h
    cases heq
    exact ((someDigits?_suffix hdigits).trans (sign_suffix _)).trans (List.suffix_cons _ _)
  · obtain ⟨⟨ds, left⟩, hdigits, heq⟩ := Option.map_eq_some_iff.mp h
    cases heq
    exact ((someDigits?_suffix hdigits).trans (sign_suffix _)).trans (List.suffix_cons _ _)
  · cases h
    exact List.suffix_rfl

theorem numeral?_suffix {n : Numeral} (h : numeral? cs = some (n, after)) : after <:+ cs := by
  simp only [numeral?, Option.bind_eq_bind, Option.bind_eq_some_iff] at h
  obtain ⟨⟨whole, cs₁⟩, hwhole, ⟨f, cs₂⟩, hfraction, ⟨e, cs₃⟩, hexponent, hn⟩ := h
  cases hn
  have hdigits := (Option.filter_eq_some_iff.mp hwhole).1
  exact (exponent?_suffix hexponent).trans <| (fraction?_suffix hfraction).trans <|
    (someDigits?_suffix hdigits).trans (minus_suffix cs)

/-! ## Integers -/

theorem whole?_toDigits (n : Nat) (h : NoDigit rest) :
    whole? (Nat.toDigits 10 n ++ rest) = some (Nat.toDigits 10 n, rest) := by
  have hspells := spells_toDigits n
  have hdigits : digits (Nat.toDigits 10 n ++ rest) = (Nat.toDigits 10 n, rest) :=
    Prod.ext (takeWhile_digits hspells.digits h) (dropWhile_digits hspells.digits h)
  have hzero : (Nat.toDigits 10 n).length > 1 → (Nat.toDigits 10 n).head? ≠ some '0' := by
    intro hlong
    refine head_toDigits (Nat.pos_of_ne_zero ?_)
    rintro rfl
    exact absurd hlong (by decide)
  unfold whole? someDigits?
  rw [hdigits, if_neg (by simp)]
  refine Option.filter_eq_some_iff.mpr ⟨rfl, ?_⟩
  simpa [Nat.not_lt, imp_iff_not_or] using hzero

theorem numeral?_toDigits (n : Nat) (h : Stops rest) :
    numeral? (Nat.toDigits 10 n ++ rest) = some (⟨false, Nat.toDigits 10 n, none, none⟩, rest) ∧
      numeral? ('-' :: (Nat.toDigits 10 n ++ rest)) =
        some (⟨true, Nat.toDigits 10 n, none, none⟩, rest) := by
  have hplain : minus (Nat.toDigits 10 n ++ rest) = (false, Nat.toDigits 10 n ++ rest) := by
    have hspells := spells_toDigits n
    obtain ⟨c, cs, hcs⟩ := List.exists_cons_of_ne_nil hspells.nonempty
    have hc := hspells.digits c (hcs ▸ List.mem_cons_self ..)
    rw [hcs, List.cons_append]
    unfold minus
    split
    · rename_i heq
      cases heq
      cases hc
    · rfl
  constructor
  · simp only [numeral?, hplain, whole?_toDigits n h.noDigit, h.ends, Option.bind_eq_bind,
      Option.bind_some]
    rfl
  · simp only [numeral?, minus, whole?_toDigits n h.noDigit, h.ends, Option.bind_eq_bind,
      Option.bind_some]
    rfl

/-- The integers that a document can hold: those of 64 bits, with or without a
sign. -/
def IsInteger (n : Int) : Prop := -(twoTo 63) ≤ n ∧ n < twoTo 64

/-- Digits alone, with or without a minus, are an integer when they fit. -/
theorem toData_natural {n : Nat} (h : n < twoTo 64) :
    Numeral.toData ⟨false, Nat.toDigits 10 n, none, none⟩ = .int n := by
  have hint : Numeral.int? ⟨false, Nat.toDigits 10 n, none, none⟩ = some (n : Int) := by
    simp only [Numeral.int?, natOf_digits, (spells_toDigits n).value]
    simp [h]
  simp only [Numeral.toData, hint]

theorem toData_negative {n : Nat} (hpos : 0 < n) (h : n ≤ twoTo 63) :
    Numeral.toData ⟨true, Nat.toDigits 10 n, none, none⟩ = .int (-n) := by
  have hint : Numeral.int? ⟨true, Nat.toDigits 10 n, none, none⟩ = some (-(n : Int)) := by
    simp only [Numeral.int?, natOf_digits, (spells_toDigits n).value]
    simp [hpos, h]
  simp only [Numeral.toData, hint]

theorem numeral?_integer {n : Int} (hn : IsInteger n) (h : Stops rest) :
    ∃ numeral : Numeral, numeral? ((toString n).toList ++ rest) = some (numeral, rest) ∧
      numeral.toData = .int n := by
  unfold IsInteger at hn
  rw [Int.toString_eq_repr, Int.repr_eq_if]
  split
  · rw [Nat.repr_eq_ofList_toDigits, String.toList_ofList]
    refine ⟨_, (numeral?_toDigits n.toNat h).1, ?_⟩
    rw [toData_natural (by omega)]
    congr 1
    omega
  · have hminus : "-".toList = ['-'] := rfl
    rw [Nat.repr_eq_ofList_toDigits, String.toList_append, hminus, String.toList_ofList,
      List.append_assoc, List.singleton_append]
    refine ⟨_, (numeral?_toDigits (-n).toNat h).2, ?_⟩
    rw [toData_negative (by omega) (by omega)]
    congr 1
    omega

/-! ## Figures -/

/-- The characters that numbers are written with. -/
def isFigure (c : Char) : Bool := c.isDigit || c == '.' || c == 'e' || c == '+' || c == '-'

/-- Nothing but figures. -/
def Figures (cs : List Char) : Prop := ∀ c ∈ cs, isFigure c = true

theorem figures_of_all {cs : List Char} (h : cs.all isFigure = true) : Figures cs := by
  simpa [Figures] using h

theorem Figures.append {cs ds : List Char} (h : Figures cs) (h' : Figures ds) : Figures (cs ++ ds) := by
  intro c hc
  rcases List.mem_append.mp hc with hc | hc
  · exact h c hc
  · exact h' c hc

theorem Figures.sublist {cs ds : List Char} (h : Figures cs) (hsub : ds.Sublist cs) : Figures ds :=
  fun c hc => h c (hsub.subset hc)

theorem Figures.take {cs : List Char} (h : Figures cs) (n : Nat) : Figures (cs.take n) :=
  h.sublist (List.take_sublist n cs)

theorem Figures.drop {cs : List Char} (h : Figures cs) (n : Nat) : Figures (cs.drop n) :=
  h.sublist (List.drop_sublist n cs)

theorem figures_toDigits (n : Nat) : Figures (Nat.toDigits 10 n) := by
  intro c hc
  unfold isFigure
  rw [(spells_toDigits n).digits c hc]
  rfl

theorem figures_zeros (n : Nat) : Figures (List.replicate n '0') := by
  intro c hc
  rw [List.eq_of_mem_replicate hc]
  rfl

theorem figures_toString (n : Int) : Figures (toString n).toList := by
  rw [Int.toString_eq_repr, Int.repr_eq_if]
  split
  · rw [Nat.repr_eq_ofList_toDigits, String.toList_ofList]
    exact figures_toDigits _
  · have hminus : Figures "-".toList := figures_of_all (by decide)
    rw [Nat.repr_eq_ofList_toDigits, String.toList_append]
    refine hminus.append ?_
    rw [String.toList_ofList]
    exact figures_toDigits _

/-- The first character is a digit. -/
def Leads (cs : List Char) : Prop := ∃ c tail, cs = c :: tail ∧ c.isDigit = true

theorem Leads.append {cs : List Char} (h : Leads cs) (ds : List Char) : Leads (cs ++ ds) := by
  obtain ⟨c, tail, rfl, hc⟩ := h
  exact ⟨c, tail ++ ds, rfl, hc⟩

theorem Leads.take {cs : List Char} (h : Leads cs) {n : Nat} (hn : 0 < n) : Leads (cs.take n) := by
  obtain ⟨c, tail, rfl, hc⟩ := h
  obtain ⟨m, rfl⟩ := Nat.exists_eq_succ_of_ne_zero (Nat.ne_of_gt hn)
  exact ⟨c, tail.take m, rfl, hc⟩

theorem leads_toDigits (n : Nat) : Leads (Nat.toDigits 10 n) := by
  have hspells := spells_toDigits n
  obtain ⟨c, tail, hcs⟩ := List.exists_cons_of_ne_nil hspells.nonempty
  exact ⟨c, tail, hcs, hspells.digits c (hcs ▸ List.mem_cons_self ..)⟩

/-! ## Floats -/

theorem layout_figures (d : Shortest.Digits) :
    Figures (Shortest.layout d).toList ∧ Leads (Shortest.layout d).toList := by
  have hdigits := figures_toDigits d.digits
  have hleads := leads_toDigits d.digits
  have hpoint : Figures ".0".toList ∧ Figures ".".toList ∧ Figures "0.".toList ∧ Figures "0.0".toList ∧
      Figures "e".toList ∧ Figures "e+".toList := by
    refine ⟨?_, ?_, ?_, ?_, ?_, ?_⟩ <;> exact figures_of_all (by decide)
  obtain ⟨hpointZero, hpoint, hzeroPoint, hzero, hsmall, hlarge⟩ := hpoint
  unfold Shortest.layout
  simp only [toList_toString]
  by_cases hnone : d.digits = 0
  · rw [if_pos (beq_iff_eq.mpr hnone)]
    exact ⟨hzero, '0', ['.', '0'], rfl, rfl⟩
  rw [if_neg (by simpa using hnone)]
  split
  · -- zeros before the point
    simp only [String.toList_append, String.toList_ofList, toList_toString]
    exact ⟨(hdigits.append (figures_zeros _)).append hpointZero, (hleads.append _).append _⟩
  · split
    · -- the point among the digits
      rename_i hplace
      have hplace := (Bool.and_eq_true_iff.mp hplace).1
      simp only [String.toList_append, String.toList_ofList]
      refine ⟨((hdigits.take _).append hpoint).append (hdigits.drop _),
        ((hleads.take ?_).append _).append _⟩
      simpa using hplace
    · split
      · -- zeros after the point
        simp only [String.toList_append, String.toList_ofList, toList_toString]
        exact ⟨(hzeroPoint.append (figures_zeros _)).append hdigits, '0', _, rfl, rfl⟩
      · -- one digit before the point, and an exponent
        simp only [String.toList_append, String.toList_ofList]
        refine ⟨(((hdigits.take _).append ?_).append ?_).append (figures_toString _),
          (((hleads.take Nat.one_pos).append _).append _).append _⟩
        · split
          · intro c hc
            cases hc
          · rw [String.toList_append]
            refine hpoint.append ?_
            rw [String.toList_ofList]
            exact hdigits.drop _
        · split
          · exact hsmall
          · exact hlarge

theorem render?_figures {x : Float} {s : String} (h : Shortest.render? x = some s) :
    Figures s.toList ∧ (Leads s.toList ∨ ∃ tail, s.toList = '-' :: tail) := by
  unfold Shortest.render? at h
  obtain ⟨b, _, rfl⟩ := Option.map_eq_some_iff.mp h
  obtain ⟨hfigures, hleads⟩ := layout_figures (Shortest.ofBinary b)
  have hminus : Figures "-".toList := figures_of_all (by decide)
  rw [String.toList_append]
  split
  · exact ⟨hminus.append hfigures, .inr ⟨_, rfl⟩⟩
  · exact ⟨hfigures, .inl hleads⟩

end Failover.Json
