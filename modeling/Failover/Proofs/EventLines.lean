import Failover.Event.Basic
import Failover.Proofs.Records
import Failover.Proofs.Timestamps

-- An event reads back from its line. The line is one document of which the metadata
-- are the only part that nests, so it is their depth that the reader can miss.

namespace Failover

/-! ## Names -/

theorem EventType.decoder_name (k : Dialect) (t : EventType) : decoder k (.text t.name) = .ok t := by
  cases t <;> rfl

theorem ClusterState.decoder_name (k : Dialect) (s : ClusterState) :
    decoder k (.text s.name) = .ok s := by
  cases s <;> rfl

theorem Moment.decoder_toText {m : Moment} (k : Dialect) (h : m.Regular) :
    decoder k (.text m.toText) = .ok m := by
  simp only [decoder, Moment.ofText?_toText h]

namespace FailoverEvent

/-- An event whose metadata are JSON, and the objects in them have their fields in
order. Its time is any that a date and a time of day tell. -/
structure Writable (e : FailoverEvent) : Prop where
  time : e.time.Regular
  json : ∀ f ∈ e.metadata.entries, Json.IsJson f.2
  canonical : ∀ f ∈ e.metadata.entries, f.2.canonical = f.2

/-- The metadata nest no deeper than the reader goes, two levels down. -/
def Shallow (e : FailoverEvent) : Prop := ∀ f ∈ e.metadata.entries, Json.height f.2 ≤ 125

instance (e : FailoverEvent) : Decidable e.Shallow :=
  inferInstanceAs (Decidable (∀ f ∈ e.metadata.entries, Json.height f.2 ≤ 125))

/-- The line of an event with its metadata in this order. -/
def lineIn (e : FailoverEvent) (entries : List (String × Data)) : String :=
  Json.compact (.record (e.membersIn entries))

variable {e : FailoverEvent} {entries : List (String × Data)}

/-! ## The document -/

theorem optional_ofOption (k : Dialect) (name : Option String) :
    Decode.optional Decode.string k (Data.ofOption .text name) = .ok name := by
  cases name <;> rfl

theorem ofOption_named (name : Option String) (d : Data) : Data.ofOption .text name ≠ .misnamed d := by
  cases name <;> exact nofun

/-- The reader stores each member in its place. -/
theorem decoder_membersIn (he : e.Writable) (horder : entries.Perm e.metadata.entries) :
    decoder .json (.record (e.membersIn entries)) = .ok e := by
  have htype := EventType.decoder_name .json e.type
  have htrigger := optional_ofOption .json e.trigger
  have htarget := optional_ofOption .json e.target
  have hold := ClusterState.decoder_name .json e.oldState
  have hnew := ClusterState.decoder_name .json e.newState
  have htime := Moment.decoder_toText .json he.time
  have hmetadata := Decode.tableOf_anything (k := .json) horder
    (fun f hf => (he.json f hf).intact) he.canonical
  refine Decode.record_of_stored (fields.map (·.name)).reverse ?_ rfl
  refine Eq.trans (Decode.storeMembers_stored rfl rfl rfl nofun rfl) ?_
  refine Eq.trans (Decode.storeMembers_stored rfl rfl rfl nofun htype) ?_
  refine Eq.trans (Decode.storeMembers_stored rfl rfl rfl (ofOption_named _) htrigger) ?_
  refine Eq.trans (Decode.storeMembers_stored rfl rfl rfl (ofOption_named _) htarget) ?_
  refine Eq.trans (Decode.storeMembers_stored rfl rfl rfl nofun hold) ?_
  refine Eq.trans (Decode.storeMembers_stored rfl rfl rfl nofun hnew) ?_
  refine Eq.trans (Decode.storeMembers_stored rfl rfl rfl nofun htime) ?_
  refine Eq.trans (Decode.storeMembers_stored rfl rfl rfl nofun rfl) ?_
  refine Eq.trans (Decode.storeMembers_stored rfl rfl rfl nofun hmetadata) ?_
  rfl

theorem mem_membersIn {f : String × Data} (hf : f ∈ e.membersIn entries) :
    f = ("metadata", .record entries) ∨ (∃ s, f.2 = .text s) ∨ f.2 = .null := by
  have hoption : ∀ name : Option String,
      (∃ s, Data.ofOption Data.text name = .text s) ∨ Data.ofOption Data.text name = .null := by
    rintro (_ | name)
    · exact .inr rfl
    · exact .inl ⟨name, rfl⟩
  simp only [membersIn, List.mem_cons, List.not_mem_nil, or_false] at hf
  rcases hf with rfl | rfl | rfl | rfl | rfl | rfl | rfl | rfl | rfl
  · exact .inr (.inl ⟨_, rfl⟩)
  · exact .inr (.inl ⟨_, rfl⟩)
  · exact .inr (hoption _)
  · exact .inr (hoption _)
  · exact .inr (.inl ⟨_, rfl⟩)
  · exact .inr (.inl ⟨_, rfl⟩)
  · exact .inr (.inl ⟨_, rfl⟩)
  · exact .inr (.inl ⟨_, rfl⟩)
  · exact .inl rfl

theorem isJson_membersIn (he : e.Writable) (horder : entries.Perm e.metadata.entries) :
    ∀ f ∈ e.membersIn entries, Json.IsJson f.2 := by
  intro f hf
  rcases mem_membersIn hf with rfl | ⟨s, hs⟩ | hnull
  · exact .record fun m hm => he.json m (horder.mem_iff.mp hm)
  · rw [hs]
    exact .text s
  · rw [hnull]
    exact .null

/-- Only the metadata nest. -/
theorem height_membersIn {f : String × Data} (hf : f ∈ e.membersIn entries) (h : 0 < Json.height f.2) :
    f = ("metadata", .record entries) := by
  rcases mem_membersIn hf with heq | ⟨s, hs⟩ | hnull
  · exact heq
  · rw [hs] at h
    cases h
  · rw [hnull] at h
    cases h

theorem shallow_iff (horder : entries.Perm e.metadata.entries) :
    e.Shallow ↔ Json.height (.record entries) ≤ 126 := by
  rw [Json.height, Nat.add_le_add_iff_right, Json.heightFields_le]
  unfold Shallow
  simp only [horder.mem_iff]

/-! ## The line -/

theorem ofLine?_shallow (he : e.Writable) (horder : entries.Perm e.metadata.entries) (h : e.Shallow) :
    ofLine? (e.lineIn entries) = some e := by
  have hjson : Json.IsJson (.record (e.membersIn entries)) := .record (isJson_membersIn he horder)
  have hheight : Json.height (.record (e.membersIn entries)) ≤ Json.maxDepth := by
    rw [Json.height, Json.maxDepth, Nat.add_le_add_iff_right, Json.heightFields_le]
    intro f hf
    by_cases hflat : 0 < Json.height f.2
    · rw [height_membersIn hf hflat]
      exact (shallow_iff horder).mp h
    · omega
  unfold ofLine? lineIn
  rw [Json.read?_compact hjson hheight, decoder_membersIn he horder]
  rfl

/-- Metadata that are known in part are no metadata. -/
theorem decoder_refuses {members : List (String × Data)} {d : Data} (hmem : ("metadata", d) ∈ members)
    (hpart : d.intact = false) : (decoder .json (.record members)).toOption = none := by
  obtain ⟨fault, hfault⟩ := Decode.tableOf_anything_partial (k := .json) hpart
  obtain ⟨fault', hfault'⟩ :
      ∃ fault, Decode.storeMembers .json fields [] default members = .error fault :=
    Decode.storeMembers_refused rfl rfl hfault hmem [] default
  rw [decoder, Decode.record, hfault']
  rfl

theorem ofLine?_deep (he : e.Writable) (horder : entries.Perm e.metadata.entries) (h : ¬ e.Shallow) :
    ofLine? (e.lineIn entries) = none := by
  rw [shallow_iff horder, Nat.not_le] at h
  refine Json.read?_deep (isJson_membersIn he horder) ⟨("metadata", .record entries), ?_, h⟩ ?_
  · unfold membersIn
    simp
  · rintro found ⟨f, hf, hdeep, d, hd, hpart⟩
    rw [height_membersIn hf (Nat.lt_of_lt_of_le (by decide) hdeep)] at hd
    exact decoder_refuses hd hpart

end FailoverEvent

/-- The line of an event has no control character in it, so no line break. In whatever
order the metadata were written down, it reads back to the event when they nest no deeper
than the reader goes, and to none otherwise. -/
theorem the_line_of_an_event_reads_back (e : FailoverEvent) (entries : List (String × Data))
    (horder : entries.Perm e.metadata.entries) :
    (∀ c ∈ (e.lineIn entries).toList, 0x20 ≤ c.toNat) ∧
      (e.Writable →
        FailoverEvent.ofLine? (e.lineIn entries) = if e.Shallow then some e else none) := by
  refine ⟨Json.shown_compact _, fun he => ?_⟩
  split
  · rename_i h
    exact FailoverEvent.ofLine?_shallow he horder h
  · rename_i h
    exact FailoverEvent.ofLine?_deep he horder h

/-! ### Two events -/

/-- A failover that took twelve milliseconds and a half. -/
def FailoverEvent.finished : FailoverEvent where
  id := "f"
  type := .failoverCompleted
  trigger := some "p"
  target := none
  oldState := .failoverInProgress
  newState := .failoverComplete
  time := .ofMillis 1700000000123
  reason := "\"s\"\n\\"
  metadata := .ofList [("attempt", .int 2), ("failover_time_ms", .float 12.5)]

theorem FailoverEvent.finished_writable : FailoverEvent.finished.Writable where
  time := ⟨by decide, nofun⟩
  json := by
    intro f hf
    have hmem : f ∈ [("attempt", Data.int 2), ("failover_time_ms", Data.float 12.5)] := hf
    simp only [List.mem_cons, List.not_mem_nil, or_false] at hmem
    rcases hmem with rfl | rfl
    · exact .int ⟨by decide, by decide⟩
    · exact .float rfl
  canonical := by
    intro f hf
    have hmem : f ∈ [("attempt", Data.int 2), ("failover_time_ms", Data.float 12.5)] := hf
    simp only [List.mem_cons, List.not_mem_nil, or_false] at hmem
    rcases hmem with rfl | rfl <;> rfl

/-- Arrays in one another. -/
def Data.nested : Nat → Data
  | 0 => .list []
  | n + 1 => .list [nested n]

theorem Data.isJson_nested (n : Nat) : Json.IsJson (nested n) := by
  induction n with
  | zero => exact .list (by simp)
  | succ n ih => exact .list (by simpa using ih)

theorem Data.canonical_nested (n : Nat) : (nested n).canonical = nested n := by
  induction n with
  | zero => rfl
  | succ n ih => simp [nested, canonical, canonicalItems, ih]

theorem Data.height_nested (n : Nat) : Json.height (nested n) = n + 1 := by
  induction n with
  | zero => rfl
  | succ n ih => simp [nested, Json.height, Json.heightItems, ih]

/-- An event with a hundred and twenty-six arrays in one another. -/
def FailoverEvent.deep : FailoverEvent :=
  { FailoverEvent.finished with metadata := .ofList [("x", .nested 125)] }

theorem FailoverEvent.deep_writable : FailoverEvent.deep.Writable where
  time := ⟨by decide, nofun⟩
  json := by
    intro f hf
    rw [List.mem_singleton.mp hf]
    exact Data.isJson_nested 125
  canonical := by
    intro f hf
    rw [List.mem_singleton.mp hf]
    exact Data.canonical_nested 125

theorem FailoverEvent.deep_not_shallow : ¬ FailoverEvent.deep.Shallow := by
  intro h
  have hheight := h ("x", .nested 125) (List.mem_cons_self ..)
  rw [Data.height_nested] at hheight
  omega

theorem the_line_of_an_event_reads_back_from_either_order :
    [("failover_time_ms", Data.float 12.5), ("attempt", Data.int 2)].Perm
        FailoverEvent.finished.metadata.entries ∧
      FailoverEvent.finished.Writable ∧
      FailoverEvent.ofLine? (FailoverEvent.finished.lineIn
        [("failover_time_ms", .float 12.5), ("attempt", .int 2)]) = some .finished ∧
      FailoverEvent.ofLine? FailoverEvent.deep.line = none := by
  have horder : [("failover_time_ms", Data.float 12.5), ("attempt", Data.int 2)].Perm
      FailoverEvent.finished.metadata.entries := .swap ..
  have hread := (the_line_of_an_event_reads_back _ _ horder).2 FailoverEvent.finished_writable
  have hnone := (the_line_of_an_event_reads_back .deep _ (.refl _)).2 FailoverEvent.deep_writable
  exact ⟨horder, FailoverEvent.finished_writable, hread, hnone.trans (if_neg FailoverEvent.deep_not_shallow)⟩

/-- An event that JSON can hold, but whose line does not read back. -/
theorem the_line_of_a_deep_event_is_lost :
    FailoverEvent.deep.Writable ∧ FailoverEvent.ofLine? FailoverEvent.deep.line ≠ some .deep := by
  have hlost : FailoverEvent.ofLine? FailoverEvent.deep.line = none :=
    FailoverEvent.ofLine?_deep FailoverEvent.deep_writable (.refl _) FailoverEvent.deep_not_shallow
  refine ⟨FailoverEvent.deep_writable, ?_⟩
  rw [hlost]
  exact nofun

end Failover
