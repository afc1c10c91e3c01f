import Failover.Proofs.EventLines
import Failover.Proofs.RecentEvents

-- The file of an event log. Every event adds one line at its end, and the file keeps
-- what memory lets go.

namespace Failover

/-! ## Bytes -/

theorem Text.ofBytes?_bytesOf (s : String) : ofBytes? (bytesOf s) = some s := by
  have hbytes : (bytesOf s).toByteArray = s.toByteArray := by
    rw [← String.utf8Encode_toList, List.utf8Encode, bytesOf]
  simp [ofBytes?, hbytes, String.fromUTF8?, s.isValidUTF8, String.fromUTF8]

theorem Text.bytesOf_append (s t : String) : bytesOf (s ++ t) = bytesOf s ++ bytesOf t := by
  simp [bytesOf]

/-- The byte that ends a line. -/
def lineBreak : UInt8 := 10

/-- A character that is no control character is written without the byte of a line
break. Beyond ASCII every byte of a character is larger. -/
theorem lineBreak_not_mem_encodeChar {c : Char} (h : 0x20 ≤ c.toNat) :
    lineBreak ∉ String.utf8EncodeChar c := by
  have hother : ∀ k : Nat, k % 256 ≠ 10 → lineBreak ≠ UInt8.ofNat k := by
    intro k hk heq
    apply hk
    simpa [lineBreak] using (congrArg UInt8.toNat heq).symm
  have hval : c.val.toNat = c.toNat := rfl
  unfold String.utf8EncodeChar
  dsimp only
  rw [hval]
  split
  · simp only [List.mem_singleton]
    exact hother _ (by omega)
  · split
    · simp only [List.mem_cons, List.not_mem_nil, or_false, not_or]
      exact ⟨hother _ (by omega), hother _ (by omega)⟩
    · split
      · simp only [List.mem_cons, List.not_mem_nil, or_false, not_or]
        exact ⟨hother _ (by omega), hother _ (by omega), hother _ (by omega)⟩
      · simp only [List.mem_cons, List.not_mem_nil, or_false, not_or]
        exact ⟨hother _ (by omega), hother _ (by omega), hother _ (by omega), hother _ (by omega)⟩

/-- The bytes of the line of an event. -/
def FailoverEvent.lineBytes (e : FailoverEvent) : List UInt8 := Text.bytesOf e.line

theorem FailoverEvent.lineBreak_not_mem (e : FailoverEvent) : lineBreak ∉ e.lineBytes := by
  intro hmem
  obtain ⟨c, hc, hbyte⟩ := List.mem_flatMap.mp hmem
  exact lineBreak_not_mem_encodeChar (Json.shown_compact _ c hc) hbyte

theorem FailoverEvent.bytesOf_line (e : FailoverEvent) :
    Text.bytesOf (e.line ++ "\n") = e.lineBytes ++ [lineBreak] := by
  rw [Text.bytesOf_append]
  rfl

/-- The event that the bytes of a line hold. -/
def FailoverEvent.ofLineBytes? (bytes : List UInt8) : Option FailoverEvent :=
  (Text.ofBytes? bytes).bind FailoverEvent.ofLine?

/-! ## Lines -/

/-- The lines of a file. What comes after the last line break is one too, if anything
comes there. -/
def linesOf (bytes : List UInt8) : List (List UInt8) :=
  let parts := bytes.splitOn lineBreak
  if parts.getLast? = some [] then parts.dropLast else parts

/-- A file that breaks off nowhere: it is empty, or its last line is ended. -/
def Whole (bytes : List UInt8) : Prop := bytes = [] ∨ ∃ before, bytes = before ++ [lineBreak]

/-- Lines one after the other, each with its end. -/
def joined (lines : List (List UInt8)) : List UInt8 := lines.flatMap fun line => line ++ [lineBreak]

theorem splitOn_joined {lines : List (List UInt8)} (h : ∀ line ∈ lines, lineBreak ∉ line) :
    (joined lines).splitOn lineBreak = lines ++ [[]] := by
  induction lines with
  | nil => simp [joined]
  | cons line rest ih =>
    have hline := h line (List.mem_cons_self ..)
    have hrest := ih fun line hline => h line (List.mem_cons_of_mem _ hline)
    have hjoined : joined (line :: rest) = line ++ lineBreak :: joined rest := by
      simp [joined]
    rw [hjoined, List.splitOn_append_cons_self_of_not_mem hline, hrest]
    rfl

/-- The first line goes on where the file breaks off; the others are lines of their own. -/
theorem linesOf_append (old line : List UInt8) {rest : List (List UInt8)}
    (h : ∀ line ∈ rest, lineBreak ∉ line) :
    linesOf (old ++ joined (line :: rest)) = (old ++ line).splitOn lineBreak ++ rest := by
  have hjoined : old ++ joined (line :: rest) = (old ++ line) ++ lineBreak :: joined rest := by
    simp [joined]
  unfold linesOf
  rw [hjoined, List.splitOn_append_cons_self, splitOn_joined h, ← List.append_assoc]
  simp

theorem splitOn_whole {old line : List UInt8} (hold : Whole old) (hline : lineBreak ∉ line) :
    ∃ before, (old ++ line).splitOn lineBreak = before ++ [line] := by
  rcases hold with rfl | ⟨old, rfl⟩
  · exact ⟨[], by simp [List.splitOn_eq_singleton hline]⟩
  · refine ⟨old.splitOn lineBreak, ?_⟩
    rw [List.append_assoc, List.singleton_append, List.splitOn_append_cons_self,
      List.splitOn_eq_singleton hline]

theorem EventLog.lastOf_append {α : Type} {k : Nat} (before : List α) {xs : List α}
    (hk : k ≤ xs.length) : lastOf k (before ++ xs) = lastOf k xs := by
  unfold lastOf
  rw [List.length_append, List.drop_append, List.drop_eq_nil_of_le (by omega), List.nil_append]
  congr 1
  omega

theorem EventLog.lastOf_map {α β : Type} (f : α → β) (k : Nat) (xs : List α) :
    lastOf k (xs.map f) = (lastOf k xs).map f := by
  simp [lastOf]

/-! ## What a log writes -/

theorem EventLog.bytes_serve (log : EventLog) (call : Call) :
    (log.serve call).1.bytes =
      log.bytes.map (· ++ joined (call.event?.toList.map FailoverEvent.lineBytes)) := by
  cases call with
  | append e => simp [serve, append, Call.event?, joined, FailoverEvent.bytesOf_line]
  | updateStats | recent | last | size | isEmpty | stats =>
    simp [serve, updateStats, Call.event?, joined]

/-- The file grows by the lines of the history. -/
theorem EventLog.bytes_after (log : EventLog) (calls : List Call) :
    (log.after calls).bytes =
      log.bytes.map (· ++ joined ((history calls).map FailoverEvent.lineBytes)) := by
  induction calls generalizing log with
  | nil => simp [after, history, joined]
  | cons call rest ih =>
    have hafter : log.after (call :: rest) = (log.serve call).1.after rest := rfl
    rw [hafter, ih, bytes_serve, history_cons]
    simp [joined, Function.comp_def]

/-- The last lines of a file that events were appended to are the lines of the last
events. The first of the events has a line of its own if the file was whole. -/
theorem EventLog.lastOf_linesOf {old : List UInt8} {events : List FailoverEvent} {k : Nat}
    (hk : k ≤ events.length) (hown : Whole old ∨ k < events.length) :
    lastOf k (linesOf (old ++ joined (events.map FailoverEvent.lineBytes))) =
      (lastOf k events).map FailoverEvent.lineBytes := by
  have hlines : ∀ es : List FailoverEvent, ∀ line ∈ es.map FailoverEvent.lineBytes, lineBreak ∉ line := by
    intro es line hline
    obtain ⟨e, _, rfl⟩ := List.mem_map.mp hline
    exact e.lineBreak_not_mem
  rw [← lastOf_map]
  cases events with
  | nil =>
    have hzero : k = 0 := Nat.le_zero.mp hk
    simp [hzero, lastOf]
  | cons e rest =>
    rw [List.map_cons, linesOf_append old _ (hlines rest)]
    rw [List.length_cons] at hk hown
    by_cases hrest : k ≤ rest.length
    · have hone : e.lineBytes :: rest.map FailoverEvent.lineBytes =
          [e.lineBytes] ++ rest.map FailoverEvent.lineBytes := rfl
      rw [hone, lastOf_append _ (by simpa using hrest), lastOf_append _ (by simpa using hrest)]
    · have hwhole : Whole old := hown.resolve_right (by omega)
      obtain ⟨before, hbefore⟩ := splitOn_whole hwhole e.lineBreak_not_mem
      rw [hbefore, List.append_assoc, List.singleton_append, lastOf_append _ (by simpa using hk)]

/-- An event that its line tells in full. -/
def FailoverEvent.Readable (e : FailoverEvent) : Prop := e.Writable ∧ e.Shallow

theorem FailoverEvent.ofLineBytes?_line {e : FailoverEvent} (h : e.Readable) :
    ofLineBytes? e.lineBytes = some e := by
  unfold ofLineBytes? lineBytes
  rw [Text.ofBytes?_bytesOf, Option.bind_some]
  exact ofLine?_shallow h.1 (.refl _) h.2

/-- The file of a log, with any capacity and whatever the file held before: it keeps what
it held and grows by the lines of all events, also of those that memory has let go. Its
last lines are those of the last events, in order, and read back to these events; all
events have lines of their own when the file was whole. -/
theorem the_file_grows_by_a_line_for_each_event (capacity : Nat) (old : List UInt8)
    (calls : List EventLog.Call) :
    let log := (EventLog.onBytes capacity old).after calls
    let events := EventLog.history calls
    let held := old ++ joined (events.map FailoverEvent.lineBytes)
    log.bytes = some held ∧
      ∀ k ≤ events.length, Whole old ∨ k < events.length →
        EventLog.lastOf k (linesOf held) = (EventLog.lastOf k events).map FailoverEvent.lineBytes ∧
        ((∀ e ∈ EventLog.lastOf k events, e.Readable) →
          (EventLog.lastOf k (linesOf held)).map FailoverEvent.ofLineBytes? =
            (EventLog.lastOf k events).map some) := by
  intro log events held
  have hopened : (EventLog.onBytes capacity old).bytes = some old := rfl
  have hbytes : log.bytes = some held := by
    rw [EventLog.bytes_after, hopened, Option.map_some]
  refine ⟨hbytes, fun k hk hown => ?_⟩
  have hlines : EventLog.lastOf k (linesOf held) =
      (EventLog.lastOf k events).map FailoverEvent.lineBytes := EventLog.lastOf_linesOf hk hown
  refine ⟨hlines, fun hreadable => ?_⟩
  rw [hlines, List.map_map]
  apply List.map_congr_left
  intro e he
  rw [Function.comp_apply, FailoverEvent.ofLineBytes?_line (hreadable e he)]

/-! ### Files of few lines -/

/-- An event that says nothing in particular. -/
def FailoverEvent.blank : FailoverEvent := { (default : FailoverEvent) with id := "g" }

theorem FailoverEvent.finished_readable : FailoverEvent.finished.Readable :=
  ⟨FailoverEvent.finished_writable, by decide⟩

theorem FailoverEvent.blank_readable : FailoverEvent.blank.Readable := by
  have hnone : FailoverEvent.blank.metadata.entries = [] := rfl
  refine ⟨⟨⟨by decide, nofun⟩, ?_, ?_⟩, by decide⟩
  · simp [hnone]
  · simp [hnone]

theorem the_file_keeps_two_events_of_which_memory_keeps_one :
    let log := (EventLog.onBytes 1 (Text.bytesOf "[]\n")).after [.append .finished, .append .blank]
    log.size = 1 ∧ ∃ held, log.bytes = some held ∧
      (EventLog.lastOf 2 (linesOf held)).map FailoverEvent.ofLineBytes? =
        [some .finished, some .blank] := by
  intro log
  have hwhole : Whole (Text.bytesOf "[]\n") := .inr ⟨Text.bytesOf "[]", by decide⟩
  obtain ⟨hbytes, hlast⟩ := the_file_grows_by_a_line_for_each_event 1 (Text.bytesOf "[]\n")
    [.append .finished, .append .blank]
  have hread := (hlast 2 (by decide) (.inl hwhole)).2 ?_
  · exact ⟨rfl, _, hbytes, hread⟩
  · intro e he
    have hmem : e ∈ [FailoverEvent.finished, FailoverEvent.blank] := he
    simp only [List.mem_cons, List.not_mem_nil, or_false] at hmem
    rcases hmem with rfl | rfl
    · exact FailoverEvent.finished_readable
    · exact FailoverEvent.blank_readable

/-- What the last line of a file tells after one more event. -/
def rereadAfter (before : String) (e : FailoverEvent) : List (Option FailoverEvent) :=
  (EventLog.lastOf 1 (linesOf (((EventLog.withFile 1 before).append e).bytes.getD []))).map
    FailoverEvent.ofLineBytes?

theorem rereadAfter_eq {before : String} (h : lineBreak ∉ Text.bytesOf before) (e : FailoverEvent) :
    rereadAfter before e = [FailoverEvent.ofLine? (before ++ e.line)] := by
  have hline : lineBreak ∉ Text.bytesOf before ++ e.lineBytes := by
    simp [h, e.lineBreak_not_mem]
  have hheld : ((EventLog.withFile 1 before).append e).bytes =
      some (Text.bytesOf before ++ joined [e.lineBytes]) := by
    simp [EventLog.append, EventLog.withFile, EventLog.onBytes, FailoverEvent.bytesOf_line, joined]
  have hone : linesOf (Text.bytesOf before ++ joined [e.lineBytes]) =
      [Text.bytesOf (before ++ e.line)] := by
    rw [linesOf_append _ _ (by simp), List.splitOn_eq_singleton hline, Text.bytesOf_append]
    rfl
  unfold rereadAfter
  rw [hheld, Option.getD_some, hone]
  simp [EventLog.lastOf, FailoverEvent.ofLineBytes?, Text.ofBytes?_bytesOf]

/-- A document behind a bracket that is never closed is none. -/
theorem Json.read?_open {α : Type} {read : Decoder α} {d : Data} (h : IsJson d)
    (hdepth : height d < maxDepth) : read? read ("[" ++ compact d) = none := by
  have hchars : ("[" ++ compact d).toList = '[' :: ((compact d).toList ++ []) := by simp
  have hsize : (compact d).toList.length ≤ ("[" ++ compact d).toList.length + 1 := by
    rw [hchars, List.append_nil, List.length_cons]
    omega
  have hread := value_compact h (Nat.le_of_lt_succ hdepth) hsize [] stops_nil
  have hopen : elements (value (("[" ++ compact d).toList.length + 1) 126)
      (("[" ++ compact d).toList.length + 1) [] ((compact d).toList ++ []) =
        (.list [d, .broken], none) := by
    rw [elements, skip_compact, hread]
    simp [skip]
  have hdeep : maxDepth = 126 + 1 := rfl
  unfold read? scan
  dsimp only
  rw [hdeep, hchars, skip_shown rfl, value_list (opens_compact d), ← hchars, hopen]

/-- An event in a leap second that is not the last of its minute. -/
def FailoverEvent.offbeat : FailoverEvent :=
  { FailoverEvent.blank with time := ⟨1700000000000000000, true⟩ }

/-- It is written down like an event of the second after it. -/
theorem FailoverEvent.offbeat_line :
    FailoverEvent.offbeat.line = { FailoverEvent.offbeat with time := .ofMillis 1700000000000 }.line := by
  have htime : FailoverEvent.offbeat.time.toText = (Moment.ofMillis 1700000000000).toText := by
    decide +kernel
  unfold line toData membersIn
  rw [htime]

/-- An event with a number that reads back as another one. -/
def FailoverEvent.rounded : FailoverEvent :=
  { FailoverEvent.blank with metadata := .ofList [("x", .float 4.8685638545986996e36)] }

/-- The bits of a number in the metadata. -/
def FailoverEvent.bitsOf? (e : FailoverEvent) (name : String) : Option UInt64 :=
  match e.metadata.get? name with
  | some (.float x) => some x.toBits
  | _ => none

/-- A line that is added to a torn one is lost with it. So is an event of its own line
with metadata too deep, with a number that the reader rounds, or with a leap second out of
place. -/
theorem a_file_can_lose_the_event_that_comes_next :
    rereadAfter "[" .finished ≠ [some .finished] ∧ rereadAfter "" .deep ≠ [some .deep] ∧
      rereadAfter "" .rounded ≠ [some .rounded] ∧ rereadAfter "" .offbeat ≠ [some .offbeat] := by
  refine ⟨?_, ?_, ?_, ?_⟩
  · have hlost : FailoverEvent.ofLine? ("[" ++ FailoverEvent.finished.line) = none :=
      Json.read?_open (.record (FailoverEvent.isJson_membersIn FailoverEvent.finished_writable (.refl _)))
        (by decide)
    rw [rereadAfter_eq (by decide), hlost]
    simp
  · have hlost : FailoverEvent.ofLine? FailoverEvent.deep.line = none :=
      FailoverEvent.ofLine?_deep FailoverEvent.deep_writable (.refl _) FailoverEvent.deep_not_shallow
    rw [rereadAfter_eq (by decide), String.empty_append, hlost]
    simp
  · rw [rereadAfter_eq (by decide), String.empty_append]
    intro h
    have hbits : (FailoverEvent.ofLine? FailoverEvent.rounded.line).map (·.bitsOf? "x") ≠
        some (FailoverEvent.rounded.bitsOf? "x") := by
      decide +kernel
    rw [(List.cons.inj h).1] at hbits
    exact hbits rfl
  · have hregular : ({ FailoverEvent.offbeat with time := .ofMillis 1700000000000 } : FailoverEvent).Writable :=
      ⟨⟨by decide, nofun⟩, FailoverEvent.blank_readable.1.json, FailoverEvent.blank_readable.1.canonical⟩
    have hread := FailoverEvent.ofLine?_shallow hregular (.refl _) FailoverEvent.blank_readable.2
    rw [rereadAfter_eq (by decide), String.empty_append, FailoverEvent.offbeat_line]
    intro h
    have heq := Option.some.inj (hread.symm.trans (List.cons.inj h).1)
    have hleap := congrArg (fun e : FailoverEvent => e.time.leap) heq
    cases hleap

end Failover
