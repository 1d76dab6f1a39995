import Vigil.Proofs.Batch.Execution

/-!
# Output in Lines

Structured values are written one to a line, and the bytes of the output are split apart again at the
byte of a new line: that byte is part of no other character, and no character of a value is a new line.
Since the line of a record determines it, the output determines all that was written, down to details
that are absent and the nanoseconds of every duration.

A batch writes one line for each of its probes, in order. Where its budget is out of range nothing is
run at all, and a loop of runs under such a budget could end before its last probe.

## Main results

* `splitOn_bytes_lines`: lines of bytes are split apart again.
* `Batch.json_output_lossless`: the structured output of a batch loses nothing.
-/

namespace Vigil

/-! ### Lines of bytes -/

/-- The bytes that a text is written as. -/
def bytes (s : String) : List UInt8 := s.toByteArray.data.toList

theorem bytes_eq (s : String) : bytes s = s.toList.flatMap String.utf8EncodeChar := by
  rw [bytes, ← String.utf8Encode_toList, List.utf8Encode, List.data_toByteArray]

/-- The byte of a new line is part of no other character. -/
theorem eq_newline_of_mem_utf8EncodeChar {c : Char} (h : 0x0A ∈ String.utf8EncodeChar c) :
    c = '\n' := by
  have hnat : c.val.toNat = 10 := by
    have hten : (0x0A : UInt8).toNat = 10 := rfl
    simp only [String.utf8EncodeChar] at h
    -- the bytes of a longer form are all from 128 on
    repeat' split at h
    all_goals
      simp only [List.mem_cons, List.not_mem_nil, or_false, ← UInt8.toNat_inj, UInt8.toNat_ofNat',
        hten] at h
      omega
  exact Char.ext (UInt32.toNat_inj.mp hnat)

theorem newline_notMem_bytes {s : String} (h : '\n' ∉ s.toList) : 0x0A ∉ bytes s := by
  rw [bytes_eq, List.mem_flatMap]
  rintro ⟨c, hc, hbyte⟩
  exact h (eq_newline_of_mem_utf8EncodeChar hbyte ▸ hc)

/-- Texts with a new line after each are as many byte strings with the byte of a new line between them
and nothing after the last. -/
theorem bytes_lines (ls : List String) :
    bytes (String.join (ls.map (· ++ "\n"))) = [0x0A].intercalate (ls.map bytes ++ [[]]) := by
  induction ls with
  | nil => rfl
  | cons l ls ih =>
    obtain ⟨next, rest, hrest⟩ := List.exists_cons_of_ne_nil (l := ls.map bytes ++ [[]]) (by simp)
    have hnewline : bytes "\n" = [0x0A] := rfl
    have happend : ∀ s t : String, bytes (s ++ t) = bytes s ++ bytes t := fun s t => by
      rw [bytes_eq, bytes_eq, bytes_eq, String.toList_append, List.flatMap_append]
    rw [List.map_cons, String.join_cons, happend, happend, hnewline, ih, List.map_cons, List.cons_append,
      hrest, List.intercalate_cons_cons]

/-- **Lines are split apart again** by the byte of a new line. -/
theorem splitOn_bytes_lines {ls : List String} (h : ∀ l ∈ ls, '\n' ∉ l.toList) :
    (bytes (String.join (ls.map (· ++ "\n")))).splitOn 0x0A = ls.map bytes ++ [[]] := by
  rw [bytes_lines, List.splitOn_intercalate]
  · intro bs hbs
    rcases List.mem_append.mp hbs with hbs | hbs
    · obtain ⟨l, hl, rfl⟩ := List.mem_map.mp hbs
      exact newline_notMem_bytes (h l hl)
    · rw [List.mem_singleton.mp hbs]
      exact List.not_mem_nil
  · simp

theorem bytes_inj {s t : String} : bytes s = bytes t ↔ s = t := by
  refine ⟨fun h => String.toByteArray_inj.mp (ByteArray.ext (Array.toList_inj.mp h)), fun h => h ▸ rfl⟩

namespace Record

/-- What records are written as splits into their lines. -/
theorem splitOn_output (records : List Record) :
    (bytes (String.join (records.map (text true)))).splitOn 0x0A =
      records.map (fun r => bytes r.toJson.text) ++ [[]] := by
  have hlines : records.map (text true) = (records.map fun r => r.toJson.text).map (· ++ "\n") := by
    rw [List.map_map]
    exact List.map_congr_left fun r _ => r.text_true
  rw [hlines, splitOn_bytes_lines, List.map_map]
  · rfl
  · rw [List.forall_mem_map]
    exact fun r _ => r.newline_notMem_text

/-- What records are written as determines them all. -/
theorem output_inj {records records' : List Record} :
    bytes (String.join (records.map (text true))) = bytes (String.join (records'.map (text true))) ↔
      records = records' := by
  refine ⟨fun h => ?_, fun h => h ▸ rfl⟩
  have hsplit := congrArg (List.splitOn 0x0A) h
  rw [splitOn_output, splitOn_output] at hsplit
  exact (List.map_inj_right fun r r' hr => text_inj.mp (bytes_inj.mp hr)).mp
    (List.append_cancel_right hsplit)

/-- The line of a record reads as an object that names its probe. -/
theorem exists_probe (r : Record) : ∃ fields, Json.ofText? r.toJson.text = some (.obj fields) ∧
    Json.field? "probe" fields = some (.str r.probe) := by
  obtain ⟨fields, hsorted, htold⟩ := r.exists_toldBy
  refine ⟨fields, hsorted ▸ r.ofText?_text, ?_⟩
  cases htold with
  | report probe => exact probe
  | timeout probe => exact probe

end Record

namespace Batch

/-- The record of a run names its probe. -/
theorem name_of_recordOf {r : Runner} {p : Probe} {calls : List Nat} {budget : Duration}
    {record : Record} (h : recordOf p.name budget (r.run p calls).result = .ok record) :
    record.probe = p.name := by
  cases hresult : (r.run p calls).result with
  | report report =>
    rw [hresult] at h
    obtain rfl := Except.ok.inj h
    exact congrArg Report.probe (Runner.report_eq hresult)
  | failed fault =>
    rw [hresult, recordOf] at h
    split at h
    · exact Except.ok.inj h ▸ rfl
    · cases h
  | never | panicked =>
    rw [hresult] at h
    cases h

/-- The records of runs one after another name the probes in order, as far as the runs go. -/
theorem names_runAll (r : Runner) (session : Session) (index : Nat) (probes : List Probe) :
    (runAll r session index probes).records.map Record.probe <+: probes.map (·.name) := by
  induction probes generalizing session index with
  | nil => exact List.prefix_refl []
  | cons p probes ih =>
    rw [runAll]
    cases hrecord : recordOf p.name (r.timeout.getD .zero)
        (session.runProbe index p r).1.result with
    | error failure =>
      simp only [hrecord]
      exact List.nil_prefix
    | ok record =>
      simp only [hrecord]
      exact List.cons_prefix_cons.mpr ⟨name_of_recordOf hrecord, ih _ _⟩

/-- **Structured output loses nothing and no line is broken.** The bytes written of any records split at
the byte of a new line into one line for each record, in order, and nothing after the last. Each line
reads as an object that names its probe. Records of one line are equal in all that they hold, so that a
timeout has no line of a report, and what is written determines the records. A batch makes one record of
each probe that it runs, in order, and writes these records; with a budget in range it runs all of its
probes. -/
theorem json_output_lossless :
    (∀ records : List Record, (bytes (String.join (records.map (Record.text true)))).splitOn 0x0A =
      records.map (fun r => bytes r.toJson.text) ++ [[]]) ∧
    (∀ r : Record, ∃ fields, Json.ofText? r.toJson.text = some (.obj fields) ∧
      Json.field? "probe" fields = some (.str r.probe)) ∧
    (∀ r r' : Record, bytes r.toJson.text = bytes r'.toJson.text ↔ r = r') ∧
    (∀ (r : Report) (probe : String) (budget : Duration),
      bytes (Record.report r).toJson.text ≠ bytes (Record.timeout probe budget).toJson.text) ∧
    (∀ records records' : List Record,
      bytes (String.join (records.map (Record.text true))) =
        bytes (String.join (records'.map (Record.text true))) ↔ records = records') ∧
    (∀ (o : Options) (c : Config) (probes : List Probe),
      let progress := runAll (settled o c) (.ofProbes probes) 0 probes
      progress.records.map Record.probe <+: probes.map (·.name) ∧
        ((settings o c).inRange = true → progress.records.map Record.probe = probes.map (·.name))) ∧
    ∀ (o : Options) (c : Config) (net : Network),
      (execute { o with json := true } c net).output =
        String.join ((execute { o with json := true } c net).records.map (Record.text true)) := by
  refine ⟨Record.splitOn_output, Record.exists_probe, fun r r' => bytes_inj.trans Record.text_inj,
    fun r probe budget h => ?_, fun records records' => Record.output_inj,
    fun o c probes => ⟨names_runAll _ _ 0 probes, fun hin => ?_⟩, fun o c net => ?_⟩
  · cases Record.text_inj.mp (bytes_inj.mp h)
  · have hsteady := steady_settled hin
    rw [runAll_ofProbes hsteady, List.map_map]
    exact List.map_congr_left fun p _ => (tells_ending hsteady).1.name_eq
  · rw [execute]
    split <;> rfl

end Batch

end Vigil
