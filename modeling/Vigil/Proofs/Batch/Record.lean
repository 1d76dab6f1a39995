import Vigil.Batch.Record
import Vigil.Proofs.Duration.Message
import Vigil.Proofs.Duration.Text
import Vigil.Proofs.Json.Text

/-!
# Records as They Are Written

What the text of a record has to tell is said here without the printers. A structured value is one line,
and a reader finds in it an object whose fields hold all that the record holds: a detail that is absent
has no field, the time that a check took reads back to the nanosecond, and a timeout has no verdict.
Otherwise the record is a text of lines, the first with the name of the probe and what became of it, the
others with one result each.

Two laws say that this is enough. A line with a structured value is written of no other record, and two
texts of one probe tell the same verdict.

## Main results

* `Record.written_text`: a record is written as it is to be.
* `Record.Written.unique`: a line with a structured value is of one record.
* `Record.Written.standing_eq`: a text tells the standing of its probe.
* `Record.text_inj`: the structured value of a record determines it.
-/

namespace Vigil

/-! ### What is told of a result -/

namespace CheckResult

/-- The fields of an object tell of a result: its name, the verdict, the detail if there is one, and the
time that the check took. -/
structure ToldBy (r : CheckResult) (fields : Json.Fields) : Prop where
  name : Json.field? "name" fields = some (.str r.name)
  healthy : Json.field? "healthy" fields = some (.bool r.healthy)
  detail : Json.field? "detail" fields = r.detail.map .str
  duration : ∃ time, Json.field? "duration" fields = some (.str time) ∧
    Duration.ofText? time = some r.duration

/-- A value tells of a result: it is an object whose fields do. -/
def ToldByItem (r : CheckResult) (item : Json) : Prop := ∃ fields, item = .obj fields ∧ r.ToldBy fields

/-- A row of text tells of a result: behind a margin its name, the verdict and the time that the check
took, and then the detail, if there is one. -/
inductive Row (r : CheckResult) : String → Prop
  | bare (h : r.detail = none) :
      Row r ("  " ++ r.name ++ ": " ++ healthWord r.healthy ++ " (" ++ r.duration.debugText ++ ")")
  | detailed {detail : String} (h : r.detail = some detail) :
      Row r ("  " ++ r.name ++ ": " ++ healthWord r.healthy ++ " (" ++ r.duration.debugText ++ ") " ++
        detail)

variable {r r' : CheckResult} {fields : Json.Fields} {item : Json}

/-- Fields tell of one result. -/
theorem ToldBy.unique (h : r.ToldBy fields) (h' : r'.ToldBy fields) : r = r' := by
  have hname := h.name.symm.trans h'.name
  have hhealthy := h.healthy.symm.trans h'.healthy
  have hdetail := h.detail.symm.trans h'.detail
  obtain ⟨time, htime, hread⟩ := h.duration
  obtain ⟨time', htime', hread'⟩ := h'.duration
  have hsame := htime.symm.trans htime'
  obtain ⟨name, healthy, detail, duration⟩ := r
  obtain ⟨name', healthy', detail', duration'⟩ := r'
  simp only [Option.some.injEq, Json.str.injEq, Json.bool.injEq] at hname hhealthy hsame hread hread'
  obtain rfl : detail = detail' := Option.map_injective (fun s s' => Json.str.inj) hdetail
  obtain rfl : duration = duration' := Option.some.inj (hread.symm.trans (hsame ▸ hread'))
  rw [hname, hhealthy]

theorem ToldByItem.unique (h : r.ToldByItem item) (h' : r'.ToldByItem item) : r = r' := by
  obtain ⟨fields, rfl, hfields⟩ := h
  obtain ⟨fields', hobj, hfields'⟩ := h'
  obtain rfl := Json.obj.inj hobj
  exact hfields.unique hfields'

/-- The value of a result with its fields ordered by key. -/
theorem sorted_toJson (r : CheckResult) : r.toJson.sorted =
    .obj ((r.detail.toList.map fun d => ("detail", Json.str d)) ++
      [("duration", .str r.duration.text), ("healthy", .bool r.healthy), ("name", .str r.name)]) := by
  obtain ⟨name, healthy, detail, duration⟩ := r
  cases detail <;> rfl

/-- **The value of a result tells of it.** -/
theorem toldByItem_toJson (r : CheckResult) : r.ToldByItem r.toJson.sorted := by
  refine ⟨_, r.sorted_toJson, ?_⟩
  obtain ⟨name, healthy, detail, duration⟩ := r
  cases detail <;> exact ⟨rfl, rfl, rfl, duration.text, rfl, Duration.ofText?_text duration⟩

/-- **The line of a result is its row.** -/
theorem row_resultLine (r : CheckResult) : r.Row (Record.resultLine r) := by
  rw [Record.resultLine]
  cases h : r.detail with
  | none => exact String.append_empty ▸ .bare h
  | some detail =>
    have hclose : ") " = ")" ++ " " := rfl
    have hrow := Row.detailed h
    simp only [hclose, String.append_assoc] at hrow ⊢
    exact hrow

theorem numbers_toJson (r : CheckResult) : r.toJson.numbers = [] := by
  rw [toJson]
  cases r.detail <;> simp

theorem depth_toJson (r : CheckResult) : r.toJson.depth = 1 := by
  rw [toJson]
  cases r.detail <;> simp

end CheckResult

namespace Report

theorem sorted_toJson (r : Report) : r.toJson.sorted =
    .obj [("allow_partial_failure", .bool r.allowPartialFailure), ("healthy", .bool r.healthy),
      ("probe", .str r.probe),
      ("results", .arr (Json.sortedItems (r.results.map CheckResult.toJson)))] := rfl

/-- The items of the results tell of them, one of each. -/
theorem told_items (results : List CheckResult) :
    List.Forall₂ CheckResult.ToldByItem results
      (Json.sortedItems (results.map CheckResult.toJson)) := by
  induction results with
  | nil => exact .nil
  | cons r results ih => exact .cons r.toldByItem_toJson ih

theorem numbers_toJson (r : Report) : r.toJson.numbers = [] := by
  have hitems (results : List CheckResult) :
      Json.itemNumbers (results.map CheckResult.toJson) = [] := by
    induction results with
    | nil => rfl
    | cons r rs ih =>
      rw [List.map_cons, Json.itemNumbers, CheckResult.numbers_toJson, ih, List.append_nil]
  simp [toJson, hitems]

/-- Reports are nested no deeper than to the fields of their results. -/
theorem depth_toJson_le (r : Report) : r.toJson.depth ≤ 3 := by
  have hitems (results : List CheckResult) :
      Json.itemDepth (results.map CheckResult.toJson) ≤ 1 := by
    induction results with
    | nil => exact Nat.zero_le 1
    | cons r rs ih => exact Nat.max_le.mpr ⟨Nat.le_of_eq r.depth_toJson, ih⟩
  have := hitems r.results
  simp only [toJson, Json.depth, Json.fieldDepth]
  omega

end Report

/-! ### What is told of a record -/

namespace Record

/-- The fields of an object tell of a record: those of a report have its results one by one, those of a
timeout say that there is no verdict and why. -/
inductive ToldBy : Record → Json.Fields → Prop
  | report {r : Report} {fields : Json.Fields} {items : List Json}
      (probe : Json.field? "probe" fields = some (.str r.probe))
      (healthy : Json.field? "healthy" fields = some (.bool r.healthy))
      (policy : Json.field? "allow_partial_failure" fields = some (.bool r.allowPartialFailure))
      (results : Json.field? "results" fields = some (.arr items))
      (told : List.Forall₂ CheckResult.ToldByItem r.results items) : ToldBy (.report r) fields
  | timeout {name : String} {budget : Duration} {fields : Json.Fields}
      (probe : Json.field? "probe" fields = some (.str name))
      (unknown : Json.field? "healthy" fields = some .null)
      (error : Json.field? "error" fields = some (.str "timeout"))
      (time : Json.field? "timeout" fields = some (.str budget.debugText)) :
      ToldBy (.timeout name budget) fields

/-- A text is a record as it is to be written, as a structured value or in lines. -/
inductive Written : Bool → Record → String → Prop
  | value {r : Record} {line : String} {fields : Json.Fields} (single : '\n' ∉ line.toList)
      (reads : Json.ofText? line = some (.obj fields)) (told : r.ToldBy fields) :
      Written true r (line ++ "\n")
  | report {r : Report} {rows : List String} (told : List.Forall₂ CheckResult.Row r.results rows) :
      Written false (.report r) (r.probe ++ ": " ++ healthWord r.healthy ++ "\n" ++
        String.join (rows.map (· ++ "\n")))
  | timeout {name : String} {budget : Duration} :
      Written false (.timeout name budget) (name ++ ": timed out after " ++ budget.debugText ++ "\n")

variable {r r' : Record} {fields : Json.Fields} {text : String}

/-- Fields tell of one record. -/
theorem ToldBy.unique (h : r.ToldBy fields) (h' : r'.ToldBy fields) : r = r' := by
  cases h with
  | @report s _ items probe healthy policy results told =>
    cases h' with
    | @report s' _ items' probe' healthy' policy' results' told' =>
      have hprobe := probe.symm.trans probe'
      have hhealthy := healthy.symm.trans healthy'
      have hpolicy := policy.symm.trans policy'
      obtain rfl := Json.arr.inj (Option.some.inj (results.symm.trans results'))
      have hresults := List.left_unique_forall₂' (fun _ _ _ h h' => h.unique h') told told'
      obtain ⟨name, verdict, allowed, results⟩ := s
      obtain ⟨name', verdict', allowed', results'⟩ := s'
      simp_all
    | timeout _ unknown => cases healthy.symm.trans unknown
  | timeout probe unknown error time =>
    cases h' with
    | report _ healthy => cases unknown.symm.trans healthy
    | timeout probe' _ _ time' =>
      obtain rfl := Json.str.inj (Option.some.inj (probe.symm.trans probe'))
      rw [Duration.debugText_injective (Json.str.inj (Option.some.inj (time.symm.trans time')))]

/-- **A line with a structured value is written of one record.** -/
theorem Written.unique (h : Written true r text) (h' : Written true r' text) : r = r' := by
  generalize htext : text = text' at h'
  cases h with
  | @value _ line fields _ reads told =>
    cases h' with
    | @value _ line' fields' _ reads' told' =>
      obtain rfl : line = line' := (String.append_left_inj "\n").mp htext
      obtain rfl := Json.obj.inj (Option.some.inj (reads.symm.trans reads'))
      exact told.unique told'

/-- The letter by which a text tells a standing. -/
def letter : Standing → Char
  | .healthy => 'h'
  | .unhealthy => 'u'
  | .timedOut => 't'
  | .unusable => 'n'

/-- A text begins with the name of its probe, and the letter of its standing follows. -/
theorem Written.exists_toList (h : Written false r text) :
    ∃ rest, text.toList = r.probe.toList ++ ':' :: ' ' :: letter r.standing :: rest := by
  cases h with
  | @report r rows told =>
    rw [probe, standing]
    cases hhealthy : r.healthy <;> exact ⟨_, by simp [healthWord, letter]; rfl⟩
  | timeout => exact ⟨_, by simp [probe, standing, letter]; rfl⟩

/-- **A text tells the standing of its probe**: texts of two records of one probe differ if the records
stand otherwise. -/
theorem Written.standing_eq (h : Written false r text) (h' : Written false r' text)
    (hprobe : r.probe = r'.probe) : r.standing = r'.standing := by
  obtain ⟨rest, htext⟩ := h.exists_toList
  obtain ⟨rest', htext'⟩ := h'.exists_toList
  rw [htext, hprobe] at htext'
  have hletter := (List.cons.inj (List.cons.inj (List.cons.inj
    (List.append_cancel_left htext')).2).2).1
  generalize r.standing = a, r'.standing = b at hletter
  cases a <;> cases b <;> first | rfl | exact absurd hletter (by decide)

/-! ### Records as they are written -/

/-- The value of a record is an object that tells of it. -/
theorem exists_toldBy (r : Record) : ∃ fields, r.toJson.sorted = .obj fields ∧ r.ToldBy fields := by
  cases r with
  | report r => exact ⟨_, r.sorted_toJson, .report rfl rfl rfl rfl (Report.told_items r.results)⟩
  | timeout probe budget => exact ⟨_, rfl, .timeout rfl rfl rfl rfl⟩

/-- The line of a record reads as its value. -/
theorem ofText?_text (r : Record) : Json.ofText? r.toJson.text = some r.toJson.sorted := by
  cases r with
  | report r =>
    have hdepth : r.toJson.depth ≤ Json.deepest := Nat.le_trans r.depth_toJson_le (by decide)
    have hnumbers : r.toJson.numbers = [] := r.numbers_toJson
    exact Json.ofText?_text hdepth fun n hn => absurd (hnumbers ▸ hn) List.not_mem_nil
  | timeout probe budget =>
    have hdepth : (timeout probe budget).toJson.depth = 1 := rfl
    exact Json.ofText?_text (hdepth ▸ by decide) fun n hn => absurd hn List.not_mem_nil

theorem newline_notMem_text (r : Record) : '\n' ∉ r.toJson.text.toList := by
  rw [Json.text, String.toList_ofList]
  exact Json.newline_notMem_chars _

/-- The text of a record as a structured value is its one line. -/
theorem text_true (r : Record) : r.text true = r.toJson.text ++ "\n" := by
  rw [Record.text, if_pos rfl, List.map_singleton, String.join_cons, String.join_nil,
    String.append_empty]

/-- **A record is written as it is to be.** -/
theorem written_text (json : Bool) (r : Record) : Written json r (r.text json) := by
  cases json with
  | true =>
    obtain ⟨fields, hsorted, htold⟩ := r.exists_toldBy
    exact r.text_true ▸ .value r.newline_notMem_text (hsorted ▸ r.ofText?_text) htold
  | false =>
    cases r with
    | report r =>
      have hrows : List.Forall₂ CheckResult.Row r.results (r.results.map resultLine) :=
        List.forall₂_map_right_iff.mpr (List.forall₂_same.mpr fun r _ => r.row_resultLine)
      have htext : (report r).text false = r.probe ++ ": " ++ healthWord r.healthy ++ "\n" ++
          String.join ((r.results.map resultLine).map (· ++ "\n")) := by
        rw [Record.text, if_neg Bool.false_ne_true, lines, List.map_cons, String.join_cons]
      exact htext ▸ .report hrows
    | timeout probe budget =>
      have htext : (timeout probe budget).text false =
          probe ++ ": timed out after " ++ budget.debugText ++ "\n" := by
        rw [Record.text, if_neg Bool.false_ne_true, lines, List.map_singleton, String.join_cons,
          String.join_nil, String.append_empty]
      exact htext ▸ .timeout

/-- Records are written one by one. -/
theorem written_texts (json : Bool) (records : List Record) :
    List.Forall₂ (Written json) records (records.map (Record.text json)) :=
  List.forall₂_map_right_iff.mpr (List.forall₂_same.mpr fun r _ => r.written_text json)

/-- **The structured value of a record determines it.** -/
theorem text_inj : r.toJson.text = r'.toJson.text ↔ r = r' := by
  refine ⟨fun h => ?_, fun h => h ▸ rfl⟩
  have htext : r.text true = r'.text true := by rw [text_true, text_true, h]
  exact (written_text true r).unique (htext ▸ written_text true r')

end Record

end Vigil
