import Vigil.Proofs.Batch.Execution
import Vigil.Proofs.Config.Validation
import Vigil.Proofs.Duration.Text

/-!
# The Budget of a Batch

A budget comes from the configuration or, before that, from the command line. Both go through the same
rule, once when the configuration is validated and once when the runner is made, so the two ways admit the
same times, whatever units these are written in.

The rule counts whole milliseconds. At the lower end that is exact, since a time below a millisecond has
none. At the upper end it is not: what exceeds ten minutes by less than a millisecond counts as ten minutes,
and the runner has the time itself and not its count. So there are budgets of more than ten minutes.

## Main definitions

* `Batch.IsBudget`: the times that are admitted as a budget.
* `Batch.Admitted`, `Batch.Refused`: what it is for a time to be admitted and to be refused, by the
  configuration and by the command line.

## Main results

* `Batch.isBudget_iff_meant`: for which times the rule is as exact as it is meant to be.
* `Batch.admitted_iff`, `Batch.refused_iff`: which times are admitted and which are refused.
* `Batch.budgets_admitted`: the budgets that runners have, and the ways to ask for one.
* `Batch.budget_beyond_ten_minutes`: a budget of more than ten minutes.
-/

namespace Vigil

/-! ### Asking for a budget -/

/-- No duration begins with a hyphen. -/
theorem Duration.ofChars?_hyphen (cs : List Char) : ofChars? ('-' :: cs) = none := by
  have hread : readFrom? 0 .start ('-' :: cs) = none := rfl
  rw [ofChars?, if_neg (by simp), hread]

/-- An argument that begins with no hyphen is a value. -/
theorem CommandLine.Form.ofChars_of_head {cs : List Char} (h : cs.head? ≠ some '-') :
    Form.ofChars cs = .plain := by
  unfold Form.ofChars
  split
  case h_4 => rfl
  all_goals exact absurd rfl h

/-- A command line that says how long runs may take. -/
theorem CommandLine.read_timeout {text : String} {d : Duration} (h : Duration.ofText? text = some d) :
    read ["--timeout", text] = .ok { timeout := some d } := by
  have hoption : Form.ofChars "--timeout".toList = .long "--timeout" none := by decide
  have hsetting : settings.find? (·.text == "--timeout") = some .timeout := by decide
  have hvalue : Form.ofChars text.toList = .plain := by
    refine Form.ofChars_of_head fun hhead => ?_
    obtain ⟨cs, hcs⟩ := List.head?_eq_some_iff.mp hhead
    rw [Duration.ofText?, hcs, Duration.ofChars?_hyphen] at h
    cases h
  simp only [read, readFrom, hoption, hsetting, hvalue, settle, take, h, Option.isSome_none,
    Bool.false_eq_true, if_false]

namespace Config

open Yaml

/-- What a document holds that says how long runs may take, and nothing else. -/
def timeoutNode (text : String) : Node :=
  .map none [(.scalar none .plain "run",
    .map none [(.scalar none .plain "timeout", .scalar none .plain text)])]

theorem read_timeoutNode (text : String) : Config.read (timeoutNode text) =
    (fun d => ({ run := { timeout := d } } : Config)) <$> Access.lift? (Duration.ofText? text) := by
  have hduration : Access.duration (.scalar none .plain text) = Access.lift? (Duration.ofText? text) := rfl
  simp only [Config.read, RunSettings.read, timeoutNode, Access.entries_single, pure_bind, bind_assoc,
    map_eq_pure_bind, Access.setting_single, hduration,
    Access.setting_other (show "run" ≠ "logging" by decide),
    Access.setting_other (show "run" ≠ "probes" by decide),
    Access.setting_other (show "timeout" ≠ "on_timeout_return_failure" by decide)]

/-- A document that says how long runs may take. -/
theorem read?_timeoutNode (document : Document) (text : String) :
    document.read? (Config.read (timeoutNode text)) =
      (Duration.ofText? text).map fun d => { run := { timeout := d } } := by
  rw [read_timeoutNode, Document.read?]
  cases Duration.ofText? text <;> rfl

/-- The configuration with that time for its runs. -/
def lasting (c : Config) (d : Duration) : Config := { c with run := { c.run with timeout := d } }

end Config

namespace Batch

variable {o : Options} {c : Config} {r : Runner} {d : Duration}

/-! ### What is admitted -/

/-- The least budget there is meant to be: a millisecond. -/
def leastBudget : Duration := ⟨1000000, by decide⟩

/-- The greatest budget there is meant to be: ten minutes. -/
def greatestBudget : Duration := Duration.seconds ⟨600, by decide⟩

/-- A time that is admitted as a budget: the least one or more, and less than a millisecond beyond the
greatest one. -/
structure IsBudget (d : Duration) : Prop where
  least : leastBudget ≤ d
  greatest : d.nanos < greatestBudget.nanos + 1000000

theorem leastBudget_le_iff : leastBudget ≤ d ↔ 1000000 ≤ d.nanos := Iff.rfl

theorem le_greatestBudget_iff : d ≤ greatestBudget ↔ d.nanos ≤ 600000000000 := Iff.rfl

theorem isBudget_iff : IsBudget d ↔ 1000000 ≤ d.nanos ∧ d.nanos < 600001000000 :=
  ⟨fun h => ⟨h.least, h.greatest⟩, fun h => ⟨h.1, h.2⟩⟩

/-- A time has a count of milliseconds in range exactly if it is a budget. -/
theorem millis_inRange_iff : 1 ≤ d.millis ∧ d.millis ≤ longestRun ↔ IsBudget d := by
  rw [isBudget_iff, Duration.millis, longestRun]
  omega

/-- Budgets are the times from the least to the greatest one that is meant, unless a time exceeds ten
minutes by less than a millisecond. -/
theorem isBudget_iff_meant :
    (IsBudget d ↔ leastBudget ≤ d ∧ d ≤ greatestBudget) ↔
      (d ≤ greatestBudget ∨ greatestBudget.nanos + 1000000 ≤ d.nanos) := by
  have hgreatest : greatestBudget.nanos = 600000000000 := rfl
  rw [isBudget_iff, leastBudget_le_iff, le_greatestBudget_iff, hgreatest]
  omega

theorem inRange_iff (s : RunSettings) : s.inRange = true ↔ IsBudget s.timeout :=
  RunSettings.inRange_iff.trans millis_inRange_iff

/-- A runner that is made has a budget, be it from the command line or from the configuration. -/
theorem runner_budget (h : runner o c = .ok r) :
    r.timeout = some (o.timeout.getD c.run.timeout) ∧ IsBudget (o.timeout.getD c.run.timeout) := by
  rw [runner_eq] at h
  split at h
  next hin =>
    cases h
    exact ⟨rfl, (inRange_iff _).mp hin⟩
  next => cases h

/-- A runner is made for a budget. -/
theorem runner_of_isBudget (hd : IsBudget d) (h : o.timeout.getD c.run.timeout = d) :
    runner o c = .ok ⟨some d, o.failureOnTimeout || c.run.failureOnTimeout, none⟩ := by
  subst h
  rw [runner_eq, if_pos ((inRange_iff (settings o c)).mpr hd)]
  rfl

/-- None is made for any other time. -/
theorem runner_of_not_isBudget (hd : ¬IsBudget d) (h : o.timeout.getD c.run.timeout = d) :
    runner o c = .error (.invalid [.runTimeout d]) := by
  subst h
  rw [runner_eq, if_neg fun hin => hd ((inRange_iff (settings o c)).mp hin)]
  rfl

/-- A time is admitted: a valid configuration stays valid with it, and runs have it as their budget, be it
from the configuration where the command line says nothing, or from the command line. -/
structure Admitted (d : Duration) : Prop where
  valid : ∀ c : Config, c.Valid → (c.lasting d).validate = .ok (c.lasting d)
  configured : ∀ (o : Options) (c : Config), o.timeout = none → c.run.timeout = d →
    runner o c = .ok ⟨some d, o.failureOnTimeout || c.run.failureOnTimeout, none⟩
  demanded : ∀ (o : Options) (c : Config), o.timeout = some d →
    runner o c = .ok ⟨some d, o.failureOnTimeout || c.run.failureOnTimeout, none⟩

/-- A time is refused: a configuration with it is invalid for it, whatever else is wrong, and no runner is
made for it, be it from the configuration or from the command line. -/
structure Refused (d : Duration) : Prop where
  invalid : ∀ c : Config, c.run.timeout = d → c.validate = .error (.invalid [.runTimeout d])
  configured : ∀ (o : Options) (c : Config), o.timeout = none → c.run.timeout = d →
    runner o c = .error (.invalid [.runTimeout d])
  demanded : ∀ (o : Options) (c : Config), o.timeout = some d →
    runner o c = .error (.invalid [.runTimeout d])

/-- Budgets are admitted. -/
theorem IsBudget.admitted (hd : IsBudget d) : Admitted d where
  valid _ hc := Config.validate_eq_ok_iff.mpr
    ⟨rfl, millis_inRange_iff.mpr hd, hc.named, hc.checked, hc.distinct⟩
  configured o c ho hc := runner_of_isBudget hd (by rw [ho, Option.getD_none, hc])
  demanded o c ho := runner_of_isBudget hd (by rw [ho, Option.getD_some])

/-- Any other time is refused. -/
theorem refused_of_not_isBudget (hd : ¬IsBudget d) : Refused d where
  invalid c hc := by
    subst hc
    exact Config.validate_eq_error_iff.mpr ⟨_, rfl, .run fun hrange => hd (millis_inRange_iff.mp hrange)⟩
  configured o c ho hc := runner_of_not_isBudget hd (by rw [ho, Option.getD_none, hc])
  demanded o c ho := runner_of_not_isBudget hd (by rw [ho, Option.getD_some])

/-- What is refused is not admitted. -/
theorem Refused.not_admitted (h : Refused d) : ¬Admitted d := by
  intro hadmitted
  have hmade := hadmitted.demanded { timeout := some d } {} rfl
  rw [h.demanded { timeout := some d } {} rfl] at hmade
  cases hmade

/-- **Budgets are admitted**, and no other times. -/
theorem admitted_iff : Admitted d ↔ IsBudget d :=
  ⟨fun h => by_contra fun hd => (refused_of_not_isBudget hd).not_admitted h, IsBudget.admitted⟩

/-- **What is no budget is refused**, and nothing else. -/
theorem refused_iff : Refused d ↔ ¬IsBudget d :=
  ⟨fun h hd => h.not_admitted hd.admitted, refused_of_not_isBudget⟩

/-- **Every runner has a budget, and budgets are what can be asked for.** The budget of a runner is the time
from the command line or else the one from the configuration. It is a millisecond or more, and less than a
millisecond beyond ten minutes; every such time is admitted by the configuration and by the command line
alike, and any other is refused by both. So what is admitted is what is meant, from a millisecond to ten
minutes, except for the times that exceed ten minutes by less than a millisecond. A time may be asked for in
any text that reads as it, and there is such a text. -/
theorem budgets_admitted (d : Duration) :
    (Admitted d ↔ IsBudget d) ∧ (Refused d ↔ ¬IsBudget d) ∧
      ((Admitted d ↔ leastBudget ≤ d ∧ d ≤ greatestBudget) ↔
        (d ≤ greatestBudget ∨ greatestBudget.nanos + 1000000 ≤ d.nanos)) ∧
      (∀ o c r, runner o c = .ok r → o.timeout.getD c.run.timeout = d →
        r.timeout = some d ∧ IsBudget d) ∧
      (∀ text, Duration.ofText? text = some d →
        CommandLine.read ["--timeout", text] = .ok { timeout := some d } ∧
        ∀ document : Yaml.Document, document.read? (Config.read (Config.timeoutNode text)) =
          some { run := { timeout := d } }) ∧
      ∃ text, Duration.ofText? text = some d := by
  refine ⟨admitted_iff, refused_iff, ?_, fun o c r h hd => ?_, fun text h => ⟨?_, fun document => ?_⟩, ?_⟩
  · rw [admitted_iff, isBudget_iff_meant]
  · exact hd ▸ runner_budget h
  · exact CommandLine.read_timeout h
  · rw [Config.read?_timeoutNode, h, Option.map_some]
  · exact ⟨d.text, d.ofText?_text⟩

/-- Ten minutes and a nanosecond. -/
def beyond : Duration := ⟨600000000001, by decide⟩

/-- Ten minutes and a millisecond. -/
def farBeyond : Duration := ⟨600001000000, by decide⟩

/-- A nanosecond more than ten minutes can be asked for and is admitted; a millisecond more is refused. -/
theorem budgets_admitted_to_the_millisecond :
    CommandLine.read ["--timeout", "10m 1ns"] = .ok { timeout := some beyond } ∧
      Admitted beyond ∧ IsBudget beyond ∧ Refused farBeyond := by
  obtain ⟨hadmitted, -, -, hrunners, htexts, -⟩ := budgets_admitted beyond
  have hbeyond : Admitted beyond := hadmitted.mpr ⟨by decide, by decide⟩
  have hmade := hbeyond.demanded { timeout := some beyond } {} rfl
  have hfar : Refused farBeyond :=
    (budgets_admitted farBeyond).2.1.mpr fun h => absurd h.greatest (by decide)
  exact ⟨(htexts "10m 1ns" (by decide)).1, hbeyond, (hrunners _ _ _ hmade rfl).2, hfar⟩

/-- **There is a budget of more than ten minutes**: ten minutes and a nanosecond, from the command line as
well as from the configuration. -/
theorem budget_beyond_ten_minutes :
    CommandLine.read ["--timeout", "10m 1ns"] = .ok { timeout := some beyond } ∧
      Config.validate {} = .ok {} ∧
      runner { timeout := some beyond } {} = .ok ⟨some beyond, false, none⟩ ∧
      Config.validate { run := { timeout := beyond } } = .ok { run := { timeout := beyond } } ∧
      runner {} { run := { timeout := beyond } } = .ok ⟨some beyond, false, none⟩ ∧
      ¬beyond ≤ greatestBudget := by
  have htext : Duration.ofText? "10m 1ns" = some beyond := by decide
  exact ⟨CommandLine.read_timeout htext, rfl, rfl, rfl, rfl, by decide⟩

end Batch

end Vigil
