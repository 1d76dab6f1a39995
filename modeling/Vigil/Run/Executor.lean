import Vigil.Run.Dispatch

/-!
# The Executor

What the tasks of a run do once they are dispatched. A task waits for its first turn, and one that has
nothing to wait for settles in it. All others are under way until their time comes, be it that they
wait for a timer or only for the thread that works for them. The clock stands still as long as some
task waits for its first turn; when it moves on, what is under way settles in the order of time.

Which task has the next turn and when a thread is through is left open (`Executor.Step`), so there are
many courses of the same tasks. `Settling.byTurns` is the one in which tasks begin first come, first
served, and it is computed. A task does not notice when it is joined. So the order in which the tasks
of a run settle can be told beforehand, and a run takes it as given (`Schedule`).

## Main definitions

* `Executor.Step`: what may happen next;
* `Settling`: what may happen to the tasks of a run, up to where all that settle have settled;
* `Schedule`: what a run leaves to its surroundings, the order of settling and the reading of the clock;
* `Settling.schedule`, `Schedule.byTurns`: schedules that come about in this way.
-/

namespace Vigil.Run

/-- The tasks of a run at an instant. -/
structure Executor where
  now : Nat
  /-- The tasks that have yet to be dispatched. -/
  coming : List Task
  /-- The tasks that wait for their first turn. -/
  fresh : List Task := []
  /-- What has begun and is going to settle, in the order of time. -/
  underway : List Arrival := []
  /-- The tasks that have begun, in that order. -/
  begun : List Task := []
  /-- What has settled, in that order. -/
  settled : List Arrival := []

namespace Executor

/-- An arrival put in its place by time, behind those of the same time. -/
def insert (a : Arrival) : List Arrival → List Arrival
  | [] => [a]
  | b :: rest => if b.time ≤ a.time then b :: insert a rest else a :: b :: rest

/-- The next task is dispatched. -/
def dispatch (e : Executor) (t : Task) (coming : List Task) : Executor :=
  { e with coming, fresh := e.fresh ++ [t] }

/-- A task has its first turn, after which others wait for theirs. -/
def turn (e : Executor) (t : Task) (fresh : List Task) : Executor :=
  let e := { e with fresh, begun := e.begun ++ [t] }
  match Arrival.ofTask? t with
  | none => e
  | some a =>
    if a.inTurn then { e with settled := e.settled ++ [a] }
    else { e with underway := insert a e.underway }

/-- The clock moves on, and those that are due settle. -/
def pass (e : Executor) (later : Nat) (due underway : List Arrival) : Executor :=
  { e with now := later, underway, settled := e.settled ++ due }

/-- What may happen next. -/
inductive Step : Executor → Executor → Prop
  /-- A task is dispatched when its time has come. -/
  | dispatch {e : Executor} {t : Task} {coming : List Task} (hcoming : e.coming = t :: coming)
      (hnow : t.since = e.now) : Step e (e.dispatch t coming)
  /-- Any of the tasks that wait for their first turn has it. -/
  | turn {e : Executor} {t : Task} {fresh : List Task} (hfresh : e.fresh.Perm (t :: fresh)) :
      Step e (e.turn t fresh)
  /-- Something under way is due, and settles before the clock moves. -/
  | settle {e : Executor} {a : Arrival} {underway : List Arrival}
      (hunderway : e.underway.Perm (a :: underway)) (hdue : a.time ≤ e.now) :
      Step e (e.pass e.now [a] underway)
  /-- No task waits for its first turn. The clock moves on, at most to the next dispatch, and whoever
  is due by then settles in the order of time. -/
  | pass {e : Executor} {later : Nat} {due underway : List Arrival} (hfresh : e.fresh = [])
      (hnow : e.now ≤ later) (hcoming : ∀ t ∈ e.coming, later ≤ t.since)
      (hunderway : e.underway.Perm (due ++ underway)) (hdue : ∀ a ∈ due, a.time ≤ later)
      (hleft : ∀ a ∈ underway, later < a.time) (htimes : due.Pairwise (·.time ≤ ·.time)) :
      Step e (e.pass later due underway)

/-- What may have happened after a while. -/
inductive Reaches (e : Executor) : Executor → Prop
  | refl : Reaches e e
  | step {e' e'' : Executor} (h : Reaches e e') (hstep : Step e' e'') : Reaches e e''

/-- The beginning of a run. -/
def start (tasks : List Task) : Executor where
  now := 0
  coming := tasks

/-- Those that wait for their first turn have it one after another. -/
def turns : List Task → Executor → Executor
  | [], e => e
  | t :: fresh, e => turns fresh (e.turn t fresh)

/-- The clock moves on to an instant, and whoever is due by then settles. -/
def elapse (e : Executor) (later : Nat) : Executor :=
  e.pass later (e.underway.takeWhile (·.time ≤ later)) (e.underway.dropWhile (·.time ≤ later))

/-- The instant by which all that is under way has settled. -/
def horizon (e : Executor) : Nat := e.underway.foldr (fun a later => max a.time later) e.now

/-- Tasks take turns from an instant on: whoever is dispatched first begins first, and all that are
dispatched at one instant are before any of them begins. -/
def takeTurns : List Task → Executor → Executor
  | [], e =>
    let e := turns e.fresh e
    e.elapse e.horizon
  | t :: coming, e =>
    let e := if e.now < t.since then (turns e.fresh e).elapse t.since else e
    takeTurns coming (e.dispatch t coming)

/-- Who has yet to settle. -/
def awaited (e : Executor) : List Arrival :=
  e.underway ++ (e.fresh ++ e.coming).filterMap Arrival.ofTask?

end Executor

namespace Arrival

/-- Whether one task may settle before another: at an earlier instant, or at the same one unless it
is dispatched there and the other was under way before. -/
def MayPrecede (a b : Arrival) : Prop :=
  a.time < b.time ∨ (a.time = b.time ∧ (a.immediate = true → b.immediate = true))

/-- A task does not settle before it is dispatched. -/
theorem since_le_of_ofTask? {t : Task} {a : Arrival} (h : ofTask? t = some a) :
    a.task = t ∧ t.since ≤ a.time := by
  obtain ⟨⟨time, ending⟩, hsettles, rfl⟩ := Option.map_eq_some_iff.mp h
  obtain ⟨⟨delay, ending'⟩, -, he⟩ := Option.map_eq_some_iff.mp hsettles
  obtain ⟨rfl, rfl⟩ := Prod.mk.inj he
  exact ⟨rfl, Nat.le_add_right _ _⟩

/-- What settles by the instant of a dispatch may precede what is dispatched there. -/
theorem mayPrecede_of_since {a b : Arrival} {t : Task} (h : ofTask? t = some b)
    (hle : a.time ≤ t.since) : a.MayPrecede b := by
  obtain ⟨htask, hsince⟩ := since_le_of_ofTask? h
  rcases Nat.lt_or_ge a.time b.time with hlt | hge
  · exact .inl hlt
  · refine .inr ⟨by omega, fun _ => ?_⟩
    rw [immediate, htask, decide_eq_true_eq]
    omega

end Arrival

namespace Executor

/-! ### What holds in every course -/

/-- What has been inserted is among the others. -/
theorem insert_perm (a : Arrival) (underway : List Arrival) :
    (insert a underway).Perm (a :: underway) := by
  induction underway with
  | nil => exact .refl _
  | cons b rest ih =>
      rw [insert]
      split
      · exact (ih.cons b).trans (.swap a b rest)
      · exact .refl _

/-- What holds of the tasks of a run at each instant. Each task that settles has settled or is awaited,
and who has settled was allowed to before all others. -/
structure Sound (tasks : List Task) (e : Executor) : Prop where
  perm : (e.settled ++ e.awaited).Perm (tasks.filterMap Arrival.ofTask?)
  inTime : e.settled.Pairwise Arrival.MayPrecede
  ahead : ∀ a ∈ e.settled, ∀ b ∈ e.awaited, a.MayPrecede b
  coming : ∀ t ∈ e.coming, e.now ≤ t.since
  fresh : ∀ t ∈ e.fresh, t.since = e.now
  underway : ∀ a ∈ e.underway, a.task.since ≤ e.now ∧ e.now ≤ a.time
  /-- What is due at this instant was dispatched at it. -/
  due : ∀ a ∈ e.underway, a.time ≤ e.now → a.immediate = true

/-- What is awaited of the tasks to come settles no earlier than now. -/
theorem Sound.mayPrecede_of_dispatched {tasks : List Task} {e : Executor} (h : Sound tasks e)
    {a b : Arrival} (ha : a.time ≤ e.now) (hb : b ∈ (e.fresh ++ e.coming).filterMap Arrival.ofTask?) :
    a.MayPrecede b := by
  obtain ⟨t, ht, htb⟩ := List.mem_filterMap.mp hb
  refine Arrival.mayPrecede_of_since htb (Nat.le_trans ha ?_)
  rcases List.mem_append.mp ht with ht | ht
  · exact Nat.le_of_eq (h.fresh t ht).symm
  · exact h.coming t ht

/-- What is due may settle before all that is awaited. -/
theorem Sound.mayPrecede_of_due {tasks : List Task} {e : Executor} (h : Sound tasks e) {a b : Arrival}
    (ha : a.time ≤ e.now) (hb : b ∈ e.awaited) : a.MayPrecede b := by
  rcases List.mem_append.mp hb with hb | hb
  · have hnow := (h.underway b hb).2
    rcases Nat.lt_or_ge e.now b.time with hlt | hge
    · exact .inl (Nat.lt_of_le_of_lt ha hlt)
    · rcases Nat.lt_or_ge a.time b.time with hab | hab
      · exact .inl hab
      · exact .inr ⟨by omega, fun _ => h.due b hb hge⟩
  · exact h.mayPrecede_of_dispatched ha hb

/-- The beginning of a run is sound. -/
theorem sound_start (tasks : List Task) : Sound tasks (start tasks) where
  perm := .refl _
  inTime := .nil
  ahead _ h := absurd h List.not_mem_nil
  coming _ _ := Nat.zero_le _
  fresh _ h := absurd h List.not_mem_nil
  underway _ h := absurd h List.not_mem_nil
  due _ h := absurd h List.not_mem_nil

/-- The dispatch of a task keeps what holds. -/
theorem Sound.dispatch {tasks coming : List Task} {e : Executor} {t : Task} (h : Sound tasks e)
    (hcoming : e.coming = t :: coming) (hnow : t.since = e.now) :
    Sound tasks (e.dispatch t coming) := by
  have hawaited : (e.dispatch t coming).awaited = e.awaited := by
    simp [awaited, Executor.dispatch, hcoming]
  refine ⟨?_, h.inTime, ?_, fun u hu => ?_, fun u hu => ?_, h.underway, h.due⟩
  · rw [hawaited]
    exact h.perm
  · rw [hawaited]
    exact h.ahead
  · exact h.coming u (hcoming ▸ List.mem_cons_of_mem _ hu)
  · rcases List.mem_append.mp hu with hu | hu
    · exact h.fresh u hu
    · obtain rfl := List.mem_singleton.mp hu
      exact hnow

/-- What settles is no longer awaited. -/
theorem Sound.settled {tasks : List Task} {e : Executor} (h : Sound tasks e) (due : List Arrival)
    (e' : Executor) (hsettled : e'.settled = e.settled ++ due)
    (hawaited : e.awaited.Perm (due ++ e'.awaited))
    (hdue : due.Pairwise Arrival.MayPrecede)
    (hleft : ∀ a ∈ due, ∀ b ∈ e'.awaited, a.MayPrecede b) :
    (e'.settled ++ e'.awaited).Perm (tasks.filterMap Arrival.ofTask?) ∧
      e'.settled.Pairwise Arrival.MayPrecede ∧
      ∀ a ∈ e'.settled, ∀ b ∈ e'.awaited, a.MayPrecede b := by
  have hahead : ∀ a ∈ e.settled, ∀ b ∈ due ++ e'.awaited, a.MayPrecede b := fun a ha b hb =>
    h.ahead a ha b (hawaited.mem_iff.mpr hb)
  rw [hsettled]
  refine ⟨?_, List.pairwise_append.mpr ⟨h.inTime, hdue, fun a ha b hb => ?_⟩, fun a ha b hb => ?_⟩
  · rw [List.append_assoc]
    exact (hawaited.symm.append_left _).trans h.perm
  · exact hahead a ha b (List.mem_append_left _ hb)
  · rcases List.mem_append.mp ha with ha | ha
    · exact hahead a ha b (List.mem_append_right _ hb)
    · exact hleft a ha b hb

/-- A first turn keeps what holds. -/
theorem Sound.turn {tasks fresh : List Task} {e : Executor} {t : Task} (h : Sound tasks e)
    (hfresh : e.fresh.Perm (t :: fresh)) : Sound tasks (e.turn t fresh) := by
  have hnow : t.since = e.now := h.fresh t (hfresh.mem_iff.mpr List.mem_cons_self)
  have hrest : ∀ u ∈ fresh, u.since = e.now := fun u hu =>
    h.fresh u (hfresh.mem_iff.mpr (List.mem_cons_of_mem _ hu))
  have hdispatched := ((hfresh.append_right e.coming).filterMap Arrival.ofTask?)
  rw [Executor.turn]
  cases ht : Arrival.ofTask? t with
  | none =>
      rw [List.cons_append, List.filterMap_cons_none ht] at hdispatched
      obtain ⟨hperm, hinTime, hahead⟩ := h.settled []
        { e with fresh, begun := e.begun ++ [t] } (List.append_nil _).symm
        (hdispatched.append_left _) .nil fun _ h => absurd h List.not_mem_nil
      exact ⟨hperm, hinTime, hahead, h.coming, hrest, h.underway, h.due⟩
  | some a =>
      obtain ⟨htask, hsince⟩ := Arrival.since_le_of_ofTask? ht
      rw [List.cons_append, List.filterMap_cons_some ht] at hdispatched
      have hawaited := (hdispatched.append_left e.underway).trans List.perm_middle
      dsimp only
      split
      next hturn =>
        have htime : a.time ≤ e.now := by
          have := (Bool.and_eq_true_iff.mp hturn).1
          rw [Arrival.immediate, decide_eq_true_eq, htask, hnow] at this
          exact this
        obtain ⟨hperm, hinTime, hahead⟩ := h.settled [a]
          { e with fresh, begun := e.begun ++ [t], settled := e.settled ++ [a] } rfl hawaited
          (List.pairwise_singleton _ _) fun b hb c hc => by
            obtain rfl := List.mem_singleton.mp hb
            exact h.mayPrecede_of_due htime (hawaited.mem_iff.mpr (List.mem_cons_of_mem _ hc))
        exact ⟨hperm, hinTime, hahead, h.coming, hrest, h.underway, h.due⟩
      next =>
        have hinsert := insert_perm a e.underway
        obtain ⟨hperm, hinTime, hahead⟩ := h.settled []
          { e with fresh, begun := e.begun ++ [t], underway := insert a e.underway }
          (List.append_nil _).symm (hawaited.trans (hinsert.symm.append_right _)) .nil
          fun _ h => absurd h List.not_mem_nil
        refine ⟨hperm, hinTime, hahead, h.coming, hrest, fun b hb => ?_, fun b hb hdue => ?_⟩
        · rcases List.mem_cons.mp (hinsert.mem_iff.mp hb) with rfl | hb
          · exact ⟨by rw [htask]; exact Nat.le_of_eq hnow, hnow ▸ hsince⟩
          · exact h.underway b hb
        · rcases List.mem_cons.mp (hinsert.mem_iff.mp hb) with rfl | hb
          · rw [Arrival.immediate, decide_eq_true_eq, htask, hnow]
            exact hdue
          · exact h.due b hb hdue

/-- That something due settles keeps what holds. -/
theorem Sound.settle {tasks : List Task} {e : Executor} {a : Arrival} {underway : List Arrival}
    (h : Sound tasks e) (hunderway : e.underway.Perm (a :: underway)) (hdue : a.time ≤ e.now) :
    Sound tasks (e.pass e.now [a] underway) := by
  have hmem {b : Arrival} (hb : b ∈ underway) : b ∈ e.underway :=
    hunderway.mem_iff.mpr (List.mem_cons_of_mem _ hb)
  have hawaited := hunderway.append_right ((e.fresh ++ e.coming).filterMap Arrival.ofTask?)
  obtain ⟨hperm, hinTime, hahead⟩ := h.settled [a] (e.pass e.now [a] underway) rfl
    hawaited (List.pairwise_singleton _ _) fun b hb c hc => by
      obtain rfl := List.mem_singleton.mp hb
      exact h.mayPrecede_of_due hdue (hawaited.mem_iff.mpr (List.mem_cons_of_mem _ hc))
  exact ⟨hperm, hinTime, hahead, h.coming, h.fresh, fun b hb => h.underway b (hmem hb),
    fun b hb => h.due b (hmem hb)⟩

/-- That the clock moves on keeps what holds. -/
theorem Sound.pass {tasks : List Task} {e : Executor} {later : Nat} {due underway : List Arrival}
    (h : Sound tasks e) (hfresh : e.fresh = []) (hnow : e.now ≤ later)
    (hcoming : ∀ t ∈ e.coming, later ≤ t.since) (hunderway : e.underway.Perm (due ++ underway))
    (hdue : ∀ a ∈ due, a.time ≤ later) (hleft : ∀ a ∈ underway, later < a.time)
    (htimes : due.Pairwise (·.time ≤ ·.time)) : Sound tasks (e.pass later due underway) := by
  have hold {b : Arrival} (hb : b ∈ due ++ underway) := h.underway b (hunderway.mem_iff.mpr hb)
  have horder : due.Pairwise Arrival.MayPrecede := htimes.imp_of_mem fun {a b} ha hb hab => by
    -- two that settle at one instant were both under way before it, or both dispatched at it
    rcases Nat.lt_or_eq_of_le hab with hlt | heq
    · exact .inl hlt
    · refine .inr ⟨heq, fun himm => h.due b (hunderway.mem_iff.mpr (List.mem_append_left _ hb)) ?_⟩
      rw [Arrival.immediate, decide_eq_true_eq] at himm
      have := (hold (List.mem_append_left _ ha)).1
      omega
  obtain ⟨hperm, hinTime, hahead⟩ := h.settled due (e.pass later due underway) rfl
    ((hunderway.append_right _).trans (List.append_assoc _ _ _ ▸ List.Perm.refl _)) horder
    fun a ha b hb => by
      rcases List.mem_append.mp hb with hb | hb
      · exact .inl (Nat.lt_of_le_of_lt (hdue a ha) (hleft b hb))
      · obtain ⟨t, ht, htb⟩ := List.mem_filterMap.mp hb
        rw [Executor.pass, hfresh, List.nil_append] at ht
        exact Arrival.mayPrecede_of_since htb (Nat.le_trans (hdue a ha) (hcoming t ht))
  refine ⟨hperm, hinTime, hahead, hcoming, fun t ht => ?_, fun b hb => ?_, fun b hb hlate => ?_⟩
  · rw [Executor.pass, hfresh] at ht
    cases ht
  · exact ⟨Nat.le_trans (hold (List.mem_append_right _ hb)).1 hnow, Nat.le_of_lt (hleft b hb)⟩
  · exact absurd hlate (Nat.not_le.mpr (hleft b hb))

/-- **What holds of the tasks of a run at each instant** holds after whatever may happen. -/
theorem Sound.step {tasks : List Task} {e e' : Executor} (h : Sound tasks e) (hstep : Step e e') :
    Sound tasks e' := by
  cases hstep with
  | dispatch hcoming hnow => exact h.dispatch hcoming hnow
  | turn hfresh => exact h.turn hfresh
  | settle hunderway hdue => exact h.settle hunderway hdue
  | pass hfresh hnow hcoming hunderway hdue hleft htimes =>
      exact h.pass hfresh hnow hcoming hunderway hdue hleft htimes

/-- It holds in every course. -/
theorem Reaches.sound {tasks : List Task} {e : Executor} (h : Reaches (start tasks) e) :
    Sound tasks e := by
  induction h with
  | refl => exact sound_start tasks
  | step _ hstep ih => exact ih.step hstep

/-! ### Turns -/

/-- What may happen after what may have happened may have happened. -/
theorem Reaches.trans {e e' e'' : Executor} (h : Reaches e e') (h' : Reaches e' e'') :
    Reaches e e'' := by
  induction h' with
  | refl => exact h
  | step _ hstep ih => exact ih.step hstep

/-- An arrival is inserted where it keeps the order of time. -/
theorem pairwise_insert {a : Arrival} {underway : List Arrival}
    (h : underway.Pairwise (·.time ≤ ·.time)) : (insert a underway).Pairwise (·.time ≤ ·.time) := by
  induction underway with
  | nil => exact List.pairwise_singleton _ _
  | cons b rest ih =>
      rw [insert]
      split
      next hle =>
        refine .cons (fun c hc => ?_) (ih h.of_cons)
        rcases List.mem_cons.mp ((insert_perm a rest).mem_iff.mp hc) with rfl | hc
        · exact hle
        · exact List.rel_of_pairwise_cons h hc
      next hlt =>
        refine .cons (fun c hc => ?_) h
        rcases List.mem_cons.mp hc with rfl | hc
        · omega
        · have : b.time ≤ c.time := List.rel_of_pairwise_cons h hc
          omega

/-- In the order of time those that are not due stand behind all that are. -/
theorem lt_of_mem_dropWhile {later : Nat} {underway : List Arrival}
    (h : underway.Pairwise (·.time ≤ ·.time)) :
    ∀ a ∈ underway.dropWhile (·.time ≤ later), later < a.time := by
  induction underway with
  | nil => simp
  | cons b rest ih =>
      rw [List.dropWhile_cons]
      split
      · exact ih h.of_cons
      next hlt =>
        rw [decide_eq_true_eq, Nat.not_le] at hlt
        intro a ha
        rcases List.mem_cons.mp ha with rfl | ha
        · exact hlt
        · exact Nat.lt_of_lt_of_le hlt (List.rel_of_pairwise_cons h ha)

/-- All that is under way has settled by the horizon. -/
theorem le_horizon (e : Executor) : e.now ≤ e.horizon ∧ ∀ a ∈ e.underway, a.time ≤ e.horizon := by
  rw [horizon]
  generalize e.underway = underway
  induction underway with
  | nil => exact ⟨Nat.le_refl _, fun _ h => absurd h List.not_mem_nil⟩
  | cons b rest ih =>
      obtain ⟨hnow, hrest⟩ := ih
      rw [List.foldr_cons, List.forall_mem_cons]
      exact ⟨by omega, by omega, fun a ha => by have := hrest a ha; omega⟩

/-- A first turn keeps all but the task and what becomes of it. -/
theorem turn_eq (e : Executor) (t : Task) (fresh : List Task) :
    (e.turn t fresh).now = e.now ∧ (e.turn t fresh).coming = e.coming ∧
      (e.turn t fresh).fresh = fresh ∧ (e.underway.Pairwise (·.time ≤ ·.time) →
        (e.turn t fresh).underway.Pairwise (·.time ≤ ·.time)) := by
  rw [turn]
  cases Arrival.ofTask? t with
  | none => exact ⟨rfl, rfl, rfl, id⟩
  | some a =>
      dsimp only
      split
      · exact ⟨rfl, rfl, rfl, id⟩
      · exact ⟨rfl, rfl, rfl, pairwise_insert⟩

/-- Those that wait for their first turn may have it in order. -/
theorem reaches_turns {e : Executor} {fresh : List Task} (h : e.fresh = fresh)
    (hsorted : e.underway.Pairwise (·.time ≤ ·.time)) :
    Reaches e (turns fresh e) ∧ (turns fresh e).now = e.now ∧ (turns fresh e).coming = e.coming ∧
      (turns fresh e).fresh = [] ∧ (turns fresh e).underway.Pairwise (·.time ≤ ·.time) := by
  induction fresh generalizing e with
  | nil => exact ⟨.refl, rfl, rfl, h, hsorted⟩
  | cons t fresh ih =>
      obtain ⟨hnow, hcoming, hfresh, hturn⟩ := e.turn_eq t fresh
      obtain ⟨hreaches, hnow', hcoming', hrest⟩ := ih hfresh (hturn hsorted)
      exact ⟨.trans (.step .refl (.turn (h ▸ .refl _))) hreaches, hnow'.trans hnow,
        hcoming'.trans hcoming, hrest⟩

/-- Once all have begun the clock may move on. -/
theorem step_elapse {e : Executor} {later : Nat} (hfresh : e.fresh = [])
    (hsorted : e.underway.Pairwise (·.time ≤ ·.time)) (hnow : e.now ≤ later)
    (hcoming : ∀ t ∈ e.coming, later ≤ t.since) : Step e (e.elapse later) :=
  .pass hfresh hnow hcoming (by rw [List.takeWhile_append_dropWhile])
    (fun a ha => by simpa using List.all_eq_true.mp List.all_takeWhile a ha)
    (lt_of_mem_dropWhile hsorted) (hsorted.sublist (List.takeWhile_sublist _))

/-- **Tasks may take turns**, and all that settle have settled then. -/
theorem reaches_takeTurns {e : Executor} {coming : List Task} (h : e.coming = coming)
    (hsorted : e.underway.Pairwise (·.time ≤ ·.time)) (hsince : coming.Pairwise (·.since ≤ ·.since))
    (hnow : ∀ t ∈ coming, e.now ≤ t.since) :
    Reaches e (takeTurns coming e) ∧ (takeTurns coming e).awaited = [] := by
  induction coming generalizing e with
  | nil =>
      obtain ⟨hreaches, -, hcoming, hfresh, hunderway⟩ := reaches_turns rfl hsorted
      obtain ⟨hle, hall⟩ := (turns e.fresh e).le_horizon
      rw [h] at hcoming
      refine ⟨hreaches.step (step_elapse hfresh hunderway hle (by simp [hcoming])), ?_⟩
      have hnone : (turns e.fresh e).underway.dropWhile
          (·.time ≤ (turns e.fresh e).horizon) = [] :=
        List.eq_nil_iff_forall_not_mem.mpr fun a ha => Nat.not_le.mpr
          (lt_of_mem_dropWhile hunderway a ha) (hall a ((List.dropWhile_sublist _).subset ha))
      simp [takeTurns, awaited, elapse, pass, hfresh, hcoming, hnone]
  | cons t coming ih =>
      rw [takeTurns]
      split
      next hlt =>
        obtain ⟨hreaches, hnow', hcoming, hfresh, hunderway⟩ := reaches_turns rfl hsorted
        rw [h] at hcoming
        have hstep : Step (turns e.fresh e) ((turns e.fresh e).elapse t.since) := by
          refine step_elapse hfresh hunderway (by omega) fun u hu => ?_
          rw [hcoming] at hu
          rcases List.mem_cons.mp hu with rfl | hu
          · exact Nat.le_refl _
          · exact List.rel_of_pairwise_cons hsince hu
        obtain ⟨hrest, hall⟩ := @ih (((turns e.fresh e).elapse t.since).dispatch t coming) rfl
          (hunderway.sublist (List.dropWhile_sublist _)) hsince.of_cons
          fun u hu => List.rel_of_pairwise_cons hsince hu
        exact ⟨((hreaches.step hstep).step (.dispatch hcoming rfl)).trans hrest, hall⟩
      next hge =>
        have hsame : t.since = e.now := by
          have := hnow t List.mem_cons_self
          omega
        obtain ⟨hrest, hall⟩ := @ih (e.dispatch t coming) rfl hsorted hsince.of_cons
          fun u hu => hnow u (List.mem_cons_of_mem _ hu)
        exact ⟨.trans (.step .refl (.dispatch h hsame)) hrest, hall⟩

end Executor

/-- What may happen to the tasks of a run, up to where all that settle have settled. -/
structure Settling (tasks : List Task) where
  last : Executor
  reaches : Executor.Reaches (.start tasks) last
  awaited : last.awaited = []

/-- The course in which tasks take turns. -/
def Settling.byTurns (tasks : List Task) (h : tasks.Pairwise (·.since ≤ ·.since)) : Settling tasks where
  last := Executor.takeTurns tasks (.start tasks)
  reaches := (@Executor.reaches_takeTurns (.start tasks) _ rfl .nil h fun _ _ => Nat.zero_le _).1
  awaited := (@Executor.reaches_takeTurns (.start tasks) _ rfl .nil h fun _ _ => Nat.zero_le _).2

/-- What a run leaves to its surroundings. -/
structure Schedule (tasks : List Task) where
  /-- The order in which tasks settle. Each task that settles at all is in it once. -/
  order : List Arrival
  perm : order.Perm (tasks.filterMap Arrival.ofTask?)
  inTime : order.Pairwise Arrival.MayPrecede
  /-- The reading of the machine's clock when the run begins. -/
  begins : Nat := 0

/-- The schedule of a course that begins at an instant of the machine's clock. -/
def Settling.schedule {tasks : List Task} (c : Settling tasks) (begins : Nat) : Schedule tasks where
  order := c.last.settled
  perm := by simpa [c.awaited] using c.reaches.sound.perm
  inTime := c.reaches.sound.inTime
  begins

/-- The schedule in which tasks take turns. -/
def Schedule.byTurns (tasks : List Task) (h : tasks.Pairwise (·.since ≤ ·.since)) : Schedule tasks :=
  (Settling.byTurns tasks h).schedule 0

end Vigil.Run
