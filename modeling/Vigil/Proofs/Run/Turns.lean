import Mathlib.Data.List.Basic
import Vigil.Proofs.Run.Dispatch

/-!
# First Turns

A task that neither waits nor has a thread to wait for settles in its first turn, and a turn is not
interrupted. So whatever begins after it settles after it, whichever task the executor lets begin next
and whenever the others are due. What carries this through a course is `Executor.Turned`: who should
have settled in a turn that is over has settled, and stands ahead of all that began later and have
settled since.

## Main results

* `Executor.Turned.step`, `Executor.Reaches.turned`: this holds in every course.
* `Settling.ahead_of_begun`: who settles in its first turn settles ahead of all that begin later.
* `Settling.begun_byTurns`: where tasks take turns they begin in the order of dispatch.
-/

namespace Vigil.Run

namespace Executor

variable {tasks : List Task} {e e' : Executor}

/-- Who has settled or is under way has begun. Who settles in a first turn has settled once that is
over, ahead of all that begin later. -/
structure Turned (tasks : List Task) (e : Executor) : Prop where
  mem : ∀ t ∈ e.begun ++ e.fresh ++ e.coming, t ∈ tasks
  begun : ∀ a ∈ e.settled ++ e.underway, a.task ∈ e.begun
  settled : ∀ t ∈ e.begun, ∀ a, Arrival.ofTask? t = some a → a.inTurn = true → a ∈ e.settled
  ahead : ∀ t u a b, [t, u].Sublist e.begun → Arrival.ofTask? t = some a → a.inTurn = true →
    Arrival.ofTask? u = some b → b ∈ e.settled → [a, b].Sublist e.settled

/-- Whoever settles later stands behind those who have settled. -/
theorem pair_sublist_append {settled due : List Arrival} {a b : Arrival} (ha : a ∈ settled)
    (hb : b ∈ due) : [a, b].Sublist (settled ++ due) :=
  (List.singleton_sublist.mpr ha).append (List.singleton_sublist.mpr hb)

/-- Of two items in a row with one more at its end both were there before, or the second is the new
one. -/
theorem pair_sublist_concat {t u v : Task} {begun : List Task} (h : [t, u].Sublist (begun ++ [v])) :
    [t, u].Sublist begun ∨ t ∈ begun ∧ u = v := by
  obtain ⟨first, second, hpair, hfirst, hsecond⟩ := List.sublist_append_iff.mp h
  rcases List.sublist_singleton.mp hsecond with rfl | rfl
  · rw [List.append_nil] at hpair
    exact .inl (hpair ▸ hfirst)
  · have hsplit : [t] ++ [u] = first ++ [v] := hpair
    obtain ⟨rfl, hlast⟩ := List.append_inj' hsplit rfl
    exact .inr ⟨List.singleton_sublist.mp hfirst, List.singleton_inj.mp hlast⟩

/-- Who settled in its turn stays ahead of those that began later, whoever settles next. -/
theorem Turned.ahead_append (h : Turned tasks e) (due : List Arrival) {t u : Task} {a b : Arrival}
    (htu : [t, u].Sublist e.begun) (ha : Arrival.ofTask? t = some a) (hturn : a.inTurn = true)
    (hb : Arrival.ofTask? u = some b) (hmem : b ∈ e.settled ++ due) :
    [a, b].Sublist (e.settled ++ due) := by
  rcases List.mem_append.mp hmem with hmem | hmem
  · exact (h.ahead t u a b htu ha hturn hb hmem).trans (List.sublist_append_left _ _)
  · exact pair_sublist_append (h.settled t (htu.subset List.mem_cons_self) a ha hturn) hmem

/-- What settles besides the turns keeps what holds of them. -/
theorem Turned.settle (h : Turned tasks e) (due : List Arrival) (hbegun : e'.begun = e.begun)
    (hsettled : e'.settled = e.settled ++ due) (hunderway : e.underway.Perm (due ++ e'.underway))
    (hmem : ∀ t ∈ e'.begun ++ e'.fresh ++ e'.coming, t ∈ tasks) : Turned tasks e' := by
  refine ⟨hmem, fun a ha => ?_, fun t ht a ha hturn => ?_, fun t u a b htu ha hturn hb hmem => ?_⟩
  · rw [hsettled, List.append_assoc, ← (hunderway.append_left e.settled).mem_iff] at ha
    exact hbegun ▸ h.begun a ha
  · rw [hsettled]
    exact List.mem_append_left _ (h.settled t (hbegun ▸ ht) a ha hturn)
  · rw [hbegun] at htu
    rw [hsettled] at hmem ⊢
    exact h.ahead_append due htu ha hturn hb hmem

/-- A task that waits for its first turn has not settled. -/
theorem Sound.not_mem_settled_of_fresh (h : Sound tasks e) (hnodup : (tasks.map (·.index)).Nodup)
    {t : Task} (ht : t ∈ e.fresh) {a : Arrival} (ha : Arrival.ofTask? t = some a) :
    a ∉ e.settled := by
  intro hmem
  have hawaited : a ∈ e.awaited :=
    List.mem_append_right _ (List.mem_filterMap.mpr ⟨t, List.mem_append_left _ ht, ha⟩)
  have hapart := Arrival.nodup_of_perm h.perm hnodup
  rw [List.map_append, List.nodup_append] at hapart
  exact hapart.2.2 _ (List.mem_map_of_mem hmem) _ (List.mem_map_of_mem hawaited) rfl

/-- What becomes of a task in its first turn, which is all that happens in it: it settles there if it
does so in its turn, and otherwise it is under way if it settles at all. -/
theorem turn_settled (e : Executor) (t : Task) (fresh : List Task) :
    (e.turn t fresh).begun = e.begun ++ [t] ∧
      (∀ a ∈ (e.turn t fresh).settled ++ (e.turn t fresh).underway,
        a ∈ e.settled ++ e.underway ∨ a.task = t) ∧
      ∃ due, (e.turn t fresh).settled = e.settled ++ due ∧
        ∀ a, Arrival.ofTask? t = some a → a.inTurn = true → a ∈ due := by
  rw [turn]
  cases ht : Arrival.ofTask? t with
  | none =>
      exact ⟨rfl, fun _ => .inl, [], (List.append_nil _).symm,
        fun _ h => absurd h.symm (Option.some_ne_none _)⟩
  | some a =>
      have hnew {l : List Arrival} (hperm : l.Perm (a :: (e.settled ++ e.underway))) :
          ∀ b ∈ l, b ∈ e.settled ++ e.underway ∨ b.task = t := fun b hb => by
        rcases List.mem_cons.mp (hperm.mem_iff.mp hb) with rfl | hb
        · exact .inr (Arrival.since_le_of_ofTask? ht).1
        · exact .inl hb
      dsimp only
      split
      next hturn =>
        refine ⟨rfl, hnew ?_, [a], rfl, fun b hb _ => ?_⟩
        · rw [List.append_assoc]
          exact List.perm_middle
        · exact List.mem_singleton.mpr (Option.some.inj hb).symm
      next hturn =>
        refine ⟨rfl, hnew ?_, [], (List.append_nil _).symm, fun b hb hinTurn => ?_⟩
        · exact ((insert_perm a e.underway).append_left e.settled).trans List.perm_middle
        · exact absurd (Option.some.inj hb ▸ hinTurn) hturn

/-- A first turn keeps what holds of turns. -/
theorem Turned.turn (h : Turned tasks e) (hsound : Sound tasks e)
    (hnodup : (tasks.map (·.index)).Nodup) {t : Task} {fresh : List Task}
    (hfresh : e.fresh.Perm (t :: fresh)) : Turned tasks (e.turn t fresh) := by
  obtain ⟨-, hcoming, hfresh', -⟩ := e.turn_eq t fresh
  obtain ⟨hbegun, hold, due, hsettled, hdue⟩ := e.turn_settled t fresh
  refine ⟨fun u hu => ?_, fun a ha => ?_, fun u hu a ha hturn => ?_,
    fun u v a b huv ha hturn hb hmem => ?_⟩
  · rw [hbegun, hcoming, hfresh'] at hu
    refine h.mem u ?_
    simp only [List.mem_append, hfresh.mem_iff, List.mem_cons] at hu ⊢
    tauto
  · rw [hbegun, List.mem_append, List.mem_singleton]
    exact (hold a ha).imp_left (h.begun a)
  · rw [hbegun] at hu
    rw [hsettled]
    rcases List.mem_append.mp hu with hu | hu
    · exact List.mem_append_left _ (h.settled u hu a ha hturn)
    · obtain rfl := List.mem_singleton.mp hu
      exact List.mem_append_right _ (hdue a ha hturn)
  · rw [hbegun] at huv
    rw [hsettled] at hmem ⊢
    rcases pair_sublist_concat huv with huv | ⟨hu, rfl⟩
    · exact h.ahead_append due huv ha hturn hb hmem
    · -- the second one begins now, so it has not settled before
      have hnew := hsound.not_mem_settled_of_fresh hnodup
        (hfresh.mem_iff.mpr List.mem_cons_self) hb
      exact pair_sublist_append (h.settled u hu a ha hturn)
        ((List.mem_append.mp hmem).resolve_left hnew)

/-- **What holds of turns** holds after whatever may happen. -/
theorem Turned.step (h : Turned tasks e) (hsound : Sound tasks e)
    (hnodup : (tasks.map (·.index)).Nodup) (hstep : Step e e') : Turned tasks e' := by
  cases hstep with
  | dispatch hcoming hnow =>
      refine h.settle [] rfl (List.append_nil _).symm (.refl _) fun u hu => h.mem u ?_
      rw [dispatch] at hu
      simp only [List.mem_append, hcoming, List.mem_cons] at hu ⊢
      tauto
  | turn hfresh => exact h.turn hsound hnodup hfresh
  | settle hunderway hdue => exact h.settle _ rfl rfl hunderway h.mem
  | pass hfresh hnow hcoming hunderway => exact h.settle _ rfl rfl hunderway h.mem

/-- It holds in every course. -/
theorem Reaches.turned (h : Reaches (start tasks) e) (hnodup : (tasks.map (·.index)).Nodup) :
    Turned tasks e := by
  induction h with
  | refl =>
      exact ⟨fun _ ht => ht, fun _ ha => absurd ha List.not_mem_nil,
        fun _ ht => absurd ht List.not_mem_nil, fun _ _ _ _ _ _ _ _ hmem =>
          absurd hmem List.not_mem_nil⟩
  | step h hstep ih => exact ih.step h.sound hnodup hstep

/-- Tasks that take their turns begin in that order. -/
theorem begun_turns (fresh : List Task) (e : Executor) :
    (turns fresh e).begun = e.begun ++ fresh := by
  induction fresh generalizing e with
  | nil => exact (List.append_nil _).symm
  | cons t fresh ih =>
      obtain ⟨hbegun, -⟩ := e.turn_settled t fresh
      rw [turns, ih, hbegun, List.append_assoc]
      rfl

/-- Where tasks take turns they begin in the order of dispatch. -/
theorem begun_takeTurns (coming : List Task) (e : Executor)
    (hsorted : e.underway.Pairwise (·.time ≤ ·.time)) :
    (takeTurns coming e).begun = e.begun ++ e.fresh ++ coming := by
  induction coming generalizing e with
  | nil => exact (begun_turns e.fresh e).trans (List.append_nil _).symm
  | cons t coming ih =>
      obtain ⟨-, -, -, hfresh, hunderway⟩ := reaches_turns rfl hsorted
      rw [takeTurns]
      split
      · rw [ih _ (hunderway.sublist (List.dropWhile_sublist _))]
        simp [Executor.dispatch, elapse, pass, begun_turns, hfresh]
      · rw [ih (e.dispatch t coming) hsorted]
        simp [Executor.dispatch]

end Executor

namespace Settling

variable {tasks : List Task}

/-- **Who settles in its first turn settles ahead of all that begin later.** -/
theorem ahead_of_begun (c : Settling tasks) (hnodup : (tasks.map (·.index)).Nodup) {t u : Task}
    {a b : Arrival} (h : [t, u].Sublist c.last.begun) (ha : Arrival.ofTask? t = some a)
    (hturn : a.inTurn = true) (hb : Arrival.ofTask? u = some b) (hmem : b ∈ c.last.settled) :
    [a, b].Sublist c.last.settled :=
  (c.reaches.turned hnodup).ahead t u a b h ha hturn hb hmem

/-- Only tasks of the run begin. -/
theorem mem_of_begun (c : Settling tasks) (hnodup : (tasks.map (·.index)).Nodup) {t : Task}
    (h : t ∈ c.last.begun) : t ∈ tasks :=
  (c.reaches.turned hnodup).mem t (List.mem_append_left _ (List.mem_append_left _ h))

/-- Who settles begins. -/
theorem task_mem_begun (c : Settling tasks) (hnodup : (tasks.map (·.index)).Nodup) {a : Arrival}
    (h : a ∈ c.last.settled) : a.task ∈ c.last.begun :=
  (c.reaches.turned hnodup).begun a (List.mem_append_left _ h)

/-- Where tasks take turns they begin in the order of dispatch. -/
theorem begun_byTurns (h : tasks.Pairwise (·.since ≤ ·.since)) :
    (byTurns tasks h).last.begun = tasks :=
  Executor.begun_takeTurns tasks (.start tasks) .nil

end Settling

end Vigil.Run
