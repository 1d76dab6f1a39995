import Vigil.Proofs.Client.Conservation

/-!
# Tasks Share One Client

What tasks that want the client at once come to, in closed form. With a client in the slot all of them
are answered with it. With an empty slot the attempts of the script are made one by one, each for the
task whose turn it is: those that fail are answered to their tasks, and the first that does not makes
the client for its own task and for all behind it. How long the attempts take does not matter.

## Main results

* `ClientSlot.getEach_of_cached_eq`, `ClientSlot.getEach_of_empty`: tasks one after another.
* `ClientSlot.tasks_share_client`: tasks at once are answered as those one after another, and share
  one client at most.
-/

namespace Vigil.ClientSlot

variable {s : ClientSlot}

/-- The failures of a script ahead of its first attempt that succeeds. -/
def leadingFailures : List Attempt → List String
  | [] => []
  | a :: rest =>
    match a.failure with
    | none => []
    | some failure => failure :: leadingFailures rest

/-- The attempts ahead of the first that succeeds are those that fail with the leading failures. -/
theorem failure_attemptAt_of_lt {connects : List Attempt} {i : Nat}
    (h : i < (leadingFailures connects).length) :
    (attemptAt connects i).failure = (leadingFailures connects)[i]? := by
  induction connects generalizing i with
  | nil => cases h
  | cons a rest ih =>
      rw [leadingFailures] at h ⊢
      split at h
      next => cases h
      next failure hfailure =>
        cases i with
        | zero => exact hfailure
        | succ i => exact ih (Nat.lt_of_succ_lt_succ h)

/-- The attempt after the leading failures succeeds. -/
theorem failure_attemptAt_leadingFailures (connects : List Attempt) :
    (attemptAt connects (leadingFailures connects).length).failure = none := by
  induction connects with
  | nil => rfl
  | cons a rest ih =>
      rw [leadingFailures]
      split
      next hfailure => exact hfailure
      next => exact ih

/-- The slot after `n` tasks have found it empty: either all their attempts have failed, or the one
after the leading failures has made the client. -/
def afterTasks (s : ClientSlot) (n : Nat) : ClientSlot :=
  let failures := (leadingFailures s.connects).length
  if n ≤ failures then { s with attempts := s.attempts + n, connects := s.connects.drop n }
  else
    { s with
      cached := some (s.attempts + failures)
      attempts := s.attempts + failures + 1
      connects := s.connects.drop (failures + 1) }

/-- What `n` tasks that have found the slot empty are answered: the leading failures, one each, and the
client to all behind them. -/
def answersTo (s : ClientSlot) (n : Nat) : List Answer :=
  let failures := leadingFailures s.connects
  (failures.take n).map .error ++ List.replicate (n - failures.length) (.ok (s.attempts + failures.length))

/-! ### One after another -/

/-- Tasks one after another: the first, and the others in the slot that it leaves. -/
theorem getEach_succ (n : Nat) (s : ClientSlot) :
    s.getEach (n + 1) = (s.get.1 :: (s.get.2.getEach n).1, (s.get.2.getEach n).2) := rfl

/-- Tasks that find a client are all answered with it. -/
theorem getEach_of_cached_eq {client : Nat} (h : s.cached = some client) (n : Nat) :
    s.getEach n = (List.replicate n (.ok client), s) := by
  induction n with
  | zero => rfl
  | succ n ih => rw [getEach_succ, get_of_cached h, ih, List.replicate_succ]

/-- A get whose attempt fails is answered with the failure. -/
theorem get_of_failure {a : Attempt} {rest : List Attempt} {failure : String}
    (hempty : s.cached = none) (hconnects : s.connects = a :: rest) (h : a.failure = some failure) :
    s.get = (.error failure, { s with attempts := s.attempts + 1, connects := rest }) := by
  rw [get_of_empty hempty, nextAttempt, hconnects, List.head?_cons, Option.getD_some, h, begin, hconnects]
  rfl

/-- A get whose attempt succeeds is answered with the client of its number. -/
theorem get_of_success (hempty : s.cached = none) (h : s.nextAttempt.failure = none) :
    s.get = (.ok s.attempts,
      { s with
        cached := some s.attempts
        attempts := s.attempts + 1
        connects := s.connects.tail }) := by
  rw [get_of_empty hempty, h]
  rfl

/-- Tasks behind one whose attempt succeeds are answered with its client. -/
theorem getEach_of_success (hempty : s.cached = none) (h : s.nextAttempt.failure = none) (n : Nat) :
    s.getEach (n + 1) = (List.replicate (n + 1) (.ok s.attempts),
      { s with
        cached := some s.attempts
        attempts := s.attempts + 1
        connects := s.connects.tail }) := by
  rw [getEach_succ, get_of_success hempty h, getEach_of_cached_eq rfl, List.replicate_succ]

/-- **Tasks that find the slot empty**, one after another: what they are answered and the slot after
them. -/
theorem getEach_of_empty (hempty : s.cached = none) (n : Nat) :
    s.getEach n = (s.answersTo n, s.afterTasks n) := by
  induction n generalizing s with
  | zero => simp [getEach, answersTo, afterTasks]
  | succ n ih =>
      have hsuccess (h : s.nextAttempt.failure = none) (hnone : leadingFailures s.connects = []) :
          s.getEach (n + 1) = (s.answersTo (n + 1), s.afterTasks (n + 1)) := by
        rw [getEach_of_success hempty h]
        simp [answersTo, afterTasks, hnone]
      cases hconnects : s.connects with
      | nil =>
          refine hsuccess ?_ (by rw [hconnects]; rfl)
          rw [nextAttempt, hconnects]
          rfl
      | cons a rest =>
          cases hfailure : a.failure with
          | none =>
              refine hsuccess ?_ (by rw [hconnects, leadingFailures, hfailure])
              rw [nextAttempt, hconnects]
              exact hfailure
          | some failure =>
              have hleading : leadingFailures (a :: rest) = failure :: leadingFailures rest := by
                rw [leadingFailures, hfailure]
              rw [getEach_succ, get_of_failure hempty hconnects hfailure]
              dsimp only
              rw [ih (by exact hempty)]
              have hnumber (k : Nat) : s.attempts + 1 + k = s.attempts + (k + 1) := by omega
              simp [answersTo, afterTasks, hleading, hconnects, hnumber]

/-- Gets one after another are answered as tasks one after another are. -/
theorem answers_uses_get (n : Nat) (s : ClientSlot) :
    (s.uses (List.replicate n .get)).flatMap (·.reply.answers) = (s.getEach n).1 := by
  induction n generalizing s with
  | zero => rfl
  | succ n ih =>
      rw [List.replicate_succ, uses, List.flatMap_cons, getEach_succ]
      exact congrArg (s.get.1 :: ·) (ih s.get.2)

/-- The slot after uses one after another. -/
def afterUses (s : ClientSlot) (us : List Use) : ClientSlot := us.foldl (fun s u => (s.use u).after) s

/-- Gets one after another leave the slot that tasks one after another do. -/
theorem afterUses_get (n : Nat) (s : ClientSlot) :
    s.afterUses (List.replicate n .get) = (s.getEach n).2 := by
  induction n generalizing s with
  | zero => rfl
  | succ n ih =>
      rw [afterUses, List.replicate_succ, List.foldl_cons, getEach_succ]
      exact ih s.get.2

/-! ### At once -/

/-- **Tasks at once come to what they come to one after another**, whichever way their steps lead: when
no step is left, all are through, with the answers and the slot of as many gets. -/
theorem eq_getEach_of_leads {n : Nat} {c : Contention} (h : Contention.Leads ⟨s, none, n, []⟩ c)
    (hlast : ∀ d, ¬Contention.Step c d) :
    c.holder = none ∧ c.waiting = 0 ∧ (c.answers, c.slot) = s.getEach n := by
  have hdone : c.step? = none := by
    refine Option.eq_none_iff_forall_ne_some.mpr fun d hd => ?_
    exact hlast d (Contention.step?_eq_some_iff.mp hd)
  have hfinish : c.finish = c := Contention.finish_of_none hdone
  obtain ⟨hfree, hwaiting⟩ := c.finish_through
  have houtcome : (c.answers, c.slot) = Contention.outcome ⟨s, none, n, []⟩ :=
    calc (c.answers, c.slot)
        = (c.finish.answers, c.finish.slot) := by rw [hfinish]
      _ = c.outcome := c.finish_eq_outcome
      _ = Contention.outcome ⟨s, none, n, []⟩ := Contention.outcome_of_leads h
  rw [hfinish] at hfree hwaiting
  refine ⟨hfree, hwaiting, houtcome.trans ?_⟩
  rw [Contention.outcome, List.nil_append]

/-- Of the attempts that tasks make at most one creates a client. -/
theorem length_created_le_one (n : Nat) (s : ClientSlot) :
    (created s.connects ((s.getEach n).2.attempts - s.attempts)).length ≤ 1 := by
  have hfailing {count : Nat} (h : count ≤ (leadingFailures s.connects).length) :
      created s.connects count = [] := by
    refine List.filter_eq_nil_iff.mpr fun i hi => ?_
    have hlt : i < (leadingFailures s.connects).length := by
      have := List.mem_range.mp hi
      omega
    rw [failure_attemptAt_of_lt hlt, List.getElem?_eq_getElem hlt]
    exact Bool.false_ne_true
  cases hcached : s.cached with
  | some client =>
      rw [getEach_of_cached_eq hcached, Nat.sub_self]
      exact Nat.zero_le _
  | none =>
      rw [getEach_of_empty hcached, afterTasks]
      dsimp only
      split
      next hle =>
        rw [Nat.add_sub_cancel_left, hfailing hle]
        exact Nat.zero_le _
      next =>
        rw [Nat.add_assoc, Nat.add_sub_cancel_left, created_succ, hfailing (Nat.le_refl _),
          failure_attemptAt_leadingFailures]
        exact Nat.le_refl 1

/-- **Tasks at once share one client at most**, and come to what gets one after another come to. Whatever
the slot, however long attempts take and whichever of them fail, the tasks are answered in their order
as that many gets are and leave the same slot, on every course that their steps can take. With a client
in the slot it is the answer to all of them and nothing is attempted. With an empty slot the leading
failures of the script are answered one to each task, and all behind them are answered with the client
of the first attempt that succeeds; at most one attempt does. -/
theorem tasks_share_client (s : ClientSlot) (n : Nat) :
    let many := s.use (.getMany n)
    many.reply.answers = (s.uses (List.replicate n .get)).flatMap (·.reply.answers) ∧
      many.after = s.afterUses (List.replicate n .get) ∧
      (∀ c, Contention.Leads ⟨s, none, n, []⟩ c → (∀ d, ¬Contention.Step c d) →
        c.holder = none ∧ c.waiting = 0 ∧ c.answers = many.reply.answers ∧ c.slot = many.after) ∧
      (∀ client, s.cached = some client →
        many.reply.answers = List.replicate n (.ok client) ∧ many.after = s) ∧
      (s.cached = none →
        many.reply.answers = s.answersTo n ∧ many.after = s.afterTasks n ∧
          (∀ i < (leadingFailures s.connects).length,
            (attemptAt s.connects i).failure = (leadingFailures s.connects)[i]?) ∧
          (attemptAt s.connects (leadingFailures s.connects).length).failure = none) ∧
      (created s.connects (many.after.attempts - s.attempts)).length ≤ 1 := by
  intro many
  have hmany : (many.reply.answers, many.after) = s.getEach n := getMany_eq_getEach n s
  obtain ⟨hanswers, hafter⟩ := Prod.mk.inj hmany
  refine ⟨hanswers.trans (answers_uses_get n s).symm, hafter.trans (afterUses_get n s).symm,
    fun c hc hlast => ?_, fun client hcached => ?_, fun hempty => ?_, ?_⟩
  · obtain ⟨hfree, hwaiting, heq⟩ := eq_getEach_of_leads hc hlast
    obtain ⟨hcanswers, hcslot⟩ := Prod.mk.inj (heq.trans hmany.symm)
    exact ⟨hfree, hwaiting, hcanswers, hcslot⟩
  · rw [hanswers, hafter, getEach_of_cached_eq hcached]
    exact ⟨rfl, rfl⟩
  · rw [hanswers, hafter, getEach_of_empty hempty]
    exact ⟨rfl, rfl, fun i hi => failure_attemptAt_of_lt hi, failure_attemptAt_leadingFailures _⟩
  · rw [hafter]
    exact length_created_le_one n s

/-- A slot that was given up once, with a slow failure ahead. -/
def worn : ClientSlot := ⟨none, 1, [0], [⟨7, some "refused"⟩, ⟨2, none⟩], []⟩

/-- Of three tasks the first fails to connect, the second connects and the third shares its client. -/
theorem tasks_share_client_worn :
    (worn.use (.getMany 3)).reply.answers = [.error "refused", .ok 2, .ok 2] ∧
      (worn.use (.getMany 3)).after = ⟨some 2, 3, [0], [], []⟩ := by
  obtain ⟨-, -, -, -, hempty, -⟩ := tasks_share_client worn 3
  obtain ⟨hanswers, hafter, -⟩ := hempty rfl
  exact ⟨hanswers, hafter⟩

end Vigil.ClientSlot
