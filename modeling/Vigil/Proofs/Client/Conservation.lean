import Mathlib.Data.List.Basic
import Vigil.Proofs.Client.Contention

/-!
# Conservation of Clients

No client is lost, doubled or closed twice. `ClientSlot.Accounts` says that the clients that attempts
have created are those that were closed and the one in the slot, in this order; every use of a slot
keeps it. While a task connects, `Contention.Accounts` says the same of the slot as it was when the
attempt began, and every step of the tasks keeps that.

## Main results

* `ClientSlot.Accounts.use`: every use keeps account of the clients.
* `Contention.Accounts.step`: so does every step of tasks that want the client at once.
* `ClientSlot.clients_conserved`: what holds after each use of a slot, and at each moment of it.
-/

namespace Vigil.ClientSlot

variable {connects : List Attempt} {s : ClientSlot}

/-! ### Attempts -/

/-- What happens to the attempt of a number. -/
def attemptAt (connects : List Attempt) (number : Nat) : Attempt := connects[number]?.getD {}

/-- The clients that the first `count` attempts create, in order. -/
def created (connects : List Attempt) (count : Nat) : List Nat :=
  (List.range count).filter fun number => (attemptAt connects number).failure.isNone

/-- The numbers of those among the first `count` attempts that fail. -/
def failed (connects : List Attempt) (count : Nat) : List Nat :=
  (List.range count).filter fun number => (attemptAt connects number).failure.isSome

/-- No client is created twice. -/
theorem nodup_created (count : Nat) : (created connects count).Nodup := List.nodup_range.filter _

/-- Every attempt creates a client or fails. -/
theorem length_created_add_length_failed (count : Nat) :
    (created connects count).length + (failed connects count).length = count := by
  have hsplit := List.length_eq_length_filter_add (l := List.range count)
    fun number => (attemptAt connects number).failure.isNone
  simp only [Option.not_isNone, List.length_range] at hsplit
  exact hsplit.symm

/-- One more attempt adds its client, unless it fails. -/
theorem created_succ (count : Nat) :
    created connects (count + 1) =
      created connects count ++
        if (attemptAt connects count).failure.isNone then [count] else [] := by
  rw [created, List.range_succ, List.filter_append, List.filter_singleton, Bool.cond_eq_ite]
  rfl

/-! ### Account of the clients -/

/-- The attempts to come are the rest of the script, and the clients created so far are those that
were closed and the one in the slot. -/
structure Accounts (connects : List Attempt) (s : ClientSlot) : Prop where
  connects_eq : s.connects = connects.drop s.attempts
  clients_eq : s.closed ++ s.cached.toList = created connects s.attempts

/-- A slot that has not been used has nothing to account for. -/
theorem accounts_ofScripts (closes : List (Option String)) :
    (ofScripts connects closes).Accounts connects := ⟨rfl, rfl⟩

namespace Accounts

/-- The next attempt is the one of its number. -/
theorem nextAttempt_eq (h : s.Accounts connects) :
    s.nextAttempt = attemptAt connects s.attempts := by
  rw [nextAttempt, h.connects_eq, List.head?_drop, attemptAt]

/-- An attempt of an empty slot is accounted for when it has come to its end. -/
theorem conclude (h : s.Accounts connects) (hempty : s.cached = none) :
    (s.begin.conclude s.attempts s.nextAttempt.failure).2.Accounts connects := by
  have hconnects : s.begin.connects = connects.drop s.begin.attempts := by
    rw [begin, h.connects_eq, List.tail_drop]
  have hclosed : s.closed = created connects s.attempts := by
    rw [← h.clients_eq, hempty, Option.toList_none, List.append_nil]
  have hcreated : created connects (s.attempts + 1) =
      s.closed ++ if s.nextAttempt.failure.isNone then [s.attempts] else [] := by
    rw [created_succ, hclosed, h.nextAttempt_eq]
  cases hfailure : s.nextAttempt.failure with
  | none =>
      rw [hfailure] at hcreated
      exact ⟨hconnects, hcreated.symm⟩
  | some failure =>
      rw [hfailure] at hcreated
      refine ⟨hconnects, ?_⟩
      rw [ClientSlot.conclude, begin, hempty]
      exact hcreated.symm

/-- Asking for the client keeps account. -/
theorem get (h : s.Accounts connects) : s.get.2.Accounts connects := by
  cases hcached : s.cached with
  | none => rw [get_of_empty hcached]; exact h.conclude hcached
  | some client => rw [get_of_cached hcached]; exact h

/-- Asking for the client several times keeps account. -/
theorem getEach (h : s.Accounts connects) (n : Nat) : (s.getEach n).2.Accounts connects := by
  induction n generalizing s with
  | zero => exact h
  | succ n ih => exact ih h.get

end Accounts

/-- What giving the client up does to a slot: the client is closed, if there is one, and the slot is
empty. -/
theorem release_after (s : ClientSlot) :
    s.release.2.cached = none ∧ s.release.2.closed = s.closed ++ s.cached.toList ∧
      s.release.2.attempts = s.attempts ∧ s.release.2.connects = s.connects := by
  rw [release]
  split
  next hempty => simp only [hempty, Option.toList_none, List.append_nil, and_self]
  next client hcached =>
    simp only [hcached]
    split <;> exact ⟨rfl, rfl, rfl, rfl⟩

/-- Nothing is done to an empty slot that is released. -/
theorem release_of_empty (h : s.cached = none) : s.release = (.ok (), s) := by
  rw [release, h]

namespace Accounts

/-- Giving the client up keeps account. -/
theorem release (h : s.Accounts connects) : s.release.2.Accounts connects := by
  obtain ⟨hcached, hclosed, hattempts, hconnects⟩ := release_after s
  constructor
  · rw [hconnects, hattempts, h.connects_eq]
  · rw [hcached, hclosed, hattempts, Option.toList_none, List.append_nil, h.clients_eq]

/-- **Every use of a slot keeps account of the clients.** -/
theorem use (h : s.Accounts connects) (u : Use) : (s.use u).after.Accounts connects := by
  cases u with
  | get => exact h.get
  | getMany n =>
      rw [ClientSlot.use, getMany_eq_getEach]
      exact h.getEach n
  | release | invalidate => exact h.release

end Accounts

/-- A use knows what it was. -/
@[simp] theorem use_use (s : ClientSlot) (u : Use) : (s.use u).use = u := by cases u <;> rfl

/-- A use knows the slot that it found. -/
@[simp] theorem before_use (s : ClientSlot) (u : Use) : (s.use u).before = s := by cases u <;> rfl

/-- Each use finds a slot that keeps account of its clients. -/
theorem Accounts.of_mem_uses {us : List Use} (h : s.Accounts connects) {used : Used}
    (hused : used ∈ s.uses us) :
    ∃ (s' : ClientSlot) (u : Use), s'.Accounts connects ∧ used = s'.use u := by
  induction us generalizing s with
  | nil => cases hused
  | cons u rest ih =>
      rcases List.mem_cons.mp hused with rfl | hrest
      · exact ⟨s, u, h, rfl⟩
      · exact ih (h.use u) hrest

/-! ### Account while a task connects -/

/-- With the lock free the slot keeps account of its clients. While a task holds the lock the slot is
one that was empty and kept account until the attempt of that task began. -/
structure Contention.Accounts (connects : List Attempt) (c : Contention) : Prop where
  free : c.holder = none → c.slot.Accounts connects
  held : ∀ h, c.holder = some h → ∃ s : ClientSlot, s.Accounts connects ∧ s.cached = none ∧
    c.slot = s.begin ∧ h.number = s.attempts ∧ h.failure = s.nextAttempt.failure

namespace Contention

variable {c d : Contention}

/-- **Every step of the tasks keeps account of the clients.** -/
theorem Accounts.step (hc : c.Accounts connects) (h : Step c d) : d.Accounts connects := by
  cases h with
  | @lasts holder hheld _ =>
      refine ⟨(fun hnone => by cases hnone), fun h hh => ?_⟩
      obtain rfl := Option.some.inj hh
      exact hc.held holder hheld
  | ends hheld _ =>
      obtain ⟨s, haccounts, hempty, hslot, hnumber, hfailure⟩ := hc.held _ hheld
      refine ⟨fun _ => ?_, (fun h hh => by cases hh)⟩
      rw [settle, hslot, hnumber, hfailure]
      exact haccounts.conclude hempty
  | served hfree _ _ =>
      refine ⟨fun _ => hc.free hfree, fun h hh => ?_⟩
      obtain hh : c.holder = some h := hh
      rw [hfree] at hh
      cases hh
  | connects hfree _ hempty =>
      refine ⟨(fun hnone => by cases hnone), fun h hh => ?_⟩
      obtain rfl := Option.some.inj hh
      exact ⟨c.slot, hc.free hfree, hempty, rfl, rfl, rfl⟩

/-- The steps of the tasks keep account of the clients. -/
theorem Accounts.leads (hc : c.Accounts connects) (h : c.Leads d) : d.Accounts connects := by
  induction h with
  | refl => exact hc
  | tail _ hstep ih => exact ih.step hstep

/-- Tasks that want the client at once, at one moment. -/
structure Orderly (connects : List Attempt) (c : Contention) : Prop where
  /-- While a task connects the slot is empty and every client created before is closed. -/
  empty : ∀ h, c.holder = some h →
    c.slot.cached = none ∧ c.slot.closed = created connects h.number ∧
      c.slot.attempts = h.number + 1
  /-- An attempt begins only with the slot empty and no other attempt under way. -/
  begins : ∀ d, c.step? = some d → d.slot.attempts ≠ c.slot.attempts →
    c.slot.cached = none ∧ c.holder = none ∧ d.slot.attempts = c.slot.attempts + 1
  /-- A failed attempt is answered to its task and leaves the slot empty, and the next task, if there
  is one, tries again. -/
  retries : ∀ h failure, c.holder = some h → h.left = 0 → h.failure = some failure →
    ∃ d, c.step? = some d ∧ d.slot.cached = none ∧ d.answers = c.answers ++ [.error failure] ∧
      (0 < d.waiting → ∃ e, d.step? = some e ∧ e.slot.attempts = d.slot.attempts + 1)

/-- Tasks at a slot that accounts for its clients are orderly. -/
theorem Accounts.orderly (hc : c.Accounts connects) : c.Orderly connects where
  empty h hheld := by
    obtain ⟨s, haccounts, hempty, hslot, hnumber, -⟩ := hc.held h hheld
    rw [hslot, hnumber, ← haccounts.clients_eq, hempty]
    exact ⟨hempty, (List.append_nil _).symm, rfl⟩
  begins d hstep hattempts := by
    cases step?_eq_some_iff.mp hstep with
    | lasts | served => exact absurd rfl hattempts
    | @ends h hheld _ =>
        refine absurd ?_ hattempts
        rw [settle]
        cases h.failure <;> rfl
    | connects hfree _ hempty => exact ⟨hempty, hfree, rfl⟩
  retries h failure hheld hleft hfailure := by
    obtain ⟨s, -, hempty, hslot, -, -⟩ := hc.held h hheld
    have hsettle :
        c.settle h = { c with holder := none, answers := c.answers ++ [.error failure] } := by
      rw [settle, hfailure, conclude]
    have hcached : c.slot.cached = none := by rw [hslot]; exact hempty
    refine ⟨c.settle h, step?_eq_some_iff.mpr (.ends hheld hleft), ?_⟩
    rw [hsettle]
    refine ⟨hcached, rfl, fun hwaiting => ?_⟩
    obtain ⟨n, hn⟩ := Nat.exists_eq_succ_of_ne_zero (Nat.ne_of_gt hwaiting)
    exact ⟨_, step?_eq_some_iff.mpr (.connects rfl hn hcached), rfl⟩

end Contention

/-! ### Answers -/

/-- The slot holds the client that was answered, and nothing if there was none. -/
theorem cached_get (s : ClientSlot) : s.get.2.cached = s.get.1.toOption := by
  cases hcached : s.cached with
  | some client => rw [get_of_cached hcached]; exact hcached
  | none =>
      rw [get_of_empty hcached]
      cases s.nextAttempt.failure with
      | none => rfl
      | some failure => exact hcached

/-- Each of several tasks is answered. -/
theorem length_getEach (n : Nat) (s : ClientSlot) : (s.getEach n).1.length = n := by
  induction n generalizing s with
  | zero => rfl
  | succ n ih => exact congrArg (· + 1) (ih s.get.2)

/-- Tasks that find a client leave the slot as it is. -/
theorem getEach_of_cached {client : Nat} (h : s.cached = some client) (n : Nat) :
    (s.getEach n).2 = s := by
  induction n with
  | zero => rfl
  | succ n ih =>
      rw [getEach, get_of_cached h]
      exact ih

/-- A client that one of several tasks is answered stays in the slot. -/
theorem cached_getEach_of_mem {client n : Nat} (h : .ok client ∈ (s.getEach n).1) :
    (s.getEach n).2.cached = some client := by
  induction n generalizing s with
  | zero => cases h
  | succ n ih =>
      have h : .ok client ∈ s.get.1 :: (s.get.2.getEach n).1 := h
      rcases List.mem_cons.mp h with hhead | hrest
      · have hcached : s.get.2.cached = some client := by rw [cached_get, ← hhead]; rfl
        exact (congrArg cached (getEach_of_cached hcached n)).trans hcached
      · exact ih hrest

/-- The slot holds what the last of several tasks was answered. -/
theorem cached_getEach_of_getLast? {answer : Answer} {n : Nat}
    (h : (s.getEach n).1.getLast? = some answer) : (s.getEach n).2.cached = answer.toOption := by
  induction n generalizing s with
  | zero => cases h
  | succ n ih =>
      cases n with
      | zero =>
          obtain rfl := Option.some.inj h
          exact cached_get s
      | succ n => exact ih ((List.getLast?_cons_cons ..).symm.trans h)

/-- A get that finds the slot empty makes one attempt. -/
theorem attempts_get_of_empty (h : s.cached = none) : s.get.2.attempts = s.attempts + 1 := by
  rw [get_of_empty h]
  cases s.nextAttempt.failure <;> rfl

/-! ### What a use comes to -/

/-- The slot holds the client that a task is answered. -/
theorem cached_of_mem_answers {u : Use} {client : Nat} (h : .ok client ∈ (s.use u).reply.answers) :
    (s.use u).after.cached = some client := by
  cases u with
  | get =>
      obtain h : .ok client = s.get.1 := List.mem_singleton.mp h
      exact (cached_get s).trans (congrArg Except.toOption h.symm)
  | getMany n =>
      rw [use, getMany_eq_getEach] at h ⊢
      exact cached_getEach_of_mem h
  | release | invalidate => cases h

/-- The slot holds what the last task is answered. -/
theorem cached_of_getLast?_answers {u : Use} {answer : Answer}
    (h : (s.use u).reply.answers.getLast? = some answer) :
    (s.use u).after.cached = answer.toOption := by
  cases u with
  | get =>
      obtain rfl := Option.some.inj h
      exact cached_get s
  | getMany n =>
      rw [use, getMany_eq_getEach] at h ⊢
      exact cached_getEach_of_getLast? h
  | release | invalidate => cases h

/-- With a client in the slot no attempt is made. -/
theorem attempts_use_of_cached {client : Nat} (h : s.cached = some client) (u : Use) :
    (s.use u).after.attempts = s.attempts := by
  cases u with
  | get => exact congrArg (·.2.attempts) (get_of_cached h)
  | getMany n =>
      rw [use, getMany_eq_getEach]
      exact congrArg attempts (getEach_of_cached h n)
  | release | invalidate => exact (release_after s).2.2.1

/-- A client that is given up leaves the slot, whether closing it fails or not, and is closed once; an
empty slot is left alone. -/
theorem use_givesUp {u : Use} (h : u = .release ∨ u = .invalidate) :
    (s.use u).after.cached = none ∧ (s.use u).after.closed = s.closed ++ s.cached.toList ∧
      (s.use u).after.attempts = s.attempts ∧
      (s.cached = none →
        (s.use u).after = s ∧ (u = .release → (s.use u).reply = .released (.ok ()))) := by
  have hafter : (s.use u).after = s.release.2 := by rcases h with rfl | rfl <;> rfl
  obtain ⟨hcached, hclosed, hattempts, -⟩ := release_after s
  rw [hafter]
  refine ⟨hcached, hclosed, hattempts, fun hempty => ⟨?_, ?_⟩⟩
  · rw [release_of_empty hempty]
  · rintro rfl
    rw [use, release_of_empty hempty]

/-- The steps of the tasks that want the client lead to what the use comes to, and each of the tasks is
answered. -/
theorem exists_course {u : Use} {n : Nat} (h : u = .getMany n ∨ u = .get ∧ n = 1) :
    (s.use u).reply.answers.length = n ∧
      ∃ c : Contention, Contention.Leads ⟨s, none, n, []⟩ c ∧ c.holder = none ∧ c.waiting = 0 ∧
        (s.use u).reply.answers = c.answers ∧ (s.use u).after = c.slot := by
  have hmany : s.getMany n = s.getEach n := getMany_eq_getEach n s
  obtain ⟨hfree, hwaiting⟩ := Contention.finish_through ⟨s, none, n, []⟩
  have hcourse : Contention.Leads ⟨s, none, n, []⟩ _ := Contention.leads_finish _
  rcases h with rfl | ⟨rfl, rfl⟩
  · refine ⟨?_, _, hcourse, hfree, hwaiting, rfl, rfl⟩
    exact (congrArg (·.1.length) hmany).trans (length_getEach n s)
  · exact ⟨rfl, _, hcourse, hfree, hwaiting, (congrArg Prod.fst hmany).symm,
      (congrArg Prod.snd hmany).symm⟩

/-- **Clients are conserved.** Whatever is done with a slot, and however its attempts and its closes
end, after each use the clients created so far are those closed, in order, and the one in the slot,
each once, and every other attempt has failed. Attempts are made only while the slot is empty, also
where tasks queue at it. A client that is answered stays in the slot, a failed attempt leaves the slot
empty so that the next get tries again, and a client that is given up is closed once and leaves the
slot. -/
theorem clients_conserved (connects : List Attempt) (closes : List (Option String)) (us : List Use)
    {u : Used} (hu : u ∈ (ofScripts connects closes).uses us) :
    (u.after.closed ++ u.after.cached.toList = created connects u.after.attempts ∧
      (u.after.closed ++ u.after.cached.toList).Nodup ∧
      u.after.attempts =
        (created connects u.after.attempts).length + (failed connects u.after.attempts).length) ∧
    (∀ client, u.before.cached = some client → u.after.attempts = u.before.attempts) ∧
    (∀ n c, Contention.Leads ⟨u.before, none, n, []⟩ c → c.Orderly connects) ∧
    (∀ n, u.use = .getMany n ∨ u.use = .get ∧ n = 1 → u.reply.answers.length = n ∧
      ∃ c : Contention, Contention.Leads ⟨u.before, none, n, []⟩ c ∧ c.holder = none ∧
        c.waiting = 0 ∧ u.reply.answers = c.answers ∧ u.after = c.slot) ∧
    (∀ client, .ok client ∈ u.reply.answers → u.after.cached = some client) ∧
    (∀ failure, u.reply.answers.getLast? = some (.error failure) →
      u.after.cached = none ∧ u.after.get.2.attempts = u.after.attempts + 1) ∧
    (u.use = .release ∨ u.use = .invalidate →
      u.after.cached = none ∧ u.after.closed = u.before.closed ++ u.before.cached.toList ∧
        u.after.attempts = u.before.attempts ∧
        (u.before.cached = none →
          u.after = u.before ∧ (u.use = .release → u.reply = .released (.ok ())))) := by
  obtain ⟨s, v, hs, rfl⟩ := (accounts_ofScripts closes).of_mem_uses hu
  have hafter := hs.use v
  have hstart (n : Nat) : Contention.Accounts connects ⟨s, none, n, []⟩ := ⟨fun _ => hs, nofun⟩
  rw [use_use, before_use]
  refine ⟨⟨hafter.clients_eq, ?_, (length_created_add_length_failed _).symm⟩,
    fun _ hcached => attempts_use_of_cached hcached v,
    fun n c hc => ((hstart n).leads hc).orderly, fun _ h => exists_course h,
    fun _ h => cached_of_mem_answers h, fun failure h => ?_, fun h => use_givesUp h⟩
  · rw [hafter.clients_eq]
    exact nodup_created _
  · have hempty : (s.use v).after.cached = none := cached_of_getLast?_answers h
    exact ⟨hempty, attempts_get_of_empty hempty⟩

/-- Of three tasks at once the first fails to connect, the second connects and the third is given its
client. Closing that client fails, and still it is closed once, in no slot and accounted for. -/
theorem clients_conserved_failing :
    ∃ u ∈ (ofScripts [⟨2, some "refused"⟩] [some "broken pipe"]).uses [.getMany 3, .release],
      u.before.cached = some 1 ∧ u.reply = .released (.error "broken pipe") ∧
        u.after.cached = none ∧ u.after.closed = [1] ∧
        created [⟨2, some "refused"⟩] u.after.attempts = [1] := by
  have hthree : ((ofScripts [⟨2, some "refused"⟩] [some "broken pipe"]).use (.getMany 3)).after =
      ⟨some 1, 2, [], [], [some "broken pipe"]⟩ := by
    rw [use, getMany_eq_getEach]
    rfl
  have hmem : (use ⟨some 1, 2, [], [], [some "broken pipe"]⟩ .release) ∈
      (ofScripts [⟨2, some "refused"⟩] [some "broken pipe"]).uses [.getMany 3, .release] := by
    rw [uses, uses, hthree]
    exact List.mem_cons_of_mem _ List.mem_cons_self
  obtain ⟨⟨hclients, -, -⟩, -, -, -, -, -, hgiven⟩ := clients_conserved _ _ _ hmem
  obtain ⟨hcached, hclosed, -, -⟩ := hgiven (.inl rfl)
  refine ⟨_, hmem, rfl, rfl, hcached, hclosed, ?_⟩
  rw [← hclients, hcached, hclosed]
  rfl

end Vigil.ClientSlot
