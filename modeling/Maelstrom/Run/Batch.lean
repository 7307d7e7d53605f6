import Maelstrom.Run.Steps
import Maelstrom.Run.Visitor
import Mathlib.Data.List.Perm.Subperm
import Mathlib.Data.List.Range
import Mathlib.Data.List.Nodup

/-!
# Batch mode: counting the jobs in flight

Without `--one` or `--tty`, `main_with_logger` submits every job specification it reads and
then waits in `wait_for_outstanding` until the `JobTracker`'s counter is back to zero. Each
iteration of the submission loop calls `add_outstanding` and then `client.add_job`, which hands
the job's `visitor` to the client; the client runs it on a thread of its own, at most once and
only after `add_job` has begun.

The loop and the callbacks are modelled as one system: a `BatchState` and a `step` for each
`BatchEvent`, an event of the loop or the run of one callback. A callback runs `visitor`, whose
`job_completed` is atomic under the tracker's mutex; the printing before it touches nothing
another thread reads. Two ghost fields record what the code does not keep: how many
`add_outstanding` calls have run, and the jobs counted by `job_completed`, in order.

* `Inv` holds of every reachable state (`reachable_inv`): the counter is the number of
  `add_outstanding` calls minus the number of `job_completed` calls, and never below zero.
* `batch_job_accounting`: once `wait_for_outstanding` returns, every job was counted exactly once
  and the accumulated exit codes are one per job.
* `never_returns_of_uncounted`: a callback that panicked before `job_completed` keeps
  `wait_for_outstanding` from ever returning.
* `returns_after_callbacks`: and where no callback panicked, once the client has run the
  remaining callbacks with standard error working, in any order, `wait_for_outstanding` returns.
-/

namespace Maelstrom.Run

/-- Where the batch branch of `main_with_logger` is. -/
inductive BatchPhase
  /-- At the head of iteration `i` of the submission loop. -/
  | loop (i : Nat)
  /-- Past `add_outstanding` for job `i`, before `job_spec?` and `client.add_job`. -/
  | submit (i : Nat)
  /-- Inside `client.add_job` for job `i`: its callback may run from now on. -/
  | inAddJob (i : Nat)
  /-- In `wait_for_outstanding`. -/
  | waiting
  /-- `wait_for_outstanding` returned, and `main_with_logger` returns the accumulated code. -/
  | returned
  /-- `main_with_logger` returned the error of `job_spec?` or of `add_job`. -/
  | failed
  deriving DecidableEq

/-- The batch branch and the callbacks it handed out. -/
structure BatchState where
  phase : BatchPhase
  tracker : JobTracker
  /-- The jobs whose `add_job` call has begun are `0, …, begun - 1`. -/
  begun : Nat
  /-- The jobs whose callback has run, in order. -/
  invoked : List Nat
  /-- The number of `add_outstanding` calls. -/
  added : Nat
  /-- The jobs counted by `job_completed`, in order. -/
  completed : List Nat

/-- A step of the loop, or the callback of job `j` run by the client with the terminal `t`. -/
inductive BatchEvent
  | next
  | addJob
  | addJobReturned (ok : Bool)
  | wake
  | callback (j : Nat) (t : Terminal)

namespace BatchState

/-- The state before the first job specification is read. -/
def init : BatchState := ⟨.loop 0, .default, 0, [], 0, []⟩

variable (specs : List (Except String Unit))
  (results : Nat → Except String (ClientJobId × JobOutcomeResult))

/-- One step of the system reading the job specifications `specs` (each a parse result: the
loop reads nothing else of them), where the client gives job `j`'s callback `results j`.
`none` where the event cannot happen. -/
def step (s : BatchState) : BatchEvent → Option BatchState
  | .next => match s.phase with
    | .loop i =>
      if i < specs.length then
        some { s with phase := .submit i, tracker := s.tracker.addOutstanding, added := s.added + 1 }
      else some { s with phase := .waiting }
    | _ => none
  | .addJob => match s.phase with
    | .submit i => match specs[i]? with
      | some (.ok _) => some { s with phase := .inAddJob i, begun := s.begun + 1 }
      | _ => some { s with phase := .failed }
    | _ => none
  | .addJobReturned ok => match s.phase with
    | .inAddJob i => some { s with phase := if ok then .loop (i + 1) else .failed }
    | _ => none
  | .wake => match s.phase with
    | .waiting =>
      if 0 < s.tracker.outstanding then some s else some { s with phase := .returned }
    | _ => none
  | .callback j t =>
    if j < s.begun ∧ j ∉ s.invoked then
      match visitor (results j) s.tracker t with
      | .ok tracker _ =>
        some { s with tracker, invoked := s.invoked ++ [j], completed := s.completed ++ [j] }
      | .error _ _ => some { s with invoked := s.invoked ++ [j] }
    else none

/-- The states the system can reach. -/
def Reachable (s : BatchState) : Prop := Steps (step specs results) init s

end BatchState

/-! ## The invariant -/

namespace BatchState

variable (specs : List (Except String Unit))
  (results : Nat → Except String (ClientJobId × JobOutcomeResult))

/-- How far the loop has got, by phase: the `add_outstanding` calls and the `add_job` calls
begun. -/
def PhaseInv (s : BatchState) : Prop :=
  match s.phase with
  | .loop i => s.added = i ∧ s.begun = i ∧ i ≤ specs.length
  | .submit i => s.added = i + 1 ∧ s.begun = i ∧ i < specs.length
  | .inAddJob i => s.added = i + 1 ∧ s.begun = i + 1 ∧ i < specs.length
  | .waiting => s.added = specs.length ∧ s.begun = specs.length
  | .returned => s.added = specs.length ∧ s.begun = specs.length ∧ s.tracker.outstanding ≤ 0
  | .failed => s.begun ≤ s.added

/-- What holds of every reachable state. -/
structure Inv (s : BatchState) : Prop where
  outstanding : s.tracker.outstanding = s.added - s.completed.length
  accum : s.tracker.accum = s.completed.map fun j => exitCodeOf (results j)
  completed_sublist : s.completed.Sublist s.invoked
  invoked_nodup : s.invoked.Nodup
  invoked_lt : ∀ j ∈ s.invoked, j < s.begun
  phase : PhaseInv specs s

variable {specs results}

theorem PhaseInv.begun_le_added {s : BatchState} (h : PhaseInv specs s) : s.begun ≤ s.added := by
  unfold PhaseInv at h
  split at h <;> omega

/-- The callbacks run are those of distinct jobs whose `add_job` has begun. -/
theorem Inv.invoked_subperm {s : BatchState} (h : Inv specs results s) :
    List.Subperm s.invoked (List.range s.begun) :=
  h.invoked_nodup.subperm fun j hj => List.mem_range.2 (h.invoked_lt j hj)

theorem Inv.length_completed_le {s : BatchState} (h : Inv specs results s) :
    s.completed.length ≤ s.begun := by
  simpa using (h.completed_sublist.subperm.trans h.invoked_subperm).length_le

theorem Inv.outstanding_nonneg {s : BatchState} (h : Inv specs results s) :
    0 ≤ s.tracker.outstanding := by
  have := h.length_completed_le
  have := h.phase.begun_le_added
  rw [h.outstanding]
  omega

/-! ## What a step does -/

section Inversion

variable {s s' : BatchState}

theorem step_next (h : step specs results s .next = some s') : ∃ i, s.phase = .loop i ∧
    (i < specs.length ∧ s' = { s with
        phase := .submit i, tracker := s.tracker.addOutstanding, added := s.added + 1 } ∨
      specs.length ≤ i ∧ s' = { s with phase := .waiting }) := by
  simp only [step] at h
  split at h
  · next i hp =>
    split at h <;> cases h
    · exact ⟨i, hp, .inl ⟨‹_›, rfl⟩⟩
    · exact ⟨i, hp, .inr ⟨by omega, rfl⟩⟩
  · cases h

theorem step_addJob (h : step specs results s .addJob = some s') : ∃ i, s.phase = .submit i ∧
    ((∃ u, specs[i]? = some (.ok u)) ∧ s' = { s with phase := .inAddJob i, begun := s.begun + 1 } ∨
      s' = { s with phase := .failed }) := by
  simp only [step] at h
  split at h
  · next i hp =>
    split at h <;> cases h
    · exact ⟨i, hp, .inl ⟨⟨_, ‹_›⟩, rfl⟩⟩
    · exact ⟨i, hp, .inr rfl⟩
  · cases h

theorem step_addJobReturned {ok : Bool} (h : step specs results s (.addJobReturned ok) = some s') :
    ∃ i, s.phase = .inAddJob i ∧ s' = { s with phase := if ok then .loop (i + 1) else .failed } := by
  simp only [step] at h
  split at h
  · next i hp => cases h; exact ⟨i, hp, rfl⟩
  · cases h

theorem step_wake (h : step specs results s .wake = some s') : s.phase = .waiting ∧
    (0 < s.tracker.outstanding ∧ s' = s ∨
      s.tracker.outstanding ≤ 0 ∧ s' = { s with phase := .returned }) := by
  simp only [step] at h
  split at h
  · next hp =>
    split at h <;> cases h
    · exact ⟨hp, .inl ⟨‹_›, rfl⟩⟩
    · exact ⟨hp, .inr ⟨by omega, rfl⟩⟩
  · cases h

theorem step_callback {j : Nat} {t : Terminal} (h : step specs results s (.callback j t) = some s') :
    j < s.begun ∧ j ∉ s.invoked ∧
      ((∃ tracker t', visitor (results j) s.tracker t = .ok tracker t' ∧
          s' = { s with tracker, invoked := s.invoked ++ [j], completed := s.completed ++ [j] }) ∨
        s' = { s with invoked := s.invoked ++ [j] }) := by
  simp only [step] at h
  split at h
  · next hj =>
    split at h <;> cases h
    · exact ⟨hj.1, hj.2, .inl ⟨_, _, ‹_›, rfl⟩⟩
    · exact ⟨hj.1, hj.2, .inr rfl⟩
  · cases h

end Inversion

/-- The phase invariant survives a step that only lowers the counter. -/
theorem PhaseInv.of_outstanding_le {s s' : BatchState} (h : PhaseInv specs s)
    (hph : s'.phase = s.phase) (ha : s'.added = s.added) (hb : s'.begun = s.begun)
    (ho : s'.tracker.outstanding ≤ s.tracker.outstanding) : PhaseInv specs s' := by
  unfold PhaseInv at h ⊢
  rw [hph, ha, hb]
  cases hp : s.phase <;> simp only [hp] at h ⊢
  case returned => exact ⟨h.1, h.2.1, ho.trans h.2.2⟩
  all_goals exact h

theorem inv_init : Inv specs results init :=
  ⟨rfl, rfl, .slnil, .nil, by simp [init], by simp [PhaseInv, init]⟩

theorem inv_step {s s' : BatchState} (h : Inv specs results s) {e : BatchEvent}
    (hs : step specs results s e = some s') : Inv specs results s' := by
  obtain ⟨hout, hacc, hsub, hnd, hlt, hph⟩ := h
  cases e with
  | next =>
    obtain ⟨i, hp, ⟨hi, rfl⟩ | ⟨hi, rfl⟩⟩ := step_next hs <;> simp only [PhaseInv, hp] at hph
    · exact ⟨by simp only [JobTracker.addOutstanding, hout]; omega, hacc, hsub, hnd, hlt,
        by simp only [PhaseInv]; omega⟩
    · exact ⟨hout, hacc, hsub, hnd, hlt, by simp only [PhaseInv]; omega⟩
  | addJob =>
    obtain ⟨i, hp, ⟨-, rfl⟩ | rfl⟩ := step_addJob hs <;> simp only [PhaseInv, hp] at hph
    · exact ⟨hout, hacc, hsub, hnd, fun j hj => Nat.lt_succ_of_lt (hlt j hj),
        by simp only [PhaseInv]; omega⟩
    · exact ⟨hout, hacc, hsub, hnd, hlt, by simp only [PhaseInv]; omega⟩
  | addJobReturned ok =>
    obtain ⟨i, hp, rfl⟩ := step_addJobReturned hs
    simp only [PhaseInv, hp] at hph
    exact ⟨hout, hacc, hsub, hnd, hlt,
      by cases ok <;> simp only [PhaseInv, Bool.false_eq_true, ↓reduceIte] <;> omega⟩
  | wake =>
    obtain ⟨hp, ⟨-, rfl⟩ | ⟨hle, rfl⟩⟩ := step_wake hs
    · exact ⟨hout, hacc, hsub, hnd, hlt, hph⟩
    · simp only [PhaseInv, hp] at hph
      exact ⟨hout, hacc, hsub, hnd, hlt, ⟨hph.1, hph.2, hle⟩⟩
  | callback j t =>
    obtain ⟨hjb, hji, hcases⟩ := step_callback hs
    have hnd' := hnd.append (List.nodup_singleton j) (List.disjoint_singleton.2 hji)
    have hlt' : ∀ k ∈ s.invoked ++ [j], k < s.begun := fun k hk =>
      (List.mem_append.1 hk).elim (hlt k) fun h => List.eq_of_mem_singleton h ▸ hjb
    obtain ⟨tracker, t', hv, rfl⟩ | rfl := hcases
    · rw [visitor_eq_ok hv]
      exact ⟨by simp only [JobTracker.jobCompleted, hout, List.length_append, List.length_singleton]; omega,
        by simp [JobTracker.jobCompleted, hacc], hsub.append (.refl _), hnd', hlt',
        hph.of_outstanding_le rfl rfl rfl (by simp only [JobTracker.jobCompleted]; omega)⟩
    · exact ⟨hout, hacc, hsub.trans (List.sublist_append_left _ _), hnd', hlt', hph⟩

theorem reachable_inv {s : BatchState} (h : Reachable specs results s) : Inv specs results s :=
  h.preserves (fun _ _ _ hi hs => inv_step hi hs) inv_init

/-! ## Accounting -/

/-- Where `wait_for_outstanding` has returned, the jobs counted are the jobs submitted, each
once. -/
theorem Inv.completed_perm_of_returned {s : BatchState} (h : Inv specs results s)
    (hret : s.phase = .returned) : s.completed.Perm (List.range specs.length) := by
  have hph := h.phase
  simp only [PhaseInv, hret] at hph
  obtain ⟨hadded, hbegun, hle⟩ := hph
  have hsub := h.completed_sublist.subperm.trans h.invoked_subperm
  rw [hbegun] at hsub
  exact hsub.perm_of_length_le (by rw [h.outstanding] at hle; simp; omega)

/-- **Batch-mode job accounting.** In every reachable state the tracker's counter is the
number of `add_outstanding` calls minus the number of `job_completed` calls, and is not
negative. Where `wait_for_outstanding` has returned, `job_completed` has been called once for
each job submitted, and the accumulated exit codes are the jobs' own, one each. -/
theorem batch_job_accounting {s : BatchState} (h : Reachable specs results s) :
    s.tracker.outstanding = s.added - s.completed.length ∧ 0 ≤ s.tracker.outstanding ∧
    (s.phase = .returned → s.completed.Perm (List.range specs.length) ∧
      s.tracker.accum.Perm ((List.range specs.length).map fun j => exitCodeOf (results j))) := by
  have hi := reachable_inv h
  refine ⟨hi.outstanding, hi.outstanding_nonneg, fun hret => ?_⟩
  have hperm := hi.completed_perm_of_returned hret
  exact ⟨hperm, hi.accum ▸ hperm.map _⟩

/-- Two job specifications; the client reports both jobs as exited with code 0. -/
def twoSpecs : List (Except String Unit) := [.ok (), .ok ()]

/-- The result the client hands job `j`'s callback: exited with code 0, without output. -/
def exitZero (j : Nat) : Except String (ClientJobId × JobOutcomeResult) :=
  .ok (⟨j.toUInt32⟩, .ok (.completed ⟨.exited 0, ⟨.none, .none⟩⟩))

/-- Both jobs counted, the first while the loop still submits, the second while it waits. -/
def twoJobsDone : BatchState := ⟨.returned, ⟨0, [⟨0⟩, ⟨0⟩]⟩, 2, [0, 1], 2, [0, 1]⟩

theorem batch_job_accounting_twoJobs :
    Reachable twoSpecs exitZero twoJobsDone ∧
    (twoJobsDone.tracker.outstanding = twoJobsDone.added - twoJobsDone.completed.length ∧
      0 ≤ twoJobsDone.tracker.outstanding ∧
      (twoJobsDone.phase = .returned →
        twoJobsDone.completed.Perm (List.range twoSpecs.length) ∧
        twoJobsDone.tracker.accum.Perm
          ((List.range twoSpecs.length).map fun j => exitCodeOf (exitZero j)))) :=
  have h : Reachable twoSpecs exitZero twoJobsDone :=
    steps_of_run (show run (step twoSpecs exitZero) init [.next, .addJob,
      .callback 0 ⟨[], [], false, [], [], []⟩, .addJobReturned true, .next, .addJob,
      .addJobReturned true, .next, .wake, .callback 1 ⟨[], [], false, [], [], []⟩, .wake] =
        some twoJobsDone from rfl)
  ⟨h, batch_job_accounting h⟩

/-- A callback that ran without counting its job never will: the job cannot be called back
again. -/
theorem step_uncounted {s s' : BatchState} {e : BatchEvent}
    (hs : step specs results s e = some s') {j : Nat} (hj : j ∈ s.invoked ∧ j ∉ s.completed) :
    j ∈ s'.invoked ∧ j ∉ s'.completed := by
  cases e with
  | next => obtain ⟨_, -, ⟨-, rfl⟩ | ⟨-, rfl⟩⟩ := step_next hs <;> exact hj
  | addJob => obtain ⟨_, -, ⟨-, rfl⟩ | rfl⟩ := step_addJob hs <;> exact hj
  | addJobReturned => obtain ⟨_, -, rfl⟩ := step_addJobReturned hs; exact hj
  | wake => obtain ⟨-, ⟨-, rfl⟩ | ⟨-, rfl⟩⟩ := step_wake hs <;> exact hj
  | callback k t =>
    obtain ⟨-, hk, ⟨_, _, -, rfl⟩ | rfl⟩ := step_callback hs <;>
      have hne : j ≠ k := fun h => hk (h ▸ hj.1) <;> simp [hj, hne]

/-- **A job left uncounted blocks `wait_for_outstanding` for ever.** From a reachable state in
which a callback has run without reaching `job_completed`, no later state has returned from
`wait_for_outstanding`. -/
theorem never_returns_of_uncounted {s s' : BatchState} (hr : Reachable specs results s)
    (hss : Steps (step specs results) s s') {j : Nat} (hinv : j ∈ s.invoked) (hc : j ∉ s.completed) :
    s'.phase ≠ .returned := by
  have hj : j ∈ s'.invoked ∧ j ∉ s'.completed := by
    induction hss with
    | refl => exact ⟨hinv, hc⟩
    | tail _ _ hstep ih => exact step_uncounted hstep ih
  intro hret
  have hi := reachable_inv (hr.trans hss)
  have hph := hi.phase
  simp only [PhaseInv, hret] at hph
  have h₁ : s'.completed.length = specs.length := by
    simpa using (hi.completed_perm_of_returned hret).length_eq
  have h₂ : s'.invoked.length ≤ specs.length := by
    simpa [hph.2.1] using hi.invoked_subperm.length_le
  have h₃ := hi.completed_sublist.length_le
  rw [hi.completed_sublist.eq_of_length (by omega)] at hj
  exact hj.2 hj.1

/-- One job, whose execution failed. -/
def failedJob (_ : Nat) : Except String (ClientJobId × JobOutcomeResult) :=
  .ok (⟨0⟩, .error (.execution "exec failed"))

/-- The callback of the failed job ran while `add_job` was in progress, on a terminal whose
first write to standard error fails. -/
def panickedCallback : BatchState := ⟨.inAddJob 0, ⟨1, []⟩, 1, [0], 1, []⟩

/-- The loop has moved on to `wait_for_outstanding`, which keeps waiting. -/
def waitingForPanicked : BatchState := ⟨.waiting, ⟨1, []⟩, 1, [0], 1, []⟩

theorem never_returns_of_uncounted_failedJob :
    Reachable [.ok ()] failedJob panickedCallback ∧
    Steps (step [.ok ()] failedJob) panickedCallback waitingForPanicked ∧
    0 ∈ panickedCallback.invoked ∧ 0 ∉ panickedCallback.completed ∧
    waitingForPanicked.phase ≠ .returned :=
  have hr : Reachable [.ok ()] failedJob panickedCallback :=
    steps_of_run (show run (step [.ok ()] failedJob) init
      [.next, .addJob, .callback 0 ⟨[], [], false, [], [true], []⟩] = some panickedCallback from rfl)
  have hss : Steps (step [.ok ()] failedJob) panickedCallback waitingForPanicked :=
    steps_of_run (show run (step [.ok ()] failedJob) panickedCallback
      [.addJobReturned true, .next, .wake] = some waitingForPanicked from rfl)
  ⟨hr, hss, by decide, by decide, never_returns_of_uncounted hr hss (j := 0) (by decide) (by decide)⟩

/-! ## Returning -/

/-- A callback run with standard error working counts its job. -/
theorem step_callback_of_stderrWorks {s : BatchState} {j : Nat} {t : Terminal}
    (ht : t.StderrWorks) (hj : j < s.begun) (hji : j ∉ s.invoked) :
    ∃ tracker, step specs results s (.callback j t) =
      some { s with tracker, invoked := s.invoked ++ [j], completed := s.completed ++ [j] } := by
  obtain ⟨code, t', hr, -, -⟩ := completes_report (results j) t ht
  have hv : visitor (results j) s.tracker t = .ok (s.tracker.jobCompleted code) t' := by
    simp only [visitor, Bind.bind, EStateM.bind, hr]; rfl
  exact ⟨s.tracker.jobCompleted code,
    by simp only [step, hj, hji, not_false_eq_true, and_self, ↓reduceIte, hv]⟩

/-- Running the callbacks of the jobs `js`, whose callbacks have not run, each with standard
error working, counts each of them and changes nothing else the loop reads. -/
theorem run_callbacks (ts : Nat → Terminal) {js : List Nat} (hnd : js.Nodup) :
    ∀ {s : BatchState}, (∀ j ∈ js, j < s.begun ∧ j ∉ s.invoked ∧ (ts j).StderrWorks) →
    ∃ s', run (step specs results) s (js.map fun j => .callback j (ts j)) = some s' ∧
      s'.phase = s.phase ∧ s'.added = s.added ∧ s'.begun = s.begun ∧
      s'.invoked = s.invoked ++ js ∧ s'.completed = s.completed ++ js := by
  induction js with
  | nil => exact fun {s} _ => ⟨s, rfl, rfl, rfl, rfl, by simp, by simp⟩
  | cons j js ih =>
    intro s hjs
    obtain ⟨hj, hji, ht⟩ := hjs j (List.mem_cons_self _ _)
    obtain ⟨hjs', hnd'⟩ := List.nodup_cons.1 hnd
    obtain ⟨tracker, h₁⟩ := @step_callback_of_stderrWorks specs results s j (ts j) ht hj hji
    obtain ⟨s', h₂, hph, ha, hb, hi, hc⟩ := ih hnd'
        (s := { s with tracker, invoked := s.invoked ++ [j], completed := s.completed ++ [j] })
        fun k hk => by
      obtain ⟨hk₁, hk₂, hk₃⟩ := hjs k (List.mem_cons_of_mem _ hk)
      have hne : k ≠ j := fun h => hjs' (h ▸ hk)
      exact ⟨hk₁, by simp [hk₂, hne], hk₃⟩
    exact ⟨s', by simp only [List.map_cons, run, h₁, Option.some_bind, h₂], hph, ha, hb,
      by simp [hi], by simp [hc]⟩

/-- **Once every callback has run, `wait_for_outstanding` returns.** From a reachable state in
`wait_for_outstanding` in which every callback run so far has counted its job, let the client
run the callbacks of the remaining jobs `js`, in any order, each on a terminal whose standard
error works, whatever fails on standard output: the next wake-up returns. -/
theorem returns_after_callbacks {s : BatchState} (hr : Reachable specs results s)
    (hw : s.phase = .waiting) (hc : ∀ j ∈ s.invoked, j ∈ s.completed) {js : List Nat}
    (hjs : (s.invoked ++ js).Perm (List.range s.begun)) (ts : Nat → Terminal)
    (hts : ∀ j ∈ js, (ts j).StderrWorks) :
    ∃ s', run (step specs results) s (js.map (fun j => .callback j (ts j)) ++ [.wake]) =
      some s' ∧ s'.phase = .returned := by
  have hi := reachable_inv hr
  have hnd := hjs.nodup_iff.2 (List.nodup_range _)
  obtain ⟨s₁, h₁, hph, ha, hb, hinv, hcomp⟩ :=
    @run_callbacks specs results ts _ (List.nodup_append.1 hnd).2.1 s fun j hj =>
      ⟨List.mem_range.1 (hjs.subset (List.mem_append_right _ hj)),
        fun h => List.disjoint_of_nodup_append hnd h hj, hts j hj⟩
  have hi₁ := reachable_inv (hr.trans (steps_of_run h₁))
  have hph₀ := hi.phase
  simp only [PhaseInv, hw] at hph₀
  have hlen : s.invoked.length ≤ s.completed.length :=
    (hi.invoked_nodup.subperm hc).length_le
  have hsum : s.invoked.length + js.length = s.begun := by simpa using hjs.length_eq
  have hout : s₁.tracker.outstanding ≤ 0 := by
    rw [hi₁.outstanding, ha, hcomp, List.length_append]
    have := hi.completed_sublist.length_le
    omega
  refine ⟨{ s₁ with phase := .returned }, ?_, rfl⟩
  simp only [run_append, h₁, Option.some_bind, run, step, hph, hw,
    if_neg (show ¬0 < s₁.tracker.outstanding by omega)]

/-- Both jobs submitted, no callback run yet, and the loop in `wait_for_outstanding`. -/
def waitingForTwo : BatchState := ⟨.waiting, ⟨2, []⟩, 2, [], 2, []⟩

/-- A terminal on which nothing fails. -/
def quietTerminal : Terminal := ⟨[], [], false, [], [], []⟩

theorem returns_after_callbacks_twoJobs :
    Reachable twoSpecs exitZero waitingForTwo ∧ waitingForTwo.phase = .waiting ∧
    (∀ j ∈ waitingForTwo.invoked, j ∈ waitingForTwo.completed) ∧
    (waitingForTwo.invoked ++ [1, 0]).Perm (List.range waitingForTwo.begun) ∧
    (∀ j ∈ [1, 0], quietTerminal.StderrWorks) ∧
    ∃ s', run (step twoSpecs exitZero) waitingForTwo
      ([1, 0].map (fun j => .callback j quietTerminal) ++ [.wake]) = some s' ∧
      s'.phase = .returned :=
  have hr : Reachable twoSpecs exitZero waitingForTwo :=
    steps_of_run (show run (step twoSpecs exitZero) init [.next, .addJob, .addJobReturned true,
      .next, .addJob, .addJobReturned true, .next] = some waitingForTwo from rfl)
  have hq : ∀ j ∈ [1, 0], quietTerminal.StderrWorks := fun _ _ _ h => by cases h
  ⟨hr, rfl, by decide, by decide, hq,
    returns_after_callbacks hr rfl (by decide) (by decide) (fun _ => quietTerminal) hq⟩

end BatchState

end Maelstrom.Run
