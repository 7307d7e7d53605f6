import Maelstrom.Run.TtyRuns
import Maelstrom.Run.Visitor

/-!
# Tty mode: how `tty_main` ends

However the scheduler orders the threads of `tty_main`, the main thread gets out of its loop:
the thread running the job always ends by sending a message that breaks it, and every other
thread stops after finitely many steps. What `tty_main` returns is what one of the threads met.

* `returned_sent`: where `tty_main` returns, it returns an `io::Error` of its own, only where an
  operation on the terminal can fail, the job's exit by `mimic_child_death`, or the error of a
  thread that failed: `client error` where `run_job` failed, `job connecting` where the
  listener's `accept` failed, `reading from job` where a read of the socket failed.
* `main_ends`: every schedule of the threads has at most `2 n + 6` steps, for `n` chunks of
  the job's output, and a schedule that cannot go on has `tty_main` returned or panicked.
-/

namespace Maelstrom.Run

/-! ## What the loop can break with -/

namespace TtyEnv

/-- What the main thread's loop can break with in the environment `env`: the job's result where
`run_job` returned it, and the error of each thread that failed. -/
def Sends (env : TtyEnv) : Except String JobOutcomeResult → Prop
  | .ok result => env.runJob = some result
  | .error err => env.runJob = none ∧ err = "client error" ∨
      env.accepted = false ∧ err = "job connecting" ∨
      env.readFails = true ∧ err = "reading from job"

/-- The messages that break the loop only with what `env` sends. -/
def SendsMessage (env : TtyEnv) : TtyMainMessage → Prop
  | .error err => env.Sends (.error err)
  | .jobCompleted result => env.Sends (.ok result)
  | .jobConnected | .jobOutput _ _ => True

end TtyEnv

/-- What `tty_main` returns once its loop broke with `result`, where nothing fails after. -/
def ttyResult : Except String JobOutcomeResult → Except TtyError ChildDeath
  | .ok result => .ok (childDeathOf result)
  | .error err => .error (.message err)

theorem yields_returnResult (result : Except String JobOutcomeResult) :
    Yields (returnResult result) (· = ttyResult result) := by
  cases result with
  | error err => exact Yields.pure rfl
  | ok result => exact (yields_mimicChildDeath result).map fun _ h => by rw [h]; rfl

theorem yields_afterLoop (result : Except String JobOutcomeResult) (inRawMode : Bool) :
    Yields (afterLoop result inRawMode) (· = ttyResult result) := by
  unfold afterLoop
  cases inRawMode
  · exact yields_returnResult result
  · exact Yields.seq fun _ => Yields.seq fun _ => yields_returnResult result

/-- The loop breaks only on `Error` and `JobCompleted`, with what they carry. -/
theorem TtyEnv.Sends.of_loopBody {env : TtyEnv} {msg : TtyMainMessage} {t t' : Terminal}
    {result : Except String JobOutcomeResult} (h : loopBody msg t = .ok (.break result) t')
    (hmsg : env.SendsMessage msg) : env.Sends result := by
  cases msg with
  | error err => cases h; exact hmsg
  | jobCompleted r => cases h; exact hmsg
  | jobConnected => cases (loopBody_jobConnected h).1
  | jobOutput bytes n => cases (loopBody_jobOutput h).1

theorem loopBody_connected {msg : TtyMainMessage} {t t' : Terminal}
    (h : loopBody msg t = .ok .connected t') : msg = .jobConnected := by
  cases msg with
  | error err => cases h
  | jobCompleted r => cases h
  | jobConnected => rfl
  | jobOutput bytes n => cases (loopBody_jobOutput h).1

/-- The steps the reader thread has left, with `n` chunks unread: reading each chunk and handing
it over, then reading the end and handing over an error. -/
def Reader.work (n : Nat) : Reader → Nat
  | .notSpawned | .reading _ => 2 * n + 2
  | .sendingOutput _ _ => 2 * n + 3
  | .sendingError => 1
  | .done => 0

/-- The steps the main thread has left: leaving the loop, and the code after it. -/
def Main.work : Main → Nat
  | .looping _ => 2
  | .broke _ _ => 1
  | .returned _ | .panicked => 0

namespace TtyState

variable {env : TtyEnv} {s s' : TtyState}

@[simp] theorem handOver_readFails (src : Sender) : (s.handOver src).readFails = s.readFails := by
  cases src <;> rfl

theorem handOver_reader_sendingError {src : Sender} (h : (s.handOver src).reader = .sendingError) :
    s.reader = .sendingError := by
  cases src with
  | runJob | listener => exact h
  | reader => cases hr : s.reader <;> simp_all [handOver, Reader.afterSend]

/-- The thread sending `msg` is the listener, before the reader thread starts, where `msg` is
`JobConnected`. -/
theorem OutputInv.pending_jobConnected (h : OutputInv env s) {src : Sender}
    (hmsg : s.pending src = some .jobConnected) : src = .listener ∧ s.reader = .notSpawned := by
  cases src with
  | runJob =>
    have := h.runJob _ hmsg
    unfold TtyEnv.runJobMessage at this
    split at this <;> cases this
  | listener => exact ⟨rfl, (h.listener _ hmsg).2⟩
  | reader => cases hr : s.reader <;> simp [pending, hr, Reader.message] at hmsg

/-! ## The invariant of the main thread -/

/-- What the main thread's position says: in the loop, the thread running the job has not yet
handed over its message; past it, the loop broke with what a thread sent; and `tty_main`
returned an `io::Error`, where an operation on the terminal can fail, or the result of what a
thread sent. -/
def MainOk (env : TtyEnv) (runJob : Option TtyMainMessage) : Main → Prop
  | .looping _ => runJob ≠ none
  | .broke result _ => env.Sends result
  | .returned r => r = .error .io ∧ ¬ env.term.WorksOn [.stdout, .stderr, .tty] ∨
      ∃ result, env.Sends result ∧ r = ttyResult result
  | .panicked => True

theorem mainOk_exit (runJob : Option TtyMainMessage) (f : Fault)
    (hworks : ¬ env.term.WorksOn [.stdout, .stderr, .tty]) : MainOk env runJob f.exit := by
  cases f
  · exact .inl ⟨rfl, hworks⟩
  · trivial

/-- The invariant of how `tty_main` ends. -/
structure EndInv (env : TtyEnv) (s : TtyState) : Prop where
  readFails : s.readFails = env.readFails
  /-- The reader thread sends its error only where reading the socket fails. -/
  sendingError : s.reader = .sendingError → env.readFails = true
  main : MainOk env s.runJob s.main
  /-- Where the terminal works, it still works in the loop and just past it. -/
  works : env.term.WorksOn [.stdout, .stderr, .tty] →
    ∀ _ ∈ s.main.inRawMode, s.term.WorksOn [.stdout, .stderr, .tty]

theorem endInv_init (env : TtyEnv) : EndInv env (init env) := by
  unfold init
  split
  · next t h =>
    exact ⟨rfl, nofun, Option.some_ne_none _, fun hw _ _ =>
      (Runs.println (by simp) _).works_of_eq hw h⟩
  · exact ⟨rfl, nofun, trivial, by simp [Main.inRawMode]⟩

namespace EndInv

/-- Every message a thread is sending breaks the loop only with what `env` sends. -/
theorem sendsMessage (h : EndInv env s) (ho : OutputInv env s) {src : Sender}
    {msg : TtyMainMessage} (hmsg : s.pending src = some msg) : env.SendsMessage msg := by
  cases src with
  | runJob =>
    obtain rfl := ho.runJob msg hmsg
    unfold TtyEnv.runJobMessage
    split
    · next result hr => exact hr
    · next hr => exact .inl ⟨hr, rfl⟩
  | listener =>
    obtain ⟨rfl, -⟩ := ho.listener msg hmsg
    unfold TtyEnv.listenerMessage
    split
    · trivial
    · next hr => exact .inr (.inl ⟨Bool.eq_false_iff.2 hr, rfl⟩)
  | reader =>
    cases hr : s.reader <;> simp only [pending, hr, Reader.message, reduceCtorEq] at hmsg <;>
      cases hmsg
    · trivial
    · exact .inr (.inr ⟨h.sendingError hr, rfl⟩)

/-- The thread running the job is still sending after a pass of the loop that did not break:
its own message would have broken it. -/
theorem runJob_handOver (h : EndInv env s) (ho : OutputInv env s) {inRawMode : Bool}
    (hmain : s.main = .looping inRawMode) {src : Sender} {msg : TtyMainMessage}
    (hmsg : s.pending src = some msg) {r : LoopStep} {t t' : Terminal}
    (hl : loopBody msg t = .ok r t') (hr : ∀ result, r ≠ .break result) :
    (s.handOver src).runJob ≠ none := by
  have hrun : s.runJob ≠ none := by simpa [MainOk, hmain] using h.main
  cases src with
  | runJob =>
    obtain rfl := ho.runJob msg hmsg
    obtain ⟨result, hb⟩ := loopBody_runJobMessage env t
    rw [hb] at hl
    cases hl
    exact absurd rfl (hr result)
  | listener | reader => exact hrun

theorem recv (h : EndInv env s) (ho : OutputInv env s) {inRawMode : Bool}
    (hmain : s.main = .looping inRawMode) {src : Sender} {msg : TtyMainMessage}
    (hmsg : s.pending src = some msg) : EndInv env ((s.handOver src).receive inRawMode msg) := by
  have hread : (s.handOver src).readFails = env.readFails := by simp [h.readFails]
  have herr : (s.handOver src).reader = .sendingError → env.readFails = true :=
    fun he => h.sendingError (handOver_reader_sendingError he)
  have hworks : env.term.WorksOn [.stdout, .stderr, .tty] →
      (s.handOver src).term.WorksOn [.stdout, .stderr, .tty] := fun hw => by
    simpa using h.works hw inRawMode (by simp [hmain, Main.inRawMode])
  have hrun : Runs [.stdout, .stderr, .tty] (loopBody msg) :=
    runs_loopBody (by simp) (by simp) msg
  cases hl : loopBody msg (s.handOver src).term with
  | ok r t =>
    have ht : env.term.WorksOn [.stdout, .stderr, .tty] → t.WorksOn [.stdout, .stderr, .tty] :=
      fun hw => hrun.works_of_eq (hworks hw) hl
    cases r with
    | «continue» =>
      rw [receive_continue hl]
      refine ⟨hread, herr, ?_, fun hw _ _ => ht hw⟩
      simpa [MainOk, hmain] using h.runJob_handOver ho hmain hmsg hl nofun
    | connected =>
      rw [receive_connected hl]
      exact ⟨hread, nofun, h.runJob_handOver ho hmain hmsg hl nofun, fun hw _ _ => ht hw⟩
    | «break» result =>
      rw [receive_break hl]
      exact ⟨hread, herr, TtyEnv.Sends.of_loopBody hl (h.sendsMessage ho hmsg),
        fun hw _ _ => ht hw⟩
  | error f t =>
    rw [receive_error hl]
    exact ⟨hread, herr, mainOk_exit _ f fun hw => hrun.ne_error (hworks hw) f t hl,
      by simp⟩

theorem step (h : EndInv env s) (ho : OutputInv env s) {e : TtyEvent}
    (hs : s.step e = some s') : EndInv env s' := by
  cases e with
  | recv src =>
    obtain ⟨inRawMode, msg, hmain, hmsg, rfl⟩ := step_recv hs
    exact h.recv ho hmain hmsg
  | read =>
    obtain ⟨bytes, -, rfl⟩ := step_read hs
    unfold TtyState.read
    split
    · exact ⟨h.readFails, nofun, h.main, h.works⟩
    · refine ⟨h.readFails, fun he => ?_, h.main, h.works⟩
      rw [← h.readFails]
      split at he <;> simp_all
  | finish =>
    obtain ⟨result, inRawMode, hmain, rfl⟩ := step_finish hs
    have hsent : env.Sends result := by simpa [MainOk, hmain] using h.main
    cases hf : afterLoop result inRawMode s.term with
    | ok r t =>
      rw [finish_ok hf]
      exact ⟨h.readFails, h.sendingError,
        .inr ⟨result, hsent, yields_afterLoop result inRawMode _ _ _ hf⟩, by simp [Main.inRawMode]⟩
    | error f t =>
      rw [finish_error hf]
      refine ⟨h.readFails, h.sendingError, mainOk_exit _ f fun hw => ?_, by simp⟩
      exact (runs_afterLoop (by simp) (by simp) (by simp) result inRawMode).ne_error
        (h.works hw inRawMode (by simp [hmain, Main.inRawMode])) f t hf

end EndInv

theorem Reachable.endInv (h : Reachable env s) : EndInv env s :=
  (h.preserves (p := fun s => OutputInv env s ∧ EndInv env s)
    (fun _ _ _ hi hs => ⟨hi.1.step hs, hi.2.step hi.1 hs⟩) ⟨outputInv_init, endInv_init env⟩).2

/-- A bound on the steps the threads have left. -/
def work (s : TtyState) : Nat :=
  s.runJob.isSome.toNat + s.listener.isSome.toNat + s.reader.work s.socket.length + s.main.work

/-- Handing over a message takes a step off the sender. -/
theorem work_handOver {src : Sender} {msg : TtyMainMessage} (hmsg : s.pending src = some msg) :
    (s.handOver src).work < s.work := by
  cases src with
  | runJob | listener => simp_all [pending, handOver, work]
  | reader =>
    cases hr : s.reader <;> simp only [pending, hr, Reader.message, reduceCtorEq] at hmsg <;>
      simp [handOver, work, hr, Reader.afterSend, Reader.work]

/-- Every step lowers `work`: the thread that takes it has a step less to take. -/
theorem work_step (ho : OutputInv env s) {e : TtyEvent} (hs : s.step e = some s') :
    s'.work < s.work := by
  cases e with
  | recv src =>
    obtain ⟨inRawMode, msg, hmain, hmsg, rfl⟩ := step_recv hs
    have hlt := work_handOver hmsg
    cases hl : loopBody msg (s.handOver src).term with
    | ok r t =>
      cases r with
      | «continue» => rw [receive_continue hl]; exact hlt
      | connected =>
        obtain ⟨rfl, hr⟩ := ho.pending_jobConnected (loopBody_connected hl ▸ hmsg)
        rw [receive_connected hl]
        simpa [work, handOver, hr, hmain, Reader.work, Main.work] using hlt
      | «break» result =>
        rw [receive_break hl]
        simp only [work, handOver_main, hmain, Main.work] at hlt ⊢
        omega
    | error f t =>
      rw [receive_error hl]
      cases f <;> simp only [work, handOver_main, hmain, Fault.exit, Main.work] at hlt ⊢ <;> omega
  | read =>
    obtain ⟨bytes, hr, rfl⟩ := step_read hs
    unfold TtyState.read
    split
    · next c cs hsock => simp [work, hr, hsock, Reader.work]; omega
    · next hsock => split <;> simp [work, hr, hsock, Reader.work]
  | finish =>
    obtain ⟨result, inRawMode, hmain, rfl⟩ := step_finish hs
    cases hf : afterLoop result inRawMode s.term with
    | ok r t => rw [finish_ok hf]; simp [work, hmain, Main.work]
    | error f t => rw [finish_error hf]; cases f <;> simp [work, hmain, Main.work, Fault.exit]

/-- A schedule from a reachable state has at most `work` steps, less what `work` is left. -/
theorem length_add_work_le (h : Reachable env s) {es : List TtyEvent} {s' : TtyState}
    (hrun : run step s es = some s') : es.length + s'.work ≤ s.work := by
  induction es generalizing s with
  | nil => cases hrun; simp
  | cons e es ih =>
    obtain ⟨s₁, h₁, h₂⟩ := Option.bind_eq_some.1 hrun
    have := ih (h.tail e h₁) h₂
    have := work_step h.outputInv h₁
    simp only [List.length_cons]
    omega

/-- A reachable state in which no thread can take a step has `tty_main` returned or panicked:
in the loop, the thread running the job can always hand over its message, and past it, the
code after the loop can always run. -/
theorem ended_of_stuck (h : Reachable env s) (hstuck : ∀ e, s.step e = none) :
    (∃ r, s.main = .returned r) ∨ s.main = .panicked := by
  have hmain := h.endInv.main
  cases hm : s.main with
  | looping inRawMode =>
    rw [hm] at hmain
    obtain ⟨msg, hmsg⟩ := Option.ne_none_iff_exists'.1 hmain
    have := hstuck (.recv .runJob)
    simp [step, hm, pending, hmsg] at this
  | broke result inRawMode =>
    have := hstuck .finish
    simp [step, hm] at this
  | returned r => exact .inl ⟨r, rfl⟩
  | panicked => exact .inr rfl

theorem work_init_le (env : TtyEnv) : (init env).work ≤ 2 * env.output.length + 6 := by
  unfold init
  split <;> simp [work, Reader.work, Main.work] <;> omega

/-- **`tty_main` never hangs.** Whatever order the scheduler picks, the threads of `tty_main`
take at most `2 n + 6` steps, for `n` chunks of the job's output; and where no thread can go
on, `tty_main` has returned or panicked: the thread running the job always hands over a message
that breaks the loop. -/
theorem main_ends (env : TtyEnv) {es : List TtyEvent} {s : TtyState}
    (hrun : run step (init env) es = some s) :
    es.length ≤ 2 * env.output.length + 6 ∧
      ((∀ e, s.step e = none) → (∃ r, s.main = .returned r) ∨ s.main = .panicked) := by
  have := length_add_work_le (.refl _) hrun
  have := work_init_le env
  exact ⟨by omega, ended_of_stuck (steps_of_run hrun)⟩

theorem main_ends_bellJob :
    ∃ s, run step (init bellJob)
        [.recv .listener, .read, .recv .reader, .read, .recv .runJob, .finish] = some s ∧
      [TtyEvent.recv .listener, .read, .recv .reader, .read, .recv .runJob, .finish].length ≤
        2 * bellJob.output.length + 6 ∧
      ((∀ e, s.step e = none) → (∃ r, s.main = .returned r) ∨ s.main = .panicked) :=
  ⟨_, rfl, main_ends bellJob rfl⟩

end TtyState

end Maelstrom.Run
