import Maelstrom.Run.Tty

/-!
# Tty mode: what every run of `tty_main` keeps

The threads of `tty_main` may be scheduled in any order, and the rendezvous channel lets `recv`
take whichever send is ready. In particular the thread running the job may hand over
`JobCompleted` while the reader thread still holds a chunk of the job's output, or has chunks
left to read: the loop then breaks and the rest of the output is never written.

* `OutputInv` holds of every reachable state: in the loop, standard output holds the two status
  lines and a prefix of what the job wrote, and the rest is exactly what the reader holds and
  what it has not read. So `output_of_completed`: when the loop breaks on `JobCompleted`, the
  job's output on standard output is a prefix of what it wrote, in order, each byte once.
* `completion_overtakes_output`: `tty_main` can return the job's exit code while the reader
  thread still holds the job's output.
* `ModeInv` holds of every reachable state where standard output and the terminal's mode work:
  wherever `tty_main` has returned, the terminal is back in cooked mode (`cooked_of_returned`).
  Otherwise it need not be: an `io::Error` of the `JobOutput` arm returns by `?` before
  `disable_raw_mode`, in raw mode (`returns_in_raw_mode`), and `disable_raw_mode` itself can
  fail.
-/

namespace Maelstrom.Run

namespace TtyState

variable {env : TtyEnv} {s s' : TtyState}

/-! ## The job's output -/

/-- What the job has written and the reader thread has not read. -/
def unread (s : TtyState) : List UInt8 := (s.socket.map Chunk.bytes).flatten

variable (env) in
/-- Standard output in the loop: what it held, the line printed before the loop, the line
printed on `JobConnected` once raw mode is on, then the job's output `w`. -/
def loopOutput (inRawMode : Bool) (w : List UInt8) : List UInt8 :=
  env.term.stdout ++ lineBytes "waiting for job to start" ++
    (if inRawMode then lineBytes "job started, going into raw mode" else []) ++ w

variable (env) in
/-- The invariant of the job's output. The thread running the job and the listener hold the
messages they started with; the reader starts only on `JobConnected`, and until then nothing is
read; and in the loop the job's output on standard output, what the reader holds and what it has
not read make up what the job wrote. -/
structure OutputInv (s : TtyState) : Prop where
  runJob : ∀ m ∈ s.runJob, m = env.runJobMessage
  listener : ∀ m ∈ s.listener, m = env.listenerMessage ∧ s.reader = .notSpawned
  unspawned : s.reader = .notSpawned → s.socket = env.output
  loop : ∀ inRawMode ∈ s.main.inRawMode, (s.reader = .notSpawned ↔ inRawMode = false) ∧
    ∃ w, s.term.stdout = loopOutput env inRawMode w ∧ w ++ s.reader.held ++ s.unread = env.written

theorem outputInv_init : OutputInv env (init env) := by
  unfold init
  split
  · next t h =>
    refine ⟨by simp, by simp, fun _ => rfl, ?_⟩
    simp only [Main.inRawMode, Option.mem_def, Option.some.injEq, forall_eq']
    exact ⟨by simp, [], by simp [loopOutput, (println_eq_ok h).1],
      by simp [unread, Reader.held, TtyEnv.written]⟩
  · exact ⟨by simp, by simp, fun _ => rfl, by simp [Main.inRawMode]⟩

namespace OutputInv

/-- Leaving `tty_main` keeps the invariant, which only speaks of the loop. -/
theorem exit (h : OutputInv env s) (f : Fault) (t : Terminal) :
    OutputInv env { s with main := f.exit, term := t } :=
  ⟨h.runJob, h.listener, h.unspawned, by simp⟩

/-- Breaking out of the loop keeps the invariant. -/
theorem broke (h : OutputInv env s) {inRawMode : Bool} (hs : s.main = .looping inRawMode)
    (result : Except String JobOutcomeResult) :
    OutputInv env { s with main := .broke result inRawMode } :=
  ⟨h.runJob, h.listener, h.unspawned, fun b hb => h.loop b (by rw [hs]; exact hb)⟩

/-- The reader thread, once started, holds no other thread back. -/
theorem listener_eq_none (h : OutputInv env s) (hs : s.reader ≠ .notSpawned) :
    s.listener = none :=
  Option.eq_none_iff_forall_not_mem.2 fun m hm => hs (h.listener m hm).2

/-- Replacing a started reader thread by another that holds the same output keeps the
invariant. -/
theorem reader (h : OutputInv env s) (hs : s.reader ≠ .notSpawned) {r : Reader}
    (hr : r ≠ .notSpawned) (hheld : r.held = s.reader.held) :
    OutputInv env { s with reader := r } := by
  refine ⟨h.runJob, by simp [h.listener_eq_none hs], fun h' => absurd h' hr, fun b hb => ?_⟩
  obtain ⟨hiff, w, hw⟩ := h.loop b hb
  exact ⟨by simpa [hs, hr] using hiff, w, by simpa [hheld] using hw⟩

variable {inRawMode : Bool} {msg : TtyMainMessage}

theorem recv_runJob (h : OutputInv env s) (hs : s.main = .looping inRawMode)
    (hmsg : s.runJob = some msg) : OutputInv env ((s.handOver .runJob).receive inRawMode msg) := by
  obtain rfl := h.runJob msg hmsg
  obtain ⟨result, hr⟩ := loopBody_runJobMessage env s.term
  have h' : OutputInv env (s.handOver .runJob) :=
    ⟨by simp [handOver], h.listener, h.unspawned, h.loop⟩
  rw [receive_break (s := s.handOver .runJob) hr]
  exact h'.broke hs result

theorem recv_listener (h : OutputInv env s) (hs : s.main = .looping inRawMode)
    (hmsg : s.listener = some msg) :
    OutputInv env ((s.handOver .listener).receive inRawMode msg) := by
  obtain ⟨rfl, hr⟩ := h.listener msg hmsg
  have h' : OutputInv env (s.handOver .listener) :=
    ⟨h.runJob, by simp [handOver], h.unspawned, h.loop⟩
  unfold TtyEnv.listenerMessage
  split
  · obtain ⟨hiff, w, hout, hw⟩ := h.loop inRawMode (by simp [hs, Main.inRawMode])
    obtain rfl : inRawMode = false := hiff.1 hr
    have hw0 : w = [] := by
      simpa [Reader.held, hr, unread, h.unspawned hr, TtyEnv.written] using hw
    cases hl : loopBody .jobConnected s.term with
    | ok r t =>
      obtain ⟨rfl, hstdout, -⟩ := loopBody_jobConnected hl
      rw [receive_connected (s := s.handOver .listener) hl]
      refine ⟨h.runJob, (by simp [handOver]), (fun h => by cases h), fun b hb => ?_⟩
      obtain rfl : b = true := by simpa [Main.inRawMode] using hb.symm
      refine ⟨by simp, [], by simp [hstdout, hout, hw0, loopOutput], ?_⟩
      simp [handOver, Reader.held, unread, h.unspawned hr, TtyEnv.written]
    | error f t =>
      rw [receive_error (s := s.handOver .listener) hl]
      exact h'.exit f t
  · rw [receive_break (s := s.handOver .listener) (loopBody_error _ _)]
    exact h'.broke hs _

theorem recv_reader (h : OutputInv env s) (hs : s.main = .looping inRawMode)
    (hmsg : s.reader.message = some msg) :
    OutputInv env ((s.handOver .reader).receive inRawMode msg) := by
  have hns : s.reader ≠ .notSpawned := fun hr => by simp [hr, Reader.message] at hmsg
  have hlis := h.listener_eq_none hns
  cases hr : s.reader with
  | sendingOutput bytes n =>
    rw [hr] at hmsg
    cases hmsg
    simp only [handOver, hr, Reader.afterSend]
    cases hl : loopBody (.jobOutput bytes n) s.term with
    | ok r t =>
      obtain ⟨rfl, hstdout, -⟩ := loopBody_jobOutput hl
      rw [receive_continue (s := { s with reader := .reading bytes }) hl]
      refine ⟨h.runJob, (by simp [hlis]), (fun h => by cases h), fun b hb => ?_⟩
      obtain ⟨-, w, hout, hw⟩ := h.loop b hb
      refine ⟨by simpa [hns] using (h.loop b hb).1, w ++ bytes.bytes.take n, ?_, ?_⟩
      · simp [hstdout, hout, loopOutput]
      · simpa [hr, Reader.held] using hw
    | error f t =>
      rw [receive_error (s := { s with reader := .reading bytes }) hl]
      exact ⟨h.runJob, (by simp [hlis]), (fun h => by cases h), by simp⟩
  | sendingError =>
    rw [hr] at hmsg
    cases hmsg
    simp only [handOver, hr, Reader.afterSend]
    rw [receive_break (loopBody_error _ _)]
    exact OutputInv.broke (h.reader hns (r := .done) (by simp) (by simp [hr, Reader.held])) hs _
  | notSpawned | reading _ | done => simp [hr, Reader.message] at hmsg

theorem read (h : OutputInv env s) {bytes : Buffer} (hr : s.reader = .reading bytes) :
    OutputInv env (s.read bytes) := by
  have hns : s.reader ≠ .notSpawned := by simp [hr]
  unfold TtyState.read
  split
  · next c cs hsock =>
    refine ⟨h.runJob, (by simp [h.listener_eq_none hns]), (fun h => by cases h), fun b hb => ?_⟩
    obtain ⟨hiff, w, hout, hw⟩ := h.loop b hb
    refine ⟨by simpa [hns] using hiff, w, hout, ?_⟩
    simpa [hr, hsock, Reader.held, unread] using hw
  · exact h.reader hns (by split <;> simp) (by split <;> simp [hr, Reader.held])

theorem step (h : OutputInv env s) {e : TtyEvent} (hs : s.step e = some s') :
    OutputInv env s' := by
  cases e with
  | recv src =>
    obtain ⟨inRawMode, msg, hmain, hmsg, rfl⟩ := step_recv hs
    cases src with
    | runJob => exact h.recv_runJob hmain hmsg
    | listener => exact h.recv_listener hmain hmsg
    | reader => exact h.recv_reader hmain hmsg
  | read =>
    obtain ⟨bytes, hr, rfl⟩ := step_read hs
    exact h.read hr
  | finish =>
    obtain ⟨result, inRawMode, -, rfl⟩ := step_finish hs
    cases hf : afterLoop result inRawMode s.term with
    | ok r t =>
      rw [finish_ok hf]
      exact ⟨h.runJob, h.listener, h.unspawned, by simp [Main.inRawMode]⟩
    | error f t =>
      rw [finish_error hf]
      exact h.exit f t

end OutputInv

theorem Reachable.outputInv (h : Reachable env s) : OutputInv env s :=
  h.preserves (fun _ _ _ hi hs => hi.step hs) outputInv_init

/-- **The job's output when the loop breaks on `JobCompleted`.** In every run, when the loop
breaks on `JobCompleted`, standard output holds what it held, the two status lines (the second
where raw mode was entered) and then `w`; and `w`, the chunk the reader thread holds and what
it has not read make up exactly what the job wrote. So the job's output on standard output is a
prefix of what it wrote, in order and each byte once, and may be cut short. -/
theorem output_of_completed (h : Reachable env s) {result : JobOutcomeResult} {inRawMode : Bool}
    (hs : s.main = .broke (.ok result) inRawMode) :
    ∃ w, s.term.stdout = loopOutput env inRawMode w ∧
      w ++ s.reader.held ++ s.unread = env.written :=
  (h.outputInv.loop inRawMode (by simp [hs, Main.inRawMode])).2

/-- A job that writes one byte, 7, to its terminal and exits with code 0; nothing fails. -/
def bellJob : TtyEnv :=
  ⟨some (.ok (.completed ⟨.exited 0, ⟨.none, .none⟩⟩)), true, [⟨[7], by decide, by decide⟩], false,
    ⟨[], [], false, [], [], []⟩⟩

theorem output_of_completed_bellJob :
    ∃ s, Reachable bellJob s ∧ s.main = .broke (.ok (.ok (.completed ⟨.exited 0, ⟨.none, .none⟩⟩))) true ∧
      ∃ w, s.term.stdout = loopOutput bellJob true w ∧
        w ++ s.reader.held ++ s.unread = bellJob.written :=
  have h := steps_of_run (rfl : run step (init bellJob)
    [.recv .listener, .read, .recv .reader, .recv .runJob] = some _)
  ⟨_, h, rfl, output_of_completed h rfl⟩

/-- **`JobCompleted` can overtake the job's output.** The job connects, and the reader thread
reads its one byte; before the main thread takes that chunk, it takes `JobCompleted`, leaves the
loop and returns the job's exit code. The byte, still held by the reader thread, never reaches
standard output. -/
theorem completion_overtakes_output :
    ∃ s, Reachable bellJob s ∧ s.main = .returned (.ok (.exit ⟨0⟩)) ∧ s.reader.held = [7] ∧
      7 ∉ s.term.stdout :=
  ⟨_, steps_of_run (rfl : run step (init bellJob)
    [.recv .listener, .read, .recv .runJob, .finish] = some _), rfl, rfl, by decide⟩

/-! ## The terminal's mode -/

/-- The invariant of the terminal's mode, where standard output and the terminal's mode work:
in the loop and just past it they still work and the terminal is in raw mode exactly where
`in_raw_mode` is set, and where `tty_main` has returned, the terminal is in cooked mode. -/
structure ModeInv (s : TtyState) : Prop where
  loop : ∀ inRawMode ∈ s.main.inRawMode, s.term.raw = inRawMode ∧ s.term.WorksOn [.stdout, .tty]
  returned : ∀ r, s.main = .returned r → s.term.raw = false

theorem modeInv_init (hraw : env.term.raw = false) (hworks : env.term.WorksOn [.stdout, .tty]) :
    ModeInv (init env) := by
  unfold init
  split
  · next t h =>
    refine ⟨?_, by simp⟩
    simp only [Main.inRawMode, Option.mem_def, Option.some.injEq, forall_eq']
    exact ⟨(println_eq_ok h).2.trans hraw, (Runs.println (.head _) _).works_of_eq hworks h⟩
  · exact ⟨by simp [Main.inRawMode], by simp⟩

namespace ModeInv

theorem step (h : ModeInv s) {e : TtyEvent} (hs : s.step e = some s') : ModeInv s' := by
  cases e with
  | recv src =>
    obtain ⟨inRawMode, msg, hmain, -, rfl⟩ := step_recv hs
    obtain ⟨hraw, hworks⟩ := h.loop inRawMode (by simp [hmain, Main.inRawMode])
    rw [← handOver_term s src] at hraw hworks
    have hrun : Runs [.stdout, .tty] (loopBody msg) := runs_loopBody (by simp) (by simp) msg
    cases hl : loopBody msg (s.handOver src).term with
    | ok r t =>
      have ht := hrun.works_of_eq hworks hl
      cases r with
      | «continue» =>
        rw [receive_continue hl]
        obtain ⟨⟨⟩, -⟩ | ⟨-, hmode⟩ := loopBody_mode hl
        exact ⟨by simpa [hmain, Main.inRawMode] using And.intro (hmode.trans hraw) ht,
          by simp [hmain]⟩
      | connected =>
        rw [receive_connected hl]
        obtain ⟨-, hmode⟩ | ⟨hne, -⟩ := loopBody_mode hl
        · exact ⟨by simpa [Main.inRawMode] using ⟨hmode, ht⟩, by simp⟩
        · exact absurd rfl hne
      | «break» result =>
        rw [receive_break hl]
        obtain ⟨⟨⟩, -⟩ | ⟨-, hmode⟩ := loopBody_mode hl
        exact ⟨by simpa [Main.inRawMode] using And.intro (hmode.trans hraw) ht, by simp⟩
    | error f t => exact absurd hl (hrun.ne_error hworks f t)
  | read =>
    obtain ⟨bytes, -, rfl⟩ := step_read hs
    unfold TtyState.read
    split <;> exact ⟨h.loop, h.returned⟩
  | finish =>
    obtain ⟨result, inRawMode, hmain, rfl⟩ := step_finish hs
    obtain ⟨hraw, hworks⟩ := h.loop inRawMode (by simp [hmain, Main.inRawMode])
    have hcooked := afterLoop_cooked result hraw fun c hc => hworks c (.tail _ hc)
    cases hf : afterLoop result inRawMode s.term with
    | ok r t =>
      rw [hf] at hcooked
      rw [finish_ok hf]
      exact ⟨by simp [Main.inRawMode], fun _ _ => hcooked⟩
    | error f t =>
      rw [hf] at hcooked
      rw [finish_error hf]
      exact ⟨by simp, fun _ _ => hcooked⟩

end ModeInv

theorem Reachable.modeInv (hraw : env.term.raw = false) (hworks : env.term.WorksOn [.stdout, .tty])
    (h : Reachable env s) : ModeInv s :=
  h.preserves (fun _ _ _ hi hs => hi.step hs) (modeInv_init hraw hworks)

/-- **Where the terminal works, every return leaves cooked mode.** Starting from a terminal in
cooked mode on which no write to standard output and no change of the terminal's mode fails,
wherever `tty_main` has returned, the terminal is back in cooked mode. -/
theorem cooked_of_returned (hraw : env.term.raw = false)
    (hworks : env.term.WorksOn [.stdout, .tty]) (h : Reachable env s)
    {r : Except TtyError ChildDeath} (hs : s.main = .returned r) : s.term.raw = false :=
  (h.modeInv hraw hworks).returned r hs

theorem cooked_of_returned_bellJob :
    ∃ s, bellJob.term.raw = false ∧ bellJob.term.WorksOn [.stdout, .tty] ∧ Reachable bellJob s ∧
      s.main = .returned (.ok (.exit ⟨0⟩)) ∧ s.term.raw = false :=
  have hworks : bellJob.term.WorksOn [.stdout, .tty] := by
    simp [Terminal.WorksOn, Terminal.faults, bellJob]
  have h := steps_of_run (rfl : run step (init bellJob)
    [.recv .listener, .read, .recv .reader, .read, .recv .runJob, .finish] = some _)
  ⟨_, rfl, hworks, h, rfl, cooked_of_returned rfl hworks h rfl⟩

/-- The job of `bellJob` on a terminal whose third write to standard output fails: the line
before the loop and the line on `JobConnected` are printed, and writing the job's output
fails. -/
def brokenStdoutJob : TtyEnv := { bellJob with term := ⟨[], [], false, [false, false, true], [], []⟩ }

/-- **A failed write of the job's output leaves raw mode on.** The job connects and raw mode is
entered; writing its first chunk to standard output fails, and `?` returns the `io::Error`
from inside the loop, past `disable_raw_mode`. -/
theorem returns_in_raw_mode :
    ∃ s, Reachable brokenStdoutJob s ∧ s.main = .returned (.error .io) ∧ s.term.raw = true :=
  ⟨_, steps_of_run (rfl : run step (init brokenStdoutJob)
    [.recv .listener, .read, .recv .reader] = some _), rfl, rfl⟩

end TtyState

end Maelstrom.Run
