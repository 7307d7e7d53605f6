import Maelstrom.Run.Steps
import Maelstrom.Run.Terminal

/-!
# Tty mode: the threads of `tty_main`

With `--tty`, `tty_main` runs one job on a pseudo-terminal. Three threads send
`TtyMainMessage`s over a rendezvous channel (`sync_channel(0)`) to the main thread: the thread
running the job sends `JobCompleted`, or an `Error`; the listener sends `JobConnected` once the
job connects to the socket, or an `Error`; and the reader thread, started on `JobConnected`,
sends a `JobOutput` for each chunk it reads from the socket, then stops at the end of the
socket or after an `Error`. The main thread loops on `recv` until `Error` or `JobCompleted`,
leaves raw mode, discarding the error of `disable_raw_mode`, and calls `mimic_child_death`.

* `loopBody` and `afterLoop` are the main thread's code, as computations on the terminal.
* `KeepsMode x`: however `x` ends, it leaves the terminal's mode alone; `Runs cs x`: while the
  channels `cs` work, `x` returns. So `afterLoop_cooked`: where `disable_raw_mode` succeeds,
  the code after the loop leaves cooked mode, and `runs_loopBody`, `runs_afterLoop`: on a
  working terminal the main thread's code never fails.
* `TtyState` and `TtyState.step` model the threads as one system: each event is one thread's
  step, in whatever order the scheduler picks; a send is taken by the main thread's `recv`.
-/

namespace Maelstrom.Run

/-! ## Messages -/

/-- The reader thread's buffer, `[u8; 1024]`. -/
structure Buffer where
  bytes : List UInt8
  length_eq : bytes.length = 1024

/-- `[0u8; 1024]`. -/
def Buffer.zero : Buffer := ⟨List.replicate 1024 0, List.length_replicate _ _⟩

/-- What one `read` of the socket that neither fails nor reaches the end returns: between 1 and
1024 bytes. -/
structure Chunk where
  bytes : List UInt8
  pos : 0 < bytes.length
  le : bytes.length ≤ 1024

/-- `sock1.read(&mut bytes)` returning `c`: the chunk at the front of the buffer, the rest of the
buffer as it was. -/
def Buffer.fill (b : Buffer) (c : Chunk) : Buffer :=
  ⟨c.bytes ++ b.bytes.drop c.bytes.length, by
    rw [List.length_append, List.length_drop, b.length_eq]
    have := c.le
    omega⟩

@[simp] theorem Buffer.take_fill (b : Buffer) (c : Chunk) :
    (b.fill c).bytes.take c.bytes.length = c.bytes :=
  List.take_left _ _

/-- `TtyMainMessage`. An `Error` is kept as the context `tty_main`'s threads give it; the two
streams of `JobConnected` are the socket, which the state holds. -/
inductive TtyMainMessage
  | error (err : String)
  | jobCompleted (result : JobOutcomeResult)
  | jobConnected
  | jobOutput (bytes : Buffer) (n : Nat)

/-- The error `tty_main` returns: an error a thread sent, or an `io::Error` of its own. -/
inductive TtyError
  | message (err : String)
  | io
  deriving DecidableEq

/-! ## The main thread -/

/-- What one pass of the loop leads to. -/
inductive LoopStep
  | continue
  /-- After `JobConnected`: raw mode is on, and the reader thread starts. -/
  | connected
  | break (result : Except String JobOutcomeResult)

/-- The body of the loop of `tty_main`, on the message `recv` returned. -/
def loopBody : TtyMainMessage → Io LoopStep
  | .error err => pure (.break (.error err))
  | .jobCompleted result => pure (.break (.ok result))
  | .jobConnected => do
    println "job started, going into raw mode"
    enableRawMode
    pure .connected
  | .jobOutput bytes n => do
    writeAll .stdout (bytes.bytes.take n)
    flush .stdout
    pure .continue

/-- `mimic_child_death(result?)`, the last line of `tty_main`. -/
def returnResult : Except String JobOutcomeResult → Io (Except TtyError ChildDeath)
  | .error err => pure (.error (.message err))
  | .ok result => .ok <$> mimicChildDeath result

/-- The end of `tty_main`, after the loop broke with `result`: the error of `disable_raw_mode`
is discarded. -/
def afterLoop (result : Except String JobOutcomeResult) (inRawMode : Bool) :
    Io (Except TtyError ChildDeath) := do
  if inRawMode then
    let _ ← disableRawMode.ok
  returnResult result

/-! ## Spec lemmas of the terminal's operations -/

namespace Io

variable {α β : Type}

theorem bind_eq_ok {x : Io α} {f : α → Io β} {t t'' : Terminal} {b : β} :
    (x >>= f) t = .ok b t'' ↔ ∃ a t', x t = .ok a t' ∧ f a t' = .ok b t'' := by
  simp only [Bind.bind, EStateM.bind]
  constructor
  · intro h
    split at h
    · exact ⟨_, _, ‹_›, h⟩
    · cases h
  · rintro ⟨a, t', h, h'⟩
    simp only [h, h']

theorem op_eq_ok {c : Channel} {fault : Fault} {f : Terminal → Terminal} {t t' : Terminal}
    {u : Unit} : op c fault f t = .ok u t' ↔ (t.next c).1 = false ∧ t' = f (t.next c).2 := by
  simp only [op]
  split
  · next h => simp [h]
  · next h => simp [h, eq_comm]

end Io

@[simp] theorem Terminal.next_stdout (t : Terminal) (c : Channel) :
    (t.next c).2.stdout = t.stdout := by
  cases c <;> rfl

@[simp] theorem Terminal.next_raw (t : Terminal) (c : Channel) : (t.next c).2.raw = t.raw := by
  cases c <;> rfl

@[simp] theorem Terminal.next_fst (t : Terminal) (c : Channel) :
    (t.next c).1 = (t.faults c).headD false := by
  cases c <;> rfl

theorem Terminal.mem_faults_next {t : Terminal} {c c' : Channel} {b : Bool}
    (h : b ∈ (t.next c).2.faults c') : b ∈ t.faults c' := by
  cases c <;> cases c' <;> first | exact h | exact List.mem_of_mem_tail h

@[simp] theorem Terminal.faults_emit (t : Terminal) (c c' : Channel) (bytes : List UInt8) :
    (t.emit c bytes).faults c' = t.faults c' := by
  cases c <;> cases c' <;> rfl

namespace Terminal.WorksOn

variable {t : Terminal} {cs : List Channel}

/-- An operation on a working channel succeeds. -/
theorem next_fst (h : t.WorksOn cs) {c : Channel} (hc : c ∈ cs) : (t.next c).1 = false := by
  rw [Terminal.next_fst]
  cases hl : t.faults c with
  | nil => rfl
  | cons b bs => exact h c hc b (hl ▸ List.mem_cons_self b bs)

/-- Working channels keep working after any operation. -/
theorem next (h : t.WorksOn cs) (c : Channel) : (t.next c).2.WorksOn cs :=
  fun c' hc' b hb => h c' hc' b (Terminal.mem_faults_next hb)

end Terminal.WorksOn

@[simp] theorem Terminal.emit_stdout (t : Terminal) (bytes : List UInt8) :
    (t.emit .stdout bytes).stdout = t.stdout ++ bytes := rfl

@[simp] theorem Terminal.emit_raw (t : Terminal) (c : Channel) (bytes : List UInt8) :
    (t.emit c bytes).raw = t.raw := by
  cases c <;> rfl

@[simp] theorem loopBody_error (err : String) (t : Terminal) :
    loopBody (.error err) t = .ok (.break (.error err)) t := rfl

theorem println_eq_ok {line : String} {t t' : Terminal} {u : Unit} (h : println line t = .ok u t') :
    t'.stdout = t.stdout ++ lineBytes line ∧ t'.raw = t.raw := by
  obtain ⟨-, rfl⟩ := Io.op_eq_ok.1 h
  simp

/-- Where the `JobOutput` arm goes on, it has written the chunk to standard output. -/
theorem loopBody_jobOutput {bytes : Buffer} {n : Nat} {t t' : Terminal} {r : LoopStep}
    (h : loopBody (.jobOutput bytes n) t = .ok r t') :
    r = .continue ∧ t'.stdout = t.stdout ++ bytes.bytes.take n ∧ t'.raw = t.raw := by
  obtain ⟨_, t₁, h₁, h⟩ := Io.bind_eq_ok.1 h
  obtain ⟨_, t₂, h₂, h⟩ := Io.bind_eq_ok.1 h
  cases h
  obtain ⟨-, rfl⟩ := Io.op_eq_ok.1 h₁
  obtain ⟨-, rfl⟩ := Io.op_eq_ok.1 h₂
  simp

/-- Where the `JobConnected` arm goes on, it has printed its line and entered raw mode. -/
theorem loopBody_jobConnected {t t' : Terminal} {r : LoopStep}
    (h : loopBody .jobConnected t = .ok r t') :
    r = .connected ∧ t'.stdout = t.stdout ++ lineBytes "job started, going into raw mode" ∧
      t'.raw = true := by
  obtain ⟨_, t₁, h₁, h⟩ := Io.bind_eq_ok.1 h
  obtain ⟨_, t₂, h₂, h⟩ := Io.bind_eq_ok.1 h
  cases h
  obtain ⟨-, rfl⟩ := Io.op_eq_ok.1 h₂
  exact ⟨rfl, (println_eq_ok h₁).1, rfl⟩

/-- The terminal a computation leaves, whether it returns or fails. -/
def Io.after {α : Type} : EStateM.Result Fault Terminal α → Terminal
  | .ok _ t | .error _ t => t

/-- However `x` ends, it leaves the terminal's mode as it was. -/
def KeepsMode {α : Type} (x : Io α) : Prop := ∀ t, (Io.after (x t)).raw = t.raw

namespace KeepsMode

variable {α β : Type}

theorem pure (a : α) : KeepsMode (Pure.pure a : Io α) := fun _ => rfl

theorem bind {x : Io α} {f : α → Io β} (hx : KeepsMode x) (hf : ∀ a, KeepsMode (f a)) :
    KeepsMode (x >>= f) := fun t => by
  have h := hx t
  simp only [Bind.bind, EStateM.bind]
  cases hxt : x t with
  | ok a t' => rw [hxt] at h; exact (hf a t').trans h
  | error e t' => rw [hxt] at h; exact h

theorem map {x : Io α} (f : α → β) (hx : KeepsMode x) : KeepsMode (f <$> x) := fun t => by
  have h := hx t
  simp only [Functor.map, EStateM.map]
  cases hxt : x t <;> rw [hxt] at h <;> exact h

theorem op (c : Channel) (fault : Fault) {f : Terminal → Terminal} (hf : ∀ t, (f t).raw = t.raw) :
    KeepsMode (Io.op c fault f) := fun t => by
  have h := Terminal.next_raw t c
  unfold Io.op
  split
  · next t' ht => rw [ht] at h; exact h
  · next t' ht => rw [ht] at h; exact (hf t').trans h

theorem writeAll (c : Channel) (bytes : List UInt8) : KeepsMode (Maelstrom.Run.writeAll c bytes) :=
  op _ _ fun _ => Terminal.emit_raw _ _ _

theorem flush (c : Channel) : KeepsMode (Maelstrom.Run.flush c) := op _ _ fun _ => rfl

theorem eprintln (s : String) : KeepsMode (Maelstrom.Run.eprintln s) :=
  op _ _ fun _ => Terminal.emit_raw _ _ _

end KeepsMode

theorem keepsMode_printStdout (cjid : Option ClientJobId) (out : JobOutputResult) :
    KeepsMode (printStdout cjid out) := by
  cases out with
  | none => exact KeepsMode.pure _
  | inline bytes => exact KeepsMode.writeAll _ _
  | truncated first truncated =>
    exact (KeepsMode.writeAll _ _).bind fun _ => (KeepsMode.flush _).bind fun _ => by
      cases cjid <;> exact KeepsMode.eprintln _

theorem keepsMode_printStderr (cjid : Option ClientJobId) (err : JobOutputResult) :
    KeepsMode (printStderr cjid err) := by
  cases err with
  | none => exact KeepsMode.pure _
  | inline bytes => exact KeepsMode.writeAll _ _
  | truncated first truncated =>
    exact (KeepsMode.writeAll _ _).bind fun _ => by cases cjid <;> exact KeepsMode.eprintln _

/-- The loop's body changes the terminal's mode only on `JobConnected`, by entering raw mode. -/
theorem loopBody_mode {msg : TtyMainMessage} {t t' : Terminal} {r : LoopStep}
    (h : loopBody msg t = .ok r t') :
    r = .connected ∧ t'.raw = true ∨ r ≠ .connected ∧ t'.raw = t.raw := by
  cases msg with
  | error err => cases h; exact .inr ⟨nofun, rfl⟩
  | jobCompleted result => cases h; exact .inr ⟨nofun, rfl⟩
  | jobConnected => exact .inl ⟨(loopBody_jobConnected h).1, (loopBody_jobConnected h).2.2⟩
  | jobOutput bytes n =>
    obtain ⟨rfl, -, hraw⟩ := loopBody_jobOutput h
    exact .inr ⟨nofun, hraw⟩

/-- `mimic_child_death` only writes: it leaves the terminal's mode alone. -/
theorem keepsMode_mimicChildDeath (result : JobOutcomeResult) :
    KeepsMode (mimicChildDeath result) := by
  have effects : ∀ effects, KeepsMode (printEffects none effects) := fun _ =>
    (keepsMode_printStdout _ _).bind fun _ => keepsMode_printStderr _ _
  rcases result with err | ⟨⟨status, eff⟩⟩ | eff
  · cases err <;> exact (KeepsMode.eprintln _).bind fun _ => KeepsMode.pure _
  · exact (effects eff).bind fun _ => by cases status <;> exact KeepsMode.pure _
  · exact (effects eff).bind fun _ => (KeepsMode.flush _).bind fun _ =>
      (KeepsMode.eprintln _).bind fun _ => KeepsMode.pure _

theorem keepsMode_returnResult (result : Except String JobOutcomeResult) :
    KeepsMode (returnResult result) := by
  cases result with
  | error err => exact KeepsMode.pure _
  | ok result => exact (keepsMode_mimicChildDeath result).map _

theorem disableRawMode_ok {t : Terminal} (ht : (t.next .tty).1 = false) :
    disableRawMode.ok t = .ok (some ()) { (t.next .tty).2 with raw := false } := by
  rcases hn : t.next .tty with ⟨b, t'⟩
  rw [hn] at ht
  subst ht
  simp only [Io.ok, disableRawMode, Io.op, hn]

/-- Where `disable_raw_mode` succeeds, the code after the loop leaves the terminal in cooked
mode, whether `mimic_child_death` then returns or fails. -/
theorem afterLoop_cooked (result : Except String JobOutcomeResult) {inRawMode : Bool}
    {t : Terminal} (hraw : t.raw = inRawMode) (ht : t.WorksOn [.tty]) :
    (Io.after (afterLoop result inRawMode t)).raw = false := by
  unfold afterLoop
  cases inRawMode
  · exact (keepsMode_returnResult result t).trans hraw
  · simp only [ite_true, Bind.bind, EStateM.bind, disableRawMode_ok (ht.next_fst (.head _))]
    exact keepsMode_returnResult result _

/-! ## Computations that run -/

/-- While no operation on the channels `cs` fails, `x` returns normally and leaves them
working. -/
def Runs {α : Type} (cs : List Channel) (x : Io α) : Prop :=
  ∀ t, t.WorksOn cs → ∃ a t', x t = .ok a t' ∧ t'.WorksOn cs

namespace Runs

variable {α β : Type} {cs : List Channel} {x : Io α}

theorem pure (a : α) : Runs cs (Pure.pure a : Io α) := fun t ht => ⟨a, t, rfl, ht⟩

theorem bind {f : α → Io β} (hx : Runs cs x) (hf : ∀ a, Runs cs (f a)) : Runs cs (x >>= f) :=
  fun t ht => by
    obtain ⟨a, t', h₁, ht'⟩ := hx t ht
    obtain ⟨b, t'', h₂, ht''⟩ := hf a t' ht'
    exact ⟨b, t'', Io.bind_eq_ok.2 ⟨a, t', h₁, h₂⟩, ht''⟩

theorem map (f : α → β) (hx : Runs cs x) : Runs cs (f <$> x) := fun t ht => by
  obtain ⟨a, t', h, ht'⟩ := hx t ht
  exact ⟨f a, t', by simp only [Functor.map, EStateM.map, h], ht'⟩

/-- `.ok()` of a computation that runs returns what it returns. -/
theorem ok (hx : Runs cs x) : Runs cs x.ok := fun t ht => by
  obtain ⟨a, t', h, ht'⟩ := hx t ht
  exact ⟨some a, t', by simp only [Io.ok, h], ht'⟩

/-- An operation on a channel of `cs` that leaves the coming outcomes alone runs. -/
theorem op {c : Channel} (hc : c ∈ cs) (fault : Fault) {f : Terminal → Terminal}
    (hf : ∀ t c', (f t).faults c' = t.faults c') : Runs cs (Io.op c fault f) := fun t ht =>
  ⟨(), f (t.next c).2, Io.op_eq_ok.2 ⟨ht.next_fst hc, rfl⟩,
    fun c' hc' b hb => ht.next c c' hc' b (by rwa [hf] at hb)⟩

theorem writeAll {c : Channel} (hc : c ∈ cs) (bytes : List UInt8) :
    Runs cs (Maelstrom.Run.writeAll c bytes) :=
  op hc _ fun _ _ => Terminal.faults_emit _ _ _ _

theorem flush {c : Channel} (hc : c ∈ cs) : Runs cs (Maelstrom.Run.flush c) :=
  op hc _ fun _ _ => rfl

theorem println (hc : .stdout ∈ cs) (s : String) : Runs cs (Maelstrom.Run.println s) :=
  op hc _ fun _ _ => Terminal.faults_emit _ _ _ _

theorem eprintln (hc : .stderr ∈ cs) (s : String) : Runs cs (Maelstrom.Run.eprintln s) :=
  op hc _ fun _ _ => Terminal.faults_emit _ _ _ _

theorem enableRawMode (hc : .tty ∈ cs) : Runs cs Maelstrom.Run.enableRawMode :=
  op hc _ fun _ c' => by cases c' <;> rfl

theorem disableRawMode (hc : .tty ∈ cs) : Runs cs Maelstrom.Run.disableRawMode :=
  op hc _ fun _ c' => by cases c' <;> rfl

/-- The terminal a computation that runs leaves still works. -/
theorem works_of_eq (hx : Runs cs x) {t t' : Terminal} (ht : t.WorksOn cs) {a : α}
    (h : x t = .ok a t') : t'.WorksOn cs := by
  obtain ⟨b, t'', h', ht''⟩ := hx t ht
  rw [h] at h'
  cases h'
  exact ht''

/-- A computation that runs does not fail. -/
theorem ne_error (hx : Runs cs x) {t : Terminal} (ht : t.WorksOn cs) (f : Fault) (t' : Terminal) :
    x t ≠ .error f t' := by
  obtain ⟨a, t'', h, -⟩ := hx t ht
  rw [h]
  nofun

end Runs

section Runs

variable {cs : List Channel}

theorem runs_printStdout (hc : .stdout ∈ cs) (he : .stderr ∈ cs) (cjid : Option ClientJobId)
    (out : JobOutputResult) : Runs cs (printStdout cjid out) := by
  cases out with
  | none => exact Runs.pure _
  | inline bytes => exact Runs.writeAll hc _
  | truncated first truncated =>
    exact (Runs.writeAll hc _).bind fun _ => (Runs.flush hc).bind fun _ => by
      cases cjid <;> exact Runs.eprintln he _

theorem runs_printStderr (he : .stderr ∈ cs) (cjid : Option ClientJobId) (err : JobOutputResult) :
    Runs cs (printStderr cjid err) := by
  cases err with
  | none => exact Runs.pure _
  | inline bytes => exact Runs.writeAll he _
  | truncated first truncated =>
    exact (Runs.writeAll he _).bind fun _ => by cases cjid <;> exact Runs.eprintln he _

/-- While standard output and standard error work, `mimic_child_death` returns. -/
theorem runs_mimicChildDeath (hc : .stdout ∈ cs) (he : .stderr ∈ cs) (result : JobOutcomeResult) :
    Runs cs (mimicChildDeath result) := by
  have effects : ∀ effects, Runs cs (printEffects none effects) := fun _ =>
    (runs_printStdout hc he _ _).bind fun _ => runs_printStderr he _ _
  rcases result with err | ⟨⟨status, eff⟩⟩ | eff
  · cases err <;> exact (Runs.eprintln he _).bind fun _ => Runs.pure _
  · exact (effects eff).bind fun _ => by cases status <;> exact Runs.pure _
  · exact (effects eff).bind fun _ => (Runs.flush hc).bind fun _ =>
      (Runs.eprintln he _).bind fun _ => Runs.pure _

/-- While the terminal works, the code after the loop returns. -/
theorem runs_afterLoop (hc : .stdout ∈ cs) (he : .stderr ∈ cs) (ht : .tty ∈ cs)
    (result : Except String JobOutcomeResult) (inRawMode : Bool) :
    Runs cs (afterLoop result inRawMode) := by
  have hr : Runs cs (returnResult result) := by
    cases result with
    | error err => exact Runs.pure _
    | ok result => exact (runs_mimicChildDeath hc he result).map _
  unfold afterLoop
  cases inRawMode
  · exact hr
  · exact (Runs.disableRawMode ht).ok.bind fun _ => (Runs.pure _).bind fun _ => hr

/-- While standard output and the terminal's mode work, the loop's body returns. -/
theorem runs_loopBody (hc : .stdout ∈ cs) (ht : .tty ∈ cs) (msg : TtyMainMessage) :
    Runs cs (loopBody msg) := by
  cases msg with
  | error err | jobCompleted result => exact Runs.pure _
  | jobConnected =>
    exact (Runs.println hc _).bind fun _ => (Runs.enableRawMode ht).bind fun _ => Runs.pure _
  | jobOutput bytes n =>
    exact (Runs.writeAll hc _).bind fun _ => (Runs.flush hc).bind fun _ => Runs.pure _

end Runs

/-! ## The threads -/

/-- The threads that send to the main thread. -/
inductive Sender
  | runJob
  | listener
  | reader

/-- Where the reader thread is. -/
inductive Reader
  /-- Not started: the job has not connected. -/
  | notSpawned
  /-- In `sock1.read(&mut bytes)`. -/
  | reading (bytes : Buffer)
  /-- In `sender_clone.send(TtyMainMessage::JobOutput(bytes, n))`. -/
  | sendingOutput (bytes : Buffer) (n : Nat)
  /-- In `sender_clone.send(TtyMainMessage::Error(..))`, after a failed read. -/
  | sendingError
  /-- Out of its loop. -/
  | done

namespace Reader

/-- The message the reader thread is blocked sending. -/
def message : Reader → Option TtyMainMessage
  | .sendingOutput bytes n => some (.jobOutput bytes n)
  | .sendingError => some (.error "reading from job")
  | _ => none

/-- The reader thread once its message is taken: it reads again after a `JobOutput`, and leaves
its loop after an `Error`. -/
def afterSend : Reader → Reader
  | .sendingOutput bytes _ => .reading bytes
  | .sendingError => .done
  | r => r

/-- The job's output the reader thread holds: the chunk it is sending. -/
def held : Reader → List UInt8
  | .sendingOutput bytes n => bytes.bytes.take n
  | _ => []

end Reader

/-- Where the main thread is. -/
inductive Main
  /-- In the loop, in `receiver.recv()`, which never fails: the main thread holds a sender. -/
  | looping (inRawMode : Bool)
  /-- Past the loop, which broke with `result`. -/
  | broke (result : Except String JobOutcomeResult) (inRawMode : Bool)
  /-- `tty_main` returned `r`. -/
  | returned (r : Except TtyError ChildDeath)
  | panicked

/-- In the loop or just past it: whether raw mode was entered. -/
def Main.inRawMode : Main → Option Bool
  | .looping inRawMode | .broke _ inRawMode => some inRawMode
  | _ => none

/-- How a fault ends the main thread: `?` returns the `io::Error`, a panic unwinds it. -/
def Fault.exit : Fault → Main
  | .error => .returned (.error .io)
  | .panic => .panicked

@[simp] theorem Fault.inRawMode_exit (f : Fault) : f.exit.inRawMode = none := by
  cases f <;> rfl

/-- The threads of `tty_main` once the socket is set up. -/
structure TtyState where
  /-- The message the thread running the job is blocked sending, if any. -/
  runJob : Option TtyMainMessage
  /-- The message the listener thread is blocked sending, if any. -/
  listener : Option TtyMainMessage
  reader : Reader
  /-- What the job has written to the socket and the reader has not read, in the chunks its
  reads return. -/
  socket : List Chunk
  /-- Whether reading the socket past these chunks fails, rather than reaching its end. -/
  readFails : Bool
  main : Main
  term : Terminal

/-- What decides a run of `tty_main`: what `client.run_job` returns (`none` for an error),
whether the listener's `accept` succeeds, what the job writes to its terminal, whether reading
it then fails, and the terminal. -/
structure TtyEnv where
  runJob : Option JobOutcomeResult
  accepted : Bool
  output : List Chunk
  readFails : Bool
  term : Terminal

namespace TtyEnv

/-- What the thread running the job sends. -/
def runJobMessage (env : TtyEnv) : TtyMainMessage :=
  match env.runJob with
  | some result => .jobCompleted result
  | none => .error "client error"

/-- What the listener thread sends. -/
def listenerMessage (env : TtyEnv) : TtyMainMessage :=
  if env.accepted then .jobConnected else .error "job connecting"

/-- Everything the job writes to its terminal. -/
def written (env : TtyEnv) : List UInt8 := (env.output.map Chunk.bytes).flatten

end TtyEnv

namespace TtyState

/-- The state once the thread running the job is spawned, `println!("waiting for job to
start")` has run, and the listener thread is spawned; a panic in `println!` ends the main thread
before the listener starts. -/
def init (env : TtyEnv) : TtyState :=
  match println "waiting for job to start" env.term with
  | .ok () t =>
    ⟨some env.runJobMessage, some env.listenerMessage, .notSpawned, env.output, env.readFails,
      .looping false, t⟩
  | .error _ t =>
    ⟨some env.runJobMessage, none, .notSpawned, env.output, env.readFails, .panicked, t⟩

/-- The message thread `src` is blocked sending, if any. -/
def pending (s : TtyState) : Sender → Option TtyMainMessage
  | .runJob => s.runJob
  | .listener => s.listener
  | .reader => s.reader.message

/-- Thread `src` past its `send`. -/
def handOver (s : TtyState) : Sender → TtyState
  | .runJob => { s with runJob := none }
  | .listener => { s with listener := none }
  | .reader => { s with reader := s.reader.afterSend }

@[simp] theorem handOver_main (s : TtyState) (src : Sender) : (s.handOver src).main = s.main := by
  cases src <;> rfl

@[simp] theorem handOver_term (s : TtyState) (src : Sender) : (s.handOver src).term = s.term := by
  cases src <;> rfl

@[simp] theorem handOver_socket (s : TtyState) (src : Sender) :
    (s.handOver src).socket = s.socket := by
  cases src <;> rfl

/-- The main thread runs the loop's body on `msg`: it goes on, starts the reader thread, breaks
out of the loop, returns an `io::Error` by `?`, or panics. -/
def receive (s : TtyState) (inRawMode : Bool) (msg : TtyMainMessage) : TtyState :=
  match loopBody msg s.term with
  | .ok .continue t => { s with term := t }
  | .ok .connected t => { s with main := .looping true, reader := .reading .zero, term := t }
  | .ok (.break result) t => { s with main := .broke result inRawMode, term := t }
  | .error f t => { s with main := f.exit, term := t }

/-- The reader thread's `sock1.read(&mut bytes)`: a chunk, a failure, or the end. -/
def read (s : TtyState) (bytes : Buffer) : TtyState :=
  match s.socket with
  | c :: cs => { s with reader := .sendingOutput (bytes.fill c) c.bytes.length, socket := cs }
  | [] => { s with reader := if s.readFails then .sendingError else .done }

/-- The main thread past the loop. -/
def finish (s : TtyState) (result : Except String JobOutcomeResult) (inRawMode : Bool) :
    TtyState :=
  match afterLoop result inRawMode s.term with
  | .ok r t => { s with main := .returned r, term := t }
  | .error f t => { s with main := f.exit, term := t }

end TtyState

/-- A step of one thread. -/
inductive TtyEvent
  /-- The main thread's `recv` takes the message thread `src` is sending. -/
  | recv (src : Sender)
  /-- The reader thread reads the socket. -/
  | read
  /-- The main thread runs the code after the loop. -/
  | finish

namespace TtyState

/-- One step of the system; `none` where the event cannot happen. -/
def step (s : TtyState) : TtyEvent → Option TtyState
  | .recv src => match s.main, s.pending src with
    | .looping inRawMode, some msg => some ((s.handOver src).receive inRawMode msg)
    | _, _ => none
  | .read => match s.reader with
    | .reading bytes => some (s.read bytes)
    | _ => none
  | .finish => match s.main with
    | .broke result inRawMode => some (s.finish result inRawMode)
    | _ => none

/-- The states `tty_main` can reach in the environment `env`. -/
def Reachable (env : TtyEnv) (s : TtyState) : Prop := Steps step (init env) s

/-! ## What one step does -/

variable {s s' : TtyState}

theorem step_recv {src : Sender} (h : s.step (.recv src) = some s') :
    ∃ inRawMode msg, s.main = .looping inRawMode ∧ s.pending src = some msg ∧
      s' = (s.handOver src).receive inRawMode msg := by
  simp only [step] at h
  split at h
  · cases h
    exact ⟨_, _, ‹_›, ‹_›, rfl⟩
  · cases h

theorem step_read (h : s.step .read = some s') :
    ∃ bytes, s.reader = .reading bytes ∧ s' = s.read bytes := by
  simp only [step] at h
  split at h
  · cases h
    exact ⟨_, ‹_›, rfl⟩
  · cases h

theorem step_finish (h : s.step .finish = some s') :
    ∃ result inRawMode, s.main = .broke result inRawMode ∧ s' = s.finish result inRawMode := by
  simp only [step] at h
  split at h
  · cases h
    exact ⟨_, _, ‹_›, rfl⟩
  · cases h

theorem receive_continue {inRawMode : Bool} {msg : TtyMainMessage} {t : Terminal}
    (h : loopBody msg s.term = .ok .continue t) : s.receive inRawMode msg = { s with term := t } := by
  simp only [receive, h]

theorem receive_connected {inRawMode : Bool} {msg : TtyMainMessage} {t : Terminal}
    (h : loopBody msg s.term = .ok .connected t) :
    s.receive inRawMode msg = { s with main := .looping true, reader := .reading .zero, term := t } := by
  simp only [receive, h]

theorem receive_break {inRawMode : Bool} {msg : TtyMainMessage}
    {result : Except String JobOutcomeResult} {t : Terminal}
    (h : loopBody msg s.term = .ok (.break result) t) :
    s.receive inRawMode msg = { s with main := .broke result inRawMode, term := t } := by
  simp only [receive, h]

theorem receive_error {inRawMode : Bool} {msg : TtyMainMessage} {f : Fault} {t : Terminal}
    (h : loopBody msg s.term = .error f t) :
    s.receive inRawMode msg = { s with main := f.exit, term := t } := by
  simp only [receive, h]

theorem finish_ok {result : Except String JobOutcomeResult} {inRawMode : Bool}
    {r : Except TtyError ChildDeath} {t : Terminal} (h : afterLoop result inRawMode s.term = .ok r t) :
    s.finish result inRawMode = { s with main := .returned r, term := t } := by
  simp only [finish, h]

theorem finish_error {result : Except String JobOutcomeResult} {inRawMode : Bool} {f : Fault}
    {t : Terminal} (h : afterLoop result inRawMode s.term = .error f t) :
    s.finish result inRawMode = { s with main := f.exit, term := t } := by
  simp only [finish, h]

end TtyState

theorem loopBody_runJobMessage (env : TtyEnv) (t : Terminal) :
    ∃ result, loopBody env.runJobMessage t = .ok (.break result) t := by
  unfold TtyEnv.runJobMessage
  split <;> exact ⟨_, rfl⟩

end Maelstrom.Run
