import Mathlib.Data.List.Basic
import Mathlib.Algebra.Group.Nat.Basic

/-!
# The terminal of `maelstrom-run`, and what a job's outcome prints

`maelstrom-run/src/main.rs` reports each job on its standard output and standard error, and in
tty mode switches the terminal into raw mode. Every one of these operations can fail, and the
code treats the failures differently: a `write_all` or `flush` returns an `io::Error`, which the
caller propagates with `?` or drops with `.ok()`, while `println!` and `eprintln!` panic.

* `Terminal` holds what was written to each stream, whether the terminal is in raw mode, and,
  for each channel, how its coming operations end. Every pattern of failures is a choice of
  these lists.
* `Io` is a computation on the terminal that ends normally, with an error, or in a panic;
  `Io.op` is one operation on a channel, and `writeAll`, `flush`, `println`, `eprintln`,
  `enableRawMode` and `disableRawMode` are instances of it. `Io.ok` is Rust's `.ok()`: it
  drops an error and lets a panic through.
* `printEffects` and `mimicChildDeath` are the functions of the same names, over the outcome
  types of `maelstrom_base` as `main.rs` reads them.
-/

namespace Maelstrom.Run

/-! ## Outcomes of a job -/

/-- `ClientJobId`. -/
structure ClientJobId where
  val : UInt32
  deriving DecidableEq

instance : ToString ClientJobId := ⟨fun cjid => toString cjid.val⟩

/-- `JobStatus`. -/
inductive JobStatus
  | exited (code : UInt8)
  | signaled (signum : UInt8)
  deriving DecidableEq

/-- `JobOutputResult`: captured output, possibly cut at the inline limit. -/
inductive JobOutputResult
  | none
  | inline (bytes : List UInt8)
  | truncated (first : List UInt8) (truncated : UInt64)
  deriving DecidableEq

/-- `JobEffects`, without the `duration` that `print_effects` ignores. -/
structure JobEffects where
  stdout : JobOutputResult
  stderr : JobOutputResult
  deriving DecidableEq

/-- `JobCompleted`. -/
structure JobCompleted where
  status : JobStatus
  effects : JobEffects
  deriving DecidableEq

/-- `JobOutcome`. -/
inductive JobOutcome
  | completed (c : JobCompleted)
  | timedOut (effects : JobEffects)
  deriving DecidableEq

/-- `JobError`. -/
inductive JobError
  | execution (err : String)
  | system (err : String)
  deriving DecidableEq

/-- `JobOutcomeResult`. -/
abbrev JobOutcomeResult := Except JobError JobOutcome

/-- `ExitCode`. -/
structure ExitCode where
  code : UInt8
  deriving DecidableEq

/-- `ExitCode::SUCCESS`. -/
def ExitCode.SUCCESS : ExitCode := ⟨0⟩

/-- `ExitCode::FAILURE`. -/
def ExitCode.FAILURE : ExitCode := ⟨1⟩

/-! ## The terminal -/

/-- What an operation acts on. -/
inductive Channel
  | stdout
  | stderr
  /-- The terminal's mode, which `enable_raw_mode` sets. -/
  | tty
  deriving DecidableEq

/-- The terminal: the bytes written to standard output and standard error, whether it is in raw
mode, and for each channel whether its coming operations fail (`true`), in order. Once a list
runs out, the operations succeed. -/
structure Terminal where
  stdout : List UInt8
  stderr : List UInt8
  raw : Bool
  stdoutFaults : List Bool
  stderrFaults : List Bool
  ttyFaults : List Bool

namespace Terminal

/-- Whether the next operation on channel `c` fails, and the terminal past it. -/
def next (t : Terminal) : Channel → Bool × Terminal
  | .stdout => (t.stdoutFaults.headD false, { t with stdoutFaults := t.stdoutFaults.tail })
  | .stderr => (t.stderrFaults.headD false, { t with stderrFaults := t.stderrFaults.tail })
  | .tty => (t.ttyFaults.headD false, { t with ttyFaults := t.ttyFaults.tail })

/-- Bytes appended to a stream. -/
def emit (t : Terminal) : Channel → List UInt8 → Terminal
  | .stdout, bytes => { t with stdout := t.stdout ++ bytes }
  | .stderr, bytes => { t with stderr := t.stderr ++ bytes }
  | .tty, _ => t

/-- No operation on standard error fails. -/
def StderrWorks (t : Terminal) : Prop := ∀ b ∈ t.stderrFaults, b = false

/-- How the coming operations on channel `c` end. -/
def faults (t : Terminal) : Channel → List Bool
  | .stdout => t.stdoutFaults
  | .stderr => t.stderrFaults
  | .tty => t.ttyFaults

/-- No operation on any of the channels `cs` fails. -/
def WorksOn (t : Terminal) (cs : List Channel) : Prop := ∀ c ∈ cs, ∀ b ∈ t.faults c, b = false

end Terminal

/-- How a computation of the job runner can go wrong: an `io::Error` it returns, or a panic. -/
inductive Fault
  | error
  | panic
  deriving DecidableEq

/-- A computation on the terminal. -/
abbrev Io := EStateM Fault Terminal

/-- One operation on channel `c`: it ends in `fault` where the channel's next outcome is a
failure, and otherwise changes the terminal by `f`. -/
def Io.op (c : Channel) (fault : Fault) (f : Terminal → Terminal) : Io Unit := fun t =>
  match t.next c with
  | (true, t) => .error fault t
  | (false, t) => .ok () (f t)

/-- Rust's `.ok()`: an error becomes `none`; a panic is not caught. -/
def Io.ok {α : Type} (x : Io α) : Io (Option α) := fun t =>
  match x t with
  | .ok a t => .ok (some a) t
  | .error .error t => .ok none t
  | .error .panic t => .error .panic t

/-- The UTF-8 bytes of a line of text. -/
def lineBytes (s : String) : List UInt8 := (s ++ "\n").toUTF8.data.toList

/-- `write_all` on a stream. -/
def writeAll (c : Channel) (bytes : List UInt8) : Io Unit := Io.op c .error (·.emit c bytes)

/-- `flush` on a stream. -/
def flush (c : Channel) : Io Unit := Io.op c .error id

/-- `println!`, which panics where the write fails. -/
def println (s : String) : Io Unit := Io.op .stdout .panic (·.emit .stdout (lineBytes s))

/-- `eprintln!`, which panics where the write fails. -/
def eprintln (s : String) : Io Unit := Io.op .stderr .panic (·.emit .stderr (lineBytes s))

/-- `crossterm::terminal::enable_raw_mode`. -/
def enableRawMode : Io Unit := Io.op .tty .error fun t => { t with raw := true }

/-- `crossterm::terminal::disable_raw_mode`, which fails as `enable_raw_mode` does, leaving the
terminal in raw mode. -/
def disableRawMode : Io Unit := Io.op .tty .error fun t => { t with raw := false }

/-! ## Printing an outcome -/

/-- The first `match` of `print_effects`: the job's standard output. -/
def printStdout (cjid : Option ClientJobId) : JobOutputResult → Io Unit
  | .none => pure ()
  | .inline bytes => writeAll .stdout bytes
  | .truncated first truncated => do
    writeAll .stdout first
    flush .stdout
    match cjid with
    | some cjid => eprintln s!"job {cjid}: stdout truncated, {truncated} bytes lost"
    | none => eprintln s!"stdout truncated, {truncated} bytes lost"

/-- The second `match` of `print_effects`: the job's standard error. Unlike standard output, it
is not flushed. -/
def printStderr (cjid : Option ClientJobId) : JobOutputResult → Io Unit
  | .none => pure ()
  | .inline bytes => writeAll .stderr bytes
  | .truncated first truncated => do
    writeAll .stderr first
    match cjid with
    | some cjid => eprintln s!"job {cjid}: stderr truncated, {truncated} bytes lost"
    | none => eprintln s!"stderr truncated, {truncated} bytes lost"

/-- `print_effects`. -/
def printEffects (cjid : Option ClientJobId) (effects : JobEffects) : Io Unit := do
  printStdout cjid effects.stdout
  printStderr cjid effects.stderr

/-- How `mimic_child_death` ends the process. -/
inductive ChildDeath
  /-- Returning the exit code. -/
  | exit (code : ExitCode)
  /-- `raise(signo)`, then `raise(SIGKILL)`: the process dies by `signo` where raising it ends
  the process, and by `SIGKILL` where the process ignores `signo` or handles it and returns, as
  the Rust runtime does for `SIGPIPE`, `SIGSEGV` and `SIGBUS`. -/
  | raised (signo : UInt8)
  deriving DecidableEq

/-- `mimic_child_death`. -/
def mimicChildDeath : JobOutcomeResult → Io ChildDeath
  | .ok (.completed ⟨status, effects⟩) => do
    printEffects none effects
    match status with
    | .exited code => pure (.exit ⟨code⟩)
    | .signaled signo => pure (.raised signo)
  | .ok (.timedOut effects) => do
    printEffects none effects
    flush .stdout
    eprintln "timed out"
    pure (.exit .FAILURE)
  | .error (.execution err) => do
    eprintln s!"execution error: {err}"
    pure (.exit .FAILURE)
  | .error (.system err) => do
    eprintln s!"system error: {err}"
    pure (.exit .FAILURE)

end Maelstrom.Run
