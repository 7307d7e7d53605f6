import Maelstrom.Run.Steps
import Mathlib.Data.List.Nodup
import Mathlib.Algebra.Order.BigOperators.Group.List
import Mathlib.Algebra.Order.Ring.Nat

/-!
# The artifact fetcher of the worker

When the dispatcher needs an artifact that is not in its cache it calls
`start_artifact_fetch`. The fetcher's `main` makes a temporary file for it, then spawns a
thread that takes a permit of a semaphore of `MAX_ARTIFACT_FETCHES` permits, downloads the
artifact into the file (`fetcher::main`), sends `ArtifactFetchCompleted` to the dispatcher,
and drops the permit. Where the temporary file cannot be made, the error is sent at once,
and no thread is spawned.

The calls and the threads are one transition system, `FetcherState.step`, taken over every
interleaving of the threads.

* `FetchInv`: the semaphore's count and the permits held add up to `MAX_ARTIFACT_FETCHES`;
  the digests of the calls are, as a multiset, those of the messages sent and of the threads
  that have not sent theirs; each temporary file is held by one thread or handed over in one
  message.
* `holders_le`: at most `MAX_ARTIFACT_FETCHES` downloads run at once.
* `exists_threadStep` and `length_add_work`: the threads never deadlock, and take at most
  `work` steps; so `fetches_reported`: every schedule of the threads that cannot go on has
  sent one `ArtifactFetchCompleted` for each call made, and no other, and has every permit
  back.
-/

namespace Maelstrom.Worker

open Maelstrom.Run (Steps run steps_of_run)

/-- `artifact_fetcher::MAX_ARTIFACT_FETCHES`. -/
def ArtifactFetcher.maxArtifactFetches : Nat := 10

/-- `Sha256Digest`. -/
structure Sha256Digest where
  val : Nat
  deriving DecidableEq

/-- A temporary file of the `TempFileFactory`, by its path. -/
structure TempFile where
  path : Nat
  deriving DecidableEq

/-- `GotArtifact`, as the fetcher builds it. -/
inductive GotArtifact
  | file (source : TempFile)

/-- The dispatcher's `Message`, as the fetcher sends it. -/
inductive Message
  | artifactFetchCompleted (digest : Sha256Digest) (result : Except String GotArtifact)

namespace Message

/-- The digest a message reports on. -/
def digest : Message → Sha256Digest
  | .artifactFetchCompleted digest _ => digest

/-- The temporary file a message hands over to the dispatcher. -/
def tempFile? : Message → Option TempFile
  | .artifactFetchCompleted _ (.ok (.file source)) => some source
  | _ => none

end Message

/-- A fetch thread, by where it is in its closure. -/
inductive FetchThread
  /-- Spawned, and blocked in `semaphore.access()`. -/
  | waiting (digest : Sha256Digest) (tempFile : TempFile)
  /-- Holds a permit, in `fetcher::main`. -/
  | fetching (digest : Sha256Digest) (tempFile : TempFile)
  /-- Has sent its message; `_permit` is not dropped yet. -/
  | sent
  /-- Has dropped its permit and ended. -/
  | done
  deriving DecidableEq

namespace FetchThread

/-- The thread holds a permit of the semaphore. -/
def holdsPermit : FetchThread → Bool
  | .fetching .. | .sent => true
  | _ => false

/-- The digest of a thread that has not sent its message. -/
def pending? : FetchThread → Option Sha256Digest
  | .waiting digest _ | .fetching digest _ => some digest
  | _ => none

/-- The temporary file a thread holds. -/
def tempFile? : FetchThread → Option TempFile
  | .waiting _ tempFile | .fetching _ tempFile => some tempFile
  | _ => none

/-- The steps the thread has left. -/
def work : FetchThread → Nat
  | .waiting .. => 3
  | .fetching .. => 2
  | .sent => 1
  | .done => 0

end FetchThread

/-- The fetcher, its threads, and the dispatcher's channel as far as the fetcher writes it.
`started` records the digests of the calls of `start_artifact_fetch`, in order; nothing of the
fetcher reads it. -/
structure FetcherState where
  /-- The semaphore's count. -/
  permits : Nat
  threads : List FetchThread
  /-- The temporary files made so far have paths below `nextTempFile`. -/
  nextTempFile : Nat
  /-- The messages sent to the dispatcher, in order. -/
  sent : List Message
  started : List Sha256Digest

/-- What happens next: a call of `start_artifact_fetch`, with what the temporary file factory
returns, or a step of thread `i`: it gets a permit, `fetcher::main` returns `result` and the
message is sent, or it drops its permit. -/
inductive FetchEvent
  | start (digest : Sha256Digest) (tempFile : Except String Unit)
  | access (i : Nat)
  | fetched (i : Nat) (result : Except String Unit)
  | release (i : Nat)

/-- A step of one of the threads. -/
def FetchEvent.isThreadStep : FetchEvent → Bool
  | .start .. => false
  | _ => true

namespace FetcherState

/-- `ArtifactFetcher::new`: every permit free, and no thread. -/
def init : FetcherState := ⟨ArtifactFetcher.maxArtifactFetches, [], 0, [], []⟩

/-- `main`, for a call of `start_artifact_fetch` on `digest`. -/
def startArtifactFetch (s : FetcherState) (digest : Sha256Digest) :
    Except String Unit → FetcherState
  | .error err =>
    { s with
      sent := s.sent ++ [.artifactFetchCompleted digest (.error err)]
      started := s.started ++ [digest] }
  | .ok () =>
    { s with
      threads := s.threads ++ [.waiting digest ⟨s.nextTempFile⟩]
      nextTempFile := s.nextTempFile + 1
      started := s.started ++ [digest] }

/-- One step of the fetcher, where it can happen. -/
def step (s : FetcherState) : FetchEvent → Option FetcherState
  | .start digest tempFile => some (s.startArtifactFetch digest tempFile)
  | .access i =>
    match s.threads[i]? with
    | some (.waiting digest tempFile) =>
      if 0 < s.permits then
        some { s with
          permits := s.permits - 1
          threads := s.threads.set i (.fetching digest tempFile) }
      else none
    | _ => none
  | .fetched i result =>
    match s.threads[i]? with
    | some (.fetching digest tempFile) =>
      some { s with
        threads := s.threads.set i .sent
        sent := s.sent ++ [.artifactFetchCompleted digest (result.map fun _ => .file tempFile)] }
    | _ => none
  | .release i =>
    match s.threads[i]? with
    | some .sent => some { s with permits := s.permits + 1, threads := s.threads.set i .done }
    | _ => none

/-- The states the fetcher can reach. -/
def Reachable (s : FetcherState) : Prop := Steps step init s

/-- The permits held. -/
def holders (s : FetcherState) : Nat := s.threads.countP FetchThread.holdsPermit

/-- The digests of the threads that have not sent their message. -/
def pending (s : FetcherState) : List Sha256Digest := s.threads.filterMap FetchThread.pending?

/-- The temporary files held by a thread or handed over in a message. -/
def owned (s : FetcherState) : List TempFile :=
  s.threads.filterMap FetchThread.tempFile? ++ s.sent.filterMap Message.tempFile?

/-- The steps the threads have left. -/
def work (s : FetcherState) : Nat := (s.threads.map FetchThread.work).sum

/-! ## What a step does -/

variable {s s' : FetcherState} {i : Nat}

theorem step_access (h : s.step (.access i) = some s') :
    ∃ digest tempFile, s.threads[i]? = some (.waiting digest tempFile) ∧ 0 < s.permits ∧
      s' = { s with
        permits := s.permits - 1
        threads := s.threads.set i (.fetching digest tempFile) } := by
  simp only [step] at h
  split at h
  · split at h
    · cases h; exact ⟨_, _, ‹_›, ‹_›, rfl⟩
    · cases h
  · cases h

theorem step_fetched {result : Except String Unit} (h : s.step (.fetched i result) = some s') :
    ∃ digest tempFile, s.threads[i]? = some (.fetching digest tempFile) ∧
      s' = { s with
        threads := s.threads.set i .sent
        sent := s.sent ++
          [.artifactFetchCompleted digest (result.map fun _ => .file tempFile)] } := by
  simp only [step] at h
  split at h
  · cases h; exact ⟨_, _, ‹_›, rfl⟩
  · cases h

theorem step_release (h : s.step (.release i) = some s') :
    s.threads[i]? = some .sent ∧
      s' = { s with permits := s.permits + 1, threads := s.threads.set i .done } := by
  simp only [step] at h
  split at h
  · cases h; exact ⟨‹_›, rfl⟩
  · cases h

end FetcherState

/-! ## Replacing one thread -/

section Set

variable {α β : Type} {l : List α} {i : Nat} {a b : α}

theorem filterMap_set_of_eq (f : α → Option β) (h : l[i]? = some a) (hf : f b = f a) :
    (l.set i b).filterMap f = l.filterMap f := by
  induction l generalizing i with
  | nil => cases h
  | cons x l ih =>
    cases i with
    | zero =>
      simp only [List.getElem?_cons_zero, Option.some.injEq] at h
      subst h; simp [List.filterMap_cons, hf]
    | succ i => simp [List.filterMap_cons, ih (i := i) (by simpa using h)]

theorem filterMap_set_perm (f : α → Option β) (h : l[i]? = some a) {y : β} (ha : f a = some y)
    (hb : f b = none) : (l.filterMap f).Perm (y :: (l.set i b).filterMap f) := by
  induction l generalizing i with
  | nil => cases h
  | cons x l ih =>
    cases i with
    | zero =>
      simp only [List.getElem?_cons_zero, Option.some.injEq] at h
      subst h; simp [List.filterMap_cons, ha, hb]
    | succ i =>
      simp only [List.getElem?_cons_succ] at h
      simp only [List.set_cons_succ, List.filterMap_cons]
      cases f x with
      | none => exact ih h
      | some z => exact ((ih h).cons z).trans (.swap y z _)

theorem sum_map_set_add (f : α → Nat) (h : l[i]? = some a) :
    ((l.set i b).map f).sum + f a = (l.map f).sum + f b := by
  induction l generalizing i with
  | nil => cases h
  | cons x l ih =>
    cases i with
    | zero =>
      simp only [List.getElem?_cons_zero, Option.some.injEq] at h
      subst h; simp only [List.set_cons_zero, List.map_cons, List.sum_cons]; omega
    | succ i =>
      have := ih (i := i) (by simpa using h)
      simp only [List.set_cons_succ, List.map_cons, List.sum_cons]; omega

theorem countP_set_add (p : α → Bool) (h : l[i]? = some a) :
    (l.set i b).countP p + (if p a then 1 else 0) = l.countP p + (if p b then 1 else 0) := by
  obtain ⟨hi, rfl⟩ := List.getElem?_eq_some_iff.1 h
  have := List.boole_getElem_le_countP p l i hi
  rw [List.countP_set p l i b hi]
  omega

end Set

/-! ## The invariant -/

namespace FetcherState

/-- What holds of every reachable state (module doc). -/
structure FetchInv (s : FetcherState) : Prop where
  permits_add_holders : s.permits + s.holders = ArtifactFetcher.maxArtifactFetches
  started_perm : s.started.Perm (s.sent.map Message.digest ++ s.pending)
  owned_nodup : s.owned.Nodup
  owned_lt : ∀ f ∈ s.owned, f.path < s.nextTempFile

theorem fetchInv_init : FetchInv init :=
  ⟨rfl, .nil, List.nodup_nil, fun _ h => by cases h⟩

variable {s s' : FetcherState}

theorem FetchInv.start (hi : FetchInv s) (digest : Sha256Digest) (tempFile : Except String Unit) :
    FetchInv (s.startArtifactFetch digest tempFile) := by
  obtain ⟨hp, hs, hn, hl⟩ := hi
  cases tempFile with
  | error err =>
    have hown : (s.startArtifactFetch digest (.error err)).owned = s.owned := by
      simp only [owned, startArtifactFetch, List.filterMap_append, Message.tempFile?,
        List.filterMap_cons_none, List.filterMap_nil, List.append_nil]
    refine ⟨hp, ?_, hown ▸ hn, hown ▸ hl⟩
    simp only [startArtifactFetch, pending, List.map_append, List.map_cons, List.map_nil,
      Message.digest, List.append_assoc, List.singleton_append]
    exact (hs.append_right [digest]).trans (by
      rw [List.append_assoc]; exact (List.perm_append_singleton _ _).append_left _)
  | ok u =>
    have hfresh : (⟨s.nextTempFile⟩ : TempFile) ∉ s.owned := fun hm => (hl _ hm).false
    have hperm :
        (startArtifactFetch s digest (.ok u)).owned.Perm (⟨s.nextTempFile⟩ :: s.owned) := by
      simp only [owned, startArtifactFetch, List.filterMap_append, FetchThread.tempFile?,
        Option.some.injEq, List.filterMap_cons_some, List.filterMap_nil, List.append_assoc,
        List.singleton_append, List.perm_middle]
    refine ⟨by simpa only [startArtifactFetch, holders, List.countP_append,
        FetchThread.holdsPermit, Bool.false_eq_true, not_false_eq_true, List.countP_cons_of_neg,
        List.countP_nil, add_zero] using hp,
      by simpa only [startArtifactFetch, pending, List.filterMap_append, FetchThread.pending?,
        Option.some.injEq, List.filterMap_cons_some, List.filterMap_nil, List.append_assoc] using
        hs.append_right [digest],
      hperm.nodup_iff.2 (List.nodup_cons.2 ⟨hfresh, hn⟩), fun f hf => ?_⟩
    rcases List.mem_cons.1 (hperm.subset hf) with rfl | hf
    · exact Nat.lt_succ_self _
    · exact Nat.lt_succ_of_lt (hl f hf)

theorem FetchInv.access (hi : FetchInv s) (h : s.step (.access i) = some s') : FetchInv s' := by
  obtain ⟨digest, tempFile, ht, hpos, rfl⟩ := step_access h
  have hc := countP_set_add FetchThread.holdsPermit (b := FetchThread.fetching digest tempFile) ht
  have hpend :=
    filterMap_set_of_eq FetchThread.pending? (b := FetchThread.fetching digest tempFile) ht rfl
  have hown :=
    filterMap_set_of_eq FetchThread.tempFile? (b := FetchThread.fetching digest tempFile) ht rfl
  obtain ⟨hp, hs, hn, hl⟩ := hi
  simp only [FetchThread.holdsPermit, Bool.false_eq_true, ↓reduceIte, add_zero] at hc
  exact ⟨by simp only [holders] at hp ⊢; omega, by simpa only [pending, hpend] using hs,
    by simpa only [owned, hown] using hn, by simpa only [owned, hown] using hl⟩

/-- The temporary files of `t` are among those of `s`. -/
theorem FetchInv.owned_of_perm (hi : FetchInv s) (t : FetcherState) (extra : List TempFile)
    (h : s.owned.Perm (extra ++ t.owned)) (hnext : t.nextTempFile = s.nextTempFile) :
    t.owned.Nodup ∧ ∀ f ∈ t.owned, f.path < t.nextTempFile :=
  ⟨(List.nodup_append.1 (h.nodup_iff.1 hi.owned_nodup)).2.1,
    fun f hf => hnext ▸ hi.owned_lt f (h.symm.subset (List.mem_append_right extra hf))⟩

theorem FetchInv.fetched {result : Except String Unit} (hi : FetchInv s)
    (h : s.step (.fetched i result) = some s') : FetchInv s' := by
  obtain ⟨digest, tempFile, ht, hs'⟩ := step_fetched h
  have hc := countP_set_add FetchThread.holdsPermit (b := FetchThread.sent) ht
  have hpend := filterMap_set_perm FetchThread.pending? (b := FetchThread.sent) ht rfl rfl
  have hold : s.owned.Perm (tempFile :: ((s.threads.set i .sent).filterMap FetchThread.tempFile? ++
      s.sent.filterMap Message.tempFile?)) :=
    (filterMap_set_perm FetchThread.tempFile? (b := FetchThread.sent) ht rfl rfl).append_right _
  have hown : s.owned.Perm ((if result matches .ok _ then [] else [tempFile]) ++ s'.owned) := by
    subst hs'
    cases result with
    | error err => simpa [owned, Message.tempFile?, Except.map] using hold
    | ok u =>
      simpa [owned, Message.tempFile?] using hold.trans (List.perm_append_singleton _ _).symm
  obtain ⟨hn, hl⟩ := hi.owned_of_perm s' _ hown (by rw [hs'])
  subst hs'
  simp [FetchThread.holdsPermit] at hc
  refine ⟨by have := hi.permits_add_holders; simp only [holders] at this ⊢; omega, ?_, hn, hl⟩
  simpa [pending, Message.digest] using hi.started_perm.trans (hpend.append_left _)

theorem FetchInv.release (hi : FetchInv s) (h : s.step (.release i) = some s') : FetchInv s' := by
  obtain ⟨ht, rfl⟩ := step_release h
  have hc := countP_set_add FetchThread.holdsPermit (b := FetchThread.done) ht
  have hpend := filterMap_set_of_eq FetchThread.pending? (b := FetchThread.done) ht rfl
  have hown := filterMap_set_of_eq FetchThread.tempFile? (b := FetchThread.done) ht rfl
  obtain ⟨hp, hs, hn, hl⟩ := hi
  simp only [FetchThread.holdsPermit, ↓reduceIte, Bool.false_eq_true, add_zero] at hc
  exact ⟨by simp only [holders] at hp ⊢; omega, by simpa only [pending, hpend] using hs,
    by simpa only [owned, hown] using hn, by simpa only [owned, hown] using hl⟩

theorem FetchInv.step {e : FetchEvent} (hi : FetchInv s) (h : s.step e = some s') :
    FetchInv s' := by
  cases e with
  | start digest tempFile => cases h; exact hi.start digest tempFile
  | access i => exact hi.access h
  | fetched i result => exact hi.fetched h
  | release i => exact hi.release h

theorem Reachable.fetchInv (h : Reachable s) : FetchInv s :=
  h.preserves (fun _ _ _ hi hs => hi.step hs) fetchInv_init

/-- **At most `MAX_ARTIFACT_FETCHES` downloads run at once.** In every state the fetcher can
reach, whatever the calls and however the threads interleave, the threads past
`semaphore.access()` that have not dropped their permit number at most
`MAX_ARTIFACT_FETCHES`. -/
theorem holders_le (h : Reachable s) : s.holders ≤ ArtifactFetcher.maxArtifactFetches :=
  h.fetchInv.permits_add_holders ▸ Nat.le_add_left _ _

/-- One call, whose thread has taken a permit. -/
def oneFetching : FetcherState := ⟨9, [.fetching ⟨0⟩ ⟨0⟩], 1, [], [⟨0⟩]⟩

theorem holders_le_oneFetching :
    Reachable oneFetching ∧ oneFetching.holders ≤ ArtifactFetcher.maxArtifactFetches :=
  have h : Reachable oneFetching :=
    steps_of_run
      (show run step init [.start ⟨0⟩ (.ok ()), .access 0] = some oneFetching from rfl)
  ⟨h, holders_le h⟩

/-- **A temporary file has one owner.** In every reachable state, the temporary files held by
the threads and those handed to the dispatcher in `GotArtifact::File` are pairwise distinct:
no file is handed over twice, or handed over while a thread still writes to it. -/
theorem owned_nodup (h : Reachable s) : s.owned.Nodup :=
  h.fetchInv.owned_nodup

/-- Two calls: the first has sent its file, the second waits for a permit. -/
def oneSent : FetcherState :=
  ⟨9, [.sent, .waiting ⟨1⟩ ⟨1⟩], 2, [.artifactFetchCompleted ⟨0⟩ (.ok (.file ⟨0⟩))],
    [⟨0⟩, ⟨1⟩]⟩

theorem oneSent_reachable : Reachable oneSent :=
  steps_of_run (show run step init [.start ⟨0⟩ (.ok ()), .start ⟨1⟩ (.ok ()), .access 0,
    .fetched 0 (.ok ())] = some oneSent from rfl)

theorem owned_nodup_oneSent : Reachable oneSent ∧ oneSent.owned.Nodup :=
  ⟨oneSent_reachable, owned_nodup oneSent_reachable⟩

/-! ## The threads run to the end -/

variable {e : FetchEvent}

theorem work_step (h : s.step e = some s') (he : e.isThreadStep) : s'.work + 1 = s.work := by
  cases e with
  | start => cases he
  | access i =>
    obtain ⟨digest, tempFile, ht, -, rfl⟩ := step_access h
    have := sum_map_set_add FetchThread.work (b := FetchThread.fetching digest tempFile) ht
    simp only [work, FetchThread.work] at this ⊢; omega
  | fetched i result =>
    obtain ⟨digest, tempFile, ht, rfl⟩ := step_fetched h
    have := sum_map_set_add FetchThread.work (b := FetchThread.sent) ht
    simp only [work, FetchThread.work] at this ⊢; omega
  | release i =>
    obtain ⟨ht, rfl⟩ := step_release h
    have := sum_map_set_add FetchThread.work (b := FetchThread.done) ht
    simp only [work, FetchThread.work] at this ⊢; omega

theorem started_step (h : s.step e = some s') (he : e.isThreadStep) : s'.started = s.started := by
  cases e with
  | start => cases he
  | access i => obtain ⟨_, _, _, _, rfl⟩ := step_access h; rfl
  | fetched i result => obtain ⟨_, _, _, rfl⟩ := step_fetched h; rfl
  | release i => obtain ⟨_, rfl⟩ := step_release h; rfl

/-- Where no thread has steps left, every thread has ended. -/
theorem eq_done_of_work (hw : s.work = 0) {t : FetchThread} (ht : t ∈ s.threads) : t = .done := by
  have : t.work = 0 :=
    (List.sum_eq_zero_iff (l := s.threads.map FetchThread.work)).1 hw _ (List.mem_map_of_mem _ ht)
  cases t <;> simp_all [FetchThread.work]

theorem pending_eq_nil (hw : s.work = 0) : s.pending = [] :=
  List.filterMap_eq_nil_iff.2 fun _ ht => by rw [eq_done_of_work hw ht]; rfl

theorem holders_eq_zero (hw : s.work = 0) : s.holders = 0 :=
  List.countP_eq_zero.2 fun _ ht => by rw [eq_done_of_work hw ht]; nofun

/-- **No deadlock.** Where a thread has steps left, one of the threads can take a step: one
that holds a permit goes on, and where none holds one every permit is free. -/
theorem exists_threadStep (hi : FetchInv s) (hw : 0 < s.work) :
    ∃ e s', e.isThreadStep ∧ s.step e = some s' := by
  by_cases hh : ∃ t ∈ s.threads, t.holdsPermit
  · obtain ⟨t, ht, hp⟩ := hh
    obtain ⟨i, hi⟩ := List.mem_iff_getElem?.1 ht
    cases t with
    | fetching digest tempFile =>
      exact ⟨.fetched i (.ok ()), _, rfl, by simp only [step, hi]; rfl⟩
    | sent => exact ⟨.release i, _, rfl, by simp only [step, hi]; rfl⟩
    | waiting | done => cases hp
  · have hfree : 0 < s.permits := by
      have h0 : s.holders = 0 := List.countP_eq_zero.2 fun t ht hp => hh ⟨t, ht, hp⟩
      have := hi.permits_add_holders
      simp only [ArtifactFetcher.maxArtifactFetches] at this; omega
    obtain ⟨t, ht, hpos⟩ : ∃ t ∈ s.threads, 0 < t.work := by
      by_contra hc
      push_neg at hc
      exact hw.ne' ((List.sum_eq_zero_iff (l := s.threads.map FetchThread.work)).2 fun n hn => by
          obtain ⟨t, ht, rfl⟩ := List.mem_map.1 hn
          exact Nat.le_zero.1 (hc t ht))
    obtain ⟨i, hi⟩ := List.mem_iff_getElem?.1 ht
    cases t with
    | waiting digest tempFile =>
      exact ⟨.access i, _, rfl, by simp only [step, hi, hfree, if_true]; rfl⟩
    | fetching | sent => exact absurd ⟨_, ht, rfl⟩ hh
    | done => cases hpos

/-- A schedule of the threads takes one step off `work` each, and makes no call. -/
theorem length_add_work {es : List FetchEvent} (h : run step s es = some s')
    (hes : ∀ e ∈ es, e.isThreadStep) :
    es.length + s'.work = s.work ∧ s'.started = s.started := by
  induction es generalizing s with
  | nil => cases h; exact ⟨Nat.zero_add _, rfl⟩
  | cons e es ih =>
    obtain ⟨s₁, h₁, h₂⟩ := Option.bind_eq_some.1 h
    have he := hes e (List.mem_cons_self _ _)
    obtain ⟨hlen, hst⟩ := ih h₂ fun e' he' => hes e' (List.mem_cons_of_mem _ he')
    have := work_step h₁ he
    exact ⟨by simp only [List.length_cons]; omega, hst.trans (started_step h₁ he)⟩

/-- **Every fetch is reported once.** From any reachable state, every schedule of the threads
is finite (at most `work` steps), and one that cannot go on has sent exactly one
`ArtifactFetchCompleted` for each call of `start_artifact_fetch` made so far (the digests of
the calls and of the messages are the same multiset), and every permit is back. -/
theorem fetches_reported (h : Reachable s) {es : List FetchEvent} (hrun : run step s es = some s')
    (hes : ∀ e ∈ es, e.isThreadStep) (hstop : ∀ e, e.isThreadStep → s'.step e = none) :
    es.length ≤ s.work ∧ s.started.Perm (s'.sent.map Message.digest) ∧
      s'.permits = ArtifactFetcher.maxArtifactFetches := by
  have hi' : FetchInv s' := Reachable.fetchInv (h.trans (steps_of_run hrun))
  obtain ⟨hlen, hst⟩ := length_add_work hrun hes
  have hw : s'.work = 0 := by
    by_contra hw
    obtain ⟨e, s'', he, hs⟩ := exists_threadStep hi' (Nat.pos_of_ne_zero hw)
    rw [hstop e he] at hs
    cases hs
  refine ⟨by omega, by simpa [hst, pending_eq_nil hw] using hi'.started_perm, ?_⟩
  simpa [holders_eq_zero hw] using hi'.permits_add_holders

/-- `oneSent` after its threads have run to the end, the second download failing. -/
def bothReported : FetcherState :=
  ⟨10, [.done, .done], 2, [.artifactFetchCompleted ⟨0⟩ (.ok (.file ⟨0⟩)),
    .artifactFetchCompleted ⟨1⟩ (.error "connection refused")], [⟨0⟩, ⟨1⟩]⟩

theorem fetches_reported_oneSent :
    Reachable oneSent ∧
    run step oneSent [.release 0, .access 1, .fetched 1 (.error "connection refused"), .release 1] =
      some bothReported ∧
    (∀ e ∈ [FetchEvent.release 0, .access 1, .fetched 1 (.error "connection refused"), .release 1],
      e.isThreadStep) ∧
    (∀ e, e.isThreadStep → bothReported.step e = none) ∧
    [FetchEvent.release 0, .access 1, .fetched 1 (.error "connection refused"), .release 1].length ≤
      oneSent.work ∧ oneSent.started.Perm (bothReported.sent.map Message.digest) ∧
      bothReported.permits = ArtifactFetcher.maxArtifactFetches := by
  have hrun : run step oneSent [.release 0, .access 1, .fetched 1 (.error "connection refused"),
      .release 1] = some bothReported := rfl
  have hes : ∀ e ∈ [FetchEvent.release 0, .access 1, .fetched 1 (.error "connection refused"),
      .release 1], e.isThreadStep := by decide
  have hstop : ∀ e, e.isThreadStep → bothReported.step e = none := by
    intro e he
    cases e with
    | start => cases he
    | access i | fetched i _ | release i => rcases i with _ | _ | i <;> rfl
  exact ⟨oneSent_reachable, hrun, hes, hstop,
    fetches_reported oneSent_reachable hrun hes hstop⟩

end FetcherState

end Maelstrom.Worker
