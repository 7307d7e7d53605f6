import Mathlib.Algebra.Order.Group.Nat

/-!
# The open file limit of the worker

Before it connects to the broker, the worker's `main_inner` calls `check_open_file_limit`:
it estimates, by `open_file_max`, how many files the worker may hold open for its number of
slots, and stops with an error where the process's soft limit on open files is below that.
The error tells the user which limit to set, rounded up by `round_to_multiple` to a multiple
of 1024. All of it is `u64` arithmetic, modelled on `Nat` modulo `2 ^ 64` as a release build
wraps it.

* `roundToMultiple_spec`: where it does not wrap, `round_to_multiple n k` is the least multiple
  of `k` not below `n`.
* `checkOpenFileLimit_spec`: where the estimate and its rounding up do not wrap, the check
  passes exactly when the limit covers the estimate, and where it fails, the limit its message
  suggests is the least multiple of 1024 that covers the estimate, and with that limit the
  check passes.
-/

namespace Maelstrom.Worker

/-- `MAX_PENDING_LAYERS_BUILDS`. -/
def maxPendingLayersBuilds : Nat := 10

/-- `MAX_ARTIFACT_FETCHES` of the worker's `lib.rs`. -/
def maxArtifactFetches : Nat := 1

/-- `Slots`: the number of jobs the worker runs at once. -/
structure Slots where
  inner : UInt16

/-- The constants of other crates that `open_file_max` reads: `maelstrom_fuse::MAX_PENDING`,
`maelstrom_layer_fs::READER_CACHE_SIZE` and `maelstrom_layer_fs::LAYER_BUILDING_FILE_MAX`. -/
structure FileConstants where
  maxPending : Nat
  readerCacheSize : Nat
  layerBuildingFileMax : Nat

/-- `open_file_max`. Its sums and products are on `u64`, which a release build wraps modulo
`2 ^ 64`; `maelstrom_fuse::MAX_PENDING` and `MAX_ARTIFACT_FETCHES` are converted to it. -/
def openFileMax (c : FileConstants) (slots : Slots) : Nat :=
  let existingOpenFiles := 3
  let perSlotEstimate := 6 + c.maxPending
  (existingOpenFiles + c.readerCacheSize * 2 + maxArtifactFetches +
    perSlotEstimate * slots.inner.toNat + maxPendingLayersBuilds * c.layerBuildingFileMax) % 2 ^ 64

/-- `round_to_multiple`, on `u64`: the sum wraps modulo `2 ^ 64`. -/
def roundToMultiple (n k : Nat) : Nat :=
  if n % k = 0 then n else (n + (k - n % k)) % 2 ^ 64

/-- `check_open_file_limit`, given what `getrlimit` returns for `RLIMIT_NOFILE`: an error, or
the soft limit. `extra` and the estimate are `u64`s. -/
def checkOpenFileLimit (c : FileConstants) (getrlimit : Except String Nat) (slots : Slots)
    (extra : Nat) : Except String Unit := do
  let limit ← getrlimit
  let estimate := (openFileMax c slots + extra) % 2 ^ 64
  if limit < estimate then
    let estimate := roundToMultiple estimate 1024
    throw s!"Open file limit is too low. Increase limit by running `ulimit -n {estimate}`"
  pure ()

/-! ## Rounding up -/

/-- **`round_to_multiple` rounds up.** For `0 < k`, and where `n + k` fits in a `u64`,
`round_to_multiple n k` is a multiple of `k`, is not below `n`, and is below every other
multiple of `k` not below `n`. -/
theorem roundToMultiple_spec (n k : Nat) (hk : 0 < k) (hn : n + k ≤ 2 ^ 64) :
    k ∣ roundToMultiple n k ∧ n ≤ roundToMultiple n k ∧
      ∀ m, k ∣ m → n ≤ m → roundToMultiple n k ≤ m := by
  have hdiv := Nat.div_add_mod n k
  have hmod := Nat.mod_lt n hk
  have hfits : roundToMultiple n k = if n % k = 0 then n else n + (k - n % k) := by
    unfold roundToMultiple
    split
    · rfl
    · exact Nat.mod_eq_of_lt (by omega)
  have hdvd : k ∣ roundToMultiple n k := by
    rw [hfits]
    split
    · exact Nat.dvd_of_mod_eq_zero ‹_›
    · exact ⟨n / k + 1, by rw [Nat.mul_add, Nat.mul_one]; omega⟩
  have hlt : roundToMultiple n k < n + k := by rw [hfits]; split <;> omega
  refine ⟨hdvd, by rw [hfits]; split <;> omega, fun m hm hnm => ?_⟩
  by_contra hgt
  have hsub : k ≤ roundToMultiple n k - m :=
    Nat.le_of_dvd (by omega) (Nat.dvd_sub' hdvd hm)
  omega

/-! ## The check -/

theorem checkOpenFileLimit_ok (c : FileConstants) (slots : Slots) (extra limit : Nat) :
    checkOpenFileLimit c (.ok limit) slots extra =
      if limit < (openFileMax c slots + extra) % 2 ^ 64 then
        .error s!"Open file limit is too low. Increase limit by running `ulimit -n {roundToMultiple ((openFileMax c slots + extra) % 2 ^ 64) 1024}`"
      else .ok () := by
  by_cases h : limit < (openFileMax c slots + extra) % 2 ^ 64
  · simp only [checkOpenFileLimit, h, bind, Except.bind, if_true]
  · simp only [checkOpenFileLimit, h, bind, Except.bind, if_false]
    rfl

/-- **The advice of the check is the least limit that passes it.** Where the estimate
`open_file_max(slots) + extra` and its rounding up fit in a `u64`, the check fails with the soft
limit `limit` exactly when `limit` is below the estimate, and its message then asks for the
limit `round_to_multiple(estimate, 1024)`: the least multiple of 1024 that covers the
estimate, with which, as the soft limit, the check passes. -/
theorem checkOpenFileLimit_spec (c : FileConstants) (slots : Slots) (extra limit : Nat)
    (hfit : openFileMax c slots + extra ≤ 2 ^ 64 - 1024) :
    checkOpenFileLimit c (.ok limit) slots extra =
      (if limit < openFileMax c slots + extra then
        .error s!"Open file limit is too low. Increase limit by running `ulimit -n {roundToMultiple (openFileMax c slots + extra) 1024}`"
      else .ok ()) ∧
    1024 ∣ roundToMultiple (openFileMax c slots + extra) 1024 ∧
    openFileMax c slots + extra ≤ roundToMultiple (openFileMax c slots + extra) 1024 ∧
    (∀ m, 1024 ∣ m → openFileMax c slots + extra ≤ m →
      roundToMultiple (openFileMax c slots + extra) 1024 ≤ m) ∧
    checkOpenFileLimit c (.ok (roundToMultiple (openFileMax c slots + extra) 1024)) slots extra =
      .ok () := by
  have hmod : (openFileMax c slots + extra) % 2 ^ 64 = openFileMax c slots + extra :=
    Nat.mod_eq_of_lt (by omega)
  obtain ⟨hdvd, hle, hleast⟩ :=
    roundToMultiple_spec (openFileMax c slots + extra) 1024 (by omega) (by omega)
  exact ⟨by rw [checkOpenFileLimit_ok, hmod], hdvd, hle, hleast,
    by rw [checkOpenFileLimit_ok, hmod, if_neg (by omega)]⟩

theorem checkOpenFileLimit_spec_one_slot :
    openFileMax ⟨128, 8, 4⟩ ⟨1⟩ + 0 ≤ 2 ^ 64 - 1024 ∧
    checkOpenFileLimit ⟨128, 8, 4⟩ (.ok 100) ⟨1⟩ 0 =
      (if 100 < openFileMax ⟨128, 8, 4⟩ ⟨1⟩ + 0 then
        .error s!"Open file limit is too low. Increase limit by running `ulimit -n {roundToMultiple (openFileMax ⟨128, 8, 4⟩ ⟨1⟩ + 0) 1024}`"
      else .ok ()) ∧
    1024 ∣ roundToMultiple (openFileMax ⟨128, 8, 4⟩ ⟨1⟩ + 0) 1024 ∧
    openFileMax ⟨128, 8, 4⟩ ⟨1⟩ + 0 ≤ roundToMultiple (openFileMax ⟨128, 8, 4⟩ ⟨1⟩ + 0) 1024 ∧
    (∀ m, 1024 ∣ m → openFileMax ⟨128, 8, 4⟩ ⟨1⟩ + 0 ≤ m →
      roundToMultiple (openFileMax ⟨128, 8, 4⟩ ⟨1⟩ + 0) 1024 ≤ m) ∧
    checkOpenFileLimit ⟨128, 8, 4⟩ (.ok (roundToMultiple (openFileMax ⟨128, 8, 4⟩ ⟨1⟩ + 0) 1024))
      ⟨1⟩ 0 = .ok () :=
  have hfit : openFileMax ⟨128, 8, 4⟩ ⟨1⟩ + 0 ≤ 2 ^ 64 - 1024 := by decide
  ⟨hfit, checkOpenFileLimit_spec ⟨128, 8, 4⟩ ⟨1⟩ 0 100 hfit⟩

example : checkOpenFileLimit ⟨128, 8, 4⟩ (.ok 100) ⟨1⟩ 0 =
    .error "Open file limit is too low. Increase limit by running `ulimit -n 1024`" := rfl

end Maelstrom.Worker
