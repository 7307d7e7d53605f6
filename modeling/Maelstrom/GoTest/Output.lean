import Mathlib.Data.List.Basic

/-!
# `maelstrom-go-test`: reading a test's output

When a Go test fails, `go test` wraps the test's own output in lines of its own: `=== RUN` before
it, `--- FAIL:` and `FAIL` after it. `GoTestCollector::remove_fixture_output` strips them, and
`was_test_ignored` decides from the same lines whether the test was skipped.
`GoImportPath::short_name` names a package by its import path.

* `dropThroughFirst` and `takeBeforeLast` are the two cuts the three `remove_fixture_output_*`
  functions are made of, each at a marker line given by a predicate.
* `removeFixtureOutput_test`: where the lines hold the start marker, the test's output and
  then the last end marker, the result is exactly the test's output.
* `removeFixtureOutput_fuzz_example`: fuzz tests keep every line before the last `FAIL`, and
  examples the lines between their first `--- FAIL:` line and the last `FAIL`.
* `wasTestIgnored_iff`: a test was ignored exactly where its last non-empty line is `PASS` and
  the line just before it is its `--- SKIP:` line.
* `shortName_eq_none_iff`: `short_name` panics exactly on a one-component path that looks like
  a version suffix, such as `v2`.
-/

namespace Maelstrom.GoTest

/-! ## Searching lines -/

/-- `str::starts_with`. -/
def startsWith (s pre : String) : Bool := pre.data.isPrefixOf s.data

/-- `Iterator::rposition`: the index of the last element satisfying `p`. (`Iterator::position` is
`List.findIdx?`.) -/
def rposition {α : Type} (p : α → Bool) : List α → Option Nat
  | [] => none
  | a :: l =>
    match rposition p l with
    | some i => some (i + 1)
    | none => if p a then some 0 else none

section Search

variable {α : Type} {p : α → Bool}

theorem rposition_eq_none_iff {l : List α} : rposition p l = none ↔ ∀ y ∈ l, p y = false := by
  induction l with
  | nil => simp [rposition]
  | cons a l ih =>
    simp only [rposition]
    split
    · next j hj =>
      refine iff_of_false (by simp) fun h => ?_
      rw [ih.2 fun y hy => h y (List.mem_cons_of_mem a hy)] at hj
      cases hj
    · next hl =>
      cases ha : p a
      · simpa [ha] using ih.1 hl
      · simp [ha]

/-- `rposition` finds the last element satisfying `p`. -/
theorem rposition_append_cons (pre : List α) {x : α} {post : List α} (hx : p x = true)
    (hpost : ∀ y ∈ post, p y = false) : rposition p (pre ++ x :: post) = some pre.length := by
  induction pre with
  | nil => simp [rposition, rposition_eq_none_iff.2 hpost, hx]
  | cons a pre ih => simp [rposition, ih]

theorem rposition_eq_some {l : List α} {i : Nat} (h : rposition p l = some i) :
    ∃ pre x post, l = pre ++ x :: post ∧ pre.length = i ∧ p x = true ∧
      ∀ y ∈ post, p y = false := by
  induction l generalizing i with
  | nil => cases h
  | cons a l ih =>
    simp only [rposition] at h
    split at h
    · next j hj =>
      obtain ⟨pre, x, post, rfl, rfl, hx, hpost⟩ := ih hj
      cases h
      exact ⟨a :: pre, x, post, rfl, rfl, hx, hpost⟩
    · next hl =>
      split at h
      · cases h
        exact ⟨[], a, l, rfl, rfl, ‹_›, rposition_eq_none_iff.1 hl⟩
      · cases h

theorem findIdx?_append_cons (pre : List α) {x : α} (post : List α)
    (hpre : ∀ y ∈ pre, p y = false) (hx : p x = true) :
    (pre ++ x :: post).findIdx? p = some pre.length := by
  rw [List.findIdx?_append, List.findIdx?_eq_none_iff.2 hpre]
  simp [hx]

end Search

/-! ## Removing the fixture's lines -/

/-- The line `go test` prints as a case starts. -/
def runLine (caseStr : String) : String := s!"=== RUN   {caseStr}"

/-- How the line `go test` prints as a case fails starts. -/
def failPrefix (caseStr : String) : String := s!"--- FAIL: {caseStr} "

/-- The lines after the first one satisfying `p`, where there is one: a `position` and then
`lines[(pos + 1)..].to_vec()`. -/
def dropThroughFirst (p : String → Bool) (lines : List String) : List String :=
  match lines.findIdx? p with
  | some pos => lines.drop (pos + 1)
  | none => lines

/-- The lines before the last one satisfying `p`, where there is one: an `rposition` and then
`lines[..pos].to_vec()`. -/
def takeBeforeLast (p : String → Bool) (lines : List String) : List String :=
  match rposition p lines with
  | some pos => lines.take pos
  | none => lines

/-- `GoTestCollector::remove_fixture_output_test`. -/
def removeFixtureOutputTest (caseStr : String) (lines : List String) : List String :=
  takeBeforeLast (startsWith · (failPrefix caseStr))
    (dropThroughFirst (· == runLine caseStr) lines)

/-- `GoTestCollector::remove_fixture_output_fuzz`, which does not read the case's name. -/
def removeFixtureOutputFuzz (_caseStr : String) (lines : List String) : List String :=
  takeBeforeLast (· == "FAIL") lines

/-- `GoTestCollector::remove_fixture_output_example`. -/
def removeFixtureOutputExample (caseStr : String) (lines : List String) : List String :=
  takeBeforeLast (· == "FAIL") (dropThroughFirst (startsWith · (failPrefix caseStr)) lines)

/-- `GoTestCollector::remove_fixture_output`: fuzz tests and examples are framed differently. -/
def removeFixtureOutput (caseStr : String) (lines : List String) : List String :=
  if startsWith caseStr "Fuzz" then removeFixtureOutputFuzz caseStr lines
  else if startsWith caseStr "Example" then removeFixtureOutputExample caseStr lines
  else removeFixtureOutputTest caseStr lines

section Cuts

variable {p q : String → Bool}

theorem dropThroughFirst_append_cons {pre : List String} {x : String} (post : List String)
    (hpre : ∀ y ∈ pre, p y = false) (hx : p x = true) :
    dropThroughFirst p (pre ++ x :: post) = post := by
  simp [dropThroughFirst, findIdx?_append_cons pre post hpre hx]

theorem takeBeforeLast_append_cons (pre : List String) {x : String} {post : List String}
    (hx : p x = true) (hpost : ∀ y ∈ post, p y = false) :
    takeBeforeLast p (pre ++ x :: post) = pre := by
  simp [takeBeforeLast, rposition_append_cons pre hx hpost]

/-- Cutting through the first line satisfying `p` and before the last one satisfying `q` after
it leaves exactly the lines between the two. -/
theorem takeBeforeLast_dropThroughFirst {pre body post : List String} {x y : String}
    (hpre : ∀ z ∈ pre, p z = false) (hx : p x = true) (hy : q y = true)
    (hpost : ∀ z ∈ post, q z = false) :
    takeBeforeLast q (dropThroughFirst p (pre ++ x :: (body ++ y :: post))) = body := by
  rw [dropThroughFirst_append_cons _ hpre hx, takeBeforeLast_append_cons _ hy hpost]

end Cuts

/-- **A failed test's own output is kept whole.** For a test that is neither a fuzz test nor an
example, where the lines hold `=== RUN` for the case (its first such line), the test's output,
and its last `--- FAIL:` line, `remove_fixture_output` returns exactly the test's output. -/
theorem removeFixtureOutput_test {caseStr : String} (hfuzz : startsWith caseStr "Fuzz" = false)
    (hexample : startsWith caseStr "Example" = false) {pre body post : List String} {fail : String}
    (hpre : ∀ z ∈ pre, (z == runLine caseStr) = false)
    (hfail : startsWith fail (failPrefix caseStr) = true)
    (hpost : ∀ z ∈ post, startsWith z (failPrefix caseStr) = false) :
    removeFixtureOutput caseStr (pre ++ runLine caseStr :: (body ++ fail :: post)) = body := by
  simp only [removeFixtureOutput, hfuzz, hexample, Bool.false_eq_true, if_false]
  exact takeBeforeLast_dropThroughFirst hpre (beq_self_eq_true _) hfail hpost

/-- The source's test `remove_fixture_output_multiple_matching_lines`: the case's first `=== RUN`
line and its last `--- FAIL:` line are the ones cut. -/
theorem removeFixtureOutput_test_multipleMatchingLines :
    startsWith "TestAdd" "Fuzz" = false ∧ startsWith "TestAdd" "Example" = false ∧
    (∀ z ∈ ([] : List String), (z == runLine "TestAdd") = false) ∧
    startsWith "--- FAIL: TestAdd (0.00s)" (failPrefix "TestAdd") = true ∧
    (∀ z ∈ ["FAIL", ""], startsWith z (failPrefix "TestAdd") = false) ∧
    removeFixtureOutput "TestAdd" ([] ++ runLine "TestAdd" :: ([runLine "TestAdd", "test output",
      "    foo_test.go:9: 1 + 2 != 3", "--- FAIL: TestAdd (0.00s)"] ++
        "--- FAIL: TestAdd (0.00s)" :: ["FAIL", ""])) =
      [runLine "TestAdd", "test output", "    foo_test.go:9: 1 + 2 != 3",
        "--- FAIL: TestAdd (0.00s)"] :=
  ⟨by decide, by decide, by decide, by decide, by decide,
    removeFixtureOutput_test (by decide) (by decide) (by decide) (by decide) (by decide)⟩

/-- **Fuzz tests and examples keep what comes before `FAIL`.** Where the lines end with a last
`FAIL` line, `remove_fixture_output` keeps, for a fuzz test, every line before it, the case's
`=== RUN` and `--- FAIL:` lines included; and for an example, the lines after its first
`--- FAIL:` line and before that `FAIL` line. -/
theorem removeFixtureOutput_fuzz_example {body post : List String}
    (hpost : ∀ z ∈ post, (z == "FAIL") = false) :
    (∀ caseStr, startsWith caseStr "Fuzz" = true →
      removeFixtureOutput caseStr (body ++ "FAIL" :: post) = body) ∧
    (∀ caseStr pre fail, startsWith caseStr "Fuzz" = false →
      startsWith caseStr "Example" = true → (∀ z ∈ pre, startsWith z (failPrefix caseStr) = false) →
      startsWith fail (failPrefix caseStr) = true →
      removeFixtureOutput caseStr (pre ++ fail :: (body ++ "FAIL" :: post)) = body) := by
  refine ⟨fun caseStr hfuzz => ?_, fun caseStr pre fail hfuzz hexample hpre hfail => ?_⟩
  · simp only [removeFixtureOutput, hfuzz, if_true]
    exact takeBeforeLast_append_cons _ (beq_self_eq_true _) hpost
  · simp only [removeFixtureOutput, hfuzz, hexample, Bool.false_eq_true, if_false, if_true]
    exact takeBeforeLast_dropThroughFirst hpre hfail (beq_self_eq_true _) hpost

/-- What the example of the source's test `remove_fixture_output_example_test` prints between its
`--- FAIL:` line and `FAIL`. -/
def examplePrintlnBody : List String :=
  ["got:", "The output of", "this example.", "want:", "Thej output of", "this example."]

theorem removeFixtureOutput_fuzz_example_examplePrintln :
    (∀ z ∈ [""], (z == "FAIL") = false) ∧
    removeFixtureOutput "FuzzAdd2" (examplePrintlnBody ++ "FAIL" :: [""]) = examplePrintlnBody ∧
    removeFixtureOutput "ExamplePrintln"
      ([] ++ "--- FAIL: ExamplePrintln (0.00s)" :: (examplePrintlnBody ++ "FAIL" :: [""])) =
      examplePrintlnBody :=
  have h := @removeFixtureOutput_fuzz_example examplePrintlnBody [""] (by decide)
  ⟨by decide, h.1 "FuzzAdd2" (by decide),
    h.2 "ExamplePrintln" [] _ (by decide) (by decide) (by decide) (by decide)⟩

/-! ## Skipped tests -/

/-- How the line `go test` prints as a case is skipped starts. -/
def skipPrefix (caseStr : String) : String := s!"--- SKIP: {caseStr} "

/-- `GoTestCollector::was_test_ignored`, without its debugging `println!`s: whether the last
non-empty line is `PASS` and the line just before it is the case's `--- SKIP:` line. Both
indices are in range, so the indexing never panics. -/
def wasTestIgnored (caseStr : String) (lines : List String) : Bool :=
  match rposition (· != "") lines with
  | some last =>
    if last = 0 then false
    else startsWith (lines.getD (last - 1) "") (skipPrefix caseStr) && lines.getD last "" == "PASS"
  | none => false

/-- **When a test counts as ignored.** `was_test_ignored` holds exactly where the lines end with
the case's `--- SKIP:` line, `PASS`, and then only empty lines. -/
theorem wasTestIgnored_iff (caseStr : String) (lines : List String) :
    wasTestIgnored caseStr lines = true ↔ ∃ pre skip blanks,
      lines = pre ++ skip :: "PASS" :: blanks ∧ startsWith skip (skipPrefix caseStr) = true ∧
        ∀ b ∈ blanks, b = "" := by
  constructor
  · intro h
    unfold wasTestIgnored at h
    split at h
    · next last hlast =>
      obtain ⟨pre, x, post, rfl, rfl, -, hpost⟩ := rposition_eq_some hlast
      split at h
      · cases h
      · obtain ⟨pre, skip, rfl⟩ :=
          (List.eq_nil_or_concat pre).resolve_left (by rintro rfl; simp_all)
        have hskip : (pre ++ skip :: x :: post)[pre.length]? = some skip := by
          rw [List.getElem?_append_right (Nat.le_refl _), Nat.sub_self]
          rfl
        have hx : (pre ++ skip :: x :: post)[pre.length + 1]? = some x := by
          rw [List.getElem?_append_right (Nat.le_succ _), Nat.succ_sub (Nat.le_refl _), Nat.sub_self]
          simp
        simp only [List.concat_eq_append, List.length_append, List.length_singleton,
          Nat.add_sub_cancel, List.append_assoc, List.singleton_append, List.getD_eq_getElem?_getD,
          hskip, hx, Option.getD_some, Bool.and_eq_true, beq_iff_eq] at h
        obtain ⟨hs, rfl⟩ := h
        exact ⟨pre, skip, post, by simp, hs, fun b hb => by simpa using hpost b hb⟩
    · cases h
  · rintro ⟨pre, skip, blanks, rfl, hskip, hblanks⟩
    have hr : rposition (· != "") (pre ++ [skip] ++ "PASS" :: blanks) = some (pre.length + 1) := by
      rw [rposition_append_cons _ (by decide) fun b hb => by simp [hblanks b hb]]
      simp
    simp only [List.append_assoc, List.singleton_append] at hr
    simp [wasTestIgnored, hr, hskip, List.getElem_append_right]

/-! ## A package's short name -/

/-- The regex `^v[0-9]*$` of `short_name`: `v`, then ASCII digits only. -/
def isVersion (s : String) : Bool :=
  match s.data with
  | 'v' :: ds => ds.all Char.isDigit
  | _ => false

/-- `GoImportPath::short_name`: the last component of the import path, or the one before it
where the last is a version suffix; `none` where `comp.next().unwrap()` panics. -/
def shortName (path : String) : Option String :=
  match (path.data.splitOn '/').reverse with
  | last :: rest => if isVersion ⟨last⟩ then rest.head?.map String.mk else some ⟨last⟩
  | [] => none

example : shortName "github.com/foo/bar" = some "bar" := by decide

example : shortName "github.com/foo/v1" = some "foo" := by decide

example : shortName "github.com/foo/v1a" = some "v1a" := by decide

theorem length_splitOnP {α : Type} (p : α → Bool) (xs : List α) :
    (xs.splitOnP p).length = xs.countP p + 1 := by
  induction xs with
  | nil => rfl
  | cons x xs ih =>
    rw [List.splitOnP_cons, List.countP_cons]
    split <;> simp_all

/-- **When `short_name` panics.** It panics exactly on an import path of one component that
looks like a version suffix, such as `v2`: there is no component before it to fall back on. -/
theorem shortName_eq_none_iff (path : String) :
    shortName path = none ↔ '/' ∉ path.data ∧ isVersion path = true := by
  have hsplit : path.data.splitOn '/' = path.data.splitOnP (· == '/') := rfl
  constructor
  · intro h
    unfold shortName at h
    split at h
    · next last rest hrev =>
      split at h
      · next hv =>
        obtain rfl : rest = [] := by simpa using h
        rw [List.reverse_eq_cons_iff] at hrev
        have hlen := length_splitOnP (· == '/') path.data
        rw [← hsplit, hrev] at hlen
        have hno : ∀ c ∈ path.data, ¬(c == '/') = true :=
          List.countP_eq_zero.1 (by simpa using hlen.symm)
        have hone := List.splitOnP_eq_single _ _ hno
        rw [← hsplit, hrev] at hone
        simp only [List.reverse_nil, List.nil_append, List.cons.injEq, and_true] at hone
        rw [hone] at hv
        exact ⟨fun hc => hno _ hc (by simp), hv⟩
      · cases h
    · next hrev =>
      exact absurd (List.reverse_eq_nil_iff.1 hrev)
        (hsplit ▸ List.splitOnP_ne_nil _ _)
  · rintro ⟨hno, hv⟩
    have hone : path.data.splitOn '/' = [path.data] :=
      List.splitOnP_eq_single _ _ fun c hc hc' => hno (by rwa [beq_iff_eq.1 hc'] at hc)
    simp [shortName, hone, hv]

end Maelstrom.GoTest
