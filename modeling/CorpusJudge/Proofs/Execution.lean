import CorpusJudge.Interpreter

/-!
# Executions

What comes of an execution is what comes of waiting for the program that it has started.  A program that
ends in time and leaves its output closed is complete.
-/

namespace CorpusJudge

namespace Watch

variable {World : Type} {watch : Watch World} {world : World} {ending : Ending}
variable {limit asked timeout : Nat}

/-- The standard output of a program that has ended is what has been collected of it. -/
theorem drain_stdout :
    (watch.drain limit ending world).1.stdout = (watch.collect .stdout limit world).1.1 := by
  simp only [drain]
  split
  · rfl
  · rfl

/-- A program that has ended is complete if both of its outputs have been seen to close, and then it
comes with what has been collected of each. -/
theorem drain_eq_completed {exitCode : Option Nat} {stdout stderr : Bytes} :
    (watch.drain limit ending world).1 = .completed exitCode stdout stderr ↔
      Interpreter.exitCode? ending = exitCode ∧
        (watch.collect .stdout limit world).1 = (stdout, true) ∧
        (watch.collect .stderr limit (watch.collect .stdout limit world).2).1 = (stderr, true) := by
  simp only [drain]
  split
  next closed =>
    rw [Bool.and_eq_true] at closed
    simp only [Execution.completed.injEq, Prod.ext_iff, closed, and_true]
  next opened =>
    refine iff_of_false nofun ?_
    rintro ⟨-, stdoutClosed, stderrClosed⟩
    refine opened (Bool.and_eq_true_iff.mpr ⟨?_, ?_⟩)
    · exact congrArg Prod.snd stdoutClosed
    · exact congrArg Prod.snd stderrClosed

/-- The standard output of an execution has been collected after the program has ended, or after it has
been killed. -/
theorem settle_stdout (watch : Watch World) (asked timeout : Nat) (world : World) :
    ∃ limit after, (after = world ∨ after = watch.kill world) ∧
      (watch.settle asked timeout world).1.stdout = (watch.collect .stdout limit after).1.1 := by
  unfold settle
  split
  · exact ⟨_, _, .inl rfl, drain_stdout⟩
  · exact ⟨_, _, .inr rfl, rfl⟩

/-- An execution is complete if the program has ended in time, and what has been collected of it is. -/
theorem settle_eq_completed {exitCode : Option Nat} {stdout stderr : Bytes} :
    (watch.settle asked timeout world).1 = .completed exitCode stdout stderr ↔
      ∃ ending ∈ watch.ending? world,
        (watch.drain (Interpreter.drainUntil asked timeout (watch.clock world)) ending world).1 =
          .completed exitCode stdout stderr := by
  unfold settle
  split
  next ending ended => simp only [ended, Option.mem_some_iff, exists_eq_left']
  next running =>
    refine iff_of_false nofun ?_
    rintro ⟨ending, ended, -⟩
    rw [running] at ended
    cases ended

/-- A program that can be waited for comes to what is settled then. -/
theorem await_eq_settle (fine : watch.fault? (watch.waited timeout world) = none) :
    watch.await asked timeout world =
      (.ok (watch.settle asked timeout (watch.waited timeout world)).1,
        (watch.settle asked timeout (watch.waited timeout world)).2) := by
  simp only [await, fine]

end Watch

namespace Interpreter

variable [Platform] {interpreter : Interpreter} {solution : Path} {input : Bytes}
variable {machine running : Machine} {child : Platform.Child}

/-- Where a program cannot be started, nothing happens. -/
theorem perform_unstarted {error : SpawnError}
    (failed : interpreter.start solution input machine = .error error) :
    interpreter.perform solution input machine = (.error (.spawn error), machine) := by
  simp only [perform, failed]

/-- An execution waits for the program that it has started, and forgets it. -/
theorem perform_started (begun : interpreter.start solution input machine = .ok (child, running)) :
    interpreter.perform solution input machine =
      let awaited :=
        (Platform.watch child).await machine.clock (interpreter.timeout * 1000) running
      (awaited.1.mapError (.wait interpreter.program), Platform.release child awaited.2) := by
  simp only [perform, begun]

end Interpreter

/-! ## A small platform -/

/-- An operating system where nothing but Ruby can be started, and not even that if a search path leads
elsewhere.  It ends at once with a complaint and without any other output. -/
@[reducible] def Platform.small : Platform where
  toKernel := ⟨Unit⟩
  Child := Unit
  spawn command machine :=
    let searched := (@Machine.environment ⟨Unit⟩ machine).lookup "PATH"
    if command.program = "ruby" && searched.isNone then .ok ((), machine) else .error .notFound
  watch _ := {
    clock := @Machine.clock ⟨Unit⟩
    hasEnded _ := true
    fault? _ := none
    ending? _ := some (.code 1)
    isOpen _ _ := false
    captured
      | .stdout, _ => []
      | .stderr, _ => Bytes.ofString "ruby: No such file or directory\n"
    runUntil machine _ _ := machine
    kill machine := machine }
  release _ machine := machine
  poolFault? _ _ := none

end CorpusJudge
