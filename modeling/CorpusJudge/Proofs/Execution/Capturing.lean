import CorpusJudge.Proofs.Execution
import CorpusJudge.Execution.Capture

/-!
# Captured output

What has been read of an output, what its reader has in hand and what is ahead of the reader make up the
output, in this order, whatever the reader does next.  The message comes after everything else that the
reader does.  So whoever has seen it finds the whole output in the buffer, and whoever has not finds a
beginning of it.
-/

namespace CorpusJudge

namespace Capture

/-- The bytes that have been read and are not in the buffer yet. -/
def inHand (capture : Capture) : Bytes :=
  match capture.phase with
  | .appending chunk => chunk
  | _ => []

/-- A capture has an output in its parts, and its reader leaves its message last. -/
structure Carries (capture : Capture) (output : Bytes) : Prop where
  parts : capture.buffer ++ capture.inHand ++ capture.ahead = output
  last : capture.isClosed = true → capture.phase = .gone

/-- A reader that reads no more has come to the end. -/
def Exhausts (capture : Capture) : Prop :=
  capture.phase = .leaving ∨ capture.phase = .gone → capture.ahead = []

variable {capture after : Capture} {output : Bytes} {attempt : Attempt}

/-! ## Starting -/

theorem carries_start (output : Bytes) : (start (some output)).Carries output where
  parts := rfl
  last := nofun

theorem exhausts_start (output : Bytes) : (start (some output)).Exhausts := nofun

/-! ## Steps -/

/-- What one step of a reader can change, and when. -/
inductive Advances (attempt : Attempt) : Capture → Capture → Prop where
  | idle {capture : Capture} : Advances attempt capture capture
  | ends {ahead buffer : Bytes} {isClosed : Bool} (why : ahead = [] ∨ attempt = .failed) :
      Advances attempt ⟨ahead, .reading, buffer, isClosed⟩ ⟨ahead, .leaving, buffer, isClosed⟩
  | reads {chunk rest buffer : Bytes} {isClosed : Bool} (nonempty : chunk ≠ [])
      (room : chunk.length ≤ chunkSize) :
      Advances attempt ⟨chunk ++ rest, .reading, buffer, isClosed⟩
        ⟨rest, .appending chunk, buffer, isClosed⟩
  | appends {ahead chunk buffer : Bytes} {isClosed : Bool} :
      Advances attempt ⟨ahead, .appending chunk, buffer, isClosed⟩
        ⟨ahead, .reading, buffer ++ chunk, isClosed⟩
  | leaves {ahead buffer : Bytes} {isClosed : Bool} :
      Advances attempt ⟨ahead, .leaving, buffer, isClosed⟩ ⟨ahead, .gone, buffer, true⟩

theorem advances_read (attempt : Attempt) (ahead buffer : Bytes) (isClosed : Bool) (count : Nat) :
    Advances attempt ⟨ahead, .reading, buffer, isClosed⟩
      ((Capture.mk ahead .reading buffer isClosed).read count) := by
  simp only [read]
  generalize sized : max 1 (min count chunkSize) = size
  have room : 1 ≤ size ∧ size ≤ chunkSize := by
    simp only [chunkSize] at sized ⊢
    omega
  split
  next nothing =>
    rw [List.take_eq_nil_iff] at nothing
    exact .ends (.inl (nothing.resolve_left (by omega)))
  next nonempty =>
    have short : (ahead.take size).length ≤ chunkSize :=
      Nat.le_trans (List.length_take_le ..) room.2
    have step : Advances attempt ⟨ahead.take size ++ ahead.drop size, .reading, buffer, isClosed⟩
        ⟨ahead.drop size, .appending (ahead.take size), buffer, isClosed⟩ := .reads nonempty short
    rwa [List.take_append_drop] at step

theorem advances (capture : Capture) (attempt : Attempt) :
    Advances attempt capture (capture.advance attempt) := by
  obtain ⟨ahead, phase, buffer, isClosed⟩ := capture
  cases phase with
  | reading =>
      cases attempt with
      | read count => exact advances_read ..
      | interrupted => exact .idle
      | failed => exact .ends (.inr rfl)
  | appending chunk => exact .appends
  | leaving => exact .leaves
  | gone => exact .idle

/-- Whatever a reader does, the parts of the output stay in order. -/
theorem Carries.step (carries : capture.Carries output) (step : Advances attempt capture after) :
    after.Carries output := by
  have opened (phase : capture.phase ≠ .gone) : capture.isClosed ≠ true :=
    fun closed => phase (carries.last closed)
  cases step with
  | idle => exact carries
  | ends why =>
      constructor
      · exact carries.parts
      · exact fun closed => absurd closed (opened nofun)
  | reads nonempty room =>
      constructor
      · simpa [inHand] using carries.parts
      · exact fun closed => absurd closed (opened nofun)
  | appends =>
      constructor
      · simpa [inHand] using carries.parts
      · exact fun closed => absurd closed (opened nofun)
  | leaves =>
      constructor
      · exact carries.parts
      · exact fun _ => rfl

/-- Only a failure makes a reader stop before the end. -/
theorem Exhausts.step (exhausts : capture.Exhausts) (step : Advances attempt capture after)
    (unfailing : attempt ≠ .failed) : after.Exhausts := by
  cases step with
  | idle => exact exhausts
  | ends why => exact fun _ => why.resolve_right unfailing
  | reads nonempty room => exact nofun
  | appends => exact nofun
  | leaves => exact fun _ => exhausts (.inl rfl)

/-! ## Runs -/

theorem Carries.run (carries : capture.Carries output) (attempts : List Attempt) :
    (capture.run attempts).Carries output := by
  induction attempts generalizing capture with
  | nil => exact carries
  | cons attempt attempts ih => exact ih (carries.step (capture.advances attempt))

theorem Exhausts.run (exhausts : capture.Exhausts) {attempts : List Attempt}
    (unfailing : Attempt.failed ∉ attempts) : (capture.run attempts).Exhausts := by
  induction attempts generalizing capture with
  | nil => exact exhausts
  | cons attempt attempts ih =>
      rw [List.mem_cons, not_or] at unfailing
      exact ih (exhausts.step (capture.advances attempt) (Ne.symm unfailing.1)) unfailing.2

/-- A reader that is gone does nothing any more. -/
theorem run_gone (gone : capture.phase = .gone) (attempts : List Attempt) :
    capture.run attempts = capture := by
  have idle (attempt : Attempt) : capture.advance attempt = capture := by
    simp only [advance, gone]
  induction attempts with
  | nil => rfl
  | cons attempt attempts ih => rw [run, List.foldl_cons, idle, ← run, ih]

/-! ## The buffer -/

/-- The buffer is a beginning of the output. -/
theorem Carries.buffer_begins (carries : capture.Carries output) : capture.buffer <+: output := by
  rw [← carries.parts, List.append_assoc]
  exact List.prefix_append ..

/-- The buffer of a reader that has left its message stays what it is, and is the whole output unless a
read has failed. -/
theorem Carries.buffer_run (carries : capture.Carries output) (closed : capture.isClosed = true)
    (exhausts : capture.Exhausts) (attempts : List Attempt) :
    (capture.run attempts).buffer = output := by
  have gone := carries.last closed
  have parts := carries.parts
  rw [exhausts (.inr gone), List.append_nil, inHand, gone, List.append_nil] at parts
  rw [run_gone gone, parts]

/-! ## Ways to read an output -/

/-- The attempts of a reader that reads an output in these chunks, and after them its end, and is
interrupted now and then. -/
inductive Reads : List Bytes → List Attempt → Prop where
  | ended (count : Nat) (step : Attempt) (rest : List Attempt) :
      Reads [] (.read count :: step :: rest)
  | interrupted {chunks : List Bytes} {attempts : List Attempt} (next : Reads chunks attempts) :
      Reads chunks (.interrupted :: attempts)
  | chunk {chunk : Bytes} {chunks : List Bytes} {attempts : List Attempt} (nonempty : chunk ≠ [])
      (room : chunk.length ≤ chunkSize) (step : Attempt) (next : Reads chunks attempts) :
      Reads (chunk :: chunks) (.read chunk.length :: step :: attempts)

theorem read_end (phase : Phase) (buffer : Bytes) (isClosed : Bool) (count : Nat) :
    (Capture.mk [] phase buffer isClosed).read count = ⟨[], .leaving, buffer, isClosed⟩ := by
  simp only [read, List.take_nil]

/-- A reader that is asked for as many bytes as a chunk has reads that chunk. -/
theorem read_chunk {chunk : Bytes} (nonempty : chunk ≠ []) (room : chunk.length ≤ chunkSize)
    (rest buffer : Bytes) (isClosed : Bool) :
    (Capture.mk (chunk ++ rest) .reading buffer isClosed).read chunk.length =
      ⟨rest, .appending chunk, buffer, isClosed⟩ := by
  have size : max 1 (min chunk.length chunkSize) = chunk.length := by
    have positive := List.length_pos_iff.mpr nonempty
    omega
  simp only [read, size, List.take_left, List.drop_left]

/-- The capture of an output that has been read to the end. -/
def finished (output : Bytes) : Capture :=
  ⟨[], .gone, output, true⟩

/-- In whatever chunks an output is read, its reader comes to the end with the output in the buffer. -/
theorem Reads.run {chunks : List Bytes} {attempts : List Attempt} (reads : Reads chunks attempts)
    (buffer : Bytes) :
    (Capture.mk chunks.flatten .reading buffer false).run attempts =
      finished (buffer ++ chunks.flatten) := by
  induction reads generalizing buffer with
  | ended count step rest =>
      rw [List.flatten_nil, List.append_nil, Capture.run, List.foldl_cons, Capture.advance,
        read_end]
      exact run_gone rfl rest
  | interrupted next ih => exact ih buffer
  | chunk nonempty room step next ih =>
      rw [Capture.run, List.foldl_cons, Capture.advance, List.flatten_cons, read_chunk nonempty room,
        ← List.append_assoc]
      exact ih _

end Capture

/-! ## Both outputs -/

namespace Capturing

/-- What a reader attempts in its steps among those of both readers. -/
def attemptsOf (output : Output) (turns : List Turn) : List Attempt :=
  (turns.filter (·.output = output)).map Turn.attempt

/-- No reader fails in these steps. -/
def IsUnfailing (turns : List Turn) : Prop :=
  ∀ turn ∈ turns, turn.attempt ≠ .failed

instance (turns : List Turn) : Decidable (IsUnfailing turns) :=
  inferInstanceAs (Decidable (∀ turn ∈ turns, turn.attempt ≠ .failed))

/-- No reader fails in an interval. -/
structure Interval.IsUnfailing (interval : Interval) : Prop where
  waiting : Capturing.IsUnfailing interval.waiting
  taking : Capturing.IsUnfailing interval.taking

instance (interval : Interval) : Decidable interval.IsUnfailing :=
  decidable_of_iff (Capturing.IsUnfailing interval.waiting ∧ Capturing.IsUnfailing interval.taking)
    ⟨fun ⟨waiting, taking⟩ => ⟨waiting, taking⟩, fun unfailing => ⟨unfailing.1, unfailing.2⟩⟩

/-- The captures of a world have these outputs in their parts. -/
def Carries (world : Capturing) (outputs : Output → Bytes) : Prop :=
  ∀ output, (world.captures output).Carries (outputs output)

/-- No reader has failed, and none will. -/
structure Unfailing (world : Capturing) : Prop where
  exhausts : ∀ output, (world.captures output).Exhausts
  taking : IsUnfailing world.taking
  intervals : ∀ interval ∈ world.intervals, interval.IsUnfailing

variable {world : Capturing} {outputs : Output → Bytes} {output : Output} {turns : List Turn}

theorem IsUnfailing.attemptsOf (unfailing : IsUnfailing turns) (output : Output) :
    Attempt.failed ∉ attemptsOf output turns := by
  intro member
  obtain ⟨turn, taken, fails⟩ := List.mem_map.mp member
  exact unfailing turn ((List.mem_filter.mp taken).1) fails

/-- The readers do not meet: what becomes of a capture depends on the steps of its own reader. -/
theorem foldl_turn (captures : Output → Capture) (turns : List Turn) (output : Output) :
    turns.foldl turn captures output = (captures output).run (attemptsOf output turns) := by
  induction turns generalizing captures with
  | nil => rfl
  | cons first turns ih =>
      rw [List.foldl_cons, ih, turn]
      by_cases same : output = first.output
      · simp [attemptsOf, Capture.run, same]
      · simp [attemptsOf, same, Ne.symm same]

theorem taken_apply (world : Capturing) (output : Output) :
    world.taken output = (world.captures output).run (attemptsOf output world.taking) :=
  foldl_turn ..

/-- In the course of a wait, the reader of an output goes on with its own steps. -/
theorem next_captures (world : Capturing) (output : Output) :
    world.next.captures output =
      (world.taken output).run
        (attemptsOf output (world.intervals.headD ⟨[], []⟩).waiting) :=
  foldl_turn ..

theorem carries_start (outputs : Output → Bytes) (intervals : List Interval)
    (ending? : Option Ending) : (start outputs intervals ending?).Carries outputs :=
  fun output => Capture.carries_start (outputs output)

theorem unfailing_start {intervals : List Interval}
    (unfailing : ∀ interval ∈ intervals, interval.IsUnfailing) (outputs : Output → Bytes)
    (ending? : Option Ending) : (start outputs intervals ending?).Unfailing where
  exhausts output := Capture.exhausts_start (outputs output)
  taking := List.forall_mem_nil _
  intervals := unfailing

theorem Carries.taken (carries : world.Carries outputs) (output : Output) :
    (world.taken output).Carries (outputs output) := by
  rw [taken_apply]
  exact (carries output).run _

theorem Carries.next (carries : world.Carries outputs) : world.next.Carries outputs := by
  intro output
  rw [next_captures]
  exact (carries.taken output).run _

theorem Unfailing.next (unfailing : world.Unfailing) : world.next.Unfailing := by
  have upcoming : (world.intervals.headD ⟨[], []⟩).IsUnfailing := by
    cases intervals : world.intervals with
    | nil => exact ⟨List.forall_mem_nil _, List.forall_mem_nil _⟩
    | cons interval rest =>
        exact unfailing.intervals interval (intervals ▸ List.mem_cons_self ..)
  constructor
  · intro output
    rw [next_captures, taken_apply]
    exact ((unfailing.exhausts output).run (unfailing.taking.attemptsOf output)).run
      (upcoming.waiting.attemptsOf output)
  · exact upcoming.taking
  · intro interval member
    exact unfailing.intervals interval (List.mem_of_mem_tail member)

/-! ## Collecting -/

theorem collect_eq (output : Output) (limit : Nat) (world : Capturing) :
    watch.collect output limit world =
      (((world.next.taken output).buffer, (world.next.captures output).isClosed), world.next) := by
  simp only [Watch.collect, watch, Bool.not_not]

/-- What is collected of an output is a beginning of it. -/
theorem Carries.collect_begins (carries : world.Carries outputs) (output : Output) (limit : Nat) :
    (watch.collect output limit world).1.1 <+: outputs output := by
  rw [collect_eq]
  exact (carries.next.taken output).buffer_begins

/-- What is collected of an output that is seen to be closed is all of it. -/
theorem Carries.collect_closed (carries : world.Carries outputs) (unfailing : world.Unfailing)
    {limit : Nat} (closed : (watch.collect output limit world).1.2 = true) :
    (watch.collect output limit world).1.1 = outputs output := by
  rw [collect_eq] at closed ⊢
  simp only [taken_apply]
  exact (carries.next output).buffer_run closed (unfailing.next.exhausts output) _

/-- The readers of both outputs have come to the end. -/
def Finished (world : Capturing) (outputs : Output → Bytes) : Prop :=
  ∀ output, world.captures output = .finished (outputs output)

theorem Finished.taken (finished : world.Finished outputs) (output : Output) :
    world.taken output = .finished (outputs output) := by
  rw [taken_apply, finished]
  exact Capture.run_gone rfl _

theorem Finished.next (finished : world.Finished outputs) : world.next.Finished outputs := by
  intro output
  rw [next_captures, finished.taken]
  exact Capture.run_gone rfl _

/-- All of an output is collected once its reader has come to the end. -/
theorem Finished.collect (finished : world.Finished outputs) (output : Output) (limit : Nat) :
    watch.collect output limit world = ((outputs output, true), world.next) := by
  rw [collect_eq, finished.next.taken, finished.next]
  rfl

/-- Readers that have read their outputs in whatever chunks before the wait is over have come to the
end. -/
theorem finished_of_reads {taking : List Turn} {intervals : List Interval} {ending? : Option Ending}
    {chunks : Output → List Bytes} (whole : ∀ output, (chunks output).flatten = outputs output)
    (reads : ∀ output, Capture.Reads (chunks output) (attemptsOf output turns)) :
    (start outputs (⟨turns, taking⟩ :: intervals) ending?).next.Finished outputs := by
  intro output
  have run := (reads output).run []
  rw [whole output] at run
  rw [next_captures]
  exact run

end Capturing

/-- What comes of an execution is what comes of waiting for the program that it has started.  While its
outputs are captured, what is collected of one is a beginning of it, and so is the standard output of
the execution, in whatever order the readers and whoever collects take their steps and whatever comes of
the attempts to read.  Unless a read fails, what is collected of an output that is seen to be closed is
all of it, and a complete execution comes with all of each output.  And it is complete if its program
has ended and each reader has read its output to the end by then, in whatever chunks. -/
theorem Capturing.whole_or_beginning (outputs : Output → Bytes) (intervals : List Interval)
    (ending? : Option Ending) :
    (∀ [Platform] (interpreter : Interpreter) solution input machine child running,
      interpreter.start solution input machine = .ok (child, running) →
      (interpreter.perform solution input machine).1 =
        ((Platform.watch child).await machine.clock (interpreter.timeout * 1000) running).1.mapError
          (.wait interpreter.program)) ∧
    let world := start outputs intervals ending?
    (∀ output limit, (watch.collect output limit world).1.1 <+: outputs output) ∧
    (∀ asked timeout, ∃ execution, (watch.await asked timeout world).1 = .ok execution ∧
      execution.stdout <+: outputs .stdout) ∧
    ((∀ interval ∈ intervals, interval.IsUnfailing) →
      (∀ output limit, (watch.collect output limit world).1.2 = true →
        (watch.collect output limit world).1.1 = outputs output) ∧
      ∀ asked timeout exitCode stdout stderr,
        (watch.await asked timeout world).1 = .ok (.completed exitCode stdout stderr) →
        stdout = outputs .stdout ∧ stderr = outputs .stderr) ∧
    ∀ turns taking later ending, intervals = ⟨turns, taking⟩ :: later → ending? = some ending →
      ∀ chunks : Output → List Bytes, (∀ output, (chunks output).flatten = outputs output) →
        (∀ output, Capture.Reads (chunks output) (attemptsOf output turns)) →
        ∀ asked timeout, (watch.await asked timeout world).1 =
          .ok (.completed (Interpreter.exitCode? ending) (outputs .stdout) (outputs .stderr)) := by
  refine ⟨fun _ _ _ _ _ _ begun => congrArg Prod.fst (Interpreter.perform_started begun), ?_⟩
  intro world
  have carries : world.Carries outputs := carries_start outputs intervals ending?
  have awaits (asked timeout : Nat) :
      (watch.await asked timeout world).1 = .ok (watch.settle asked timeout world.next).1 :=
    congrArg Prod.fst (Watch.await_eq_settle rfl)
  refine ⟨carries.collect_begins, ?_, ?_, ?_⟩
  · intro asked timeout
    refine ⟨_, awaits asked timeout, ?_⟩
    obtain ⟨limit, after, waited, stdout⟩ := watch.settle_stdout asked timeout world.next
    -- nothing that a reader sees changes when the program is killed
    have same : after = world.next := waited.elim id id
    rw [stdout, same]
    exact carries.next.collect_begins .stdout limit
  · intro unfailing
    have sound : world.Unfailing := unfailing_start unfailing outputs ending?
    refine ⟨fun output limit => carries.collect_closed sound, ?_⟩
    intro asked timeout exitCode stdout stderr complete
    have settled := Except.ok.inj ((awaits asked timeout).symm.trans complete)
    obtain ⟨ending, -, drained⟩ := Watch.settle_eq_completed.1 settled
    obtain ⟨-, first, second⟩ := Watch.drain_eq_completed.1 drained
    constructor
    · rw [← carries.next.collect_closed sound.next (congrArg Prod.snd first)]
      exact (congrArg Prod.fst first).symm
    · rw [← carries.next.next.collect_closed sound.next.next (congrArg Prod.snd second)]
      exact (congrArg Prod.fst second).symm
  · intro turns taking later ending starts ended chunks whole reads asked timeout
    have finished : world.next.Finished outputs := by
      simp only [world, starts]
      exact finished_of_reads whole reads
    rw [awaits]
    refine congrArg Except.ok (Watch.settle_eq_completed.2
      ⟨ending, ended, Watch.drain_eq_completed.2 ⟨rfl, ?_, ?_⟩⟩)
    · exact congrArg Prod.fst (finished.collect .stdout _)
    · exact congrArg Prod.fst (finished.next.collect .stderr _)

/-- The two readers of a program that writes `abc` and `!` take their steps by turns, and are interrupted
now and then.  Where the wait for the standard output is over before its end has been read, the execution
comes with the beginning that is in the buffer when it is taken, and where it is over after that, with
all of both outputs. -/
theorem Capturing.whole_or_beginning_sample :
    let outputs : Output → Bytes := fun
      | .stdout => [97, 98, 99]
      | .stderr => [33]
    let out (attempt : Attempt) : Capturing.Turn := ⟨.stdout, attempt⟩
    let err (attempt : Attempt) : Capturing.Turn := ⟨.stderr, attempt⟩
    let early : Interval := ⟨[out (.read 2), err (.read 9)], [err .interrupted]⟩
    let middle : Interval := ⟨[out .interrupted, out .interrupted], [out (.read 1)]⟩
    let late : Interval := ⟨[out (.read 1), err (.read 1), out (.read 1), out (.read 1), out (.read 1),
      err (.read 1), out (.read 1)], []⟩
    let cut := (watch.await 0 1000 (start outputs [early, middle] (some (.code 3)))).1
    let full := (watch.await 0 1000 (start outputs [early, late] (some (.code 3)))).1
    (cut = .ok (.timedOut .outputOpen [97, 98]) ∧
        ∃ execution, cut = .ok execution ∧ execution.stdout <+: [97, 98, 99]) ∧
      (∀ interval ∈ [early, late], interval.IsUnfailing) ∧
      ∃ stdout stderr, full = .ok (.completed (some 3) stdout stderr) ∧
        stdout = [97, 98, 99] ∧ stderr = [33] := by
  intro outputs out err early middle late cut full
  have unfailing : ∀ interval ∈ [early, late], interval.IsUnfailing := by decide
  obtain ⟨-, -, begins, -, -⟩ := whole_or_beginning outputs [early, middle] (some (.code 3))
  obtain ⟨-, -, -, whole, -⟩ := whole_or_beginning outputs [early, late] (some (.code 3))
  have complete : full = .ok (.completed (some 3) [97, 98, 99] [33]) := by rfl
  refine ⟨⟨by rfl, begins 0 1000⟩, unfailing, _, _, complete, ?_⟩
  exact (whole unfailing).2 0 1000 _ _ _ complete

end CorpusJudge
