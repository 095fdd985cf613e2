import CorpusJudge.Proofs.Corpus.Alike
import CorpusJudge.Proofs.Corpus.Scan

/-!
# Resumed runs

A run that was ended before some problem can be taken up again by the name of that problem.  The
scan then finds that problem and those behind it, and the two runs together come to what one run
would have come to.
-/

namespace CorpusJudge

section

variable [Kernel] {σ : Type} {harness : Harness} {sink : Sink σ} {respond : Response σ}
variable {reply : Path → Bytes → Except ExecutionError Execution} {root : Path} {start : Workbench}
variable {problems : List Problem}

/-- What a run of some of the problems leaves of the corpus. -/
theorem Harness.run_leaves (formed : start.machine.files.WellFormed)
    (replies : harness.Replies reply) (responds : sink.Responds respond)
    (spares : harness.Spares (Corpus.Place harness.settings root start.machine.files))
    (sinkSpares : sink.Spares (Corpus.Place harness.settings root start.machine.files))
    (among : problems ⊆ Corpus.candidates harness.settings root start.machine.files) (state : σ)
    {later : Workbench}
    (same : Untouched (Corpus.Place harness.settings root start.machine.files)
      ((harness.run sink problems).complete state start).bench.machine.files
      later.machine.files) :
    Alike start.machine.files (Corpus.Place harness.settings root start.machine.files)
      ((harness.run sink problems).complete state start).bench.machine.files
      later.machine.files := by
  have begun : Alike start.machine.files (Corpus.Place harness.settings root start.machine.files)
      start.machine.files start.machine.files :=
    ⟨formed, rfl, fun _ _ => .inl rfl, fun _ _ => rfl, .refl _ _⟩
  have ended := (begun.runFrom replies responds spares sinkSpares (fun _ => .about) among .zero
    state).files
  exact ⟨ended.formed, ended.base, ended.grows, ended.locked, same⟩

omit [Kernel] in
/-- A scan from the name of a problem on still finds that problem and those behind it: the problems
that were found are still there, and nothing else has become a problem. -/
theorem Alike.scan_resumed {settings : Settings} {files left right : FileTree}
    (alike : Alike files (Corpus.Place settings root files) left right)
    (formed : files.WellFormed) {position : Nat} {problem : Problem}
    (scanned : Corpus.scan settings root none files = .ok problems)
    (here : problems[position]? = some problem) :
    Corpus.scan settings root (some ⟨problem.name⟩) right = .ok (problems.drop position) := by
  have still := Corpus.scan_grows formed (alike.same.wellFormed alike.formed)
    (alike.same.base.trans alike.base) (fun place inside => by
      rw [alike.same.lookup place inside]
      exact alike.grows place inside) (fun place inside =>
        (alike.same.locked place inside).trans (alike.locked place inside)) scanned
  obtain ⟨distinct, sorted⟩ := Corpus.scan_names formed scanned
  rw [Corpus.scan_from, still, Except.map, Corpus.dropWhile_eq_drop distinct sorted here]

/-- A scan from some name on finds the problems of a whole scan from the first one on whose name is
not before it in byte order.  Running the problems in front of one, scanning again from its name on,
and running what this finds comes to what one run of all the problems comes to: the same calls of
the sink, the same cache, and stats that add up.  In between, anything may happen that leaves the
corpus alone. -/
theorem Harness.resume_adds_up (harness : Harness) (root : Path) (start : Workbench)
    (cursor : Resume) :
    Corpus.scan harness.settings root (some cursor) start.machine.files =
        (Corpus.scan harness.settings root none start.machine.files).map
          (·.dropWhile fun problem =>
            decide (Bytes.ofString problem.name < Bytes.ofString cursor.start)) ∧
      ∀ (sink : Sink σ) (respond : Response σ)
        (reply : Path → Bytes → Except ExecutionError Execution) (problems : List Problem)
        (position : Nat) (problem : Problem) (state : σ) (later : Workbench),
        let places := Corpus.Place harness.settings root start.machine.files
        let whole := (harness.run sink.logged problems).complete (state, []) start
        let first := (harness.run sink.logged (problems.take position)).complete (state, []) start
        start.machine.files.WellFormed → harness.Replies reply → sink.Responds respond →
        harness.Spares places → sink.Spares places →
        Corpus.scan harness.settings root none start.machine.files = .ok problems →
        problems[position]? = some problem →
        Untouched places first.bench.machine.files later.machine.files →
          ∃ rest, Corpus.scan harness.settings root (some ⟨problem.name⟩) later.machine.files =
              .ok rest ∧
            let second := (harness.run sink.logged rest).complete first.state later
            whole.value = first.value.bind (fun stats => second.value.map stats.add) ∧
              (first.value.isOk = true → whole.state = second.state ∧
                ∀ place, places place →
                  second.bench.machine.files.lookup place =
                    whole.bench.machine.files.lookup place) := by
  refine ⟨Corpus.scan_from cursor, ?_⟩
  intro sink respond reply problems position problem state later places whole first formed replies
    responds spares sinkSpares scanned here same
  have among := Corpus.scan_subset scanned
  have front : problems.take position ⊆ problems := List.take_subset position problems
  have back : problems.drop position ⊆ problems := List.drop_subset position problems
  have alike := run_leaves formed replies responds.logged spares sinkSpares.logged
    (fun _ member => among (front member)) (state, []) same
  have rescanned := alike.scan_resumed formed scanned here
  refine ⟨_, rescanned, ?_⟩
  have divided := harness.complete_runFrom_append sink.logged .zero (problems.take position)
    (problems.drop position) (state, []) start
  rw [List.take_append_drop] at divided
  simp only [whole, first, run_eq_runFrom] at alike divided ⊢
  rw [divided]
  rcases ended : (harness.runFrom sink.logged .zero (problems.take position)).complete (state, [])
    start with ⟨value, after, left⟩
  rw [ended] at alike
  cases value with
  | error error => exact ⟨rfl, nofun⟩
  | ok stats =>
      have ended := alike.runFrom replies responds.logged spares sinkSpares.logged
        (fun _ => .about) (fun _ member => among (back member)) .zero after
      have added := harness.complete_runFrom_add sink.logged stats .zero (problems.drop position)
        after left
      rw [RunStats.add_zero] at added
      simp only [added]
      exact ⟨by rw [ended.value]; rfl, fun _ => ⟨ended.state.symm, ended.files.same.lookup⟩⟩

end

attribute [local instance] Platform.small in
/-- A run of the sample corpus that is ended before its second problem can be taken up again
there. -/
theorem Harness.resume_adds_up_sample :
    ∃ rest, Corpus.scan .standard ⟨"problems"⟩ (some ⟨"Echo"⟩)
        ((Harness.sample.run Sink.keeping.logged (Problem.samples.take 1)).complete ([], [])
          .sample).bench.machine.files = .ok rest ∧
      ((Harness.sample.run Sink.keeping.logged Problem.samples).complete ([], []) .sample).value =
        ((Harness.sample.run Sink.keeping.logged (Problem.samples.take 1)).complete ([], [])
          .sample).value.bind fun stats =>
            (((Harness.sample.run Sink.keeping.logged rest).complete
              ((Harness.sample.run Sink.keeping.logged (Problem.samples.take 1)).complete ([], [])
                .sample).state
              ((Harness.sample.run Sink.keeping.logged (Problem.samples.take 1)).complete ([], [])
                .sample).bench).value.map stats.add) := by
  obtain ⟨-, resumed⟩ := Harness.resume_adds_up Harness.sample ⟨"problems"⟩ .sample ⟨"Echo"⟩
  obtain ⟨rest, scanned, sum, -⟩ := resumed .keeping .keeping _ Problem.samples 1 _ [] _
    FileTree.sample_wellFormed Harness.sample_replies Sink.keeping_responds
    (Harness.sample_spares _) (Sink.keeping_spares _) Corpus.scan_sample rfl
    (.refl _ _)
  exact ⟨rest, scanned, sum⟩

end CorpusJudge
