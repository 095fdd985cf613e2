import CorpusJudge.Application.Run

/-!
# Configuring a run

A run takes place under settings only if they can be used twice: as its file states them, and with
what the run sets itself.  A file that asks for something unusable is refused even where the run would
have set it otherwise.
-/

namespace CorpusJudge

private theorem mapError_eq_ok {ε δ α : Type} {result : Except ε α} {wrap : ε → δ} {value : α} :
    result.mapError wrap = .ok value ↔ result = .ok value := by
  cases result with
  | error error => exact ⟨nofun, nofun⟩
  | ok given =>
      constructor
      · rintro ⟨⟩
        rfl
      · rintro ⟨⟩
        rfl

namespace Settings

theorem validate_eq_ok {settings given : Settings} :
    given.validate = .ok settings ↔ settings.fault? = none ∧ settings = given := by
  unfold validate
  cases fault : given.fault? with
  | some fault =>
      refine ⟨nofun, ?_⟩
      rintro ⟨fine, rfl⟩
      cases fine.symm.trans fault
  | none =>
      constructor
      · rintro ⟨⟩
        exact ⟨fault, rfl⟩
      · rintro ⟨-, rfl⟩
        rfl

theorem ofText_eq_ok {text : String} {settings : Settings} :
    ofText text = .ok settings ↔
      (Yaml.readDocument? text).bind ofDocument? = some settings ∧ settings.fault? = none := by
  unfold ofText
  cases (Yaml.readDocument? text).bind ofDocument? with
  | none => exact ⟨nofun, fun ⟨stated, _⟩ => nomatch stated⟩
  | some given =>
      have valid := @validate_eq_ok settings given
      simp only [Option.some.injEq]
      cases checked : given.validate with
      | error fault =>
          rw [checked] at valid
          refine ⟨nofun, ?_⟩
          rintro ⟨rfl, fine⟩
          cases valid.mpr ⟨fine, rfl⟩
      | ok same =>
          rw [checked] at valid
          simp only [Except.ok.injEq] at valid ⊢
          rw [valid, and_comm, eq_comm]

/-- The settings that a run starts from: the built-in ones, or those that a file states which can be
read, is text, and states nothing that cannot be used. -/
inductive Loads (files : FileTree) : Option Path → Settings → Prop where
  | builtIn : Loads files none .standard
  | file {path : Path} {content : Bytes} {text : String} {settings : Settings} :
      files.read path = .ok content → Utf8.decode? content = some text →
      (Yaml.readDocument? text).bind ofDocument? = some settings → settings.fault? = none →
      Loads files (some path) settings

theorem load_eq_ok {files : FileTree} {path : Path} {settings : Settings} :
    load files path = .ok settings ↔ Loads files (some path) settings := by
  unfold load
  constructor
  · intro loaded
    cases read : files.read path with
    | error error =>
        rw [read] at loaded
        cases loaded
    | ok content =>
        cases decoded : Utf8.decode? content with
        | none =>
            simp only [read, decoded] at loaded
            cases loaded
        | some text =>
            simp only [read, decoded, mapError_eq_ok, ofText_eq_ok] at loaded
            exact .file read decoded loaded.1 loaded.2
  · rintro (_ | ⟨read, decoded, stated, fine⟩)
    simp only [read, decoded, mapError_eq_ok]
    exact ofText_eq_ok.2 ⟨stated, fine⟩

end Settings

namespace Application

/-- Settings with what a run sets itself. -/
def overridden (invocation : Invocation) (settings : Settings) : Settings :=
  { settings with
    corpusDir := invocation.corpus.getD settings.corpusDir
    timeoutMs := invocation.timeoutMs.getD settings.timeoutMs }

/-- The settings that a run takes place under: those that it starts from, with what it sets itself,
unless something is wrong with them then. -/
def Configures (invocation : Invocation) (files : FileTree) (settings : Settings) : Prop :=
  settings.fault? = none ∧
    ∃ given, Settings.Loads files invocation.config given ∧ settings = overridden invocation given

theorem settingsFor_eq (invocation : Invocation) (files : FileTree) :
    settingsFor invocation files =
      match invocation.config with
      | none => (overridden invocation .standard).validate.mapError .invalid
      | some path =>
          match Settings.load files path with
          | .error error => .error (.settings path error)
          | .ok given => (overridden invocation given).validate.mapError .invalid := by
  unfold settingsFor
  cases invocation.config with
  | none => rfl
  | some path =>
      cases loaded : Settings.load files path with
      | error error =>
          simp only [loaded]
          rfl
      | ok given =>
          simp only [loaded]
          rfl

theorem settingsFor_eq_ok {invocation : Invocation} {files : FileTree} {settings : Settings} :
    settingsFor invocation files = .ok settings ↔ Configures invocation files settings := by
  have checked (given : Settings) :
      (overridden invocation given).validate.mapError ToolError.invalid = .ok settings ↔
        settings.fault? = none ∧ settings = overridden invocation given :=
    mapError_eq_ok.trans Settings.validate_eq_ok
  rw [settingsFor_eq, Configures]
  cases invocation.config with
  | none =>
      refine (checked .standard).trans (and_congr_right fun _ => ?_)
      constructor
      · intro same
        exact ⟨.standard, .builtIn, same⟩
      · rintro ⟨given, loads, same⟩
        cases loads
        exact same
  | some path =>
      simp only [← Settings.load_eq_ok]
      cases Settings.load files path with
      | error error => simp
      | ok given =>
          refine (checked given).trans (and_congr_right fun _ => ?_)
          simp

theorem Configures.unique {invocation : Invocation} {files : FileTree} {settings other : Settings}
    (configures : Configures invocation files settings)
    (alike : Configures invocation files other) : settings = other :=
  Except.ok.inj ((settingsFor_eq_ok.2 configures).symm.trans (settingsFor_eq_ok.2 alike))

/-- No run takes place without a time limit. -/
theorem settingsFor_timed {invocation : Invocation} {files : FileTree} {settings : Settings}
    (loaded : settingsFor invocation files = .ok settings) : 1 ≤ settings.timeoutMs := by
  obtain ⟨fine, -⟩ := settingsFor_eq_ok.1 loaded
  refine Nat.one_le_iff_ne_zero.mpr fun never => ?_
  rw [Settings.fault?, if_pos never] at fine
  cases fine

end Application

end CorpusJudge
