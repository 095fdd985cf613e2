import CorpusJudge.Proofs.Entries
import CorpusJudge.Proofs.Settings.Leaves
import Mathlib.Tactic.MkIffOfInductiveProp

/-!
# Statements

A settings document says about each member nothing, or once what it is.  Together that makes up a
statement, and the settings that the document gives are the built-in ones with what is stated put in
their place, member by member inside nested mappings as well.
-/

namespace CorpusJudge

variable {α β : Type}

namespace Yaml.Document

variable {document : Document} {node : Node} {entries : List (Node × Node)} {members : Members}
variable {known : List String} {name : String}

/-! ## Mappings and sequences -/

/-- The entries of a mapping; what is absent has none. -/
inductive Maps (document : Document) (node : Node) : List (Node × Node) → Prop where
  | written {entries : List (Node × Node)} :
      document.resolve node = .mapping entries → Maps document node entries
  | absent {tag : Option String} :
      document.resolve node = .scalar .plain tag "" → Maps document node []

/-- A mapping whose entries make up a value. -/
def States (document : Document) (MakeUp : List (Node × Node) → α → Prop) (node : Node) (value : α) :
    Prop :=
  ∃ entries, document.Maps node entries ∧ MakeUp entries value

/-- A sequence whose items read as values, one after the other. -/
def Lists (document : Document) (Reads : Node → α → Prop) (node : Node) (values : List α) : Prop :=
  ∃ items, document.Enumerates node items ∧ List.Forall₂ Reads items values

/-- What a mapping gives to a name, each time that the name stands in it. -/
abbrev givenTo (document : Document) (entries : List (Node × Node)) (name : String) : List Node :=
  Entries.givenTo document.text? entries name

/-- Every name of a mapping is known, and none stands twice. -/
structure Conforms (document : Document) (known : List String) (entries : List (Node × Node)) :
    Prop where
  known : ∀ entry ∈ entries, ∃ name ∈ known, document.text? entry.1 = some name
  once : ∀ name, (document.givenTo entries name).length ≤ 1

/-- What a mapping says about a name: nothing, or once what reads as a value. -/
inductive Says (document : Document) (entries : List (Node × Node)) (name : String)
    (Reads : Node → α → Prop) : Option α → Prop where
  | nothing : document.givenTo entries name = [] → Says document entries name Reads none
  | value {node : Node} {value : α} : document.givenTo entries name = [node] → Reads node value →
      Says document entries name Reads (some value)

/-! ## Members by name -/

theorem members?_eq_some : document.members? node = some members ↔
    ∃ entries, document.Maps node entries ∧ Entries.named? document.text? entries = some members := by
  unfold members?
  constructor
  · intro read
    split at read
    · next entries written => exact ⟨entries, .written written, read⟩
    · split at read
      · next absent =>
          obtain ⟨tag, scalar⟩ := isAbsent_iff.1 absent
          exact ⟨[], .absent scalar, read⟩
      · cases read
  · rintro ⟨entries, written | absent, read⟩
    · simp only [written]
      exact read
    · simp only [absent]
      exact read

theorem conformTo_iff (named : Entries.named? document.text? entries = some members) :
    Members.conformTo members known = true ↔ document.Conforms known entries := by
  have known_iff : (∀ member ∈ members, member.1 ∈ known) ↔
      ∀ entry ∈ entries, ∃ name ∈ known, document.text? entry.1 = some name := by
    calc (∀ member ∈ members, member.1 ∈ known)
      _ ↔ ∀ text ∈ members.map (some ·.1), ∃ name ∈ known, text = some name := by
        rw [List.forall_mem_map]
        simp only [Option.some.injEq, exists_eq_right']
      _ ↔ ∀ entry ∈ entries, ∃ name ∈ known, document.text? entry.1 = some name := by
        rw [Entries.map_some named, List.forall_mem_map]
  simp only [Members.conformTo, Bool.and_eq_true, List.all_eq_true, List.contains_iff_mem,
    decide_eq_true_eq, Entries.nodup_iff named, known_iff]
  exact ⟨fun ⟨known, once⟩ => ⟨known, once⟩, fun ⟨known, once⟩ => ⟨known, once⟩⟩

/-- The members of a mapping that conforms have names. -/
theorem Conforms.named (conforms : document.Conforms known entries) :
    ∃ members, Entries.named? document.text? entries = some members := by
  refine Entries.exists_named?_iff.2 fun entry listed => ?_
  obtain ⟨name, -, text⟩ := conforms.known entry listed
  exact ⟨name, text⟩

/-- A mapping is read exactly if it conforms and what its members come to can be read. -/
theorem bind_members?_eq_some {rest : Members → Option α} {value : α} :
    (do
      let members ← document.members? node
      guard (Members.conformTo members known)
      rest members) = some value ↔
      ∃ entries members, document.Maps node entries ∧
        Entries.named? document.text? entries = some members ∧
        document.Conforms known entries ∧ rest members = some value := by
  simp only [Option.bind_eq_bind, Option.bind_eq_some_iff, members?_eq_some, Option.guard_eq_some',
    exists_const]
  constructor
  · rintro ⟨members, ⟨entries, maps, named⟩, conforms, read⟩
    exact ⟨entries, members, maps, named, (conformTo_iff named).mp conforms, read⟩
  · rintro ⟨entries, members, maps, named, conforms, read⟩
    exact ⟨members, ⟨entries, maps, named⟩, (conformTo_iff named).mpr conforms, read⟩

/-! ## Values of members -/

theorem Conforms.given (conforms : document.Conforms known entries) (name : String) :
    document.givenTo entries name = [] ∨ ∃ node, document.givenTo entries name = [node] := by
  have once := conforms.once name
  cases given : document.givenTo entries name with
  | nil => exact .inl rfl
  | cons node others =>
      rw [given] at once
      exact .inr ⟨node, congrArg _ (List.eq_nil_of_length_eq_zero
        (Nat.le_zero.mp (Nat.le_of_succ_le_succ once)))⟩

theorem says_none_iff {Reads : Node → α → Prop} :
    document.Says entries name Reads none ↔ document.givenTo entries name = [] :=
  ⟨fun | .nothing given => given, .nothing⟩

theorem says_some_iff {Reads : Node → α → Prop} {value : α} :
    document.Says entries name Reads (some value) ↔
      ∃ node, document.givenTo entries name = [node] ∧ Reads node value :=
  ⟨fun | .value given reads => ⟨_, given, reads⟩, fun ⟨_, given, reads⟩ => .value given reads⟩

/-- A member that something with members of its own is said about has the value that this amounts
to. -/
theorem overlay?_iff_view (named : Entries.named? document.text? entries = some members)
    (conforms : document.Conforms known entries) {read? : Node → Option β} {Reads : Node → α → Prop}
    {view : α → β} {builtIn value : β}
    (reads : ∀ {node value},
      read? node = some value ↔ ∃ stated, Reads node stated ∧ view stated = value) :
    Members.overlay? members name builtIn read? = some value ↔
      ∃ stated, document.Says entries name Reads stated ∧ (stated.map view).getD builtIn = value := by
  unfold Members.overlay?
  rw [Entries.lookup_eq_head? named, Option.exists, says_none_iff]
  simp only [says_some_iff]
  rcases conforms.given name with given | ⟨node, given⟩
  · simp [given]
  · simp [given, reads]

/-- A member has the value that is said, or its own one. -/
theorem overlay?_iff (named : Entries.named? document.text? entries = some members)
    (conforms : document.Conforms known entries) {read? : Node → Option α} {Reads : Node → α → Prop}
    {builtIn value : α} (reads : ∀ {node value}, read? node = some value ↔ Reads node value) :
    Members.overlay? members name builtIn read? = some value ↔
      ∃ stated, document.Says entries name Reads stated ∧ stated.getD builtIn = value := by
  have itself {node : Node} {value : α} :
      read? node = some value ↔ ∃ stated, Reads node stated ∧ id stated = value := by
    simp [reads]
  rw [overlay?_iff_view named conforms itself]
  simp only [Option.map_id_fun, id_eq]

/-- A member that is required has the value that is said. -/
theorem require?_iff (named : Entries.named? document.text? entries = some members)
    (conforms : document.Conforms known entries) {read? : Node → Option α} {Reads : Node → α → Prop}
    {value : α} (reads : ∀ {node value}, read? node = some value ↔ Reads node value) :
    Members.require? members name read? = some value ↔
      document.Says entries name Reads (some value) := by
  unfold Members.require?
  rw [Entries.lookup_eq_head? named, says_some_iff]
  rcases conforms.given name with given | ⟨node, given⟩
  · simp [given]
  · simp [given, reads]

theorem mapM_eq_some_iff {read? : Node → Option α} {Reads : Node → α → Prop} {items : List Node}
    {values : List α} (reads : ∀ {node value}, read? node = some value ↔ Reads node value) :
    items.mapM read? = some values ↔ List.Forall₂ Reads items values := by
  induction items generalizing values with
  | nil =>
      rw [List.mapM_nil, List.forall₂_nil_left_iff]
      exact Option.some_inj.trans eq_comm
  | cons item items ih =>
      simp only [List.mapM_cons, Option.bind_eq_bind, Option.bind_eq_some_iff, Option.pure_def,
        Option.some.injEq, ih, reads, List.forall₂_cons_left_iff]
      constructor
      · rintro ⟨value, read, rest, reads, rfl⟩
        exact ⟨value, rest, read, reads, rfl⟩
      · rintro ⟨value, rest, read, reads, rfl⟩
        exact ⟨value, read, rest, reads, rfl⟩

theorem texts?_eq_some {texts : List String} :
    document.texts? node = some texts ↔ document.Lists document.IsText node texts := by
  simp only [texts?, Option.bind_eq_bind, Option.bind_eq_some_iff, items?_eq_some,
    mapM_eq_some_iff text?_eq_some]
  rfl

end Yaml.Document

namespace Settings

open Yaml (Document Node)

variable {document : Document} {node : Node}

/-! ## What settings documents state -/

/-- What is stated about the interpreter. -/
structure InterpreterStatement where
  program : Option String
  arguments : Option (List String)

/-- What is stated about the problems to leave out. -/
structure ExclusionsStatement where
  exact : Option (List String)
  caseless : Option (List String)

/-- What is stated about the rules of eligibility. -/
structure RulesStatement where
  minDate : Option Instant
  windows : Option (List Window)
  rejected : Option (List String)

/-- What is stated about a run. -/
structure Statement where
  corpusDir : Option Path
  solutionsSubdir : Option String
  metadataFile : Option String
  metadataUrl : Option String
  interpreter : Option InterpreterStatement
  timeoutMs : Option Nat
  exclusions : Option ExclusionsStatement
  rules : Option RulesStatement

/-- The command that a statement makes of the one below it. -/
def InterpreterStatement.onto (stated : InterpreterStatement) (builtIn : InterpreterCommand) :
    InterpreterCommand where
  program := stated.program.getD builtIn.program
  arguments := stated.arguments.getD builtIn.arguments

/-- The problems to leave out that a statement makes of those below it. -/
def ExclusionsStatement.onto (stated : ExclusionsStatement) (builtIn : Exclusions) : Exclusions where
  exact := stated.exact.getD builtIn.exact
  caseless := stated.caseless.getD builtIn.caseless

/-- The rules that a statement makes of those below it. -/
def RulesStatement.onto (stated : RulesStatement) (builtIn : Rules) : Rules where
  minDate := stated.minDate.getD builtIn.minDate
  windows := stated.windows.getD builtIn.windows
  rejected := stated.rejected.getD builtIn.rejected

/-- The settings that a statement makes of those below it. -/
def Statement.onto (stated : Statement) (builtIn : Settings) : Settings where
  corpusDir := stated.corpusDir.getD builtIn.corpusDir
  solutionsSubdir := stated.solutionsSubdir.getD builtIn.solutionsSubdir
  metadataFile := stated.metadataFile.getD builtIn.metadataFile
  metadataUrl := stated.metadataUrl.getD builtIn.metadataUrl
  interpreter := (stated.interpreter.map (·.onto builtIn.interpreter)).getD builtIn.interpreter
  timeoutMs := stated.timeoutMs.getD builtIn.timeoutMs
  exclusions := (stated.exclusions.map (·.onto builtIn.exclusions)).getD builtIn.exclusions
  rules := (stated.rules.map (·.onto builtIn.rules)).getD builtIn.rules

/-- The names of the members of a window. -/
def windowNames : List String := ["author_prefix", "center", "radius_secs"]

/-- The names of the members of an interpreter command. -/
def interpreterNames : List String := ["program", "args"]

/-- The names of the members of the problems to leave out. -/
def exclusionsNames : List String := ["problems", "problems_case_insensitive"]

/-- The names of the members of the rules of eligibility. -/
def rulesNames : List String := ["min_date", "carve_outs", "rejected_patterns"]

/-- The entries state an interpreter command. -/
@[mk_iff]
structure StatesInterpreter (document : Document) (entries : List (Node × Node))
    (stated : InterpreterStatement) : Prop where
  conforms : document.Conforms interpreterNames entries
  program : document.Says entries "program" document.IsText stated.program
  arguments : document.Says entries "args" (document.Lists document.IsText)
    stated.arguments

/-- The entries state problems to leave out. -/
@[mk_iff]
structure StatesExclusions (document : Document) (entries : List (Node × Node))
    (stated : ExclusionsStatement) : Prop where
  conforms : document.Conforms exclusionsNames entries
  exact : document.Says entries "problems" (document.Lists document.IsText) stated.exact
  caseless : document.Says entries "problems_case_insensitive"
    (document.Lists document.IsText) stated.caseless

/-- The entries state all of a window. -/
@[mk_iff]
structure StatesWindow (document : Document) (entries : List (Node × Node)) (window : Window) :
    Prop where
  conforms : document.Conforms windowNames entries
  author : document.Says entries "author_prefix" document.IsText (some window.author)
  center : document.Says entries "center" document.IsInteger (some window.center)
  radius : document.Says entries "radius_secs" document.IsInteger (some window.radius)

/-- The entries state rules of eligibility. -/
@[mk_iff]
structure StatesRules (document : Document) (entries : List (Node × Node))
    (stated : RulesStatement) : Prop where
  conforms : document.Conforms rulesNames entries
  minDate : document.Says entries "min_date" document.IsInstant stated.minDate
  windows : document.Says entries "carve_outs" (document.Lists (document.States (StatesWindow document)))
    stated.windows
  rejected : document.Says entries "rejected_patterns" (document.Lists document.IsText)
    stated.rejected

/-- The entries state settings. -/
@[mk_iff]
structure StatesSettings (document : Document) (entries : List (Node × Node)) (stated : Statement) :
    Prop where
  conforms : document.Conforms memberNames entries
  corpusDir : document.Says entries "corpus_dir"
    (fun node path => document.IsText node path.text) stated.corpusDir
  solutionsSubdir : document.Says entries "solutions_subdir" document.IsText
    stated.solutionsSubdir
  metadataFile : document.Says entries "metadata_file" document.IsText
    stated.metadataFile
  metadataUrl : document.Says entries "metadata_url" document.IsText stated.metadataUrl
  interpreter : document.Says entries "interpreter"
    (document.States (StatesInterpreter document)) stated.interpreter
  timeoutMs : document.Says entries "timeout_ms" document.IsNatural stated.timeoutMs
  exclusions : document.Says entries "exclude" (document.States (StatesExclusions document))
    stated.exclusions
  rules : document.Says entries "eligibility" (document.States (StatesRules document))
    stated.rules

/-! ## What settings documents give -/

theorem interpreterOf?_eq_some {command : InterpreterCommand} :
    interpreterOf? document node = some command ↔
      ∃ stated, document.States (StatesInterpreter document) node stated ∧
        stated.onto .standard = command := by
  unfold interpreterOf?
  rw [Document.bind_members?_eq_some]
  simp only [Option.bind_eq_bind, Option.bind_eq_some_iff, Option.pure_def, Option.some.injEq]
  constructor
  · rintro ⟨entries, members, maps, named, conforms, _, readProgram, _, readArguments, rfl⟩
    obtain ⟨program, saysProgram, rfl⟩ :=
      (Document.overlay?_iff named conforms Document.text?_eq_some).mp readProgram
    obtain ⟨arguments, saysArguments, rfl⟩ :=
      (Document.overlay?_iff named conforms Document.texts?_eq_some).mp readArguments
    exact ⟨⟨program, arguments⟩, ⟨entries, maps, conforms, saysProgram, saysArguments⟩, rfl⟩
  · rintro ⟨stated, ⟨entries, maps, states⟩, rfl⟩
    have conforms := states.conforms
    obtain ⟨members, named⟩ := conforms.named
    exact ⟨entries, members, maps, named, conforms,
      _, (Document.overlay?_iff named conforms Document.text?_eq_some).mpr ⟨_, states.program, rfl⟩,
      _, (Document.overlay?_iff named conforms Document.texts?_eq_some).mpr ⟨_, states.arguments, rfl⟩,
      rfl⟩

theorem exclusionsOf?_eq_some {exclusions : Exclusions} :
    exclusionsOf? document node = some exclusions ↔
      ∃ stated, document.States (StatesExclusions document) node stated ∧
        stated.onto .standard = exclusions := by
  unfold exclusionsOf?
  rw [Document.bind_members?_eq_some]
  simp only [Option.bind_eq_bind, Option.bind_eq_some_iff, Option.pure_def, Option.some.injEq]
  constructor
  · rintro ⟨entries, members, maps, named, conforms, _, readExact, _, readCaseless, rfl⟩
    obtain ⟨exact, saysExact, rfl⟩ :=
      (Document.overlay?_iff named conforms Document.texts?_eq_some).mp readExact
    obtain ⟨caseless, saysCaseless, rfl⟩ :=
      (Document.overlay?_iff named conforms Document.texts?_eq_some).mp readCaseless
    exact ⟨⟨exact, caseless⟩, ⟨entries, maps, conforms, saysExact, saysCaseless⟩, rfl⟩
  · rintro ⟨stated, ⟨entries, maps, states⟩, rfl⟩
    have conforms := states.conforms
    obtain ⟨members, named⟩ := conforms.named
    exact ⟨entries, members, maps, named, conforms,
      _, (Document.overlay?_iff named conforms Document.texts?_eq_some).mpr ⟨_, states.exact, rfl⟩,
      _, (Document.overlay?_iff named conforms Document.texts?_eq_some).mpr ⟨_, states.caseless, rfl⟩,
      rfl⟩

theorem windowOf?_eq_some {window : Window} :
    windowOf? document node = some window ↔ document.States (StatesWindow document) node window := by
  unfold windowOf?
  rw [Document.bind_members?_eq_some]
  simp only [Option.bind_eq_bind, Option.bind_eq_some_iff, Option.pure_def, Option.some.injEq]
  constructor
  · rintro ⟨entries, members, maps, named, conforms, _, author, _, center, _, radius, rfl⟩
    exact ⟨entries, maps, conforms, (Document.require?_iff named conforms Document.text?_eq_some).mp author,
      (Document.require?_iff named conforms Document.integer?_eq_some).mp center,
      (Document.require?_iff named conforms Document.integer?_eq_some).mp radius⟩
  · rintro ⟨entries, maps, states⟩
    have conforms := states.conforms
    obtain ⟨members, named⟩ := conforms.named
    exact ⟨entries, members, maps, named, conforms,
      _, (Document.require?_iff named conforms Document.text?_eq_some).mpr states.author,
      _, (Document.require?_iff named conforms Document.integer?_eq_some).mpr states.center,
      _, (Document.require?_iff named conforms Document.integer?_eq_some).mpr states.radius, rfl⟩

theorem windowsOf?_eq_some {windows : List Window} : windowsOf? document node = some windows ↔
    document.Lists (document.States (StatesWindow document)) node windows := by
  simp only [windowsOf?, Option.bind_eq_bind, Option.bind_eq_some_iff, Document.items?_eq_some,
    Document.mapM_eq_some_iff windowOf?_eq_some]
  rfl

theorem rulesOf?_eq_some {rules : Rules} :
    rulesOf? document node = some rules ↔
      ∃ stated, document.States (StatesRules document) node stated ∧
        stated.onto .standard = rules := by
  unfold rulesOf?
  rw [Document.bind_members?_eq_some]
  simp only [Option.bind_eq_bind, Option.bind_eq_some_iff, Option.pure_def, Option.some.injEq]
  constructor
  · rintro ⟨entries, members, maps, named, conforms, _, readDate, _, readWindows, _, readRejected,
      rfl⟩
    obtain ⟨date, saysDate, rfl⟩ :=
      (Document.overlay?_iff named conforms Document.instant?_eq_some).mp readDate
    obtain ⟨windows, saysWindows, rfl⟩ :=
      (Document.overlay?_iff named conforms windowsOf?_eq_some).mp readWindows
    obtain ⟨rejected, saysRejected, rfl⟩ :=
      (Document.overlay?_iff named conforms Document.texts?_eq_some).mp readRejected
    exact ⟨⟨date, windows, rejected⟩,
      ⟨entries, maps, conforms, saysDate, saysWindows, saysRejected⟩, rfl⟩
  · rintro ⟨stated, ⟨entries, maps, states⟩, rfl⟩
    have conforms := states.conforms
    obtain ⟨members, named⟩ := conforms.named
    exact ⟨entries, members, maps, named, conforms,
      _, (Document.overlay?_iff named conforms Document.instant?_eq_some).mpr ⟨_, states.minDate, rfl⟩,
      _, (Document.overlay?_iff named conforms windowsOf?_eq_some).mpr ⟨_, states.windows, rfl⟩,
      _, (Document.overlay?_iff named conforms Document.texts?_eq_some).mpr ⟨_, states.rejected, rfl⟩,
      rfl⟩

theorem path?_eq_some {path : Path} :
    (document.text? node).map Path.mk = some path ↔ document.IsText node path.text := by
  rw [Option.map_eq_some_iff, ← Document.text?_eq_some]
  constructor
  · rintro ⟨_, text, rfl⟩
    exact text
  · intro text
    exact ⟨path.text, text, rfl⟩

theorem bind_ofMembers?_eq_some {settings : Settings} :
    (document.members? node).bind (ofMembers? document) = some settings ↔
      ∃ stated, document.States (StatesSettings document) node stated ∧
        stated.onto .standard = settings := by
  unfold ofMembers?
  rw [← Option.bind_eq_bind, Document.bind_members?_eq_some]
  simp only [Option.bind_eq_bind, Option.bind_eq_some_iff, Option.pure_def, Option.some.injEq]
  constructor
  · rintro ⟨entries, members, maps, named, conforms, _, readCorpus, _, readSolutions, _, readMetadata,
      _, readUrl, _, readInterpreter, _, readTimeout, _, readExclusions, _, readRules, rfl⟩
    obtain ⟨corpus, saysCorpus, rfl⟩ :=
      (Document.overlay?_iff named conforms path?_eq_some).mp readCorpus
    obtain ⟨solutions, saysSolutions, rfl⟩ :=
      (Document.overlay?_iff named conforms Document.text?_eq_some).mp readSolutions
    obtain ⟨metadata, saysMetadata, rfl⟩ :=
      (Document.overlay?_iff named conforms Document.text?_eq_some).mp readMetadata
    obtain ⟨url, saysUrl, rfl⟩ := (Document.overlay?_iff named conforms Document.text?_eq_some).mp readUrl
    obtain ⟨interpreter, saysInterpreter, rfl⟩ :=
      (Document.overlay?_iff_view named conforms interpreterOf?_eq_some).mp readInterpreter
    obtain ⟨timeout, saysTimeout, rfl⟩ :=
      (Document.overlay?_iff named conforms Document.natural?_eq_some).mp readTimeout
    obtain ⟨exclusions, saysExclusions, rfl⟩ :=
      (Document.overlay?_iff_view named conforms exclusionsOf?_eq_some).mp readExclusions
    obtain ⟨rules, saysRules, rfl⟩ :=
      (Document.overlay?_iff_view named conforms rulesOf?_eq_some).mp readRules
    exact ⟨⟨corpus, solutions, metadata, url, interpreter, timeout, exclusions, rules⟩,
      ⟨entries, maps, conforms, saysCorpus, saysSolutions, saysMetadata, saysUrl, saysInterpreter,
        saysTimeout, saysExclusions, saysRules⟩, rfl⟩
  · rintro ⟨stated, ⟨entries, maps, states⟩, rfl⟩
    have conforms := states.conforms
    obtain ⟨members, named⟩ := conforms.named
    exact ⟨entries, members, maps, named, conforms,
      _, (Document.overlay?_iff named conforms path?_eq_some).mpr ⟨_, states.corpusDir, rfl⟩,
      _, (Document.overlay?_iff named conforms Document.text?_eq_some).mpr
        ⟨_, states.solutionsSubdir, rfl⟩,
      _, (Document.overlay?_iff named conforms Document.text?_eq_some).mpr
        ⟨_, states.metadataFile, rfl⟩,
      _, (Document.overlay?_iff named conforms Document.text?_eq_some).mpr
        ⟨_, states.metadataUrl, rfl⟩,
      _, (Document.overlay?_iff_view named conforms interpreterOf?_eq_some).mpr
        ⟨_, states.interpreter, rfl⟩,
      _, (Document.overlay?_iff named conforms Document.natural?_eq_some).mpr ⟨_, states.timeoutMs, rfl⟩,
      _, (Document.overlay?_iff_view named conforms exclusionsOf?_eq_some).mpr
        ⟨_, states.exclusions, rfl⟩,
      _, (Document.overlay?_iff_view named conforms rulesOf?_eq_some).mpr ⟨_, states.rules, rfl⟩,
      rfl⟩

/-- A document with content gives settings exactly if its content states some. -/
theorem ofDocument?_eq_some {settings : Settings} (held : document.content = some node) :
    ofDocument? document = some settings ↔
      ∃ stated, document.States (StatesSettings document) node stated ∧
        stated.onto .standard = settings := by
  unfold ofDocument?
  rw [held]
  exact bind_ofMembers?_eq_some

end Settings

end CorpusJudge
