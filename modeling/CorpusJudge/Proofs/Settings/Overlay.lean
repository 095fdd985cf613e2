import CorpusJudge.Proofs.Application.Configuring
import CorpusJudge.Proofs.Eligibility.Times
import CorpusJudge.Proofs.Settings.Statements

/-!
# Overlaying the built-in settings

What a settings document states replaces the built-in settings member by member, whatever the order in
which it is stated.  A mapping with a name that is unknown or stands twice spoils the document wherever
it lies, and so does a window that leaves a member out.  Settings that come out of it can be used.
-/

namespace CorpusJudge

variable {α : Type}

namespace Yaml.Document

variable {document other : Document} {node moved : Node} {entries others : List (Node × Node)}
variable {name : String} {known : List String}

/-! ## Order of members -/

/-- A node of one document says the same as a node of another, but for the order of entries. -/
inductive Rearranged (document other : Document) : Node → Node → Prop where
  | scalar {node moved : Node} {style : Style} {tag : Option String} {text : String} :
      document.resolve node = .scalar style tag text →
      other.resolve moved = .scalar style tag text → Rearranged document other node moved
  | sequence {node moved : Node} {items others : List Node} :
      document.resolve node = .sequence items → other.resolve moved = .sequence others →
      List.Forall₂ (Rearranged document other) items others → Rearranged document other node moved
  | mapping {node moved : Node} {entries shuffled others : List (Node × Node)} :
      document.resolve node = .mapping entries → other.resolve moved = .mapping others →
      entries.Perm shuffled →
      shuffled.map (document.text? ·.1) = others.map (other.text? ·.1) →
      List.Forall₂ (Rearranged document other) (shuffled.map (·.2)) (others.map (·.2)) →
      Rearranged document other node moved

/-- The entries have the same names with values that say the same, but for their order. -/
def Reordered (document other : Document) (entries others : List (Node × Node)) : Prop :=
  ∃ shuffled, entries.Perm shuffled ∧
    shuffled.map (document.text? ·.1) = others.map (other.text? ·.1) ∧
    List.Forall₂ (Rearranged document other) (shuffled.map (·.2)) (others.map (·.2))

namespace Rearranged

theorem text? (same : Rearranged document other node moved) :
    document.text? node = other.text? moved := by
  cases same with
  | scalar one two => simp [Document.text?, one, two]
  | sequence one two => simp [Document.text?, one, two]
  | mapping one two => simp [Document.text?, one, two]

theorem numeral? (same : Rearranged document other node moved) :
    document.numeral? node = other.numeral? moved := by
  cases same with
  | scalar one two => simp [Document.numeral?, one, two]
  | sequence one two => simp [Document.numeral?, one, two]
  | mapping one two => simp [Document.numeral?, one, two]

theorem isText_iff (same : Rearranged document other node moved) (text : String) :
    document.IsText node text ↔ other.IsText moved text := by
  rw [← text?_eq_some, ← text?_eq_some, same.text?]

theorem isNatural_iff (same : Rearranged document other node moved) (value : Nat) :
    document.IsNatural node value ↔ other.IsNatural moved value := by
  rw [← natural?_eq_some, ← natural?_eq_some, Document.natural?, Document.natural?, same.numeral?]

theorem isInteger_iff (same : Rearranged document other node moved) (value : Int) :
    document.IsInteger node value ↔ other.IsInteger moved value := by
  rw [← integer?_eq_some, ← integer?_eq_some, Document.integer?, Document.integer?, same.numeral?]

theorem isInstant_iff (same : Rearranged document other node moved) (instant : Instant) :
    document.IsInstant node instant ↔ other.IsInstant moved instant := by
  rw [← instant?_eq_some, ← instant?_eq_some, same.text?]

theorem items? (same : Rearranged document other node moved) :
    Option.Rel (List.Forall₂ (Rearranged document other)) (document.items? node)
      (other.items? moved) := by
  cases same with
  | @scalar _ _ style tag text one two =>
      simp only [Document.items?, one, two]
      split
      · exact .some .nil
      · exact .none
  | sequence one two same =>
      simp only [Document.items?, one, two]
      exact .some same
  | mapping one two =>
      simp only [Document.items?, one, two, isAbsent]
      exact .none

theorem lists_iff (same : Rearranged document other node moved) {Reads Alike : Node → α → Prop}
    (reads : ∀ {node moved}, Rearranged document other node moved →
      ∀ value, Reads node value ↔ Alike moved value) (values : List α) :
    document.Lists Reads node values ↔ other.Lists Alike moved values := by
  have pointwise {items others : List Node} (corresponds : List.Forall₂ (Rearranged document other)
      items others) (values : List α) :
      List.Forall₂ Reads items values ↔ List.Forall₂ Alike others values := by
    induction corresponds generalizing values with
    | nil => simp only [List.forall₂_nil_left_iff]
    | cons first _ ih => simp only [List.forall₂_cons_left_iff, reads first, ih]
  have items := same.items?
  simp only [Lists, ← items?_eq_some]
  generalize document.items? node = given at items ⊢
  generalize other.items? moved = taken at items ⊢
  cases items with
  | none => simp
  | some corresponds => simp [pointwise corresponds]

end Rearranged

theorem Maps.of_scalar {style : Style} {tag : Option String} {text : String}
    (scalar : document.resolve node = .scalar style tag text) :
    document.Maps node entries ↔ entries = [] ∧ style = .plain ∧ text = "" := by
  constructor
  · rintro (written | absent)
    · cases scalar.symm.trans written
    · cases scalar.symm.trans absent
      exact ⟨rfl, rfl, rfl⟩
  · rintro ⟨rfl, rfl, rfl⟩
    exact .absent scalar

theorem Maps.of_mapping (written : document.resolve node = .mapping entries) :
    document.Maps node others ↔ others = entries := by
  constructor
  · rintro (alike | absent)
    · exact (Node.mapping.inj (written.symm.trans alike)).symm
    · cases written.symm.trans absent
  · rintro rfl
    exact .written written

theorem Maps.of_sequence {items : List Node} (sequence : document.resolve node = .sequence items) :
    ¬ document.Maps node entries := by
  rintro (written | absent)
  · cases sequence.symm.trans written
  · cases sequence.symm.trans absent

theorem reordered_nil : document.Reordered other [] [] :=
  ⟨[], .refl [], rfl, .nil⟩

theorem Rearranged.states_iff (same : Rearranged document other node moved)
    {MakeUp Alike : List (Node × Node) → α → Prop}
    (makeUp : ∀ {entries others}, Reordered document other entries others →
      ∀ value, MakeUp entries value ↔ Alike others value) (value : α) :
    document.States MakeUp node value ↔ other.States Alike moved value := by
  unfold States
  cases same with
  | scalar one two =>
      simp only [Maps.of_scalar one, Maps.of_scalar two, and_assoc, exists_eq_left,
        makeUp reordered_nil value]
  | sequence one two =>
      simp only [Maps.of_sequence one, Maps.of_sequence two, false_and, exists_false]
  | mapping one two moved names values =>
      simp only [Maps.of_mapping one, Maps.of_mapping two, exists_eq_left,
        makeUp ⟨_, moved, names, values⟩ value]

namespace Reordered

theorem givenTo (reordered : Reordered document other entries others) (name : String) :
    ∃ shuffled, (document.givenTo entries name).Perm shuffled ∧
      List.Forall₂ (Rearranged document other) shuffled (other.givenTo others name) := by
  obtain ⟨shuffled, moved, names, values⟩ := reordered
  refine ⟨document.givenTo shuffled name, Entries.givenTo_perm moved name, ?_⟩
  clear moved
  induction shuffled generalizing others with
  | nil =>
      obtain rfl := List.map_eq_nil_iff.mp names.symm
      exact .nil
  | cons entry shuffled ih =>
      cases others with
      | nil => cases names
      | cons moved others =>
          obtain ⟨sameName, names⟩ := List.cons.inj names
          obtain ⟨first, values⟩ := List.forall₂_cons.mp values
          have rest := ih names values
          unfold Document.givenTo Entries.givenTo at rest ⊢
          simp only [List.filterMap_cons, show document.text? entry.1 = other.text? moved.1 from sameName]
          by_cases named : other.text? moved.1 = some name
          · simp only [if_pos named]
            exact .cons first rest
          · simp only [if_neg named]
            exact rest

theorem conforms_iff (reordered : Reordered document other entries others) :
    document.Conforms known entries ↔ other.Conforms known others := by
  have lengths (name : String) :
      (document.givenTo entries name).length = (other.givenTo others name).length := by
    obtain ⟨shuffled, moved, corresponds⟩ := reordered.givenTo name
    exact moved.length_eq.trans corresponds.length_eq
  have everyName : (∀ entry ∈ entries, ∃ name ∈ known, document.text? entry.1 = some name) ↔
      ∀ entry ∈ others, ∃ name ∈ known, other.text? entry.1 = some name := by
    obtain ⟨shuffled, moved, names, -⟩ := reordered
    have sameNames := (moved.map (document.text? ·.1)).trans (.of_eq names)
    have mapped {one : Document} {entries : List (Node × Node)} :
        (∀ entry ∈ entries, ∃ name ∈ known, one.text? entry.1 = some name) ↔
          ∀ text ∈ entries.map (one.text? ·.1), ∃ name ∈ known, text = some name := by
      rw [List.forall_mem_map]
    rw [mapped, mapped]
    exact forall_congr' fun text => by rw [sameNames.mem_iff]
  constructor
  · rintro ⟨known, once⟩
    exact ⟨everyName.mp known, fun name => lengths name ▸ once name⟩
  · rintro ⟨known, once⟩
    exact ⟨everyName.mpr known, fun name => lengths name ▸ once name⟩

theorem says_iff (reordered : Reordered document other entries others)
    {Reads Alike : Node → α → Prop} (reads : ∀ {node moved}, Rearranged document other node moved →
      ∀ value, Reads node value ↔ Alike moved value) (stated : Option α) :
    document.Says entries name Reads stated ↔ other.Says others name Alike stated := by
  obtain ⟨shuffled, moved, corresponds⟩ := reordered.givenTo name
  cases stated with
  | none =>
      rw [says_none_iff, says_none_iff, ← List.length_eq_zero_iff, ← List.length_eq_zero_iff,
        moved.length_eq, corresponds.length_eq]
  | some value =>
      rw [says_some_iff, says_some_iff]
      constructor
      · rintro ⟨node, given, read⟩
        rw [given] at moved
        obtain rfl := List.perm_singleton.mp moved.symm
        obtain ⟨taken, _, same, none, given⟩ := List.forall₂_cons_left_iff.mp corresponds
        cases none
        exact ⟨taken, given, (reads same value).mp read⟩
      · rintro ⟨taken, given, read⟩
        rw [given] at corresponds
        obtain ⟨node, _, same, none, rfl⟩ := List.forall₂_cons_right_iff.mp corresponds
        cases none
        exact ⟨node, List.perm_singleton.mp moved, (reads same value).mpr read⟩

end Reordered

/-! ## Mappings inside a document -/

/-- A mapping gives the node to a name. -/
def Under (document : Document) (name : String) (parent node : Node) : Prop :=
  ∃ entries, document.resolve parent = .mapping entries ∧ node ∈ document.givenTo entries name

theorem Says.reads {Reads : Node → α → Prop} {stated : Option α}
    (said : document.Says entries name Reads stated) (given : node ∈ document.givenTo entries name) :
    ∃ value, Reads node value := by
  cases said with
  | nothing none =>
      rw [none] at given
      cases given
  | @value _ value single reads =>
      rw [single, List.mem_singleton] at given
      exact ⟨value, given ▸ reads⟩

/-- What is written in a mapping that states something makes it up. -/
theorem States.makeUp {MakeUp : List (Node × Node) → α → Prop} {value : α}
    (states : document.States MakeUp node value) (written : document.resolve node = .mapping entries) :
    MakeUp entries value := by
  obtain ⟨_, maps, makeUp⟩ := states
  exact (Maps.of_mapping written).mp maps ▸ makeUp

theorem Lists.reads {Reads : Node → α → Prop} {values : List α} {items : List Node}
    (lists : document.Lists Reads node values) (written : document.resolve node = .sequence items)
    {item : Node} (listed : item ∈ items) : ∃ value, Reads item value := by
  obtain ⟨others, enumerates, reads⟩ := lists
  obtain rfl : items = others := by
    cases enumerates with
    | written alike => exact Node.sequence.inj (written.symm.trans alike)
    | absent scalar => cases written.symm.trans scalar
  clear enumerates written
  induction reads with
  | nil => cases listed
  | cons first _ ih =>
      rcases List.mem_cons.mp listed with rfl | listed
      · exact ⟨_, first⟩
      · exact ih listed

end Yaml.Document

namespace Settings

open Yaml (Document Node)

variable {document other : Document} {node moved content : Node} {entries others : List (Node × Node)}
variable {name : String} {known : List String}

/-! ## Order of what is stated -/

section Reordered

variable (reordered : document.Reordered other entries others)
include reordered

theorem says_text (stated : Option String) :
    document.Says entries name document.IsText stated ↔ other.Says others name other.IsText stated :=
  reordered.says_iff (fun same => same.isText_iff) stated

theorem says_texts (stated : Option (List String)) :
    document.Says entries name (document.Lists document.IsText) stated ↔
      other.Says others name (other.Lists other.IsText) stated :=
  reordered.says_iff (fun same => same.lists_iff fun same => same.isText_iff) stated

theorem says_integer (stated : Option Int) :
    document.Says entries name document.IsInteger stated ↔
      other.Says others name other.IsInteger stated :=
  reordered.says_iff (fun same => same.isInteger_iff) stated

theorem statesInterpreter_reordered (stated : InterpreterStatement) :
    StatesInterpreter document entries stated ↔ StatesInterpreter other others stated := by
  rw [statesInterpreter_iff, statesInterpreter_iff, reordered.conforms_iff, says_text reordered,
    says_texts reordered]

theorem statesExclusions_reordered (stated : ExclusionsStatement) :
    StatesExclusions document entries stated ↔ StatesExclusions other others stated := by
  rw [statesExclusions_iff, statesExclusions_iff, reordered.conforms_iff, says_texts reordered,
    says_texts reordered]

theorem statesWindow_reordered (window : Window) :
    StatesWindow document entries window ↔ StatesWindow other others window := by
  rw [statesWindow_iff, statesWindow_iff, reordered.conforms_iff, says_text reordered,
    says_integer reordered, says_integer reordered]

theorem statesRules_reordered (stated : RulesStatement) :
    StatesRules document entries stated ↔ StatesRules other others stated := by
  have date : document.Says entries "min_date" document.IsInstant stated.minDate ↔
      other.Says others "min_date" other.IsInstant stated.minDate :=
    reordered.says_iff (fun same => same.isInstant_iff) _
  have windows : document.Says entries "carve_outs"
      (document.Lists (document.States (StatesWindow document))) stated.windows ↔
      other.Says others "carve_outs" (other.Lists (other.States (StatesWindow other)))
        stated.windows :=
    reordered.says_iff
      (fun same => same.lists_iff fun same => same.states_iff statesWindow_reordered) _
  rw [statesRules_iff, statesRules_iff, reordered.conforms_iff, date, windows, says_texts reordered]

theorem statesSettings_reordered (stated : Statement) :
    StatesSettings document entries stated ↔ StatesSettings other others stated := by
  have path : document.Says entries "corpus_dir"
      (fun node path => document.IsText node path.text) stated.corpusDir ↔
      other.Says others "corpus_dir" (fun node path => other.IsText node path.text)
        stated.corpusDir :=
    reordered.says_iff (fun same path => same.isText_iff path.text) _
  have natural : document.Says entries "timeout_ms" document.IsNatural stated.timeoutMs ↔
      other.Says others "timeout_ms" other.IsNatural stated.timeoutMs :=
    reordered.says_iff (fun same => same.isNatural_iff) _
  have nested {α : Type} {name : String} {One Two : List (Node × Node) → α → Prop} {said : Option α}
      (alike : ∀ {entries others}, document.Reordered other entries others →
        ∀ value, One entries value ↔ Two others value) :
      document.Says entries name (document.States One) said ↔
        other.Says others name (other.States Two) said :=
    reordered.says_iff (fun same => same.states_iff alike) said
  rw [statesSettings_iff, statesSettings_iff, reordered.conforms_iff, path, natural,
    says_text reordered, says_text reordered, says_text reordered,
    nested statesInterpreter_reordered, nested statesExclusions_reordered,
    nested statesRules_reordered]

end Reordered

/-- The order of entries does not matter for the settings of a document. -/
theorem ofDocument?_rearranged (held : document.content = some node)
    (heldElsewhere : other.content = some moved) (same : document.Rearranged other node moved) :
    ofDocument? document = ofDocument? other := by
  refine Option.ext fun settings => ?_
  rw [ofDocument?_eq_some held, ofDocument?_eq_some heldElsewhere]
  exact exists_congr fun stated => and_congr_left fun _ =>
    same.states_iff statesSettings_reordered stated

/-! ## Mappings that spoil a document -/

/-- The node is an item of the windows that the content of a document lists. -/
inductive IsWindow (document : Document) (content : Node) : Node → Prop where
  | item {rules windows node : Node} {items : List Node} :
      document.Under "eligibility" content rules → document.Under "carve_outs" rules windows →
      document.resolve windows = .sequence items → node ∈ items → IsWindow document content node

/-- The node stands where the content of a document has a mapping with certain names. -/
inductive Level (document : Document) (content : Node) : List String → Node → Prop where
  | top : Level document content memberNames content
  | interpreter {node : Node} : document.Under "interpreter" content node →
      Level document content interpreterNames node
  | exclusions {node : Node} : document.Under "exclude" content node →
      Level document content exclusionsNames node
  | rules {node : Node} : document.Under "eligibility" content node →
      Level document content rulesNames node
  | window {node : Node} : IsWindow document content node → Level document content windowNames node

variable {stated : Statement}

/-- Every window that is listed is stated. -/
theorem IsWindow.states (isWindow : IsWindow document content node)
    (states : document.States (StatesSettings document) content stated) :
    ∃ window, document.States (StatesWindow document) node window := by
  obtain ⟨⟨_, top, inTop⟩, ⟨_, rules, inRules⟩, sequence, listed⟩ := isWindow
  obtain ⟨_, statesRules⟩ := (states.makeUp top).rules.reads inTop
  obtain ⟨_, lists⟩ := (statesRules.makeUp rules).windows.reads inRules
  exact lists.reads sequence listed

/-- Every mapping of a document that states settings conforms. -/
theorem Level.conforms (level : Level document content known node)
    (states : document.States (StatesSettings document) content stated)
    (written : document.resolve node = .mapping entries) : document.Conforms known entries := by
  cases level with
  | top => exact (states.makeUp written).conforms
  | interpreter under =>
      obtain ⟨_, top, inTop⟩ := under
      obtain ⟨_, nested⟩ := (states.makeUp top).interpreter.reads inTop
      exact (nested.makeUp written).conforms
  | exclusions under =>
      obtain ⟨_, top, inTop⟩ := under
      obtain ⟨_, nested⟩ := (states.makeUp top).exclusions.reads inTop
      exact (nested.makeUp written).conforms
  | rules under =>
      obtain ⟨_, top, inTop⟩ := under
      obtain ⟨_, nested⟩ := (states.makeUp top).rules.reads inTop
      exact (nested.makeUp written).conforms
  | window isWindow =>
      obtain ⟨_, nested⟩ := isWindow.states states
      exact (nested.makeUp written).conforms

/-- Every window of a document that states settings has all of its members. -/
theorem IsWindow.complete (isWindow : IsWindow document content node)
    (states : document.States (StatesSettings document) content stated)
    (written : document.resolve node = .mapping entries) (required : name ∈ windowNames) :
    document.givenTo entries name ≠ [] := by
  obtain ⟨_, nested⟩ := isWindow.states states
  obtain ⟨-, author, center, radius⟩ := nested.makeUp written
  have given {α : Type} {name : String} {Reads : Node → α → Prop} {value : α}
      (said : document.Says entries name Reads (some value)) : document.givenTo entries name ≠ [] := by
    obtain ⟨node, given, -⟩ := Document.says_some_iff.1 said
    exact given ▸ List.cons_ne_nil _ _
  rcases List.mem_cons.mp required with rfl | required
  · exact given author
  · rcases List.mem_cons.mp required with rfl | required
    · exact given center
    · exact List.mem_singleton.mp required ▸ given radius

/-! ## Usable settings -/

/-- Executions have a time limit, what has to be named is named, no piece of source text is empty, and
the bounds of every window are time stamps. -/
structure IsUsable (settings : Settings) : Prop where
  timed : 1 ≤ settings.timeoutMs
  solutionsSubdir : settings.solutionsSubdir ≠ ""
  metadataFile : settings.metadataFile ≠ ""
  program : settings.interpreter.program ≠ ""
  patterns : "" ∉ settings.rules.rejected
  windows : ∀ window ∈ settings.rules.windows, window.IsBounded

theorem isUsable_of_fault?_eq_none {settings : Settings} (fine : settings.fault? = none) :
    settings.IsUsable := by
  have windows (window : Window) (listed : window ∈ settings.rules.windows) : window.IsBounded :=
    Window.isBounded_of_fault?_eq_none fine listed
  have named {name : String} (nonempty : ¬ name.isEmpty = true) : name ≠ "" := by
    rintro rfl
    exact nonempty rfl
  unfold fault? at fine
  split_ifs at fine with untimed noSolutions noMetadata noProgram
  split at fine
  · cases fine
  · next noneEmpty =>
      refine ⟨Nat.one_le_iff_ne_zero.mpr untimed, named noSolutions, named noMetadata,
        named noProgram, fun listed => ?_, windows⟩
      cases List.findIdx?_eq_none_iff.mp noneEmpty "" listed

/-! ## Settings of a text -/

theorem ofText_eq (text : String) : ofText text =
    match (Yaml.readDocument? text).bind ofDocument? with
    | none => .error .malformed
    | some settings => settings.validate.mapError .invalid := by
  unfold ofText
  cases (Yaml.readDocument? text).bind ofDocument? with
  | none => rfl
  | some settings =>
      simp only
      cases settings.validate <;> rfl

theorem ofText_eq_malformed {text : String} (read : Yaml.readDocument? text = some document)
    (held : document.content = some content)
    (unstated : ¬ ∃ stated, document.States (StatesSettings document) content stated) :
    ofText text = .error .malformed := by
  have none : ofDocument? document = none := by
    refine Option.eq_none_iff_forall_ne_some.mpr fun settings given => unstated ?_
    obtain ⟨stated, states, -⟩ := (ofDocument?_eq_some held).mp given
    exact ⟨stated, states⟩
  rw [ofText_eq, read, Option.bind_some, none]

/-- What the content of a document states replaces the built-in settings member by member, and the
settings are checked then; content that states nothing is malformed.  The order in which it is
stated does not matter.  A mapping with a name that is unknown or stands twice, or a window that
leaves a member out, makes the document malformed.  Hence settings can be used, whether they come
from a document or from a command line. -/
theorem ofText_overlays {text : String} (read : Yaml.readDocument? text = some document)
    (held : document.content = some content) :
    (∀ stated, document.States (StatesSettings document) content stated →
      ofText text = (stated.onto .standard).validate.mapError .invalid) ∧
    ((¬ ∃ stated, document.States (StatesSettings document) content stated) →
      ofText text = .error .malformed) ∧
    (∀ otherText other moved, Yaml.readDocument? otherText = some other →
      other.content = some moved → document.Rearranged other content moved →
      ofText otherText = ofText text) ∧
    (∀ known node entries, Level document content known node →
      document.resolve node = .mapping entries → ¬ document.Conforms known entries →
      ofText text = .error .malformed) ∧
    (∀ node entries, IsWindow document content node → document.resolve node = .mapping entries →
      (∃ name ∈ windowNames, document.givenTo entries name = []) →
      ofText text = .error .malformed) ∧
    (∀ text settings, ofText text = .ok settings → settings.IsUsable) ∧
    (∀ invocation files settings, Application.settingsFor invocation files = .ok settings →
      settings.IsUsable) := by
  refine ⟨fun stated states => ?_, ofText_eq_malformed read held,
    fun otherText other moved otherRead otherHeld same => ?_,
    fun known node entries level written spoiled => ?_, fun node entries isWindow written lacks => ?_,
    fun text settings given => ?_, fun invocation files settings given => ?_⟩
  · rw [ofText_eq, read, Option.bind_some, (ofDocument?_eq_some held).mpr ⟨stated, states, rfl⟩]
  · rw [ofText_eq, ofText_eq, read, otherRead, Option.bind_some, Option.bind_some,
      ofDocument?_rearranged held otherHeld same]
  · refine ofText_eq_malformed read held ?_
    rintro ⟨stated, states⟩
    exact spoiled (level.conforms states written)
  · obtain ⟨name, required, none⟩ := lacks
    refine ofText_eq_malformed read held ?_
    rintro ⟨stated, states⟩
    exact isWindow.complete states written required none
  · exact isUsable_of_fault?_eq_none (ofText_eq_ok.1 given).2
  · exact isUsable_of_fault?_eq_none (Application.settingsFor_eq_ok.1 given).1

/-- A document that states a number, and some members of nested mappings: a list, a date and a window. -/
def nestedText : String :=
  "timeout_ms: 250\ninterpreter:\n  args: [-e, golf]\neligibility:\n  carve_outs:\n" ++
    "    - center: -60\n      author_prefix: bob\n      radius_secs: 0x10\n" ++
    "  min_date: 2010-01-01T00:00:00Z\n"

/-- The settings that the document gives: everything else is built in, also what stands next to it. -/
def nestedSettings : Settings :=
  { standard with
    interpreter := ⟨"ruby", ["-e", "golf"]⟩
    timeoutMs := 250
    rules := { Rules.standard with minDate := ⟨1262304000, 0⟩, windows := [⟨"bob", -60, 16⟩] } }

theorem ofText_overlays_sample :
    ∃ document content stated, Yaml.readDocument? nestedText = some document ∧
      document.content = some content ∧
      document.States (StatesSettings document) content stated ∧ stated.timeoutMs = some 250 ∧
      stated.onto .standard = nestedSettings ∧ ofText nestedText = .ok nestedSettings := by
  have given : (Yaml.readDocument? nestedText).bind ofDocument? = some nestedSettings := by
    decide +kernel
  obtain ⟨document, read, given⟩ := Option.bind_eq_some_iff.mp given
  obtain ⟨content, held⟩ : ∃ content, document.content = some content := by
    refine Option.ne_none_iff_exists'.mp fun none => ?_
    rw [ofDocument?, none] at given
    exact absurd (Option.some.inj given) (by decide +kernel)
  obtain ⟨stated, states, same⟩ := (ofDocument?_eq_some held).mp given
  have timeout : stated.timeoutMs.getD standard.timeoutMs = 250 := congrArg Settings.timeoutMs same
  obtain ⟨overlays, -⟩ := ofText_overlays read held
  refine ⟨document, content, stated, read, held, states, ?_, same, ?_⟩
  · cases told : stated.timeoutMs with
    | none =>
        rw [told] at timeout
        cases timeout
    | some number =>
        rw [told] at timeout
        exact congrArg some timeout
  · rw [overlays stated states, same]
    decide +kernel

end Settings

end CorpusJudge
