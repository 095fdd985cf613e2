import CorpusJudge.CommandLine
import Mathlib.Data.List.TakeDrop

/-!
# Command lines with a word less

The word that asks for a list asks for nothing else: without it a command line asks for the same run,
which then verifies what it would only have listed.
-/

namespace CorpusJudge.CommandLine

/-! ## The word for a list -/

private theorem ofLongName_list {name : String} {value : Option String}
    (asks : Word.ofLongName name value = .switch .list) : name = "list" ∧ value = none := by
  unfold Word.ofLongName Word.withoutValue at asks
  split at asks
  case h_7 =>
    cases value with
    | none => exact ⟨rfl, rfl⟩
    | some value => cases asks
  all_goals
    first
    | cases asks
    | (split at asks <;> cases asks)

/-- Only one word asks for a list. -/
theorem ofText_list {text : String} : Word.ofText text = .switch .list ↔ text = "--list" := by
  constructor
  · intro asks
    unfold Word.ofText at asks
    split at asks
    case h_2 long _ spelled =>
      simp only [List.span_eq_takeWhile_dropWhile] at asks
      obtain ⟨named, alone⟩ := ofLongName_list asks
      have whole : long.takeWhile _ ++ long.dropWhile (· ≠ '=') = long :=
        List.takeWhile_append_dropWhile
      cases attached : long.dropWhile (· ≠ '=') with
      | cons first rest =>
          rw [attached] at alone
          cases alone
      | nil =>
          rw [attached, List.append_nil] at whole
          rw [whole] at named
          have listed : long = "list".toList := by rw [← named, String.toList_ofList]
          rw [← String.toList_inj, spelled, listed]
          rfl
    all_goals cases asks
  · rintro rfl
    decide +kernel

/-- What is read in two steps is read in the first one. -/
private theorem bind_eq_ok {α β : Type} {first : Except UsageError α}
    {next : α → Except UsageError β} {value : β} (read : first >>= next = .ok value) :
    ∃ between, first = .ok between ∧ next between = .ok value := by
  cases first with
  | error error => cases read
  | ok between => exact ⟨between, rfl, read⟩

/-! ## Drafts -/

namespace Draft

/-- The draft without the request for a list. -/
def unlisted (draft : Draft) : Draft :=
  { draft with listOnly := false }

variable {draft next : Draft}

theorem resumeAt_unlisted {name : String} (resumed : draft.resumeAt name = .ok next) :
    draft.unlisted.resumeAt name = .ok next.unlisted ∧ next.listOnly = draft.listOnly := by
  unfold resumeAt at resumed ⊢
  split at resumed
  · cases resumed
  · next free =>
      cases resumed
      exact ⟨if_neg free, rfl⟩

/-- Whatever is read for an option is noted beside the request for a list. -/
private theorem bind_unlisted {α : Type} {read : Except UsageError α} {note noteToo : α → Draft}
    (filled : (do return note (← read)) = Except.ok next)
    (apart : ∀ value,
      noteToo value = (note value).unlisted ∧ (note value).listOnly = draft.listOnly) :
    (do return noteToo (← read)) = Except.ok next.unlisted ∧ next.listOnly = draft.listOnly := by
  cases read with
  | error error => cases filled
  | ok value =>
      cases filled
      obtain ⟨same, stays⟩ := apart value
      exact ⟨congrArg Except.ok same, stays⟩

theorem fill_unlisted {setting : Setting} {value : String}
    (filled : draft.fill setting value = .ok next) :
    draft.unlisted.fill setting value = .ok next.unlisted ∧ next.listOnly = draft.listOnly := by
  cases setting <;> exact bind_unlisted filled fun _ => ⟨rfl, rfl⟩

theorem turnOn_compact (turned : draft.turnOn .compact = .ok next) :
    draft.unlisted.turnOn .compact = .ok next.unlisted ∧ next.listOnly = draft.listOnly := by
  simp only [turnOn] at turned ⊢
  split at turned
  · cases turned
  · next free =>
      cases turned
      exact ⟨if_neg free, rfl⟩

theorem turnOn_list (turned : draft.turnOn .list = .ok next) :
    draft.listOnly = false ∧ next.listOnly = true ∧ next.unlisted = draft := by
  obtain ⟨resumeFrom, config, corpus, timeoutMs, compact, jobs, listOnly, summary⟩ := draft
  cases listOnly with
  | true => cases turned
  | false =>
      cases turned
      exact ⟨rfl, rfl, rfl⟩

theorem foldlM_resumeAt {names : List String} (resumed : names.foldlM resumeAt draft = .ok next) :
    names.foldlM resumeAt draft.unlisted = .ok next.unlisted ∧ next.listOnly = draft.listOnly := by
  induction names generalizing draft with
  | nil =>
      cases resumed
      exact ⟨rfl, rfl⟩
  | cons name rest ih =>
      rw [List.foldlM_cons] at resumed ⊢
      obtain ⟨between, first, resumed⟩ := bind_eq_ok resumed
      obtain ⟨same, stays⟩ := resumeAt_unlisted first
      obtain ⟨whole, still⟩ := ih resumed
      rw [same]
      exact ⟨whole, still.trans stays⟩

end Draft

/-! ## Reading -/

variable {draft next : Draft} {words taken : List String} {invocation : Invocation}

/-- The words that are read at once, other than the one for a list, and the draft as they leave it. -/
inductive Takes (draft : Draft) : List String → Draft → Prop where
  | name {word : String} {next : Draft} :
      Word.ofText word = .plain → draft.resumeAt word = .ok next → Takes draft [word] next
  | compact {word : String} {next : Draft} :
      Word.ofText word = .switch .compact → draft.turnOn .compact = .ok next →
      Takes draft [word] next
  | attached {word value : String} {setting : Setting} {next : Draft} :
      Word.ofText word = .setting setting (some value) → draft.fill setting value = .ok next →
      Takes draft [word] next
  | separate {word value : String} {setting : Setting} {next : Draft} :
      Word.ofText word = .setting setting none → Word.ofText value = .plain →
      draft.fill setting value = .ok next → Takes draft [word, value] next

theorem Takes.readFrom (takes : Takes draft taken next) (rest : List String) :
    readFrom draft (taken ++ rest) = readFrom next rest := by
  cases takes with
  | name kind done | compact kind done | attached kind done =>
      simp only [List.cons_append, List.nil_append, CommandLine.readFrom, kind, done]
      rfl
  | separate kind plain filled =>
      simp only [List.cons_append, List.nil_append, CommandLine.readFrom, kind, plain, if_true,
        filled]
      rfl

/-- They are taken alike where nobody has asked for a list, and nobody does so by them. -/
theorem Takes.unlisted (takes : Takes draft taken next) :
    Takes draft.unlisted taken next.unlisted ∧ next.listOnly = draft.listOnly := by
  cases takes with
  | name kind resumed => exact (Draft.resumeAt_unlisted resumed).imp_left (.name kind)
  | compact kind turned => exact (Draft.turnOn_compact turned).imp_left (.compact kind)
  | attached kind filled => exact (Draft.fill_unlisted filled).imp_left (.attached kind)
  | separate kind plain filled => exact (Draft.fill_unlisted filled).imp_left (.separate kind plain)

/-- A word of another kind stays where the word for a list is taken out. -/
private theorem erase_other {word : String} (kind : Word.ofText word ≠ .switch .list)
    (rest : List String) : (word :: rest).erase "--list" = word :: rest.erase "--list" :=
  List.erase_cons_tail (by simpa using fun same => kind (ofText_list.2 same))

theorem Takes.erase (takes : Takes draft taken next) (rest : List String) :
    (taken ++ rest).erase "--list" = taken ++ rest.erase "--list" := by
  cases takes with
  | name kind | compact kind | attached kind => exact erase_other (by simp [kind]) rest
  | @separate word value _ _ kind plain =>
      have behind : (value :: rest).erase "--list" = value :: rest.erase "--list" :=
        erase_other (by simp [plain]) rest
      exact (erase_other (by simp [kind]) _).trans (congrArg (word :: ·) behind)

/-- How words ask for a run: some are taken after others, and those behind a separator are names. -/
inductive Reads : Draft → List String → Invocation → Prop where
  | ended (draft : Draft) : Reads draft [] draft.invocation
  | separated {draft last : Draft} {word : String} {names : List String} :
      Word.ofText word = .separator → names.foldlM Draft.resumeAt draft = .ok last →
      Reads draft (word :: names) last.invocation
  | taken {draft next : Draft} {taken rest : List String} {invocation : Invocation} :
      Takes draft taken next → Reads next rest invocation → Reads draft (taken ++ rest) invocation
  | listed {draft next : Draft} {word : String} {rest : List String} {invocation : Invocation} :
      Word.ofText word = .switch .list → draft.turnOn .list = .ok next →
      Reads next rest invocation → Reads draft (word :: rest) invocation

theorem reads_of_readFrom (asked : readFrom draft words = .ok (.run invocation)) :
    Reads draft words invocation := by
  induction draft, words using readFrom.induct with
  | case1 draft =>
      cases asked
      exact .ended draft
  | case2 draft word rest kind =>
      simp only [readFrom, kind] at asked
      obtain ⟨last, resumed, same⟩ := bind_eq_ok asked
      cases same
      exact .separated kind resumed
  | case5 draft word rest kind ih =>
      simp only [readFrom, kind] at asked
      obtain ⟨next, resumed, further⟩ := bind_eq_ok asked
      exact .taken (.name kind resumed) (ih next further)
  | case6 draft word rest switch kind ih =>
      simp only [readFrom, kind] at asked
      obtain ⟨next, turned, further⟩ := bind_eq_ok asked
      cases switch with
      | compact => exact .taken (.compact kind turned) (ih next further)
      | list => exact .listed kind turned (ih next further)
  | case7 draft word rest setting value kind ih =>
      simp only [readFrom, kind] at asked
      obtain ⟨next, filled, further⟩ := bind_eq_ok asked
      exact .taken (.attached kind filled) (ih next further)
  | case9 draft word setting kind value rest plain ih =>
      simp only [readFrom, kind, plain, if_true] at asked
      obtain ⟨next, filled, further⟩ := bind_eq_ok asked
      exact .taken (.separate kind plain filled) (ih next further)
  | case3 _ _ _ kind | case4 _ _ _ kind | case8 _ _ _ kind | case11 _ _ _ kind
  | case12 _ _ _ kind => simp [readFrom, kind] at asked
  | case10 draft word setting kind value rest other => simp [readFrom, kind, other] at asked

/-- Where a list has been asked for already, no other word asks for it. -/
theorem Reads.unlisted (reads : Reads draft words invocation) (listed : draft.listOnly = true) :
    readFrom draft.unlisted words = .ok (.run { invocation with listOnly := false }) := by
  induction reads with
  | ended draft => rfl
  | separated kind resumed =>
      simp only [readFrom, kind, (Draft.foldlM_resumeAt resumed).1]
      rfl
  | taken takes _ ih =>
      obtain ⟨alike, stays⟩ := takes.unlisted
      rw [alike.readFrom]
      exact ih (stays.trans listed)
  | listed _ turned =>
      rw [(Draft.turnOn_list turned).1] at listed
      cases listed

/-- The words before the one for a list are read as ever, and those behind it as well. -/
theorem Reads.erase (reads : Reads draft words invocation) (unlisted : draft.listOnly = false)
    (lists : invocation.listOnly = true) :
    readFrom draft (words.erase "--list") =
      .ok (.run { invocation with listOnly := false }) := by
  induction reads with
  | ended draft => cases unlisted.symm.trans lists
  | separated _ resumed =>
      cases ((Draft.foldlM_resumeAt resumed).2.trans unlisted).symm.trans lists
  | taken takes _ ih =>
      rw [takes.erase, takes.readFrom]
      exact ih (takes.unlisted.2.trans unlisted) lists
  | listed kind turned reads =>
      -- this is the word; behind it the list is asked for
      obtain rfl := ofText_list.1 kind
      obtain ⟨-, listed, rfl⟩ := Draft.turnOn_list turned
      rw [List.erase_cons_head]
      exact reads.unlisted listed

/-- Without the word for a list, a command line that asks for a list asks for the same run. -/
theorem read_erase (asked : read words = .ok (.run invocation))
    (lists : invocation.listOnly = true) :
    read (words.erase "--list") = .ok (.run { invocation with listOnly := false }) :=
  (reads_of_readFrom asked).erase rfl lists

end CorpusJudge.CommandLine
