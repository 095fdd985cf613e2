import CorpusJudge.Proofs.Files.Requests

/-!
# The way to a location

Resolving a path looks at some places of the tree, one after the other.  Trees that agree there
resolve the path alike, and so do trees in which files have appeared at some of the places that were
empty.
-/

namespace CorpusJudge.FileTree

/-- The places that following names from a folder on looks at, and where it ends. -/
def trail (tree : FileTree) (follow : Bool) (links : Nat) (here : Location)
    (names : List String) : List Location :=
  match names with
  | [] => [here]
  | "." :: rest => trail tree follow links here rest
  | ".." :: rest => trail tree follow links here.dropLast rest
  | name :: rest =>
    if isTooLong name then []
    else
      let place := here ++ [name]
      place :: match tree.lookup place with
      | some (.link target) =>
        if rest.isEmpty && !follow then []
        else match links with
          | 0 => []
          | links + 1 =>
            let start := if (Path.mk target).isAbsolute then [] else here
            trail tree follow links start (namesIn target ++ rest)
      | some .folder => trail tree follow links place rest
      | _ => []
termination_by (links, names.length)

section

variable (tree : FileTree) (follow : Bool) (links : Nat) (here : Location)

attribute [local simp] walk trail

@[simp] theorem walk_nil : tree.walk follow links here [] = .ok here := by simp

@[simp] theorem walk_dot (rest : List String) :
    tree.walk follow links here ("." :: rest) = tree.walk follow links here rest := by simp

@[simp] theorem walk_dots (rest : List String) :
    tree.walk follow links here (".." :: rest) = tree.walk follow links here.dropLast rest := by
  simp

theorem walk_name {name : String} (rest : List String) (notDot : name ≠ ".")
    (notDots : name ≠ "..") :
    tree.walk follow links here (name :: rest) =
      if isTooLong name then .error .nameTooLong
      else match tree.lookup (here ++ [name]) with
      | some (.link target) =>
          if rest.isEmpty && !follow then .ok (here ++ [name])
          else match links with
          | 0 => .error .linkLoop
          | links + 1 =>
              tree.walk follow links (if (Path.mk target).isAbsolute then [] else here)
                (namesIn target ++ rest)
      | some .folder => tree.walk follow links (here ++ [name]) rest
      | some _ => if rest.isEmpty then .ok (here ++ [name]) else .error .notDirectory
      | none => if rest.isEmpty then .ok (here ++ [name]) else .error .notFound :=
  walk.eq_4 tree follow links here name rest notDot notDots

@[simp] theorem trail_nil : tree.trail follow links here [] = [here] := by simp

@[simp] theorem trail_dot (rest : List String) :
    tree.trail follow links here ("." :: rest) = tree.trail follow links here rest := by simp

@[simp] theorem trail_dots (rest : List String) :
    tree.trail follow links here (".." :: rest) = tree.trail follow links here.dropLast rest := by
  simp

theorem trail_name {name : String} (rest : List String) (notDot : name ≠ ".")
    (notDots : name ≠ "..") :
    tree.trail follow links here (name :: rest) =
      if isTooLong name then []
      else (here ++ [name]) :: match tree.lookup (here ++ [name]) with
      | some (.link target) =>
          if rest.isEmpty && !follow then []
          else match links with
          | 0 => []
          | links + 1 =>
              tree.trail follow links (if (Path.mk target).isAbsolute then [] else here)
                (namesIn target ++ rest)
      | some .folder => tree.trail follow links (here ++ [name]) rest
      | _ => [] := by
  rw [trail]
  · exact notDot
  · exact notDots

end

/-- Whether a path that comes to an entry ends there: it is no folder and no link. -/
def IsEnd : Option Entry → Bool
  | some .folder => false
  | some (.link _) => false
  | _ => true

/-- A way comes to an end only behind its last name. -/
theorem walk_end {tree : FileTree} {follow : Bool} {links : Nat} {here : Location} {name : String}
    {rest : List String} (notDot : name ≠ ".") (notDots : name ≠ "..")
    (isEnd : IsEnd (tree.lookup (here ++ [name])) = true) (location : Location) :
    tree.walk follow links here (name :: rest) = .ok location ↔
      isTooLong name = false ∧ rest = [] ∧ here ++ [name] = location := by
  rw [walk_name _ _ _ _ rest notDot notDots]
  split
  next tooLong => simp [tooLong]
  next fits =>
    revert isEnd
    cases tree.lookup (here ++ [name]) with
    | none => cases rest <;> simp [fits]
    | some entry => cases entry <;> cases rest <;> simp [IsEnd, fits]

theorem trail_end {tree : FileTree} {follow : Bool} {links : Nat} {here : Location} {name : String}
    {rest : List String} (notDot : name ≠ ".") (notDots : name ≠ "..")
    (isEnd : IsEnd (tree.lookup (here ++ [name])) = true) :
    tree.trail follow links here (name :: rest) =
      if isTooLong name then [] else [here ++ [name]] := by
  rw [trail_name _ _ _ _ rest notDot notDots]
  revert isEnd
  cases tree.lookup (here ++ [name]) with
  | none => simp
  | some entry => cases entry <;> simp [IsEnd]

/-- Whether a place is the same in a later tree, or an end both before and after. -/
def LeadsAlike (before after : Option Entry) : Prop :=
  after = before ∨ IsEnd before = true ∧ IsEnd after = true

/-- Whether something is the same in a later tree, or a file in a place that was empty. -/
def Grows (before after : Option Entry) : Prop :=
  after = before ∨ before = none ∧ ∃ content, after = some (.file content)

theorem Grows.leadsAlike {before after : Option Entry} (grows : Grows before after) :
    LeadsAlike before after := by
  rcases grows with same | ⟨rfl, content, rfl⟩
  · exact .inl same
  · exact .inr ⟨rfl, rfl⟩

variable {before after : FileTree}

/-- Where all places lead alike, the way stays the same, and so does where it ends.  The induction
follows the way, whose ends can only stand behind its last name. -/
theorem walk_alike {follow : Bool} {links : Nat} {here : Location} {names : List String}
    (alike : ∀ place ∈ before.trail follow links here names,
      LeadsAlike (before.lookup place) (after.lookup place)) :
    after.trail follow links here names = before.trail follow links here names ∧
      ∀ location, after.walk follow links here names = .ok location ↔
        before.walk follow links here names = .ok location := by
  fun_induction FileTree.trail before follow links here names with
  | case1 links here => simp
  | case2 links here rest ih => simpa using ih alike
  | case3 links here rest ih => simpa using ih alike
  | case4 links here name rest notDot notDots tooLong =>
      simp [trail_name _ _ _ _ rest notDot notDots, walk_name _ _ _ _ rest notDot notDots, tooLong]
  | case5 links here name rest notDot notDots fits place throughLink throughFolder =>
      have placed : here ++ [name] = place := rfl
      rcases alike place List.mem_cons_self with same | ⟨isEnd, isEndAfter⟩
      · rw [trail_name _ _ _ _ rest notDot notDots, walk_name _ _ _ _ rest notDot notDots,
          walk_name _ _ _ _ rest notDot notDots, if_neg fits, if_neg fits, if_neg fits, placed, same]
        cases there : before.lookup place with
        | none => simp
        | some entry =>
            cases entry with
            | folder =>
                simp only [there] at alike
                obtain ⟨sameTrail, ends⟩ := throughFolder fun other member =>
                  alike other (List.mem_cons_of_mem _ member)
                exact ⟨congrArg (place :: ·) sameTrail, ends⟩
            | link target =>
                simp only [there] at alike
                by_cases last : (rest.isEmpty && !follow) = true
                · simp [last]
                · simp only [last] at alike ⊢
                  cases links with
                  | zero => simp
                  | succ links =>
                      obtain ⟨sameTrail, ends⟩ := throughLink target fun other member =>
                        alike other (List.mem_cons_of_mem _ member)
                      exact ⟨congrArg (place :: ·) sameTrail, ends⟩
            | file content => simp
            | sealed obstacle => simp
            | program program => simp
            | device device => simp
      · have sameTrail := @trail_end after follow links here name rest notDot notDots isEndAfter
        refine ⟨?_, fun location => ?_⟩
        · rw [sameTrail, if_neg fits, placed]
          revert isEnd
          cases before.lookup place with
          | none => simp
          | some entry => cases entry <;> simp [IsEnd]
        · rw [walk_end notDot notDots isEndAfter, walk_end notDot notDots isEnd]

/-- Trees that agree along the way resolve it alike. -/
theorem walk_congr {follow : Bool} {links : Nat} {here : Location} {names : List String}
    (same : ∀ place ∈ before.trail follow links here names,
      after.lookup place = before.lookup place) :
    after.walk follow links here names = before.walk follow links here names := by
  fun_induction FileTree.trail before follow links here names with
  | case1 links here => simp
  | case2 links here rest ih => simpa using ih same
  | case3 links here rest ih => simpa using ih same
  | case4 links here name rest notDot notDots tooLong =>
      simp [walk_name _ _ _ _ rest notDot notDots, tooLong]
  | case5 links here name rest notDot notDots fits place throughLink throughFolder =>
      have placed : here ++ [name] = place := rfl
      have first := same place List.mem_cons_self
      rw [walk_name _ _ _ _ rest notDot notDots, walk_name _ _ _ _ rest notDot notDots, if_neg fits,
        if_neg fits, placed, first]
      cases there : before.lookup place with
      | none => rfl
      | some entry =>
          cases entry with
          | folder =>
              simp only [there] at same
              exact throughFolder fun other member => same other (List.mem_cons_of_mem _ member)
          | link target =>
              simp only [there] at same
              by_cases last : (rest.isEmpty && !follow) = true
              · simp [last]
              · simp only [last] at same ⊢
                cases links with
                | zero => simp
                | succ links =>
                    exact throughLink target fun other member =>
                      same other (List.mem_cons_of_mem _ member)
          | file content => rfl
          | sealed obstacle => rfl
          | program program => rfl
          | device device => rfl

/-! ## Ways that lead somewhere -/

/-- The ways along names that lead to a location, by what stands in the next place. -/
inductive Way (tree : FileTree) (follow : Bool) :
    Nat → Location → List String → Location → Prop where
  | here {links : Nat} {here : Location} : Way tree follow links here [] here
  | dot {links : Nat} {here goal : Location} {rest : List String} :
      Way tree follow links here rest goal → Way tree follow links here ("." :: rest) goal
  | dots {links : Nat} {here goal : Location} {rest : List String} :
      Way tree follow links here.dropLast rest goal → Way tree follow links here (".." :: rest) goal
  | folder {links : Nat} {here goal : Location} {name : String} {rest : List String} :
      name ≠ "." → name ≠ ".." → isTooLong name = false →
      tree.lookup (here ++ [name]) = some .folder →
      Way tree follow links (here ++ [name]) rest goal →
      Way tree follow links here (name :: rest) goal
  | link {links : Nat} {here goal : Location} {name target : String} {rest : List String} :
      name ≠ "." → name ≠ ".." → isTooLong name = false →
      tree.lookup (here ++ [name]) = some (.link target) → (rest.isEmpty && !follow) = false →
      Way tree follow links (if (Path.mk target).isAbsolute then [] else here)
        (namesIn target ++ rest) goal →
      Way tree follow (links + 1) here (name :: rest) goal
  | last {links : Nat} {here : Location} {name : String} :
      name ≠ "." → name ≠ ".." → isTooLong name = false →
      tree.lookup (here ++ [name]) ≠ some .folder →
      (follow = true → ∀ target, tree.lookup (here ++ [name]) ≠ some (.link target)) →
      Way tree follow links here [name] (here ++ [name])

/-- Resolving follows a way. -/
theorem way_of_walk {tree : FileTree} {follow : Bool} {links : Nat} {here location : Location}
    {names : List String} (ends : tree.walk follow links here names = .ok location) :
    Way tree follow links here names location := by
  fun_induction FileTree.trail tree follow links here names with
  | case1 links here =>
      obtain rfl : here = location := by simpa using ends
      exact .here
  | case2 links here rest ih => exact .dot (ih (by simpa using ends))
  | case3 links here rest ih => exact .dots (ih (by simpa using ends))
  | case4 links here name rest notDot notDots tooLong =>
      simp [walk_name _ _ _ _ rest notDot notDots, tooLong] at ends
  | case5 links here name rest notDot notDots fits place throughLink throughFolder =>
      have placed : here ++ [name] = place := rfl
      rw [walk_name _ _ _ _ rest notDot notDots, if_neg fits, placed] at ends
      have fits : isTooLong name = false := by simpa using fits
      -- what is no folder and no link that is followed can only stand at the end
      have atEnd (noFolder : tree.lookup place ≠ some .folder)
          (noLink : follow = true → ∀ target, tree.lookup place ≠ some (.link target))
          (stops : (if rest.isEmpty then .ok place else .error .notDirectory) =
              (.ok location : Except FileError Location) ∨
            (if rest.isEmpty then .ok place else .error .notFound) =
              (.ok location : Except FileError Location)) :
          Way tree follow links here (name :: rest) location := by
        cases rest with
        | nil =>
            obtain rfl : place = location := by simpa using stops
            exact .last notDot notDots fits noFolder noLink
        | cons next rest => simp at stops
      cases there : tree.lookup place with
      | none =>
          rw [there] at ends
          exact atEnd (by simp [there]) (by simp [there]) (.inr ends)
      | some entry =>
          rw [there] at ends
          cases entry with
          | folder => exact .folder notDot notDots fits there (throughFolder ends)
          | link target =>
              simp only at ends
              by_cases last : (rest.isEmpty && !follow) = true
              · rw [if_pos last] at ends
                obtain rfl : place = location := by simpa using ends
                obtain ⟨empty, unfollowed⟩ := Bool.and_eq_true_iff.mp last
                obtain rfl := List.isEmpty_iff.mp empty
                exact .last notDot notDots fits (by simp [placed, there])
                  (fun follows => by simp [follows] at unfollowed)
              · rw [if_neg last] at ends
                have goesOn : (rest.isEmpty && !follow) = false := by simpa using last
                cases links with
                | zero => cases ends
                | succ links =>
                    exact .link notDot notDots fits there goesOn (throughLink target ends)
          | file content => exact atEnd (by simp [there]) (by simp [there]) (.inl ends)
          | sealed obstacle => exact atEnd (by simp [there]) (by simp [there]) (.inl ends)
          | program program => exact atEnd (by simp [there]) (by simp [there]) (.inl ends)
          | device device => exact atEnd (by simp [there]) (by simp [there]) (.inl ends)

section

variable {tree : FileTree} {follow : Bool} {links : Nat} {here : Location} {name target : String}
  {rest : List String}

theorem trail_folder (notDot : name ≠ ".") (notDots : name ≠ "..") (fits : isTooLong name = false)
    (there : tree.lookup (here ++ [name]) = some .folder) :
    tree.trail follow links here (name :: rest) =
      (here ++ [name]) :: tree.trail follow links (here ++ [name]) rest := by
  rw [trail_name _ _ _ _ _ notDot notDots, if_neg (by simp [fits]), there]

theorem trail_link (notDot : name ≠ ".") (notDots : name ≠ "..") (fits : isTooLong name = false)
    (there : tree.lookup (here ++ [name]) = some (.link target))
    (goesOn : (rest.isEmpty && !follow) = false) :
    tree.trail follow (links + 1) here (name :: rest) =
      (here ++ [name]) :: tree.trail follow links
        (if (Path.mk target).isAbsolute then [] else here) (namesIn target ++ rest) := by
  rw [trail_name _ _ _ _ _ notDot notDots, if_neg (by simp [fits]), there]
  simp only [goesOn, Bool.false_eq_true, if_false]

end

/-- What a way leads to lies on it. -/
theorem Way.mem_trail {tree : FileTree} {follow : Bool} {links : Nat} {here goal : Location}
    {names : List String} (way : Way tree follow links here names goal) :
    goal ∈ tree.trail follow links here names := by
  induction way with
  | here => simp
  | dot way ih => simpa using ih
  | dots way ih => simpa using ih
  | folder notDot notDots fits there way ih =>
      rw [trail_folder notDot notDots fits there]
      exact List.mem_cons_of_mem _ ih
  | link notDot notDots fits there goesOn way ih =>
      rw [trail_link notDot notDots fits there goesOn]
      exact List.mem_cons_of_mem _ ih
  | last notDot notDots fits noFolder noLink =>
      rw [trail_name _ _ _ _ _ notDot notDots]
      simp [fits]

/-- What a way passes before it comes to its goal are folders and links. -/
theorem Way.passes {tree : FileTree} {follow : Bool} {links : Nat} {here goal : Location}
    {names : List String} (way : Way tree follow links here names goal) :
    ∀ place ∈ (tree.trail follow links here names).dropLast,
      IsEnd (tree.lookup place) = false := by
  induction way with
  | here => simp
  | dot way ih => simpa using ih
  | dots way ih => simpa using ih
  | folder notDot notDots fits there way ih =>
      rw [trail_folder notDot notDots fits there,
        List.dropLast_cons_of_ne_nil (List.ne_nil_of_mem way.mem_trail)]
      exact List.forall_mem_cons.mpr ⟨by simp [there, IsEnd], ih⟩
  | link notDot notDots fits there goesOn way ih =>
      rw [trail_link notDot notDots fits there goesOn,
        List.dropLast_cons_of_ne_nil (List.ne_nil_of_mem way.mem_trail)]
      exact List.forall_mem_cons.mpr ⟨by simp [there, IsEnd], ih⟩
  | @last links here name notDot notDots fits noFolder noLink =>
      rw [trail_name _ _ _ _ _ notDot notDots, if_neg (by simp [fits])]
      cases there : tree.lookup (here ++ [name]) with
      | none => simp
      | some entry =>
          cases entry with
          | folder => exact absurd there noFolder
          | link target =>
              cases follow with
              | false => simp
              | true => exact absurd there (noLink rfl target)
          | _ => simp

/-- A way on which nothing changes before its goal comes there also when something stands there that
is an end. -/
theorem Way.lands {before after : FileTree} {links : Nat} {here goal : Location}
    {names : List String} (way : Way before false links here names goal)
    (same : ∀ place ∈ (before.trail false links here names).dropLast,
      after.lookup place = before.lookup place)
    (isEnd : IsEnd (after.lookup goal) = true) (follow : Bool) :
    after.walk follow links here names = .ok goal := by
  induction way with
  | here => rw [walk_nil]
  | dot way ih => simpa using ih (by simpa using same) isEnd
  | dots way ih => simpa using ih (by simpa using same) isEnd
  | folder notDot notDots fits there way ih =>
      rw [trail_folder notDot notDots fits there,
        List.dropLast_cons_of_ne_nil (List.ne_nil_of_mem way.mem_trail)] at same
      obtain ⟨stays, same⟩ := List.forall_mem_cons.mp same
      rw [walk_name _ _ _ _ _ notDot notDots, if_neg (by simp [fits]), stays, there]
      exact ih same isEnd
  | @link links here goal name target rest notDot notDots fits there goesOn way ih =>
      rw [trail_link notDot notDots fits there goesOn,
        List.dropLast_cons_of_ne_nil (List.ne_nil_of_mem way.mem_trail)] at same
      obtain ⟨stays, same⟩ := List.forall_mem_cons.mp same
      -- something comes behind the link, so that it is followed in either case
      have more : rest.isEmpty = false := by simpa using goesOn
      rw [walk_name _ _ _ _ _ notDot notDots, if_neg (by simp [fits]), stays, there]
      simp only [more, Bool.false_and, Bool.false_eq_true, if_false]
      exact ih same isEnd
  | last notDot notDots fits noFolder noLink =>
      exact (walk_end notDot notDots isEnd _).mpr ⟨fits, rfl, rfl⟩

/-- A step at the end that stays where it is can be left out. -/
theorem Way.withoutDot {tree : FileTree} {links : Nat} {here goal : Location} {names : List String}
    (way : Way tree true links here (names ++ ["."]) goal) :
    Way tree true links here names goal ∧
      ∀ place ∈ tree.trail true links here names,
        place ∈ tree.trail true links here (names ++ ["."]) := by
  generalize whole : names ++ ["."] = all at way
  induction way generalizing names with
  | here => simp at whole
  | dot way ih =>
      cases names with
      | nil =>
          obtain rfl : [] = _ := by simpa using whole
          exact ⟨way, by simp⟩
      | cons name names =>
          rw [List.cons_append] at whole
          obtain ⟨rfl, rfl⟩ := List.cons.inj whole
          obtain ⟨shorter, places⟩ := ih rfl
          exact ⟨.dot shorter, by simpa using places⟩
  | dots way ih =>
      cases names with
      | nil => simp at whole
      | cons name names =>
          rw [List.cons_append] at whole
          obtain ⟨rfl, rfl⟩ := List.cons.inj whole
          obtain ⟨shorter, places⟩ := ih rfl
          exact ⟨.dots shorter, by simpa using places⟩
  | @folder links here goal name rest notDot notDots fits there way ih =>
      cases names with
      | nil => exact absurd (List.cons.inj whole).1.symm notDot
      | cons name names =>
          rw [List.cons_append] at whole
          obtain ⟨rfl, rfl⟩ := List.cons.inj whole
          obtain ⟨shorter, places⟩ := ih rfl
          refine ⟨.folder notDot notDots fits there shorter, ?_⟩
          simp only [trail_folder notDot notDots fits there, List.mem_cons]
          exact fun place => Or.imp_right (places place)
  | @link links here goal name target rest notDot notDots fits there goesOn way ih =>
      cases names with
      | nil => exact absurd (List.cons.inj whole).1.symm notDot
      | cons name names =>
          rw [List.cons_append] at whole
          obtain ⟨rfl, rfl⟩ := List.cons.inj whole
          obtain ⟨shorter, places⟩ := ih (List.append_assoc ..)
          have followed (rest : List String) : (rest.isEmpty && !true) = false := by simp
          refine ⟨.link notDot notDots fits there (followed _) shorter, ?_⟩
          simp only [trail_link notDot notDots fits there (followed _), List.mem_cons]
          exact fun place => Or.imp_right (places place)
  | last notDot notDots fits noFolder noLink =>
      cases names with
      | nil => exact absurd (List.cons.inj whole).1.symm notDot
      | cons name names => simp at whole

/-- Names behind the way to a folder go on from that folder. -/
theorem Way.append {tree : FileTree} {links : Nat} {here goal : Location} {names : List String}
    (way : Way tree true links here names goal) (isFolder : tree.lookup goal = some .folder) :
    ∃ left, ∀ follow (rest : List String), rest ≠ [] →
      tree.walk follow links here (names ++ rest) = tree.walk follow left goal rest ∧
        ∀ place ∈ tree.trail follow links here (names ++ rest),
          place ∈ tree.trail true links here names ∨ place ∈ tree.trail follow left goal rest := by
  induction way with
  | @here links here => exact ⟨links, fun follow rest more => ⟨rfl, fun place => .inr⟩⟩
  | dot way ih =>
      obtain ⟨left, goesOn⟩ := ih isFolder
      refine ⟨left, fun follow rest more => ?_⟩
      simpa using goesOn follow rest more
  | dots way ih =>
      obtain ⟨left, goesOn⟩ := ih isFolder
      refine ⟨left, fun follow rest more => ?_⟩
      simpa using goesOn follow rest more
  | @folder links here goal name names notDot notDots fits there way ih =>
      obtain ⟨left, goesOn⟩ := ih isFolder
      refine ⟨left, fun follow rest more => ?_⟩
      obtain ⟨same, places⟩ := goesOn follow rest more
      rw [List.cons_append, walk_name _ _ _ _ _ notDot notDots, there,
        trail_folder notDot notDots fits there, trail_folder notDot notDots fits there]
      simp only [fits, Bool.false_eq_true, if_false, List.mem_cons, or_assoc]
      exact ⟨same, fun place => Or.imp_right (places place)⟩
  | @link links here goal name target names notDot notDots fits there more' way ih =>
      obtain ⟨left, goesOn⟩ := ih isFolder
      refine ⟨left, fun follow rest more => ?_⟩
      obtain ⟨same, places⟩ := goesOn follow rest more
      have unfinished : ((names ++ rest).isEmpty && !follow) = false := by simp [more]
      rw [List.cons_append, walk_name _ _ _ _ _ notDot notDots, there,
        trail_link notDot notDots fits there unfinished,
        trail_link notDot notDots fits there (by simp)]
      simp only [fits, Bool.false_eq_true, if_false, unfinished, List.mem_cons, or_assoc,
        ← List.append_assoc]
      exact ⟨same, fun place => Or.imp_right (places place)⟩
  | last notDot notDots fits noFolder noLink => exact absurd isFolder noFolder

end CorpusJudge.FileTree
