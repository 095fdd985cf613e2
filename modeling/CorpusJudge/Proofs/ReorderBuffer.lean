import CorpusJudge.Harness.Parallel

/-!
# What a reorder buffer holds back

A buffer that has received some findings holds back exactly those behind a gap.  Whatever it passes
on is the run of findings from its next place up to the next gap, in order.
-/

namespace CorpusJudge.ReorderBuffer

variable {α : Type}

/-- Whether the finding for a place has arrived: it has been passed on or is held back. -/
def Arrived (buffer : ReorderBuffer α) (place : Nat) : Prop :=
  place < buffer.next ∨ place ∈ buffer.pending.map Prod.fst

/-- A buffer holds back what has arrived behind a gap: each finding under its own place, and none
twice. -/
structure Sound (found : Nat → α) (buffer : ReorderBuffer α) : Prop where
  above : ∀ entry ∈ buffer.pending, buffer.next < entry.1
  distinct : (buffer.pending.map Prod.fst).Nodup
  genuine : ∀ entry ∈ buffer.pending, entry.2 = found entry.1

theorem empty_sound (found : Nat → α) : Sound found empty where
  above := by simp [empty]
  distinct := by simp [empty]
  genuine := by simp [empty]

@[simp] theorem not_arrived_empty (place : Nat) : ¬ Arrived (empty : ReorderBuffer α) place := by
  simp [Arrived, empty]

/-- The next place is the smallest one that has not arrived. -/
theorem Sound.not_arrived_next {found : Nat → α} {buffer : ReorderBuffer α}
    (sound : Sound found buffer) : ¬ buffer.Arrived buffer.next := by
  rintro (below | held)
  · exact Nat.lt_irrefl _ below
  · obtain ⟨entry, member, same⟩ := List.mem_map.mp held
    exact absurd (sound.above entry member) (by omega)

private theorem lookup_eq_none {pending : List (Nat × α)} {place : Nat}
    (absent : pending.lookup place = none) : place ∉ pending.map Prod.fst := by
  rintro held
  obtain ⟨entry, member, same⟩ := List.mem_map.mp held
  have differs := List.lookup_eq_none_iff.mp absent entry member
  simp [same] at differs

private theorem mem_of_lookup {pending : List (Nat × α)} {place : Nat} {found : α}
    (present : pending.lookup place = some found) : (place, found) ∈ pending := by
  obtain ⟨before, after, split, -⟩ := List.lookup_eq_some_iff.mp present
  simp [split]

private theorem length_filter_lt {pending : List (Nat × α)} {place : Nat} {found : α}
    (present : pending.lookup place = some found) :
    (pending.filter fun (other, _) => other ≠ place).length < pending.length := by
  apply List.length_filter_lt_length_iff_exists.mpr
  exact ⟨(place, found), mem_of_lookup present, by simp⟩

private theorem mem_keys_filter {pending : List (Nat × α)} {place other : Nat} :
    other ∈ (pending.filter fun (key, _) => key ≠ place).map Prod.fst ↔
      other ≠ place ∧ other ∈ pending.map Prod.fst := by
  simp only [List.mem_map, List.mem_filter]
  constructor
  · rintro ⟨entry, ⟨member, differs⟩, rfl⟩
    exact ⟨by simpa using differs, entry, member, rfl⟩
  · rintro ⟨differs, entry, member, rfl⟩
    exact ⟨entry, ⟨member, by simpa using differs⟩, rfl⟩

/-- Passing on the finding of the next place changes nothing about what has arrived. -/
private theorem arrived_filter {buffer : ReorderBuffer α}
    (held : buffer.next ∈ buffer.pending.map Prod.fst) (place : Nat) :
    Arrived ⟨buffer.next + 1, buffer.pending.filter fun (key, _) => key ≠ buffer.next⟩ place ↔
      buffer.Arrived place := by
  unfold Arrived
  rw [mem_keys_filter]
  simp only
  constructor
  · rintro (below | ⟨-, later⟩)
    · rcases Nat.lt_succ_iff_lt_or_eq.mp below with less | rfl
      · exact .inl less
      · exact .inr held
    · exact .inr later
  · rintro (below | later)
    · exact .inl (by omega)
    · by_cases same : place = buffer.next
      · exact .inl (by omega)
      · exact .inr ⟨same, later⟩

/-- Releasing passes on the findings up to the next gap.  The induction is on the fuel, which the
number of findings that are held back bounds. -/
theorem release_spec (found : Nat → α) (fuel : Nat) (buffer : ReorderBuffer α)
    (enough : buffer.pending.length ≤ fuel)
    (atLeast : ∀ entry ∈ buffer.pending, buffer.next ≤ entry.1)
    (distinct : (buffer.pending.map Prod.fst).Nodup)
    (genuine : ∀ entry ∈ buffer.pending, entry.2 = found entry.1) :
    Sound found (release fuel buffer).2 ∧
      (release fuel buffer).2.next = buffer.next + (release fuel buffer).1.length ∧
      (release fuel buffer).1 =
        (List.range' buffer.next (release fuel buffer).1.length).map found ∧
      ∀ place, (release fuel buffer).2.Arrived place ↔ buffer.Arrived place := by
  induction fuel generalizing buffer with
  | zero =>
      have none : buffer.pending = [] := List.length_eq_zero_iff.mp (Nat.le_zero.mp enough)
      exact ⟨⟨by simp [release, none], by simp [release, none], by simp [release, none]⟩,
        by simp [release], by simp [release], fun place => by simp [release]⟩
  | succ fuel ih =>
      cases lookup : buffer.pending.lookup buffer.next with
      | none =>
          have gap := lookup_eq_none lookup
          simp only [release, lookup]
          refine ⟨⟨?_, distinct, genuine⟩, rfl, rfl, fun place => trivial⟩
          intro entry member
          refine Nat.lt_of_le_of_ne (atLeast entry member) fun same => gap ?_
          exact List.mem_map.mpr ⟨entry, member, same.symm⟩
      | some first =>
          have here : first = found buffer.next := genuine _ (mem_of_lookup lookup)
          have shorter := length_filter_lt lookup
          simp only [release, lookup]
          obtain ⟨sound, next, ready, arrived⟩ := ih
            ⟨buffer.next + 1, buffer.pending.filter fun (place, _) => place ≠ buffer.next⟩
            (Nat.le_of_lt_succ (Nat.lt_of_lt_of_le shorter enough))
            (by
              intro entry member
              obtain ⟨member, differs⟩ := List.mem_filter.mp member
              have least := atLeast entry member
              have differs : entry.1 ≠ buffer.next := by simpa using differs
              exact Nat.lt_of_le_of_ne least differs.symm)
            ((List.filter_sublist.map _).nodup distinct)
            (by
              intro entry member
              exact genuine entry (List.mem_filter.mp member).1)
          refine ⟨sound, ?_, ?_, ?_⟩
          · rw [next, List.length_cons]
            simp only
            omega
          · rw [List.length_cons, List.range'_succ, List.map_cons, ← here]
            exact congrArg _ ready
          · have held : buffer.next ∈ buffer.pending.map Prod.fst :=
              List.mem_map.mpr ⟨_, mem_of_lookup lookup, rfl⟩
            exact fun place => (arrived place).trans (arrived_filter held place)

/-- A finding that arrives for the first time makes the buffer pass on everything up to the next
gap, and nothing else changes about what has arrived. -/
theorem Sound.receive {found : Nat → α} {buffer : ReorderBuffer α} (sound : Sound found buffer)
    {place : Nat} (new : ¬ buffer.Arrived place) :
    Sound found (buffer.receive place (found place)).2 ∧
      (buffer.receive place (found place)).2.next =
        buffer.next + (buffer.receive place (found place)).1.length ∧
      (buffer.receive place (found place)).1 =
        (List.range' buffer.next (buffer.receive place (found place)).1.length).map found ∧
      ∀ other, (buffer.receive place (found place)).2.Arrived other ↔
        buffer.Arrived other ∨ other = place := by
  simp only [Arrived, not_or, Nat.not_lt] at new
  obtain ⟨after, next, ready, arrived⟩ := release_spec found
    ((place, found place) :: buffer.pending).length
    ⟨buffer.next, (place, found place) :: buffer.pending⟩ (Nat.le_refl _)
    (by
      rintro entry (_ | ⟨_, member⟩)
      · exact new.1
      · exact Nat.le_of_lt (sound.above entry member))
    (by
      rw [List.map_cons, List.nodup_cons]
      exact ⟨new.2, sound.distinct⟩)
    (by
      rintro entry (_ | ⟨_, member⟩)
      · rfl
      · exact sound.genuine entry member)
  refine ⟨after, next, ready, fun other => (arrived other).trans ?_⟩
  simp only [Arrived, List.map_cons, List.mem_cons]
  rw [or_assoc, or_comm (a := other = place)]

/-- What is passed on or held back has arrived, under its place. -/
theorem forall_release_at (holds : Nat → α → Prop) {fuel : Nat} {buffer : ReorderBuffer α}
    (held : ∀ entry ∈ buffer.pending, holds entry.1 entry.2) :
    (release fuel buffer).2.next = buffer.next + (release fuel buffer).1.length ∧
      (∀ (position : Nat) found, (release fuel buffer).1[position]? = some found →
        holds (buffer.next + position) found) ∧
      ∀ entry ∈ (release fuel buffer).2.pending, holds entry.1 entry.2 := by
  induction fuel generalizing buffer with
  | zero => exact ⟨rfl, nofun, held⟩
  | succ fuel ih =>
      rw [release]
      cases lookup : buffer.pending.lookup buffer.next with
      | none => exact ⟨rfl, nofun, held⟩
      | some first =>
          have kept : ∀ entry ∈ buffer.pending.filter fun (place, _) => place ≠ buffer.next,
              holds entry.1 entry.2 :=
            fun entry member => held entry (List.mem_filter.mp member).1
          obtain ⟨next, ready, pending⟩ := @ih ⟨buffer.next + 1, _⟩ kept
          refine ⟨?_, fun position found there => ?_, pending⟩
          · simp only [List.length_cons] at next ⊢
            omega
          · cases position with
            | zero =>
                obtain rfl := Option.some.inj there
                exact held _ (mem_of_lookup lookup)
            | succ position =>
                have later := ready position found there
                rwa [Nat.add_right_comm] at later

theorem forall_receive_at (holds : Nat → α → Prop) {buffer : ReorderBuffer α} {place : Nat}
    {found : α} (held : ∀ entry ∈ buffer.pending, holds entry.1 entry.2) (new : holds place found) :
    (buffer.receive place found).2.next =
        buffer.next + (buffer.receive place found).1.length ∧
      (∀ (position : Nat) passed, (buffer.receive place found).1[position]? = some passed →
        holds (buffer.next + position) passed) ∧
      ∀ entry ∈ (buffer.receive place found).2.pending, holds entry.1 entry.2 :=
  @forall_release_at _ holds _ ⟨buffer.next, _⟩ (List.forall_mem_cons.mpr ⟨new, held⟩)

/-- What is passed on or held back has arrived, wherever it belongs. -/
theorem forall_receive (holds : α → Prop) {buffer : ReorderBuffer α} (place : Nat) {found : α}
    (held : ∀ entry ∈ buffer.pending, holds entry.2) (new : holds found) :
    (∀ passed ∈ (buffer.receive place found).1, holds passed) ∧
      ∀ entry ∈ (buffer.receive place found).2.pending, holds entry.2 := by
  obtain ⟨-, ready, pending⟩ := @forall_receive_at _ (fun _ => holds) buffer place found held new
  refine ⟨fun passed member => ?_, pending⟩
  obtain ⟨position, there⟩ := List.mem_iff_getElem?.mp member
  exact ready position passed there

end CorpusJudge.ReorderBuffer
