import FolderIndex.Proofs.Text.Words

namespace FolderIndex

/-! Where the maximal runs of a text stand. Each is told once, and in the order of their places. -/

variable {α : Type} {inside : α → Bool} {left right part run : List α} {separator : α}
  {place : Nat}

/-- A run of members of a class that begins at a place of a text and goes on neither before that
place nor behind its own end. -/
def RunAt (inside : α → Bool) (text : List α) (place : Nat) (run : List α) : Prop :=
  ∃ before after, text = before ++ run ++ after ∧ before.length = place ∧ run ≠ [] ∧
    (∀ member ∈ run, inside member = true) ∧
    (∀ last ∈ before.getLast?, inside last = false) ∧ ∀ next ∈ after.head?, inside next = false

theorem RunAt.place_le (at' : RunAt inside left place run) : place ≤ left.length := by
  obtain ⟨before, after, rfl, rfl, _⟩ := at'
  simp only [List.length_append]
  omega

/-- A text of the class alone is its only run. -/
theorem runAt_of_all_inside (within : ∀ member ∈ part, inside member = true) :
    RunAt inside part place run ↔ part ≠ [] ∧ place = 0 ∧ run = part := by
  constructor
  · rintro ⟨before, after, rfl, rfl, some, _, opened, closed⟩
    have noBefore : before = [] := by
      rcases List.eq_nil_or_concat before with none | ⟨front, last, rfl⟩
      · exact none
      · have member := within last (by simp)
        have apart := opened last (by simp)
        simp [member] at apart
    have noAfter : after = [] := by
      cases after with
      | nil => rfl
      | cons next rest =>
          have member := within next (by simp)
          have apart := closed next rfl
          simp [member] at apart
    subst noBefore noAfter
    simp [some]
  · rintro ⟨some, rfl, rfl⟩
    exact ⟨[], [], by simp, rfl, some, within, by simp, by simp⟩

/-- A run stands wholly on one side of a member that is not of the class. -/
theorem runAt_append_outside (outside : inside separator = false) :
    RunAt inside (left ++ separator :: right) place run ↔
      RunAt inside left place run ∨
        ∃ later, place = left.length + 1 + later ∧ RunAt inside right later run := by
  constructor
  · rintro ⟨before, after, split, rfl, some, within, opened, closed⟩
    have notInRun : separator ∉ run := fun member => by
      simpa [outside] using within separator member
    rw [List.append_assoc] at split
    rcases List.append_eq_append_iff.mp split with
      ⟨front, rfl, rest⟩ | ⟨back, rfl, rest⟩
    · cases front with
      | nil =>
          -- The run would begin with the separator.
          cases run with
          | nil => contradiction
          | cons first others =>
              have same : separator = first := by simpa using congrArg List.head? rest
              exact absurd (same ▸ List.mem_cons_self) notInRun
      | cons first front =>
          obtain ⟨rfl, rfl⟩ : separator = first ∧ right = front ++ (run ++ after) := by
            simpa using rest
          refine .inr ⟨front.length, by simp; omega, front, after, by simp, rfl, some, within, ?_,
            closed⟩
          intro last found
          refine opened last ?_
          rw [List.getLast?_append, List.getLast?_cons, found]
          rfl
    · rcases List.append_eq_append_iff.mp rest with ⟨front, rfl, behind⟩ | ⟨middle, rfl, behind⟩
      · refine .inl ⟨before, front, by simp, rfl, some, within, opened, ?_⟩
        intro next found
        refine closed next ?_
        rw [behind, List.head?_append, found]
        rfl
      · cases middle with
        | nil =>
            refine .inl ⟨before, [], by simp, rfl, some, within, opened, by simp⟩
        | cons first others =>
            have same : separator = first := by simpa using congrArg List.head? behind
            exact absurd (by simp [same]) notInRun
  · rintro (⟨before, after, rfl, rfl, some, within, opened, closed⟩ |
      ⟨_, rfl, before, after, rfl, rfl, some, within, opened, closed⟩)
    · refine ⟨before, after ++ separator :: right, by simp, rfl, some, within, opened, ?_⟩
      intro next found
      cases after with
      | nil =>
          cases found
          exact outside
      | cons first others => exact closed next found
    · refine ⟨left ++ separator :: before, after, by simp, by simp; omega, some, within, ?_,
        closed⟩
      intro last found
      rw [List.getLast?_append, List.getLast?_cons, Option.some_or] at found
      cases ended : before.getLast? with
      | none =>
          rw [ended] at found
          cases found
          exact outside
      | some final =>
          rw [ended] at found
          cases found
          exact opened _ ended

/-- A text is of the class alone, or has a first member that is not. -/
theorem segment_induction (inside : α → Bool) {motive : List α → Prop}
    (solid : ∀ part, (∀ member ∈ part, inside member = true) → motive part)
    (apart : ∀ part separator rest, (∀ member ∈ part, inside member = true) →
      inside separator = false → motive rest → motive (part ++ separator :: rest))
    (text : List α) : motive text := by
  -- What comes before the first separator is gathered in front of the text.
  have gathered : ∀ text part, (∀ member ∈ part, inside member = true) →
      motive (part ++ text) := by
    intro text
    induction text with
    | nil =>
        intro part within
        rw [List.append_nil]
        exact solid part within
    | cons first rest ih =>
        intro part within
        cases belongs : inside first with
        | true =>
            have longer : ∀ member ∈ part ++ [first], inside member = true := by
              intro member found
              rcases List.mem_append.mp found with old | new
              · exact within member old
              · rw [List.mem_singleton.mp new]
                exact belongs
            simpa using ih (part ++ [first]) longer
        | false => exact apart part first rest within belongs (ih [] (by simp))
  exact gathered text [] (by simp)

/-- The runs of a text with their places: all maximal runs, each at its place, in order. -/
theorem exists_places (inside : α → Bool) (text : List α) :
    ∃ placed : List (Nat × List α), placed.map Prod.snd = runs inside text ∧
      placed.Pairwise (fun left right => left.1 < right.1) ∧
      ∀ place run, (place, run) ∈ placed ↔ RunAt inside text place run := by
  have alone : ∀ part : List α, (∀ member ∈ part, inside member = true) →
      ∃ placed : List (Nat × List α), placed.map Prod.snd = runs inside part ∧
        placed.Pairwise (fun left right => left.1 < right.1) ∧
        ∀ place run, (place, run) ∈ placed ↔ RunAt inside part place run := by
    intro part within
    by_cases none : part = []
    · subst none
      exact ⟨[], rfl, .nil, fun place run => by simp [runAt_of_all_inside within]⟩
    · refine ⟨[(0, part)], by simp [runs_of_all_inside within none], by simp, ?_⟩
      intro place run
      simp [runAt_of_all_inside within, none]
  induction text using segment_induction inside with
  | solid part within => exact alone part within
  | apart part separator rest within outside ih =>
      obtain ⟨early, earlyRuns, earlyOrder, earlyPlaces⟩ := alone part within
      obtain ⟨late, lateRuns, lateOrder, latePlaces⟩ := ih
      refine ⟨early ++ late.map fun found => (part.length + 1 + found.1, found.2), ?_, ?_, ?_⟩
      · rw [runs_append_outside inside part rest outside, ← earlyRuns, ← lateRuns]
        simp [Function.comp_def]
      · rw [List.pairwise_append, List.pairwise_map]
        refine ⟨earlyOrder, lateOrder.imp fun less => by simpa using less, ?_⟩
        rintro ⟨place, run⟩ member _ moved
        obtain ⟨found, _, rfl⟩ := List.mem_map.mp moved
        have bound := ((earlyPlaces place run).mp member).place_le
        dsimp only
        omega
      · intro place run
        rw [List.mem_append, earlyPlaces, runAt_append_outside outside, List.mem_map]
        refine or_congr_right ⟨?_, ?_⟩
        · rintro ⟨⟨later, run⟩, member, same⟩
          cases same
          exact ⟨later, rfl, (latePlaces later run).mp member⟩
        · rintro ⟨later, rfl, at'⟩
          exact ⟨(later, run), (latePlaces later run).mpr at', rfl⟩

/-! First occurrences. -/

section Firsts

variable {β γ : Type} [DecidableEq β] {members others : List β}

theorem firsts_of_nodup (distinct : members.Nodup) : firsts members = members := by
  induction members with
  | nil => rfl
  | cons member rest ih =>
      obtain ⟨new, distinct⟩ := List.nodup_cons.mp distinct
      rw [firsts, ih distinct, List.filter_eq_self.mpr]
      intro other found
      simpa using fun same : other = member => new (same ▸ found)

theorem firsts_append (members others : List β) :
    firsts (members ++ others) =
      firsts members ++ (firsts others).filter fun member => decide (member ∉ members) := by
  induction members with
  | nil => exact (List.filter_eq_self.mpr (by simp)).symm
  | cons member rest ih =>
      simp only [List.cons_append, firsts, ih, List.filter_append, List.filter_filter]
      congr 2
      apply List.filter_congr
      intro other _
      simp

/-- What is told first is the same if each side was told but once before. -/
theorem firsts_append_firsts (members others : List β) :
    firsts (firsts members ++ firsts others) = firsts (members ++ others) := by
  rw [firsts_append, firsts_append, firsts_of_nodup (nodup_firsts members),
    firsts_of_nodup (nodup_firsts others)]
  simp only [mem_firsts]

/-- First occurrences are in the order of the places at which they are found first. -/
theorem pairwise_firsts_map (form : γ → β) {before : γ → γ → Prop} {placed : List γ}
    (sorted : placed.Pairwise before) :
    (firsts (placed.map form)).Pairwise fun earlier later =>
      ∃ first ∈ placed, form first = earlier ∧
        ∀ other ∈ placed, form other = later → before first other := by
  induction placed with
  | nil => exact .nil
  | cons first rest ih =>
      obtain ⟨leads, sorted⟩ := List.pairwise_cons.mp sorted
      rw [List.map_cons, firsts, List.pairwise_cons]
      have kept : ∀ later ∈ (firsts (rest.map form)).filter (· ≠ form first), form first ≠ later :=
        fun later member same => by simp [same] at member
      constructor
      · intro later member
        refine ⟨first, List.mem_cons_self, rfl, ?_⟩
        intro other found told
        rcases List.mem_cons.mp found with rfl | behind
        · exact absurd told (kept later member)
        · exact leads other behind
      · refine ((ih sorted).filter _).imp_of_mem ?_
        rintro earlier later _ member ⟨witness, found, told, precedes⟩
        refine ⟨witness, List.mem_cons_of_mem _ found, told, ?_⟩
        intro other among same
        rcases List.mem_cons.mp among with rfl | behind
        · exact absurd same (kept later member)
        · exact precedes other behind same

end Firsts

end FolderIndex
