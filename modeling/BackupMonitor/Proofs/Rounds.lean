import BackupMonitor.Proofs.Dialogue

/-!
# The rounds of a task

A task calls in rounds. In a round it lists, watches from the cursor of that list, takes what comes
in, and sees the end of the watch; then the next round begins. `Dialogue.exists_rounds` says so of
everything that is said between a task and the API server.
-/

namespace BackupMonitor

open Occurrence

/-- A round: the list that it begins with, and the events of the watch. -/
structure Round where
  /-- The list. -/
  listing : Listing
  /-- The events, in the order in which they were taken. -/
  events : List Event

/-- What is said in a round before the watch ends. -/
def Round.opening (space : String) (kind : ResourceKind) (round : Round) : List Occurrence :=
  [.called ⟨space, .list kind⟩, .listed kind round.listing,
    .called ⟨space, .watch kind round.listing.cursor⟩, .opened kind] ++ round.events.map .took

/-- What is said in a round. -/
def Round.script (space : String) (kind : ResourceKind) (round : Round) : List Occurrence :=
  round.opening space kind ++ [.sawEnd kind]

namespace Dialogue

/-- The part of a round that has been gone through at a phase. -/
inductive Part (space : String) (kind : ResourceKind) : CallPhase → List Occurrence → Prop where
  /-- Nothing. -/
  | idle : Part space kind .idle []
  /-- The call for the list. -/
  | asksList : Part space kind (.asking (.list kind)) [.called ⟨space, .list kind⟩]
  /-- The list. -/
  | listed (listing : Listing) : Part space kind (.listed listing.cursor)
      [.called ⟨space, .list kind⟩, .listed kind listing]
  /-- The call for the watch. -/
  | asksWatch (listing : Listing) : Part space kind (.asking (.watch kind listing.cursor))
      [.called ⟨space, .list kind⟩, .listed kind listing,
        .called ⟨space, .watch kind listing.cursor⟩]
  /-- All but the end of the watch. -/
  | following (round : Round) : Part space kind .following (round.opening space kind)

variable {space : String} {kind : ResourceKind} {phase : CallPhase} {said cut : List Occurrence}

/-- What has been gone through is the beginning of a round. -/
lemma Part.exists_round (h : Part space kind phase cut) :
    ∃ round : Round, cut <+: round.script space kind := by
  have hround (listing : Listing) : ∃ round : Round, round.script space kind =
      [.called ⟨space, .list kind⟩, .listed kind listing,
        .called ⟨space, .watch kind listing.cursor⟩] ++ [.opened kind, .sawEnd kind] :=
    ⟨⟨listing, []⟩, rfl⟩
  cases h with
  | idle => exact ⟨⟨⟨[], ""⟩, []⟩, List.nil_prefix⟩
  | asksList => exact ⟨⟨⟨[], ""⟩, []⟩, _, rfl⟩
  | listed listing =>
    obtain ⟨round, hscript⟩ := hround listing
    exact ⟨round, by rw [hscript]; exact ⟨_, rfl⟩⟩
  | asksWatch listing =>
    obtain ⟨round, hscript⟩ := hround listing
    exact ⟨round, by rw [hscript]; exact List.prefix_append _ _⟩
  | following round => exact ⟨round, List.prefix_append _ _⟩

/-- A task that waits for an answer has just called. -/
lemma Part.getLast?_of_asking {query : Query} (h : Part space kind (.asking query) cut) :
    cut.getLast? = some (.called ⟨space, query⟩) := by
  cases h with
  | asksList => rfl
  | asksWatch => rfl

/-- As long as a task may still call, it has gone through rounds and is in the middle of another. -/
lemma exists_rounds_of_isOpen (h : Dialogue space kind phase said) (hopen : phase.isOpen = true) :
    ∃ (rounds : List Round) (cut : List Occurrence),
      said = rounds.flatMap (·.script space kind) ++ cut ∧ Part space kind phase cut := by
  induction h with
  | begin => exact ⟨[], [], rfl, .idle⟩
  | callList h ih =>
    obtain ⟨rounds, cut, rfl, hpart⟩ := ih rfl
    cases hpart
    exact ⟨rounds, _, by rw [List.append_nil], .asksList⟩
  | listed listing h ih =>
    obtain ⟨rounds, cut, rfl, hpart⟩ := ih rfl
    cases hpart
    exact ⟨rounds, _, List.append_assoc .., .listed listing⟩
  | callWatch h ih =>
    obtain ⟨rounds, cut, rfl, hpart⟩ := ih rfl
    cases hpart with
    | listed listing => exact ⟨rounds, _, List.append_assoc .., .asksWatch listing⟩
  | opened h ih =>
    obtain ⟨rounds, cut, rfl, hpart⟩ := ih rfl
    cases hpart with
    | asksWatch listing => exact ⟨rounds, _, List.append_assoc .., .following ⟨listing, []⟩⟩
  | took event h ih =>
    obtain ⟨rounds, cut, rfl, hpart⟩ := ih rfl
    cases hpart with
    | following round =>
      refine ⟨rounds, _, ?_, .following ⟨round.listing, round.events ++ [event]⟩⟩
      simp only [Round.opening, List.map_append, List.append_assoc]
      rfl
  | sawEnd h ih =>
    -- the end of the watch completes the round
    obtain ⟨rounds, cut, rfl, hpart⟩ := ih rfl
    cases hpart with
    | following round =>
      refine ⟨rounds ++ [round], [], ?_, .idle⟩
      simp [Round.script]
  | refused => cases hopen
  | breakOff => cases hopen
  | finish => cases hopen

/-- How a dialogue goes on after its rounds and the beginning of another one. -/
inductive Ending (cut : List Occurrence) : List Occurrence → Prop where
  /-- It goes on. -/
  | goesOn : Ending cut []
  /-- The task finishes well. -/
  | well : Ending cut [.finished none]
  /-- The call that was made last fails. -/
  | refused {call : Call} {message : String} (hlast : cut.getLast? = some (.called call)) :
      Ending cut [.refused (call.query.error message)]
  /-- The call that was made last fails, and the task finishes with that error. -/
  | failed {call : Call} {message : String} (hlast : cut.getLast? = some (.called call)) :
      Ending cut [.refused (call.query.error message),
        .finished (some (call.query.error message))]

/-- A task goes through rounds, and begins another one that may be its last. -/
theorem exists_rounds (h : Dialogue space kind phase said) :
    ∃ (rounds : List Round) (cut ending : List Occurrence),
      said = rounds.flatMap (·.script space kind) ++ cut ++ ending ∧
      (∃ round : Round, cut <+: round.script space kind) ∧ Ending cut ending := by
  have hgoesOn {phase : CallPhase} {said : List Occurrence} (h : Dialogue space kind phase said)
      (hopen : phase.isOpen = true) : ∃ (rounds : List Round) (cut : List Occurrence),
      said = rounds.flatMap (·.script space kind) ++ cut ∧
        (∃ round : Round, cut <+: round.script space kind) := by
    obtain ⟨rounds, cut, hsaid, hpart⟩ := h.exists_rounds_of_isOpen hopen
    exact ⟨rounds, cut, hsaid, hpart.exists_round⟩
  cases hopen : phase.isOpen with
  | true =>
    obtain ⟨rounds, cut, rfl, hround⟩ := hgoesOn h hopen
    exact ⟨rounds, cut, [], (List.append_nil _).symm, hround, .goesOn⟩
  | false =>
    cases h with
    | refused message h =>
      obtain ⟨rounds, cut, rfl, hpart⟩ := h.exists_rounds_of_isOpen rfl
      exact ⟨rounds, cut, _, rfl, hpart.exists_round, .refused hpart.getLast?_of_asking⟩
    | breakOff hbefore h =>
      obtain ⟨rounds, cut, rfl, hround⟩ := hgoesOn h hbefore
      exact ⟨rounds, cut, [], (List.append_nil _).symm, hround, .goesOn⟩
    | finish h =>
      cases h with
      | refused message h =>
        obtain ⟨rounds, cut, rfl, hpart⟩ := h.exists_rounds_of_isOpen rfl
        exact ⟨rounds, cut, _, List.append_assoc .., hpart.exists_round,
          .failed hpart.getLast?_of_asking⟩
      | breakOff hbefore h =>
        obtain ⟨rounds, cut, rfl, hround⟩ := hgoesOn h hbefore
        exact ⟨rounds, cut, _, rfl, hround, .well⟩
    | _ => cases hopen

end Dialogue

end BackupMonitor
