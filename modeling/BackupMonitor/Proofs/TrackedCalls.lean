import BackupMonitor.Proofs.TrackedSet
import Mathlib.Data.Set.Card

/-!
# Calls about different backups

What is tracked is changed by calls: a backup is observed, or a name is forgotten. A call reads and
writes one entry, that of the backup it is about (`Tracked.get?_perform`). So the calls about one
backup answer as if there were no others, and calls about different backups can change places.
-/

namespace BackupMonitor

namespace Tracked

/-! ## Calls -/

/-- A call that may change what is tracked. -/
inductive Call where
  /-- The state of a backup is taken in. -/
  | observe (backup : Object)
  /-- A backup is not to be tracked any longer. -/
  | forget (name : String)

/-- The backup that a call is about; `none` if it does not say. -/
def Call.name? : Call → Option String
  | observe backup => backup.name
  | forget name => some name

/-- The answer to a call. -/
inductive Answer where
  /-- What the state of the backup says, and what is logged about it. -/
  | observed (result : Except DataError (Option Outcome)) (log : List Log.Line)
  /-- The phase that the backup was tracked under, if it was. -/
  | forgot (phase : Option Phase)

/-- A call that was made. -/
structure Done where
  /-- The call. -/
  call : Call
  /-- The answer to it. -/
  answer : Answer
  /-- What is tracked afterwards. -/
  after : Tracked

/-- What shows of a call to someone who sees the entry of one backup. -/
def Done.shown (name : String) (d : Done) : Call × Answer × Option Phase :=
  (d.call, d.answer, d.after.get? name)

/-- Makes a call. -/
def perform (tracked : Tracked) (call : Call) : Done :=
  match call with
  | .observe backup =>
    let seen := tracked.observe backup
    { call, answer := .observed seen.result seen.log, after := seen.tracked }
  | .forget name => { call, answer := .forgot (tracked.get? name), after := tracked.erase name }

/-- Makes one call after the other. -/
def performAll (tracked : Tracked) : List Call → List Done
  | [] => []
  | call :: calls =>
    let d := tracked.perform call
    d :: d.after.performAll calls

/-- What is tracked after calls. -/
def afterAll (tracked : Tracked) (calls : List Call) : Tracked :=
  calls.foldl (fun tracked call => (tracked.perform call).after) tracked

/-- The answers to calls. -/
def answers (tracked : Tracked) (calls : List Call) : List Answer :=
  (tracked.performAll calls).map (·.answer)

/-- Whether a call is about the backup of that name. -/
def Call.isAbout (name : String) (call : Call) : Bool :=
  decide (call.name? = some name)

/-- What becomes of the entry of a backup when a call is made about it. -/
def Call.nextEntry (call : Call) (entry : Option Phase) : Option Phase :=
  match call with
  | observe backup => backup.nextEntry entry
  | forget _ => none

variable {tracked other : Tracked} {call : Call} {calls : List Call} {name : String}

lemma Call.isAbout_iff : call.isAbout name = true ↔ call.name? = some name :=
  decide_eq_true_iff

@[simp] lemma call_perform (tracked : Tracked) (call : Call) :
    (tracked.perform call).call = call := by
  cases call <;> rfl

lemma performAll_cons (tracked : Tracked) (call : Call) (calls : List Call) :
    tracked.performAll (call :: calls) =
      tracked.perform call :: (tracked.perform call).after.performAll calls := rfl

lemma afterAll_cons (tracked : Tracked) (call : Call) (calls : List Call) :
    tracked.afterAll (call :: calls) = (tracked.perform call).after.afterAll calls := rfl

lemma afterAll_append (tracked : Tracked) (before calls : List Call) :
    tracked.afterAll (before ++ calls) = (tracked.afterAll before).afterAll calls :=
  List.foldl_append

lemma answers_cons (tracked : Tracked) (call : Call) (calls : List Call) :
    tracked.answers (call :: calls) =
      (tracked.perform call).answer :: (tracked.perform call).after.answers calls := rfl

lemma answers_append (tracked : Tracked) (before calls : List Call) :
    tracked.answers (before ++ calls) =
      tracked.answers before ++ (tracked.afterAll before).answers calls := by
  induction before generalizing tracked with
  | nil => rfl
  | cons call before ih => simp only [List.cons_append, answers_cons, afterAll_cons, ih]

lemma length_answers (tracked : Tracked) (calls : List Call) :
    (tracked.answers calls).length = calls.length := by
  induction calls generalizing tracked with
  | nil => rfl
  | cons call calls ih => simp only [answers_cons, List.length_cons, ih]

/-! ## What one call reads and writes -/

/-- A call writes the entry of its backup and no other. -/
theorem get?_perform (tracked : Tracked) (call : Call) (name : String) :
    (tracked.perform call).after.get? name =
      if call.name? = some name then call.nextEntry (tracked.get? name) else tracked.get? name := by
  cases call with
  | observe backup => exact Tracker.get?_observe tracked backup name
  | forget own => simp [perform, Call.name?, Call.nextEntry, eq_comm (a := name)]

lemma get?_perform_of_other (h : call.name? ≠ some name) :
    (tracked.perform call).after.get? name = tracked.get? name := by
  rw [get?_perform, if_neg h]

lemma get?_perform_congr (h : tracked.get? name = other.get? name) (call : Call) :
    (tracked.perform call).after.get? name = (other.perform call).after.get? name := by
  rw [get?_perform, get?_perform, h]

/-- A call without a name changes nothing. -/
lemma after_perform_of_nameless (h : call.name? = none) : (tracked.perform call).after = tracked :=
  Table.ext_get? fun name => by simp [get?_perform, h]

/-- What is logged about a backup depends on no entry but its own. -/
lemma observationLog_congr (h : tracked.get? name = other.get? name) (backup : Object)
    (phase : Phase) :
    tracked.observationLog name backup phase = other.observationLog name backup phase := by
  have hcontains : tracked.contains name = other.contains name := congrArg Option.isSome h
  rw [observationLog, observationLog, hcontains]

/-- A call reads the entry of its backup and no other. -/
lemma answer_perform_congr
    (h : ∀ name, call.name? = some name → tracked.get? name = other.get? name) :
    (tracked.perform call).answer = (other.perform call).answer := by
  cases call with
  | forget name => simp [perform, h name rfl]
  | observe backup =>
    cases hname : backup.name with
    | none => simp [perform, observe, hname]
    | some name =>
      simp only [perform, observe, hname]
      cases Phase.ofBackup backup with
      | error cause => rfl
      | ok phase =>
        simp only [observationLog_congr (h name hname) backup phase]
        cases hend : Outcome.ofPhase backup phase with
        | error e => simp
        | ok outcome => cases outcome <;> simp

/-! ## Calls about one backup -/

/-- Where the entry of a backup is the same, calls about it leave the same entry. -/
lemma get?_afterAll_filter (h : tracked.get? name = other.get? name) (calls : List Call) :
    (tracked.afterAll calls).get? name =
      (other.afterAll (calls.filter (Call.isAbout name))).get? name := by
  induction calls generalizing tracked other with
  | nil => exact h
  | cons call calls ih =>
    rw [afterAll_cons, List.filter_cons]
    split
    next => exact ih (get?_perform_congr h call)
    next hother => exact ih ((get?_perform_of_other (mt Call.isAbout_iff.mpr hother)).trans h)

/-- Where the entry of a backup is the same, the calls about it show the same whether or not calls
about other backups are made between them. -/
lemma shown_performAll_filter (h : tracked.get? name = other.get? name) (calls : List Call) :
    ((tracked.performAll calls).filter (·.call.isAbout name)).map (Done.shown name) =
      (other.performAll (calls.filter (Call.isAbout name))).map (Done.shown name) := by
  induction calls generalizing tracked other with
  | nil => rfl
  | cons call calls ih =>
    rw [performAll_cons, List.filter_cons, List.filter_cons, call_perform]
    split
    next habout =>
      have hentry := get?_perform_congr h call
      have hanswer : (tracked.perform call).answer = (other.perform call).answer := by
        refine answer_perform_congr fun own hown => ?_
        obtain rfl := Option.some.inj ((Call.isAbout_iff.mp habout).symm.trans hown)
        exact h
      rw [performAll_cons, List.map_cons, List.map_cons, ih hentry]
      simp only [Done.shown, call_perform, hanswer, hentry]
    next hother => exact ih ((get?_perform_of_other (mt Call.isAbout_iff.mpr hother)).trans h)

/-! ## Calls about different backups -/

variable {a b : Call}

/-- Of two calls about different backups no backup sees the order. -/
lemma filter_isAbout_swap (h : a.name? ≠ b.name?) (name : String) :
    [a, b].filter (Call.isAbout name) = [b, a].filter (Call.isAbout name) := by
  by_cases ha : a.name? = some name <;> by_cases hb : b.name? = some name
  · exact absurd (ha.trans hb.symm) h
  all_goals simp [Call.isAbout, ha, hb]

/-- After two calls about different backups the same is tracked in either order. -/
lemma afterAll_swap (h : a.name? ≠ b.name?) (tracked : Tracked) :
    tracked.afterAll [a, b] = tracked.afterAll [b, a] :=
  Table.ext_get? fun name => by
    rw [get?_afterAll_filter rfl [a, b], get?_afterAll_filter rfl [b, a], filter_isAbout_swap h]

/-- A call answers the same after a call about another backup. -/
lemma answer_perform_after (h : a.name? ≠ b.name?) (tracked : Tracked) :
    ((tracked.perform a).after.perform b).answer = (tracked.perform b).answer := by
  refine answer_perform_congr fun name hname => ?_
  exact get?_perform_of_other fun ha => h (ha.trans hname.symm)

/-- Two calls about different backups can change places: each gets the answer it got before, and
whatever comes later goes on as before. -/
lemma swap (h : a.name? ≠ b.name?) (tracked : Tracked) (before later : List Call) :
    ∃ earlier answerA answerB rest, earlier.length = before.length ∧
      tracked.answers (before ++ a :: b :: later) = earlier ++ answerA :: answerB :: rest ∧
      tracked.answers (before ++ b :: a :: later) = earlier ++ answerB :: answerA :: rest ∧
      tracked.afterAll (before ++ a :: b :: later) =
        tracked.afterAll (before ++ b :: a :: later) := by
  have hsame := afterAll_swap h (tracked.afterAll before)
  refine ⟨tracked.answers before, ((tracked.afterAll before).perform a).answer,
    ((tracked.afterAll before).perform b).answer,
    ((tracked.afterAll before).afterAll [a, b]).answers later, length_answers tracked before,
    ?_, ?_, ?_⟩
  · rw [answers_append, answers_cons, answers_cons, answer_perform_after h]
    rfl
  · rw [answers_append, answers_cons, answers_cons, answer_perform_after h.symm, hsame]
    rfl
  · simp only [afterAll_append, afterAll_cons]
    exact congrArg (·.afterAll later) hsame

end Tracked

/-! ## How many -/

/-- A table has as many entries as there are names that it contains. -/
lemma Table.encard_contains {α : Type} (t : Table α) :
    {name | t.contains name = true}.encard = t.size := by
  have hnames : {name | t.contains name = true} = (t.names.toFinset : Set String) := by
    ext name
    simp [Table.isSome_get?_iff]
  have hnodup : t.names.Nodup := t.names_ascending.imp fun h => String.ne_of_lt h
  rw [hnames, Set.encard_coe_eq_coe_finsetCard, List.toFinset_card_of_nodup hnodup,
    Table.length_names]

namespace Tracked

/-- The backups are independent of each other. The calls about one backup show the same answers and
entries as if no others were made, wherever they start; so calls about different backups that
follow each other can change places, and a call without a name changes nothing. At every point
there are as many entries as names that are tracked. -/
theorem calls_are_independent (tracked : Tracked) (calls : List Call) :
    (∀ name,
      ((tracked.performAll calls).filter (·.call.isAbout name)).map (Done.shown name) =
        (tracked.performAll (calls.filter (Call.isAbout name))).map (Done.shown name) ∧
      (tracked.afterAll calls).get? name =
        (tracked.afterAll (calls.filter (Call.isAbout name))).get? name) ∧
    (∀ before a b later, calls = before ++ a :: b :: later → a.name? ≠ b.name? →
      ∃ earlier answerA answerB rest, earlier.length = before.length ∧
        tracked.answers calls = earlier ++ answerA :: answerB :: rest ∧
        tracked.answers (before ++ b :: a :: later) = earlier ++ answerB :: answerA :: rest ∧
        tracked.afterAll calls = tracked.afterAll (before ++ b :: a :: later)) ∧
    (∀ call : Call, call.name? = none → (tracked.perform call).after = tracked) ∧
    ∀ point ∈ tracked :: (tracked.performAll calls).map (·.after),
      {name | point.contains name = true}.encard = point.size := by
  refine ⟨fun name => ⟨shown_performAll_filter rfl calls, get?_afterAll_filter rfl calls⟩, ?_,
    fun call => after_perform_of_nameless, fun point _ => point.encard_contains⟩
  rintro before a b later rfl h
  exact swap h tracked before later

end Tracked

namespace Sample

/-- One backup runs, another one completes without times, and the first one is forgotten. -/
def interleaved : List Tracked.Call :=
  [.observe (running "b1"), .observe (timeless "b2"), .forget "b1"]

end Sample

namespace Tracked

/-- It makes no difference whether the first backup is forgotten before the second one is seen,
whose state is malformed. -/
theorem calls_are_independent_interleaved :
    ((∅ : Tracked).afterAll Sample.interleaved).entries = [("b2", .completed)] ∧
    (∅ : Tracked).afterAll Sample.interleaved =
      (∅ : Tracked).afterAll
        [.observe (Sample.running "b1"), .forget "b1", .observe (Sample.timeless "b2")] ∧
    {name | ((∅ : Tracked).afterAll Sample.interleaved).contains name = true}.encard = 1 := by
  obtain ⟨-, hswap, -, hsize⟩ := calls_are_independent ∅ Sample.interleaved
  obtain ⟨_, _, _, _, -, -, -, hsame⟩ := hswap [.observe (Sample.running "b1")]
    (.observe (Sample.timeless "b2")) (.forget "b1") [] rfl (by decide)
  refine ⟨rfl, hsame, ?_⟩
  rw [hsize ((∅ : Tracked).afterAll Sample.interleaved) (by simp [Sample.interleaved, performAll,
    afterAll])]
  rfl

end Tracked

end BackupMonitor
