import BackupMonitor.Proofs.Dialogue
import BackupMonitor.Proofs.ListedVersion

/-!
# The versions of lists

The server numbers the lists of a kind that succeed, and a list has the version of its number. Its
cursor is that version, or the one that stands for any version (`System.IsNumbered`). Where a server
answers to lists, the version of a list is the one in the answer (`Setup.AnsweredBy`).
-/

namespace BackupMonitor

open Occurrence

/-- Whether a list of that kind succeeded. -/
def Occurrence.isListOf (kind : ResourceKind) : Occurrence → Bool
  | listed other _ => other == kind
  | _ => false

/-- How many lists of a kind succeeded. -/
def Trace.lists (trace : Trace) (kind : ResourceKind) : Nat :=
  trace.countP (·.what.isListOf kind)

/-- The server counts the lists that succeed. -/
lemma System.listed_serverAfter (server : Server) (did : List Occurrence) (kind : ResourceKind) :
    ((serverAfter server did).shelf kind).listed =
      (server.shelf kind).listed + did.countP (·.isListOf kind) := by
  unfold serverAfter
  induction did generalizing server with
  | nil => rfl
  | cons what did ih =>
    rw [List.foldl_cons, List.countP_cons, ih]
    cases what with
    | listed other listing =>
      cases other <;> cases kind <;> simp [Server.update, Server.shelf, isListOf] <;> omega
    | _ => rfl

namespace Tracker

/-- A list that a tracker gets is what the server has ready. -/
lemma Step.of_listed {view : View} {schedule : String} {stage stage' : TrackerStage}
    {did : List Occurrence} (h : Step view schedule stage stage' did) {kind : ResourceKind}
    {listing : Listing} (hmem : .listed kind listing ∈ did) :
    exchange did = [.listed kind listing] ∧ listing = view.listing kind := by
  rw [← mem_exchange rfl] at hmem
  cases h with
  | listed =>
    cases List.mem_singleton.mp hmem
    exact ⟨rfl, rfl⟩
  | take =>
    rw [exchange_take] at hmem
    cases List.mem_singleton.mp hmem
  | deliver =>
    rw [exchange_deliver] at hmem
    cases hmem
  | _ => simp [exchange, finish, isExchange] at hmem

end Tracker

namespace Watcher

/-- A list that a watcher gets is what the server has ready. -/
lemma Step.of_listed {view : View} {r : Roster} {cluster : String} {stage : WatcherStage}
    {change : WatcherChange} (h : Step view r cluster stage change) {kind : ResourceKind}
    {listing : Listing} (hmem : .listed kind listing ∈ change.did) :
    exchange change.did = [.listed kind listing] ∧ listing = view.listing kind := by
  rw [← mem_exchange rfl] at hmem
  cases h with
  | listed =>
    rw [exchange_cons, exchange_of_isUpkeep (r.keeps_enlistAll cluster _).upkeep] at hmem ⊢
    cases List.mem_singleton.mp hmem
    exact ⟨rfl, rfl⟩
  | take =>
    rw [exchange_cons, exchange_of_isUpkeep (r.keeps_consider cluster _).upkeep] at hmem
    cases List.mem_singleton.mp hmem
  | cancel =>
    rw [exchange_drain] at hmem
    cases hmem
  | listFails =>
    rw [exchange_drain] at hmem
    cases List.mem_singleton.mp hmem
  | watchFails =>
    rw [exchange_drain] at hmem
    cases List.mem_singleton.mp hmem
  | sawEnd =>
    rw [exchange_drain] at hmem
    simp [exchange, isExchange] at hmem
  | _ => simp [exchange, afterDrain, isExchange] at hmem

end Watcher

namespace System

variable {setup : Setup} {s next : System} {task : TaskId}

/-- Every list has the version of its number, and the server knows how many there were. -/
structure IsNumbered (setup : Setup) (s : System) : Prop where
  /-- The server knows how many lists of a kind succeeded. -/
  listed : ∀ kind, (s.server.shelf kind).listed = s.trace.lists kind
  /-- The cursor of a list is its version, if it has one. -/
  cursor : ∀ before task kind listing after,
    s.trace = before ++ ⟨task, .listed kind listing⟩ :: after →
    listing.cursor = (setup.version kind (Trace.lists before kind + 1)).getD anyVersion

/-- What a step adds to the trace, and what it does to the server. -/
lemma exists_lists_of_step (h : s.step setup task = some next) :
    ∃ did, next.trace = s.trace ++ did.map (⟨task, ·⟩) ∧ next.server = serverAfter s.server did ∧
      ∀ kind listing, .listed kind listing ∈ did →
        exchange did = [.listed kind listing] ∧
        listing = (s.view setup Tokens.root).listing kind := by
  cases task with
  | watcher index =>
    obtain ⟨w, change, -, hchange, rfl⟩ := step_watcher_eq_some h
    exact ⟨change.did, rfl, rfl, fun kind listing => (Watcher.step_cases hchange).of_listed⟩
  | tracker index =>
    obtain ⟨t, stage, did, -, hdid, rfl⟩ := step_tracker_eq_some h
    obtain ⟨lines, hlines⟩ := failureLog_eq_logged s did
    refine ⟨_, rfl, rfl, fun kind listing hmem => ?_⟩
    rw [hlines] at hmem ⊢
    rw [← mem_exchange rfl, exchange_append, exchange_logged, List.append_nil,
      mem_exchange rfl] at hmem
    rw [exchange_append, exchange_logged, List.append_nil]
    exact (Tracker.step_cases hdid).of_listed hmem

lemma IsNumbered.step (h : IsNumbered setup s) (hstep : s.step setup task = some next) :
    IsNumbered setup next := by
  obtain ⟨did, htrace, hserver, hlisted⟩ := exists_lists_of_step hstep
  refine ⟨fun kind => ?_, fun before other kind listing after heq => ?_⟩
  · rw [hserver, listed_serverAfter, h.listed, htrace]
    unfold Trace.lists
    rw [List.countP_append, List.countP_map]
    rfl
  · -- it is one of those before, or the one that the step brings
    have hnew (rest : Trace) (hbefore : before = s.trace ++ rest)
        (hrest : did.map (⟨task, ·⟩) = rest ++ ⟨other, .listed kind listing⟩ :: after) :
        listing.cursor = (setup.version kind (Trace.lists before kind + 1)).getD anyVersion := by
      obtain ⟨front, back, rfl, rfl, hback⟩ := List.map_eq_append_iff.mp hrest
      obtain ⟨what, tail, rfl, hwhat, -⟩ := List.map_eq_cons_iff.mp hback
      obtain ⟨-, rfl⟩ := Entry.mk.inj hwhat
      obtain ⟨honly, rfl⟩ := hlisted kind listing (List.mem_append_right _ List.mem_cons_self)
      have hfront : exchange front = [] := by
        rw [exchange_append, exchange_cons] at honly
        have hlength := congrArg List.length honly
        simp only [isExchange, if_true, List.length_append, List.length_singleton] at hlength
        exact List.length_eq_zero_iff.mp (by omega)
      have hcount : (front.map (Entry.mk task)).countP (·.what.isListOf kind) = 0 := by
        rw [List.countP_map, List.countP_eq_zero]
        intro first hfirst hlist
        have hmem : first ∈ exchange front :=
          (mem_exchange (by cases first <;> first | rfl | cases hlist)).mpr hfirst
        rw [hfront] at hmem
        cases hmem
      have hlists : Trace.lists before kind = (s.server.shelf kind).listed := by
        rw [h.listed, hbefore]
        unfold Trace.lists
        rw [List.countP_append, hcount, Nat.add_zero]
      rw [hlists]
      rfl
    rw [htrace] at heq
    rcases List.append_eq_append_iff.mp heq with ⟨rest, hbefore, hrest⟩ | ⟨rest, hbefore, hrest⟩
    · exact hnew rest hbefore hrest
    · cases rest with
      | nil => exact hnew [] (by simpa using hbefore.symm) hrest.symm
      | cons first rest =>
        obtain ⟨rfl, -⟩ := List.cons.inj hrest
        exact h.cursor before other kind listing rest hbefore

lemma Reachable.isNumbered (h : Reachable setup s) : IsNumbered setup s := by
  refine h.induct ⟨fun kind => ?_, fun before task kind listing after heq => ?_⟩
    (fun s input h => ⟨fun kind => ?_, ?_⟩) (fun _ _ _ h hstep => h.step hstep)
  · cases kind <;> rfl
  · exact absurd heq (by simp)
  · rw [trace_apply, ← h.listed]
    cases input with
    | start role => cases role <;> rfl
    | event => rfl
    | close => rfl
    | arrive => rfl
    | items other objects => cases other <;> cases kind <;> rfl
    | fault verb other message => cases verb <;> cases other <;> cases kind <;> rfl
    | hold verb other held => cases verb <;> cases other <;> cases kind <;> rfl
    | holdSinks held => rfl
    | cancel => rfl
  · rw [trace_apply]
    exact h.cursor

end System

/-- The server answers to lists in this way, by the kind and the number of a list: the version of a
list is the one in the answer. -/
def Setup.AnsweredBy (setup : Setup) (answers : ResourceKind → Nat → Api.Answer) : Prop :=
  ∀ kind number, setup.version kind number = (answers kind number).version?

end BackupMonitor
