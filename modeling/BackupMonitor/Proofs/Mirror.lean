import BackupMonitor.Proofs.FilteredLists
import BackupMonitor.Proofs.Narrow
import BackupMonitor.Proofs.RosterAccount
import BackupMonitor.Proofs.Shutdown

/-!
# A schedule in two rosters

Two rosters mirror each other in a schedule if the trackers of the schedule that were started are
the same in both, one by one, and are registered in both or in none (`Roster.Mirrors`). What is done
to other schedules leaves that alone.

In the mirror the trackers of other schedules are missing from some place on, so a tracker of the
schedule may have another place there (`Roster.place?`).
-/

namespace BackupMonitor

/-! ## The trackers of a schedule -/

namespace Roster

variable {name other : String} {before : Nat} {r r' after after' : Roster}

/-- The trackers of a schedule that were started, in that order. -/
def own (r : Roster) (name : String) : List Tracker :=
  r.trackers.filter (·.schedule == name)

/-- The schedules of all trackers, in the order in which these were started. -/
def schedules (r : Roster) : List String :=
  r.trackers.map (·.schedule)

/-- Where a tracker of a schedule stands if those of others are missing from a place on. -/
def place? (r : Roster) (before : Nat) (name : String) (index : Nat) : Option Nat :=
  if r.schedules[index]? = some name then
    some (filterFrom before (· == name) (r.schedules.take index)).length
  else none

/-- Whether each of the trackers of a schedule is registered. -/
def wanted (r : Roster) (name : String) : List Bool :=
  (r.own name).map fun t => r.registry.get? name == some t.token

lemma mem_own {t : Tracker} : t ∈ r.own name ↔ t ∈ r.trackers ∧ t.schedule = name := by
  unfold own
  rw [List.mem_filter, beq_iff_eq]

/-- The schedules are among what the trackers were started with. -/
lemma schedules_eq (r : Roster) : r.schedules = r.origins.map (·.1) := by
  unfold schedules origins
  rw [List.map_map]
  rfl

lemma schedules_congr (horigins : after.origins = r.origins) : after.schedules = r.schedules := by
  rw [schedules_eq, schedules_eq, horigins]

lemma getElem?_schedules (r : Roster) (index : Nat) :
    r.schedules[index]? = r.trackers[index]?.map (·.schedule) :=
  List.getElem?_map

lemma own_congr (h : after.trackers = r.trackers) : after.own name = r.own name := by
  unfold own
  rw [h]

/-- Whether a tracker is registered depends on what it was started with. -/
lemma wanted_eq : r.wanted name =
    (r.origins.filter (·.1 == name)).map fun o => r.registry.get? name == some o.2 := by
  unfold wanted own origins
  rw [List.filter_map, List.map_map]
  rfl

lemma wanted_congr (horigins : after.origins = r.origins)
    (hregistry : after.registry.get? name = r.registry.get? name) :
    after.wanted name = r.wanted name := by
  rw [wanted_eq, wanted_eq, horigins, hregistry]

/-- The place of a tracker among those of a schedule. -/
def rank (r : Roster) (name : String) (index : Nat) : Nat :=
  (r.origins.take index).countP (·.1 == name)

lemma rank_eq (r : Roster) (name : String) (index : Nat) :
    r.rank name index = (r.trackers.take index).countP (·.schedule == name) := by
  unfold rank origins
  rw [← List.map_take, List.countP_map]
  rfl

/-- Only the schedules of the trackers before it matter for the place of a tracker. -/
lemma rank_eq_countP_schedules (r : Roster) (name : String) (index : Nat) :
    r.rank name index = (r.schedules.take index).countP (· == name) := by
  unfold rank
  rw [schedules_eq, ← List.map_take, List.countP_map]
  rfl

/-- No two trackers of a schedule have the same place. -/
lemma IsAccounted.index_eq_of_rank_eq (h : r.IsAccounted) {index index' : Nat}
    {o o' : String × Token} (ho : r.origins[index]? = some o) (ho' : r.origins[index']? = some o')
    (hname : o.1 = name) (hname' : o'.1 = name)
    (hrank : r.rank name index = r.rank name index') : index = index' := by
  have hplace : (r.origins.filter (·.1 == name))[r.rank name index]? = some o :=
    getElem?_filter_of_getElem? ho (beq_iff_eq.mpr hname)
  have hplace' : (r.origins.filter (·.1 == name))[r.rank name index']? = some o' :=
    getElem?_filter_of_getElem? ho' (beq_iff_eq.mpr hname')
  rw [hrank, hplace'] at hplace
  exact h.index_eq_of_token_eq ho ho' (congrArg Prod.snd (Option.some.inj hplace)).symm

lemma IsAccounted.index_eq_of_schedules (h : r.IsAccounted) {index index' : Nat}
    (hname : r.schedules[index]? = some name) (hname' : r.schedules[index']? = some name)
    (hrank : r.rank name index = r.rank name index') : index = index' := by
  rw [schedules_eq, List.getElem?_map, Option.map_eq_some_iff] at hname hname'
  obtain ⟨o, ho, hname⟩ := hname
  obtain ⟨o', ho', hname'⟩ := hname'
  exact h.index_eq_of_rank_eq ho ho' hname hname' hrank

/-- There a tracker of the schedule stands among those of the schedule. -/
lemma own_rank {index : Nat} {t : Tracker} (ht : r.trackers[index]? = some t)
    (hschedule : t.schedule = name) : (r.own name)[r.rank name index]? = some t := by
  rw [rank_eq]
  exact getElem?_filter_of_getElem? ht (beq_iff_eq.mpr hschedule)

/-- And what stands there is a tracker with that place. -/
lemma exists_rank {place : Nat} {t : Tracker} (ht : (r.own name)[place]? = some t) :
    ∃ index, r.trackers[index]? = some t ∧ r.rank name index = place := by
  obtain ⟨index, hindex, hplace⟩ := exists_of_getElem?_filter ht
  exact ⟨index, hindex, (rank_eq r name index).trans hplace⟩

/-- A tracker of a schedule has a place, also among those that are started later. -/
lemma ne_of_place?_eq_none {all : Roster} (hall : r.schedules <+: all.schedules)
    {index other : Nat} (hplace : all.place? before name index = none)
    (hother : r.schedules[other]? = some name) : other ≠ index := by
  rintro rfl
  obtain ⟨later, hlater⟩ := hall
  unfold place? at hplace
  rw [← hlater, List.getElem?_append_left (List.getElem?_eq_some_iff.mp hother).1, hother,
    if_pos rfl] at hplace
  cases hplace

lemma length_own (r : Roster) (name : String) :
    (r.own name).length = r.schedules.countP (· == name) := by
  unfold own schedules
  rw [List.countP_map, List.countP_eq_length_filter]
  rfl

/-! ### What comes in -/

/-- The trackers stay those of the same schedules. -/
lemma schedules_withFeeds (r : Roster) (F : Nat → Feed → Feed) :
    (r.withFeeds F).schedules = r.schedules :=
  schedules_congr (origins_withFeeds r F)

/-- The same trackers stay registered. -/
lemma wanted_withFeeds (r : Roster) (F : Nat → Feed → Feed) :
    (r.withFeeds F).wanted name = r.wanted name :=
  wanted_congr (origins_withFeeds r F) rfl

/-- Each tracker of a schedule gets what is for it. -/
lemma exists_of_own_withFeeds {F : Nat → Feed → Feed} {place : Nat} {u : Tracker}
    (hu : ((r.withFeeds F).own name)[place]? = some u) :
    ∃ index t, r.trackers[index]? = some t ∧ t.schedule = name ∧ r.rank name index = place ∧
      t.updateFeed (F index) = u := by
  obtain ⟨index, hindex, hrank⟩ := exists_rank hu
  rw [getElem?_withFeeds, Option.map_eq_some_iff] at hindex
  obtain ⟨t, ht, rfl⟩ := hindex
  refine ⟨index, t, ht, ?_, ?_, rfl⟩
  · rw [← t.schedule_updateFeed (F index)]
    exact (mem_own.mp (List.mem_of_getElem? hu)).2
  · unfold rank at hrank ⊢
    rwa [origins_withFeeds] at hrank

/-! ### What is done by one of them -/

/-- A tracker of the schedule moves on among those of the schedule. -/
lemma own_setStage {index : Nat} {t : Tracker} (ht : r.trackers[index]? = some t)
    (hschedule : t.schedule = name) (stage : TrackerStage) :
    (r.setStage index stage).own name =
      (r.own name).modify (r.rank name index) ({ · with stage }) := by
  rw [rank_eq]
  unfold own
  rw [trackers_setStage]
  have hkept : (t.schedule == name) = true := beq_iff_eq.mpr hschedule
  exact filter_modify ht hkept hkept

/-- A tracker of another schedule leaves them alone. -/
lemma own_setStage_of_ne {index : Nat} {t : Tracker} (ht : r.trackers[index]? = some t)
    (hschedule : t.schedule ≠ name) (stage : TrackerStage) :
    (r.setStage index stage).own name = r.own name := by
  unfold own
  rw [trackers_setStage]
  have hleft : (t.schedule == name) = false := beq_false_of_ne hschedule
  exact filter_modify_of_not ht hleft hleft

lemma tokens_setStage (r : Roster) (index : Nat) (stage : TrackerStage) :
    (r.setStage index stage).tokens = r.tokens := by
  obtain ⟨emptied, hstage⟩ := exists_noteEmptied_eq r
    { r with trackers := r.trackers.modify index ({ · with stage }) }
  unfold setStage
  rw [hstage]

lemma schedules_setStage (r : Roster) (index : Nat) (stage : TrackerStage) :
    (r.setStage index stage).schedules = r.schedules :=
  schedules_congr (origins_setStage r index stage)

lemma wanted_setStage (r : Roster) (index : Nat) (stage : TrackerStage) :
    (r.setStage index stage).wanted name = r.wanted name :=
  wanted_congr (origins_setStage r index stage) (by rw [registry_setStage])

/-- If the schedule is not registered, none of its trackers is. -/
lemma wanted_of_none (htrackers : after.trackers = r.trackers)
    (hnone : after.registry.get? name = none) :
    after.wanted name = (r.wanted name).map fun _ => false := by
  unfold wanted
  rw [own_congr htrackers, hnone, List.map_map]
  rfl

/-- A schedule is registered exactly if one of its trackers is. -/
lemma IsAccounted.isSome_get?_eq (h : r.IsAccounted) :
    (r.registry.get? name).isSome = (r.wanted name).any id := by
  rw [Bool.eq_iff_iff, Option.isSome_iff_exists, List.any_eq_true]
  constructor
  · rintro ⟨token, htoken⟩
    obtain ⟨t, ht, horigin⟩ := List.mem_map.mp (h.started name token htoken)
    obtain ⟨hschedule, rfl⟩ := Prod.mk.inj horigin
    refine ⟨true, List.mem_map.mpr ⟨t, mem_own.mpr ⟨ht, hschedule⟩, ?_⟩, rfl⟩
    rw [htoken]
    exact beq_self_eq_true _
  · rintro ⟨wanted, hmem, hwanted⟩
    obtain ⟨t, -, rfl⟩ := List.mem_map.mp hmem
    exact ⟨t.token, beq_iff_eq.mp hwanted⟩

/-! ## The root -/

namespace IsAccounted

/-- The root is cancelled only if it has been fired itself. -/
lemma isCancelled_root_iff (h : r.IsAccounted) :
    r.tokens.isCancelled Tokens.root = true ↔ Tokens.root ∈ r.tokens.fired := by
  simp [Tokens.isCancelled, h.root]

lemma isCancelled_root_eq (h : r.IsAccounted) (h' : after.IsAccounted)
    (hfired : Tokens.root ∈ after.tokens.fired ↔ Tokens.root ∈ r.tokens.fired) :
    after.tokens.isCancelled Tokens.root = r.tokens.isCancelled Tokens.root := by
  rw [Bool.eq_iff_iff, h'.isCancelled_root_iff, hfired, h.isCancelled_root_iff]

lemma isCancelled_root_start (h : r.IsAccounted) (schedule : String) :
    (r.start schedule).1.tokens.isCancelled Tokens.root = r.tokens.isCancelled Tokens.root := by
  refine h.isCancelled_root_eq (h.start schedule) ?_
  rw [start_eq]
  split <;> rfl

/-- The token of a tracker is not the root. -/
lemma isCancelled_root_stop (h : r.IsAccounted) (schedule reason : String) :
    (r.stop schedule reason).1.tokens.isCancelled Tokens.root =
      r.tokens.isCancelled Tokens.root := by
  refine h.isCancelled_root_eq (h.stop schedule reason) ?_
  rw [stop_eq]
  split
  next => exact Iff.rfl
  next token htoken =>
    have hne := h.ne_root (h.started schedule token htoken)
    rw [Tokens.mem_fired_cancel, or_iff_right hne.symm]

lemma isCancelled_root_stopAll (h : r.IsAccounted) :
    r.stopAll.1.tokens.isCancelled Tokens.root = r.tokens.isCancelled Tokens.root := by
  refine h.isCancelled_root_eq h.stopAll (Tokens.mem_fired_cancelAll.trans (or_iff_right ?_))
  intro hmem
  obtain ⟨⟨name, token⟩, hentry, htoken⟩ := List.mem_map.mp hmem
  exact h.ne_root (h.started name token (Table.get?_eq_some_iff.mpr hentry)) htoken

end IsAccounted

/-! ## Starting a tracker -/

section start

/-- Another schedule that is started leaves the trackers of this one alone. -/
lemma own_start_of_ne (hother : other ≠ name) : (r.start other).1.own name = r.own name := by
  rw [start_eq]
  split
  · rfl
  · unfold own
    simp [hother]

lemma wanted_start_of_ne (hother : other ≠ name) :
    (r.start other).1.wanted name = r.wanted name := by
  have hregistry : (r.start other).1.registry.get? name = r.registry.get? name := by
    rw [start_eq]
    split
    · rfl
    · rw [Table.get?_insert, if_neg hother.symm]
  unfold wanted
  rw [own_start_of_ne hother, hregistry]

variable (hnone : r.registry.get? name = none)

include hnone

/-- A tracker that is started comes last. -/
lemma own_start :
    (r.start name).1.own name = r.own name ++ [{ schedule := name, token := r.tokens.next }] := by
  rw [start_eq, if_neg (by simp [Table.contains, hnone])]
  unfold own
  simp

omit hnone in
/-- The schedules of the trackers that are there stay. -/
lemma schedules_prefix_start (r : Roster) (schedule : String) :
    r.schedules <+: (r.start schedule).1.schedules := by
  obtain ⟨fresh, htrackers, -⟩ := (r.keeps_start schedule).extends_fst
  unfold schedules
  rw [htrackers, List.map_append]
  exact List.prefix_append _ _

omit hnone in
/-- Nothing that is done to the roster changes the schedules of the trackers that are there. -/
lemma isKept_schedules (started : List String) : IsKept fun r => started <+: r.schedules where
  start r schedule h := h.trans (schedules_prefix_start r schedule)
  stop _ _ _ h := h
  stopAll _ h := h
  cancel _ h := h
  await _ _ _ h := h
  progress r trackers horigins h := by
    have hsame : schedules { r with trackers } = r.schedules := schedules_congr horigins
    rwa [hsame]

/-- The schedule of a tracker that is started comes last. -/
lemma schedules_start : (r.start name).1.schedules = r.schedules ++ [name] := by
  rw [schedules_eq, schedules_eq, origins_start hnone, List.map_append]
  rfl

/-- The tracker that is started is the registered one. -/
lemma wanted_start (h : r.IsAccounted) :
    (r.start name).1.wanted name = r.wanted name ++ [true] := by
  have hget : (r.start name).1.registry.get? name = some r.tokens.next := by
    rw [registry_start hnone, Table.get?_insert, if_pos rfl]
  unfold wanted
  rw [own_start hnone, hget, hnone, List.map_append]
  congr 1
  · refine List.map_congr_left fun t ht => ?_
    have hlt := h.lt_next (List.mem_map_of_mem (mem_own.mp ht).1)
    have hne : r.tokens.next ≠ t.token := Nat.ne_of_gt hlt
    simp [hne]
  · simp

end start

/-! ## Side by side -/

/-- In the schedule, a roster is mirrored by one that does not have the trackers of others from a
place on. -/
structure Mirrors (name : String) (before : Nat) (r r' : Roster) : Prop where
  /-- The tokens and the registry are in order. -/
  accounted : r.IsAccounted
  /-- They are in the mirror. -/
  accounted' : r'.IsAccounted
  /-- The root is cancelled in both or in none. -/
  root : r.tokens.isCancelled Tokens.root = r'.tokens.isCancelled Tokens.root
  /-- The same trackers of the schedule are registered. -/
  wanted : r.wanted name = r'.wanted name
  /-- They are where they would be without the events about others. -/
  stages : List.Forall₂ (fun t t' => t.stage.Narrows name t'.stage) (r.own name) (r'.own name)
  /-- In the mirror the trackers of other schedules have finished. -/
  others : ∀ t' ∈ r'.trackers, t'.schedule ≠ name → t'.isFinished = true
  /-- From the place on they are missing. -/
  schedules : r'.schedules = filterFrom before (· == name) r.schedules
  /-- There are trackers up to that place. -/
  before_le : before ≤ r.schedules.length

/-- Where all trackers have finished, nothing comes in for any of them, and those of others may be
missing from now on. -/
lemma IsAccounted.mirrors (h : r.IsAccounted) (hdrained : r.isDrained = true) (name : String) :
    Mirrors name r.schedules.length r r := by
  rw [isDrained_iff] at hdrained
  refine ⟨h, h, rfl, rfl, ?_, fun t ht _ => hdrained t ht, ?_, le_rfl⟩
  · exact List.forall₂_same.mpr fun t ht => .of_finished (hdrained t (mem_own.mp ht).1)
  · simp [filterFrom]

namespace Mirrors

variable (h : Mirrors name before r r')

include h

/-- The schedule is registered in both or in none. -/
lemma isSome_get?_eq : (r.registry.get? name).isSome = (r'.registry.get? name).isSome := by
  rw [h.accounted.isSome_get?_eq, h.accounted'.isSome_get?_eq, h.wanted]

/-- What does not start a tracker is mirrored if the same is registered afterwards. -/
lemma of_trackers_eq (haccounted : after.IsAccounted) (haccounted' : after'.IsAccounted)
    (htrackers : after.trackers = r.trackers) (htrackers' : after'.trackers = r'.trackers)
    (hroot : after.tokens.isCancelled Tokens.root = after'.tokens.isCancelled Tokens.root)
    (hwanted : after.wanted name = after'.wanted name) : Mirrors name before after after' where
  accounted := haccounted
  accounted' := haccounted'
  root := hroot
  wanted := hwanted
  stages := by
    rw [own_congr htrackers, own_congr htrackers']
    exact h.stages
  others := by
    rw [htrackers']
    exact h.others
  schedules := by
    unfold Roster.schedules
    rw [htrackers, htrackers']
    exact h.schedules
  before_le := by
    unfold Roster.schedules
    rw [htrackers]
    exact h.before_le

/-- The schedule is not registered afterwards. -/
lemma of_none (haccounted : after.IsAccounted) (haccounted' : after'.IsAccounted)
    (htrackers : after.trackers = r.trackers) (htrackers' : after'.trackers = r'.trackers)
    (hroot : after.tokens.isCancelled Tokens.root = after'.tokens.isCancelled Tokens.root)
    (hnone : after.registry.get? name = none) (hnone' : after'.registry.get? name = none) :
    Mirrors name before after after' := by
  refine h.of_trackers_eq haccounted haccounted' htrackers htrackers' hroot ?_
  rw [wanted_of_none htrackers hnone, wanted_of_none htrackers' hnone', h.wanted]

/-- If all trackers have finished, so have those of the mirror. -/
lemma isDrained (hdrained : r.isDrained = true) : r'.isDrained = true := by
  rw [isDrained_iff] at hdrained ⊢
  intro t' ht'
  by_cases hschedule : t'.schedule = name
  · obtain ⟨place, hplace⟩ := List.mem_iff_getElem?.mp (mem_own.mpr ⟨ht', hschedule⟩)
    obtain ⟨t, ht, hnarrows⟩ := forall₂_getElem? h.stages.flip hplace
    rw [← hnarrows.isFinished_eq]
    exact hdrained t (mem_own.mp (List.mem_of_getElem? ht)).1
  · exact h.others t' ht' hschedule

/-- A tracker of the schedule is cancelled exactly if the one in the mirror is. -/
lemma isCancelled_eq {t t' : Tracker} {place : Nat} (ht : (r.own name)[place]? = some t)
    (ht' : (r'.own name)[place]? = some t') :
    r.tokens.isCancelled t.token = r'.tokens.isCancelled t'.token := by
  have hlive {q : Roster} {u : Tracker} (hq : q.IsAccounted) (hu : (q.own name)[place]? = some u) :
      q.tokens.isCancelled u.token = false ↔
        (q.wanted name)[place]? = some true ∧ q.tokens.isCancelled Tokens.root = false := by
    obtain ⟨hmem, hschedule⟩ := mem_own.mp (List.mem_of_getElem? hu)
    have horigin : u.origin ∈ q.origins := List.mem_map_of_mem hmem
    refine (hq.isCancelled_eq_false_iff horigin).trans (and_congr_left fun _ => ?_)
    simp [Roster.wanted, hu, Tracker.origin, hschedule]
  rw [Bool.eq_iff_iff, ← Bool.not_eq_false, ← Bool.not_eq_false, hlive h.accounted ht,
    hlive h.accounted' ht', h.wanted, h.root]

/-! ## Places -/

/-- A tracker of the schedule stands in the mirror behind all that is left of those before it, and
is the same one of the trackers of the schedule. -/
lemma rank_place {index : Nat} (hname : r.schedules[index]? = some name) :
    r'.schedules[(filterFrom before (· == name) (r.schedules.take index)).length]? = some name ∧
      r'.rank name (filterFrom before (· == name) (r.schedules.take index)).length =
        r.rank name index := by
  obtain ⟨rest, hsplit⟩ : ∃ rest, filterFrom before (· == name) r.schedules =
      filterFrom before (· == name) (r.schedules.take index) ++ name :: rest :=
    filterFrom_of_getElem? hname (beq_self_eq_true name)
  rw [rank_eq_countP_schedules, rank_eq_countP_schedules, h.schedules, hsplit, List.take_left,
    countP_filterFrom]
  simp

/-- Trackers that are the same one of the schedule stand at the places of each other, also among
those that are started later. -/
lemma eq_place_iff {all : Roster} (hall : r.schedules <+: all.schedules)
    {index place other other' : Nat} (hplace : all.place? before name index = some place)
    (hother : r.schedules[other]? = some name) (hother' : r'.schedules[other']? = some name)
    (hrank : r'.rank name other' = r.rank name other) : other' = place ↔ other = index := by
  unfold place? at hplace
  split at hplace
  next hname =>
    obtain rfl := Option.some.inj hplace
    have hlt := (List.getElem?_eq_some_iff.mp hother).1
    have hlt' := (List.getElem?_eq_some_iff.mp hother').1
    by_cases hindex : index < r.schedules.length
    · obtain ⟨later, hlater⟩ := hall
      rw [← hlater, List.getElem?_append_left hindex] at hname
      rw [← hlater, List.take_append_of_le_length hindex.le]
      obtain ⟨hstands, hsame⟩ := h.rank_place hname
      constructor
      · rintro rfl
        exact h.accounted.index_eq_of_schedules hother hname (hrank.symm.trans hsame)
      · rintro rfl
        exact h.accounted'.index_eq_of_schedules hother' hstands (hrank.trans hsame.symm)
    · -- a tracker that is not there yet is not there in the mirror either
      have hbefore : r.schedules <+: all.schedules.take index :=
        List.prefix_take_iff.mpr ⟨hall, Nat.le_of_not_lt hindex⟩
      have hle : r'.schedules.length ≤
          (filterFrom before (· == name) (all.schedules.take index)).length := by
        rw [h.schedules]
        exact length_filterFrom_le hbefore
      exact iff_of_false (by omega) (by omega)
  next => cases hplace

/-! ## The operations -/

/-- The schedule has a tracker afterwards. -/
lemma start : Mirrors name before (r.start name).1 (r'.start name).1 := by
  have hsame := h.isSome_get?_eq
  cases hget : r.registry.get? name with
  | some token =>
    rw [hget] at hsame
    obtain ⟨token', hget'⟩ := Option.isSome_iff_exists.mp hsame.symm
    rwa [start_of_some hget, start_of_some hget']
  | none =>
    rw [hget] at hsame
    have hget' : r'.registry.get? name = none := by simpa using hsame.symm
    refine ⟨h.accounted.start name, h.accounted'.start name, ?_, ?_, ?_,
      fun t' ht' hschedule => ?_, ?_, ?_⟩
    · rw [h.accounted.isCancelled_root_start, h.accounted'.isCancelled_root_start, h.root]
    · rw [wanted_start hget h.accounted, wanted_start hget' h.accounted', h.wanted]
    · rw [own_start hget, own_start hget']
      exact List.rel_append h.stages (.cons .spawned .nil)
    · rw [start_eq, if_neg (by simp [Table.contains, hget'])] at ht'
      rcases List.mem_append.mp ht' with ht' | ht'
      · exact h.others t' ht' hschedule
      · rw [List.mem_singleton.mp ht'] at hschedule
        exact absurd rfl hschedule
    · have hkept : (name == name) = true := beq_self_eq_true name
      rw [schedules_start hget, schedules_start hget',
        filterFrom_concat_of_pos (p := (· == name)) hkept, h.schedules]
    · rw [schedules_start hget, List.length_append]
      exact Nat.le_add_right_of_le h.before_le

/-- Another schedule has a tracker afterwards. -/
lemma start_other (hother : other ≠ name) : Mirrors name before (r.start other).1 r' where
  accounted := h.accounted.start other
  accounted' := h.accounted'
  root := (h.accounted.isCancelled_root_start other).trans h.root
  wanted := (wanted_start_of_ne hother).trans h.wanted
  stages := by
    rw [own_start_of_ne hother]
    exact h.stages
  others := h.others
  schedules := by
    cases hget : r.registry.get? other with
    | some token => rw [start_of_some hget, h.schedules]
    | none =>
      have hleft : (other == name) = false := beq_false_of_ne hother
      rw [schedules_start hget, filterFrom_concat_of_neg (p := (· == name)) hleft h.before_le,
        h.schedules]
  before_le := h.before_le.trans (schedules_prefix_start r other).length_le

/-- The schedule has no tracker afterwards. -/
lemma stop (reason : String) :
    Mirrors name before (r.stop name reason).1 (r'.stop name reason).1 := by
  have hnone (r : Roster) : (r.stop name reason).1.registry.get? name = none := by
    rw [stop_eq]
    split
    next hget => exact hget
    next => rw [Table.get?_erase, if_pos rfl]
  refine h.of_none (h.accounted.stop name reason) (h.accounted'.stop name reason) rfl rfl ?_
    (hnone r) (hnone r')
  rw [h.accounted.isCancelled_root_stop, h.accounted'.isCancelled_root_stop, h.root]

/-- Another schedule has no tracker afterwards. -/
lemma stop_other (hother : other ≠ name) (reason : String) :
    Mirrors name before (r.stop other reason).1 r' := by
  have hregistry : (r.stop other reason).1.registry.get? name = r.registry.get? name := by
    rw [stop_eq]
    split
    next => rfl
    next => rw [Table.get?_erase, if_neg hother.symm]
  have hwanted : (r.stop other reason).1.wanted name = r.wanted name := wanted_congr rfl hregistry
  exact h.of_trackers_eq (h.accounted.stop other reason) h.accounted' rfl rfl
    ((h.accounted.isCancelled_root_stop other reason).trans h.root) (hwanted.trans h.wanted)

/-- All trackers are stopped in both, and are waited for. -/
lemma drain (after after' : AfterDrain) (did did' : List Occurrence) :
    Mirrors name before (Watcher.drain r after did).roster
      (Watcher.drain r' after' did').roster := by
  have haccounted {r : Roster} (h : r.IsAccounted) : r.stopAll.1.close.IsAccounted :=
    isKept_isAccounted.close h.stopAll
  have hbooks (r : Roster) : ∃ emptied, r.stopAll.1.close =
      { r.stopAll.1 with closed := true, emptied } :=
    exists_noteEmptied_eq r.stopAll.1 { r.stopAll.1 with closed := true }
  have hroot {r : Roster} (h : r.IsAccounted) :
      r.stopAll.1.close.tokens.isCancelled Tokens.root = r.tokens.isCancelled Tokens.root := by
    obtain ⟨emptied, hclose⟩ := hbooks r
    rw [hclose]
    exact h.isCancelled_root_stopAll
  have hnone (r : Roster) : r.stopAll.1.close.registry.get? name = none := by
    obtain ⟨emptied, hclose⟩ := hbooks r
    rw [hclose]
    rfl
  exact h.of_none (haccounted h.accounted) (haccounted h.accounted') (trackers_close _)
    (trackers_close _) ((hroot h.accounted).trans (h.root.trans (hroot h.accounted').symm))
    (hnone r) (hnone r')

/-- The root is cancelled in both. -/
lemma cancel : Mirrors name before { r with tokens := r.tokens.cancel Tokens.root }
    { r' with tokens := r'.tokens.cancel Tokens.root } := by
  refine h.of_trackers_eq h.accounted.cancel h.accounted'.cancel rfl rfl ?_ h.wanted
  rw [Bool.eq_iff_iff, h.accounted.cancel.isCancelled_root_iff,
    h.accounted'.cancel.isCancelled_root_iff]
  exact iff_of_true List.mem_cons_self List.mem_cons_self

lemma reopen : Mirrors name before r.reopen r'.reopen :=
  h.of_trackers_eq (isKept_isAccounted.reopen h.accounted) (isKept_isAccounted.reopen h.accounted')
    rfl rfl h.root h.wanted

lemma startIfTargeting (cluster : String) (schedule : Object) :
    Mirrors name before (r.startIfTargeting cluster name schedule).1
      (r'.startIfTargeting cluster name schedule).1 := by
  simp only [Roster.startIfTargeting]
  split
  · exact h.start
  · exact h

lemma startIfTargeting_other (hother : other ≠ name) (cluster : String) (schedule : Object) :
    Mirrors name before (r.startIfTargeting cluster other schedule).1 r' := by
  simp only [Roster.startIfTargeting]
  split
  · exact h.start_other hother
  · exact h

/-- The state of a schedule in a listing, which is left out if it has another name. -/
lemma enlist (cluster : String) (schedule : Object) :
    Mirrors name before (Roster.enlist cluster r schedule).1
      (if schedule.isAbout name .scheduledBackup then (Roster.enlist cluster r' schedule).1
        else r') := by
  unfold Roster.enlist
  cases hname : schedule.name with
  | none => simpa [Object.isAbout, hname] using h
  | some other =>
    by_cases hother : other = name
    · subst hother
      simpa [Object.isAbout, hname] using h.startIfTargeting cluster schedule
    · simpa [Object.isAbout, hname, hother] using h.startIfTargeting_other hother cluster schedule

omit h in
/-- A listing is taken in, and in the mirror what is left of it. -/
lemma enlistAll (h : Mirrors name before r r') (cluster : String) (schedules : List Object) :
    Mirrors name before (r.enlistAll cluster schedules).1
      (r'.enlistAll cluster (schedules.filter (·.isAbout name .scheduledBackup))).1 := by
  induction schedules generalizing r r' with
  | nil => exact h
  | cons schedule rest ih =>
    have hfirst := h.enlist cluster schedule
    rw [enlistAll_cons]
    by_cases habout : schedule.isAbout name .scheduledBackup = true
    · rw [if_pos habout] at hfirst
      rw [List.filter_cons_of_pos habout, enlistAll_cons]
      exact ih hfirst
    · rw [if_neg habout] at hfirst
      rw [List.filter_cons_of_neg habout]
      exact ih hfirst

/-- A change of the schedule. -/
lemma consider (cluster : String) {event : Event}
    (habout : event.object.isAbout name .scheduledBackup = true) :
    Mirrors name before (r.consider cluster event).1 (r'.consider cluster event).1 := by
  unfold Roster.consider
  cases hname : event.object.name with
  | none => exact h
  | some other =>
    obtain rfl : other = name := by simpa [Object.isAbout, hname] using habout
    cases event.change with
    | added => exact h.startIfTargeting cluster _
    | modified =>
      cases hcluster : targets cluster event.object with
      | true => exact h.startIfTargeting cluster _
      | false => exact h.stop "scheduled backup no longer targets this cluster"
    | deleted => exact h.stop _

/-- A change of another schedule. -/
lemma consider_other (cluster : String) {event : Event}
    (habout : event.object.isAbout name .scheduledBackup = false) :
    Mirrors name before (r.consider cluster event).1 r' := by
  unfold Roster.consider
  cases hname : event.object.name with
  | none => simp [Object.isAbout, hname] at habout
  | some other =>
    have hother : other ≠ name := by simpa [Object.isAbout, hname] using habout
    cases event.change with
    | added => exact h.startIfTargeting_other hother cluster _
    | modified =>
      cases hcluster : targets cluster event.object with
      | true => exact h.startIfTargeting_other hother cluster _
      | false => exact h.stop_other hother "scheduled backup no longer targets this cluster"
    | deleted => exact h.stop_other hother _

/-! ## Trackers that move on -/

/-- What comes in over the watches of the trackers of the schedule is narrowed, one by one. -/
lemma withFeeds {F F' : Nat → Feed → Feed}
    (hF : ∀ (index index' : Nat), r.schedules[index]? = some name →
      r'.schedules[index']? = some name → r'.rank name index' = r.rank name index →
      ∀ feed, (F index feed).only name .backup = F' index' (feed.only name .backup)) :
    Mirrors name before (r.withFeeds F) (r'.withFeeds F') where
  accounted := isKept_isAccounted.withFeeds h.accounted _
  accounted' := isKept_isAccounted.withFeeds h.accounted' _
  root := h.root
  wanted := by rw [wanted_withFeeds, wanted_withFeeds, h.wanted]
  stages := by
    refine forall₂_of_getElem? ?_ fun place u u' hu hu' => ?_
    · rw [length_own, length_own, schedules_withFeeds, schedules_withFeeds, ← length_own,
        ← length_own, h.stages.length_eq]
    · -- two trackers at one place of the schedule are mirrors of each other before
      obtain ⟨index, t, ht, hschedule, hrank, rfl⟩ := exists_of_own_withFeeds hu
      obtain ⟨index', t', ht', hschedule', hrank', rfl⟩ := exists_of_own_withFeeds hu'
      obtain ⟨v, hv, hnarrows⟩ := forall₂_getElem? h.stages (own_rank ht hschedule)
      rw [hrank, ← hrank', own_rank ht' hschedule'] at hv
      obtain rfl := Option.some.inj hv
      refine hnarrows.updateFeed (hF index index' ?_ ?_ (hrank'.trans hrank.symm))
      · rw [getElem?_schedules, ht, Option.map_some, hschedule]
      · rw [getElem?_schedules, ht', Option.map_some, hschedule']
  others := by
    intro u hu hschedule
    obtain ⟨index, hindex, rfl⟩ := List.mem_mapIdx.mp hu
    rw [Tracker.schedule_updateFeed] at hschedule
    rw [Tracker.isFinished_updateFeed]
    exact h.others _ (List.getElem_mem hindex) hschedule
  schedules := by rw [schedules_withFeeds, schedules_withFeeds, h.schedules]
  before_le := by rw [schedules_withFeeds]; exact h.before_le

/-- A tracker of another schedule moves on. -/
lemma setStage_other {index : Nat} {t : Tracker} (ht : r.trackers[index]? = some t)
    (hschedule : t.schedule ≠ name) (stage : TrackerStage) :
    Mirrors name before (r.setStage index stage) r' where
  accounted := isKept_isAccounted.setStage h.accounted index stage
  accounted' := h.accounted'
  root := (congrArg (·.isCancelled Tokens.root) (tokens_setStage r index stage)).trans h.root
  wanted := (wanted_setStage r index stage).trans h.wanted
  stages := by
    rw [own_setStage_of_ne ht hschedule]
    exact h.stages
  others := h.others
  schedules := by rw [schedules_setStage, h.schedules]
  before_le := by rw [schedules_setStage]; exact h.before_le

/-- A tracker of the schedule passes over something. -/
lemma setStage_self {index : Nat} {t t' : Tracker} {stage : TrackerStage}
    (ht : r.trackers[index]? = some t) (hschedule : t.schedule = name)
    (ht' : (r'.own name)[r.rank name index]? = some t') (hnarrows : stage.Narrows name t'.stage) :
    Mirrors name before (r.setStage index stage) r' where
  accounted := isKept_isAccounted.setStage h.accounted index stage
  accounted' := h.accounted'
  root := (congrArg (·.isCancelled Tokens.root) (tokens_setStage r index stage)).trans h.root
  wanted := (wanted_setStage r index stage).trans h.wanted
  stages := by
    rw [own_setStage ht hschedule, ← List.modify_id (r.rank name index) (r'.own name)]
    refine forall₂_modify h.stages fun u u' _ hu' _ => ?_
    obtain rfl := Option.some.inj (ht'.symm.trans hu')
    exact hnarrows
  others := h.others
  schedules := by rw [schedules_setStage, h.schedules]
  before_le := by rw [schedules_setStage]; exact h.before_le

/-- A tracker of the schedule moves on in both. -/
lemma setStage {index index' : Nat} {t t' : Tracker} {stage stage' : TrackerStage}
    (ht : r.trackers[index]? = some t) (ht' : r'.trackers[index']? = some t')
    (hschedule : t.schedule = name) (hschedule' : t'.schedule = name)
    (hrank : r'.rank name index' = r.rank name index) (hnarrows : stage.Narrows name stage') :
    Mirrors name before (r.setStage index stage) (r'.setStage index' stage') where
  accounted := isKept_isAccounted.setStage h.accounted index stage
  accounted' := isKept_isAccounted.setStage h.accounted' index' stage'
  root := by rw [tokens_setStage, tokens_setStage, h.root]
  wanted := by rw [wanted_setStage, wanted_setStage, h.wanted]
  stages := by
    rw [own_setStage ht hschedule, own_setStage ht' hschedule', hrank]
    exact forall₂_modify h.stages fun _ _ _ _ _ => hnarrows
  others := by
    intro u' hu' hother
    rw [trackers_setStage] at hu'
    obtain ⟨other, hget⟩ := List.mem_iff_getElem?.mp hu'
    by_cases hindex : index' = other
    · subst hindex
      rw [List.getElem?_modify_eq, ht'] at hget
      rw [← Option.some.inj hget] at hother
      exact absurd hschedule' hother
    · rw [List.getElem?_modify_ne _ _ hindex] at hget
      exact h.others u' (List.mem_of_getElem? hget) hother
  schedules := by rw [schedules_setStage, schedules_setStage, h.schedules]
  before_le := by rw [schedules_setStage]; exact h.before_le

end Mirrors

end Roster

end BackupMonitor
