import BackupMonitor.Proofs.Payload
import BackupMonitor.Proofs.Trimming
import BackupMonitor.Sink.Selection

/-!
# Which configurations select sinks

A list of names is accepted if every name that is not blank is that of a sink, and the settings of
Icinga are complete if it is among them. If it is refused, the first name that offends decides why.
Names that are blank and blanks around names and settings make no difference.
-/

namespace BackupMonitor

/-! ## The first fault in a list -/

/-- Some element of the list is bad, and all that stand before it are good. -/
def FirstFault {α : Type} (good bad : α → Prop) (xs : List α) : Prop :=
  ∃ before x after, xs = before ++ x :: after ∧ (∀ y ∈ before, good y) ∧ bad x

section

variable {α : Type} {good bad : α → Prop} {x : α} {xs : List α}

@[simp] lemma not_firstFault_nil : ¬FirstFault good bad [] := by
  simp [FirstFault]

lemma firstFault_cons_iff :
    FirstFault good bad (x :: xs) ↔ bad x ∨ good x ∧ FirstFault good bad xs := by
  constructor
  · rintro ⟨before, y, after, hxs, hbefore, hy⟩
    -- the first element is the bad one exactly if none stands before it
    cases before with
    | nil =>
      obtain ⟨rfl, rfl⟩ := List.cons.inj hxs
      exact .inl hy
    | cons z before =>
      obtain ⟨rfl, rfl⟩ := List.cons.inj hxs
      obtain ⟨hz, hbefore⟩ := List.forall_mem_cons.mp hbefore
      exact .inr ⟨hz, before, y, after, rfl, hbefore, hy⟩
  · rintro (hx | ⟨hx, before, y, after, rfl, hbefore, hy⟩)
    · exact ⟨[], x, xs, rfl, by simp, hx⟩
    · exact ⟨x :: before, y, after, rfl, List.forall_mem_cons.mpr ⟨hx, hbefore⟩, hy⟩

/-- There is a first fault of one kind or another exactly if some element is not good. -/
lemma exists_firstFault_iff {β : Type} {bad : β → α → Prop}
    (hbad : ∀ y, (∃ b, bad b y) ↔ ¬good y) :
    (∃ b, FirstFault good (bad b) xs) ↔ ∃ y ∈ xs, ¬good y := by
  induction xs with
  | nil => simp
  | cons x xs ih =>
    simp only [firstFault_cons_iff, exists_or, exists_and_left, hbad, ih, List.exists_mem_cons_iff]
    by_cases hx : good x <;> simp [hx]

end

lemma Except.bind_eq_error_iff {ε α β : Type} {x : Except ε α} {f : α → Except ε β} {e : ε} :
    x >>= f = .error e ↔ x = .error e ∨ ∃ a, x = .ok a ∧ f a = .error e := by
  cases x <;> simp [bind, Except.bind]

lemma Except.exists_eq_ok_iff {ε α : Type} {x : Except ε α} :
    (∃ a, x = .ok a) ↔ ¬∃ e, x = .error e := by
  cases x <;> simp

/-! ## Settings that are missing -/

/-- A setting is given if it has a character that is not blank. -/
def IsGiven (value : Option String) : Prop :=
  ∃ text ∈ value, ∃ c ∈ text.toList, Text.isBlank c = false

instance (value : Option String) : Decidable (IsGiven value) :=
  decidable_of_iff (value.any (fun text => text.toList.any (!Text.isBlank ·)) = true)
    (by cases value <;> simp [IsGiven])

namespace IcingaSettings

/-- The settings that are required, under their variables and in the order in which a missing one is
noticed. -/
def requiredTexts (s : IcingaSettings) : List (String × Option String) :=
  [(Icinga.apiUrlVariable, s.apiUrl), (Icinga.usernameVariable, s.username),
    (Icinga.passwordVariable, s.password), (Icinga.serviceVariable, s.service),
    (Icinga.hostVariable, s.host)]

/-- Every setting that is required is given. -/
def IsComplete (s : IcingaSettings) : Prop :=
  ∀ required ∈ s.requiredTexts, IsGiven required.2

instance (s : IcingaSettings) : Decidable s.IsComplete :=
  decidable_of_iff (s.requiredTexts.all (fun required => decide (IsGiven required.2)) = true)
    (by simp [IsComplete])

/-- The first of the required settings that is missing is the one of that variable. -/
def FirstMissing (s : IcingaSettings) (name : String) : Prop :=
  FirstFault (fun required => IsGiven required.2)
    (fun required => required.1 = name ∧ ¬IsGiven required.2) s.requiredTexts

end IcingaSettings

namespace Icinga

variable {settings : IcingaSettings} {value : Option String} {name : String} {e : SinkError}

lemma isGiven_iff : IsGiven value ↔ ∃ text ∈ value, Text.trim text ≠ "" := by
  have hblank (text : String) :
      (∃ c ∈ text.toList, Text.isBlank c = false) ↔ Text.trim text ≠ "" := by
    rw [Ne, Text.trim_eq_empty_iff, Text.IsBlankText, Text.AreBlanks]
    simp
  simp only [IsGiven, hblank]

lemma exists_required_iff : (∃ kept, required value name = .ok kept) ↔ IsGiven value := by
  rw [isGiven_iff]
  constructor
  · rintro ⟨_, h⟩
    obtain ⟨raw, hraw, rfl, hne⟩ := required_eq_ok_iff.mp h
    exact ⟨raw, hraw, hne⟩
  · rintro ⟨raw, hraw, hne⟩
    exact ⟨_, required_eq_ok_iff.mpr ⟨raw, hraw, rfl, hne⟩⟩

lemma required_eq_error_iff :
    required value name = .error e ↔ ¬IsGiven value ∧ e = .missingSetting name := by
  have hgiven := @exists_required_iff value name
  have hmissing : ∀ other, required value name = .error other → other = .missingSetting name := by
    intro other h
    unfold required at h
    split at h
    · exact (Except.error.inj h).symm
    · split at h
      · exact (Except.error.inj h).symm
      · cases h
  rw [← hgiven]
  cases hrequired : required value name with
  | ok kept => simp
  | error other => simp [hmissing other hrequired, @eq_comm _ e]

/-- Settings are refused because of the first one that is missing. -/
lemma ofSettings?_eq_error_iff :
    ofSettings? settings = .error e ↔
      ∃ name, settings.FirstMissing name ∧ e = .missingSetting name := by
  -- what one setting adds to either side
  have hstep (first : String) (given : Prop) (later : String → Prop) :
      (∃ name, (first = name ∧ ¬given ∨ given ∧ later name) ∧ e = .missingSetting name) ↔
        ¬given ∧ e = .missingSetting first ∨
          given ∧ ∃ name, later name ∧ e = .missingSetting name := by
    simp only [or_and_right, exists_or, and_assoc, exists_eq_left', exists_and_left]
  simp only [ofSettings?, Except.bind_eq_error_iff, exists_and_right, exists_required_iff,
    required_eq_error_iff, reduceCtorEq, and_false, IcingaSettings.FirstMissing,
    IcingaSettings.requiredTexts, firstFault_cons_iff, hstep, not_firstFault_nil, or_false,
    and_assoc, exists_eq_left', exists_false]

/-- A setting is missing exactly if the settings are not complete. -/
lemma exists_firstMissing_iff :
    (∃ name, settings.FirstMissing name) ↔ ¬settings.IsComplete := by
  have hmissing : (∃ name, settings.FirstMissing name) ↔
      ∃ required ∈ settings.requiredTexts, ¬IsGiven required.2 :=
    exists_firstFault_iff fun required => by simp
  rw [hmissing, IcingaSettings.IsComplete]
  simp

/-- Blanks around a setting do not count. -/
lemma required_pads {padded : Option String} (h : Option.Rel Text.Pads value padded)
    (name : String) : required padded name = required value name := by
  cases h with
  | none => rfl
  | some h => simp [required, h.trim_eq]

end Icinga

namespace IcingaSettings

/-- Settings with blanks put in front of the texts and after them. -/
structure Pads (s padded : IcingaSettings) : Prop where
  apiUrl : Option.Rel Text.Pads s.apiUrl padded.apiUrl
  username : Option.Rel Text.Pads s.username padded.username
  password : Option.Rel Text.Pads s.password padded.password
  host : Option.Rel Text.Pads s.host padded.host
  service : Option.Rel Text.Pads s.service padded.service
  insecure : padded.insecure = s.insecure

lemma Pads.ofSettings?_eq {s padded : IcingaSettings} (h : s.Pads padded) :
    Icinga.ofSettings? padded = Icinga.ofSettings? s := by
  simp only [Icinga.ofSettings?, Icinga.required_pads h.apiUrl, Icinga.required_pads h.username,
    Icinga.required_pads h.password, Icinga.required_pads h.service, Icinga.required_pads h.host]

end IcingaSettings

/-! ## Names -/

namespace SinkChoice

variable {settings : IcingaSettings} {name : String} {names : List String} {e : SinkError}

/-- Why a name cannot be selected. -/
inductive Offends (settings : IcingaSettings) (name : String) : SinkError → Prop where
  /-- It is not blank, and the name of no sink. -/
  | unknown (hblank : Text.trim name ≠ "") (hicinga : Text.trim name ≠ Icinga.sinkName)
      (hvoid : Text.trim name ≠ voidName) : Offends settings name (.unknownModule (Text.trim name))
  /-- It is Icinga's, and a setting is missing. -/
  | missing {first : String} (hicinga : Text.trim name = Icinga.sinkName)
      (hfirst : settings.FirstMissing first) : Offends settings name (.missingSetting first)

/-- A list of names, with blank names put in and with blanks around its names. -/
inductive Respells : List String → List String → Prop where
  /-- There are no more names. -/
  | nil : Respells [] []
  /-- A blank name is put in. -/
  | blank {name : String} {names names' : List String} (hname : Text.IsBlankText name)
      (h : Respells names names') : Respells names (name :: names')
  /-- A name has blanks around it. -/
  | name {name name' : String} {names names' : List String} (hname : Text.Pads name name')
      (h : Respells names names') : Respells (name :: names) (name' :: names')

/-- The names are looked at one after the other. -/
lemma select_cons (settings : IcingaSettings) (name : String) (names : List String)
    (httpFailure : Option String) : select (name :: names) settings httpFailure =
      if Text.trim name = "" then select names settings httpFailure
      else ofName? settings (Text.trim name) httpFailure >>= fun choice =>
        select names settings httpFailure >>= fun choices => .ok (choice :: choices) := by
  by_cases hblank : Text.trim name = ""
  · simp [select, hblank]
  · simp only [select, List.map_cons, hblank, ne_eq, not_false_eq_true, decide_true,
      List.filter_cons_of_pos, List.mapM_cons, if_false]
    rfl

/-- A name that is not blank cannot be selected exactly if it offends. -/
lemma ofName?_eq_error_iff (hblank : Text.trim name ≠ "") :
    ofName? settings (Text.trim name) = .error e ↔ Offends settings name e := by
  constructor
  · intro h
    unfold ofName? at h
    split at h
    next hicinga =>
      cases hsettings : Icinga.ofSettings? settings with
      | ok i => simp [hsettings, Except.map] at h
      | error other =>
        obtain ⟨first, hfirst, rfl⟩ := Icinga.ofSettings?_eq_error_iff.mp hsettings
        obtain rfl : SinkError.missingSetting first = e := by simpa [hsettings, Except.map] using h
        exact .missing hicinga hfirst
    next hicinga =>
      split at h
      · cases h
      next hvoid =>
        obtain rfl := Except.error.inj h
        exact .unknown hblank hicinga hvoid
  · rintro (⟨-, hicinga, hvoid⟩ | ⟨hicinga, hfirst⟩)
    · rw [ofName?, if_neg hicinga, if_neg hvoid]
    · rw [ofName?, if_pos hicinga, Icinga.ofSettings?_eq_error_iff.mpr ⟨_, hfirst, rfl⟩]
      rfl

lemma not_offends_of_blank (hblank : Text.trim name = "") : ¬Offends settings name e := by
  rintro (⟨hne, -, -⟩ | ⟨hicinga, -⟩)
  · exact hne hblank
  · rw [hblank] at hicinga
    exact absurd hicinga (by decide)

/-- A sink that is selected goes by the name. -/
lemma name_of_ofName? {choice : SinkChoice} (h : ofName? settings name = .ok choice) :
    choice.name = name := by
  unfold ofName? at h
  split at h
  next hicinga =>
    cases hsettings : Icinga.ofSettings? settings with
    | ok i =>
      obtain rfl : icinga i = choice := by simpa [hsettings, Except.map] using h
      exact hicinga.symm
    | error other => simp [hsettings, Except.map] at h
  next =>
    split at h
    next hvoid =>
      obtain rfl := Except.ok.inj h
      exact hvoid.symm
    · cases h

/-- A list of names is refused because of the first one that offends. -/
lemma select_eq_error_iff :
    select names settings = .error e ↔
      FirstFault (fun name => ∀ e, ¬Offends settings name e) (Offends settings · e) names := by
  induction names with
  | nil => simp [select, pure, Except.pure]
  | cons name names ih =>
    rw [select_cons, firstFault_cons_iff]
    split
    next hblank => simp [ih, not_offends_of_blank hblank]
    next hblank =>
      simp only [Except.bind_eq_error_iff, reduceCtorEq, and_false, exists_false, or_false, ih,
        exists_and_right, Except.exists_eq_ok_iff, ofName?_eq_error_iff hblank, not_exists]

/-- The sinks that are selected go by the names that are not blank. -/
lemma names_of_select {choices : List SinkChoice} (h : select names settings = .ok choices) :
    choices.map SinkChoice.name = (names.map Text.trim).filter (· ≠ "") := by
  induction names generalizing choices with
  | nil =>
    obtain rfl := Except.ok.inj h
    rfl
  | cons name names ih =>
    rw [select_cons] at h
    split at h
    next hblank => simpa [hblank] using ih h
    next hblank =>
      obtain ⟨choice, hchoice, h⟩ := Except.bind_eq_ok_iff.mp h
      obtain ⟨rest, hrest, h⟩ := Except.bind_eq_ok_iff.mp h
      obtain rfl := Except.ok.inj h
      simpa [hblank, name_of_ofName? hchoice] using ih hrest

/-- Blank names and blanks around names and settings make no difference. -/
lemma select_respells {names' : List String} (h : Respells names names')
    {padded : IcingaSettings} (hsettings : settings.Pads padded) :
    select names' padded = select names settings := by
  have hname (name : String) : ofName? padded name = ofName? settings name := by
    rw [ofName?, ofName?, hsettings.ofSettings?_eq]
  induction h with
  | nil => rfl
  | blank hblank _ ih => rw [select_cons, if_pos (Text.trim_eq_empty_iff.mpr hblank), ih]
  | name hpads _ ih => rw [select_cons, select_cons, hpads.trim_eq, hname, ih]

lemma exists_offends_iff :
    (∃ e, Offends settings name e) ↔
      ¬Text.IsBlankText name ∧
          ¬(Text.trim name = Icinga.sinkName ∨ Text.trim name = voidName) ∨
        Text.trim name = Icinga.sinkName ∧ ¬settings.IsComplete := by
  rw [← Icinga.exists_firstMissing_iff, ← Text.trim_eq_empty_iff, not_or]
  constructor
  · rintro ⟨_, ⟨hblank, hicinga, hvoid⟩ | ⟨hicinga, hfirst⟩⟩
    · exact .inl ⟨hblank, hicinga, hvoid⟩
    · exact .inr ⟨hicinga, _, hfirst⟩
  · rintro (⟨hblank, hicinga, hvoid⟩ | ⟨hicinga, first, hfirst⟩)
    · exact ⟨_, .unknown hblank hicinga hvoid⟩
    · exact ⟨_, .missing hicinga hfirst⟩

/-- No name offends exactly if those that are not blank are the names of sinks, and the settings of
Icinga are complete if it is among them. -/
lemma exists_select_iff :
    (∃ choices, select names settings = .ok choices) ↔
      (∀ name ∈ names, ¬Text.IsBlankText name →
        Text.trim name = Icinga.sinkName ∨ Text.trim name = voidName) ∧
      ((∃ name ∈ names, Text.trim name = Icinga.sinkName) → settings.IsComplete) := by
  -- some name offends exactly if a first one does
  have hfault : (∃ e, select names settings = .error e) ↔
      ∃ name ∈ names, ∃ e, Offends settings name e := by
    simp only [select_eq_error_iff]
    rw [exists_firstFault_iff fun name => by simp]
    simp
  rw [Except.exists_eq_ok_iff, hfault]
  simp only [exists_offends_iff]
  constructor
  · intro h
    refine ⟨fun name hname hblank => ?_, fun ⟨name, hname, hicinga⟩ => ?_⟩
    · exact Classical.byContradiction fun hother => h ⟨name, hname, .inl ⟨hblank, hother⟩⟩
    · exact Classical.byContradiction fun hmissing => h ⟨name, hname, .inr ⟨hicinga, hmissing⟩⟩
  · rintro ⟨hknown, hcomplete⟩ ⟨name, hname, ⟨hblank, hother⟩ | ⟨hicinga, hmissing⟩⟩
    · exact hother (hknown name hname hblank)
    · exact hmissing (hcomplete ⟨name, hname, hicinga⟩)

/-! ## Where no HTTP client can be made -/

lemma ofSettings?_of_httpFailure (settings : IcingaSettings) (cause : String) (i : Icinga) :
    Icinga.ofSettings? settings (some cause) ≠ .ok i := by
  simp [Icinga.ofSettings?, Except.bind_eq_ok_iff]

/-- Icinga is the one sink that needs a client. -/
lemma ofName?_of_httpFailure (cause : String) {choice : SinkChoice} :
    ofName? settings name (some cause) = .ok choice ↔
      name ≠ Icinga.sinkName ∧ ofName? settings name = .ok choice := by
  unfold ofName?
  by_cases hicinga : name = Icinga.sinkName
  · cases hsettings : Icinga.ofSettings? settings (some cause) with
    | ok i => exact absurd hsettings (ofSettings?_of_httpFailure settings cause i)
    | error e => simp [hicinga, Except.map]
  · simp [hicinga]

/-- Where no HTTP client can be made, the same sinks are selected as otherwise, unless Icinga is
among them; then none are. -/
theorem select_of_httpFailure (cause : String) {choices : List SinkChoice} :
    select names settings (some cause) = .ok choices ↔
      (∀ name ∈ names, Text.trim name ≠ Icinga.sinkName) ∧ select names settings = .ok choices := by
  induction names generalizing choices with
  | nil => simp [select]
  | cons name names ih =>
    rw [select_cons, select_cons, List.forall_mem_cons]
    -- a blank name is passed over, and is not that of Icinga
    by_cases hblank : Text.trim name = ""
    · have hother : Text.trim name ≠ Icinga.sinkName := by
        rw [hblank]
        decide
      simp only [if_pos hblank, ih, hother, ne_eq, not_false_eq_true, true_and]
    · simp only [if_neg hblank, Except.bind_eq_ok_iff, ofName?_of_httpFailure, ih]
      constructor
      · rintro ⟨choice, ⟨hname, hchoice⟩, others, ⟨hnames, hothers⟩, h⟩
        exact ⟨⟨hname, hnames⟩, choice, hchoice, others, hothers, h⟩
      · rintro ⟨⟨hname, hnames⟩, choice, hchoice, others, hothers, h⟩
        exact ⟨choice, ⟨hname, hchoice⟩, others, ⟨hnames, hothers⟩, h⟩

/-! ## The main result -/

/-- Sinks are selected exactly if every name that is not blank is `icinga` or `void`, without the
blanks around it, and all the settings that Icinga requires are given if it is among them. The sinks
then go by the names that are not blank, in their order and as often as they are given. Otherwise
the first name that offends decides the error: the name is not known, or the first of the settings
is missing. Blank names and blanks around names and settings change neither the sinks nor the error,
nor where Icinga is reported to and what. -/
theorem select_accepts_valid (names : List String) (settings : IcingaSettings) :
    ((∃ choices, select names settings = .ok choices) ↔
      (∀ name ∈ names, ¬Text.IsBlankText name →
        Text.trim name = "icinga" ∨ Text.trim name = "void") ∧
      ((∃ name ∈ names, Text.trim name = "icinga") → settings.IsComplete)) ∧
    (∀ choices, select names settings = .ok choices →
      choices.map SinkChoice.name = (names.map Text.trim).filter (· ≠ "")) ∧
    (∀ e, select names settings = .error e ↔
      FirstFault (fun name => ∀ e, ¬Offends settings name e) (Offends settings · e) names) ∧
    ∀ names' padded, Respells names names' → settings.Pads padded →
      select names' padded = select names settings ∧
      ∀ i, Icinga.ofSettings? settings = .ok i → ∃ j, Icinga.ofSettings? padded = .ok j ∧
        j.endpoint = i.endpoint ∧
        ∀ state output metrics,
          j.checkResult state output metrics = i.checkResult state output metrics := by
  refine ⟨exists_select_iff, fun _ => names_of_select, fun _ => select_eq_error_iff, ?_⟩
  intro names' padded hnames hpadded
  refine ⟨select_respells hnames hpadded, fun i hi => ⟨i, ?_, rfl, fun _ _ _ => rfl⟩⟩
  rw [hpadded.ofSettings?_eq, hi]

end SinkChoice

namespace Sample

/-- Complete settings. -/
def complete : IcingaSettings where
  apiUrl := some "https://icinga:5665"
  username := some "icinga"
  password := some "s3cret"
  host := some "db-host"
  service := some "pg-backup"

/-- The same settings with blanks around the address and the host. -/
def completePadded : IcingaSettings :=
  { complete with apiUrl := some " https://icinga:5665\n", host := some "\tdb-host\u3000" }

end Sample

/-- Two blank names, and blanks around a name and two settings, make no difference. -/
theorem SinkChoice.select_accepts_valid_padded :
    ∃ choices, select ["void", "icinga", "void"] Sample.complete = .ok choices ∧
      select ["", "void", "\u00a0icinga ", " ", "void"] Sample.completePadded = .ok choices ∧
      choices.map SinkChoice.name = ["void", "icinga", "void"] ∧
      select ["void", " mail ", "icinga"] {} = .error (.unknownModule "mail") := by
  have hsame (text : String) : Text.Pads text text := ⟨"", "", by decide, by decide, by simp⟩
  have hnames : Respells ["void", "icinga", "void"] ["", "void", "\u00a0icinga ", " ", "void"] :=
    .blank (by decide) (.name (hsame _) (.name ⟨"\u00a0", " ", by decide, by decide, rfl⟩
      (.blank (by decide) (.name (hsame _) .nil))))
  have hsettings : Sample.complete.Pads Sample.completePadded :=
    { apiUrl := .some ⟨" ", "\n", by decide, by decide, rfl⟩
      username := .some (hsame _)
      password := .some (hsame _)
      host := .some ⟨"\t", "\u3000", by decide, by decide, rfl⟩
      service := .some (hsame _)
      insecure := rfl }
  obtain ⟨haccepted, hchosen, -, hrespelled⟩ :=
    select_accepts_valid ["void", "icinga", "void"] Sample.complete
  obtain ⟨choices, hchoices⟩ := haccepted.mpr ⟨by decide +kernel, fun _ => by decide⟩
  obtain ⟨-, -, herror, -⟩ := select_accepts_valid ["void", " mail ", "icinga"] {}
  refine ⟨choices, hchoices, (hrespelled _ _ hnames hsettings).1.trans hchoices,
    (hchosen _ hchoices).trans (by decide +kernel), (herror _).mpr ?_⟩
  refine ⟨["void"], " mail ", ["icinga"], rfl, ?_, ?_⟩
  · rintro _ hvoid e hoffends
    obtain rfl := List.mem_singleton.mp hvoid
    rcases hoffends with ⟨-, -, hother⟩ | ⟨hicinga, -⟩
    · exact hother (by decide +kernel)
    · exact absurd hicinga (by decide +kernel)
  · have hmail : Text.trim " mail " = "mail" := by decide +kernel
    rw [← hmail]
    exact .unknown (by decide +kernel) (by decide +kernel) (by decide +kernel)

end BackupMonitor
