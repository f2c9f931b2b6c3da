import BackupMonitor.Agent.CommandLine
import Mathlib.Tactic.Lemma

/-!
# Arguments that give the password

`withoutPassword` takes the password of the Icinga API out of a command line. What is read of the
rest does not depend on it: `scan_withoutPassword` says that a command line that can be read can
also be read without the password, with the same values for every other option.

The reader closes an option only when the next argument turns out to be an option, so a command
line without the password may be one option behind. `Hides` compares the two readers.
-/

namespace BackupMonitor

namespace CommandLine

/-- Whether an argument gives the password by itself. -/
def attachesPassword (arg : String) : Bool :=
  "--icinga-pass=".toList.isPrefixOf arg.toList

/-- The arguments without the password, which is attached to its option or follows it. -/
def withoutPassword : List String → List String
  | [] => []
  | "--icinga-pass" :: _ :: rest => withoutPassword rest
  | arg :: rest =>
    if attachesPassword arg then withoutPassword rest else arg :: withoutPassword rest

/-! ## Which arguments these are -/

lemma classify_eq_option {arg : String} {option : CliOption} {value : Option String}
    (h : classify arg = .option option value) :
    ∃ rest, arg.toList = '-' :: '-' :: rest ∧ classifyLong rest = .option option value := by
  unfold classify at h
  split at h
  next => cases h
  next rest _ harg => exact ⟨rest, harg, h⟩
  next => cases h
  next => cases h
  next => cases h
  next => cases h

lemma word_of_ofWord? {word : String} {option : CliOption}
    (h : CliOption.ofWord? word = some option) : word = option.word := by
  have hword := List.find?_some h
  exact (of_decide_eq_true hword).symm

/-- An option with two hyphens consists of its word and of what is attached to that. -/
lemma classifyLong_eq_option {cs : List Char} {option : CliOption} {value : Option String}
    (h : classifyLong cs = .option option value) :
    cs = option.word.toList ++ (value.map fun text => '=' :: text.toList).getD [] := by
  have hsplit : cs.takeWhile (· != '=') ++ cs.dropWhile (· != '=') = cs :=
    List.takeWhile_append_dropWhile
  simp only [classifyLong] at h
  -- the word names the option, and what is attached to it is the rest
  split at h
  next => split at h <;> cases h
  next other hother hword =>
    obtain ⟨rfl, rfl⟩ := Argument.option.inj h
    refine hsplit.symm.trans ?_
    rw [← word_of_ofWord? hword, String.toList_ofList]
    congr 1
    cases hrest : cs.dropWhile (· != '=') with
    | nil => simp
    | cons c rest =>
      have hc : c = '=' := by
        have hhead := List.head?_dropWhile_not (· != '=') cs
        simpa [hrest] using hhead
      simp [hc]
  next =>
    split at h
    · split at h <;> cases h
    · split at h
      · split at h <;> cases h
      · cases h

lemma classify_password : classify "--icinga-pass" = .option .icingaPass none := by decide

lemma eq_of_classify_eq_password {arg : String}
    (h : classify arg = .option .icingaPass none) : arg = "--icinga-pass" := by
  obtain ⟨rest, harg, hrest⟩ := classify_eq_option h
  rw [classifyLong_eq_option hrest] at harg
  exact String.toList_inj.mp harg

/-- The arguments that give the password by themselves are those with a value attached to its
option. -/
lemma attachesPassword_iff {arg : String} :
    attachesPassword arg = true ↔ ∃ value, classify arg = .option .icingaPass (some value) := by
  constructor
  · intro h
    obtain ⟨rest, hrest⟩ := List.isPrefixOf_iff_prefix.mp h
    refine ⟨String.ofList rest, ?_⟩
    unfold classify
    rw [← hrest]
    rfl
  · rintro ⟨value, h⟩
    obtain ⟨rest, harg, hrest⟩ := classify_eq_option h
    rw [classifyLong_eq_option hrest] at harg
    refine List.isPrefixOf_iff_prefix.mpr ⟨value.toList, ?_⟩
    rw [harg]
    rfl

/-! ## One argument -/

/-- What an argument that is read means to the values given so far and to what is left open. -/
inductive Takes (given : Given) : Pending → String → Given → Pending → Prop where
  /-- The option that waits for its value gets it. -/
  | value {option : CliOption} {arg : String} (harg : classify arg = .plain) :
      Takes given (.awaiting option) arg given (.complete option arg)
  /-- The debug option is given. -/
  | debug {pending : Pending} {arg : String} {closed given' : Given} (harg : classify arg = .debug)
      (hclosed : resolve given pending = .ok closed)
      (hgiven : give closed .debug "true" = .ok given') : Takes given pending arg given' .nothing
  /-- An option waits for its value. -/
  | option {pending : Pending} {arg : String} {option : CliOption} {closed : Given}
      (harg : classify arg = .option option none) (hclosed : resolve given pending = .ok closed) :
      Takes given pending arg closed (.awaiting option)
  /-- An option has its value attached. -/
  | attached {pending : Pending} {arg value : String} {option : CliOption} {closed given' : Given}
      (harg : classify arg = .option option (some value))
      (hclosed : resolve given pending = .ok closed)
      (hgiven : give closed option value = .ok given') : Takes given pending arg given' .nothing

variable {given given' final : Given} {pending pending' : Pending} {arg : String}
  {args rest : List String}

lemma scan_of_takes (h : Takes given pending arg given' pending') :
    scan given pending (arg :: rest) = scan given' pending' rest := by
  cases h with
  | value harg => simp [scan, harg]
  | debug harg hclosed hgiven => simp [scan, harg, hclosed, hgiven]
  | option harg hclosed => simp [scan, harg, hclosed]
  | attached harg hclosed hgiven => simp [scan, harg, hclosed, hgiven]

/-- An option that takes a value closes what was left open and waits for the value. -/
lemma pending_of_takes_option {option : CliOption} (h : Takes given pending arg given' pending')
    (harg : classify arg = .option option none) :
    resolve given pending = .ok given' ∧ pending' = .awaiting option := by
  cases h with
  | value hplain => cases harg.symm.trans hplain
  | debug hdebug => cases harg.symm.trans hdebug
  | option hoption hclosed =>
    cases harg.symm.trans hoption
    exact ⟨hclosed, rfl⟩
  | attached hoption => cases harg.symm.trans hoption

/-- An option that waits for its value takes the next argument. -/
lemma pending_of_takes_awaiting {option : CliOption}
    (h : Takes given (.awaiting option) arg given' pending') :
    given' = given ∧ pending' = .complete option arg := by
  cases h with
  | value => exact ⟨rfl, rfl⟩
  | debug harg hclosed => cases hclosed
  | option harg hclosed => cases hclosed
  | attached harg hclosed => cases hclosed

/-- A command line can be read on if its first argument is taken in, or if it closes the options
and nothing follows. -/
lemma scan_cons_cases (h : scan given pending (arg :: rest) = .ok final) :
    (classify arg = .escape ∧ rest = [] ∧ resolve given pending = .ok final) ∨
    ∃ given' pending', Takes given pending arg given' pending' ∧
      scan given' pending' rest = .ok final := by
  cases harg : classify arg with
  | unknown => simp [scan, harg] at h
  | overfull => simp [scan, harg] at h
  | escape =>
    cases rest with
    | nil => exact .inl ⟨rfl, rfl, by simpa [scan, harg] using h⟩
    | cons next rest => simp [scan, harg] at h
  | plain =>
    cases pending with
    | awaiting option => exact .inr ⟨_, _, .value harg, by simpa [scan, harg] using h⟩
    | nothing => simp [scan, harg] at h
    | complete option value => simp [scan, harg] at h
  | help => cases hclosed : resolve given pending <;> simp [scan, harg, hclosed] at h
  | version => cases hclosed : resolve given pending <;> simp [scan, harg, hclosed] at h
  | debug =>
    cases hclosed : resolve given pending with
    | error e => simp [scan, harg, hclosed] at h
    | ok closed =>
      cases hgiven : give closed .debug "true" with
      | error e => simp [scan, harg, hclosed, hgiven] at h
      | ok given' =>
        refine .inr ⟨_, _, .debug harg hclosed hgiven, ?_⟩
        simpa [scan, harg, hclosed, hgiven] using h
  | option option value =>
    cases hclosed : resolve given pending with
    | error e => cases value <;> simp [scan, harg, hclosed] at h
    | ok closed =>
      cases value with
      | none => exact .inr ⟨_, _, .option harg hclosed, by simpa [scan, harg, hclosed] using h⟩
      | some value =>
        cases hgiven : give closed option value with
        | error e => simp [scan, harg, hclosed, hgiven] at h
        | ok given' =>
          exact .inr ⟨_, _, .attached harg hclosed hgiven,
            by simpa [scan, harg, hclosed, hgiven] using h⟩

/-! ## Values that agree on every other option -/

/-- Whatever was given, it is the same for every option but the password. -/
def Given.AgreesButPassword (given given' : Given) : Prop :=
  ∀ option, option ≠ .icingaPass → given option = given' option

namespace Given.AgreesButPassword

variable {bare bare' : Given} {option : CliOption} {value : String}

lemma refl (given : Given) : given.AgreesButPassword given := fun _ _ => rfl

lemma symm (h : given.AgreesButPassword bare) : bare.AgreesButPassword given :=
  fun option hoption => (h option hoption).symm

lemma trans (h : given.AgreesButPassword bare) (h' : bare.AgreesButPassword bare') :
    given.AgreesButPassword bare' :=
  fun option hoption => (h option hoption).trans (h' option hoption)

/-- The password is given. -/
lemma of_give (h : give given .icingaPass value = .ok given') : given'.AgreesButPassword given := by
  intro option hoption
  simp only [give] at h
  split at h
  · split at h
    · obtain rfl := Except.ok.inj h
      exact if_neg hoption
    · cases h
  · simp at h

/-- Another option is given. -/
lemma give (h : given.AgreesButPassword bare) (hoption : option ≠ .icingaPass)
    (hgive : CommandLine.give given option value = .ok given') :
    ∃ bare', CommandLine.give bare option value = .ok bare' ∧ given'.AgreesButPassword bare' := by
  have hset (values : List String) :
      (given.set option values).AgreesButPassword (bare.set option values) := by
    intro other hother
    simp only [Given.set]
    split
    · rfl
    · exact h other hother
  simp only [CommandLine.give, ← h option hoption] at hgive ⊢
  split at hgive
  · split at hgive
    next husable =>
      obtain rfl := Except.ok.inj hgive
      exact ⟨_, if_pos husable, hset _⟩
    · cases hgive
  · split at hgive
    next hmodule =>
      obtain rfl := Except.ok.inj hgive
      exact ⟨_, if_pos hmodule, hset _⟩
    · cases hgive

end Given.AgreesButPassword

/-! ## A reader that does not see the password -/

/-- What is left open is not the password. -/
def Pending.IsOther : Pending → Prop
  | .nothing => True
  | .awaiting option => option ≠ .icingaPass
  | .complete option _ => option ≠ .icingaPass

/-- A reader of a command line beside one that does not see the password. -/
inductive Hides (given : Given) : Pending → Given → Pending → Prop where
  /-- The same is left open for both. -/
  | level {pending : Pending} {bare : Given} (hother : pending.IsOther)
      (h : given.AgreesButPassword bare) : Hides given pending bare pending
  /-- The password has been read, and the other reader is one option behind. -/
  | behind {pending waiting : Pending} {bare closed : Given}
      (hpassword : pending = .nothing ∨ ∃ value, pending = .complete .icingaPass value)
      (hclosed : resolve bare waiting = .ok closed) (h : given.AgreesButPassword closed) :
      Hides given pending bare waiting

namespace Hides

variable {bare : Given} {waiting : Pending}

/-- If the one reader can close what is left open, so can the other. -/
lemma resolve (h : Hides given pending bare waiting)
    (hclosed : CommandLine.resolve given pending = .ok final) :
    ∃ bare', CommandLine.resolve bare waiting = .ok bare' ∧ final.AgreesButPassword bare' := by
  cases h with
  | level hother h =>
    cases pending with
    | nothing =>
      obtain rfl := Except.ok.inj hclosed
      exact ⟨bare, rfl, h⟩
    | awaiting option => cases hclosed
    | complete option value => exact h.give hother hclosed
  | behind hpassword hbare h =>
    refine ⟨_, hbare, ?_⟩
    rcases hpassword with rfl | ⟨value, rfl⟩
    · obtain rfl := Except.ok.inj hclosed
      exact h
    · exact (Given.AgreesButPassword.of_give hclosed).trans h

/-- An argument other than the password is taken in by both. -/
lemma takes (h : Hides given pending bare waiting)
    (htakes : Takes given pending arg given' pending')
    (hother : ∀ value, classify arg ≠ .option .icingaPass value) :
    ∃ bare' waiting',
      Takes bare waiting arg bare' waiting' ∧ Hides given' pending' bare' waiting' := by
  cases htakes with
  | value harg =>
    cases h with
    | level hpending h => exact ⟨_, _, .value harg, .level hpending h⟩
    | behind hpassword => simp at hpassword
  | debug harg hclosed hgiven =>
    obtain ⟨closed, hbare, hagree⟩ := h.resolve hclosed
    obtain ⟨bare', hgiven', hagree'⟩ := hagree.give (by decide) hgiven
    exact ⟨_, _, .debug harg hbare hgiven', .level trivial hagree'⟩
  | option harg hclosed =>
    obtain ⟨closed, hbare, hagree⟩ := h.resolve hclosed
    exact ⟨_, _, .option harg hbare, .level (fun heq => hother _ (heq ▸ harg)) hagree⟩
  | attached harg hclosed hgiven =>
    obtain ⟨closed, hbare, hagree⟩ := h.resolve hclosed
    obtain ⟨bare', hgiven', hagree'⟩ := hagree.give (fun heq => hother _ (heq ▸ harg)) hgiven
    exact ⟨_, _, .attached harg hbare hgiven', .level trivial hagree'⟩

/-- A password that is attached to its option leaves the other reader where it is. -/
lemma attached {value : String} (h : Hides given pending bare waiting)
    (harg : classify arg = .option .icingaPass (some value))
    (htakes : Takes given pending arg given' pending') : Hides given' pending' bare waiting := by
  cases htakes with
  | value hplain => cases harg.symm.trans hplain
  | debug hdebug => cases harg.symm.trans hdebug
  | option hoption => cases harg.symm.trans hoption
  | attached hoption hclosed hgiven =>
    cases harg.symm.trans hoption
    obtain ⟨closed, hbare, hagree⟩ := h.resolve hclosed
    exact .behind (.inl rfl) hbare ((Given.AgreesButPassword.of_give hgiven).trans hagree)

/-- The password follows its option, and the other reader sees neither. -/
lemma follows {value : String} (h : Hides given pending bare waiting)
    (hscan : scan given pending ("--icinga-pass" :: value :: rest) = .ok final) :
    ∃ given', scan given' (.complete .icingaPass value) rest = .ok final ∧
      Hides given' (.complete .icingaPass value) bare waiting := by
  rcases scan_cons_cases hscan with ⟨hescape, -⟩ | ⟨given', pending', htakes, hvalue⟩
  · cases hescape
  · obtain ⟨hclosed, rfl⟩ := pending_of_takes_option htakes classify_password
    rcases scan_cons_cases hvalue with ⟨-, -, hopen⟩ | ⟨given'', pending'', hnext, hrest⟩
    · cases hopen
    · obtain ⟨rfl, rfl⟩ := pending_of_takes_awaiting hnext
      obtain ⟨closed, hbare, hagree⟩ := h.resolve hclosed
      exact ⟨_, hrest, .behind (.inr ⟨value, rfl⟩) hbare hagree⟩

end Hides

/-- Without its password a command line is read as with it, up to the password. -/
lemma scan_withoutPassword {bare : Given} {waiting : Pending} (h : Hides given pending bare waiting)
    (hscan : scan given pending args = .ok final) :
    ∃ bare', scan bare waiting (withoutPassword args) = .ok bare' ∧
      final.AgreesButPassword bare' := by
  fun_induction withoutPassword args generalizing given pending bare waiting with
  | case1 => exact h.resolve hscan
  | case2 value rest ih =>
    obtain ⟨given', hrest, hhides⟩ := h.follows hscan
    exact ih hhides hrest
  | case3 arg rest hlast hattached ih =>
    obtain ⟨value, harg⟩ := attachesPassword_iff.mp hattached
    rcases scan_cons_cases hscan with ⟨hescape, -⟩ | ⟨given', pending', htakes, hrest⟩
    · cases harg.symm.trans hescape
    · exact ih (h.attached harg htakes) hrest
  | case4 arg rest hlast hattached ih =>
    rcases scan_cons_cases hscan with ⟨hescape, rfl, hclosed⟩ | ⟨given', pending', htakes, hrest⟩
    · obtain ⟨bare', hbare, hagree⟩ := h.resolve hclosed
      exact ⟨bare', by simpa [scan, withoutPassword, hescape] using hbare, hagree⟩
    · have hother (value : Option String) : classify arg ≠ .option .icingaPass value := by
        intro harg
        cases value with
        | some value => exact hattached (attachesPassword_iff.mpr ⟨value, harg⟩)
        | none =>
          -- the option of the password comes last, so nothing gives its value
          cases rest with
          | cons value rest => exact hlast value rest (eq_of_classify_eq_password harg) rfl
          | nil => cases (pending_of_takes_option htakes harg).2 ▸ hrest
      obtain ⟨bare', waiting', hbare, hhides⟩ := h.takes htakes hother
      obtain ⟨final', hfinal, hagree⟩ := ih hhides hrest
      exact ⟨final', by rw [scan_of_takes hbare, hfinal], hagree⟩

/-! ## The environment -/

/-- Two environments that agree on every variable but that of the password. -/
def AgreeButPassword (env env' : String → Option String) : Prop :=
  ∀ name, name ≠ Icinga.passwordVariable → env name = env' name

lemma envName_ne_passwordVariable {option : CliOption} (h : option ≠ .icingaPass) :
    option.envName ≠ Icinga.passwordVariable := by
  cases option with
  | icingaPass => exact absurd rfl h
  | _ => decide

/-- A password can be given to whoever has none. -/
lemma give_password {given : Given} (h : given .icingaPass = none) (value : String) :
    give given .icingaPass value = .ok (given.set .icingaPass [value]) := by
  simp [give, h, isUsable, CliOption.isSwitch, valuesOf]

/-- What the environment adds to the values agrees up to the password. -/
lemma fillIn_agrees {env env' : String → Option String} (henv : AgreeButPassword env env')
    {options : List CliOption} {bare : Given} (h : given.AgreesButPassword bare)
    (hfill : fillIn env given options = .ok final) :
    ∃ final', fillIn env' bare options = .ok final' ∧ final.AgreesButPassword final' := by
  induction options generalizing given bare with
  | nil =>
    obtain rfl := Except.ok.inj hfill
    exact ⟨bare, rfl, h⟩
  | cons option options ih =>
    simp only [fillIn] at hfill
    by_cases hoption : option = .icingaPass
    · subst hoption
      -- neither side can be held up by the password
      have hgoOn {next : Given} (hnext : next.AgreesButPassword bare)
          (hfill : fillIn env next options = .ok final) :
          ∃ final', fillIn env' bare (.icingaPass :: options) = .ok final' ∧
            final.AgreesButPassword final' := by
        simp only [fillIn]
        split
        next value hnone hvalue =>
          rw [give_password hnone]
          exact ih (hnext.trans (Given.AgreesButPassword.of_give (give_password hnone value)).symm)
            hfill
        next => exact ih hnext hfill
      split at hfill
      · split at hfill
        next next hgive => exact hgoOn ((Given.AgreesButPassword.of_give hgive).trans h) hfill
        next => cases hfill
      next => exact hgoOn h hfill
    · simp only [fillIn, ← h option hoption, ← henv _ (envName_ne_passwordVariable hoption)]
      split at hfill
      · split at hfill
        next next hgive =>
          obtain ⟨bare', hbare, hagree⟩ := h.give hoption hgive
          simp only [hbare]
          exact ih hagree hfill
        next => cases hfill
      next => exact ih h hfill

end CommandLine

/-! ## Settings -/

/-- The same settings with another password. -/
def AgentSettings.withPassword (settings : AgentSettings) (password : Option String) :
    AgentSettings :=
  { settings with icinga := { settings.icinga with password } }

namespace CommandLine

variable {settings settings' : AgentSettings}

/-- Settings that come of values that agree up to the password do so themselves. -/
lemma settingsOf_agrees {given given' : Given} (h : given.AgreesButPassword given')
    (hsettings : settingsOf given = .ok settings) (hsettings' : settingsOf given' = .ok settings') :
    settings' = settings.withPassword settings'.icinga.password := by
  have htext (option : CliOption) (hoption : option ≠ .icingaPass) :
      textOf given' option = textOf given option := by
    rw [textOf, textOf, h option hoption]
  have htruth (option : CliOption) (hoption : option ≠ .icingaPass) (fallback : Bool) :
      truthOf given' option fallback = truthOf given option fallback := by
    rw [truthOf, truthOf, htext option hoption]
  simp only [settingsOf, htext .podName (by decide), htext .space (by decide)] at hsettings'
  simp only [settingsOf] at hsettings
  split at hsettings
  next podName space hpod hspace =>
    simp only [hpod, hspace] at hsettings'
    obtain rfl := Except.ok.inj hsettings
    obtain rfl := Except.ok.inj hsettings'
    simp [AgentSettings.withPassword, htext, htruth, h .outputModule]
  next => cases hsettings

/-- The settings of two configurations that differ in the password only do so themselves. -/
theorem parse_agrees {args args' : List String} {env env' : String → Option String}
    (hargs : withoutPassword args = withoutPassword args') (henv : AgreeButPassword env env')
    (hsettings : parse args env = .ok settings) (hsettings' : parse args' env' = .ok settings') :
    settings' = settings.withPassword settings'.icinga.password := by
  have hstart : Hides .empty .nothing .empty .nothing := .level trivial (.refl _)
  simp only [parse] at hsettings hsettings'
  split at hsettings
  · cases hsettings
  next given hscan =>
    split at hsettings'
    · cases hsettings'
    next given' hscan' =>
      -- both command lines are read like the one without a password
      obtain ⟨bare, hbare, hagree⟩ := scan_withoutPassword hstart hscan
      obtain ⟨bare', hbare', hagree'⟩ := scan_withoutPassword hstart hscan'
      obtain rfl := Except.ok.inj ((hargs ▸ hbare).symm.trans hbare')
      have hgiven : given.AgreesButPassword given' := hagree.trans hagree'.symm
      split at hsettings
      · cases hsettings
      next final hfill =>
        obtain ⟨final', hfill', hfinal⟩ := fillIn_agrees henv hgiven hfill
        rw [hfill'] at hsettings'
        exact settingsOf_agrees hfinal hsettings hsettings'

end CommandLine

end BackupMonitor
