import BackupMonitor.Proofs.PasswordArguments
import BackupMonitor.Sink.Selection
import Mathlib.Data.List.Basic

/-!
# Arguments and variables as two routes

A value can be supplied for an option as an argument or by the variable of the option. Which of the
two it is, and the order of the arguments, makes no difference to what comes of a configuration, and
the variable of an option that is an argument is not even looked at.

The reader of the arguments and the one of the variables are both followed option by option:
`Given.upTo` is what has been given once some options have been taken in.
-/

namespace BackupMonitor.CommandLine

/-! ## Values and how they are supplied -/

/-- The text that is given for each option, none for an option that is not given. -/
abbrev Values := CliOption → Option String

/-- The argument that gives a value for an option. The debug option takes no value. -/
def argumentOf (flag : CliOption × String) : String :=
  if flag.1 = .debug then "--debug" else "--" ++ flag.1.word ++ "=" ++ flag.2

/-- The values are supplied: some as arguments, each option at most once, and all others by their
variables. The variables of the options that are arguments may hold anything. -/
structure Supplies (values : Values) (flags : List (CliOption × String))
    (env : String → Option String) : Prop where
  once : (flags.map Prod.fst).Nodup
  arguments : ∀ flag ∈ flags, values flag.1 = some flag.2
  debug : ∀ flag ∈ flags, flag.1 = .debug → flag.2 = "true"
  environment : ∀ option ∉ flags.map Prod.fst, env option.envName = values option

/-- Whether the value of an option is usable, if there is one. -/
def Values.isUsable (values : Values) (option : CliOption) : Bool :=
  (values option).all (CommandLine.isUsable option)

/-- What is given by values. -/
def Given.ofValues (values : Values) : Given :=
  fun option => (values option).map (valuesOf option)

/-- What comes of values: an error if one of them is not usable, and otherwise the settings, unless
a required one is missing. -/
def Values.outcome (values : Values) : Except CliStop AgentSettings :=
  if CliOption.all.all values.isUsable then settingsOf (.ofValues values)
  else .error .invalidValue

/-- What comes of a command line and an environment: the settings, the text that shows them, and the
sinks that they select or why they select none. -/
def configured (args : List String) (env : String → Option String) :
    Except CliStop (AgentSettings × String × Except SinkError (List SinkChoice)) :=
  (parse args env).map fun settings =>
    (settings, settings.details, SinkChoice.select settings.outputModules settings.icinga)

/-! ## What has been given so far -/

/-- What has been given once the options in the list have been taken in. -/
def Given.upTo (values : Values) (known : List CliOption) : Given :=
  fun option => if option ∈ known then Given.ofValues values option else none

variable {values : Values} {known : List CliOption} {option : CliOption} {value : String}

lemma Given.upTo_congr {known' : List CliOption}
    (h : ∀ option, values option ≠ none → (option ∈ known ↔ option ∈ known')) :
    Given.upTo values known = Given.upTo values known' := by
  funext option
  unfold upTo ofValues
  cases hvalue : values option with
  | none => simp
  | some value => simp [h option (by simp [hvalue])]

lemma Given.upTo_cons (h : values option = some value) :
    Given.upTo values (option :: known) =
      (Given.upTo values known).set option (valuesOf option value) := by
  funext other
  unfold upTo set
  by_cases hother : other = option
  · subst hother
    simp [ofValues, h]
  · simp [hother]

/-- An option that has not been taken in is taken in if its value is usable. -/
lemma give_upTo (hnew : option ∉ known) (h : values option = some value) :
    give (.upTo values known) option value =
      if values.isUsable option then .ok (.upTo values (option :: known))
      else .error .invalidValue := by
  have hnone : Given.upTo values known option = none := if_neg hnew
  have husable : values.isUsable option = isUsable option value := by
    rw [Values.isUsable, h, Option.all_some]
  simp only [give, hnone, husable, Given.upTo_cons h]

/-! ## Arguments -/

lemma ofWord?_word (option : CliOption) : CliOption.ofWord? option.word = some option := by
  cases option <;> decide

/-- An argument with a value attached to an option is read as that, and the debug option takes no
value. -/
lemma classify_attached (option : CliOption) (value : String) :
    classify ("--" ++ option.word ++ "=" ++ value) =
      if option = .debug then .overfull else .option option (some value) := by
  have hword : ∀ c ∈ option.word.toList, (c != '=') = true := by
    rw [← List.all_eq_true]
    cases option <;> decide
  have hchars : ("--" ++ option.word ++ "=" ++ value).toList =
      '-' :: '-' :: (option.word.toList ++ '=' :: value.toList) := by
    simp
  have htake : (option.word.toList ++ '=' :: value.toList).takeWhile (· != '=') =
      option.word.toList := by
    rw [List.takeWhile_append_of_pos hword]
    simp
  have hdrop : (option.word.toList ++ '=' :: value.toList).dropWhile (· != '=') =
      '=' :: value.toList := by
    rw [List.dropWhile_append_of_pos hword]
    simp
  have hlong : classifyLong (option.word.toList ++ '=' :: value.toList) =
      if option = .debug then .overfull else .option option (some value) := by
    simp only [classifyLong, htake, hdrop, String.ofList_toList, ofWord?_word]
    cases option <;> rfl
  obtain ⟨c, rest, hcons⟩ : ∃ c rest, option.word.toList ++ '=' :: value.toList = c :: rest :=
    List.exists_cons_of_ne_nil (by simp)
  rw [hcons] at hchars hlong
  rw [classify, hchars]
  exact hlong

/-- An argument that gives a value is taken in like the value itself. -/
lemma scan_argumentOf {given : Given} (hdebug : option = .debug → value = "true")
    (rest : List String) :
    scan given .nothing (argumentOf (option, value) :: rest) =
      give given option value >>= fun given => scan given .nothing rest := by
  by_cases hoption : option = .debug
  · subst hoption
    rw [hdebug rfl]
    have harg : classify (argumentOf (.debug, "true")) = .debug := by decide
    simp only [scan, harg, resolve]
    cases give given .debug "true" <;> rfl
  · have harg : classify (argumentOf (option, value)) = .option option (some value) := by
      rw [argumentOf, if_neg hoption, classify_attached, if_neg hoption]
    simp only [scan, harg, resolve]
    cases give given option value <;> rfl

/-- Arguments that give values are taken in one after the other, if all of them are usable. -/
lemma scan_arguments {flags : List (CliOption × String)} (honce : (flags.map Prod.fst).Nodup)
    (hnew : ∀ option ∈ flags.map Prod.fst, option ∉ known)
    (hvalues : ∀ flag ∈ flags, values flag.1 = some flag.2)
    (hdebug : ∀ flag ∈ flags, flag.1 = .debug → flag.2 = "true") :
    scan (.upTo values known) .nothing (flags.map argumentOf) =
      if (flags.map Prod.fst).all values.isUsable then
        .ok (.upTo values ((flags.map Prod.fst).reverse ++ known))
      else .error .invalidValue := by
  induction flags generalizing known with
  | nil => rfl
  | cons flag flags ih =>
    obtain ⟨option, value⟩ := flag
    simp only [List.map_cons, List.nodup_cons, List.forall_mem_cons] at honce hnew hvalues hdebug ⊢
    rw [scan_argumentOf hdebug.1, give_upTo hnew.1 hvalues.1, List.all_cons]
    cases husable : values.isUsable option with
    | false => rfl
    | true =>
      have hnext : ∀ other ∈ flags.map Prod.fst, other ∉ option :: known := by
        intro other hother hmem
        rcases List.mem_cons.mp hmem with rfl | hmem
        · exact honce.1 hother
        · exact hnew.2 other hother hmem
      have hrest := ih honce.2 hnext hvalues.2 hdebug.2
      rw [List.reverse_cons, List.append_assoc, Bool.true_and]
      exact hrest

/-! ## Variables -/

/-- Variables are taken in one after the other for the options that were not given. -/
lemma fillIn_upTo {env : String → Option String} {options : List CliOption}
    (hknown : ∀ option ∈ known, values option ≠ none ∧ values.isUsable option = true)
    (henv : ∀ option, option ∉ known → env option.envName = values option) :
    fillIn env (.upTo values known) options =
      if options.all values.isUsable then .ok (.upTo values (options.reverse ++ known))
      else .error .invalidValue := by
  induction options generalizing known with
  | nil => rfl
  | cons option options ih =>
    rw [List.all_cons, List.reverse_cons, List.append_assoc]
    -- an option that is passed over is usable and adds nothing
    have hpass (husable : values.isUsable option = true)
        (hsame : values option ≠ none → option ∈ known)
        (hskip : fillIn env (.upTo values known) (option :: options) =
          fillIn env (.upTo values known) options) :
        fillIn env (.upTo values known) (option :: options) =
          if (values.isUsable option && options.all values.isUsable) = true then
            .ok (.upTo values (options.reverse ++ ([option] ++ known)))
          else .error .invalidValue := by
      have hupTo : Given.upTo values (options.reverse ++ ([option] ++ known)) =
          Given.upTo values (options.reverse ++ known) := by
        refine Given.upTo_congr fun other hother => ?_
        have hmem : other = option → other ∈ known := by
          rintro rfl
          exact hsame hother
        simp only [List.mem_append, List.mem_singleton]
        exact ⟨fun h => h.imp_right fun h => h.elim hmem id, fun h => h.imp_right .inr⟩
      rw [hskip, ih hknown henv, husable, Bool.true_and, hupTo]
    -- the variable is passed over if the option was given, and if there is no such variable
    by_cases hmem : option ∈ known
    · obtain ⟨hgiven, husable⟩ := hknown option hmem
      refine hpass husable (fun _ => hmem) ?_
      obtain ⟨value, hvalue⟩ := Option.ne_none_iff_exists'.mp hgiven
      simp [fillIn, Given.upTo, hmem, Given.ofValues, hvalue]
    · cases hvalue : values option with
      | none =>
        refine hpass (by simp [Values.isUsable, hvalue]) (fun hne => absurd hvalue hne) ?_
        simp [fillIn, henv option hmem, hvalue]
      | some value =>
        have hnone : Given.upTo values known option = none := if_neg hmem
        simp only [fillIn, hnone, henv option hmem, hvalue, give_upTo hmem hvalue]
        cases husable : values.isUsable option with
        | false => rfl
        | true =>
          have hcons : ∀ other ∈ option :: known,
              values other ≠ none ∧ values.isUsable other = true := by
            intro other hother
            rcases List.mem_cons.mp hother with rfl | hother
            · exact ⟨by simp [hvalue], husable⟩
            · exact hknown other hother
          exact ih hcons fun other hother => henv other fun h => hother (List.mem_cons_of_mem _ h)

lemma mem_all (option : CliOption) : option ∈ CliOption.all := by
  cases option <;> decide

/-- Whatever the routes are, what comes of the values is the same. -/
theorem Supplies.parse_eq {flags : List (CliOption × String)} {env : String → Option String}
    (h : Supplies values flags env) : parse (flags.map argumentOf) env = values.outcome := by
  have hnew : ∀ option ∈ flags.map Prod.fst, option ∉ ([] : List CliOption) := by simp
  have hscan := scan_arguments h.once hnew h.arguments h.debug
  rw [List.append_nil] at hscan
  rw [parse, show Given.empty = .upTo values [] from rfl, hscan]
  cases husable : (flags.map Prod.fst).all values.isUsable with
  | false =>
    -- the variables are not reached, but no route makes an unusable value good
    obtain ⟨option, -, hoption⟩ := List.all_eq_false.mp husable
    have hall : CliOption.all.all values.isUsable = false :=
      List.all_eq_false.mpr ⟨option, mem_all option, hoption⟩
    simp [Values.outcome, hall]
  | true =>
    have hknown : ∀ option ∈ (flags.map Prod.fst).reverse,
        values option ≠ none ∧ values.isUsable option = true := by
      intro option hoption
      rw [List.mem_reverse] at hoption
      refine ⟨?_, List.all_eq_true.mp husable option hoption⟩
      obtain ⟨flag, hflag, rfl⟩ := List.mem_map.mp hoption
      simp [h.arguments flag hflag]
    have henv : ∀ option, option ∉ (flags.map Prod.fst).reverse →
        env option.envName = values option :=
      fun option hoption => h.environment option fun hmem => hoption (List.mem_reverse.mpr hmem)
    have hall : Given.upTo values (CliOption.all.reverse ++ (flags.map Prod.fst).reverse) =
        .ofValues values := by
      funext option
      exact if_pos (List.mem_append_left _ (List.mem_reverse.mpr (mem_all option)))
    simp only [if_true, fillIn_upTo hknown henv, hall, Values.outcome]
    cases CliOption.all.all values.isUsable <;> rfl

/-! ## Variables that are not looked at -/

/-- The argument is that option, with or without a value attached. -/
def IsFlag (arg : String) (option : CliOption) : Prop :=
  arg = "--" ++ option.word ∨ ∃ value, arg = "--" ++ option.word ++ "=" ++ value

lemma classify_of_isFlag {arg : String} (h : IsFlag arg option) :
    (∃ value, classify arg = .option option value) ∨
      option = .debug ∧ (classify arg = .debug ∨ classify arg = .overfull) := by
  obtain rfl | ⟨value, rfl⟩ := h
  · cases option with
    | debug => exact .inr ⟨rfl, .inl (by decide)⟩
    | _ => exact .inl ⟨none, by decide⟩
  · rw [classify_attached]
    by_cases hdebug : option = .debug
    · exact .inr ⟨hdebug, .inr (if_pos hdebug)⟩
    · exact .inl ⟨some value, if_neg hdebug⟩

/-- The option has been given, or has been named and still waits to be taken in. -/
def IsClaimed (given : Given) (pending : Pending) (option : CliOption) : Prop :=
  given option ≠ none ∨ pending = .awaiting option ∨ ∃ value, pending = .complete option value

variable {given given' final : Given} {pending pending' : Pending} {arg : String}
  {args : List String} {env env' : String → Option String}

lemma ne_none_of_give (h : give given option value = .ok given') :
    given' option ≠ none ∧ ∀ other, given other ≠ none → given' other ≠ none := by
  have hset (values : List String) : (given.set option values) option ≠ none ∧
      ∀ other, given other ≠ none → (given.set option values) other ≠ none := by
    refine ⟨by simp [Given.set], fun other hother => ?_⟩
    unfold Given.set
    split
    · simp
    · exact hother
  unfold give at h
  split at h
  · split at h
    · obtain rfl := Except.ok.inj h
      exact hset _
    · cases h
  · split at h
    · obtain rfl := Except.ok.inj h
      exact hset _
    · cases h

lemma IsClaimed.resolve (h : IsClaimed given pending option)
    (hclosed : CommandLine.resolve given pending = .ok final) : final option ≠ none := by
  cases pending with
  | nothing =>
    obtain rfl := Except.ok.inj hclosed
    simpa [IsClaimed] using h
  | awaiting other => cases hclosed
  | complete other value =>
    obtain ⟨hgiven, hkept⟩ := ne_none_of_give hclosed
    rcases h with h | h | ⟨_, h⟩
    · exact hkept option h
    · cases h
    · obtain ⟨rfl, -⟩ := Pending.complete.inj h
      exact hgiven

/-- An option stays claimed. -/
lemma IsClaimed.takes (h : IsClaimed given pending option)
    (htakes : Takes given pending arg given' pending') : IsClaimed given' pending' option := by
  cases htakes with
  | value =>
    rcases h with h | h | ⟨_, h⟩
    · exact .inl h
    · obtain rfl := Pending.awaiting.inj h
      exact .inr (.inr ⟨_, rfl⟩)
    · cases h
  | debug _ hclosed hgiven => exact .inl ((ne_none_of_give hgiven).2 option (h.resolve hclosed))
  | option _ hclosed => exact .inl (h.resolve hclosed)
  | attached _ hclosed hgiven =>
    exact .inl ((ne_none_of_give hgiven).2 option (h.resolve hclosed))

/-- An option is claimed by its argument. -/
lemma isClaimed_of_isFlag (htakes : Takes given pending arg given' pending')
    (h : IsFlag arg option) : IsClaimed given' pending' option := by
  have hflag := classify_of_isFlag h
  cases htakes with
  | value harg => simp [harg] at hflag
  | debug harg _ hgiven =>
    obtain rfl : option = .debug := by simpa [harg] using hflag
    exact .inl (ne_none_of_give hgiven).1
  | @option _ _ other _ harg =>
    obtain rfl : other = option := by simpa [harg] using hflag
    exact .inr (.inl rfl)
  | @attached _ _ _ other _ _ harg _ hgiven =>
    obtain rfl : other = option := by simpa [harg] using hflag
    exact .inl (ne_none_of_give hgiven).1

/-- Whoever reads all arguments has been given every option that is among them. -/
lemma ne_none_of_scan (hscan : scan given pending args = .ok final)
    (h : IsClaimed given pending option ∨ ∃ arg ∈ args, IsFlag arg option) :
    final option ≠ none := by
  induction args generalizing given pending with
  | nil =>
    rcases h with h | ⟨_, hnil, -⟩
    · exact h.resolve hscan
    · cases hnil
  | cons arg args ih =>
    rw [List.exists_mem_cons_iff] at h
    rcases scan_cons_cases hscan with ⟨hescape, rfl, hclosed⟩ | ⟨given', pending', htakes, hrest⟩
    · -- the end of the options may only be the last argument, and it is no option itself
      rcases h with h | h | ⟨_, hnil, -⟩
      · exact h.resolve hclosed
      · have hflag := classify_of_isFlag h
        simp [hescape] at hflag
      · cases hnil
    · rcases h with h | h | h
      · exact ih hrest (.inl (h.takes htakes))
      · exact ih hrest (.inl (isClaimed_of_isFlag htakes h))
      · exact ih hrest (.inr h)

/-- No two options have the same variable. -/
lemma envName_injective : Function.Injective CliOption.envName := by
  have hfind (option : CliOption) :
      CliOption.all.find? (·.envName = option.envName) = some option := by
    cases option <;> decide
  intro option other h
  rw [← Option.some.injEq, ← hfind option, h, hfind other]

/-- The variable of an option that was given is not looked at. -/
lemma fillIn_congr (hgiven : given option ≠ none)
    (henv : ∀ name, name ≠ option.envName → env name = env' name) (options : List CliOption) :
    fillIn env given options = fillIn env' given options := by
  induction options generalizing given with
  | nil => rfl
  | cons other options ih =>
    by_cases hother : other = option
    · subst hother
      obtain ⟨values, hvalues⟩ := Option.ne_none_iff_exists'.mp hgiven
      simp only [fillIn, hvalues]
      exact ih hgiven
    · simp only [fillIn, henv _ (envName_injective.ne hother)]
      split
      · split
        next hgive => exact ih ((ne_none_of_give hgive).2 option hgiven)
        next => rfl
      · exact ih hgiven

/-- Where an option is among the arguments, its variable makes no difference. -/
theorem parse_congr (h : ∃ arg ∈ args, IsFlag arg option)
    (henv : ∀ name, name ≠ option.envName → env name = env' name) :
    parse args env = parse args env' := by
  unfold parse
  split
  next => rfl
  next given hscan => rw [fillIn_congr (ne_none_of_scan hscan (.inr h)) henv]

/-! ## The main result -/

/-- However values are supplied, each as an argument or by its variable and the arguments in any
order, the same comes of them: the settings that they are the values of, their text and the sinks
that they select, or the same error. And in every command line, where an option is among the
arguments, nothing depends on its variable. -/
theorem routes_are_interchangeable :
    (∀ values flags env, Supplies values flags env →
      parse (flags.map argumentOf) env = values.outcome ∧
      ∀ flags' env', Supplies values flags' env' →
        configured (flags.map argumentOf) env = configured (flags'.map argumentOf) env') ∧
    ∀ args option, (∃ arg ∈ args, IsFlag arg option) → ∀ env env',
      (∀ name, name ≠ option.envName → env name = env' name) →
        configured args env = configured args env' := by
  constructor
  · intro values flags env h
    refine ⟨h.parse_eq, fun flags' env' h' => ?_⟩
    rw [configured, configured, h.parse_eq, h'.parse_eq]
  · intro args option hflag env env' henv
    rw [configured, configured, parse_congr hflag henv]

end BackupMonitor.CommandLine

namespace BackupMonitor

namespace Sample

/-- Values with a list of names, an empty text and two truth values. -/
def values : CommandLine.Values
  | .podName => some "pg-main-1"
  | .space => some ""
  | .debug => some "true"
  | .outputModule => some "void,,icinga"
  | .icingaInsecure => some "false"
  | _ => none

/-- The variables that supply values. -/
def variablesOf (values : CommandLine.Values) (name : String) : Option String :=
  (CliOption.all.find? (·.envName = name)).bind values

/-- The same values as arguments, with unusable texts in the variables of two of them. -/
def flags : List (CliOption × String) :=
  [(.outputModule, "void,,icinga"), (.icingaInsecure, "false"), (.debug, "true"), (.space, "")]

/-- An environment that gives the name of the pod, and unusable texts for two truth values. -/
def shadowed (name : String) : Option String :=
  if name = "MY_POD_NAME" then some "pg-main-1"
  else if name = "DEBUG" ∨ name = "BC_OUTPUT_ICINGA_INSECURE" then some "perhaps"
  else none

end Sample

/-- Four values as arguments, two of them with unusable variables, come to the same as all values by
their variables. -/
theorem CommandLine.routes_are_interchangeable_shadowed :
    ∃ settings, configured ["--output-module=void,,icinga", "--icinga-insecure=false", "--debug",
        "--namespace="] Sample.shadowed = .ok settings ∧
      configured [] (Sample.variablesOf Sample.values) = .ok settings ∧
      settings.1.outputModules = ["void", "", "icinga"] ∧
      configured ["--debug"] Sample.shadowed =
        configured ["--debug"] fun name =>
          if name = "DEBUG" then none else Sample.shadowed name := by
  have hflags : Supplies Sample.values Sample.flags Sample.shadowed :=
    { once := by decide
      arguments := by decide
      debug := by decide
      environment := by
        intro option
        cases option <;> decide }
  have hvariables : Supplies Sample.values [] (Sample.variablesOf Sample.values) :=
    { once := by decide
      arguments := by decide
      debug := by decide
      environment := by
        intro option
        cases option <;> decide }
  obtain ⟨hroutes, hshadow⟩ := routes_are_interchangeable
  obtain ⟨houtcome, hsame⟩ := hroutes _ _ _ hflags
  obtain ⟨settings, hsettings⟩ : ∃ settings, Sample.values.outcome = .ok settings := ⟨_, rfl⟩
  have hconfigured : configured (Sample.flags.map argumentOf) Sample.shadowed =
      .ok (settings, settings.details,
        SinkChoice.select settings.outputModules settings.icinga) := by
    rw [configured, houtcome, hsettings]
    rfl
  refine ⟨_, hconfigured, (hsame _ _ hvariables).symm.trans hconfigured, ?_, ?_⟩
  · obtain rfl := Except.ok.inj (hsettings.symm.trans rfl)
    rfl
  · have hflag : ∃ arg ∈ ["--debug"], IsFlag arg .debug :=
      ⟨_, List.mem_singleton_self _, .inl (by decide)⟩
    exact hshadow _ .debug hflag _ _ fun name hname => (if_neg hname).symm

end BackupMonitor
