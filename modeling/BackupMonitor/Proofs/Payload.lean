import BackupMonitor.Icinga.CheckResult
import BackupMonitor.Proofs.JsonText
import BackupMonitor.Proofs.QuotedText
import Mathlib.Data.List.Basic

/-!
# What Icinga is sent can be read back

The body of a request is a JSON text, and in it stands a filter with a quoted host and a quoted
service. Both layers read back, whatever host, service, output and labels are made of: the text as
the fields of the check result, and the filter as exactly the host and the service that were set.
So no setting can reach outside its quotes, and different services have different filters.
-/

namespace BackupMonitor

/-! ## Metrics -/

/-- The label of a metric: everything before the last equals sign. -/
def CheckResult.labelOf (metric : String) : String :=
  String.ofList (metric.toList.reverse.dropWhile (· ≠ '=')).tail.reverse

/-- The text of a number has no equals sign. -/
lemma Decimal.equals_notMem_floatText (x : Float) : '=' ∉ (floatText x).toList := by
  have hfixed (value places : Nat) : '=' ∉ fixedChars value places := fun h => by
    rcases isDigit_of_mem_fixedChars h with h | h
    · exact absurd h (by decide)
    · exact absurd h (by decide)
  have hpositional (d : Decimal) : '=' ∉ d.positional.toList := by
    unfold positional fixed
    split <;> rw [String.toList_ofList] <;> exact hfixed _ _
  unfold floatText
  dsimp only
  split
  · split
    · split <;> decide
    · decide
  · split
    · split <;> decide
    · rw [String.toList_append, List.mem_append, not_or]
      refine ⟨?_, hpositional _⟩
      split <;> decide

/-- Where the value has no equals sign, the label of a metric is what stands before the value. -/
lemma CheckResult.labelOf_append (label : String) {value : String} (h : '=' ∉ value.toList) :
    labelOf (label ++ "=" ++ value) = label := by
  have hvalue : ∀ c ∈ value.toList.reverse, decide (c ≠ '=') = true := by
    intro c hc
    have hne : c ≠ '=' := fun heq => h (heq ▸ List.mem_reverse.mp hc)
    simpa using hne
  have hreverse : (label ++ "=" ++ value).toList.reverse =
      value.toList.reverse ++ '=' :: label.toList.reverse := by
    simp
  rw [labelOf, hreverse, List.dropWhile_append_of_pos hvalue]
  simp

/-! ## The filter -/

/-- Reads a filter as a host and a service. -/
def Icinga.readFilter (filter : String) : Option (String × String) := do
  let rest ← filter.toList.dropPrefix? "host.name==".toList
  let (host, rest) ← Text.readQuoted rest
  let rest ← rest.dropPrefix? " && service.name==".toList
  let (service, rest) ← Text.readQuoted rest
  if rest.isEmpty then some (String.ofList host, String.ofList service) else none

namespace Icinga

variable {settings : IcingaSettings} {i j : Icinga}

lemma dropPrefix?_append (front rest : List Char) : (front ++ rest).dropPrefix? front = some rest :=
  List.dropPrefix?_eq_some_iff.mpr ⟨front, rfl, by simp⟩

/-- A filter reads as the host and the service that it is about. -/
lemma readFilter_filter (i : Icinga) : readFilter i.filter = some (i.host, i.service) := by
  have hfilter : i.filter.toList = "host.name==".toList ++ ((Text.quote i.host).toList ++
      (" && service.name==".toList ++ ((Text.quote i.service).toList ++ []))) := by
    simp [filter]
  rw [readFilter, hfilter, dropPrefix?_append]
  simp only [Option.bind_eq_bind, Option.bind_some, Text.readQuoted_quote, dropPrefix?_append]
  simp

/-- Filters about different services differ. -/
lemma filter_eq_iff : j.filter = i.filter ↔ j.host = i.host ∧ j.service = i.service := by
  constructor
  · intro h
    have hread := readFilter_filter j
    rw [h, readFilter_filter i] at hread
    obtain ⟨hhost, hservice⟩ := Prod.mk.inj (Option.some.inj hread)
    exact ⟨hhost.symm, hservice.symm⟩
  · rintro ⟨hhost, hservice⟩
    rw [filter, filter, hhost, hservice]

lemma required_eq_ok_iff {value : Option String} {name kept : String} :
    required value name = .ok kept ↔
      ∃ raw, value = some raw ∧ Text.trim raw = kept ∧ kept ≠ "" := by
  unfold required
  cases value with
  | none => simp
  | some raw =>
    simp only [Option.map_some, Option.some.injEq, exists_eq_left']
    split
    next h => simp [h, eq_comm]
    next h => simp only [Except.ok.injEq]; grind

/-- Settings are accepted if every required one is, and kept as they are required. -/
lemma required_of_ofSettings? (h : ofSettings? settings = .ok i) :
    ∃ apiUrl, required settings.apiUrl apiUrlVariable = .ok apiUrl ∧
      i.apiUrl = Text.dropEndSlashes apiUrl ∧
      required settings.username usernameVariable = .ok i.username ∧
      required settings.password passwordVariable = .ok i.password ∧
      required settings.service serviceVariable = .ok i.service ∧
      required settings.host hostVariable = .ok i.host := by
  obtain ⟨apiUrl, hurl, h⟩ := Except.bind_eq_ok_iff.mp h
  obtain ⟨username, huser, h⟩ := Except.bind_eq_ok_iff.mp h
  obtain ⟨password, hpass, h⟩ := Except.bind_eq_ok_iff.mp h
  obtain ⟨service, hservice, h⟩ := Except.bind_eq_ok_iff.mp h
  obtain ⟨host, hhost, h⟩ := Except.bind_eq_ok_iff.mp h
  obtain rfl := Except.ok.inj h
  exact ⟨apiUrl, hurl, rfl, huser, hpass, hservice, hhost⟩

/-- Accepted settings have a host and a service, which are kept without the blanks around them. -/
lemma host_service_of_ofSettings? (h : ofSettings? settings = .ok i) :
    ∃ host service, settings.host = some host ∧ settings.service = some service ∧
      i.host = Text.trim host ∧ i.service = Text.trim service := by
  obtain ⟨-, -, -, -, -, hservice, hhost⟩ := required_of_ofSettings? h
  obtain ⟨service, hs, hservice, -⟩ := required_eq_ok_iff.mp hservice
  obtain ⟨host, hh, hhost, -⟩ := required_eq_ok_iff.mp hhost
  exact ⟨host, service, hh, hs, hhost.symm, hservice.symm⟩

end Icinga

/-! ## The body -/

namespace Json

lemma areReadable_map_string (depth : Nat) (texts : List String) :
    AreReadable depth (texts.map .string) := by
  induction texts with
  | nil => trivial
  | cons text texts ih => exact ⟨trivial, ih⟩

lemma keptItems_map_string (texts : List String) :
    keptItems (texts.map .string) = texts.map .string := by
  induction texts with
  | nil => rfl
  | cons text texts ih => rw [List.map_cons, keptItems, ih]; rfl

end Json

namespace CheckResult

/-- The fields of a check result as a reader has them. -/
def fields (r : CheckResult) : List (String × Json) :=
  [("exit_status", .int r.state.code), ("filter", .string r.filter)] ++
    (if r.metrics.isEmpty then [] else [("performance_data", .array (r.metrics.map .string))]) ++
    [("plugin_output", .string r.output), ("pretty", .bool true), ("type", .string "Service")]

lemma kept_json (r : CheckResult) : r.json.kept = .object r.fields := by
  have hitems := Json.keptItems_map_string r.metrics
  unfold json fields
  split
  · rfl
  · simp only [List.cons_append, List.nil_append, Json.kept, Json.keptFields, hitems]
    rfl

lemma isReadable_json (r : CheckResult) : r.json.IsReadable Json.defaultDepth := by
  have hcode : -(twoTo 63 : Int) ≤ r.state.code ∧ (r.state.code : Int) < twoTo 64 := by
    cases r.state <;> decide
  have hitems (depth : Nat) := Json.areReadable_map_string depth r.metrics
  unfold json
  split
  · exact ⟨trivial, trivial, hcode, trivial, trivial, trivial⟩
  · exact ⟨trivial, trivial, hcode, trivial, hitems _, trivial, trivial⟩

/-- A check result reads back from its text. -/
lemma parse_json (r : CheckResult) : Json.parse r.json.compact = .ok (.object r.fields) := by
  rw [Json.parse_compact r.isReadable_json, kept_json]

end CheckResult

namespace Icinga

variable {settings : IcingaSettings} {i : Icinga}

/-- The labels of the metrics are those of the table, in its order. -/
lemma labels_checkResult (i : Icinga) (state : ServiceState) (output : String)
    (metrics : Table Float) :
    (i.checkResult state output metrics).metrics.map CheckResult.labelOf = metrics.names := by
  simp only [checkResult, List.map_map, Table.names]
  refine List.map_congr_left fun metric _ => ?_
  exact CheckResult.labelOf_append metric.1 (Decimal.equals_notMem_floatText metric.2)

/-- What is sent to a service that was accepted is a JSON text of one object, with the state, the
output and one entry for each metric, labelled in ascending order. Its filter is made of two fixed
parts, the quoted host and the quoted service; it reads as the host and the service that were set
and as nothing else, so filters about different services differ. -/
theorem payload_reads_back (h : ofSettings? settings = .ok i) (state : ServiceState)
    (output : String) (metrics : Table Float) :
    ∃ (host service hostLiteral serviceLiteral filter : String) (entries : List String),
      settings.host = some host ∧ settings.service = some service ∧
      Json.parse (i.checkResult state output metrics).json.compact = .ok (.object (
        [("exit_status", .int state.code), ("filter", .string filter)] ++
        (if metrics.isEmpty then [] else [("performance_data", .array (entries.map .string))]) ++
        [("plugin_output", .string output), ("pretty", .bool true),
          ("type", .string "Service")])) ∧
      entries.map CheckResult.labelOf = metrics.names ∧ metrics.names.Pairwise (· < ·) ∧
      filter = "host.name==" ++ hostLiteral ++ " && service.name==" ++ serviceLiteral ∧
      Text.IsQuotedForm hostLiteral (Text.trim host) ∧
      Text.IsQuotedForm serviceLiteral (Text.trim service) ∧
      readFilter filter = some (Text.trim host, Text.trim service) ∧
      ∀ other : Icinga, other.filter = filter ↔
        other.host = Text.trim host ∧ other.service = Text.trim service := by
  obtain ⟨host, service, hhost, hservice, hkeptHost, hkeptService⟩ := host_service_of_ofSettings? h
  refine ⟨host, service, Text.quote i.host, Text.quote i.service, i.filter,
    (i.checkResult state output metrics).metrics, hhost, hservice, ?_,
    labels_checkResult i state output metrics, metrics.names_ascending, rfl,
    hkeptHost ▸ Text.isQuotedForm_quote _, hkeptService ▸ Text.isQuotedForm_quote _, ?_, ?_⟩
  · rw [CheckResult.parse_json, CheckResult.fields]
    have hempty : (i.checkResult state output metrics).metrics.isEmpty = metrics.isEmpty := by
      simp [checkResult, Table.isEmpty]
    rw [hempty]
    rfl
  · rw [readFilter_filter, hkeptHost, hkeptService]
  · intro other
    rw [filter_eq_iff, hkeptHost, hkeptService]

end Icinga

namespace Sample

/-- Settings whose host looks like the end of a filter and whose service like an escape. -/
def trickySettings : IcingaSettings where
  apiUrl := some "https://icinga:5665/"
  username := some "icinga"
  password := some "s3cret"
  host := some " db\" || true || \"\\"
  service := some "pg\\u\x7b41\x7d\n\t"

/-- The service that these settings make. -/
def tricky : Icinga where
  apiUrl := "https://icinga:5665"
  username := "icinga"
  password := "s3cret"
  host := "db\" || true || \"\\"
  service := "pg\\u\x7b41\x7d"

end Sample

/-- The filter about the tricky service is about no other service. -/
theorem Icinga.payload_reads_back_tricky :
    ofSettings? Sample.trickySettings = .ok Sample.tricky ∧
    ∃ (hostLiteral serviceLiteral filter : String) (entries : List String),
      Json.parse (Sample.tricky.checkResult .ok "a \"backup\"" (.singleton "x=y" 1)).json.compact =
        .ok (.object [("exit_status", .int 0), ("filter", .string filter),
          ("performance_data", .array (entries.map .string)),
          ("plugin_output", .string "a \"backup\""), ("pretty", .bool true),
          ("type", .string "Service")]) ∧
      entries.map CheckResult.labelOf = ["x=y"] ∧
      filter = "host.name==" ++ hostLiteral ++ " && service.name==" ++ serviceLiteral ∧
      Text.IsQuotedForm hostLiteral "db\" || true || \"\\" ∧
      Text.IsQuotedForm serviceLiteral "pg\\u\x7b41\x7d" := by
  have h : ofSettings? Sample.trickySettings = .ok Sample.tricky := by decide
  obtain ⟨host, service, hostLiteral, serviceLiteral, filter, entries, hhost, hservice, hparse,
    hlabels, -, hfilter, hquotedHost, hquotedService, -, -⟩ :=
    payload_reads_back h .ok "a \"backup\"" (.singleton "x=y" 1)
  obtain rfl := Option.some.inj hhost
  obtain rfl := Option.some.inj hservice
  exact ⟨h, hostLiteral, serviceLiteral, filter, entries, hparse, hlabels, hfilter, hquotedHost,
    hquotedService⟩

end BackupMonitor
