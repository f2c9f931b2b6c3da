import BackupMonitor.Proofs.Payload
import BackupMonitor.Proofs.Trimming

/-!
# Settings that are given again

The values that an Icinga sink keeps can be given as settings in their turn. All but the address are
then kept as they are. The slashes at the end of the address are cut off last, after the blanks and
after the check that something is left, so the address may be kept empty, or with a blank at its
end. `kept_values_given_again` says when the kept values are accepted again and what is kept then.
-/

namespace BackupMonitor.Icinga

variable {settings : IcingaSettings} {i : Icinga}

/-- The values that are kept, as settings. -/
def asSettings (i : Icinga) (insecure : Bool) : IcingaSettings where
  apiUrl := some i.apiUrl
  username := some i.username
  password := some i.password
  host := some i.host
  service := some i.service
  insecure := insecure

/-- An address that is not empty and ends in neither a slash nor a blank. -/
def IsCleanUrl (url : String) : Prop :=
  url ≠ "" ∧ ∀ c ∈ url.toList.getLast?, c ≠ '/' ∧ Text.isBlank c = false

/-! ## Kept values -/

/-- A value that is kept is kept as it is if it is given again. -/
lemma required_kept {value : Option String} {name kept : String}
    (h : required value name = .ok kept) (other : String) :
    required (some kept) other = .ok kept := by
  obtain ⟨raw, -, rfl, hne⟩ := required_eq_ok_iff.mp h
  exact required_eq_ok_iff.mpr ⟨_, rfl, Text.trim_trim raw, hne⟩

/-- The address is kept without the blanks at its ends and without the slashes at what is then its
end. -/
lemma exists_apiUrl_of_ofSettings? (h : ofSettings? settings = .ok i) :
    ∃ url slashes, settings.apiUrl = some url ∧
      (Text.trim url).toList = i.apiUrl.toList ++ List.replicate slashes '/' ∧
      ∀ c ∈ i.apiUrl.toList.getLast?, c ≠ '/' := by
  obtain ⟨kept, hkept, hurl, -⟩ := required_of_ofSettings? h
  obtain ⟨url, hgiven, rfl, -⟩ := required_eq_ok_iff.mp hkept
  obtain ⟨slashes, hslashes, hsplit⟩ :=
    Text.exists_dropEndWhile_append (· == '/') (Text.trim url).toList
  rw [← Text.toList_dropEndSlashes, ← hurl] at hsplit
  refine ⟨url, slashes.length, hgiven, ?_, ?_⟩
  · rw [← List.eq_replicate_iff.mpr ⟨rfl, by simpa using hslashes⟩]
    exact hsplit
  · intro c hc
    rw [hurl, Text.toList_dropEndSlashes] at hc
    simpa using Text.of_mem_getLast?_dropEndWhile hc

/-- An address that is kept does not begin with a blank. -/
lemma head_apiUrl_of_ofSettings? (h : ofSettings? settings = .ok i) :
    ∀ c ∈ i.apiUrl.toList.head?, Text.isBlank c = false := by
  intro c hc
  obtain ⟨url, slashes, -, hsplit, -⟩ := exists_apiUrl_of_ofSettings? h
  obtain ⟨rest, hrest⟩ := List.head?_eq_some_iff.mp hc
  have hhead : c ∈ (Text.trimChars url.toList).head? := by
    rw [← Text.toList_trim, hsplit, hrest]
    rfl
  exact Text.of_mem_ends_trimChars (.inl hhead)

lemma trim_apiUrl_of_ofSettings? (h : ofSettings? settings = .ok i) :
    (Text.trim i.apiUrl).toList = Text.dropEndWhile Text.isBlank i.apiUrl.toList := by
  rw [Text.toList_trim]
  exact Text.trimChars_of_head (head_apiUrl_of_ofSettings? h)

/-- The address that is kept is nothing but blanks only if it is empty. -/
lemma trim_apiUrl_eq_empty_iff (h : ofSettings? settings = .ok i) :
    Text.trim i.apiUrl = "" ↔ i.apiUrl = "" := by
  rw [Text.trim_eq_empty_iff, ← String.toList_eq_nil_iff]
  have hhead := head_apiUrl_of_ofSettings? h
  unfold Text.IsBlankText
  generalize i.apiUrl.toList = url at hhead
  cases url with
  | nil => simp [Text.AreBlanks]
  | cons c cs =>
    have hc := hhead c rfl
    simp [Text.AreBlanks, hc]

/-! ## Kept values given again -/

/-- Everything but the address is accepted again and kept as it is. -/
lemma ofSettings?_asSettings (h : ofSettings? settings = .ok i) (insecure : Bool) :
    ofSettings? (i.asSettings insecure) =
      if i.apiUrl = "" then .error (.missingSetting apiUrlVariable)
      else .ok { i with apiUrl := Text.dropEndSlashes (Text.trim i.apiUrl) } := by
  obtain ⟨-, -, -, husername, hpassword, hservice, hhost⟩ := required_of_ofSettings? h
  have hurl : required (some i.apiUrl) apiUrlVariable =
      if i.apiUrl = "" then .error (.missingSetting apiUrlVariable)
      else .ok (Text.trim i.apiUrl) := by
    simp [required, trim_apiUrl_eq_empty_iff h]
  simp only [ofSettings?, asSettings, hurl, required_kept husername, required_kept hpassword,
    required_kept hservice, required_kept hhost]
  split <;> rfl

/-- An address is kept as it is exactly if it is clean. -/
lemma dropEndSlashes_trim_eq_self_iff (h : ofSettings? settings = .ok i) :
    Text.dropEndSlashes (Text.trim i.apiUrl) = i.apiUrl ↔
      ∀ c ∈ i.apiUrl.toList.getLast?, Text.isBlank c = false := by
  rw [← String.toList_inj, Text.toList_dropEndSlashes, trim_apiUrl_of_ofSettings? h]
  obtain ⟨-, -, -, -, hslash⟩ := exists_apiUrl_of_ofSettings? h
  constructor
  · -- what is cut off twice and comes out whole has lost nothing the first time
    intro hsame
    have hcut : Text.dropEndWhile Text.isBlank i.apiUrl.toList <+: i.apiUrl.toList :=
      List.rdropWhile_prefix _ _
    have hshort : Text.dropEndWhile (· == '/') (Text.dropEndWhile Text.isBlank i.apiUrl.toList) <+:
        Text.dropEndWhile Text.isBlank i.apiUrl.toList :=
      List.rdropWhile_prefix _ _
    rw [hsame] at hshort
    exact Text.dropEndWhile_eq_self_iff.mp (hcut.eq_of_length_le hshort.length_le)
  · intro hblank
    rw [Text.dropEndWhile_eq_self_iff.mpr hblank]
    exact Text.dropEndWhile_eq_self_iff.mpr fun c hc => by simpa using hslash c hc

/-- The values that are kept of accepted settings are accepted again and kept as they are exactly if
the address is clean. It never ends in a slash. It is empty if nothing but slashes was given between
blanks, and then it is missing when it is given again. Otherwise the kept values are accepted again,
the address without the blanks at its end and the slashes before them, and all else as it is. -/
theorem kept_values_given_again (h : ofSettings? settings = .ok i) (insecure : Bool) :
    (ofSettings? (i.asSettings insecure) = .ok i ↔ IsCleanUrl i.apiUrl) ∧
    (∃ url slashes, settings.apiUrl = some url ∧
      (Text.trim url).toList = i.apiUrl.toList ++ List.replicate slashes '/' ∧
      ∀ c ∈ i.apiUrl.toList.getLast?, c ≠ '/') ∧
    (i.apiUrl = "" →
      ofSettings? (i.asSettings insecure) = .error (.missingSetting apiUrlVariable)) ∧
    (i.apiUrl ≠ "" → ofSettings? (i.asSettings insecure) =
      .ok { i with apiUrl := Text.dropEndSlashes (Text.trim i.apiUrl) }) := by
  have hagain := ofSettings?_asSettings h insecure
  have hself := dropEndSlashes_trim_eq_self_iff h
  obtain ⟨url, slashes, hgiven, hsplit, hslash⟩ := exists_apiUrl_of_ofSettings? h
  refine ⟨?_, ⟨url, slashes, hgiven, hsplit, hslash⟩, fun hempty => ?_, fun hempty => ?_⟩
  · rw [hagain]
    split
    next hempty => simp [IsCleanUrl, hempty]
    next hempty =>
      have hsame : { i with apiUrl := Text.dropEndSlashes (Text.trim i.apiUrl) } = i ↔
          Text.dropEndSlashes (Text.trim i.apiUrl) = i.apiUrl := by
        constructor
        · exact congrArg apiUrl
        · intro hurl
          rw [hurl]
      rw [Except.ok.injEq, hsame, hself, IsCleanUrl]
      constructor
      · intro hblank
        exact ⟨hempty, fun c hc => ⟨hslash c hc, hblank c hc⟩⟩
      · intro hclean c hc
        exact (hclean.2 c hc).2
  · rw [hagain, if_pos hempty]
  · rw [hagain, if_neg hempty]

end BackupMonitor.Icinga

namespace BackupMonitor

/-- Settings with some address. -/
def Sample.settingsWithUrl (url : String) : IcingaSettings where
  apiUrl := some url
  username := some "icinga"
  password := some "s3cret"
  host := some "db-host"
  service := some "pg-backup"

/-- An address that is kept with a blank at its end loses that blank and a slash when it is given
again. -/
theorem Icinga.kept_values_given_again_spacedSlashes :
    ∃ i j : Icinga, ofSettings? (Sample.settingsWithUrl " https://icinga:5665/ // ") = .ok i ∧
      i.apiUrl = "https://icinga:5665/ " ∧ ofSettings? (i.asSettings false) = .ok j ∧
      j.apiUrl = "https://icinga:5665" ∧ ofSettings? (i.asSettings false) ≠ .ok i := by
  have h : ofSettings? (Sample.settingsWithUrl " https://icinga:5665/ // ") = .ok
      ⟨"https://icinga:5665/ ", "icinga", "s3cret", "db-host", "pg-backup"⟩ := by
    decide +kernel
  obtain ⟨hiff, -, -, hagain⟩ := kept_values_given_again h false
  refine ⟨_, _, h, rfl, hagain (by decide), by decide +kernel, fun hkept => ?_⟩
  exact absurd ((hiff.mp hkept).2 ' ' (by decide +kernel)).2 (by decide)

/-- Accepted settings are not always kept in a form that is accepted again and stays as it is, and
an address may be empty once its slashes are cut off. -/
theorem Icinga.not_kept_alike :
    ¬∀ (settings : IcingaSettings) (i : Icinga), ofSettings? settings = .ok i →
      ofSettings? (i.asSettings settings.insecure) = .ok i ∧ IsCleanUrl i.apiUrl := by
  intro h
  have hslash : ofSettings? (Sample.settingsWithUrl "/") = .ok
      ⟨"", "icinga", "s3cret", "db-host", "pg-backup"⟩ := by
    decide +kernel
  exact (h _ _ hslash).2.1 rfl

end BackupMonitor
