/-
Configurations as they come to be. A host starts from the standard one and
changes it, setting by setting or by taking another in its place that was
read from a text; a change that fails leaves what was there. Nothing in the
type of a configuration says that its delimiter can serve, or that its
ignored names are in order: both are kept by every change (`Regular`), and so
hold of whatever is reached.

# Reading back

A configuration is written as a table of all its settings and read from one
of some, by a reader that knows nothing of the writer. The reader puts the
ignored names in order one after the other, which gives the names that were
written only if these were in order before (`ofData?_toData`). So it is an
invariant of the changes, and not of the type, that every configuration that
is reached reads back as itself.
-/
import Mathlib.Data.String.Basic
import RecordFilter.Loading

namespace RecordFilter

namespace Config

-- ========================================================= ignored names

/-- Names in ascending order, each once. -/
abbrev Ascending (names : List String) : Prop := names.Pairwise (· < ·)

/-- Putting a name among others adds that name and no other. -/
@[simp] theorem mem_insertName {name other : String} {names : List String} :
    other ∈ insertName name names ↔ other = name ∨ other ∈ names := by
  induction names with
  | nil => simp [insertName]
  | cons first rest ih =>
      rw [insertName]
      split
      · next heq => simp [heq]
      · split
        · simp
        · rw [List.mem_cons, ih, List.mem_cons]
          exact or_left_comm

/-- A name is put in its place among names in order, and only once. -/
theorem ascending_insertName {names : List String} (h : Ascending names)
    (name : String) :
    Ascending (insertName name names) := by
  induction names with
  | nil => exact List.pairwise_singleton _ name
  | cons first rest ih =>
      obtain ⟨hfirst, hrest⟩ := List.pairwise_cons.mp h
      rw [insertName]
      split
      · exact h
      · next hne =>
        split
        · next hlt =>
          refine List.pairwise_cons.mpr ⟨?_, h⟩
          rw [List.forall_mem_cons]
          exact ⟨hlt, fun other hother => hlt.trans (hfirst other hother)⟩
        · next hge =>
          refine List.pairwise_cons.mpr ⟨fun other hother => ?_, ih hrest⟩
          rcases mem_insertName.mp hother with rfl | hother
          · exact lt_of_le_of_ne (not_lt.mp hge) (Ne.symm hne)
          · exact hfirst other hother

/-- A name behind all others goes to the end. -/
theorem insertName_of_last {name : String} {names : List String}
    (h : ∀ other ∈ names, other < name) :
    insertName name names = names ++ [name] := by
  induction names with
  | nil => rfl
  | cons first rest ih =>
      rw [List.forall_mem_cons] at h
      rw [insertName, if_neg h.1.ne', if_neg h.1.not_gt, ih h.2,
        List.cons_append]

/-- However many names are put in, they stay in order. -/
theorem ascending_ignoreAll {config : Config} (h : Ascending config.ignored)
    (names : List String) : Ascending (config.ignoreAll names).ignored :=
  List.foldlRecOn names ignore
    (motive := fun config => Ascending config.ignored) h
    fun _ h name _ => ascending_insertName h name

/-- Names that go on in ascending order are ignored as they are. -/
theorem ignoreAll_of_ascending {config : Config} {names : List String}
    (h : Ascending (config.ignored ++ names)) :
    config.ignoreAll names
      = { config with ignored := config.ignored ++ names } := by
  induction names generalizing config with
  | nil => rw [List.append_nil]; rfl
  | cons name rest ih =>
      have hlast : ∀ other ∈ config.ignored, other < name :=
        fun other hother =>
          (List.pairwise_append.mp h).2.2 other hother name
            (List.mem_cons_self ..)
      have hname : (config.ignore name).ignored = config.ignored ++ [name] :=
        insertName_of_last hlast
      have hstep : config.ignoreAll (name :: rest)
          = (config.ignore name).ignoreAll rest := rfl
      rw [hstep, ih (by rw [hname, List.append_assoc]; exact h), hname,
        List.append_assoc]
      rfl

-- ========================================================== reading back

/-- A delimiter is read back from the text that it is written as. -/
theorem char?_singleton (c : Char) :
    char? (.text (String.singleton c)) = some c := by
  unfold char? Data.text?
  simp

/-- What is read ignores its names in order, in whatever order they were
given. -/
theorem ascending_of_ofData? {dialect : Data.Dialect} {data : Data}
    {config : Config} (h : ofData? dialect data = some config) :
    Ascending config.ignored := by
  unfold ofData? at h
  split at h
  · obtain ⟨names, -, h⟩ := Option.bind_eq_some_iff.mp h
    obtain ⟨delimiter, -, h⟩ := Option.bind_eq_some_iff.mp h
    obtain ⟨trims, -, h⟩ := Option.bind_eq_some_iff.mp h
    obtain rfl := Option.some.inj h
    exact ascending_ignoreAll .nil names
  · cases h

/-- A configuration whose ignored names are in order reads back as itself. -/
theorem ofData?_toData {config : Config}
    (h : Ascending config.ignored) (dialect : Data.Dialect) :
    ofData? dialect config.toData = some config := by
  have hvalues : config.toData.fieldValues? dialect true settingNames
      = some [some (.list (config.ignored.map .text)),
        some (.text (String.singleton config.delimiter)),
        some (.bool config.trims)] := rfl
  unfold ofData?
  rw [hvalues]
  dsimp only [setting]
  rw [Data.texts?_list, char?_singleton]
  -- the reader ignores the names one after the other, from none
  have hignored : standard.ignoreAll config.ignored
      = { standard with ignored := config.ignored } := ignoreAll_of_ascending h
  change some { standard.ignoreAll config.ignored with
      delimiter := config.delimiter, trims := config.trims } = some config
  rw [hignored]

-- =============================================================== regular

/-- A configuration of which the delimiter can serve and the ignored names
are in order. -/
structure Regular (config : Config) : Prop where
  valid : config.isValid = true
  ascending : Ascending config.ignored

/-- The configuration to begin with is in order. -/
theorem regular_standard : standard.Regular where
  valid := by decide
  ascending := .nil

/-- Validation hands on what it accepts as it is. -/
theorem validated_eq_ok_iff {config config' : Config} :
    config.validated = .ok config'
      ↔ config.isValid = true ∧ config = config' := by
  unfold validated
  split
  · next h => simp [h]
  · next h => simp [h]

-- =============================================================== changes

/-- A way to come from one configuration to the next: to change a setting, or
to take the configuration that a text or the data of a host describe. -/
inductive Change where
  | ignore (name : String)
  | ignoreAll (names : List String)
  | delimiter (c : Char)
  | trimming (trims : Bool)
  | toml (text : String)
  | json (text : String)
  | described (data : Data)

/-- What a change makes of a configuration, if it does not fail. -/
def Change.apply (config : Config) : Change → Except SetupError Config
  | .ignore name => .ok (config.ignore name)
  | .ignoreAll names => .ok (config.ignoreAll names)
  | .delimiter c => config.withDelimiter c
  | .trimming trims => .ok (config.withTrimming trims)
  | .toml text => ofToml text
  | .json text => ofJson text
  | .described data => ofJsonData data

/-- The configuration after a change; one that fails leaves it as it is. -/
def changed (config : Config) (change : Change) : Config :=
  match change.apply config with
  | .ok config => config
  | .error _ => config

/-- The configuration that is reached by changes to the standard one. -/
def reached (changes : List Change) : Config := changes.foldl changed standard

/-- A configuration that is loaded is in order, in whatever order its names
were listed. -/
theorem regular_of_ofJsonData {data : Data} {config : Config}
    (h : ofJsonData data = .ok config) : config.Regular := by
  unfold ofJsonData at h
  cases hread : (ofData? Json.dialect data).filter isValid with
  | none => rw [hread] at h; cases h
  | some config' =>
      rw [hread] at h
      obtain rfl := Except.ok.inj h
      obtain ⟨hdata, hvalid⟩ := Option.filter_eq_some_iff.mp hread
      exact ⟨hvalid, ascending_of_ofData? hdata⟩

theorem regular_of_ofJson {text : String} {config : Config}
    (h : ofJson text = .ok config) : config.Regular := by
  unfold ofJson at h
  cases hread : Json.read? text with
  | none => rw [hread] at h; cases h
  | some data =>
      rw [hread] at h
      exact regular_of_ofJsonData h

theorem regular_of_ofToml {text : String} {config : Config}
    (h : ofToml text = .ok config) : config.Regular := by
  unfold ofToml at h
  cases hread : (Toml.read? text).bind (ofData? Toml.dialect) with
  | none => rw [hread] at h; cases h
  | some config' =>
      rw [hread] at h
      obtain ⟨hvalid, rfl⟩ := validated_eq_ok_iff.mp h
      obtain ⟨data, -, hdata⟩ := Option.bind_eq_some_iff.mp hread
      exact ⟨hvalid, ascending_of_ofData? hdata⟩

theorem Regular.ignore {config : Config} (h : config.Regular) (name : String) :
    (config.ignore name).Regular :=
  ⟨h.valid, ascending_insertName h.ascending name⟩

/-- A change that does not fail makes a regular configuration of one. -/
theorem Regular.apply {config config' : Config} (h : config.Regular)
    {change : Change} (hchange : change.apply config = .ok config') :
    config'.Regular := by
  cases change with
  | ignore name =>
      obtain rfl := Except.ok.inj hchange
      exact h.ignore name
  | ignoreAll names =>
      obtain rfl := Except.ok.inj hchange
      exact List.foldlRecOn names Config.ignore h fun _ h name _ =>
        h.ignore name
  | delimiter c =>
      obtain ⟨hvalid, rfl⟩ := validated_eq_ok_iff.mp hchange
      exact ⟨hvalid, h.ascending⟩
  | trimming trims =>
      obtain rfl := Except.ok.inj hchange
      exact ⟨h.valid, h.ascending⟩
  | toml text => exact regular_of_ofToml hchange
  | json text => exact regular_of_ofJson hchange
  | described data => exact regular_of_ofJsonData hchange

/-- The same of a change that may fail. -/
theorem Regular.changed {config : Config} (h : config.Regular)
    (change : Change) :
    (config.changed change).Regular := by
  unfold Config.changed
  split
  · next hchange => exact h.apply hchange
  · exact h

/-- Whatever is reached is regular. -/
theorem regular_reached (changes : List Change) : (reached changes).Regular :=
  List.foldlRecOn changes Config.changed regular_standard fun _ h change _ =>
    h.changed change

-- ==================================================== regular, and back

namespace Regular

variable {config : Config}

/-- What is in order passes validation. -/
theorem validated_eq_ok (h : config.Regular) : config.validated = .ok config :=
  validated_eq_ok_iff.mpr ⟨h.valid, rfl⟩

/-- A configuration in order is read back from its data. -/
theorem ofJsonData_toData (h : config.Regular) :
    ofJsonData config.toData = .ok config := by
  rw [ofJsonData, ofData?_toData h.ascending, Option.filter_some,
    if_pos h.valid]
  rfl

/-- A JSON text of a regular configuration loads as this configuration. -/
theorem ofJson_eq_ok (h : config.Regular) {text : String}
    (hread : Json.read? text = some config.toData) :
    ofJson text = .ok config := by
  rw [ofJson, hread]
  exact h.ofJsonData_toData

/-- A TOML text of a regular configuration loads as this configuration. -/
theorem ofToml_eq_ok (h : config.Regular) {text : String}
    (hread : Toml.read? text = some config.toData) :
    ofToml text = .ok config := by
  rw [ofToml, hread, Option.bind_some, ofData?_toData h.ascending]
  exact h.validated_eq_ok

end Regular

/-- No way to make a configuration makes one that is not valid, and what is
written reads back. Whatever changes are made to the standard configuration,
the delimiter that is reached is neither a letter, a digit, a blank nor a
character of the syntax of keys and literals; and the table that the
configuration is written as is read as the same configuration, by the
readers of both formats and by the one that validates what it read. -/
theorem valid_reached (changes : List Change) :
    (reached changes).validated = .ok (reached changes)
      ∧ Text.isAlphanumeric (reached changes).delimiter = false
      ∧ Text.isBlank (reached changes).delimiter = false
      ∧ (reached changes).delimiter ∉ ['-', '.', '[', ']', '"', '\\']
      ∧ (∀ dialect, ofData? dialect (reached changes).toData
        = some (reached changes))
      ∧ ofJsonData (reached changes).toData = .ok (reached changes) := by
  have h := regular_reached changes
  generalize reached changes = config at h ⊢
  have hdelimiter := h.valid
  unfold isValid isDelimiter isSyntactic at hdelimiter
  simp only [Bool.not_eq_true', Bool.or_eq_false_iff] at hdelimiter
  obtain ⟨⟨halphanumeric, hblank⟩, hsyntax⟩ := hdelimiter
  refine ⟨h.validated_eq_ok, halphanumeric, hblank, ?_,
    ofData?_toData h.ascending, h.ofJsonData_toData⟩
  simpa [and_assoc] using hsyntax

end Config

end RecordFilter
