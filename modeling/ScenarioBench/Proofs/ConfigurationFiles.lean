import Mathlib
import ScenarioBench.Config
import ScenarioBench.Data.Results
import ScenarioBench.Proofs.DocumentKeys
import ScenarioBench.Proofs.WrittenFiles

/-! What a configuration file settles.

One entry of a table sets the field of its key and leaves the others, so what a table of distinct keys makes of a
record can be told field by field, whatever else the table holds and in whatever order. Main statement: a loaded
configuration holds in each field what its file says there, or the standard value; a table with an unknown key is
refused; and which file is read is settled before any of them is.
-/

set_option autoImplicit false

namespace ScenarioBench

namespace Toml

def tableUnder (name : String) (document : List (String × Toml)) : List (String × Toml) :=
  match Entries.find? document name with
  | some (.table entries) => entries
  | _ => []

def text? : Toml → Option String
  | string value => some value
  | _ => none

def path? (value : Toml) : Option Path :=
  value.text?.map Path.ofText

def natural? : Toml → Option Nat
  | integer value => if 0 ≤ value then some value.toNat else none
  | _ => none

def context? (value : Toml) : Option JobContext :=
  value.text?.bind JobContext.ofSpelling?

section
variable {document : List (String × Toml)} {name : String}

theorem Keyed.distinct (keyed : (Toml.table document).Keyed) : (document.map (·.1)).Nodup := by
  cases keyed with
  | table distinct => exact distinct

theorem found_of_mem_tableUnder {entry : String × Toml} (listed : entry ∈ tableUnder name document) :
    Entries.find? document name = some (.table (tableUnder name document)) := by
  unfold tableUnder at listed ⊢
  split at listed
  · rename_i found
    rw [found]
  · cases listed

theorem distinct_tableUnder (keyed : (Toml.table document).Keyed) (name : String) :
    ((tableUnder name document).map (·.1)).Nodup := by
  unfold tableUnder
  split
  · rename_i entries found
    cases keyed with
    | table distinct inside => exact (inside _ ((Entries.find?_eq_some_iff_of_nodup distinct).1 found)).distinct
  · exact List.nodup_nil

end

variable {value : Toml}

theorem expectString_of_text? {text : String} (read : value.text? = some text) (expected : String) :
    value.expectString expected = .ok text := by
  cases value <;> cases read
  rfl

theorem expectString_of_path? {path : Path} (read : value.path? = some path) :
    ∃ text, value.expectString "path string" = .ok text ∧ Path.ofText text = path := by
  obtain ⟨text, read, same⟩ := Option.map_eq_some_iff.1 read
  exact ⟨text, expectString_of_text? read _, same⟩

theorem expectNatural_of_natural? {number : Nat} (read : value.natural? = some number) :
    value.expectNatural = .ok number := by
  cases value with
  | integer whole =>
    obtain ⟨natural, same⟩ := Option.ite_none_right_eq_some.1 read
    rw [expectNatural, if_pos natural, Option.some.inj same]
  | _ => cases read

theorem expectContext_of_context? {context : JobContext} (read : value.context? = some context) :
    LauncherSettings.expectContext value = .ok context := by
  cases value with
  | string name =>
    have read : JobContext.ofSpelling? name = some context := read
    have known : (JobContext.table.map JobContext.spelling).contains name = true := by
      unfold JobContext.ofSpelling? at read
      have spelled : (context.spelling == name) = true := by simpa using List.find?_some read
      exact List.contains_iff_mem.2
        (List.mem_map.2 ⟨context, List.mem_of_find?_eq_some read, beq_iff_eq.1 spelled⟩)
    rw [LauncherSettings.expectContext, expectVariant, if_pos known]
    dsimp only [bind, Except.bind]
    rw [read]
    rfl
  | _ => cases read

end Toml

/-! ### Fields -/

/-- A field of a record, and the key that sets it: which values the key takes and what they stand for. -/
structure Field (σ : Type) where
  {Value : Type}
  key : String
  read? : Toml → Option Value
  held : σ → Value

namespace Field

variable {σ : Type} {before middle after : σ} {field : Field σ} {entries : List (String × Toml)}

/-- A field holds what a table says under its key, and what it held before when the table does not have the key. -/
def Follows (field : Field σ) (entries : List (String × Toml)) (before after : σ) : Prop :=
  match Entries.find? entries field.key with
  | some value => field.read? value = some (field.held after)
  | none => field.held after = field.held before

theorem follows_nil (field : Field σ) (record : σ) : field.Follows [] record record := rfl

theorem Follows.cons {key : String} {value : Toml} (fresh : Entries.find? entries key = none)
    (first : field.Follows [(key, value)] before middle) (later : field.Follows entries middle after) :
    field.Follows ((key, value) :: entries) before after := by
  simp only [Follows, Entries.find?_cons] at first ⊢
  by_cases same : field.key = key
  · rw [if_pos same] at first ⊢
    simp only [Follows, same, fresh] at later
    exact later ▸ first
  · rw [if_neg same] at first ⊢
    unfold Follows at later
    split at later
    · exact later
    · exact later.trans first

end Field

def Fits {σ : Type} (fields : List (Field σ)) (entries : List (String × Toml)) : Prop :=
  ∀ entry ∈ entries, ∃ field ∈ fields, field.key = entry.1 ∧ (field.read? entry.2).isSome

/-- A function sets fields by their keys: a known key with a value that is read sets its field and leaves the others,
and any other key is refused. -/
structure Sets {σ : Type} (set : σ → String → Toml → Except Toml.Fault σ) (fields : List (Field σ)) : Prop where
  distinct : (fields.map Field.key).Nodup
  known : ∀ field ∈ fields, ∀ before value held, field.read? value = some held → ∃ after,
    set before field.key value = .ok after ∧ field.held after = held ∧
      ∀ other ∈ fields, other.key ≠ field.key → other.held after = other.held before
  unknown : ∀ before key value, key ∉ fields.map Field.key → ∃ fault, set before key value = .error fault

def setAll {σ : Type} (set : σ → String → Toml → Except Toml.Fault σ) (entries : List (String × Toml)) (before : σ) :
    Except Toml.Fault σ :=
  entries.foldlM (fun record entry => set record entry.1 entry.2) before

def ReadsTables {σ : Type} (ofToml : Toml → Except Toml.Fault σ) (set : σ → String → Toml → Except Toml.Fault σ)
    (start : σ) : Prop :=
  ∀ entries, ofToml (.table entries) = setAll set entries start

section
variable {σ : Type} {set : σ → String → Toml → Except Toml.Fault σ} {fields : List (Field σ)}
  {entries : List (String × Toml)}

theorem Sets.one (sets : Sets set fields) {field : Field σ} (listed : field ∈ fields) {value : Toml}
    (read : (field.read? value).isSome) (before : σ) : ∃ after, set before field.key value = .ok after ∧
      ∀ other ∈ fields, other.Follows [(field.key, value)] before after := by
  obtain ⟨held, read⟩ := Option.isSome_iff_exists.1 read
  obtain ⟨after, done, holds, leaves⟩ := sets.known field listed before value held read
  refine ⟨after, done, fun other known => ?_⟩
  simp only [Field.Follows, Entries.find?_cons]
  by_cases same : other.key = field.key
  · obtain rfl := List.inj_on_of_nodup_map sets.distinct known listed same
    rw [if_pos rfl]
    exact read.trans (congrArg some holds.symm)
  · rw [if_neg same]
    exact leaves other known same

theorem Sets.all (sets : Sets set fields) (distinct : (entries.map (·.1)).Nodup) (fits : Fits fields entries)
    (before : σ) : ∃ after, setAll set entries before = .ok after ∧
      ∀ field ∈ fields, field.Follows entries before after := by
  induction entries generalizing before with
  | nil => exact ⟨before, rfl, fun field _ => field.follows_nil before⟩
  | cons entry rest ih =>
    obtain ⟨key, value⟩ := entry
    obtain ⟨fresh, apart⟩ := List.nodup_cons.1 distinct
    obtain ⟨⟨field, listed, rfl, read⟩, others⟩ := List.forall_mem_cons.1 fits
    obtain ⟨middle, done, first⟩ := sets.one listed read before
    obtain ⟨after, finished, later⟩ := ih apart others middle
    -- The entries behind the first one have other keys, so they leave what it set.
    refine ⟨after, ?_, fun other listed => ?_⟩
    · rw [setAll, List.foldlM_cons, done]
      exact finished
    · exact (first other listed).cons (Entries.find?_eq_none fresh) (later other listed)

theorem refused_of_mem {entry : String × Toml} (listed : entry ∈ entries)
    (refused : ∀ before, ∃ fault, set before entry.1 entry.2 = .error fault) (before : σ) :
    ∃ fault, setAll set entries before = .error fault := by
  induction entries generalizing before with
  | nil => cases listed
  | cons head rest ih =>
    rw [setAll, List.foldlM_cons]
    -- An entry in front of the refused one is refused itself, or the refused one is come to.
    rcases done : set before head.1 head.2 with fault | middle
    · exact ⟨fault, rfl⟩
    · refine ih ((List.mem_cons.1 listed).resolve_left ?_) middle
      rintro rfl
      obtain ⟨fault, refused⟩ := refused before
      cases done.symm.trans refused

theorem Sets.refused (sets : Sets set fields) {entry : String × Toml} (listed : entry ∈ entries)
    (unknown : entry.1 ∉ fields.map Field.key) (before : σ) : ∃ fault, setAll set entries before = .error fault :=
  refused_of_mem listed (fun before => sets.unknown before entry.1 entry.2 unknown) before

end

namespace HarnessSettings

def keyed : List (Field HarnessSettings) :=
  [⟨"root", Toml.path?, root⟩, ⟨"wait_timeout_secs", Toml.natural?, timeoutSeconds⟩,
    ⟨"poll_interval_ms", Toml.natural?, pollMilliseconds⟩, ⟨"make", Toml.text?, make⟩,
    ⟨"log_archive_pattern", Toml.text?, logArchives⟩]

theorem sets : Sets set keyed where
  distinct := by decide
  known := by
    simp only [keyed, List.forall_mem_cons]
    refine ⟨?_, ?_, ?_, ?_, ?_, nofun⟩ <;> intro before value held read
    · obtain ⟨text, given, rfl⟩ := Toml.expectString_of_path? read
      exact ⟨{ before with root := .ofText text }, by rw [set, given]; rfl, rfl, by simp⟩
    · refine ⟨{ before with timeoutSeconds := held }, ?_, rfl, by simp⟩
      rw [set, Toml.expectNatural_of_natural? read]
      rfl
    · refine ⟨{ before with pollMilliseconds := held }, ?_, rfl, by simp⟩
      rw [set, Toml.expectNatural_of_natural? read]
      rfl
    · refine ⟨{ before with make := held }, ?_, rfl, by simp⟩
      rw [set, Toml.expectString_of_text? read]
      rfl
    · refine ⟨{ before with logArchives := held }, ?_, rfl, by simp⟩
      rw [set, Toml.expectString_of_text? read]
      rfl
  unknown before key value unknown := by
    simp only [keyed, List.map_cons, List.map_nil, List.mem_cons, not_or] at unknown
    refine ⟨.unknownField key fields, ?_⟩
    unfold set
    split
    all_goals first | rfl | simp at unknown

theorem readsTables : ReadsTables ofToml set standard := fun _ => rfl

end HarnessSettings

namespace LauncherSettings

def keyed : List (Field LauncherSettings) :=
  [⟨"toolkit", Toml.path?, toolkit⟩, ⟨"output_dir", Toml.path?, output⟩, ⟨"sc", Toml.text?, compiler⟩,
    ⟨"streamtool", Toml.text?, streamtool⟩, ⟨"context", Toml.context?, context⟩]

theorem sets : Sets set keyed where
  distinct := by decide
  known := by
    simp only [keyed, List.forall_mem_cons]
    refine ⟨?_, ?_, ?_, ?_, ?_, nofun⟩ <;> intro before value held read
    · obtain ⟨text, given, rfl⟩ := Toml.expectString_of_path? read
      exact ⟨{ before with toolkit := .ofText text }, by rw [set, given]; rfl, rfl, by simp⟩
    · obtain ⟨text, given, rfl⟩ := Toml.expectString_of_path? read
      exact ⟨{ before with output := .ofText text }, by rw [set, given]; rfl, rfl, by simp⟩
    · refine ⟨{ before with compiler := held }, ?_, rfl, by simp⟩
      rw [set, Toml.expectString_of_text? read]
      rfl
    · refine ⟨{ before with streamtool := held }, ?_, rfl, by simp⟩
      rw [set, Toml.expectString_of_text? read]
      rfl
    · refine ⟨{ before with context := held }, ?_, rfl, by simp⟩
      rw [set, Toml.expectContext_of_context? read]
      rfl
  unknown before key value unknown := by
    simp only [keyed, List.map_cons, List.map_nil, List.mem_cons, not_or] at unknown
    refine ⟨.unknownField key fields, ?_⟩
    unfold set
    split
    all_goals first | rfl | simp at unknown

theorem readsTables : ReadsTables ofToml set standard := fun _ => rfl

end LauncherSettings

namespace Config

def keyed : List (Field Config) :=
  [⟨"harness", fun value => (HarnessSettings.ofToml value).toOption, harness⟩,
    ⟨"launcher", fun value => (LauncherSettings.ofToml value).toOption, launcher⟩]

theorem sets : Sets set keyed where
  distinct := by decide
  known := by
    simp only [keyed, List.forall_mem_cons]
    refine ⟨?_, ?_, nofun⟩ <;> intro before value held read
    · refine ⟨{ before with harness := held }, ?_, rfl, by simp⟩
      rw [set, ok_of_toOption read]
      rfl
    · refine ⟨{ before with launcher := held }, ?_, rfl, by simp⟩
      rw [set, ok_of_toOption read]
      rfl
  unknown before key value unknown := by
    simp only [keyed, List.map_cons, List.map_nil, List.mem_cons, not_or] at unknown
    refine ⟨.unknownField key sections, ?_⟩
    unfold set
    split
    all_goals first | rfl | simp at unknown

/-! ### Sections -/

section
variable {σ : Type} {setField : σ → String → Toml → Except Toml.Fault σ} {fields : List (Field σ)} {start settings : σ}
  {ofToml : Toml → Except Toml.Fault σ} {held : Config → σ} {config : Config} {document : List (String × Toml)}
  {name : String}

theorem read_section (sets : Sets setField fields) (reads : ReadsTables ofToml setField start)
    (keyed : (Toml.table document).Keyed) (fits : Fits fields (Toml.tableUnder name document)) :
    ∃ settings, ofToml (.table (Toml.tableUnder name document)) = .ok settings ∧
      ∀ field ∈ fields, field.Follows (Toml.tableUnder name document) start settings := by
  rw [reads]
  exact sets.all (Toml.distinct_tableUnder keyed name) fits start

theorem section_eq (reads : ReadsTables ofToml setField start) (begins : held standard = start)
    (tabular : ∀ value, Entries.find? document name = some value → value = .table (Toml.tableUnder name document))
    (made : ofToml (.table (Toml.tableUnder name document)) = .ok settings)
    (follows : (Field.mk name (fun value => (ofToml value).toOption) held).Follows document standard config) :
    held config = settings := by
  unfold Field.Follows at follows
  split at follows
  · rename_i value found
    obtain rfl := tabular value found
    change (ofToml (.table _)).toOption = some (held config) at follows
    rw [made] at follows
    exact (Option.some.inj follows).symm
  · rename_i absent
    rw [Toml.tableUnder, absent, reads] at made
    cases made
    exact follows.trans begins

end

def Tabular (document : List (String × Toml)) : Prop :=
  ∀ name ∈ sections, ∀ value, Entries.find? document name = some value → ∃ entries, value = .table entries

/-- Everything in a document is understood: its keys are known, and so are those of its sections, whose values are
read. -/
structure Understood (document : List (String × Toml)) : Prop where
  names : ∀ entry ∈ document, entry.1 ∈ sections
  harness : Fits HarnessSettings.keyed (Toml.tableUnder "harness" document)
  launcher : Fits LauncherSettings.keyed (Toml.tableUnder "launcher" document)

/-- A document or one of its sections has a key that is not known. -/
def Strange (document : List (String × Toml)) : Prop :=
  (∃ entry ∈ document, entry.1 ∉ sections) ∨
    (∃ entry ∈ Toml.tableUnder "harness" document, entry.1 ∉ HarnessSettings.fields) ∨
    ∃ entry ∈ Toml.tableUnder "launcher" document, entry.1 ∉ LauncherSettings.fields

/-- Each field of a configuration holds what a document says under its key, and the standard value when the document
does not have the key. -/
structure Settled (document : List (String × Toml)) (config : Config) : Prop where
  harness : ∀ field ∈ HarnessSettings.keyed,
    field.Follows (Toml.tableUnder "harness" document) .standard config.harness
  launcher : ∀ field ∈ LauncherSettings.keyed,
    field.Follows (Toml.tableUnder "launcher" document) .standard config.launcher

section
variable {document : List (String × Toml)}

theorem Tabular.found (tabular : Tabular document) {name : String} (known : name ∈ sections) (value : Toml)
    (found : Entries.find? document name = some value) : value = .table (Toml.tableUnder name document) := by
  obtain ⟨entries, rfl⟩ := tabular name known value found
  rw [Toml.tableUnder, found]

theorem tabular_of_filled (filled : ∀ name ∈ sections, Toml.tableUnder name document ≠ []) : Tabular document := by
  intro name known value found
  obtain ⟨entry, listed⟩ := List.exists_mem_of_ne_nil _ (filled name known)
  exact ⟨_, Option.some.inj (found.symm.trans (Toml.found_of_mem_tableUnder listed))⟩

theorem Understood.settled (understood : Understood document) (keyed : (Toml.table document).Keyed)
    (tabular : Tabular document) : ∃ config, ofEntries document = .ok config ∧ Settled document config := by
  obtain ⟨harness, readHarness, ofHarness⟩ :=
    read_section HarnessSettings.sets HarnessSettings.readsTables keyed understood.harness
  obtain ⟨launcher, readLauncher, ofLauncher⟩ :=
    read_section LauncherSettings.sets LauncherSettings.readsTables keyed understood.launcher
  have distinct := keyed.distinct
  -- As a whole each section is a value that is read, so the document fits the sections as they fit their fields.
  have fits : Fits Config.keyed document := by
    rintro ⟨name, value⟩ listed
    have known := understood.names _ listed
    have whole := tabular.found known value ((Entries.find?_eq_some_iff_of_nodup distinct).2 listed)
    simp only [sections, List.mem_cons, List.not_mem_nil, or_false] at known
    rcases known with rfl | rfl
    · exact ⟨_, List.mem_cons_self, rfl, by simp [whole, readHarness, Except.toOption]⟩
    · exact ⟨_, List.mem_cons_of_mem _ List.mem_cons_self, rfl, by simp [whole, readLauncher, Except.toOption]⟩
  obtain ⟨config, made, follows⟩ := sets.all distinct fits standard
  simp only [Config.keyed, List.forall_mem_cons] at follows
  refine ⟨config, made, ?_, ?_⟩
  · rw [section_eq HarnessSettings.readsTables rfl (tabular.found (by decide)) readHarness follows.1]
    exact ofHarness
  · rw [section_eq LauncherSettings.readsTables rfl (tabular.found (by decide)) readLauncher follows.2.1]
    exact ofLauncher

theorem Strange.refused (strange : Strange document) (keyed : (Toml.table document).Keyed) :
    ∃ fault, ofEntries document = .error fault := by
  -- A section with a strange key has an entry, so it is there, and it is a table.
  have inside {name : String} {entry : String × Toml} (listed : entry ∈ Toml.tableUnder name document) :
      (name, .table (Toml.tableUnder name document)) ∈ document :=
    (Entries.find?_eq_some_iff_of_nodup keyed.distinct).1 (Toml.found_of_mem_tableUnder listed)
  show ∃ fault, setAll set document standard = .error fault
  rcases strange with ⟨entry, listed, unknown⟩ | ⟨entry, listed, unknown⟩ | ⟨entry, listed, unknown⟩
  · exact sets.refused listed unknown standard
  · refine refused_of_mem (inside listed) (fun before => ?_) standard
    obtain ⟨fault, refused⟩ := HarnessSettings.sets.refused listed unknown .standard
    exact ⟨fault, by rw [set, show HarnessSettings.ofToml (.table _) = _ from refused]; rfl⟩
  · refine refused_of_mem (inside listed) (fun before => ?_) standard
    obtain ⟨fault, refused⟩ := LauncherSettings.sets.refused listed unknown .standard
    exact ⟨fault, by rw [set, show LauncherSettings.ofToml (.table _) = _ from refused]; rfl⟩

end

/-! ### Files -/

variable {tree other : FileTree} {path : Path}

theorem load_of_read {text : String} {document : List (String × Toml)} (content : tree.readText path = .ok text)
    (read : Toml.read? text = some document) :
    load tree (some path) = (ofEntries document).mapError (.refused path ·) := by
  have made : ofText text = ofEntries document := by rw [ofText, read]
  rw [load, ofFile, content, ← made]
  rfl

theorem load_of_readText_eq (same : tree.readText path = other.readText path) :
    load tree (some path) = load other (some path) := by
  simp only [load, ofFile, same]

theorem load_of_write {elsewhere : Path} {content : Octets} {after : FileTree} {spot place : Spot}
    (written : tree.write elsewhere content = .ok after) (led : tree.follow elsewhere = .ok spot)
    (leads : tree.follow path = .ok place) (different : place.location ≠ spot.location) :
    load after (some path) = load tree (some path) := by
  refine load_of_readText_eq ?_
  rw [FileTree.readText, FileTree.readText, FileTree.read_of_write_of_ne written led leads different]

theorem waiter_exact (settings : HarnessSettings) :
    settings.waiter.timeout = settings.timeoutSeconds * Waiter.nanosecondsPerSecond ∧
      settings.waiter.poll = max settings.pollMilliseconds 1 * Waiter.nanosecondsPerMillisecond := by
  refine ⟨rfl, ?_⟩
  rw [← Nat.mul_max_mul_right, Nat.one_mul]
  rfl

/-- A configuration file is loaded field by field, and refused for any key that is not known; a file that is named is
the only one that matters, and otherwise the default file does if it is there. The waiter waits as long as the
configuration says, and looks no more often than it says and than once in a millisecond. -/
theorem load_settles :
    (∀ (tree : FileTree) (path : Path) (text : String) (document : List (String × Toml)),
      tree.readText path = .ok text → Toml.read? text = some document → Tabular document →
      (Understood document → ∃ config, load tree (some path) = .ok config ∧ Settled document config) ∧
      (Strange document → ∃ fault, load tree (some path) = .error (.refused path fault))) ∧
    (∀ (tree other : FileTree) (path : Path), tree.readText path = other.readText path →
      load tree (some path) = load other (some path)) ∧
    (∀ (tree after : FileTree) (path : Path) (content : Octets) (place spot : Spot),
      tree.write (.ofText defaultConfigFile) content = .ok after →
      tree.follow (.ofText defaultConfigFile) = .ok spot → tree.follow path = .ok place →
      place.location ≠ spot.location → load after (some path) = load tree (some path)) ∧
    (∀ tree : FileTree, load tree none =
      if tree.isFile (.ofText defaultConfigFile) then load tree (some (.ofText defaultConfigFile)) else .ok standard) ∧
    ∀ (tree : FileTree) (explicit : Option Path) (config : Config), load tree explicit = .ok config →
      config.harness.waiter.timeout = config.harness.timeoutSeconds * Waiter.nanosecondsPerSecond ∧
      config.harness.waiter.poll = max config.harness.pollMilliseconds 1 * Waiter.nanosecondsPerMillisecond := by
  refine ⟨fun tree path text document content read tabular => ?_, fun _ _ _ same => load_of_readText_eq same,
    fun _ _ _ _ _ _ written led leads different => load_of_write written led leads different, fun _ => rfl,
    fun _ _ config _ => waiter_exact config.harness⟩
  have keyed := Toml.keyed_of_read read
  rw [load_of_read content read]
  refine ⟨fun understood => ?_, fun strange => ?_⟩
  · obtain ⟨config, made, settled⟩ := understood.settled keyed tabular
    exact ⟨config, by rw [made]; rfl, settled⟩
  · obtain ⟨fault, refused⟩ := strange.refused keyed
    exact ⟨fault, by rw [refused]; rfl⟩

def ownText : String := "launcher.context = \"standalone\"\n[harness]\npoll_interval_ms = 0\n"
def strangeText : String := "launcher.sc = \"sc\"\n[harness]\ntimeout = 3\n"

def twoFiles : FileTree where
  entries := [([.ofText "own.toml"], .file (.ofText ownText) false),
    ([.ofText defaultConfigFile], .file (.ofText strangeText) false)]
  base := []
  distinct := by decide
  named := by decide
  baseNamed := FileTree.named_nil

theorem ownText_understood : ∃ document, Toml.read? ownText = some document ∧ Tabular document ∧ Understood document ∧
    ∀ config, Settled document config → config.harness.timeoutSeconds = defaultTimeoutSeconds ∧
      config.harness.pollMilliseconds = 0 ∧ config.launcher.compiler = "sc" ∧
      config.launcher.context = .standalone := by
  obtain ⟨document, read⟩ : ∃ document, Toml.read? ownText = some document :=
    Option.isSome_iff_exists.1 (by decide +kernel)
  have names : (Toml.read? ownText).map (·.map (·.1)) = some ["launcher", "harness"] := by decide +kernel
  have harness : (Toml.read? ownText).map (fun document => (Toml.tableUnder "harness" document).map
      fun entry => (entry.1, entry.2.natural?)) = some [("poll_interval_ms", some 0)] := by decide +kernel
  have launcher : (Toml.read? ownText).map (fun document => (Toml.tableUnder "launcher" document).map
      fun entry => (entry.1, entry.2.context?)) = some [("context", some .standalone)] := by decide +kernel
  rw [read] at names harness launcher
  obtain ⟨⟨interval, amount⟩, ofHarness, shown⟩ := List.map_eq_singleton_iff.1 (Option.some.inj harness)
  obtain ⟨⟨context, spelling⟩, ofLauncher, told⟩ := List.map_eq_singleton_iff.1 (Option.some.inj launcher)
  obtain ⟨rfl, nothing⟩ := Prod.mk.inj shown
  obtain ⟨rfl, spelled⟩ := Prod.mk.inj told
  refine ⟨document, read, tabular_of_filled (by simp [sections, ofHarness, ofLauncher]), ⟨?_, ?_, ?_⟩, ?_⟩
  · intro entry listed
    have named : entry.1 ∈ document.map (·.1) := List.mem_map.2 ⟨entry, listed, rfl⟩
    rw [show document.map (·.1) = _ from Option.some.inj names] at named
    simpa [sections, or_comm] using named
  · rw [Fits, ofHarness]
    exact List.forall_mem_singleton.2 ⟨⟨_, Toml.natural?, HarnessSettings.pollMilliseconds⟩,
      by simp [HarnessSettings.keyed], rfl, Option.isSome_of_eq_some nothing⟩
  · rw [Fits, ofLauncher]
    exact List.forall_mem_singleton.2 ⟨⟨_, Toml.context?, LauncherSettings.context⟩,
      by simp [LauncherSettings.keyed], rfl, Option.isSome_of_eq_some spelled⟩
  · rintro config ⟨harness, launcher⟩
    simp only [HarnessSettings.keyed, LauncherSettings.keyed, List.forall_mem_cons, Field.Follows, ofHarness,
      ofLauncher, Entries.find?_cons] at harness launcher
    obtain ⟨-, standing, poll, -⟩ := harness
    obtain ⟨-, -, compiler, -, context, -⟩ := launcher
    exact ⟨standing, Option.some.inj (poll.symm.trans nothing), compiler, Option.some.inj (context.symm.trans spelled)⟩

theorem strangeText_strange :
    ∃ document, Toml.read? strangeText = some document ∧ Tabular document ∧ Strange document := by
  obtain ⟨document, read⟩ : ∃ document, Toml.read? strangeText = some document :=
    Option.isSome_iff_exists.1 (by decide +kernel)
  have harness : (Toml.read? strangeText).map (fun document => (Toml.tableUnder "harness" document).map (·.1)) =
      some ["timeout"] := by decide +kernel
  have launcher : (Toml.read? strangeText).map (fun document => (Toml.tableUnder "launcher" document).map (·.1)) =
      some ["sc"] := by decide +kernel
  rw [read] at harness launcher
  obtain ⟨unknown, ofHarness, named⟩ := List.map_eq_singleton_iff.1 (Option.some.inj harness)
  obtain ⟨compiler, ofLauncher, -⟩ := List.map_eq_singleton_iff.1 (Option.some.inj launcher)
  exact ⟨document, read, tabular_of_filled (by simp [sections, ofHarness, ofLauncher]),
    .inr (.inl ⟨unknown, ofHarness ▸ List.mem_cons_self, named ▸ by decide⟩)⟩

theorem load_settles_two_files :
    (∃ config, load twoFiles (some (.ofText "own.toml")) = .ok config ∧ config.launcher.context = .standalone ∧
      config.launcher.compiler = "sc" ∧ config.harness.waiter.timeout = 180 * Waiter.nanosecondsPerSecond ∧
      config.harness.waiter.poll = Waiter.nanosecondsPerMillisecond) ∧
    (∃ fault, load twoFiles none = .error (.refused (.ofText defaultConfigFile) fault)) ∧
    ∃ after, twoFiles.write (.ofText defaultConfigFile) [] = .ok after ∧
      load after (some (.ofText "own.toml")) = load twoFiles (some (.ofText "own.toml")) := by
  obtain ⟨files, -, written, unnamed, waits⟩ := load_settles
  refine ⟨?_, ?_, ?_⟩
  · have content : twoFiles.readText (.ofText "own.toml") = .ok ownText := FileTree.readText_of_read (by cbv)
    obtain ⟨document, read, tabular, understood, settles⟩ := ownText_understood
    obtain ⟨config, loaded, settled⟩ := (files _ _ _ _ content read tabular).1 understood
    obtain ⟨standing, nothing, compiler, context⟩ := settles config settled
    obtain ⟨timeout, poll⟩ := waits _ _ _ loaded
    refine ⟨config, loaded, context, compiler, ?_, ?_⟩
    · rw [timeout, standing]
      rfl
    · rw [poll, nothing]
      rfl
  · have content : twoFiles.readText (.ofText defaultConfigFile) = .ok strangeText :=
      FileTree.readText_of_read (by cbv)
    obtain ⟨document, read, tabular, strange⟩ := strangeText_strange
    have there : twoFiles.isFile (.ofText defaultConfigFile) = true := by cbv
    rw [unnamed, if_pos there]
    exact (files _ _ _ _ content read tabular).2 strange
  · have led : twoFiles.follow (.ofText defaultConfigFile) =
        .ok (.taken [.ofText defaultConfigFile] (.file (.ofText strangeText) false)) := by cbv
    have leads : twoFiles.follow (.ofText "own.toml") =
        .ok (.taken [.ofText "own.toml"] (.file (.ofText ownText) false)) := by cbv
    have named : (Path.ofText defaultConfigFile).endsWithSlash = false := by decide +kernel
    obtain ⟨after, done⟩ := FileTree.exists_write [] named led rfl
    exact ⟨after, done, written _ _ _ _ _ _ done led leads (by decide +kernel)⟩

end Config

end ScenarioBench
