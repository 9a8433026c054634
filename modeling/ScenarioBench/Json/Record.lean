import ScenarioBench.Data.Results
import ScenarioBench.Json.Fault
import ScenarioBench.Json.Reader

/-! Records in JSON documents.

A record is an object whose members are its fields, or an array that holds the fields in their
order. Members of an object that are no fields do not matter.
-/

set_option autoImplicit false

namespace ScenarioBench.Json

/-- The only field of a record, under the one of its names that is used. -/
def onlyField? (names : List String) : Json → Option Json
  | object members =>
    match members.filter fun member => names.contains member.1 with
    | [(_, value)] => some value
    | _ => none
  | array [value] => some value
  | _ => none

def takeOptionalStrings (expected : String) (index : Nat) :
    List String → List Json → Except Fault (List (String × String) × List Json)
  | [], rest => .ok ([], rest)
  -- An array has to tell every field, an object need not.
  | _ :: _, [] => .error (.wrongLength index expected)
  | field :: fields, item :: rest => do
    let value ← expectOptionalString item
    let (others, left) ← takeOptionalStrings expected (index + 1) fields rest
    return ((value.map fun value => (field, value)).toList ++ others, left)

def memberStrings (fields : List String) :
    List (String × Json) → Except Fault (List (String × String))
  | [] => .ok []
  | (name, value) :: rest =>
    if fields.contains name then do
      let value ← expectOptionalString value
      return (value.map fun value => (name, value)).toList ++ (← memberStrings fields rest)
    else memberStrings fields rest

/-- The texts that a record has under its fields; `kind` names the record in complaints. -/
def recordStrings (kind : String) (fields : List String) :
    Json → Except Fault (List (String × String))
  | object members => memberStrings fields members
  | array items => do
    let expected := kind ++ " with " ++ toString fields.length ++ " elements"
    let (values, left) ← takeOptionalStrings expected 0 fields items
    if left.isEmpty then return values
    else throw (.wrongLength items.length "fewer elements in array")
  | other => .error (.wrongKind other kind)

inductive Reads : Option Json → Option String → Prop where
  | absent : Reads none none
  | null : Reads (some .null) none
  | text (text : String) : Reads (some (.string text)) (some text)

inductive Record (fields : List String) : Json → List (String × Json) → Prop where
  | object {members : List (String × Json)} : Record fields (.object members) members
  | array {items : List Json} : items.length = fields.length → Record fields (.array items) (fields.zip items)

section
variable {fields : List String} {members : List (String × Json)} {texts : List (String × String)}

theorem Reads.unique {value : Option Json} {first second : Option String} (reads : Reads value first)
    (other : Reads value second) : first = second := by
  cases reads <;> cases other <;> rfl

theorem reads_iff {value : Json} {text : Option String} :
    Reads (some value) text ↔ expectOptionalString value = .ok text := by
  constructor
  · intro reads
    cases reads <;> rfl
  · intro read
    cases value with
    | null =>
      cases read
      exact .null
    | string text =>
      cases read
      exact .text text
    | bool | number | array | object => cases read

theorem memberStrings_cons_ok (name : String) {value : Json} {text : Option String} (known : name ∈ fields)
    (reads : Reads (some value) text) : memberStrings fields ((name, value) :: members) =
      (memberStrings fields members).map fun others => (text.map fun text => (name, text)).toList ++ others := by
  rw [memberStrings, if_pos (List.contains_iff_mem.2 known), reads_iff.1 reads]
  cases memberStrings fields members <;> rfl

theorem reads_of_memberStrings (different : (members.map (·.1)).Nodup)
    (read : memberStrings fields members = .ok texts) {field : String} (known : field ∈ fields) :
    Reads (Entries.find? members field) (Entries.find? texts field) := by
  induction members generalizing texts with
  | nil =>
    cases read
    exact .absent
  | cons member rest ih =>
    obtain ⟨name, value⟩ := member
    obtain ⟨fresh, later⟩ := List.nodup_cons.1 different
    rw [Entries.find?_cons]
    by_cases asked : name ∈ fields
    · rcases got : expectOptionalString value with fault | text
      · rw [memberStrings, if_pos (List.contains_iff_mem.2 asked), got] at read
        cases read
      · have reads := reads_iff.2 got
        rw [memberStrings_cons_ok name asked reads] at read
        obtain ⟨others, behind, rfl⟩ := exists_of_map_ok read
        have tail := ih later behind
        by_cases same : field = name
        · -- No other member has the name, so that the texts behind are without it.
          subst same
          rw [Entries.find?_eq_none fresh] at tail
          have silent : Entries.find? others field = none := tail.unique .absent
          rw [if_pos rfl]
          cases text with
          | none =>
            show Reads (some value) (Entries.find? others field)
            rwa [silent]
          | some text => simpa [Entries.find?_cons] using reads
        · rw [if_neg same]
          cases text with
          | none => exact tail
          | some text => simpa [Entries.find?_cons, same] using tail
    · have other : field ≠ name := fun same => asked (same ▸ known)
      rw [memberStrings, if_neg fun asks => asked (List.contains_iff_mem.1 asks)] at read
      rw [if_neg other]
      exact ih later read

theorem exists_memberStrings (different : (members.map (·.1)).Nodup)
    (reads : ∀ field ∈ fields, ∃ text, Reads (Entries.find? members field) text) :
    ∃ texts, memberStrings fields members = .ok texts := by
  induction members with
  | nil => exact ⟨[], rfl⟩
  | cons member rest ih =>
    obtain ⟨name, value⟩ := member
    obtain ⟨fresh, later⟩ := List.nodup_cons.1 different
    have tail : ∀ field ∈ fields, ∃ text, Reads (Entries.find? rest field) text := by
      intro field known
      have whole := reads field known
      rw [Entries.find?_cons] at whole
      by_cases same : field = name
      · subst same
        rw [Entries.find?_eq_none fresh]
        exact ⟨none, .absent⟩
      · rwa [if_neg same] at whole
    obtain ⟨others, behind⟩ := ih later tail
    by_cases asked : name ∈ fields
    · obtain ⟨text, head⟩ := reads name asked
      rw [Entries.find?_cons, if_pos rfl] at head
      exact ⟨_, by rw [memberStrings_cons_ok name asked head, behind]; rfl⟩
    · exact ⟨others, by rw [memberStrings, if_neg fun asks => asked (List.contains_iff_mem.1 asks), behind]⟩

theorem takeOptionalStrings_eq (expected : String) {own : List String} (known : ∀ field ∈ own, field ∈ fields)
    (index : Nat) {items : List Json} (enough : own.length ≤ items.length) :
    takeOptionalStrings expected index own items =
      (memberStrings fields (own.zip items)).map fun texts => (texts, items.drop own.length) := by
  induction own generalizing index items with
  | nil => rfl
  | cons field rest ih =>
    obtain ⟨asked, others⟩ := List.forall_mem_cons.1 known
    cases items with
    | nil => cases enough
    | cons item behind =>
      have left := ih others (index + 1) (Nat.le_of_succ_le_succ enough)
      rw [takeOptionalStrings, List.zip_cons_cons, left]
      rcases got : expectOptionalString item with fault | text
      · rw [memberStrings, if_pos (List.contains_iff_mem.2 asked), got]
        rfl
      · rw [memberStrings_cons_ok field asked (reads_iff.2 got)]
        cases memberStrings fields (rest.zip behind) <;> rfl

theorem takeOptionalStrings_short (expected : String) (index : Nat) {items : List Json}
    (short : items.length < fields.length) :
    ∃ fault, takeOptionalStrings expected index fields items = .error fault := by
  induction fields generalizing index items with
  | nil => cases short
  | cons field rest ih =>
    cases items with
    | nil => exact ⟨_, rfl⟩
    | cons item behind =>
      rw [takeOptionalStrings]
      rcases got : expectOptionalString item with fault | text
      · exact ⟨fault, rfl⟩
      · obtain ⟨fault, left⟩ := ih (index + 1) (Nat.lt_of_succ_lt_succ short)
        exact ⟨fault, by rw [left]; rfl⟩

variable {kind : String} {items : List Json}

theorem recordStrings_array (whole : items.length = fields.length) :
    recordStrings kind fields (.array items) = memberStrings fields (fields.zip items) := by
  have all : items.drop fields.length = [] := List.drop_eq_nil_of_le (Nat.le_of_eq whole)
  rw [recordStrings, takeOptionalStrings_eq _ (fun _ known => known) 0 (Nat.le_of_eq whole.symm), all]
  cases memberStrings fields (fields.zip items) <;> rfl

theorem recordStrings_array_of_ne (other : items.length ≠ fields.length) :
    ∃ fault, recordStrings kind fields (.array items) = .error fault := by
  rw [recordStrings]
  rcases Nat.lt_or_gt_of_ne other with short | long
  · obtain ⟨fault, failed⟩ := takeOptionalStrings_short _ 0 short
    exact ⟨fault, by rw [failed]; rfl⟩
  · have left : (items.drop fields.length).isEmpty = false := by
      rw [List.isEmpty_eq_false_iff, ne_eq, List.drop_eq_nil_iff]
      omega
    rw [takeOptionalStrings_eq _ (fun _ known => known) 0 (Nat.le_of_lt long)]
    cases memberStrings fields (fields.zip items) with
    | error fault => exact ⟨fault, rfl⟩
    | ok texts => exact ⟨_, by simp only [Except.map, bind, Except.bind, left]; rfl⟩

variable {value : Json}

/-- A record is read if it is written as one and each of its fields is a text or nothing. -/
theorem recordStrings_of_reads (record : Record fields value members) (different : (members.map (·.1)).Nodup)
    (reads : ∀ field ∈ fields, ∃ text, Reads (Entries.find? members field) text) :
    ∃ texts, recordStrings kind fields value = .ok texts ∧
      ∀ field ∈ fields, Reads (Entries.find? members field) (Entries.find? texts field) := by
  obtain ⟨texts, read⟩ := exists_memberStrings different reads
  refine ⟨texts, ?_, fun _ known => reads_of_memberStrings different read known⟩
  cases record with
  | object => exact read
  | array whole => rw [recordStrings_array whole, read]

theorem record_of_recordStrings (read : recordStrings kind fields value = .ok texts) :
    ∃ members, Record fields value members ∧ memberStrings fields members = .ok texts := by
  cases value with
  | null | bool | number | string => cases read
  | object members => exact ⟨members, .object, read⟩
  | array items =>
    by_cases whole : items.length = fields.length
    · exact ⟨_, .array whole, recordStrings_array whole ▸ read⟩
    · obtain ⟨fault, failed⟩ := recordStrings_array_of_ne whole
      rw [failed] at read
      cases read

theorem Record.nodup (record : Record fields value members) (different : fields.Nodup) (ordered : value.Ordered) :
    (members.map (·.1)).Nodup := by
  cases record with
  | object =>
    cases ordered with
    | object ascending => exact Entries.nodup_keys ascending
  | array whole =>
    rw [← List.unzip_fst, List.unzip_zip whole.symm]
    exact different

end

end ScenarioBench.Json
