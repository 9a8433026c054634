import ScenarioBench.Launch.ServiceBinding
import ScenarioBench.Proofs.OctetOrder

/-! The entry of a service among those that are bound.

Services are listed by their kinds, and the kinds are searched in ascending order. Main statement: the first entry with
the name of a service decides what its binding is, whether there are credentials in it or not; entries with other names
do not matter, so that no other service is ever answered for.
-/

set_option autoImplicit false

namespace ScenarioBench.ServiceBinding

def standing (document : Json) (kind : String) : List Json :=
  ((document.member? kind).bind Json.items?).getD []

inductive Named (name : String) : Json → Prop where
  | intro {members : List (String × Json)} : ("name", .string name) ∈ members → Named name (.object members)

/-- The first entry of a name: those before it stand under smaller kinds or under the same one. -/
structure FirstNamed (document : Json) (name kind : String) (number : Nat) (entry : Json) : Prop where
  stands : (standing document kind)[number]? = some entry
  named : Named name entry
  first : ∀ earlier other, earlier < number → (standing document kind)[earlier]? = some other → ¬ Named name other
  least : ∀ before, Octets.ofText before < Octets.ofText kind → ∀ other ∈ standing document before, ¬ Named name other

structure Describes (members : List (String × Json)) (binding : ServiceBinding) : Prop where
  apiKey : Json.Reads (Entries.find? members "apikey") binding.apiKey
  address2 : Json.Reads (Entries.find? members "v2_rest_url") binding.address2
  address : Json.Reads (Entries.find? members "rest_url") binding.address
  user : Json.Reads (Entries.find? members "userid") binding.user
  password : Json.Reads (Entries.find? members "password") binding.password

def Decodes (value : Json) (binding : ServiceBinding) : Prop :=
  ∃ members, Json.Record fields value members ∧ Describes members binding

/-- What is answered for a service. -/
inductive Answers (document : Json) (name : String) : Except LaunchError ServiceBinding → Prop where
  | unknown : (∀ kind, ∀ entry ∈ standing document kind, ¬ Named name entry) →
      Answers document name (.error (.credentials (.unknownService name)))
  | bare {kind : String} {number : Nat} {members : List (String × Json)} :
      FirstNamed document name kind number (.object members) → (∀ value, ("credentials", value) ∉ members) →
      Answers document name (.error (.credentials (.noCredentials name)))
  | decoded {kind : String} {number : Nat} {members : List (String × Json)} {value : Json} {binding : ServiceBinding} :
      FirstNamed document name kind number (.object members) → ("credentials", value) ∈ members →
      Decodes value binding → Answers document name (.ok binding)
  | unreadable {kind : String} {number : Nat} {members : List (String × Json)} {value : Json} {fault : Json.Fault} :
      FirstNamed document name kind number (.object members) → ("credentials", value) ∈ members →
      (∀ binding, ¬ Decodes value binding) → ofJson value = .error fault →
      Answers document name (.error (.json fault))

section
variable {name kind : String} {number : Nat} {document entry : Json}

theorem ordered_of_standing (ordered : document.Ordered) (stands : entry ∈ standing document kind) :
    entry.Ordered := by
  unfold standing at stands
  rcases held : document.member? kind with _ | value
  · rw [held] at stands
    cases stands
  · cases ordered with
    | null | bool | number | string | array => cases held
    | object ascending each =>
      have inside := each _ ((Entries.find?_eq_some_iff ascending).1 held)
      rw [held] at stands
      cases inside with
      | null | bool | number | string | object => cases stands
      | array items => exact items entry stands

theorem isNamed_iff (ordered : entry.Ordered) : isNamed name entry = true ↔ Named name entry := by
  unfold isNamed
  rw [decide_eq_true_iff, Option.bind_eq_some_iff]
  constructor
  · rintro ⟨value, held, text⟩
    cases ordered with
    | null | bool | number | string | array => cases held
    | object ascending =>
      cases value <;> cases text
      exact .intro ((Entries.find?_eq_some_iff ascending).1 held)
  · rintro ⟨member⟩
    cases ordered with
    | object ascending => exact ⟨_, (Entries.find?_eq_some_iff ascending).2 member, rfl⟩

theorem find?_standing (test : Json → Bool) : (standing document kind).find? test =
    (document.member? kind).bind fun value => (value.items?.getD []).find? test := by
  unfold standing
  rcases document.member? kind with _ | value
  · rfl
  · rfl

/-- The search ends under the least kind of which an entry has the name. -/
theorem find?_entries_eq_some_iff (ordered : document.Ordered) :
    (entries document).find? (isNamed name) = some entry ↔
      ∃ kind, (standing document kind).find? (isNamed name) = some entry ∧
        ∀ other, other < kind → (standing document other).find? (isNamed name) = none := by
  simp only [find?_standing]
  unfold entries
  rw [List.find?_flatMap]
  cases ordered with
  | null | bool | number | string | array => simp [Json.members?, Json.member?]
  | object ascending => exact Entries.findSome?_eq_some_iff ascending fun value => (value.items?.getD []).find? _

theorem find?_standing_eq_none_iff (ordered : document.Ordered) : (standing document kind).find? (isNamed name) = none ↔
    ∀ other ∈ standing document kind, ¬ Named name other := by
  rw [List.find?_eq_none]
  refine forall₂_congr fun other stands => ?_
  rw [isNamed_iff (ordered_of_standing ordered stands)]

theorem find?_standing_eq_some_iff (ordered : document.Ordered) :
    (standing document kind).find? (isNamed name) = some entry ↔ Named name entry ∧ ∃ number : Nat,
      (standing document kind)[number]? = some entry ∧
      ∀ (earlier : Nat) other, earlier < number → (standing document kind)[earlier]? = some other → ¬ Named name other := by
  have listed {number : Nat} (inside : number < (standing document kind).length) :
      isNamed name (standing document kind)[number] = true ↔ Named name (standing document kind)[number] :=
    isNamed_iff (ordered_of_standing ordered (List.getElem_mem inside))
  rw [List.find?_eq_some_iff_getElem]
  constructor
  · rintro ⟨named, number, inside, rfl, unnamed⟩
    refine ⟨(listed inside).1 named, number, List.getElem?_eq_getElem inside, ?_⟩
    intro earlier other less stands
    obtain ⟨within, rfl⟩ := List.getElem?_eq_some_iff.1 stands
    rw [← listed within]
    simpa using unnamed earlier less
  · rintro ⟨named, number, stands, first⟩
    obtain ⟨inside, rfl⟩ := List.getElem?_eq_some_iff.1 stands
    refine ⟨(listed inside).2 named, number, inside, rfl, ?_⟩
    intro earlier less
    have within := Nat.lt_trans less inside
    have unnamed := first earlier _ less (List.getElem?_eq_getElem within)
    rw [← listed within] at unnamed
    simpa using unnamed

theorem find?_entries_eq_some_iff_first (ordered : document.Ordered) :
    (entries document).find? (isNamed name) = some entry ↔
      ∃ kind number, FirstNamed document name kind number entry := by
  rw [find?_entries_eq_some_iff ordered]
  constructor
  · rintro ⟨kind, found, missed⟩
    obtain ⟨named, number, stands, first⟩ := (find?_standing_eq_some_iff ordered).1 found
    refine ⟨kind, number, stands, named, first, fun before less => ?_⟩
    exact (find?_standing_eq_none_iff ordered).1 (missed before (Octets.ofText_lt_iff.1 less))
  · rintro ⟨kind, number, stands, named, first, least⟩
    refine ⟨kind, (find?_standing_eq_some_iff ordered).2 ⟨named, number, stands, first⟩, fun before less => ?_⟩
    exact (find?_standing_eq_none_iff ordered).2 (least before (Octets.ofText_lt_iff.2 less))

theorem mem_entries_iff (ordered : document.Ordered) :
    entry ∈ entries document ↔ ∃ kind, entry ∈ standing document kind := by
  unfold entries
  rw [List.mem_flatMap]
  cases ordered with
  | null | bool | number | string | array => simp [Json.members?, standing, Json.member?]
  | object ascending =>
    constructor
    · rintro ⟨⟨kind, value⟩, member, inside⟩
      have held : (Json.object _).member? kind = some value := (Entries.find?_eq_some_iff ascending).2 member
      refine ⟨kind, ?_⟩
      rw [standing, held]
      exact inside
    · rintro ⟨kind, stands⟩
      unfold standing at stands
      rcases held : (Json.object _).member? kind with _ | value
      · rw [held] at stands
        cases stands
      · rw [held] at stands
        exact ⟨(kind, value), (Entries.find?_eq_some_iff ascending).1 held, stands⟩

theorem find?_entries_eq_none_iff (ordered : document.Ordered) :
    (entries document).find? (isNamed name) = none ↔ ∀ kind, ∀ entry ∈ standing document kind, ¬ Named name entry := by
  rw [List.find?_eq_none]
  constructor
  · intro unnamed kind entry stands
    rw [← isNamed_iff (ordered_of_standing ordered stands)]
    exact unnamed entry ((mem_entries_iff ordered).2 ⟨kind, stands⟩)
  · intro unnamed entry listed
    obtain ⟨kind, stands⟩ := (mem_entries_iff ordered).1 listed
    rw [isNamed_iff (ordered_of_standing ordered stands)]
    exact unnamed kind entry stands

end

section
variable {value : Json} {members : List (String × Json)} {binding : ServiceBinding}

def ofTexts (texts : List (String × String)) : ServiceBinding :=
  { apiKey := Entries.find? texts "apikey", address2 := Entries.find? texts "v2_rest_url"
    address := Entries.find? texts "rest_url", user := Entries.find? texts "userid"
    password := Entries.find? texts "password" }

theorem ofJson_eq (value : Json) :
    ofJson value = (Json.recordStrings "struct ServiceCredentials" fields value).map ofTexts := by
  unfold ofJson
  cases Json.recordStrings "struct ServiceCredentials" fields value <;> rfl

theorem describes_ofTexts {texts : List (String × String)}
    (each : ∀ field ∈ fields, Json.Reads (Entries.find? members field) (Entries.find? texts field)) :
    Describes members (ofTexts texts) :=
  ⟨each _ (by decide), each _ (by decide), each _ (by decide), each _ (by decide), each _ (by decide)⟩

theorem Describes.reads (describes : Describes members binding) :
    ∀ field ∈ fields, ∃ text, Json.Reads (Entries.find? members field) text := by
  obtain ⟨apiKey, address2, address, user, password⟩ := describes
  simp only [fields, List.forall_mem_cons]
  exact ⟨⟨_, apiKey⟩, ⟨_, address2⟩, ⟨_, address⟩, ⟨_, user⟩, ⟨_, password⟩, nofun⟩

theorem Describes.unique {other : ServiceBinding} (describes : Describes members binding)
    (describesOther : Describes members other) : binding = other := by
  cases binding
  cases other
  rw [mk.injEq]
  exact ⟨describes.apiKey.unique describesOther.apiKey, describes.address2.unique describesOther.address2,
    describes.address.unique describesOther.address, describes.user.unique describesOther.user,
    describes.password.unique describesOther.password⟩

theorem ofJson_eq_ok_iff (ordered : value.Ordered) : ofJson value = .ok binding ↔ Decodes value binding := by
  have different {members : List (String × Json)} (record : Json.Record fields value members) :
      (members.map (·.1)).Nodup := record.nodup (by decide) ordered
  rw [ofJson_eq]
  constructor
  · intro read
    obtain ⟨texts, taken, rfl⟩ := exists_of_map_ok read
    obtain ⟨members, record, got⟩ := Json.record_of_recordStrings taken
    exact ⟨members, record, describes_ofTexts fun _ known => Json.reads_of_memberStrings (different record) got known⟩
  · rintro ⟨members, record, describes⟩
    obtain ⟨texts, taken, each⟩ := Json.recordStrings_of_reads record (different record) describes.reads
    rw [taken, describes.unique (describes_ofTexts each)]
    rfl

end

section
variable {document : Json} {name kind : String} {number : Nat} {members : List (String × Json)} {value : Json}

theorem FirstNamed.ordered (first : FirstNamed document name kind number (.object members))
    (ordered : document.Ordered) : Ascending members ∧ ∀ member ∈ members, member.2.Ordered := by
  cases ordered_of_standing ordered (List.mem_of_getElem? first.stands) with
  | object ascending each => exact ⟨ascending, each⟩

theorem FirstNamed.ofDocument_of_mem (first : FirstNamed document name kind number (.object members))
    (ordered : document.Ordered) (member : ("credentials", value) ∈ members) :
    ofDocument document name = (ofJson value).mapError .json := by
  have held : (Json.object members).member? "credentials" = some value :=
    (Entries.find?_eq_some_iff (first.ordered ordered).1).2 member
  rw [ofDocument, (find?_entries_eq_some_iff_first ordered).2 ⟨kind, number, first⟩]
  dsimp only
  rw [held]

theorem FirstNamed.ofDocument_of_bare (first : FirstNamed document name kind number (.object members))
    (ordered : document.Ordered) (bare : ∀ value, ("credentials", value) ∉ members) :
    ofDocument document name = .error (.credentials (.noCredentials name)) := by
  have missing : (Json.object members).member? "credentials" = none := by
    refine Option.eq_none_iff_forall_ne_some.2 fun value held => bare value ?_
    exact (Entries.find?_eq_some_iff (first.ordered ordered).1).1 held
  rw [ofDocument, (find?_entries_eq_some_iff_first ordered).2 ⟨kind, number, first⟩]
  dsimp only
  rw [missing]

theorem FirstNamed.answers (first : FirstNamed document name kind number (.object members))
    (ordered : document.Ordered) : Answers document name (ofDocument document name) := by
  by_cases held : ∃ value, ("credentials", value) ∈ members
  · obtain ⟨value, member⟩ := held
    have decodes (binding : ServiceBinding) : ofJson value = .ok binding ↔ Decodes value binding :=
      ofJson_eq_ok_iff ((first.ordered ordered).2 _ member)
    rw [first.ofDocument_of_mem ordered member]
    rcases read : ofJson value with fault | binding
    · refine .unreadable first member (fun binding described => ?_) read
      rw [(decodes binding).2 described] at read
      cases read
    · exact .decoded first member ((decodes binding).1 read)
  · have bare : ∀ value, ("credentials", value) ∉ members := fun value member => held ⟨value, member⟩
    rw [first.ofDocument_of_bare ordered bare]
    exact .bare first bare

theorem ofDocument_eq_iff (ordered : document.Ordered) {result : Except LaunchError ServiceBinding} :
    ofDocument document name = result ↔ Answers document name result := by
  constructor
  · rintro rfl
    rcases found : (entries document).find? (isNamed name) with _ | entry
    · rw [ofDocument, found]
      exact .unknown ((find?_entries_eq_none_iff ordered).1 found)
    · obtain ⟨kind, number, first⟩ := (find?_entries_eq_some_iff_first ordered).1 found
      cases first.named with
      | intro => exact first.answers ordered
  · intro answers
    cases answers with
    | unknown unnamed => rw [ofDocument, (find?_entries_eq_none_iff ordered).2 unnamed]
    | bare first bare => exact first.ofDocument_of_bare ordered bare
    | decoded first member described =>
      rw [first.ofDocument_of_mem ordered member,
        (ofJson_eq_ok_iff ((first.ordered ordered).2 _ member)).2 described]
      rfl
    | unreadable first member undescribed read =>
      rw [first.ofDocument_of_mem ordered member, read]
      rfl

end

section
variable {first second : Json} {name : String}

theorem ofDocument_congr (ordered : first.Ordered) (orderedSecond : second.Ordered)
    (same : ∀ kind, (standing first kind).filter (isNamed name) = (standing second kind).filter (isNamed name)) :
    ofDocument first name = ofDocument second name := by
  -- The first entries of a name are all that the search can end with.
  have searches : (entries first).find? (isNamed name) = (entries second).find? (isNamed name) := by
    refine Option.ext fun entry => ?_
    rw [find?_entries_eq_some_iff ordered, find?_entries_eq_some_iff orderedSecond]
    simp only [← List.head?_filter, same]
  rw [ofDocument, ofDocument, searches]

theorem standing_sorted {members : List (String × Json)} (different : (members.map (·.1)).Nodup) (kind : String) :
    standing (Json.object members).sorted kind = (standing (.object members) kind).map Json.sorted := by
  unfold standing
  -- Of kinds that are listed twice only the last would be read.
  rw [Json.member?_sorted different]
  rcases (Json.object members).member? kind with _ | value
  · rfl
  · rw [Option.map_some, Option.bind_some, Option.bind_some, Json.items?_sorted]
    cases value.items? <;> rfl

end

def ownWritten (name : String) (members : List (String × Json)) (kind : String) : List Json :=
  (standing (.object members) kind).filter fun entry => isNamed name entry.sorted

theorem filter_standing_sorted {members : List (String × Json)} (different : (members.map (·.1)).Nodup)
    (name kind : String) : (standing (Json.object members).sorted kind).filter (isNamed name) =
      (ownWritten name members kind).map Json.sorted := by
  rw [standing_sorted different, List.filter_map]
  rfl

/-- The binding of a service is decided by the first entry of its name, and entries with other names do not matter. -/
theorem services_found_by_name (name : String) :
    (∀ text, Json.read? text = none → ofText text name = .error (.json .malformed)) ∧
    (∀ text document, Json.read? text = some document →
      ∀ result, ofText text name = result ↔ Answers document name result) ∧
    (∀ text document other changed, Json.read? text = some document → Json.read? other = some changed →
      (∀ kind, (standing document kind).filter (isNamed name) = (standing changed kind).filter (isNamed name)) →
      ofText text name = ofText other name) ∧
    (∀ text members other changed, Json.readWritten? text = some (.object members) →
      Json.readWritten? other = some (.object changed) → (members.map (·.1)).Nodup → (changed.map (·.1)).Nodup →
      (∀ kind, ownWritten name members kind = ownWritten name changed kind) → ofText text name = ofText other name) := by
  have read {text : String} {document : Json} (parsed : Json.read? text = some document) :
      ofText text name = ofDocument document name := by
    rw [ofText, parsed]
  have alike {text other : String} {document changed : Json} (first : Json.read? text = some document)
      (second : Json.read? other = some changed)
      (same : ∀ kind, (standing document kind).filter (isNamed name) = (standing changed kind).filter (isNamed name)) :
      ofText text name = ofText other name := by
    rw [read first, read second]
    exact ofDocument_congr (Json.ordered_of_read first) (Json.ordered_of_read second) same
  refine ⟨?_, ?_, fun _ _ _ _ first second same => alike first second same, ?_⟩
  · intro text unread
    rw [ofText, unread]
  · intro text document parsed result
    rw [read parsed]
    exact ofDocument_eq_iff (Json.ordered_of_read parsed)
  · intro text members other changed first second different differentChanged same
    refine alike (congrArg (Option.map Json.sorted) first) (congrArg (Option.map Json.sorted) second) fun kind => ?_
    rw [filter_standing_sorted different, filter_standing_sorted differentChanged, same]

def userEntry : Json :=
  .object [("name", .string "sa"), ("credentials", .object [("userid", .string "u")])]

/-- Services of three kinds, among them two of one name. -/
def crowdedServices : List (String × Json) :=
  [("z", .array [.object [("name", .string "sa")]]),
    ("a", .array [.number (.natural 7), .object [("name", .number (.natural 3))], userEntry]), ("b", .null)]

def alteredServices : List (String × Json) :=
  [("a", .array [userEntry, .object [("name", .string "other")]]), ("z", .array [.object [("name", .string "sa")]])]

theorem services_found_by_name_crowded :
    Answers (Json.object crowdedServices).sorted "sa" (.ok { ofTexts [] with user := some "u" }) ∧
      ofText (Json.object crowdedServices).compact "sa" = ofText (Json.object alteredServices).compact "sa" := by
  have crowded : Json.readWritten? (Json.object crowdedServices).compact = some (.object crowdedServices) := by
    decide +kernel
  have altered : Json.readWritten? (Json.object alteredServices).compact = some (.object alteredServices) := by
    decide +kernel
  obtain ⟨-, found, -, unmoved⟩ := services_found_by_name "sa"
  constructor
  · refine (found _ _ (congrArg (Option.map Json.sorted) crowded) _).1 ?_
    exact ok_of_toOption (by decide +kernel)
  · refine unmoved _ _ _ _ crowded altered (by decide) (by decide) fun kind => ?_
    by_cases first : kind = "a"
    · subst first
      decide +kernel
    by_cases last : kind = "z"
    · subst last
      decide +kernel
    by_cases idle : kind = "b"
    · subst idle
      decide +kernel
    · have missing : (Json.object crowdedServices).member? kind = none :=
        Entries.find?_eq_none (by simp [crowdedServices, first, last, idle])
      have missingLater : (Json.object alteredServices).member? kind = none :=
        Entries.find?_eq_none (by simp [alteredServices, first, last])
      rw [ownWritten, ownWritten, standing, standing, missing, missingLater]

end ScenarioBench.ServiceBinding
