/-! Finite maps from texts, listed in ascending order of their keys.

Texts are ordered by their code points, which is also the order of their UTF-8 forms. The order is
part of the type, so two dictionaries with the same look-ups are equal.
-/

set_option autoImplicit false

namespace ScenarioBench

def Ascending {α : Type} (entries : List (String × α)) : Prop :=
  entries.Pairwise fun first second => first.1 < second.1

namespace Entries

variable {α : Type}

def insert (key : String) (value : α) : List (String × α) → List (String × α)
  | [] => [(key, value)]
  | (other, held) :: rest =>
    if key < other then (key, value) :: (other, held) :: rest
    else if key = other then (key, value) :: rest
    else (other, held) :: insert key value rest

def find? (entries : List (String × α)) (key : String) : Option α :=
  entries.lookup key

theorem mem_insert {key : String} {value : α} {entries : List (String × α)} {entry : String × α}
    (h : entry ∈ insert key value entries) : entry = (key, value) ∨ entry ∈ entries := by
  induction entries with
  | nil => simpa [insert] using h
  | cons head rest ih =>
    obtain ⟨other, held⟩ := head
    simp only [insert] at h
    split at h
    · simpa using h
    · split at h
      · rcases List.mem_cons.1 h with h | h
        · exact .inl h
        · exact .inr (List.mem_cons_of_mem _ h)
      · rcases List.mem_cons.1 h with h | h
        · exact .inr (h ▸ List.mem_cons_self)
        · rcases ih h with h | h
          · exact .inl h
          · exact .inr (List.mem_cons_of_mem _ h)

theorem ascending_insert {key : String} {value : α} {entries : List (String × α)}
    (h : Ascending entries) : Ascending (insert key value entries) := by
  induction entries with
  | nil => simp [insert, Ascending]
  | cons head rest ih =>
    obtain ⟨other, held⟩ := head
    have below := (List.pairwise_cons.1 h).1
    have sorted := (List.pairwise_cons.1 h).2
    simp only [insert]
    split
    · rename_i less
      refine List.pairwise_cons.2 ⟨fun entry member => ?_, h⟩
      rcases List.mem_cons.1 member with rfl | member
      · exact less
      · exact String.lt_trans less (below entry member)
    · split
      · rename_i same
        subst same
        exact List.pairwise_cons.2 ⟨below, sorted⟩
      · rename_i notLess different
        refine List.pairwise_cons.2 ⟨fun entry member => ?_, ih sorted⟩
        rcases mem_insert member with rfl | member
        · by_cases greater : other < key
          · exact greater
          · exact absurd (String.le_antisymm (String.not_lt.1 greater) (String.not_lt.1 notLess))
              different
        · exact below entry member

@[simp] theorem find?_insert_self (entries : List (String × α)) (key : String) (value : α) :
    find? (insert key value entries) key = some value := by
  induction entries with
  | nil => simp [insert, find?]
  | cons head rest ih =>
    obtain ⟨other, held⟩ := head
    simp only [insert]
    split
    · simp [find?]
    · split
      · simp [find?]
      · rename_i different
        rw [find?, List.lookup_cons, beq_false_of_ne different]
        exact ih

theorem find?_insert_of_ne (entries : List (String × α)) {key other : String} (value : α)
    (different : other ≠ key) :
    find? (insert key value entries) other = find? entries other := by
  have missed : (other == key) = false := beq_false_of_ne different
  induction entries with
  | nil => simp [insert, find?, different]
  | cons head rest ih =>
    obtain ⟨next, held⟩ := head
    simp only [insert]
    split
    · rw [find?, List.lookup_cons, missed]
      rfl
    · split
      · rename_i same
        subst same
        rw [find?, find?, List.lookup_cons, List.lookup_cons, missed]
      · rw [find?, find?, List.lookup_cons, List.lookup_cons]
        unfold find? at ih
        rw [ih]

theorem find?_cons (rest : List (String × α)) (key other : String) (held : α) :
    find? ((other, held) :: rest) key = if key = other then some held else find? rest key := by
  by_cases same : key = other
  · subst same
    simp [find?]
  · have missed : (key == other) = false := beq_false_of_ne same
    simp [find?, List.lookup_cons, missed, same]

theorem find?_eq_none {entries : List (String × α)} {key : String} (fresh : key ∉ entries.map (·.1)) :
    find? entries key = none := by
  refine List.lookup_eq_none_iff.2 fun entry member => ?_
  simpa using fun same => fresh (List.mem_map.2 ⟨entry, member, same.symm⟩)

theorem find?_eq_some_iff_of_nodup {entries : List (String × α)} (different : (entries.map (·.1)).Nodup)
    {key : String} {value : α} : find? entries key = some value ↔ (key, value) ∈ entries := by
  induction entries with
  | nil => simp [find?]
  | cons head rest ih =>
    obtain ⟨other, held⟩ := head
    obtain ⟨fresh, later⟩ := List.nodup_cons.1 different
    rw [find?_cons]
    by_cases same : key = other
    · subst same
      have alone : (key, value) ∉ rest := fun member => fresh (List.mem_map.2 ⟨_, member, rfl⟩)
      simp [alone, eq_comm]
    · simp [same, ih later]

theorem nodup_keys {entries : List (String × α)} (ascending : Ascending entries) : (entries.map (·.1)).Nodup := by
  refine List.pairwise_map.2 (ascending.imp ?_)
  rintro first second less same
  exact String.lt_irrefl _ (same ▸ less)

theorem find?_eq_some_iff {entries : List (String × α)} (ascending : Ascending entries) {key : String} {value : α} :
    find? entries key = some value ↔ (key, value) ∈ entries :=
  find?_eq_some_iff_of_nodup (nodup_keys ascending)

/-- A search of the values of ascending entries ends under the least key where it finds something. -/
theorem findSome?_eq_some_iff {β : Type} {entries : List (String × α)} (ascending : Ascending entries)
    (search : α → Option β) {found : β} : entries.findSome? (fun entry => search entry.2) = some found ↔
      ∃ key, (find? entries key).bind search = some found ∧
        ∀ other, other < key → (find? entries other).bind search = none := by
  rw [List.findSome?_eq_some_iff]
  constructor
  · rintro ⟨before, ⟨key, value⟩, after, rfl, here, missed⟩
    have listed := (find?_eq_some_iff ascending).2 (List.mem_append_right before List.mem_cons_self)
    refine ⟨key, by rw [listed]; exact here, ?_⟩
    intro other less
    rcases held : find? _ other with _ | value
    · rfl
    · -- A smaller key stands before the entry, where nothing is found.
      rcases List.mem_append.1 ((find?_eq_some_iff ascending).1 held) with earlier | later
      · exact missed _ earlier
      · have behind := (List.pairwise_append.1 ascending).2.1
        rcases List.mem_cons.1 later with same | member
        · cases same
          exact absurd less (String.lt_irrefl _)
        · have greater := (List.pairwise_cons.1 behind).1 _ member
          exact absurd (String.lt_trans less greater) (String.lt_irrefl _)
  · rintro ⟨key, here, missed⟩
    obtain ⟨value, held, hit⟩ := Option.bind_eq_some_iff.1 here
    obtain ⟨before, after, rfl⟩ := List.append_of_mem ((find?_eq_some_iff ascending).1 held)
    refine ⟨before, (key, value), after, rfl, hit, ?_⟩
    rintro ⟨other, passed⟩ member
    have less := (List.pairwise_append.1 ascending).2.2 _ member _ List.mem_cons_self
    have nothing := missed other less
    rw [(find?_eq_some_iff ascending).2 (List.mem_append_left _ member)] at nothing
    exact nothing

end Entries

structure Dictionary (α : Type) where
  entries : List (String × α)
  ascending : Ascending entries

namespace Dictionary

variable {α : Type}

instance [DecidableEq α] : DecidableEq (Dictionary α) := fun first second =>
  match first, second with
  | ⟨entries, _⟩, ⟨others, _⟩ =>
    if h : entries = others then .isTrue (by subst h; rfl)
    else .isFalse fun same => h (congrArg Dictionary.entries same)

def empty : Dictionary α :=
  ⟨[], List.Pairwise.nil⟩

instance : Inhabited (Dictionary α) := ⟨empty⟩

def insert (map : Dictionary α) (key : String) (value : α) : Dictionary α :=
  ⟨Entries.insert key value map.entries, Entries.ascending_insert map.ascending⟩

def get? (map : Dictionary α) (key : String) : Option α :=
  Entries.find? map.entries key

/-- Put entries one after the other; the last value of a key stays. -/
def insertMany (map : Dictionary α) (entries : List (String × α)) : Dictionary α :=
  entries.foldl (fun map (key, value) => map.insert key value) map

def ofList (entries : List (String × α)) : Dictionary α :=
  empty.insertMany entries

def keys (map : Dictionary α) : List String :=
  map.entries.map (·.1)

section
variable {map : Dictionary α} {key : String} {value : α}

@[simp] theorem get?_empty (key : String) : (empty : Dictionary α).get? key = none :=
  rfl

@[simp] theorem mem_entries_iff : (key, value) ∈ map.entries ↔ map.get? key = some value :=
  (Entries.find?_eq_some_iff map.ascending).symm

@[simp] theorem get?_insert (map : Dictionary α) (key other : String) (value : α) :
    (map.insert key value).get? other = if other = key then some value else map.get? other := by
  by_cases same : other = key
  · subst same
    rw [if_pos rfl]
    exact Entries.find?_insert_self _ _ _
  · rw [if_neg same]
    exact Entries.find?_insert_of_ne _ _ same

theorem get?_insertMany (map : Dictionary α) (entries : List (String × α)) (key : String) :
    (map.insertMany entries).get? key = (entries.reverse.lookup key).or (map.get? key) := by
  unfold insertMany
  induction entries generalizing map with
  | nil => rfl
  | cons entry rest ih =>
    have single : [entry].lookup key = if key = entry.1 then some entry.2 else none :=
      Entries.find?_cons [] key entry.1 entry.2
    rw [List.foldl_cons, ih, List.reverse_cons, List.lookup_append, Option.or_assoc, get?_insert, single]
    by_cases same : key = entry.1 <;> simp [same]

theorem mem_of_mem_ofList {entries : List (String × α)} {entry : String × α}
    (member : entry ∈ (ofList entries).entries) : entry ∈ entries := by
  have held := mem_entries_iff.1 member
  rw [ofList, get?_insertMany, get?_empty, Option.or_none, List.lookup_eq_some_iff] at held
  obtain ⟨after, before, split, -⟩ := held
  rw [← List.mem_reverse, split]
  exact List.mem_append_right after List.mem_cons_self

theorem eq_of_entries {first second : Dictionary α} (same : first.entries = second.entries) :
    first = second := by
  cases first
  cases second
  cases same
  rfl

theorem eq_of_get? {first second : Dictionary α} (same : ∀ key, first.get? key = second.get? key) :
    first = second := by
  have distinct (map : Dictionary α) : map.entries.Nodup :=
    List.Pairwise.of_map Prod.fst (fun _ _ different equal => different (congrArg Prod.fst equal))
      (Entries.nodup_keys map.ascending)
  refine eq_of_entries (List.Perm.eq_of_pairwise ?_ first.ascending second.ascending ?_)
  · intro entry other _ _ less greater
    exact absurd (String.lt_trans less greater) (String.lt_irrefl _)
  · refine (List.perm_ext_iff_of_nodup (distinct first) (distinct second)).2 fun (key, value) => ?_
    rw [mem_entries_iff, mem_entries_iff, same]

theorem get?_insertMany_of_nodup {map : Dictionary α} {entries : List (String × α)}
    (different : (entries.map (·.1)).Nodup) : (map.insertMany entries).get? key = some value ↔
      (key, value) ∈ entries ∨ key ∉ entries.map (·.1) ∧ map.get? key = some value := by
  unfold insertMany
  induction entries generalizing map with
  | nil => simp
  | cons entry rest ih =>
    obtain ⟨other, held⟩ := entry
    obtain ⟨fresh, later⟩ := List.nodup_cons.1 different
    have alone : ∀ value, (other, value) ∉ rest := fun value member =>
      fresh (List.mem_map.2 ⟨_, member, rfl⟩)
    rw [List.foldl_cons, ih later, get?_insert]
    by_cases same : key = other
    · subst same
      simp [alone, fresh, eq_comm]
    · simp [same]

@[simp] theorem ofList_entries (map : Dictionary α) : ofList map.entries = map := by
  refine eq_of_get? fun key => Option.ext fun value => ?_
  rw [ofList, get?_insertMany_of_nodup (Entries.nodup_keys map.ascending), get?_empty, mem_entries_iff]
  simp

end

end Dictionary

end ScenarioBench
