import ScenarioBench.Data.Dictionary
import ScenarioBench.Toml.Reader

/-! The keys of the tables of a document.

A document may mention a table many times, in headers, in dotted keys and inline, but what is made of it names each key
of each table once: while it is read, an entry is added only under a key that has none, and every other change leaves
the keys as they are. Main statement: every document that is read has this form.
-/

set_option autoImplicit false

namespace ScenarioBench.Toml

inductive Keyed : Toml → Prop where
  | string (value : String) : Keyed (.string value)
  | integer (value : Int) : Keyed (.integer value)
  | real (value : Binary64) : Keyed (.real value)
  | bool (value : Bool) : Keyed (.bool value)
  | moment : Keyed .moment
  | array {items : List Toml} : (∀ item ∈ items, Keyed item) → Keyed (.array items)
  | table {entries : List (String × Toml)} : (entries.map (·.1)).Nodup → (∀ entry ∈ entries, Keyed entry.2) →
      Keyed (.table entries)

namespace Draft

inductive Keyed : Draft → Prop where
  | value {held : Toml} : held.Keyed → Keyed (.value held)
  | table {mentioned dotted : Bool} {entries : List (String × Draft)} : (entries.map (·.1)).Nodup →
      (∀ entry ∈ entries, Keyed entry.2) → Keyed (.table mentioned dotted entries)
  | tables {items : List Draft} : (∀ item ∈ items, Keyed item) → Keyed (.tables items)

def Keeps (change : Draft → Option Draft) : Prop :=
  ∀ draft after, Keyed draft → change draft = some after → Keyed after

variable {mentioned dotted : Bool} {entries : List (String × Draft)} {key : String} {draft after inner : Draft}

@[simp] theorem toEntries_eq_map (entries : List (String × Draft)) :
    toEntries entries = entries.map fun entry => (entry.1, entry.2.toValue) := by
  induction entries with
  | nil => rfl
  | cons entry rest ih => rw [toEntries, ih, List.map_cons]

@[simp] theorem toItems_eq_map (items : List Draft) : toItems items = items.map toValue := by
  induction items with
  | nil => rfl
  | cons item rest ih => rw [toItems, ih, List.map_cons]

theorem Keyed.toValue (keyed : draft.Keyed) : draft.toValue.Keyed := by
  induction keyed with
  | value held => exact held
  | table distinct _ ih =>
    rw [Draft.toValue, toEntries_eq_map]
    refine .table ?_ (List.forall_mem_map.2 ih)
    rwa [List.map_map]
  | tables _ ih =>
    rw [Draft.toValue, toItems_eq_map]
    exact .array (List.forall_mem_map.2 ih)

theorem keyed_bare (mentioned dotted : Bool) : Keyed (.table mentioned dotted []) :=
  .table List.nodup_nil (List.forall_mem_nil _)

/-! ### Entries -/

theorem Keyed.distinct (keyed : Keyed (.table mentioned dotted entries)) : (entries.map (·.1)).Nodup := by
  cases keyed with
  | table distinct => exact distinct

theorem Keyed.entry (keyed : Keyed (.table mentioned dotted entries)) : ∀ entry ∈ entries, Keyed entry.2 := by
  cases keyed with
  | table _ inside => exact inside

theorem Keyed.found (keyed : Keyed (.table mentioned dotted entries)) (found : entries.lookup key = some inner) :
    Keyed inner :=
  keyed.entry _ ((Entries.find?_eq_some_iff_of_nodup keyed.distinct).1 found)

theorem Keyed.item {items : List Draft} (keyed : Keyed (.tables items)) : ∀ item ∈ items, Keyed item := by
  cases keyed with
  | tables inside => exact inside

theorem Keyed.added (keyed : Keyed (.table mentioned dotted entries)) (fresh : entries.lookup key = none)
    (inside : Keyed inner) : Keyed (.table mentioned dotted (entries ++ [(key, inner)])) := by
  refine .table ?_ (List.forall_mem_append.2 ⟨keyed.entry, List.forall_mem_singleton.2 inside⟩)
  rw [List.map_append, List.map_singleton, List.nodup_append]
  refine ⟨keyed.distinct, List.pairwise_singleton _ _, fun other member last isLast => ?_⟩
  obtain rfl := List.mem_singleton.1 isLast
  rintro rfl
  obtain ⟨entry, listed, same⟩ := List.mem_map.1 member
  exact absurd (List.lookup_eq_none_iff.1 fresh entry listed) (by simp [same])

theorem Keyed.replaced (keyed : Keyed (.table mentioned dotted entries)) (inside : Keyed inner) :
    Keyed (.table mentioned dotted (replace key inner entries)) := by
  have keys : (replace key inner entries).map (·.1) = entries.map (·.1) := by
    rw [replace, List.map_map]
    refine List.map_congr_left fun entry _ => ?_
    by_cases same : entry.1 = key <;> simp [same]
  refine .table (keys ▸ keyed.distinct) (List.forall_mem_map.2 fun entry member => ?_)
  split
  · exact inside
  · exact keyed.entry entry member

theorem Keyed.kept (keyed : Keyed (.table mentioned dotted entries)) (keep : String × Draft → Bool) :
    Keyed (.table mentioned dotted (entries.filter keep)) :=
  .table (keyed.distinct.sublist (List.filter_sublist.map _)) fun entry member =>
    keyed.entry entry (List.mem_filter.1 member).1

/-! ### Changes -/

theorem Keeps.changeAt {change : Draft → Option Draft} (keeps : Keeps change) (dotted : Bool) (path : List String) :
    Keeps (changeAt dotted change path) := by
  intro draft after keyed changed
  fun_induction Draft.changeAt dotted change path draft generalizing after with
  | case1 draft => exact keeps draft after keyed changed
  | case2 key rest mentioned ofDotted entries fresh ih =>
    obtain ⟨inner, deeper, same⟩ := Option.bind_eq_some_iff.1 changed
    cases same
    exact keyed.added fresh (ih inner (keyed_bare ..) deeper)
  | case4 key rest mentioned ofDotted entries innerMentioned innerDotted inside found open_ ih =>
    obtain ⟨inner, deeper, same⟩ := Option.bind_eq_some_iff.1 changed
    cases same
    exact keyed.replaced (ih inner (keyed.found found) deeper)
  | case5 key rest mentioned ofDotted entries items found ih =>
    -- Of repeated tables only the last one is changed.
    obtain ⟨last, ends, more⟩ := Option.bind_eq_some_iff.1 changed
    obtain ⟨inner, deeper, same⟩ := Option.bind_eq_some_iff.1 more
    cases same
    have inside := (keyed.found found).item
    have changed := ih last inner (inside last (List.mem_of_getLast? ends)) deeper
    refine keyed.replaced (.tables (List.forall_mem_append.2 ⟨fun item member => ?_, ?_⟩))
    · exact inside item ((List.dropLast_sublist items).subset member)
    · exact List.forall_mem_singleton.2 changed
  | _ => cases changed

theorem keeps_setKey (viaDots : Bool) (key : String) {value : Toml} (keyed : value.Keyed) :
    Keeps (setKey viaDots key value) := by
  intro draft after drafted set
  cases draft with
  | table mentioned dotted entries =>
    simp only [setKey] at set
    split at set
    · cases set
    · rename_i fresh
      rw [Bool.or_eq_true, not_or, Option.not_isSome_iff_eq_none] at fresh
      cases set
      exact drafted.added fresh.2 (.value keyed)
  | value | tables => cases set

theorem keeps_set (path : List String) (key : String) {value : Toml} (keyed : value.Keyed) :
    Keeps (Draft.set path key value) :=
  (keeps_setKey _ key keyed).changeAt true path

end Draft

namespace Progress

open Draft (Keeps)

variable {progress after : Progress} {current draft : Draft}

structure Keyed (progress : Progress) : Prop where
  root : progress.root.Keyed
  current : progress.current.Keyed

theorem keeps_insertCurrent (key : String) (repeated : Bool) (keyed : current.Keyed) :
    Keeps (insertCurrent key repeated current) := by
  intro draft after drafted inserted
  cases draft with
  | table mentioned dotted entries =>
    simp only [insertCurrent] at inserted
    split at inserted
    · split at inserted
      · rename_i fresh
        cases inserted
        exact drafted.added fresh (.tables (List.forall_mem_singleton.2 keyed))
      · rename_i items found
        cases inserted
        have inside := (drafted.found found).item
        exact drafted.replaced (.tables (List.forall_mem_append.2 ⟨inside, List.forall_mem_singleton.2 keyed⟩))
      · cases inserted
    · split at inserted
      · cases inserted
      · rename_i fresh
        cases inserted
        exact drafted.added (Option.not_isSome_iff_eq_none.1 fresh) keyed
  | value | tables => cases inserted

theorem Keyed.finish (keyed : progress.Keyed) (finished : progress.finish = some draft) : draft.Keyed := by
  unfold Progress.finish at finished
  split at finished
  · cases finished
    exact keyed.current
  · exact (keeps_insertCurrent _ _ keyed.current).changeAt false _ _ _ keyed.root finished

theorem keyed_tableAt {path : List String} {start : Draft} (keyed : start.Keyed)
    (led : tableAt path start = some draft) : draft.Keyed := by
  induction path generalizing start with
  | nil =>
    cases led
    exact keyed
  | cons key rest ih =>
    cases start with
    | table mentioned dotted entries =>
      rw [tableAt] at led
      split at led
      · cases led
        exact Draft.keyed_bare ..
      · rename_i items found
        obtain ⟨last, ends, led⟩ := Option.bind_eq_some_iff.1 led
        exact ih ((keyed.found found).item last (List.mem_of_getLast? ends)) led
      · cases led
      · rename_i inner _ _ found
        exact ih (keyed.found found) led
    | value | tables => cases led

theorem keyed_takeMentioned {mentioned dotted : Bool} {key : String} {entries left : List (String × Draft)}
    (keyed : Draft.Keyed (.table mentioned dotted entries)) (taken : takeMentioned key entries = some (current, left)) :
    current.Keyed ∧ Draft.Keyed (.table mentioned dotted left) := by
  unfold takeMentioned at taken
  split at taken
  · cases taken
    exact ⟨Draft.keyed_bare .., keyed⟩
  · rename_i inside found
    cases taken
    have inner := keyed.found found
    exact ⟨.table inner.distinct inner.entry, keyed.kept _⟩
  · cases taken

theorem Keyed.openTable {path : List String} (keyed : progress.Keyed) (opened : progress.openTable path = some after) :
    after.Keyed := by
  obtain ⟨root, finished, opened⟩ := Option.bind_eq_some_iff.1 opened
  obtain ⟨key, last, opened⟩ := Option.bind_eq_some_iff.1 opened
  obtain ⟨place, led, opened⟩ := Option.bind_eq_some_iff.1 opened
  have whole := keyed.finish finished
  have there := keyed_tableAt whole led
  split at opened
  -- The table that is opened is taken out of the document, which keeps the others.
  · obtain ⟨⟨current, left⟩, taken, opened⟩ := Option.bind_eq_some_iff.1 opened
    obtain ⟨rest, changed, opened⟩ := Option.bind_eq_some_iff.1 opened
    cases opened
    refine ⟨Keeps.changeAt ?_ false _ _ _ whole changed, (keyed_takeMentioned there taken).1⟩
    intro draft after drafted changed
    cases draft with
    | table mentioned dotted entries =>
      obtain ⟨⟨_, left⟩, taken, rfl⟩ := Option.map_eq_some_iff.1 changed
      exact (keyed_takeMentioned drafted taken).2
    | value | tables => cases changed
  · cases opened

theorem Keyed.openRepeated {path : List String} (keyed : progress.Keyed)
    (opened : progress.openRepeated path = some after) : after.Keyed := by
  obtain ⟨root, finished, opened⟩ := Option.bind_eq_some_iff.1 opened
  obtain ⟨key, last, opened⟩ := Option.bind_eq_some_iff.1 opened
  obtain ⟨rest, changed, opened⟩ := Option.bind_eq_some_iff.1 opened
  cases opened
  refine ⟨Keeps.changeAt ?_ false _ _ _ (keyed.finish finished) changed, Draft.keyed_bare ..⟩
  intro draft after drafted changed
  cases draft with
  | table mentioned dotted entries =>
    simp only at changed
    split at changed
    · rename_i fresh
      cases changed
      exact drafted.added fresh (.tables (List.forall_mem_nil _))
    · rename_i items found
      cases changed
      exact drafted.replaced (drafted.found found)
    · cases changed
  | value | tables => cases changed

theorem Keyed.set {path : List String} {value : Toml} (keyed : progress.Keyed) (fits : value.Keyed)
    (set : progress.set path value = some after) : after.Keyed := by
  obtain ⟨key, last, set⟩ := Option.bind_eq_some_iff.1 set
  obtain ⟨current, changed, set⟩ := Option.bind_eq_some_iff.1 set
  cases set
  exact ⟨keyed.root, Draft.keeps_set _ key fits _ _ keyed.current changed⟩

end Progress

/-! ### Reading -/

section
variable {characters rest : List Char} {value : Toml}

theorem keyed_checked {number : Int} (read : checked number = some value) : value.Keyed := by
  unfold checked at read
  split at read
  · cases read
    exact .integer _
  · cases read

theorem keyed_readBased {base : Nat} (read : readBased base characters = some (value, rest)) : value.Keyed := by
  obtain ⟨⟨digits, left⟩, _, read⟩ := Option.bind_eq_some_iff.1 read
  obtain ⟨number, whole, read⟩ := Option.bind_eq_some_iff.1 read
  cases read
  exact keyed_checked whole

theorem keyed_readInteger (read : readInteger characters = some (value, rest)) : value.Keyed := by
  unfold readInteger at read
  split at read
  · exact keyed_readBased read
  · exact keyed_readBased read
  · exact keyed_readBased read
  · obtain ⟨⟨digits, left⟩, _, read⟩ := Option.bind_eq_some_iff.1 read
    obtain ⟨number, whole, read⟩ := Option.bind_eq_some_iff.1 read
    cases read
    exact keyed_checked whole

theorem keyed_realOf {negative : Bool} {digits : List Nat} {power : Int}
    (read : realOf negative digits power = some value) : value.Keyed := by
  dsimp only [realOf] at read
  split at read <;> cases read <;> exact .real _

theorem keyed_readReal (read : readReal characters = some (some (value, rest))) : value.Keyed := by
  dsimp only [readReal] at read
  split at read
  · cases read
  · split at read
    · obtain ⟨⟨fraction, left⟩, _, read⟩ := Option.bind_eq_some_iff.1 (Option.some.inj read)
      obtain ⟨⟨power, left⟩, _, read⟩ := Option.bind_eq_some_iff.1 read
      obtain ⟨number, whole, read⟩ := Option.bind_eq_some_iff.1 read
      cases read
      exact keyed_realOf whole
    iterate 2
      · obtain ⟨⟨power, left⟩, _, read⟩ := Option.bind_eq_some_iff.1 (Option.some.inj read)
        obtain ⟨number, whole, read⟩ := Option.bind_eq_some_iff.1 read
        cases read
        exact keyed_realOf whole
    · cases read

theorem keyed_readWordReal (read : readWordReal characters = some (value, rest)) : value.Keyed := by
  unfold readWordReal at read
  split at read <;> cases read <;> exact .real _

theorem keyed_readMoment (read : readMoment characters = some (some (value, rest))) : value.Keyed := by
  unfold readMoment at read
  split at read
  · cases read
  · split at read
    -- A date, with a time of day after any of the three marks.
    iterate 3
      · split at read
        · cases read
          exact .moment
        · cases read
        · obtain ⟨⟨_, left⟩, _, read⟩ := Option.bind_eq_some_iff.1 (Option.some.inj read)
          cases read
          exact .moment
    · cases read
      exact .moment
  · obtain ⟨reading, _, read⟩ := Option.map_eq_some_iff.1 read
    obtain ⟨⟨_, left⟩, _, read⟩ := Option.map_eq_some_iff.1 read
    cases read
    exact .moment

theorem keyed_readNumeric (read : readNumeric characters = some (value, rest)) : value.Keyed := by
  unfold readNumeric at read
  split at read
  · rename_i moment
    exact keyed_readMoment (moment.trans (congrArg some read))
  · split at read
    · rename_i real
      exact keyed_readReal (real.trans (congrArg some read))
    · rcases word : readWordReal characters with _ | reading
      · rw [word] at read
        exact keyed_readInteger read
      · rw [word] at read
        cases read
        exact keyed_readWordReal word

end

structure ReadsKeyed (fuel : Nat) : Prop where
  value : ∀ depth characters value rest, readValue fuel depth characters = some (value, rest) → value.Keyed
  items : ∀ depth characters items rest, readItems fuel depth characters = some (items, rest) →
    ∀ item ∈ items, item.Keyed
  pairs : ∀ depth characters pairs rest, readPairs fuel depth characters = some (pairs, rest) →
    ∀ pair ∈ pairs, pair.2.Keyed

theorem keyed_inlineTable {pairs : List (List String × Toml)} {value : Toml} (keyed : ∀ pair ∈ pairs, pair.2.Keyed)
    (made : inlineTable pairs = some value) : value.Keyed := by
  obtain ⟨draft, filled, whole⟩ := Option.bind_eq_some_iff.1 made
  cases whole
  clear made
  have drafted : Draft.empty.Keyed := Draft.keyed_bare ..
  refine Draft.Keyed.toValue ?_
  -- One pair after the other is set, whatever the draft to begin with.
  generalize Draft.empty = start at drafted filled
  induction pairs generalizing start with
  | nil =>
    cases filled
    exact drafted
  | cons pair others ih =>
    obtain ⟨here, later⟩ := List.forall_mem_cons.1 keyed
    rw [List.foldlM_cons] at filled
    obtain ⟨next, set, filled⟩ := Option.bind_eq_some_iff.1 filled
    obtain ⟨key, last, set⟩ := Option.bind_eq_some_iff.1 set
    exact ih later next (Draft.keeps_set _ key here _ _ drafted set) filled

namespace ReadsKeyed

variable {fuel depth : Nat} {characters rest : List Char}

theorem value_succ (ih : ReadsKeyed fuel) {value : Toml}
    (read : readValue (fuel + 1) depth characters = some (value, rest)) : value.Keyed := by
  unfold readValue at read
  split at read
  · obtain ⟨⟨text, left⟩, _, read⟩ := Option.bind_eq_some_iff.1 read
    cases read
    exact .string text
  · obtain ⟨⟨text, left⟩, _, read⟩ := Option.bind_eq_some_iff.1 read
    cases read
    exact .string text
  · split at read
    · cases read
    · obtain ⟨⟨items, left⟩, inside, read⟩ := Option.bind_eq_some_iff.1 read
      cases read
      exact .array (ih.items _ _ _ _ inside)
  · split at read
    · cases read
    · split at read
      · cases read
        exact .table List.nodup_nil (List.forall_mem_nil _)
      · obtain ⟨⟨pairs, left⟩, inside, read⟩ := Option.bind_eq_some_iff.1 read
        obtain ⟨table, made, read⟩ := Option.bind_eq_some_iff.1 read
        cases read
        exact keyed_inlineTable (ih.pairs _ _ _ _ inside) made
  · cases read
    exact .bool true
  · cases read
    exact .bool false
  · exact keyed_readNumeric read

theorem items_succ (ih : ReadsKeyed fuel) {items : List Toml}
    (read : readItems (fuel + 1) depth characters = some (items, rest)) : ∀ item ∈ items, item.Keyed := by
  unfold readItems at read
  split at read
  · cases read
    exact List.forall_mem_nil _
  · obtain ⟨⟨item, left⟩, first, read⟩ := Option.bind_eq_some_iff.1 read
    have keyed := ih.value _ _ _ _ first
    dsimp only at read
    split at read
    · cases read
      exact List.forall_mem_singleton.2 keyed
    · obtain ⟨⟨others, left⟩, later, read⟩ := Option.bind_eq_some_iff.1 read
      cases read
      exact List.forall_mem_cons.2 ⟨keyed, ih.items _ _ _ _ later⟩
    · cases read

theorem pairs_succ (ih : ReadsKeyed fuel) {pairs : List (List String × Toml)}
    (read : readPairs (fuel + 1) depth characters = some (pairs, rest)) : ∀ pair ∈ pairs, pair.2.Keyed := by
  unfold readPairs at read
  obtain ⟨⟨name, left⟩, _, read⟩ := Option.bind_eq_some_iff.1 read
  dsimp only at read
  split at read
  · obtain ⟨⟨value, left⟩, first, read⟩ := Option.bind_eq_some_iff.1 read
    have keyed := ih.value _ _ _ _ first
    dsimp only at read
    split at read
    · cases read
      exact List.forall_mem_singleton.2 keyed
    · obtain ⟨⟨others, left⟩, later, read⟩ := Option.bind_eq_some_iff.1 read
      cases read
      exact List.forall_mem_cons.2 ⟨keyed, ih.pairs _ _ _ _ later⟩
    · cases read
  · cases read

end ReadsKeyed

theorem readsKeyed (fuel : Nat) : ReadsKeyed fuel := by
  induction fuel with
  | zero => exact ⟨nofun, nofun, nofun⟩
  | succ fuel ih =>
    exact ⟨fun _ _ _ _ => ih.value_succ, fun _ _ _ _ => ih.items_succ, fun _ _ _ _ => ih.pairs_succ⟩

theorem Progress.Keyed.line {progress after : Progress} {characters rest : List Char} (keyed : progress.Keyed)
    (read : readLine progress characters = some (after, rest)) : after.Keyed := by
  unfold readLine at read
  split at read
  · obtain ⟨⟨name, left⟩, _, read⟩ := Option.bind_eq_some_iff.1 read
    dsimp only at read
    split at read
    · obtain ⟨next, opened, read⟩ := Option.bind_eq_some_iff.1 read
      obtain ⟨left, _, read⟩ := Option.bind_eq_some_iff.1 read
      cases read
      exact keyed.openRepeated opened
    · cases read
  · obtain ⟨⟨name, left⟩, _, read⟩ := Option.bind_eq_some_iff.1 read
    dsimp only at read
    split at read
    · obtain ⟨next, opened, read⟩ := Option.bind_eq_some_iff.1 read
      obtain ⟨left, _, read⟩ := Option.bind_eq_some_iff.1 read
      cases read
      exact keyed.openTable opened
    · cases read
  -- Comments and empty lines.
  iterate 3
    obtain ⟨left, _, read⟩ := Option.bind_eq_some_iff.1 read
    cases read
    exact keyed
  · obtain ⟨⟨name, left⟩, _, read⟩ := Option.bind_eq_some_iff.1 read
    dsimp only at read
    split at read
    · obtain ⟨⟨value, left⟩, held, read⟩ := Option.bind_eq_some_iff.1 read
      obtain ⟨next, set, read⟩ := Option.bind_eq_some_iff.1 read
      obtain ⟨left, _, read⟩ := Option.bind_eq_some_iff.1 read
      cases read
      exact keyed.set ((readsKeyed _).value _ _ _ _ held) set
    · cases read

theorem Progress.Keyed.lines {fuel : Nat} {progress after : Progress} {characters : List Char} (keyed : progress.Keyed)
    (read : readLines fuel progress characters = some after) : after.Keyed := by
  induction fuel generalizing progress characters with
  | zero =>
    unfold readLines at read
    split at read <;> cases read
    exact keyed
  | succ fuel ih =>
    unfold readLines at read
    split at read
    · cases read
      exact keyed
    · obtain ⟨⟨next, left⟩, line, read⟩ := Option.bind_eq_some_iff.1 read
      exact ih (keyed.line line) read

/-- A document that is read names each key of each of its tables once. -/
theorem keyed_of_read {text : String} {entries : List (String × Toml)} (read : read? text = some entries) :
    (Toml.table entries).Keyed := by
  have start : Progress.start.Keyed := ⟨Draft.keyed_bare .., Draft.keyed_bare ..⟩
  obtain ⟨progress, lines, read⟩ := Option.bind_eq_some_iff.1 read
  obtain ⟨draft, finished, read⟩ := Option.bind_eq_some_iff.1 read
  have keyed := ((start.lines lines).finish finished).toValue
  split at read
  · rename_i whole
    cases read
    exact whole ▸ keyed
  · cases read

end ScenarioBench.Toml
