import ScenarioBench.Toml.Value

/-! Tables while a document is read.

Tables come up in headers, in dotted keys and as parts of longer names. A table may be mentioned
before it is defined, but it is defined only once, and each key of it is set only once.
-/

set_option autoImplicit false

namespace ScenarioBench.Toml

inductive Draft where
  | value (value : Toml)
  /-- A table: whether it was only mentioned so far, whether dotted keys made it, and its entries. -/
  | table (mentioned dotted : Bool) (entries : List (String × Draft))
  | tables (items : List Draft)
  deriving Repr, Inhabited

namespace Draft

def empty : Draft := .table false false []

mutual

def toValue : Draft → Toml
  | value held => held
  | table _ _ entries => .table (toEntries entries)
  | tables items => .array (toItems items)

def toEntries : List (String × Draft) → List (String × Toml)
  | [] => []
  | (key, draft) :: rest => (key, toValue draft) :: toEntries rest

def toItems : List Draft → List Toml
  | [] => []
  | draft :: rest => toValue draft :: toItems rest

end

def replace (key : String) (draft : Draft) (entries : List (String × Draft)) :
    List (String × Draft) :=
  entries.map fun entry => if entry.1 = key then (key, draft) else entry

/-- Change the table that a path of keys leads to. Missing tables are mentioned on the way; dotted
keys do not lead into a table that is defined otherwise. -/
def changeAt (dotted : Bool) (change : Draft → Option Draft) : List String → Draft → Option Draft
  | [], draft => change draft
  | key :: rest, .table mentioned ofDotted entries =>
    match entries.lookup key with
    -- A missing table on the way is mentioned, not defined.
    | none => do
      let inner ← changeAt dotted change rest (.table true dotted [])
      return .table mentioned ofDotted (entries ++ [(key, inner)])
    -- Dotted keys may go on only in tables that nothing has defined so far.
    | some (.table innerMentioned innerDotted inside) =>
      if dotted && !innerMentioned then none
      else do
        let inner ← changeAt dotted change rest (.table innerMentioned innerDotted inside)
        return .table mentioned ofDotted (replace key inner entries)
    -- The name of repeated tables leads into the last of them.
    | some (.tables items) => do
      let last ← items.getLast?
      let inner ← changeAt dotted change rest last
      return .table mentioned ofDotted (replace key (.tables (items.dropLast ++ [inner])) entries)
    | some (.value _) => none
  | _ :: _, _ => none

/-- Set a key of a table for the first time. Dotted keys only set keys of tables that dotted keys
made. -/
def setKey (viaDots : Bool) (key : String) (value : Toml) : Draft → Option Draft
  | .table mentioned dotted entries =>
    if dotted ≠ viaDots || (entries.lookup key).isSome then none
    else some (.table mentioned dotted (entries ++ [(key, .value value)]))
  | _ => none

def set (path : List String) (key : String) (value : Toml) (draft : Draft) : Option Draft :=
  changeAt true (setKey (!path.isEmpty) key value) path draft

end Draft

/-- A document while it is read: the tables that are complete, and the one that is being filled, with
its place and whether its header is a repeated one. -/
structure Progress where
  root : Draft
  path : List String
  repeated : Bool
  current : Draft

namespace Progress

def start : Progress :=
  { root := .empty, path := [], repeated := false, current := .empty }

def insertCurrent (key : String) (repeated : Bool) (current : Draft) : Draft → Option Draft
  | .table mentioned dotted entries =>
    if repeated then
      match entries.lookup key with
      | none => some (.table mentioned dotted (entries ++ [(key, .tables [current])]))
      | some (.tables items) =>
        some (.table mentioned dotted (Draft.replace key (.tables (items ++ [current])) entries))
      | some _ => none
    else if (entries.lookup key).isSome then none
    else some (.table mentioned dotted (entries ++ [(key, current)]))
  | _ => none

def finish (progress : Progress) : Option Draft :=
  match progress.path.getLast? with
  | none => some progress.current
  | some key =>
    Draft.changeAt false (insertCurrent key progress.repeated progress.current)
      progress.path.dropLast progress.root

/-- Take a table that was only mentioned out of its place, to define it; `none` when it is defined
already. -/
def takeMentioned (key : String) (entries : List (String × Draft)) :
    Option (Draft × List (String × Draft)) :=
  match entries.lookup key with
  | none => some (.empty, entries)
  | some (.table true false inside) =>
    some (.table false false inside, entries.filter fun entry => entry.1 ≠ key)
  | some _ => none

def tableAt : List String → Draft → Option Draft
  | [], draft => some draft
  | key :: rest, .table _ _ entries =>
    match entries.lookup key with
    | none => some (.table true false [])
    | some (.tables items) => items.getLast?.bind (tableAt rest)
    | some (.value _) => none
    | some inner => tableAt rest inner
  | _ :: _, _ => none

def openTable (progress : Progress) (path : List String) : Option Progress := do
  -- The table before is complete once the next header comes.
  let root ← progress.finish
  let key ← path.getLast?
  let .table _ _ entries ← tableAt path.dropLast root | none
  let (current, _) ← takeMentioned key entries
  let take : Draft → Option Draft
    | .table mentioned dotted entries =>
      (takeMentioned key entries).map fun (_, left) => .table mentioned dotted left
    | _ => none
  return { root := ← Draft.changeAt false take path.dropLast root, path := path, repeated := false
           current := current }

def openRepeated (progress : Progress) (path : List String) : Option Progress := do
  let root ← progress.finish
  let key ← path.getLast?
  -- The place is kept free at the header, so that entries stay in the order of the document.
  let reserve : Draft → Option Draft
    | .table mentioned dotted entries =>
      match entries.lookup key with
      | none => some (.table mentioned dotted (entries ++ [(key, .tables [])]))
      | some (.tables items) =>
        some (.table mentioned dotted (Draft.replace key (.tables items) entries))
      | some _ => none
    | _ => none
  return { root := ← Draft.changeAt false reserve path.dropLast root, path := path, repeated := true
           current := .empty }

def set (progress : Progress) (path : List String) (value : Toml) : Option Progress := do
  let key ← path.getLast?
  return { progress with current := ← progress.current.set path.dropLast key value }

end Progress

end ScenarioBench.Toml
