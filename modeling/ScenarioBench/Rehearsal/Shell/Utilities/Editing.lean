import ScenarioBench.Rehearsal.Shell.EditScript
import ScenarioBench.Rehearsal.Shell.Utilities.Placing

/-! The utility that edits lines with a script.

Each line goes through the steps of the script and is then shown, with what has been queued behind it.
A last line without an end is shown without one, unless something follows.
-/

set_option autoImplicit false

namespace ScenarioBench.Rehearsal.Shell

open EditScript

/-- A line that is edited: its text, whether it has an end, and the file it is from. -/
structure EditedLine where
  text : List Char
  hasEnd : Bool
  file : String

structure Editor where
  upcoming : List EditedLine
  current : List Char
  hasEnd : Bool
  file : String
  number : Nat
  held : List Char
  heldHasEnd : Bool
  queue : List (List Char)
  hasChanged : Bool
  /-- The ranges that lines are in, by the places of their steps, each with the number of its last
  line if it is known. -/
  ranges : List (Nat × Option Nat)
  sought : Option Expression
  output : List (List Char)
  isOpen : Bool
  written : List (String × List Char)

structure EditSettings where
  steps : Array Step
  isQuiet : Bool
  lineMark : Char
  width : Nat
  content? : String → Option (List Char)

inductive EditEnd where
  | done
  | dropped
  | again
  | quit (status : Nat) (prints : Bool)
  | nothingSought

namespace Editor

def emit (settings : EditSettings) (editor : Editor) (text : List Char) (hasEnd : Bool) : Editor :=
  let before := if editor.isOpen then [settings.lineMark] else []
  let after := if hasEnd then [settings.lineMark] else []
  { editor with output := (before ++ text ++ after) :: editor.output, isOpen := !hasEnd }

def emitRaw (settings : EditSettings) (editor : Editor) (text : List Char) : Editor :=
  if text.isEmpty then editor
  else
    let before := if editor.isOpen then [settings.lineMark] else []
    { editor with output := (before ++ text) :: editor.output, isOpen := false }

def emitCurrent (settings : EditSettings) (editor : Editor) : Editor :=
  editor.emit settings editor.current editor.hasEnd

def flush (settings : EditSettings) (editor : Editor) : Editor :=
  let shown := editor.queue.reverse.foldl (fun editor text => editor.emitRaw settings text) editor
  { shown with queue := [] }

def isLast (editor : Editor) : Bool :=
  editor.upcoming.isEmpty

def advance (settings : EditSettings) (isBehind : Bool) (editor : Editor) : Editor :=
  match editor.upcoming with
  | [] => editor
  | line :: rest =>
    let shown := editor.flush settings
    { shown with
      upcoming := rest, hasEnd := line.hasEnd, file := line.file, number := editor.number + 1
      current := if isBehind then editor.current ++ settings.lineMark :: line.text else line.text }

def expression? (editor : Editor) (searched : Searched) : Option Expression :=
  searched.expression.orElse fun _ => editor.sought

def subject (editor : Editor) (searched : Searched) : Subject :=
  ⟨editor.current.toArray, searched.ignoresCase, searched.hasLines⟩

/-! ### Addresses -/

def isAt (editor : Editor) : Address → Bool × Editor
  | .line number => (editor.number = number, editor)
  | .every first step =>
    (if step = 0 then editor.number = first
      else first ≤ editor.number && (editor.number - first) % step = 0, editor)
  | .last => (editor.isLast, editor)
  | .having searched =>
    match editor.expression? searched with
    | some expression =>
      ((expression.search? (editor.subject searched) 0).isSome,
        { editor with sought := some expression })
    | none => (false, editor)

def setRange (editor : Editor) (place : Nat) (range : Option (Option Nat)) : Editor :=
  let others := editor.ranges.filter fun entry => entry.1 ≠ place
  { editor with ranges := (range.map fun last => (place, last)).toList ++ others }

def startsRange (editor : Editor) (place : Nat) (first : Address) (limit : Limit) : Bool × Editor :=
  let enter (editor : Editor) (last : Nat) : Bool × Editor :=
    (true, if last ≤ editor.number then editor else editor.setRange place (some (some last)))
  match first, limit with
  | .line 0, _ => (false, editor)
  | _, _ =>
    match editor.isAt first with
    | (false, editor) => (false, editor)
    | (true, editor) =>
      match limit with
      | .address (.line last) => enter editor last
      | .behind count => enter editor (editor.number + count)
      | .multiple factor =>
        enter editor (if factor = 0 then 0 else (editor.number + factor - 1) / factor * factor)
      | .address .last => (true, if editor.isLast then editor else editor.setRange place (some none))
      | _ => (true, editor.setRange place (some none))

def isInRange (editor : Editor) (place : Nat) (first : Address) (limit : Limit) : Bool × Editor :=
  let isFromStart : Bool := match first with
    | .line 0 => editor.number = 1 && (editor.ranges.lookup place).isNone
    | _ => false
  match if isFromStart then some none else editor.ranges.lookup place with
  | none => editor.startsRange place first limit
  | some (some last) =>
    let after := if last ≤ editor.number then editor.setRange place none else editor
    if editor.number ≤ last then (true, after) else after.startsRange place first limit
  | some none =>
    match limit with
    | .address address =>
      match editor.isAt address with
      | (true, editor) => (true, editor.setRange place none)
      | (false, editor) => (true, editor.setRange place (some none))
    | _ => (true, editor)

def isMeant (editor : Editor) (place : Nat) (guarded : Guard) : Bool × Editor :=
  let (answer, after) := match guarded.first, guarded.limit with
    | none, _ => (true, editor)
    | some first, none => editor.isAt first
    | some first, some limit => editor.isInRange place first limit
  (answer != guarded.isNegated, after)

/-! ### Replacing -/

structure Casings where
  lasting : Casing
  once : Option Casing

def Casings.apply (casings : Casings) (text : List Char) : List Char × Casings :=
  let change (casing : Casing) (letter : Char) : Char := match casing with
    | .lower | .nextLower => letter.toLower
    | .upper | .nextUpper => letter.toUpper
    | .asWritten => letter
  match text, casings.once with
  | head :: rest, some casing =>
    (change casing head :: rest.map (change casings.lasting), { casings with once := none })
  | text, _ => (text.map (change casings.lasting), casings)

def replacement (text : List Char) (reached : Reached) (first : Nat) (pieces : List Filling) :
    List Char :=
  let part (first last : Nat) : List Char := (text.take last).drop first
  let step (state : List Char × Casings) (piece : Filling) : List Char × Casings :=
    let add (letters : List Char) : List Char × Casings :=
      let (changed, casings) := state.2.apply letters
      (changed.reverse ++ state.1, casings)
    match piece with
    | .text letters => add letters
    | .group 0 => add (part first reached.position)
    | .group number =>
      add ((reached.group? number).elim [] fun (first, last) => part first last)
    | .casing casing =>
      (state.1, match casing with
        | .nextLower | .nextUpper => { state.2 with once := some casing }
        | lasting => ⟨lasting, none⟩)
  (pieces.foldl step ([], ⟨.asWritten, none⟩)).1.reverse

/-- A text with matches replaced, from a position on, and whether any was, within a number of
positions. The position where the last match ended cannot be an empty match. -/
def replaced (substitution : Substitution) (expression : Expression) (subject : Subject)
    (text : List Char) : Nat → (position count : Nat) → (lastEnd : Option Nat) → List Char × Bool
  | 0, position, _, _ => (text.drop position, false)
  | fuel + 1, position, count, lastEnd =>
    match expression.search? subject position with
    | none => (text.drop position, false)
    | some (first, reached) =>
      let last := reached.position
      let before := (text.take first).drop position
      if first = last && lastEnd = some first then
        match text.drop first with
        | [] => (before, false)
        | letter :: _ =>
          let (rest, hasChanged) :=
            replaced substitution expression subject text fuel (first + 1) count none
          (before ++ letter :: rest, hasChanged)
      else
        let isReplaced := substitution.number ≤ count + 1
        let own := if isReplaced then replacement text reached first substitution.pieces
          else (text.take last).drop first
        if isReplaced && !substitution.isGlobal then (before ++ own ++ text.drop last, true)
        else
          let skipped := if first = last then (text.drop first).take 1 else []
          let next := if first = last then last + 1 else last
          let lastEnd := if first = last then none else some last
          let (rest, hasChanged) :=
            if text.length < next then ([], false)
            else replaced substitution expression subject text fuel next (count + 1) lastEnd
          (before ++ own ++ skipped ++ rest, isReplaced || hasChanged)

def writeTo (settings : EditSettings) (editor : Editor) (name : String) (text : List Char) :
    Editor :=
  let whole := text ++ if editor.hasEnd then [settings.lineMark] else []
  if name = "/dev/stdout" then { editor with output := whole :: editor.output }
  else { editor with written := (name, whole) :: editor.written }

def substitute (settings : EditSettings) (editor : Editor) (substitution : Substitution) :
    Option Editor := do
  let expression ← editor.expression? substitution.searched
  let subject := editor.subject substitution.searched
  let (text, hasChanged) := replaced substitution expression subject editor.current
    (2 * editor.current.length + 2) 0 0 none
  let after := { editor with sought := some expression }
  if !hasChanged then return after
  let changed := { after with current := text, hasChanged := true }
  let printed := if substitution.prints then changed.emitCurrent settings else changed
  match substitution.target with
  | some name => return printed.writeTo settings name text
  | none => return printed

/-! ### Steps -/

def listedCharacter (octet : Char) : List Char :=
  let known := [('\\', '\\'), ('\x07', 'a'), ('\x08', 'b'), ('\x0c', 'f'), ('\n', 'n'), ('\r', 'r'),
    ('\t', 't'), ('\x0b', 'v')]
  match known.lookup octet with
  | some letter => ['\\', letter]
  | none =>
    if ' ' ≤ octet && octet < '\x7f' then [octet]
    else
      let digits := Nat.toDigits 8 octet.toNat
      '\\' :: List.replicate (3 - digits.length) '0' ++ digits

def wrapped (width : Nat) : List (List Char) → (column : Nat) → List Char
  | [], _ => ['$']
  | shown :: rest, column =>
    if 0 < width && width - 1 < column + shown.length then
      '\\' :: '\n' :: shown ++ wrapped width rest shown.length
    else shown ++ wrapped width rest (column + shown.length)

/-- Where a block ends that opens at a place: the place behind it, within a number of steps. -/
def behindBlock (steps : Array Step) : Nat → (depth : Nat) → (place : Nat) → Nat
  | 0, _, place => place
  | fuel + 1, depth, place =>
    match steps[place]? with
    | none => place
    | some step =>
      match step.deed with
      | .openBlock => behindBlock steps fuel (depth + 1) (place + 1)
      | .closeBlock =>
        if depth ≤ 1 then place + 1 else behindBlock steps fuel (depth - 1) (place + 1)
      | _ => behindBlock steps fuel depth (place + 1)

def placeOfLabel (steps : Array Step) (name : String) : Nat :=
  if name.isEmpty then steps.size
  else (steps.findIdx? fun step => match step.deed with
    | .label own => own = name
    | _ => false).getD steps.size

def splitFirst (text : List Char) : List Char × Option (List Char) :=
  let first := text.takeWhile (· ≠ '\n')
  match text.drop first.length with
  | _ :: rest => (first, some rest)
  | [] => (first, none)

def perform (settings : EditSettings) (editor : Editor) : Deed → Editor
  | .append text => { editor with queue := text.toList :: editor.queue }
  | .insert text => editor.emitRaw settings text.toList
  | .print => editor.emitCurrent settings
  | .printFirst => editor.emit settings (splitFirst editor.current).1 true
  | .printNumber => editor.emit settings (toString editor.number).toList true
  | .printName => editor.emit settings editor.file.toList true
  | .list width =>
    editor.emit settings
      (wrapped (width.getD settings.width)
        ((Octetwise.ofText (String.ofList editor.current)).toList.map listedCharacter) 0) true
  | .hold => { editor with held := editor.current, heldHasEnd := editor.hasEnd }
  | .holdMore =>
    { editor with
      held := editor.held ++ settings.lineMark :: editor.current, heldHasEnd := editor.hasEnd }
  | .recall => { editor with current := editor.held, hasEnd := editor.heldHasEnd }
  | .recallMore =>
    { editor with
      current := editor.current ++ settings.lineMark :: editor.held, hasEnd := editor.heldHasEnd }
  | .exchange =>
    { editor with
      current := editor.held, hasEnd := editor.heldHasEnd
      held := editor.current, heldHasEnd := editor.hasEnd }
  | .readFile name =>
    { editor with queue := ((settings.content? name).getD []) :: editor.queue }
  | .write name isFirst =>
    let text := if isFirst then (splitFirst editor.current).1 else editor.current
    editor.writeTo settings name text
  | .transliterate pairs =>
    { editor with current := editor.current.map fun letter => (pairs.lookup letter).getD letter }
  | .clear => { editor with current := [] }
  | _ => editor

def run (settings : EditSettings) : Nat → (place : Nat) → Editor → EditEnd × Editor
  | 0, _, editor => (.quit 1 false, editor)
  | fuel + 1, place, editor =>
    match settings.steps[place]? with
    | none => (.done, editor)
    | some step =>
      let (isMeant, editor) := editor.isMeant place step.guarded
      let next := run settings fuel (place + 1)
      if !isMeant then
        match step.deed with
        | .openBlock =>
          run settings fuel (behindBlock settings.steps settings.steps.size 0 place) editor
        | _ => next editor
      else match step.deed with
        | .branch condition target =>
          let isTaken := match condition with
            | .always => true
            | .changed => editor.hasChanged
            | .unchanged => !editor.hasChanged
          let after := if condition = .always then editor else { editor with hasChanged := false }
          if isTaken then run settings fuel (placeOfLabel settings.steps target) after
          else next after
        | .change text =>
          let isInside := step.guarded.limit.isSome && !step.guarded.isNegated &&
            (editor.ranges.lookup place).isSome
          (.dropped, if isInside then editor else editor.emitRaw settings text.toList)
        | .delete => (.dropped, editor)
        | .deleteFirst =>
          match (splitFirst editor.current).2 with
          | some rest => (.again, { editor with current := rest })
          | none => (.dropped, editor)
        | .next =>
          if editor.isLast then (.done, editor)
          else
            let shown := if settings.isQuiet then editor else editor.emitCurrent settings
            next (shown.advance settings false)
        | .nextMore =>
          if editor.isLast then (.done, editor) else next (editor.advance settings true)
        | .quit status prints => (.quit status prints, editor)
        | .substitute substitution =>
          match editor.substitute settings substitution with
          | some after => next after
          | none => (.nothingSought, editor)
        | deed => next (editor.perform settings deed)

def longestRun : Nat := 100000

/-- Edit all lines from the current one on, within a number of lines: the status, if the edit ends
early, or what stops it. -/
def runAll (settings : EditSettings) : Nat → Editor → Option (Except String Nat) × Editor
  | 0, editor => (some (.ok 1), editor)
  | fuel + 1, editor =>
    let (finish, after) := run settings longestRun 0 editor
    let shown := if settings.isQuiet then after else after.emitCurrent settings
    let goOn (editor : Editor) : Option (Except String Nat) × Editor :=
      let flushed := editor.flush settings
      if flushed.isLast then (none, flushed)
      else runAll settings fuel { flushed.advance settings false with hasChanged := false }
    match finish with
    | .done => goOn shown
    | .dropped => goOn after
    | .again => runAll settings fuel (after.flush settings)
    | .quit status prints =>
      (some (.ok status), if prints then shown.flush settings else after)
    | .nothingSought =>
      (some (.error "-e expression #1, char 0: no previous regular expression"), after)

end Editor

namespace Utility

def sedUsage : Usage where
  name := "sed"
  letters := (['E', 'n', 'r', 's', 'u', 'z', 'b', 'π', 'σ'].map fun letter => (letter, Need.nothing))
    ++ [('e', .value), ('f', .value), ('i', .perhaps), ('l', .value)]
  words := [("expression", 'e'), ("file", 'f'), ("quiet", 'n'), ("silent", 'n'),
    ("regexp-extended", 'E'), ("separate", 's'), ("unbuffered", 'u'), ("null-data", 'z'),
    ("in-place", 'i'), ("line-length", 'l'), ("posix", 'π'), ("sandbox", 'σ')]
  stops := false
  misuse := 1

def misusedEdit {α : Type} : Doing α := do
  Doing.note "Usage: sed [OPTION]... \x7bscript-only-if-no-other-script\x7d [input-file]..."
  Doing.leave 1

def editSources (given : Given) (isUnicode : Bool) :
    Doing (List EditScript.Source × List String) := do
  let written := given.options.filter fun option => option.1 = 'e' || option.1 = 'f'
  let decoded (text : String) : List Char := (decode isUnicode text).toList
  if written.isEmpty then
    match given.operands with
    | text :: files => return ([⟨none, 1, decoded text⟩], files)
    | [] => misusedEdit
  let step (state : Nat × List EditScript.Source) (option : Char × String) :
      Doing (Nat × List EditScript.Source) := do
    if option.1 = 'e' then
      return (state.1 + 1, ⟨none, state.1 + 1, decoded option.2⟩ :: state.2)
    match ← read option.2 with
    | .ok text =>
      let (parts, hasEnd) := lines text
      let whole := if hasEnd then "\n".intercalate parts else text
      return (state.1, ⟨some option.2, 0, decoded whole⟩ :: state.2)
    | .error cause => fail "sed" ("couldn't open file " ++ option.2 ++ ": " ++ reason cause) 1
  let (_, sources) ← written.foldlM step (0, [])
  return (sources.reverse, given.operands)

def editedLines (mark : Char) (isUnicode : Bool) (file text : String) : List EditedLine :=
  if text.isEmpty then []
  else
    let parts := text.splitOn (String.singleton mark)
    let hasEnd := parts.getLast? = some ""
    let parts := if hasEnd then parts.dropLast else parts
    parts.zipIdx.map fun (line, index) =>
      ⟨(decode isUnicode line).toList, hasEnd || index + 1 < parts.length, file⟩

def startEdit (held : List Char × Bool) (lines : List EditedLine) : Editor where
  upcoming := lines
  current := []
  hasEnd := true
  file := "-"
  number := 0
  held := held.1
  heldHasEnd := held.2
  queue := []
  hasChanged := false
  ranges := []
  sought := none
  output := []
  isOpen := false
  written := []

def storeWritten (isUnicode : Bool) (names : List String) (written : List (String × List Char)) :
    Doing Unit :=
  (names.eraseDups.filter (· ≠ "/dev/stdout")).forM fun name => do
    let own := written.reverse.filter fun entry => entry.1 = name
    let text := encode isUnicode (String.ofList (own.flatMap (·.2)))
    if name = "/dev/stderr" then Doing.write 2 text
    else
      match ← Opening.touch (Doing.path name) with
      | .ok location => Doing.setContent location (Octetwise.toOctets text)
      | .error cause => fail "sed" ("couldn't open file " ++ name ++ ": " ++ reason cause) 4

def targetsOf (steps : List EditScript.Step) : List String :=
  steps.filterMap fun step => match step.deed with
    | .write name _ => some name
    | .substitute substitution => substitution.target
    | _ => none

def sed : Utility := fun arguments => do
  let given ← match sedUsage.splitWithin (arguments.length + 1) arguments with
    | .ok given => pure given
    | .error message => do
      complain "sed" message
      misusedEdit
  let isUnicode := (← Doing.machine).isUnicode
  let (sources, files) ← editSources given isUnicode
  let startsQuietly := match sources with
    | first :: _ => first.text = ['#', 'n'] || ['#', 'n', '\n'].isPrefixOf first.text
    | [] => false
  let steps ← match EditScript.read (given.has 'E' || given.has 'r') sources with
    | .ok steps => pure steps
    | .error message => fail "sed" message (if message.startsWith "can't find label" then 4 else 1)
  let mark := if given.has 'z' then '\x00' else '\n'
  let inPlace := given.has 'i'
  let tree := (← Doing.machine).tree
  let isInputDirectory := (← Doing.machine).channel? 0 = some .directory
  let isDirectory (file : String) : Bool :=
    if file = "-" then isInputDirectory else tree.isDirectory (Doing.path file)
  let files := if files.isEmpty then ["-"] else files
  let readable := if inPlace then files else files.takeWhile fun file => !isDirectory file
  let found ← readable.mapM fun file => do
    if inPlace && isDirectory file then
      fail "sed" ("couldn't edit " ++ file ++ ": not a regular file") 4
    match ← read file with
    | .ok text => return some (file, text)
    | .error .isADirectory => return none
    | .error .badDescriptor => fail "sed" ("read error on stdin: " ++ reason .badDescriptor) 4
    | .error cause => do
      complain "sed" ("can't read " ++ file ++ ": " ++ reason cause)
      return none
  let known := found.filterMap fun entry => entry
  let isDecoded := isUnicode && known.all fun entry => isText entry.2
  let machine ← Doing.machine
  let content? (name : String) : Option (List Char) :=
    match machine.tree.read (Doing.path name) with
    | .ok octets => some (decode isDecoded (Octetwise.ofOctets octets)).toList
    | .error _ => none
  let settings : EditSettings := {
    steps := steps.toArray, isQuiet := given.has 'n' || startsQuietly, lineMark := mark
    width := if given.value? 'l' = some "1" then 0
      else ((given.value? 'l').bind String.toNat?).getD 70
    content? := content? }
  let groups := if inPlace || given.has 's' then
      known.map fun (file, text) => (file, editedLines mark isDecoded file text)
    else [("-", known.flatMap fun (file, text) => editedLines mark isDecoded file text)]
  let step (state : Option Nat × (List Char × Bool) × List (String × List Char))
      (group : String × List EditedLine) :
      Doing (Option Nat × (List Char × Bool) × List (String × List Char)) := do
    let (ended, held, written) := state
    if ended.isSome || group.2.isEmpty then return state
    let start := (startEdit held group.2).advance settings false
    let (ending, after) := Editor.runAll settings (group.2.length + 100000) start
    let text := encode isDecoded (String.ofList after.output.reverse.flatten)
    if inPlace then
      let rest := after.upcoming.flatMap fun line =>
        line.text ++ if line.hasEnd then [mark] else []
      let whole := text ++ encode isDecoded (String.ofList rest)
      match (← Doing.machine).tree.nodeAt (Doing.path group.1) with
      | .ok (location, .file content executable) => do
        match given.value? 'i' with
        | none | some "" => pure ()
        | some ending =>
          let backup := if ending.toList.contains '*' then
              (lastName group.1).intercalate (ending.splitOn "*")
            else group.1 ++ ending
          match ← Opening.touch (Doing.path backup) with
          | .ok copy => put copy (.file content executable)
          | .error _ => pure ()
        Doing.setContent location (Octetwise.toOctets whole)
      | _ => pure ()
    else Doing.write 1 text
    let written := after.written ++ written
    match ending with
    | some (.error message) => fail "sed" message 1
    | some (.ok status) => return (some status, (after.held, after.heldHasEnd), written)
    | none => return (none, (after.held, after.heldHasEnd), written)
  let (ended, _, written) ← groups.foldlM step (none, ([], true), [])
  storeWritten isDecoded (targetsOf steps) written
  match files[readable.length]? with
  | some file =>
    let title := if file = "-" then "stdin" else file
    fail "sed" ("read error on " ++ title ++ ": " ++ reason .isADirectory) 4
  | none => pure ()
  return ended.getD (if found.all Option.isSome then 0 else 2)

end Utility

end ScenarioBench.Rehearsal.Shell
