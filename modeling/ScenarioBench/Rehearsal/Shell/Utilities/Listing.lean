import ScenarioBench.Rehearsal.Shell.Pattern
import ScenarioBench.Rehearsal.Shell.Utilities.Placing

/-! Utilities that list directories and find what stands in them. -/

set_option autoImplicit false

namespace ScenarioBench.Rehearsal.Shell.Utility

/-! ### Directories -/

structure Listing where
  showsHidden : Bool
  showsDots : Bool
  isDeep : Bool
  isReversed : Bool
  isUnsorted : Bool
  bySize : Bool
  follows : Bool
  mark : Node → String
  layout : List String → String

namespace Listing

def ordered (listing : Listing) (entries : List (String × Node)) : List (String × Node) :=
  let size (node : Node) : Nat := match node with
    | .file content _ => content.length
    | .directory => 4096
    | .link target => target.octets.length
  let comesFirst (first second : String × Node) : Bool :=
    if listing.bySize && size first.2 ≠ size second.2 then decide (size second.2 < size first.2)
    else decide (first.1 ≤ second.1)
  let sorted := if listing.isUnsorted then entries else entries.mergeSort comesFirst
  if listing.isReversed then sorted.reverse else sorted

def text (listing : Listing) (entries : List (String × Node)) : String :=
  listing.layout (entries.map fun (name, node) => name ++ listing.mark node)

def entriesOf (listing : Listing) (tree : FileTree) (location : Location) : List (String × Node) :=
  let named := (tree.children location).map fun (name, node) => (Octetwise.ofOctets name, node)
  let dots := if listing.showsDots then [(".", Node.directory), ("..", Node.directory)] else []
  let node (name : String) (node : Node) : Node :=
    if listing.follows then ((tree.node? (below location name)).getD node) else node
  listing.ordered (dots ++ (named.filter fun entry =>
    listing.showsHidden || !entry.1.startsWith ".").map fun (name, own) => (name, node name own))

def sections (listing : Listing) (tree : FileTree) :
    Nat → String × Location → List (String × List (String × Node))
  | 0, _ => []
  | depth + 1, (path, location) =>
    let entries := listing.entriesOf tree location
    let inner := if listing.isDeep then
        entries.filter fun (name, node) => node.isDirectory && name ≠ "." && name ≠ ".."
      else []
    (path, entries) ::
      inner.flatMap fun (name, _) =>
        sections listing tree depth (inside path name, below location name)

end Listing

def lsUsage : Usage where
  name := "ls"
  letters := (['1', 'a', 'A', 'b', 'B', 'c', 'C', 'd', 'f', 'F', 'g', 'G', 'h', 'H', 'i', 'k', 'l',
    'L', 'm', 'n', 'N', 'o', 'p', 'q', 'Q', 'r', 'R', 's', 'S', 't', 'u', 'U', 'v', 'x', 'X',
    'Z'].map fun letter => (letter, Need.nothing))
    ++ [('I', .value), ('T', .value), ('w', .value), ('κ', .perhaps)]
  words := [("all", 'a'), ("almost-all", 'A'), ("directory", 'd'), ("recursive", 'R'),
    ("reverse", 'r'), ("classify", 'F'), ("color", 'κ'), ("dereference", 'L'), ("size", 's'),
    ("inode", 'i'), ("literal", 'N'), ("quote-name", 'Q')]
  stops := false
  misuse := 2

def listingOf (given : Given) : Listing where
  showsHidden := given.has 'a' || given.has 'A' || given.has 'f'
  showsDots := given.has 'f' || given.lastOf ['a', 'A'] = some 'a'
  isDeep := given.has 'R'
  isReversed := given.has 'r'
  isUnsorted := given.has 'U' || given.has 'f'
  bySize := given.has 'S'
  follows := given.has 'L'
  mark := fun node =>
    match node, given.has 'F', given.has 'p' with
    | .directory, false, false => ""
    | .directory, _, _ => "/"
    | .link _, true, _ => "@"
    | .file _ true, true, _ => "*"
    | _, _, _ => ""
  layout := fun names =>
    let shown := if given.has 'Q' then names.map fun name => "\"" ++ name ++ "\"" else names
    match given.lastOf ['m', 'C', 'x', '1', 'l'] with
    | some 'm' => if shown.isEmpty then "" else ", ".intercalate shown ++ "\n"
    | some 'C' | some 'x' => if shown.isEmpty then "" else "  ".intercalate shown ++ "\n"
    | _ => unlines shown

def ls : Utility := fun arguments => do
  let given ← given lsUsage arguments
  let listing := listingOf given
  let paths := if given.operands.isEmpty then ["."] else given.operands
  let keepsLinks := ['d', 'F', 'l'].any given.has && !given.has 'L' && !given.has 'H'
  let found ← paths.mapM fun path => do
    let tree := (← Doing.machine).tree
    let followed := tree.nodeAt (Doing.path path)
    let own ← placeOf path
    match if keepsLinks then own else if followed.isOk then followed else own with
    | .ok (location, node) => return some (path, location, node)
    | .error cause => do
      complain "ls" ("cannot access " ++ (← quote path) ++ ": " ++ reason cause)
      return none
  let tree := (← Doing.machine).tree
  let known := found.filterMap id
  let isOpened (node : Node) : Bool := node.isDirectory && !given.has 'd'
  let files := known.filter fun entry => !isOpened entry.2.2
  let directories := known.filter fun entry => isOpened entry.2.2
  let shownFiles := listing.ordered (files.map fun entry => (entry.1, entry.2.2))
  let shownDirectories := listing.ordered (directories.map fun entry => (entry.1, entry.2.2))
  let sections := shownDirectories.flatMap fun (path, _) =>
    match directories.find? fun entry => entry.1 = path with
    | some (_, location, _) => listing.sections tree treeDepth (path, location)
    | none => []
  let hasTitles := 1 < paths.length || given.has 'R'
  let parts := sections.map fun (path, entries) =>
    (if hasTitles then path ++ ":\n" else "")
      ++ (if given.has 'l' || given.has 's' then "total 0\n" else "") ++ listing.text entries
  let first := if shownFiles.isEmpty then [] else [listing.text shownFiles]
  Doing.write 1 ("\n".intercalate (first ++ parts))
  return if found.all Option.isSome then 0 else 2

/-! ### Finding -/

inductive Search where
  | called (foldsCase : Bool) (pattern : String)
  | placed (pattern : String)
  | kind (letters : List Char)
  | empty
  | runnable
  | always
  | never
  | print (closing : String)
  | delete
  | prune
  | quit
  | command (words : List String)
  | commandForAll (words : List String)
  | negated (inner : Search)
  | both (first second : Search)
  | either (first second : Search)

namespace Search

def acts : Search → Bool
  | print _ | delete | quit | command _ | commandForAll _ => true
  | negated inner => inner.acts
  | both first second | either first second => first.acts || second.acts
  | _ => false

def deletes : Search → Bool
  | delete => true
  | negated inner => inner.deletes
  | both first second | either first second => first.deletes || second.deletes
  | _ => false

def commandsForAll : Search → List (List String)
  | commandForAll words => [words]
  | negated inner => inner.commandsForAll
  | both first second | either first second => first.commandsForAll ++ second.commandsForAll
  | _ => []

structure Bounds where
  least : Nat
  most : Nat

abbrev Reading := StateT (List String × Bounds) (Except String)

/-- The words of a command up to its end: the words, whether it is for all paths, and the rest. -/
def commandWords : List String → Option (List String × Bool × List String)
  | [] => none
  | ";" :: rest => some ([], false, rest)
  | "\x7b\x7d" :: "+" :: rest => some ([], true, rest)
  | word :: rest =>
    (commandWords rest).map fun (words, forAll, rest) => (word :: words, forAll, rest)

def argument (option : String) : Reading String := do
  match (← get).1 with
  | [] => throw ("missing argument to \x60" ++ option ++ "'")
  | text :: rest =>
    modify fun state => (rest, state.2)
    return text

def depth (option : String) : Reading Nat := do
  let text ← argument option
  match text.toNat? with
  | some depth => return depth
  | none =>
    throw ("Expected a positive decimal integer argument to " ++ option ++ ", but got \xe2\x80\x98"
      ++ text ++ "\xe2\x80\x99")

def primary (name : String) : Reading Search := do
  match name with
  | "-name" => return .called false (← argument name)
  | "-iname" => return .called true (← argument name)
  | "-path" | "-wholename" => return .placed (← argument name)
  | "-type" =>
    let letters := (← argument name).toList
    match letters.find? fun letter => !(['f', 'd', 'l', 'b', 'c', 'p', 's', ','].contains letter) with
    | some letter => throw ("Unknown argument to -type: " ++ String.singleton letter)
    | none => return .kind letters
  | "-empty" => return .empty
  | "-executable" => return .runnable
  | "-true" | "-readable" | "-writable" | "-depth" | "-mount" | "-xdev" | "-follow" => return .always
  | "-false" => return .never
  | "-print" => return .print "\n"
  | "-print0" => return .print "\x00"
  | "-delete" => return .delete
  | "-prune" => return .prune
  | "-quit" => return .quit
  | "-maxdepth" =>
    let most ← depth name
    modify fun state => (state.1, { state.2 with most := most })
    return .always
  | "-mindepth" =>
    let least ← depth name
    modify fun state => (state.1, { state.2 with least := least })
    return .always
  | "-exec" =>
    match commandWords (← get).1 with
    | some (words, forAll, rest) =>
      modify fun state => (rest, state.2)
      return if forAll then .commandForAll words else .command words
    | none => throw "missing argument to \x60-exec'"
  | _ => throw ("unknown predicate \x60" ++ name ++ "'")

def part (whole : Reading Search) : Nat → Reading Search
  | 0 => throw "expression too deep"
  | fuel + 1 => do
    match (← get).1 with
    | [] => throw "expected an expression"
    | name :: rest =>
      modify fun state => (rest, state.2)
      match name with
      | "!" | "-not" => return .negated (← part whole fuel)
      | "(" =>
        let inner ← whole
        match (← get).1 with
        | ")" :: rest =>
          modify fun state => (rest, state.2)
          return inner
        | _ => throw ("invalid expression; I was expecting to find a ')' somewhere but did not "
            ++ "see one.")
      | _ => primary name

def allOf (one : Reading Search) : Nat → Search → Reading Search
  | 0, first => return first
  | fuel + 1, first => do
    match (← get).1 with
    | [] | "-o" :: _ | "-or" :: _ | ")" :: _ => return first
    | name :: rest =>
      if name = "-a" || name = "-and" then modify fun state => (rest, state.2)
      allOf one fuel (.both first (← one))

def anyOf (all : Reading Search) : Nat → Search → Reading Search
  | 0, first => return first
  | fuel + 1, first => do
    match (← get).1 with
    | name :: rest =>
      if name = "-o" || name = "-or" then
        modify fun state => (rest, state.2)
        anyOf all fuel (.either first (← all))
      else return first
    | [] => return first

def read : Nat → Reading Search
  | 0 => throw "expression too deep"
  | fuel + 1 => do
    let steps := (← get).1.length + 1
    let one := part (read fuel) steps
    let all : Reading Search := do
      allOf one steps (← one)
    anyOf all steps (← all)

structure Found where
  path : String
  location : Location
  node : Node

structure Progress where
  isPruned : Bool
  hasQuit : Bool
  hasFailed : Bool
  collected : List String

def run (launcher : Launcher) (words : List String) (path : String) : Doing Bool := do
  let filled := words.map fun word => path.intercalate (word.splitOn "\x7b\x7d")
  match filled with
  | [] => return false
  | name :: arguments =>
    match ← launcher (← Doing.machine).environment name arguments with
    | .ok ending => return ending = .exit 0
    | .error cause => do
      Utility.complain "find" ((← quoteName name) ++ ": " ++ reason cause)
      return false

def decide (launcher : Launcher) (found : Found) : Search → Progress → Doing (Bool × Progress)
  | .called foldsCase pattern, progress =>
    let fold (text : String) : List Char :=
      if foldsCase then text.toList.map Char.toLower else text.toList
    let name := if (trimSlashes found.path).isEmpty then "/" else lastName found.path
    let marked := (fold pattern).map fun letter => (letter, false)
    return ((Pattern.ofMarked marked).fits (fold name), progress)
  | .placed pattern, progress =>
    let marked := pattern.toList.map fun letter => (letter, false)
    return ((Pattern.ofMarked marked).fits found.path.toList, progress)
  | .kind letters, progress =>
    let letter := match found.node with
      | .file .. => 'f'
      | .directory => 'd'
      | .link _ => 'l'
    return (letters.contains letter, progress)
  | .empty, progress => do
    let tree := (← Doing.machine).tree
    return (match found.node with
      | .file content _ => content.isEmpty
      | .directory => (tree.children found.location).isEmpty
      | .link _ => false, progress)
  | .runnable, progress =>
    return (match found.node with
      | .file _ executable => executable
      | _ => true, progress)
  | .always, progress => return (true, progress)
  | .never, progress => return (false, progress)
  | .print closing, progress => do
    Doing.write 1 (found.path ++ closing)
    return (true, progress)
  | .delete, progress => do
    let tree := (← Doing.machine).tree
    if found.path = "." then return (true, progress)
    if found.node.isDirectory && !(tree.children found.location).isEmpty then
      Utility.complain "find" ("cannot delete " ++ (← quoteName found.path) ++ ": " ++ notEmpty)
      return (false, { progress with hasFailed := true })
    remove found.location
    return (true, progress)
  | .prune, progress => return (true, { progress with isPruned := true })
  | .quit, progress => return (true, { progress with hasQuit := true })
  | .command words, progress => return (← run launcher words found.path, progress)
  | .commandForAll _, progress =>
    return (true, { progress with collected := found.path :: progress.collected })
  | .negated inner, progress => do
    let (answer, progress) ← decide launcher found inner progress
    return (!answer, progress)
  | .both first second, progress => do
    let (answer, progress) ← decide launcher found first progress
    if answer && !progress.hasQuit then decide launcher found second progress
    else return (false, progress)
  | .either first second, progress => do
    let (answer, progress) ← decide launcher found first progress
    if answer || progress.hasQuit then return (true, progress)
    else decide launcher found second progress

def walk (launcher : Launcher) (search : Search) (bounds : Bounds) :
    Nat → Nat → Found → Progress → Doing Progress
  | 0, _, _, progress => return progress
  | fuel + 1, level, found, progress => do
    if progress.hasQuit then return progress
    let visit (progress : Progress) : Doing Progress := do
      if level < bounds.least then return { progress with isPruned := false }
      let (_, progress) ← decide launcher found search { progress with isPruned := false }
      return progress
    let isDeepFirst := search.deletes
    let progress ← if isDeepFirst then pure { progress with isPruned := false } else visit progress
    let goesOn := found.node.isDirectory && level < bounds.most &&
      !progress.isPruned && !progress.hasQuit
    let after ← if !goesOn then pure progress
      else do
        let tree := (← Doing.machine).tree
        if (tree.node? found.location).isNone then
          Utility.complain "find" ((← quoteName found.path) ++ ": " ++ reason .notFound)
          pure { progress with hasFailed := true }
        else
          (tree.children found.location).foldlM (fun progress (name, node) => do
            let name := Octetwise.ofOctets name
            walk launcher search bounds fuel (level + 1)
              ⟨inside found.path name, below found.location name, node⟩ progress) progress
    if isDeepFirst then visit after else return after

end Search

def find (launcher : Launcher) : Utility := fun arguments => do
  let arguments := arguments.dropWhile fun word => word = "-L" || word = "-P" || word = "-H"
  let isStart (word : String) : Bool := !(word.startsWith "-" || word = "(" || word = "!")
  let starts := arguments.takeWhile isStart
  let words := arguments.dropWhile isStart
  let paths := if starts.isEmpty then ["."] else starts
  let reading : Search.Reading Search :=
    if words.isEmpty then return .always else Search.read (words.length + 1)
  match reading.run (words, ⟨0, treeDepth⟩) with
  | .error message => fail "find" message 1
  | .ok (search, rest, bounds) =>
    if !rest.isEmpty then
      fail "find" "invalid expression; you have too many ')'" 1
    let whole := if search.acts then search else .both search (.print "\n")
    let after ← paths.foldlM (fun progress path => do
      match ← placeOf path with
      | .ok (location, node) =>
        Search.walk launcher whole bounds treeDepth 0 ⟨path, location, node⟩ progress
      | .error cause => do
        complain "find" ((← quoteName path) ++ ": " ++ reason cause)
        return { progress with hasFailed := true }) ⟨false, false, false, []⟩
    let statuses ← whole.commandsForAll.mapM fun words => do
      match words with
      | name :: others =>
        if after.collected.isEmpty then return 0
        match ← launcher (← Doing.machine).environment name (others ++ after.collected.reverse) with
        | .ok ending => return if ending = .exit 0 then 0 else 1
        | .error cause => do
          complain "find" ((← quoteName name) ++ ": " ++ reason cause)
          return 1
      | [] => return 1
    return if after.hasFailed then 1 else worst statuses

end ScenarioBench.Rehearsal.Shell.Utility
