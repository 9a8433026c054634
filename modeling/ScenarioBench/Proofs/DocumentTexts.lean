import ScenarioBench.Json.Reader
import ScenarioBench.Launch.DryRun

/-! What texts of documents tell.

The text of a value inside a document is followed by a comma or by the end of its line, and there no text of another
value ends. Main statements: values without floating-point numbers whose texts are the same are the same, and the text
that shows a submission determines its context, its job and its configuration.
-/

set_option autoImplicit false

namespace ScenarioBench

namespace Json

/-- A value without floating-point numbers. Those that are not finite are written like `null`. -/
inductive Legible : Json → Prop where
  | null : Legible .null
  | bool (value : Bool) : Legible (.bool value)
  | natural (magnitude : Nat) : Legible (.number (.natural magnitude))
  | negative (magnitude : Nat) : Legible (.number (.negative magnitude))
  | string (value : String) : Legible (.string value)
  | array {items : List Json} : (∀ item ∈ items, Legible item) → Legible (.array items)
  | object {members : List (String × Json)} : (∀ member ∈ members, Legible member.2) → Legible (.object members)

theorem hexValue?_hexDigit : ∀ digit < 16, hexValue? (hexDigit digit) = some digit := by
  decide

theorem readUnicode_hexDigits {character : Char} (small : character.toNat < 0x20) (rest : List Char) :
    readUnicode ('0' :: '0' :: hexDigit (character.toNat / 16) :: hexDigit (character.toNat % 16) :: rest) =
      some (character, rest) := by
  have high := hexValue?_hexDigit (character.toNat / 16) (by omega)
  have low := hexValue?_hexDigit (character.toNat % 16) (by omega)
  have zero : hexValue? '0' = some 0 := rfl
  have whole : character.toNat / 16 * 16 + character.toNat % 16 = character.toNat := by omega
  have low' : ¬ (0xDC00 ≤ character.toNat ∧ character.toNat ≤ 0xDFFF) := by omega
  have high' : ¬ (0xD800 ≤ character.toNat ∧ character.toNat ≤ 0xDBFF) := by omega
  simp [readUnicode, readHex, high, low, zero, whole, low', high']

theorem readString_plain {character : Char} (noQuote : character ≠ '\x22') (noBackslash : character ≠ '\\')
    (large : ¬ character.toNat < 0x20) (fuel : Nat) (done rest : List Char) :
    readString (fuel + 1) done (character :: rest) = readString fuel (character :: done) rest := by
  rw [readString, if_neg (not_or.mpr ⟨large, noBackslash⟩)]
  · exact noQuote
  · exact fun _ _ same => absurd same noBackslash

@[simp] theorem readString_escape (fuel : Nat) (done : List Char) (character : Char) (rest : List Char) :
    readString (fuel + 1) done (escape character ++ rest) = readString fuel (character :: done) rest := by
  unfold escape
  split
  iterate 7 rfl
  next noQuote noBackslash _ _ _ _ _ =>
    split
    · next small => exact (congrArg (Option.bind · _) (readUnicode_hexDigits small rest)).trans rfl
    · next large => exact readString_plain noQuote noBackslash large fuel done rest

theorem readString_quoted (text : List Char) {fuel : Nat} (enough : text.length ≤ fuel) (done rest : List Char) :
    readString fuel done (text.flatMap escape ++ '\x22' :: rest) = some (done.reverse ++ text, rest) := by
  induction text generalizing fuel done with
  | nil => cases fuel <;> simp [readString]
  | cons character text ih =>
    cases fuel with
    | zero => exact absurd enough (Nat.not_succ_le_zero _)
    | succ fuel =>
      rw [List.flatMap_cons, List.append_assoc, readString_escape, ih (Nat.le_of_succ_le_succ enough)]
      simp

theorem toList_quote (text : String) (rest : List Char) :
    (quote text).toList ++ rest = '\x22' :: (text.toList.flatMap escape ++ '\x22' :: rest) := by
  simp [quote]

theorem quote_append_cancel {first second : String} {rest others : List Char}
    (same : (quote first).toList ++ rest = (quote second).toList ++ others) : first = second ∧ rest = others := by
  rw [toList_quote, toList_quote] at same
  have read := congrArg (readString (first.toList.length + second.toList.length) []) (List.tail_eq_of_cons_eq same)
  rw [readString_quoted _ (Nat.le_add_right _ _), readString_quoted _ (Nat.le_add_left _ _)] at read
  obtain ⟨texts, rests⟩ := Prod.mk.inj (Option.some.inj read)
  exact ⟨String.toList_injective texts, rests⟩

/-- What follows a value: nothing, a comma or the end of the line. -/
def Closes (rest : List Char) : Prop :=
  ∀ character ∈ rest.head?, character = ',' ∨ character = '\n'

theorem closes_nil : Closes [] :=
  nofun

theorem closes_comma (rest : List Char) : Closes (',' :: rest) :=
  fun _ found => .inl (Option.some.inj found).symm

theorem closes_newline (rest : List Char) : Closes ('\n' :: rest) :=
  fun _ found => .inr (Option.some.inj found).symm

theorem Closes.takeWhile_isDigit {rest : List Char} (closes : Closes rest) : rest.takeWhile Char.isDigit = [] := by
  cases rest with
  | nil => rfl
  | cons character rest => rcases closes character rfl with rfl | rfl <;> rfl

@[simp] theorem toList_natural (magnitude : Nat) : (toString magnitude).toList = Nat.toDigits 10 magnitude := by
  rw [Nat.toString_eq_ofList_toDigits, String.toList_ofList]

theorem natural_append_cancel {first second : Nat} {rest others : List Char} (closes : Closes rest)
    (closed : Closes others) (same : (toString first).toList ++ rest = (toString second).toList ++ others) :
    first = second ∧ rest = others := by
  rw [toList_natural, toList_natural] at same
  have digits := congrArg (List.takeWhile Char.isDigit) same
  rw [List.takeWhile_append_of_pos fun _ => Nat.isDigit_of_mem_toDigits (by decide) (by decide),
    List.takeWhile_append_of_pos fun _ => Nat.isDigit_of_mem_toDigits (by decide) (by decide),
    closes.takeWhile_isDigit, closed.takeWhile_isDigit, List.append_nil, List.append_nil] at digits
  rw [digits] at same
  refine ⟨?_, List.append_cancel_left same⟩
  rw [← @Nat.ofDigitChars_ten_toDigits first, digits, Nat.ofDigitChars_ten_toDigits]

def mark : Json → Char
  | null => 'n'
  | bool _ => 't'
  | number (.negative _) => '-'
  | number _ => '0'
  | string _ => '\x22'
  | array _ => '['
  | object _ => '\x7b'

def markOf (character : Char) : Char :=
  if character.isDigit then '0' else if character = 'f' then 't' else character

def lineStart (depth : Nat) : List Char :=
  '\n' :: List.replicate (2 * depth) ' '

@[simp] theorem toList_indent (depth : Nat) : (indent depth).toList = lineStart depth := by
  simp [indent, lineStart]

def lines {ι : Type} (write : ι → List Char) (depth : Nat) (rows : List ι) : List Char :=
  rows.flatMap fun row => ',' :: (lineStart depth ++ write row)

def block {ι : Type} (opening closing : Char) (write : ι → List Char) (depth : Nat) : List ι → List Char
  | [] => [opening, closing]
  | first :: rows =>
    opening :: (lineStart (depth + 1) ++ (write first ++
      (lines write (depth + 1) rows ++ (lineStart depth ++ [closing]))))

theorem intercalate_cons {α : Type} (separator first : List α) (rest : List (List α)) :
    separator.intercalate (first :: rest) = first ++ rest.flatMap (separator ++ ·) := by
  induction rest generalizing first with
  | nil => simp
  | cons second rest ih => simp [List.intercalate_cons_cons, ih]

@[simp] theorem prettyItems_eq_map (depth : Nat) (items : List Json) :
    prettyItems depth items = items.map (prettyAt depth) := by
  induction items with
  | nil => rfl
  | cons item items ih => rw [prettyItems, ih, List.map_cons]

def memberText (depth : Nat) (member : String × Json) : String :=
  quote member.1 ++ ": " ++ prettyAt depth member.2

@[simp] theorem prettyMembers_eq_map (depth : Nat) (members : List (String × Json)) :
    prettyMembers depth members = members.map (memberText depth) := by
  induction members with
  | nil => rfl
  | cons member members ih => rw [prettyMembers, ih, List.map_cons, memberText]

@[simp] theorem toList_prettyAt_array (depth : Nat) (items : List Json) :
    (prettyAt depth (.array items)).toList =
      block '[' ']' (fun item => (prettyAt (depth + 1) item).toList) depth items := by
  cases items with
  | nil => simp [prettyAt, block]
  | cons item items =>
    simp [prettyAt, block, lines, String.toList_intercalate, intercalate_cons, List.flatMap_map]

@[simp] theorem toList_prettyAt_object (depth : Nat) (members : List (String × Json)) :
    (prettyAt depth (.object members)).toList =
      block '\x7b' '\x7d' (fun member => (memberText (depth + 1) member).toList) depth members := by
  cases members with
  | nil => simp [prettyAt, block]
  | cons member members =>
    simp [prettyAt, block, lines, String.toList_intercalate, intercalate_cons, List.flatMap_map]

theorem exists_prettyAt {value : Json} (legible : Legible value) (depth : Nat) :
    ∃ character text, (prettyAt depth value).toList = character :: text ∧ markOf character = value.mark := by
  cases legible with
  | null => exact ⟨'n', ['u', 'l', 'l'], by simp [prettyAt], rfl⟩
  | bool value => cases value <;> exact ⟨_, _, by simp [prettyAt]; exact ⟨rfl, rfl⟩, rfl⟩
  | natural magnitude =>
    obtain ⟨digit, digits, written⟩ := List.exists_cons_of_ne_nil (@Nat.toDigits_ne_nil magnitude 10)
    refine ⟨digit, digits, by rw [prettyAt, Number.text, toList_natural, written], ?_⟩
    have decimal : digit.isDigit := Nat.isDigit_of_mem_toDigits (by decide) (by decide)
      (written ▸ List.mem_cons_self)
    simp [markOf, decimal, mark]
  | negative magnitude => exact ⟨'-', _, by simp [prettyAt, Number.text]; rfl, rfl⟩
  | string value => exact ⟨'\x22', _, by simp [prettyAt, quote]; rfl, rfl⟩
  | @array items _ =>
    rw [toList_prettyAt_array]
    cases items <;> exact ⟨'[', _, rfl, rfl⟩
  | @object members _ =>
    rw [toList_prettyAt_object]
    cases members <;> exact ⟨'\x7b', _, rfl, rfl⟩

/-- The text of a value ends where no text of another value does. -/
def Separates {ι : Type} (write : ι → List Char) (legible : ι → Prop) (value : ι) : Prop :=
  ∀ other, legible other → ∀ rest others, Closes rest → Closes others →
    write value ++ rest = write other ++ others → value = other ∧ rest = others

section
variable {ι : Type} {write : ι → List Char} {legible : ι → Prop}

theorem closes_lines (depth : Nat) (rows : List ι) (rest : List Char) :
    Closes (lines write depth rows ++ '\n' :: rest) := by
  cases rows with
  | nil => exact closes_newline rest
  | cons row rows => exact closes_comma _

theorem lines_append_cancel (depth : Nat) {rows more : List ι}
    (separate : ∀ row ∈ rows, Separates write legible row) (known : ∀ row ∈ more, legible row)
    {rest others : List Char}
    (same : lines write depth rows ++ '\n' :: rest = lines write depth more ++ '\n' :: others) :
    rows = more ∧ rest = others := by
  induction rows generalizing more with
  | nil =>
    cases more with
    | nil => exact ⟨rfl, List.tail_eq_of_cons_eq same⟩
    | cons row more => exact absurd (List.head_eq_of_cons_eq same) (by decide)
  | cons row rows ih =>
    cases more with
    | nil => exact absurd (List.head_eq_of_cons_eq same) (by decide)
    | cons other more =>
      obtain ⟨separates, later⟩ := List.forall_mem_cons.1 separate
      obtain ⟨here, there⟩ := List.forall_mem_cons.1 known
      simp only [lines, List.flatMap_cons, List.cons_append, List.append_assoc] at same
      obtain ⟨rfl, behind⟩ := separates other here _ _ (closes_lines depth rows rest) (closes_lines depth more others)
        (List.append_cancel_left (List.tail_eq_of_cons_eq same))
      obtain ⟨rfl, rests⟩ := ih later there behind
      exact ⟨rfl, rests⟩

theorem block_append_cancel {opening closing : Char} (ends : closing ≠ '\n') (depth : Nat) {rows more : List ι}
    (separate : ∀ row ∈ rows, Separates write legible row) (known : ∀ row ∈ more, legible row)
    {rest others : List Char} (same : block opening closing write depth rows ++ rest =
      block opening closing write depth more ++ others) : rows = more ∧ rest = others := by
  cases rows with
  | nil =>
    cases more with
    | nil => exact ⟨rfl, List.tail_eq_of_cons_eq (List.tail_eq_of_cons_eq same)⟩
    | cons row more => exact absurd (List.head_eq_of_cons_eq (List.tail_eq_of_cons_eq same)) ends
  | cons row rows =>
    cases more with
    | nil => exact absurd (List.head_eq_of_cons_eq (List.tail_eq_of_cons_eq same)).symm ends
    | cons other more =>
      obtain ⟨separates, later⟩ := List.forall_mem_cons.1 separate
      obtain ⟨here, there⟩ := List.forall_mem_cons.1 known
      simp only [block, List.cons_append, List.append_assoc] at same
      obtain ⟨rfl, behind⟩ := separates other here _ _ (closes_lines _ rows _) (closes_lines _ more _)
        (List.append_cancel_left (List.tail_eq_of_cons_eq same))
      obtain ⟨rfl, rests⟩ := lines_append_cancel _ later there behind
      exact ⟨rfl, List.tail_eq_of_cons_eq (List.append_cancel_left rests)⟩

end

theorem separates_member {member : String × Json} {depth : Nat}
    (separates : Separates (fun value => (prettyAt depth value).toList) Legible member.2) :
    Separates (fun member => (memberText depth member).toList) (fun member => Legible member.2) member := by
  rintro ⟨name, other⟩ legible rest others closes closed same
  simp only [memberText, String.toList_append, List.append_assoc] at same
  obtain ⟨names, values⟩ := quote_append_cancel same
  obtain ⟨held, rests⟩ := separates other legible rest others closes closed (List.append_cancel_left values)
  exact ⟨Prod.ext names held, rests⟩

theorem mark_eq {first second : Json} (legible : Legible first) (known : Legible second) {depth : Nat}
    {rest others : List Char}
    (same : (prettyAt depth first).toList ++ rest = (prettyAt depth second).toList ++ others) :
    first.mark = second.mark := by
  obtain ⟨character, text, written, sort⟩ := exists_prettyAt legible depth
  obtain ⟨_, _, shown, kind⟩ := exists_prettyAt known depth
  rw [written, shown] at same
  rw [← sort, ← kind, List.head_eq_of_cons_eq same]

theorem separates_prettyAt {value : Json} (legible : Legible value) (depth : Nat) :
    Separates (fun value => (prettyAt depth value).toList) Legible value := by
  induction legible generalizing depth with
  | null =>
    intro other known rest others _ _ same
    have kind := mark_eq .null known same
    cases known with
    | null => exact ⟨rfl, List.append_cancel_left same⟩
    | bool | natural | negative | string | array | object => simp [mark] at kind
  | bool value =>
    intro other known rest others _ _ same
    have kind := mark_eq (.bool value) known same
    cases known with
    | bool other => cases value <;> cases other <;> simp_all [prettyAt]
    | null | natural | negative | string | array | object => simp [mark] at kind
  | natural magnitude =>
    intro other known rest others closes closed same
    have kind := mark_eq (.natural magnitude) known same
    cases known with
    | natural other =>
      obtain ⟨rfl, rests⟩ := natural_append_cancel closes closed same
      exact ⟨rfl, rests⟩
    | null | bool | negative | string | array | object => simp [mark] at kind
  | negative magnitude =>
    intro other known rest others closes closed same
    have kind := mark_eq (.negative magnitude) known same
    cases known with
    | negative other =>
      simp only [prettyAt, Number.text, String.toList_append, List.append_assoc] at same
      obtain ⟨rfl, rests⟩ := natural_append_cancel closes closed (List.append_cancel_left same)
      exact ⟨rfl, rests⟩
    | null | bool | natural | string | array | object => simp [mark] at kind
  | string value =>
    intro other known rest others _ _ same
    have kind := mark_eq (.string value) known same
    cases known with
    | string other => exact (quote_append_cancel same).imp_left (congrArg string)
    | null | bool | natural | negative | array | object => simp [mark] at kind
  | @array items legible ih =>
    intro other known rest others _ _ same
    have kind := mark_eq (.array legible) known same
    cases known with
    | array known =>
      simp only [toList_prettyAt_array] at same
      exact (block_append_cancel (by decide) depth (fun item member => ih item member (depth + 1)) known same).imp_left
        (congrArg array)
    | null | bool | natural | negative | string | object => simp [mark] at kind
  | @object members legible ih =>
    intro other known rest others _ _ same
    have kind := mark_eq (.object legible) known same
    cases known with
    | object known =>
      simp only [toList_prettyAt_object] at same
      exact (block_append_cancel (by decide) depth
        (fun member listed => separates_member (ih member listed (depth + 1))) known same).imp_left (congrArg object)
    | null | bool | natural | negative | string | array => simp [mark] at kind

theorem eq_of_pretty_eq {first second : Json} (legible : Legible first) (known : Legible second)
    (same : first.pretty = second.pretty) : first = second :=
  (separates_prettyAt legible 0 second known [] [] closes_nil closes_nil
    (congrArg (·.toList ++ []) same)).1

end Json

def ConfigMap.Legible (config : ConfigMap) : Prop :=
  ∀ member ∈ config.entries, member.2.Legible

theorem Credentials.legible_options (credentials : Credentials) :
    ∀ option ∈ credentials.options, option.2.Legible := by
  cases credentials <;> simp [options, Json.Legible.string]

theorem JobConfig.legible_options (config : JobConfig) : ∀ option ∈ config.options, option.2.Legible := by
  rintro option listed
  simp only [options, List.mem_append, Option.mem_toList, Option.map_eq_some_iff] at listed
  obtain (⟨verify, -, rfl⟩ | held) | ⟨level, -, rfl⟩ := listed
  · exact .bool verify
  · cases given : config.credentials with
    | none =>
      rw [given] at held
      cases held
    | some credentials =>
      rw [given] at held
      exact credentials.legible_options option held
  · exact .string _

theorem JobConfig.legible_toMap {config : JobConfig} (legible : config.extra.Legible) : config.toMap.Legible := by
  rintro ⟨option, value⟩ listed
  have held := Dictionary.mem_entries_iff.1 listed
  rw [toMap, Dictionary.get?_insertMany, Option.or_eq_some_iff] at held
  rcases held with named | ⟨-, extra⟩
  · obtain ⟨before, after, split, -⟩ := List.lookup_eq_some_iff.1 named
    refine config.legible_options (option, value) (List.mem_reverse.1 ?_)
    rw [split]
    exact List.mem_append_right before List.mem_cons_self
  · exact legible _ (Dictionary.mem_entries_iff.2 extra)

namespace DryRun

variable {context other : JobContext} {topology job : Topology} {config settings : ConfigMap}

theorem legible_of_pathValue {path : Path} {value : Json} (told : pathValue path = .ok value) : value.Legible := by
  unfold pathValue at told
  split at told <;> cases told
  exact .string _

theorem legible_document {shown : Json} (legible : config.Legible)
    (told : document context topology config = .ok shown) : shown.Legible := by
  obtain ⟨toolkits, searched, ⟨⟩⟩ := exists_of_bind_ok told
  refine .object fun member listed => ?_
  simp only [List.mem_cons, List.not_mem_nil, or_false] at listed
  obtain rfl | rfl | rfl | rfl | rfl | rfl := listed
  · exact .string _
  · exact .string _
  · exact .string _
  · refine .array fun item listed => ?_
    obtain ⟨_, -, told⟩ := exists_of_mem_mapM searched _ listed
    exact legible_of_pathValue told
  · refine .object fun member listed => ?_
    obtain ⟨_, -, rfl⟩ := List.mem_map.1 listed
    exact .string _
  · exact .object legible

/-- The text that shows a submission determines the submission. -/
theorem render_injective {text : String} (legible : config.Legible) (known : settings.Legible)
    (told : render context topology config = .ok text) (same : render other job settings = .ok text) :
    context = other ∧ topology = job ∧ config = settings := by
  obtain ⟨shown, first, rfl⟩ := exists_of_map_ok (ok_of_mapError told)
  obtain ⟨read, second, texts⟩ := exists_of_map_ok (ok_of_mapError same)
  obtain rfl := Json.eq_of_pretty_eq (legible_document known second) (legible_document legible first) texts
  exact document_injective first second

end DryRun

end ScenarioBench
