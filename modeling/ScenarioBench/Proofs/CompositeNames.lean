import Mathlib.Algebra.Ring.Parity
import Mathlib.Data.List.DropRight
import ScenarioBench.Proofs.Submitting

/-! Namespaces, names and bundle stems of composites.

A kind is divided at its last separator, while its bundle stem comes from replacing separators from the left. The two
read a run of colons from its two ends, so they agree where the namespace ends with an even number of colons, and
only there.
-/

set_option autoImplicit false

namespace ScenarioBench.Composite

def colonsAtEnd (characters : List Char) : Nat :=
  (characters.rtakeWhile (· = ':')).length

section
variable {kind space name rest : List Char}

theorem split?_eq_some_iff : split? kind = some (space, name) ↔
    Text.LastOccurrence separator kind space name ∧ space ≠ [] ∧ name ≠ [] := by
  unfold split?
  rcases found : Text.splitLast separator kind with _ | ⟨before, after⟩
  · refine iff_of_false nofun fun ⟨occurs, _⟩ => ?_
    rw [Text.splitLast_eq_some_iff.2 occurs] at found
    cases found
  · have occurs := Text.splitLast_lastOccurrence found
    dsimp only
    split
    · rename_i bare
      refine iff_of_false nofun fun ⟨occurs', spaced, named⟩ => ?_
      obtain ⟨rfl, rfl⟩ := occurs.unique occurs'
      rcases Bool.or_eq_true_iff.1 bare with empty | empty
      · exact spaced (List.isEmpty_iff.1 empty)
      · exact named (List.isEmpty_iff.1 empty)
    · rename_i full
      rw [Bool.or_eq_true_iff, List.isEmpty_iff, List.isEmpty_iff, not_or] at full
      constructor
      · rintro ⟨⟩
        exact ⟨occurs, full⟩
      · rintro ⟨occurs', -⟩
        obtain ⟨rfl, rfl⟩ := occurs.unique occurs'
        rfl

theorem name_of_lastOccurrence (occurs : Text.LastOccurrence separator kind space name) :
    ¬ separator <:+: name ∧ name.head? ≠ some ':' := by
  constructor
  · rintro ⟨before, after, rfl⟩
    have further := occurs.last (space ++ separator ++ before) after (by simp [occurs.whole])
    simp only [separator, List.length_append, List.length_cons] at further
    omega
  · intro colon
    obtain ⟨after, rfl⟩ := List.head?_eq_some_iff.1 colon
    have further := occurs.last (space ++ [':']) after (by simp [occurs.whole, separator])
    rw [List.length_append, List.length_singleton] at further
    omega

/-! ### Stems -/

@[simp]
theorem stem_nil : stem [] = [] := by
  rw [stem, Text.replaceRun]

theorem stem_separator (rest : List Char) : stem (':' :: ':' :: rest) = '.' :: stem rest := by
  rw [stem, Text.replaceRun, if_pos ⟨rfl, rfl⟩]
  rfl

theorem stem_cons {head : Char} (other : ¬ (head = ':' ∧ rest.head? = some ':')) :
    stem (head :: rest) = head :: stem rest := by
  have single : ¬ (head = ':' ∧ [':'].isPrefixOf rest = true) := by
    rintro ⟨colon, starts⟩
    obtain ⟨after, rfl⟩ := List.isPrefixOf_iff_prefix.1 starts
    exact other ⟨colon, rfl⟩
  rw [stem, Text.replaceRun, if_neg single]
  rfl

theorem head?_of_stem {characters : List Char} (slashed : (stem characters).head? = some '/') :
    characters.head? = some '/' := by
  rcases characters with _ | ⟨head, rest⟩
  · rw [stem_nil] at slashed
    cases slashed
  · by_cases both : head = ':' ∧ rest.head? = some ':'
    · obtain ⟨rfl, colon⟩ := both
      obtain ⟨after, rfl⟩ := List.head?_eq_some_iff.1 colon
      rw [stem_separator] at slashed
      cases slashed
    · rw [stem_cons both] at slashed
      exact slashed

theorem stem_append {front : List Char} (closed : front.getLast? ≠ some ':') (rest : List Char) :
    stem (front ++ rest) = stem front ++ stem rest := by
  -- A separator takes two characters off the front, anything else takes one.
  match front with
  | [] => simp
  | [single] =>
    have other : single ≠ ':' := fun colon => closed (congrArg some colon)
    rw [List.singleton_append, stem_cons fun both => other both.1, stem_cons fun both => other both.1, stem_nil]
    rfl
  | first :: second :: more =>
    by_cases both : first = ':' ∧ second = ':'
    · obtain ⟨rfl, rfl⟩ := both
      have closed : more.getLast? ≠ some ':' := by
        rcases more with _ | ⟨next, more⟩
        · nofun
        · simpa using closed
      rw [List.cons_append, List.cons_append, stem_separator, stem_separator, stem_append closed rest]
      rfl
    · have other : ∀ after : List Char, ¬ (first = ':' ∧ (second :: after).head? = some ':') := by
        simpa using both
      have closed : (second :: more).getLast? ≠ some ':' := by simpa using closed
      rw [List.cons_append, List.cons_append, stem_cons (other _), stem_cons (other _), ← List.cons_append,
        stem_append closed rest]
      rfl

@[simp] theorem stem_replicate_append (count : Nat) (rest : List Char) :
    stem (List.replicate (2 * count) ':' ++ rest) = List.replicate count '.' ++ stem rest := by
  induction count with
  | zero => rfl
  | succ count ih =>
    rw [Nat.mul_succ, List.replicate_succ, List.replicate_succ, List.cons_append, List.cons_append,
      stem_separator, ih, List.replicate_succ]
    rfl

theorem exists_front (characters : List Char) : ∃ front, front.getLast? ≠ some ':' ∧
    characters = front ++ List.replicate (colonsAtEnd characters) ':' := by
  refine ⟨characters.rdropWhile (· = ':'), ?_, ?_⟩
  · -- A colon at the end of what is left would have been dropped as well.
    intro ends
    obtain ⟨front, whole⟩ := List.getLast?_eq_some_iff.1 ends
    have stopped := List.rdropWhile_idempotent (· = ':') characters
    rw [whole, List.rdropWhile_concat, if_pos (by decide)] at stopped
    have shorter := (List.rdropWhile_prefix (· = ':') front).length_le
    rw [stopped, List.length_append, List.length_singleton] at shorter
    omega
  · have colons : characters.rtakeWhile (· = ':') = List.replicate (colonsAtEnd characters) ':' :=
      List.eq_replicate_iff.2 ⟨rfl, fun character member => by simpa using List.mem_rtakeWhile_imp member⟩
    rw [← colons, List.rdropWhile_append_rtakeWhile]

theorem stem_append_of_even (even : Even (colonsAtEnd space)) (rest : List Char) :
    stem (space ++ rest) = stem space ++ stem rest := by
  obtain ⟨front, closed, whole⟩ := exists_front space
  obtain ⟨count, twice⟩ := even
  -- The run is used up by whole separators, so that nothing of it is left to join the rest.
  rw [twice, ← Nat.two_mul] at whole
  have dots := stem_replicate_append count []
  rw [List.append_nil, stem_nil, List.append_nil] at dots
  rw [whole, List.append_assoc, stem_append closed, stem_append closed, stem_replicate_append, dots,
    List.append_assoc]

/-- What ends with an odd number of colons is one colon behind what ends with an even number of them. -/
theorem exists_shorter_of_odd (odd : ¬ Even (colonsAtEnd space)) :
    ∃ shorter, space = shorter ++ [':'] ∧ Even (colonsAtEnd shorter) := by
  rw [Nat.not_even_iff_odd] at odd
  unfold colonsAtEnd at odd ⊢
  rcases List.eq_nil_or_concat space with rfl | ⟨shorter, last, rfl⟩
  · simp at odd
  · rw [List.concat_eq_append] at odd ⊢
    rw [List.rtakeWhile_concat] at odd
    split at odd
    · rename_i colon
      rw [List.length_append, List.length_singleton, Nat.odd_add_one, Nat.not_odd_iff_even] at odd
      exact ⟨shorter, by rw [of_decide_eq_true colon], odd⟩
    · exact absurd odd (by decide)

theorem stem_eq_self (plain : ¬ separator <:+: name) : stem name = name := by
  induction name with
  | nil => exact stem_nil
  | cons head rest ih =>
    rw [List.infix_cons_iff, not_or] at plain
    obtain ⟨notHere, later⟩ := plain
    rw [stem_cons, ih later]
    rintro ⟨rfl, colon⟩
    obtain ⟨after, rfl⟩ := List.head?_eq_some_iff.1 colon
    exact notHere ⟨after, rfl⟩

theorem stem_of_even (occurs : Text.LastOccurrence separator kind space name) (even : Even (colonsAtEnd space)) :
    stem kind = stem space ++ '.' :: name := by
  have split : kind = space ++ ':' :: ':' :: name := by rw [occurs.whole, List.append_assoc]; rfl
  rw [split, stem_append_of_even even, stem_separator, stem_eq_self (name_of_lastOccurrence occurs).1]

/-- Elsewhere the last colon of the namespace is replaced together with the first of the separator. -/
theorem stem_of_odd {shorter : List Char} (occurs : Text.LastOccurrence separator kind (shorter ++ [':']) name)
    (even : Even (colonsAtEnd shorter)) : stem kind = stem shorter ++ '.' :: ':' :: name := by
  obtain ⟨plain, single⟩ := name_of_lastOccurrence occurs
  have split : kind = shorter ++ ':' :: ':' :: ':' :: name := by
    rw [occurs.whole, List.append_assoc, List.append_assoc]
    rfl
  rw [split, stem_append_of_even even, stem_separator, stem_cons fun both => single both.2, stem_eq_self plain]

theorem stem_eq_iff (occurs : Text.LastOccurrence separator kind space name) :
    stem kind = stem space ++ '.' :: name ↔ Even (colonsAtEnd space) := by
  refine ⟨fun same => ?_, stem_of_even occurs⟩
  by_contra odd
  obtain ⟨shorter, rfl, even⟩ := exists_shorter_of_odd odd
  -- The two stems part at the period and the colon behind that of the shorter namespace.
  have colon : stem [':'] = [':'] := stem_eq_self (by decide)
  rw [stem_of_odd occurs even, stem_append_of_even even, colon, List.append_assoc] at same
  have parted := List.append_cancel_left same
  exact absurd (List.cons.inj parted).1 (by decide)

end

/-! ### Texts -/

section
variable {kind space name : String}

theorem splitKind?_eq_some_iff : splitKind? kind = some (space, name) ↔
    Text.LastOccurrence separator kind.toList space.toList name.toList ∧ space ≠ "" ∧ name ≠ "" := by
  have texts : splitKind? kind = some (space, name) ↔ split? kind.toList = some (space.toList, name.toList) := by
    unfold splitKind?
    rcases split? kind.toList with _ | ⟨before, after⟩
    · exact iff_of_false nofun nofun
    · simp [← String.toList_inj]
  rw [texts, split?_eq_some_iff]
  simp

@[simp] theorem toList_bundleStem (kind : String) : (bundleStem kind).toList = stem kind.toList :=
  String.toList_ofList

theorem bundleStem_eq_iff (occurs : Text.LastOccurrence separator kind.toList space.toList name.toList) :
    bundleStem kind = bundleStem space ++ "." ++ name ↔ Even (colonsAtEnd space.toList) := by
  rw [← stem_eq_iff occurs, ← String.toList_inj, toList_bundleStem]
  simp

theorem bundleStem_of_odd {shorter : String}
    (occurs : Text.LastOccurrence separator kind.toList (shorter ++ ":").toList name.toList)
    (even : Even (colonsAtEnd shorter.toList)) : bundleStem kind = bundleStem shorter ++ ".:" ++ name := by
  rw [String.toList_append] at occurs
  rw [← String.toList_inj, toList_bundleStem, stem_of_odd occurs even]
  simp

end

/-- A kind falls into namespace and name at its last separator if neither is empty. Its bundle stem is the stem of the
namespace, a period and the name exactly where the namespace ends with an even number of colons, and so is the name of
the bundle that a successful compilation of any topology of an accepted kind leaves. -/
theorem stems_follow_kinds (kind : String) :
    (∀ space name, splitKind? kind = some (space, name) ↔
      Text.LastOccurrence separator kind.toList space.toList name.toList ∧ space ≠ "" ∧ name ≠ "") ∧
    (∀ space name, splitKind? kind = some (space, name) →
      kind = space ++ "::" ++ name ∧ ¬ separator <:+: name.toList ∧ name.toList.head? ≠ some ':' ∧
      (bundleStem kind = bundleStem space ++ "." ++ name ↔ Even (colonsAtEnd space.toList)) ∧
      (¬ Even (colonsAtEnd space.toList) →
        ∃ shorter, space = shorter ++ ":" ∧ bundleStem kind = bundleStem shorter ++ ".:" ++ name)) ∧
    ∀ job accepted, Topology.ofComposite job kind = .ok accepted → accepted.composite = kind ∧
      ∃ space name, splitKind? kind = some (space, name) ∧
        ∀ topology : Topology, topology.composite = kind →
          ∀ (compiler : Compiler) runner standalone world bundle after,
            compiler.build runner topology standalone world = (.ok bundle, after) →
            Even (colonsAtEnd space.toList) →
              bundle.archive = bundle.directory.join (.ofText (bundleStem space ++ "." ++ name ++ ".sab")) := by
  refine ⟨fun space name => splitKind?_eq_some_iff, ?_, ?_⟩
  · intro space name split
    have occurs := (splitKind?_eq_some_iff.1 split).1
    obtain ⟨plain, single⟩ := name_of_lastOccurrence occurs
    refine ⟨?_, plain, single, bundleStem_eq_iff occurs, fun odd => ?_⟩
    · rw [← String.toList_inj, occurs.whole]
      simp [separator]
    · obtain ⟨shorter, whole, even⟩ := exists_shorter_of_odd odd
      have whole : space = String.ofList shorter ++ ":" := by rw [← String.toList_inj, whole]; simp
      refine ⟨String.ofList shorter, whole, bundleStem_of_odd (whole ▸ occurs) ?_⟩
      rwa [String.toList_ofList]
  · intro job accepted made
    unfold Topology.ofComposite at made
    split at made
    · rename_i parts split
      obtain ⟨space, name⟩ := parts
      cases made
      refine ⟨rfl, space, name, split, fun topology same compiler runner standalone world bundle after built even => ?_⟩
      obtain ⟨ending, left, -, ended⟩ := build_apply runner Http.unreachable world compiler topology standalone
      rw [ended] at built
      rcases ending with cause | output
      · cases built
      · cases built
        have stem := (bundleStem_eq_iff (splitKind?_eq_some_iff.1 split).1).2 even
        show Path.join _ (.ofText (bundleStem topology.composite ++ ".sab")) = _
        rw [same, stem]
        rfl
    · cases made

theorem stems_follow_kinds_evenRun :
    splitKind? "x::y::::Main" = some ("x::y::", "Main") ∧ Even (colonsAtEnd "x::y::".toList) ∧
      bundleStem "x::y::::Main" = bundleStem "x::y::" ++ "." ++ "Main" := by
  have split : splitKind? "x::y::::Main" = some ("x::y::", "Main") := by decide
  have even : Even (colonsAtEnd "x::y::".toList) := by decide
  exact ⟨split, even, ((stems_follow_kinds "x::y::::Main").2.1 _ _ split).2.2.2.1.2 even⟩

/-- Of three colons the last two divide the kind, and the first two become a period. -/
theorem stems_part_in_runs :
    splitKind? "a:::B" = some ("a:", "B") ∧ bundleStem "a:::B" = "a.:B" ∧
      bundleStem "a:::B" ≠ bundleStem "a:" ++ "." ++ "B" := by
  have stem : bundleStem "a:::B" = "a.:B" := by cbv
  have space : bundleStem "a:" = "a:" := by cbv
  refine ⟨by decide, stem, ?_⟩
  rw [stem, space]
  decide

end ScenarioBench.Composite
