import ScenarioBench.Proofs.AbsolutePaths

/-! The order of texts and the order of their octets.

Texts are compared by their characters, and what stores them compares octets. Both orders are one, since the form of a
greater character is greater at the first octet in which the two forms differ.
-/

set_option autoImplicit false

namespace ScenarioBench.Octets

section
variable {first second scalar greater : Nat} {more others : Octets}

theorem lt_of_head (less : first < second) (fits : second < 256) :
    UInt8.ofNat first :: more < UInt8.ofNat second :: others := by
  have heads : UInt8.ofNat first < UInt8.ofNat second := by
    rw [UInt8.lt_iff_toNat_lt, UInt8.toNat_ofNat', UInt8.toNat_ofNat']
    omega
  exact List.cons_lt_cons_iff.2 (.inl heads)

theorem lt_of_tail (same : first = second) (tails : more < others) :
    UInt8.ofNat first :: more < UInt8.ofNat second :: others :=
  List.cons_lt_cons_iff.2 (.inr ⟨congrArg UInt8.ofNat same, tails⟩)

-- The octets behind the first one hold six bits each; they are compared from the last one on.

theorem lt_of_one (less : scalar % 64 < greater % 64) :
    UInt8.ofNat (scalar % 64 + 128) :: more < UInt8.ofNat (greater % 64 + 128) :: others := by
  apply lt_of_head <;> omega

theorem lt_of_two (less : scalar % 4096 < greater % 4096) :
    UInt8.ofNat (scalar / 64 % 64 + 128) :: UInt8.ofNat (scalar % 64 + 128) :: more <
      UInt8.ofNat (greater / 64 % 64 + 128) :: UInt8.ofNat (greater % 64 + 128) :: others := by
  rcases Nat.lt_or_ge (scalar / 64 % 64) (greater / 64 % 64) with head | head
  · apply lt_of_head <;> omega
  · have heads : scalar / 64 % 64 + 128 = greater / 64 % 64 + 128 := by omega
    apply lt_of_tail heads
    apply lt_of_one
    omega

theorem lt_of_three (less : scalar % 262144 < greater % 262144) :
    UInt8.ofNat (scalar / 4096 % 64 + 128) :: UInt8.ofNat (scalar / 64 % 64 + 128) ::
        UInt8.ofNat (scalar % 64 + 128) :: more <
      UInt8.ofNat (greater / 4096 % 64 + 128) :: UInt8.ofNat (greater / 64 % 64 + 128) ::
        UInt8.ofNat (greater % 64 + 128) :: others := by
  rcases Nat.lt_or_ge (scalar / 4096 % 64) (greater / 4096 % 64) with head | head
  · apply lt_of_head <;> omega
  · have heads : scalar / 4096 % 64 + 128 = greater / 4096 % 64 + 128 := by omega
    apply lt_of_tail heads
    apply lt_of_two
    omega

end

theorem encode_append_lt {first second : Char} (less : first < second) (more others : Octets) :
    String.utf8EncodeChar first ++ more < String.utf8EncodeChar second ++ others := by
  have scalars : first.val.toNat < second.val.toNat := less
  have bound : second.val.toNat < 0x110000 := by
    have valid := second.valid
    rcases valid with low | ⟨-, high⟩ <;> omega
  unfold String.utf8EncodeChar
  generalize first.val.toNat = scalar at scalars
  generalize second.val.toNat = greater at scalars bound
  dsimp only
  -- A longer form has the greater first octet.
  by_cases one : greater ≤ 0x7F
  · rw [if_pos one, if_pos (by omega : scalar ≤ 0x7F)]
    apply lt_of_head <;> omega
  rw [if_neg one]
  by_cases two : greater ≤ 0x7FF
  · rw [if_pos two]
    split
    · apply lt_of_head <;> omega
    · rw [if_pos (by omega : scalar ≤ 0x7FF)]
      rcases Nat.lt_or_ge (scalar / 64) (greater / 64) with head | head
      · apply lt_of_head <;> omega
      · apply lt_of_tail (by omega)
        apply lt_of_one
        omega
  rw [if_neg two]
  by_cases three : greater ≤ 0xFFFF
  · rw [if_pos three]
    split
    · apply lt_of_head <;> omega
    · split
      · apply lt_of_head <;> omega
      · rw [if_pos (by omega : scalar ≤ 0xFFFF)]
        rcases Nat.lt_or_ge (scalar / 4096) (greater / 4096) with head | head
        · apply lt_of_head <;> omega
        · apply lt_of_tail (by omega)
          apply lt_of_two
          omega
  rw [if_neg three]
  split
  · apply lt_of_head <;> omega
  · split
    · apply lt_of_head <;> omega
    · split
      · apply lt_of_head <;> omega
      · rcases Nat.lt_or_ge (scalar / 262144) (greater / 262144) with head | head
        · apply lt_of_head <;> omega
        · apply lt_of_tail (by omega)
          apply lt_of_three
          omega

theorem flatMap_encode_lt {characters others : List Char} (less : characters < others) :
    characters.flatMap String.utf8EncodeChar < others.flatMap String.utf8EncodeChar := by
  induction characters generalizing others with
  | nil =>
    cases others with
    | nil => exact absurd less (List.lt_irrefl _)
    | cons other rest =>
      obtain ⟨octet, more, form⟩ := List.exists_cons_of_ne_nil (String.utf8EncodeChar_ne_nil (c := other))
      rw [List.flatMap_cons, form]
      exact List.nil_lt_cons _ _
  | cons character rest ih =>
    cases others with
    | nil => exact absurd less (List.not_lt_nil _)
    | cons other more =>
      rw [List.flatMap_cons, List.flatMap_cons]
      rcases List.cons_lt_cons_iff.1 less with head | ⟨rfl, tail⟩
      · exact encode_append_lt head _ _
      · exact List.append_left_lt (ih tail)

/-- The order of texts is that of their octets. -/
theorem ofText_lt_iff {first second : String} : ofText first < ofText second ↔ first < second := by
  have monotone : ∀ {text other : String}, text < other → ofText text < ofText other := by
    intro text other less
    rw [ofText_eq_flatMap, ofText_eq_flatMap]
    exact flatMap_encode_lt less
  constructor
  · intro less
    by_cases ascending : first < second
    · exact ascending
    · by_cases descending : second < first
      · exact absurd less (List.lt_asymm (monotone descending))
      · have same : first = second := String.le_antisymm (String.not_lt.1 descending) (String.not_lt.1 ascending)
        rw [same] at less
        exact absurd less (List.lt_irrefl _)
  · exact monotone

end ScenarioBench.Octets
