import EventLoop.Proofs.Decimal.Numerals

/-! # The grammar of integers

    An integer is written as a numeral, with or without a plus sign, or with a minus sign in
    front where the type has negative values. `IntRange.Spells` adds that the type holds the
    value: a text whose value lies outside stands for nothing, whatever it would come to in
    the type's own arithmetic.

    * `readInt?_eq_some_iff`: the reader finds what is written, and nothing else;
    * `spells_toString`: what is printed for a value of the type is one of its written
      forms.

    The reader looks at the first character, the grammar at the whole text: they agree
    because no sign is a digit (`Numeral.not_mem`). -/

namespace EventLoop.Decimal

variable {cs : List Char} {c : Char} {n : Nat} {v : Int} {r : IntRange}

/-- The written forms of integers; the last one is for types with negative values. -/
inductive Signed (negatives : Bool) : List Char → Int → Prop
  | bare {cs : List Char} {n : Nat} : Numeral cs n → Signed negatives cs n
  | plus {cs : List Char} {n : Nat} : Numeral cs n → Signed negatives ('+' :: cs) n
  | minus {cs : List Char} {n : Nat} :
      negatives = true → Numeral cs n → Signed negatives ('-' :: cs) (-n)

/-- The text is a written form of a value of the type. -/
def IntRange.Spells (r : IntRange) (cs : List Char) (v : Int) : Prop :=
  Signed r.isSigned cs v ∧ r.lowest ≤ v ∧ v ≤ r.highest

/-! ## Reading -/

/-- A numeral does not start with a sign. -/
theorem Numeral.head_ne (h : Numeral (c :: cs) n) {sign : Char} (hsign : sign.isDigit = false) :
    c ≠ sign := by
  rintro rfl
  exact h.not_mem hsign List.mem_cons_self

/-- The reader finds what is written, and nothing else. -/
theorem readInt?_eq_some_iff : readInt? r cs = some v ↔ r.Spells cs v := by
  rw [IntRange.Spells, readInt?.eq_def, Option.filter_eq_some_iff, IntRange.holds,
    decide_eq_true_iff]
  refine and_congr_left fun _ => ⟨?_, ?_⟩
  · intro hread
    split at hread
    · obtain ⟨n, hn, rfl⟩ := Option.map_eq_some_iff.mp hread
      exact .plus (readNat?_eq_some_iff.mp hn)
    · split at hread
      · rename_i negative
        obtain ⟨n, hn, rfl⟩ := Option.map_eq_some_iff.mp hread
        exact .minus negative (readNat?_eq_some_iff.mp hn)
      · cases hread
    · obtain ⟨n, hn, rfl⟩ := Option.map_eq_some_iff.mp hread
      exact .bare (readNat?_eq_some_iff.mp hn)
  · intro signed
    cases signed with
    | @bare _ n numeral =>
      split
      · exact absurd rfl (numeral.head_ne rfl : '+' ≠ '+')
      · exact absurd rfl (numeral.head_ne rfl : '-' ≠ '-')
      · rw [readNat?_eq_some_iff.mpr numeral]
        rfl
    | plus numeral => simp [readNat?_eq_some_iff.mpr numeral]
    | minus negative numeral => simp [negative, readNat?_eq_some_iff.mpr numeral]

/-! ## Printing -/

/-- What is printed for a value of the type is a written form of it. -/
theorem spells_toString (low : r.lowest ≤ v) (high : v ≤ r.highest) :
    r.Spells (toString v).toList v := by
  have printed (n : Nat) : (toString n).toList = digits n := by
    rw [Nat.toString_eq_ofList_toDigits, String.toList_ofList]
    rfl
  refine ⟨?_, low, high⟩
  cases v with
  | ofNat n =>
    show Signed _ (toString n).toList n
    rw [printed]
    exact .bare (numeral_digits n)
  | negSucc n =>
    have negative : r.isSigned = true :=
      decide_eq_true (Int.lt_of_le_of_lt low (Int.negSucc_lt_zero n))
    show Signed _ ("-" ++ toString (n + 1)).toList _
    rw [String.toList_append, printed]
    exact .minus negative (numeral_digits (n + 1))

end EventLoop.Decimal
