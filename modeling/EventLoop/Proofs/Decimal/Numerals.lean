import EventLoop.Decimal.Numeral
import Mathlib.Data.Char
import Mathlib.Data.List.Induction

/-! # The grammar of plain numerals

    A numeral grows at its end: one digit is a numeral, and a numeral with one more digit is
    a numeral of ten times the value and the digit. `Numeral` is that grammar, and it does
    not mention the reader.

    * `numeral_iff`: the grammar is the reader's test, with the reader's value;
    * `readUpTo?_eq_some_iff`: reading with a limit finds the numerals up to the limit, and
      no others;
    * `numeral_digits`, `Numeral.eq_digits`: what is printed is a numeral of the number, and
      the only one that does not start with an idle zero.

    Every induction here is on the last digit, which is the one the value and the printer
    treat alike. -/

namespace EventLoop.Decimal

variable {cs : List Char} {c : Char} {d n limit : Nat}

/-- The numerals, with the number each one stands for. -/
inductive Numeral : List Char → Nat → Prop
  | digit {d : Nat} : d < 10 → Numeral [d.digitChar] d
  | snoc {cs : List Char} {n d : Nat} :
      Numeral cs n → d < 10 → Numeral (cs ++ [d.digitChar]) (10 * n + d)

/-! ## Digits -/

/-- A digit counts as far as it stands from `0`. -/
theorem digitChar_value (hd : d < 10) : d.digitChar.toNat - '0'.toNat = d := by
  rw [Nat.toNat_digitChar_of_lt_ten hd]
  exact Nat.add_sub_cancel_left _ _

/-- The ten digit characters are all there are. -/
theorem exists_digit (h : c.isDigit) : ∃ d < 10, c = d.digitChar := by
  have low : 48 ≤ c.toNat := (Char.isDigit_iff_toNat.mp h).1
  have high : c.toNat ≤ 57 := (Char.isDigit_iff_toNat.mp h).2
  have hd : c.toNat - 48 < 10 := by omega
  refine ⟨c.toNat - 48, hd, Char.toNat_inj.mp ?_⟩
  rw [Nat.toNat_digitChar_of_lt_ten hd]
  omega

theorem isDigit_digitChar (hd : d < 10) : d.digitChar.isDigit := by
  refine Char.isDigit_iff_toNat.mpr ?_
  rw [Nat.toNat_digitChar_of_lt_ten hd]
  exact ⟨Nat.le_add_right 48 d, Nat.add_le_add_left (Nat.le_of_lt_succ hd) 48⟩

/-! ## The value -/

theorem value_singleton (hd : d < 10) : value [d.digitChar] = d := by
  rw [value, List.foldl_cons, List.foldl_nil, digitChar_value hd, Nat.zero_add]

/-- A digit behind a numeral multiplies its value by ten and adds its own. -/
theorem value_snoc (cs : List Char) (hd : d < 10) :
    value (cs ++ [d.digitChar]) = 10 * value cs + d := by
  rw [value, List.foldl_append, List.foldl_cons, List.foldl_nil, digitChar_value hd]
  rfl

theorem Numeral.ne_nil (h : Numeral cs n) : cs ≠ [] := by
  cases h with
  | digit => exact List.cons_ne_nil _ _
  | snoc => simp

/-- A numeral has digits only. -/
theorem Numeral.all_isDigit (h : Numeral cs n) : cs.all Char.isDigit := by
  induction h with
  | digit hd => simpa using isDigit_digitChar hd
  | snoc _ hd ih => simp [List.all_append, ih, isDigit_digitChar hd]

/-- The value that is computed from a numeral is the one it is written for. -/
theorem Numeral.value_eq (h : Numeral cs n) : value cs = n := by
  induction h with
  | digit hd => exact value_singleton hd
  | snoc _ hd ih => rw [value_snoc _ hd, ih]

/-- Digits, and at least one, make a numeral of their value. -/
theorem numeral_value (hne : cs ≠ []) (h : cs.all Char.isDigit) : Numeral cs (value cs) := by
  -- on the digits from the last one, the way the value is computed
  induction cs using List.reverseRecOn with
  | nil => exact absurd rfl hne
  | append_singleton init last ih =>
    rw [List.all_append, Bool.and_eq_true] at h
    obtain ⟨d, hd, rfl⟩ := exists_digit (List.all_eq_true.mp h.2 last (List.mem_singleton_self _))
    by_cases first : init = []
    · rw [first, List.nil_append, value_singleton hd]
      exact .digit hd
    · rw [value_snoc init hd]
      exact .snoc (ih first h.1) hd

/-- A numeral is a nonempty run of digits, with the value they have. -/
theorem numeral_iff : Numeral cs n ↔ cs ≠ [] ∧ cs.all Char.isDigit ∧ value cs = n := by
  constructor
  · intro h
    exact ⟨h.ne_nil, h.all_isDigit, h.value_eq⟩
  · rintro ⟨hne, h, rfl⟩
    exact numeral_value hne h

/-! ## Reading -/

/-- The reader finds a number exactly in its numerals, leading zeros included. -/
theorem readNat?_eq_some_iff : readNat? cs = some n ↔ Numeral cs n := by
  rw [numeral_iff, readNat?]
  split
  · rename_i h
    simp [h]
  · rename_i h
    simp only [reduceCtorEq, false_iff]
    rintro ⟨hne, digits, -⟩
    exact h ⟨hne, digits⟩

/-- Reading with a limit finds the numerals up to the limit. -/
theorem readUpTo?_eq_some_iff : readUpTo? limit cs = some n ↔ Numeral cs n ∧ n ≤ limit := by
  rw [readUpTo?, Option.filter_eq_some_iff, readNat?_eq_some_iff, decide_eq_true_iff]

/-- A character that is no digit stands in no numeral. -/
theorem Numeral.not_mem (h : Numeral cs n) (hc : c.isDigit = false) : c ∉ cs := by
  intro hmem
  have := List.all_eq_true.mp h.all_isDigit c hmem
  rw [hc] at this
  exact Bool.noConfusion this

/-! ## Printing -/

theorem digits_of_lt_ten (hd : d < 10) : digits d = [d.digitChar] :=
  Nat.toDigits_of_lt_base hd

/-- Printing goes by the last digit, too. -/
theorem digits_snoc (hn : 0 < n) (hd : d < 10) :
    digits (10 * n + d) = digits n ++ [d.digitChar] := by
  have := Nat.toDigits_append_toDigits (by decide : 1 < 10) hn hd
  rw [Nat.toDigits_of_lt_base hd] at this
  exact this.symm

/-- The numbers by their last digit: one digit, or a digit after a number that is not zero. -/
@[elab_as_elim]
theorem lastDigit {P : Nat → Prop} (digit : ∀ d < 10, P d)
    (snoc : ∀ n d, 0 < n → d < 10 → P n → P (10 * n + d)) (n : Nat) : P n := by
  induction n using Nat.strongRecOn with
  | ind n ih =>
    by_cases small : n < 10
    · exact digit n small
    · have last : n % 10 < 10 := Nat.mod_lt n (by decide)
      have front : 0 < n / 10 := by omega
      have := snoc (n / 10) (n % 10) front last (ih (n / 10) (by omega))
      rwa [Nat.div_add_mod] at this

/-- What is printed for a number is a numeral of it. -/
theorem numeral_digits (n : Nat) : Numeral (digits n) n := by
  -- on the number: its digits but the last are those of a tenth of it
  induction n using lastDigit with
  | digit d hd =>
    rw [digits_of_lt_ten hd]
    exact .digit hd
  | snoc n d hn hd ih =>
    rw [digits_snoc hn hd]
    exact .snoc ih hd

/-- The numeral has no idle zero in front: a zero stands first in `0` only. -/
def Plain (cs : List Char) : Prop := cs.head? = some '0' → cs = ['0']

/-- A digit more leaves the first character where it was. -/
theorem Numeral.head?_append (h : Numeral cs n) (more : List Char) :
    (cs ++ more).head? = cs.head? := by
  obtain ⟨first, rest, rfl⟩ := List.exists_cons_of_ne_nil h.ne_nil
  rfl

/-- A plain numeral is what is printed for its value. -/
theorem Numeral.eq_digits (h : Numeral cs n) (plain : Plain cs) : cs = digits n := by
  -- on the numeral, from its last digit; no leading zero leaves one form only
  induction h with
  | digit hd => exact (digits_of_lt_ten hd).symm
  | @snoc front n d numeral hd ih =>
    have head : front.head? ≠ some '0' := by
      intro zero
      have single := plain ((numeral.head?_append _).trans zero)
      have short : front.length + 1 = 1 := by simpa using congrArg List.length single
      exact numeral.ne_nil (List.length_eq_zero_iff.mp (Nat.succ.inj short))
    have printed : front = digits n := ih fun zero => absurd zero head
    have positive : 0 < n := by
      refine Nat.pos_of_ne_zero ?_
      rintro rfl
      exact head (congrArg List.head? printed)
    rw [digits_snoc positive hd, ← printed]

end EventLoop.Decimal
