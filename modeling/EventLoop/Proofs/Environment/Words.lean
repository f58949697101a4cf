import EventLoop.Environment
import EventLoop.Proofs.Decimal.Integers
import Mathlib.Data.List.DropRight

/-! # What variables say

    A variable says a word when it is set to a text in which the word stands alone, with any
    blanks in front of it and behind it (`Environment.Says`). A variable that is unset or
    whose bytes are no text says nothing.

    * `padded_iff`: trimming finds the word that stands alone in a text, as long as no blank
      is part of it. Every word that a reader knows is of that kind;
    * `says_ofBytes`: the same of the bytes that a variable is set to, which have to be
      UTF-8;
    * `int?_eq_some_iff`, `switch_iff`: an integer is read exactly when the variable says
      one of its written forms, and a switch is on exactly when the variable says one of
      four words. -/

namespace EventLoop

/-! ## Blanks around a word -/

namespace Text

variable {cs word before after : List Char} {c : Char}

/-- There is nothing but blanks. -/
def Blanks (cs : List Char) : Prop := ∀ c ∈ cs, isBlank c = true

instance : Decidable (Blanks cs) := decidable_of_iff (cs.all isBlank = true) List.all_eq_true

/-- No blank is part of the word. -/
def Solid (word : List Char) : Prop := ∀ c ∈ word, isBlank c = false

instance : Decidable (Solid word) :=
  decidable_of_iff (word.all (fun c => !isBlank c) = true) (by simp [Solid])

/-- The text is the word with blanks around it. -/
def Padded (cs word : List Char) : Prop :=
  ∃ before after, cs = before ++ word ++ after ∧ Blanks before ∧ Blanks after

/-- Blanks in front are trimmed away. -/
theorem trim_append_left (h : Blanks before) (cs : List Char) :
    trim (before ++ cs) = trim cs := by
  rw [trim, List.dropWhile_append_of_pos h, trim]

theorem trim_append_right (h : Blanks after) (cs : List Char) :
    trim (cs ++ after) = trim cs := by
  rw [trim, trim, List.dropWhile_append]
  split
  · -- nothing but blanks was there
    rename_i hempty
    rw [List.dropWhile_eq_nil_iff.mpr h, List.isEmpty_iff.mp hempty]
  · have hreverse : ∀ c ∈ after.reverse, isBlank c = true :=
      fun c hc => h c (List.mem_reverse.mp hc)
    rw [List.reverse_append, List.dropWhile_append_of_pos hreverse]

theorem Solid.dropWhile_eq (h : Solid word) : word.dropWhile isBlank = word := by
  rw [List.dropWhile_eq_self_iff]
  intro hword hblank
  rw [h _ (List.getElem_mem hword)] at hblank
  cases hblank

/-- A word with no blanks at its ends is trimmed already. -/
theorem Solid.trim_eq (h : Solid word) : trim word = word := by
  have hreverse : Solid word.reverse := fun c hc => h c (List.mem_reverse.mp hc)
  rw [trim, h.dropWhile_eq, hreverse.dropWhile_eq, List.reverse_reverse]

/-- Trimming takes off blanks only. -/
theorem padded_trim (cs : List Char) : Padded cs (trim cs) := by
  refine ⟨cs.takeWhile isBlank, (cs.dropWhile isBlank).rtakeWhile isBlank, ?_,
    fun c hc => List.mem_takeWhile_imp hc, fun c hc => List.mem_rtakeWhile_imp hc⟩
  calc cs = cs.takeWhile isBlank ++ cs.dropWhile isBlank := List.takeWhile_append_dropWhile.symm
    _ = cs.takeWhile isBlank
          ++ ((cs.dropWhile isBlank).rdropWhile isBlank ++ (cs.dropWhile isBlank).rtakeWhile
            isBlank) := by
        rw [List.rdropWhile_append_rtakeWhile]
    _ = _ := (List.append_assoc _ _ _).symm

/-- Padding does not show in what is left after trimming. -/
theorem Padded.trim_eq (h : Padded cs word) : trim cs = trim word := by
  obtain ⟨before, after, rfl, hbefore, hafter⟩ := h
  rw [trim_append_right hafter, trim_append_left hbefore]

/-- Trimming twice is trimming once. -/
theorem trim_trim (cs : List Char) : trim (trim cs) = trim cs := (padded_trim cs).trim_eq.symm

/-- Trimming finds the word that stands alone. -/
theorem padded_iff (solid : Solid word) : Padded cs word ↔ trim cs = word := by
  constructor
  · intro h
    rw [h.trim_eq, solid.trim_eq]
  · rintro rfl
    exact padded_trim cs

/-! ## Characters that are no blanks -/

/-- Among the ASCII characters only the space and controls are blanks. -/
theorem isBlank_of_ascii (low : 0x20 < c.toNat) (high : c.toNat < 0x80) : isBlank c = false := by
  simp only [isBlank, Bool.or_eq_false_iff, Bool.and_eq_false_iff, decide_eq_false_iff_not,
    beq_eq_false_iff_ne]
  omega

/-- A digit is no blank, so numerals survive trimming. -/
theorem isBlank_of_isDigit (h : c.isDigit) : isBlank c = false := by
  obtain ⟨low, high⟩ := Char.isDigit_iff_toNat.mp h
  exact isBlank_of_ascii (Nat.lt_of_lt_of_le (by decide) low) (Nat.lt_of_le_of_lt high (by decide))

/-- A capital is no blank, nor is its small letter. -/
theorem isBlank_toLower (c : Char) : isBlank c.toLower = isBlank c := by
  by_cases capital : 'A'.val ≤ c.val ∧ c.val ≤ 'Z'.val
  · have low : 65 ≤ c.toNat := capital.1
    have high : c.toNat ≤ 90 := capital.2
    have shifted : (c.val + ('a'.val - 'A'.val)).toNat = c.toNat + 32 := by
      rw [UInt32.toNat_add]
      exact Nat.mod_eq_of_lt (by omega : c.toNat + 32 < 2 ^ 32)
    have lower : c.toLower.toNat = c.toNat + 32 :=
      (congrArg Char.toNat (dif_pos capital : c.toLower = _)).trans shifted
    rw [isBlank_of_ascii (c := c) (by omega) (by omega), isBlank_of_ascii (by omega) (by omega)]
  · exact congrArg isBlank (dif_neg capital)

/-- A word whose small letters are solid is solid. -/
theorem Solid.of_map_toLower (h : Solid (word.map Char.toLower)) : Solid word :=
  fun c hc => isBlank_toLower c ▸ h c.toLower (List.mem_map_of_mem hc)

end Text

/-! ## Bytes and texts -/

variable {bytes : Bytes} {s : String}

/-- A value is text exactly when its bytes are the UTF-8 form of the text. -/
theorem Value.ofBytes_eq_text_iff :
    Value.ofBytes bytes = .text s ↔ bytes = s.toUTF8.data.toList := by
  rw [ofBytes, String.fromUTF8?]
  by_cases valid : (⟨bytes.toArray⟩ : ByteArray).IsValidUTF8
  · rw [dif_pos valid]
    constructor
    · rintro ⟨⟩
      rfl
    · rintro rfl
      rfl
  · rw [dif_neg valid]
    constructor
    · rintro ⟨⟩
    · rintro rfl
      exact absurd s.isValidUTF8 valid

namespace Environment

variable {env : Environment} {key : String} {word : List Char} {range : Decimal.IntRange} {v : Int}

/-- The variable is set to a text in which the word stands alone. -/
def Says (env : Environment) (key : String) (word : List Char) : Prop :=
  ∃ s, env.text? key = some s ∧ Text.Padded s.toList word

/-- Of a variable that was set to bytes: they are the UTF-8 form of such a text. -/
theorem says_ofBytes (h : env.bindings.lookup key = some (Value.ofBytes bytes)) :
    env.Says key word ↔ ∃ s : String, bytes = s.toUTF8.data.toList ∧ Text.Padded s.toList word := by
  have htext : ∀ s, env.text? key = some s ↔ bytes = s.toUTF8.data.toList := by
    intro s
    rw [← Value.ofBytes_eq_text_iff, text?, h]
    cases Value.ofBytes bytes <;> simp
  exact exists_congr fun s => and_congr_left fun _ => htext s

/-- What is read of a variable is the word that it says. -/
theorem trimmed?_eq_some_iff (solid : Text.Solid word) :
    env.trimmed? key = some word ↔ env.Says key word := by
  rw [trimmed?, Option.map_eq_some_iff]
  exact exists_congr fun s => and_congr_right fun _ => (Text.padded_iff solid).symm

/-! ## Integers -/

/-- What is written for an integer has no blanks in it. -/
theorem solid_of_spells (h : range.Spells word v) : Text.Solid word := by
  have digits {cs : List Char} {n : Nat} (numeral : Decimal.Numeral cs n) : Text.Solid cs :=
    fun c hc => Text.isBlank_of_isDigit (List.all_eq_true.mp numeral.all_isDigit c hc)
  cases h.1 with
  | bare numeral => exact digits numeral
  | plus numeral => exact List.forall_mem_cons.mpr ⟨rfl, digits numeral⟩
  | minus _ numeral => exact List.forall_mem_cons.mpr ⟨rfl, digits numeral⟩

/-- The variable says a written form of the integer. -/
def Spells (env : Environment) (range : Decimal.IntRange) (key : String) (v : Int) : Prop :=
  ∃ word, env.Says key word ∧ range.Spells word v

/-- An integer is read from a variable exactly when the variable spells it. -/
theorem int?_eq_some_iff : env.int? range key = some v ↔ env.Spells range key v := by
  rw [int?, Option.bind_eq_some_iff]
  refine exists_congr fun word => ?_
  rw [Decimal.readInt?_eq_some_iff]
  exact and_congr_left fun h => trimmed?_eq_some_iff (solid_of_spells h)

/-! ## Switches -/

/-- The variable says one of the words that turn a switch on, in any case. -/
def Affirms (env : Environment) (key : String) : Prop :=
  ∃ word, env.Says key word ∧ String.ofList (word.map Char.toLower) ∈ ["1", "true", "yes", "on"]

/-- A switch that is not set has its fallback. -/
theorem switch_of_unset {fallback : Bool} (h : env.isSet key = false) :
    env.switch key fallback = fallback := by
  rw [switch, trimmed?, text?, Option.isNone_iff_eq_none.mp (Option.isSome_eq_false_iff.mp h)]
  rfl

/-- A switch is on exactly when its variable affirms it. -/
theorem switch_iff : env.switch key false = true ↔ env.Affirms key := by
  have solid {word : List Char}
      (h : String.ofList (word.map Char.toLower) ∈ ["1", "true", "yes", "on"]) :
      Text.Solid word := by
    have words : ∀ w ∈ ["1", "true", "yes", "on"], Text.Solid w.toList := by decide
    refine .of_map_toLower ?_
    rw [← String.toList_ofList (l := word.map Char.toLower)]
    exact words _ h
  rw [switch]
  constructor
  · intro hon
    split at hon
    · rename_i word hword
      have known := List.contains_iff_mem.mp hon
      exact ⟨word, (trimmed?_eq_some_iff (solid known)).mp hword, known⟩
    · cases hon
  · rintro ⟨word, hsaid, known⟩
    rw [(trimmed?_eq_some_iff (solid known)).mpr hsaid]
    exact List.contains_iff_mem.mpr known

end Environment

end EventLoop
