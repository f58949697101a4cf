import EventLoop.Proofs.Address.Grammar

/-! # Parsing undoes printing

    The printed form of an address is one of its written forms, so the parser finds the
    address again. Nothing is enumerated: the printer writes numerals of the five numbers
    (`Decimal.numeral_digits`), and the grammar takes the numerals wherever they come from.

    * `written_text`: the printed form is a written form;
    * `parse_text`: parsing undoes printing, a port alone stands for every interface, and
      what an accepted text stands for does not change by printing it and parsing it again;
    * `ofList_eq_text`: of the full forms without idle zeros, the printed one is the only
      one. -/

namespace EventLoop.Address

open Decimal

/-- The octets are printed as they are written. -/
theorem dotted_chars (ip : Ipv4) : Dotted ip.chars ip :=
  .mk (numeral_digits _) (numeral_digits _) (numeral_digits _) (numeral_digits _)

/-- The printed form is a written form. -/
theorem written_text (addr : Address) : Written addr.text.toList addr := by
  rw [text, String.toList_ofList]
  exact .full (dotted_chars addr.ip) (numeral_digits addr.port.toNat)

/-- The decimal text of a port is a written form. -/
theorem written_port (p : UInt16) : Written (toString p).toList ⟨.unspecified, p⟩ := by
  have printed : toString p = String.ofList (digits p.toNat) := Nat.toString_eq_ofList_toDigits
  rw [printed, String.toList_ofList]
  exact .bare (numeral_digits p.toNat)

/-- Parsing undoes printing. A port in decimal stands for itself on every interface. An accepted
    text may have idle zeros or be a port alone: the printed form stands for the same address,
    and two accepted texts have one printed form exactly when they stand for one address. -/
theorem parse_text :
    (∀ addr : Address, parse addr.text = .ok addr) ∧
    (∀ p : UInt16, parse (toString p) = .ok ⟨.unspecified, p⟩) ∧
    (∀ input addr, parse input = .ok addr → parse addr.text = .ok addr) ∧
    (∀ input₁ addr₁ input₂ addr₂, parse input₁ = .ok addr₁ → parse input₂ = .ok addr₂ →
      (addr₁.text = addr₂.text ↔ parse input₁ = parse input₂)) := by
  have roundtrip (addr : Address) : parse addr.text = .ok addr :=
    parse_eq_ok_iff.mpr (written_text addr)
  refine ⟨roundtrip, fun p => parse_eq_ok_iff.mpr (written_port p), ?_, ?_⟩
  · intro input addr _
    exact roundtrip addr
  · intro input₁ addr₁ input₂ addr₂ h₁ h₂
    rw [h₁, h₂]
    constructor
    · intro same
      rw [← roundtrip addr₁, same, roundtrip addr₂]
    · intro same
      rw [Except.ok.inj same]

/-- Idle zeros and a port alone: the printed forms stand for the same addresses, and a port alone is
printed as the full form of it is. -/
theorem parse_text_zeros :
    parse (text ⟨⟨7, 0, 0, 1⟩, 80⟩) = .ok ⟨⟨7, 0, 0, 1⟩, 80⟩ ∧
    (text ⟨.unspecified, 80⟩ = text ⟨⟨0, 0, 0, 0⟩, 80⟩ ↔ parse "80" = parse "0.00.0.0:080") :=
  ⟨parse_text.2.2.1 "007.0.0.01:080" ⟨⟨7, 0, 0, 1⟩, 80⟩ (by rfl),
    parse_text.2.2.2 "80" _ "0.00.0.0:080" _ (by rfl) (by rfl)⟩

/-- Of the full forms without idle zeros, the printed one is the only one. -/
theorem ofList_eq_text {o₁ o₂ o₃ o₄ n : List Char} {a b c d : UInt8} {p : UInt16}
    (h₁ : Numeral o₁ a.toNat) (h₂ : Numeral o₂ b.toNat) (h₃ : Numeral o₃ c.toNat)
    (h₄ : Numeral o₄ d.toNat) (hn : Numeral n p.toNat)
    (plain : ∀ part ∈ [o₁, o₂, o₃, o₄, n], Plain part) :
    String.ofList ((o₁ ++ '.' :: (o₂ ++ '.' :: (o₃ ++ '.' :: o₄))) ++ ':' :: n)
      = text ⟨⟨a, b, c, d⟩, p⟩ := by
  rw [text, Ipv4.chars, ← h₁.eq_digits (plain _ (by simp)), ← h₂.eq_digits (plain _ (by simp)),
    ← h₃.eq_digits (plain _ (by simp)), ← h₄.eq_digits (plain _ (by simp)),
    ← hn.eq_digits (plain _ (by simp))]

end EventLoop.Address
