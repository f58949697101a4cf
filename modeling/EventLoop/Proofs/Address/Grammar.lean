import EventLoop.Address
import EventLoop.Proofs.Decimal.Numerals
import Mathlib.Data.List.TakeWhile

/-! # The grammar of bind addresses

    `Written cs addr` says that the text is one of the two written forms of the address:
    four octets with dots between them, a colon and a port, or a port alone. Every part is a
    numeral in the sense of `Decimal.Numeral`, which bounds neither its length nor its
    leading zeros; the value is bounded by the type it is read into.

    * `parts_eq_splitOn`: cutting at a separator is the library's, whose inverse is
      `List.intercalate`;
    * `readIpv4?_eq_some_iff`, `read?_eq_some_iff`: the readers find what is written, and
      nothing else;
    * `parse_eq_iff_written`: a text stands for an address exactly when the grammar says so,
      and every other text comes back in the failure.

    The readers look for separators and the grammar names the parts, so that each direction
    needs the same fact: no separator is a digit (`Numeral.not_mem`). -/

namespace EventLoop.Address

open Decimal

variable {cs host port : List Char} {addr : Address} {ip : Ipv4} {n : Nat}

/-- Four octets in decimal, with dots between them. -/
inductive Dotted : List Char → Ipv4 → Prop
  | mk {o₁ o₂ o₃ o₄ : List Char} {a b c d : UInt8} :
      Numeral o₁ a.toNat → Numeral o₂ b.toNat → Numeral o₃ c.toNat → Numeral o₄ d.toNat →
      Dotted (o₁ ++ '.' :: (o₂ ++ '.' :: (o₃ ++ '.' :: o₄))) ⟨a, b, c, d⟩

/-- The two written forms of an address. -/
inductive Written : List Char → Address → Prop
  | full {host port : List Char} {ip : Ipv4} {p : UInt16} :
      Dotted host ip → Numeral port p.toNat → Written (host ++ ':' :: port) ⟨ip, p⟩
  | bare {port : List Char} {p : UInt16} :
      Numeral port p.toNat → Written port ⟨.unspecified, p⟩

/-! ## The numbers -/

/-- An octet is read exactly from the numerals of a value below 256. -/
theorem readOctet?_eq_some_iff {o : UInt8} : readOctet? cs = some o ↔ Numeral cs o.toNat := by
  rw [readOctet?, Option.map_eq_some_iff]
  constructor
  · rintro ⟨n, hread, rfl⟩
    obtain ⟨numeral, hn⟩ := readUpTo?_eq_some_iff.mp hread
    rwa [UInt8.toNat_ofNat_of_lt' (Nat.lt_succ_of_le hn)]
  · intro numeral
    exact ⟨o.toNat, readUpTo?_eq_some_iff.mpr ⟨numeral, Nat.le_of_lt_succ o.toNat_lt⟩,
      UInt8.ofNat_toNat⟩

/-- A port is read exactly from the numerals of a value below 65536. -/
theorem readPort?_eq_some_iff {p : UInt16} : readPort? cs = some p ↔ Numeral cs p.toNat := by
  rw [readPort?, Option.map_eq_some_iff]
  constructor
  · rintro ⟨n, hread, rfl⟩
    obtain ⟨numeral, hn⟩ := readUpTo?_eq_some_iff.mp hread
    rwa [UInt16.toNat_ofNat_of_lt' (Nat.lt_succ_of_le hn)]
  · intro numeral
    exact ⟨p.toNat, readUpTo?_eq_some_iff.mpr ⟨numeral, Nat.le_of_lt_succ p.toNat_lt⟩,
      UInt16.ofNat_toNat⟩

/-! ## The octets -/

/-- Taking the parts apart is splitting at the separator. -/
theorem parts_eq_splitOn (separator : Char) (cs : List Char) :
    parts separator cs = cs.splitOn separator := by
  induction cs with
  | nil => rfl
  | cons c rest ih =>
    rw [parts, List.splitOn_cons_eq_if_modifyHead, ih]
    simp only [beq_iff_eq]
    split
    · rfl
    · obtain ⟨part, others, hsplit⟩ :=
        List.exists_cons_of_ne_nil (List.splitOn_ne_nil separator rest)
      rw [hsplit]
      rfl

/-- A dot after a numeral is where the text is cut first. -/
theorem splitOn_dot (h : Numeral cs n) (rest : List Char) :
    (cs ++ '.' :: rest).splitOn '.' = cs :: rest.splitOn '.' := by
  rw [List.splitOn_eq_splitOnP, List.splitOn_eq_splitOnP]
  refine List.splitOnP_append_cons_of_forall_mem (p := (· == '.')) ?_ '.' (beq_self_eq_true _) rest
  intro c hc
  exact beq_false_of_ne fun dot => h.not_mem (c := '.') rfl (dot ▸ hc)

/-- An address of four octets is read exactly from what is written with three dots. -/
theorem readIpv4?_eq_some_iff : readIpv4? cs = some ip ↔ Dotted cs ip := by
  rw [readIpv4?, parts_eq_splitOn]
  constructor
  · intro hread
    split at hread
    · rename_i o₁ o₂ o₃ o₄ hsplit
      have shape : cs = ['.'].intercalate [o₁, o₂, o₃, o₄] := by
        rw [← hsplit, List.intercalate_splitOn]
      simp only [Option.pure_def, Option.bind_eq_bind, Option.bind_eq_some_iff,
        Option.some.injEq, readOctet?_eq_some_iff] at hread
      obtain ⟨a, h₁, b, h₂, c, h₃, d, h₄, rfl⟩ := hread
      rw [shape]
      simpa [List.intercalate] using Dotted.mk h₁ h₂ h₃ h₄
    · cases hread
  · rintro ⟨h₁, h₂, h₃, h₄⟩
    rw [splitOn_dot h₁, splitOn_dot h₂, splitOn_dot h₃, List.splitOn_eq_singleton (h₄.not_mem rfl)]
    simp only [readOctet?_eq_some_iff.mpr h₁, readOctet?_eq_some_iff.mpr h₂,
      readOctet?_eq_some_iff.mpr h₃, readOctet?_eq_some_iff.mpr h₄]
    rfl

/-! ## The whole text -/

/-- The octets and their dots are no colon. -/
theorem Dotted.not_mem_colon (h : Dotted host ip) : ':' ∉ host := by
  obtain ⟨h₁, h₂, h₃, h₄⟩ := h
  simp [h₁.not_mem (c := ':') rfl, h₂.not_mem (c := ':') rfl, h₃.not_mem (c := ':') rfl,
    h₄.not_mem (c := ':') rfl]

/-- With a colon in the text, the first one parts the octets from the port. -/
theorem read?_of_colon (h : ':' ∉ host) (port : List Char) :
    read? (host ++ ':' :: port)
      = (readIpv4? host).bind fun ip => (readPort? port).bind fun p => some ⟨ip, p⟩ := by
  have before : ∀ c ∈ host, decide (c ≠ ':') = true := by
    intro c hc
    exact decide_eq_true fun colon => h (colon ▸ hc)
  rw [read?, List.dropWhile_append_of_pos before, List.takeWhile_append_of_pos before]
  simp

/-- Without a colon the text is a port. -/
theorem read?_of_no_colon (h : ':' ∉ cs) :
    read? cs = (readPort? cs).bind fun p => some ⟨Ipv4.unspecified, p⟩ := by
  have whole : cs.dropWhile (· ≠ ':') = [] := by
    rw [List.dropWhile_eq_nil_iff]
    intro c hc
    exact decide_eq_true fun colon => h (colon ▸ hc)
  rw [read?, whole]
  rfl

/-- The reader finds what is written, and nothing else. -/
theorem read?_eq_some_iff : read? cs = some addr ↔ Written cs addr := by
  constructor
  · intro hread
    by_cases colon : ':' ∈ cs
    · obtain ⟨host, port, rfl, first⟩ := List.eq_append_cons_of_mem colon
      rw [read?_of_colon first] at hread
      obtain ⟨ip, hhost, hrest⟩ := Option.bind_eq_some_iff.mp hread
      obtain ⟨p, hport, heq⟩ := Option.bind_eq_some_iff.mp hrest
      obtain rfl := Option.some.inj heq
      exact .full (readIpv4?_eq_some_iff.mp hhost) (readPort?_eq_some_iff.mp hport)
    · rw [read?_of_no_colon colon] at hread
      obtain ⟨p, hport, heq⟩ := Option.bind_eq_some_iff.mp hread
      obtain rfl := Option.some.inj heq
      exact .bare (readPort?_eq_some_iff.mp hport)
  · intro written
    cases written with
    | full host port =>
      rw [read?_of_colon host.not_mem_colon, readIpv4?_eq_some_iff.mpr host,
        readPort?_eq_some_iff.mpr port]
      rfl
    | bare port =>
      rw [read?_of_no_colon (port.not_mem rfl), readPort?_eq_some_iff.mpr port]
      rfl

/-! ## Parsing -/

/-- The parser accepts what is written after the grammar, and gives what is meant. -/
theorem parse_eq_ok_iff {input : String} : parse input = .ok addr ↔ Written input.toList addr := by
  rw [← read?_eq_some_iff, parse]
  cases read? input.toList <;> simp

/-- A text stands for an address exactly when it is written as one. Every other text is refused, and
the failure carries it as it was given. -/
theorem parse_eq_iff_written (input : String) :
    (∀ addr, parse input = .ok addr ↔ Written input.toList addr) ∧
    (∀ e, parse input = .error e ↔
      e = .invalidAddress input ∧ ∀ addr, ¬ Written input.toList addr) := by
  refine ⟨fun addr => parse_eq_ok_iff, ?_⟩
  intro e
  simp only [← read?_eq_some_iff, parse]
  cases read? input.toList with
  | some addr => simp
  | none => simp [eq_comm]

end EventLoop.Address
