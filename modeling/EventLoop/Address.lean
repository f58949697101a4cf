import EventLoop.Decimal.Numeral
import EventLoop.Error

/-! # Bind addresses

    An address is four octets and a port. Two written forms are read: `A.B.C.D:PORT`, and a
    bare port, which stands for every interface. Host names, signs, blanks and anything left
    over are refused. -/

namespace EventLoop

/-- The number of a host: four octets. -/
structure Ipv4 where
  a : UInt8
  b : UInt8
  c : UInt8
  d : UInt8
  deriving DecidableEq, Repr

namespace Ipv4

/-- Every interface of the host. -/
def unspecified : Ipv4 := ⟨0, 0, 0, 0⟩

/-- The host itself. -/
def localhost : Ipv4 := ⟨127, 0, 0, 1⟩

/-- The octets, first to last. -/
def octets (ip : Ipv4) : List Nat := [ip.a.toNat, ip.b.toNat, ip.c.toNat, ip.d.toNat]

/-- The number belongs to the host's own loop. -/
def isLoopback (ip : Ipv4) : Bool := ip.a == 127

/-- The octets in decimal, with dots between them. -/
def chars (ip : Ipv4) : List Char :=
  Decimal.digits ip.a.toNat ++ '.' :: (Decimal.digits ip.b.toNat ++ '.' ::
    (Decimal.digits ip.c.toNat ++ '.' :: Decimal.digits ip.d.toNat))

end Ipv4

/-- A host and a port on it. -/
structure Address where
  ip : Ipv4
  port : UInt16
  deriving DecidableEq, Repr

namespace Address

/-- The written form: octets, colon, port. -/
def text (addr : Address) : String :=
  String.ofList (addr.ip.chars ++ ':' :: Decimal.digits addr.port.toNat)

/-- The text cut at every separator; there is one part more than there are separators. -/
def parts (separator : Char) : List Char → List (List Char)
  | [] => [[]]
  | c :: rest =>
    if c = separator then [] :: parts separator rest
    else match parts separator rest with
      | [] => [[c]]
      | part :: others => (c :: part) :: others

/-- Read one octet. -/
def readOctet? (cs : List Char) : Option UInt8 := (Decimal.readUpTo? 255 cs).map UInt8.ofNat

/-- Read a port. -/
def readPort? (cs : List Char) : Option UInt16 := (Decimal.readUpTo? 65535 cs).map UInt16.ofNat

/-- Read four octets with dots between them. -/
def readIpv4? (cs : List Char) : Option Ipv4 :=
  match parts '.' cs with
  | [a, b, c, d] => do return ⟨← readOctet? a, ← readOctet? b, ← readOctet? c, ← readOctet? d⟩
  | _ => none

/-- Read an address: octets and port around the first colon, or a bare port when there is none. -/
def read? (cs : List Char) : Option Address :=
  match cs.dropWhile (· ≠ ':') with
  | _ :: port => do return ⟨← readIpv4? (cs.takeWhile (· ≠ ':')), ← readPort? port⟩
  | [] => do return ⟨Ipv4.unspecified, ← readPort? cs⟩

/-- The address that a text stands for; a refused text is carried by the failure. -/
def parse (input : String) : Except Error Address :=
  match read? input.toList with
  | some addr => .ok addr
  | none => .error (.invalidAddress input)

end Address

end EventLoop
