import EventLoop.Text.Unseen

/-! # Quoted text

    A text between double quotes in which every character can be seen: quotes and
    backslashes get a backslash, the common controls their letter, and all other unseen
    characters their code point. -/

namespace EventLoop.Text

/-- A character as it stands between the quotes. -/
def quoteChar (c : Char) : List Char :=
  if c = '"' then ['\\', '"']
  else if c = '\\' then ['\\', '\\']
  else if c = '\t' then ['\\', 't']
  else if c = '\n' then ['\\', 'n']
  else if c = '\r' then ['\\', 'r']
  else if c = Char.ofNat 0 then ['\\', '0']
  else if isUnseen c then ['\\', 'u', Char.ofNat 0x7b] ++ Nat.toDigits 16 c.toNat
    ++ [Char.ofNat 0x7d]
  else [c]

/-- The text with quotes around it and unseen characters spelled out. -/
def quoted (s : String) : String :=
  String.ofList (['"'] ++ s.toList.flatMap quoteChar ++ ['"'])

end EventLoop.Text
