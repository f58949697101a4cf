import EventLoop.Decimal.Numeral
import EventLoop.Text.Blank

/-! # Environment variables

    A variable holds text, or bytes that are no text. Readers take the blanks off both ends
    first; a variable that is unset, is no text or does not read counts as absent, so that a
    default takes its place. -/

namespace EventLoop

/-- What a variable is set to. -/
inductive Value where
  | text (s : String)
  /-- Bytes that are not UTF-8. -/
  | raw (bytes : Bytes)
  deriving DecidableEq, Repr

/-- The value with given bytes: text if they are UTF-8. -/
def Value.ofBytes (bytes : Bytes) : Value :=
  match String.fromUTF8? ⟨bytes.toArray⟩ with
  | some s => .text s
  | none => .raw bytes

/-- The variables that are set, each under its name. -/
structure Environment where
  bindings : List (String × Value)
  deriving DecidableEq, Repr

namespace Environment

/-- No variable is set. -/
def empty : Environment := ⟨[]⟩

instance : Inhabited Environment := ⟨empty⟩

/-- The variable is set, to text or not. -/
def isSet (env : Environment) (key : String) : Bool := (env.bindings.lookup key).isSome

/-- The text of a variable, as it stands. -/
def text? (env : Environment) (key : String) : Option String :=
  match env.bindings.lookup key with
  | some (.text s) => some s
  | _ => none

/-- The text of a variable without the blanks at its ends. -/
def trimmed? (env : Environment) (key : String) : Option (List Char) :=
  (env.text? key).map fun s => Text.trim s.toList

/-- The text of a variable as it stands, or a default. -/
def text (env : Environment) (key fallback : String) : String := (env.text? key).getD fallback

/-- The trimmed text of a variable. -/
def word? (env : Environment) (key : String) : Option String :=
  (env.trimmed? key).map String.ofList

/-- An integer of a given type. -/
def int? (env : Environment) (range : Decimal.IntRange) (key : String) : Option Int :=
  (env.trimmed? key).bind (Decimal.readInt? range)

/-- An integer of a given type, or a default. -/
def int (env : Environment) (range : Decimal.IntRange) (key : String) (fallback : Int) : Int :=
  (env.int? range key).getD fallback

/-- A truth value, spelled `true` or `false`. -/
def truth? (env : Environment) (key : String) : Option Bool :=
  (env.word? key).bind fun w => if w = "true" then some true else if w = "false" then some false
  else none

/-- A switch is on when it says `1`, `true`, `yes` or `on`, in any case; any other text is off. -/
def switch (env : Environment) (key : String) (fallback : Bool) : Bool :=
  match env.trimmed? key with
  | some cs => ["1", "true", "yes", "on"].contains (String.ofList (cs.map Char.toLower))
  | none => fallback

end Environment

end EventLoop
