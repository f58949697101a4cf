import EventLoop.Config
import EventLoop.Proofs.Environment.Words

/-! # Limits from the environment

    A server has four limits, and each has a variable, an integer type and a default of its
    own (`Limit`). What the environment makes of a limit is what its variable spells, read
    as its type, and the default when the variable spells nothing.

    * `value_ofEnvironment`: the four readings are one, with the limit's variable, type and
      default;
    * `ofEnvironment_reads_limits`: that reading through the grammar of integers, with
      nothing said of the reader; limits do not mix, and a configuration written into the
      variables comes back. -/

namespace EventLoop

namespace Config

/-- The limits of a configuration. -/
inductive Limit where
  | maxClients
  | bufferSize
  | pollTimeout
  | backlog
  deriving DecidableEq, Repr

namespace Limit

/-- The variable that overrides the limit. -/
def key : Limit → String
  | maxClients => "PSV_MAX_CLIENTS"
  | bufferSize => "PSV_BUFFER_SIZE"
  | pollTimeout => "PSV_POLL_TIMEOUT_MS"
  | backlog => "PSV_BACKLOG"

/-- The integer type of the limit. -/
def range : Limit → Decimal.IntRange
  | maxClients | bufferSize => .word
  | pollTimeout | backlog => .int32

end Limit

variable {env : Environment} {limit : Limit} {c c' : Config} {v : Int}

/-- The value of a limit. -/
def value (c : Config) : Limit → Int
  | .maxClients => c.maxClients
  | .bufferSize => c.bufferSize
  | .pollTimeout => c.pollTimeout
  | .backlog => c.backlog

/-- There is nothing to a configuration but its limits. -/
theorem ext_value (h : ∀ limit, c.value limit = c'.value limit) : c = c' := by
  obtain ⟨maxClients, bufferSize, pollTimeout, backlog⟩ := c
  obtain ⟨maxClients', bufferSize', pollTimeout', backlog'⟩ := c'
  obtain rfl : maxClients = maxClients' := Int.ofNat.inj (h .maxClients)
  obtain rfl : bufferSize = bufferSize' := Int.ofNat.inj (h .bufferSize)
  obtain rfl : pollTimeout = pollTimeout' := h .pollTimeout
  obtain rfl : backlog = backlog' := h .backlog
  rfl

/-- Each limit is a value of its type. -/
def Representable (c : Config) : Prop :=
  ∀ limit : Limit, limit.range.lowest ≤ c.value limit ∧ c.value limit ≤ limit.range.highest

/-- A word that is read, or the default in its place, is not negative. -/
theorem int_word_nonneg (env : Environment) (key : String) (fallback : Nat) :
    0 ≤ env.int .word key fallback := by
  rw [Environment.int]
  cases hread : env.int? .word key with
  | none => exact Int.natCast_nonneg fallback
  | some v =>
    obtain ⟨_, _, _, low, _⟩ := Environment.int?_eq_some_iff.mp hread
    exact low

/-- Every limit is read in one way. -/
theorem value_ofEnvironment (env : Environment) (limit : Limit) :
    (ofEnvironment env).value limit = env.int limit.range limit.key (new.value limit) := by
  cases limit with
  | maxClients => exact Int.toNat_of_nonneg (int_word_nonneg env _ defaultMaxClients)
  | bufferSize => exact Int.toNat_of_nonneg (int_word_nonneg env _ defaultBufferSize)
  | pollTimeout => rfl
  | backlog => rfl

/-- A limit is the value that its variable spells, and the default exactly when it spells none. -/
theorem value_ofEnvironment_eq_iff :
    (ofEnvironment env).value limit = v ↔
      env.Spells limit.range limit.key v
        ∨ v = new.value limit ∧ ∀ w, ¬ env.Spells limit.range limit.key w := by
  simp only [value_ofEnvironment, Environment.int, ← Environment.int?_eq_some_iff]
  cases env.int? limit.range limit.key <;> simp [eq_comm]

/-- The limits of a configuration, each written into its variable with any blanks around it,
    come back. -/
theorem ofEnvironment_of_says (hc : c.Representable)
    (hword : ∀ limit : Limit, env.Says limit.key (toString (c.value limit)).toList) :
    ofEnvironment env = c := by
  refine ext_value fun limit => value_ofEnvironment_eq_iff.mpr (.inl ?_)
  obtain ⟨low, high⟩ := hc limit
  exact ⟨_, hword limit, Decimal.spells_toString low high⟩

/-- Each limit is what its own variable spells in the limit's type, and the default in all other
    cases, values out of range among them; no other variable has a say. A variable that was set
    to bytes says a word when they are the UTF-8 form of the word with blanks around it, and
    says nothing when they are no text. A configuration whose limits are written into the
    variables, with any blanks, comes back. -/
theorem ofEnvironment_reads_limits :
    (∀ (env : Environment) (limit : Limit) (v : Int),
      (ofEnvironment env).value limit = v ↔
        env.Spells limit.range limit.key v
          ∨ v = new.value limit ∧ ∀ w, ¬ env.Spells limit.range limit.key w)
    ∧ (∀ (env env' : Environment) (limit : Limit),
      env.bindings.lookup limit.key = env'.bindings.lookup limit.key →
        (ofEnvironment env).value limit = (ofEnvironment env').value limit)
    ∧ (∀ (env : Environment) (key : String) (bytes : Bytes) (word : List Char),
      env.bindings.lookup key = some (Value.ofBytes bytes) →
        (env.Says key word ↔ ∃ s : String,
          bytes = s.toUTF8.data.toList ∧ Text.Padded s.toList word))
    ∧ ∀ (c : Config) (env : Environment), c.Representable →
      (∀ limit : Limit, env.Says limit.key (toString (c.value limit)).toList) →
      ofEnvironment env = c := by
  refine ⟨fun env limit v => value_ofEnvironment_eq_iff, ?_,
    fun env key bytes word => Environment.says_ofBytes, fun c env => ofEnvironment_of_says⟩
  intro env env' limit hsame
  have htext : env.text? limit.key = env'.text? limit.key := by
    rw [Environment.text?, Environment.text?, hsame]
  rw [value_ofEnvironment, value_ofEnvironment, Environment.int, Environment.int?,
    Environment.trimmed?, htext]
  rfl

/-- A variable set to bytes, and blanks of several kinds around the values. -/
def padded : Environment where
  bindings :=
    [("PSV_MAX_CLIENTS", Value.ofBytes [0x20, 0x34, 0x32]), ("PSV_BUFFER_SIZE", .text "16\n"),
    ("PSV_POLL_TIMEOUT_MS", .text "\u00a0-2147483648"), ("PSV_BACKLOG", .text "8")]

/-- The lowest timeout there is comes back with the other limits, and without them; a size one past
the words is no size at all. -/
theorem ofEnvironment_reads_limits_padded :
    ofEnvironment padded = ⟨42, 16, -2147483648, 8⟩
      ∧ (ofEnvironment padded).value .pollTimeout
        = (ofEnvironment ⟨[("PSV_POLL_TIMEOUT_MS", .text "\u00a0-2147483648")]⟩).value .pollTimeout
      ∧ (ofEnvironment ⟨[("PSV_BUFFER_SIZE", .text "18446744073709551616")]⟩).value
        .bufferSize = 1024 := by
  obtain ⟨hreads, hown, hbytes, hback⟩ := ofEnvironment_reads_limits
  refine ⟨hback ⟨42, 16, -2147483648, 8⟩ padded ?_ ?_, hown _ _ .pollTimeout (by decide), ?_⟩
  · intro limit
    cases limit <;> decide
  · intro limit
    cases limit with
    | maxClients =>
        exact (hbytes padded _ _ _ rfl).mpr ⟨" 42", by decide, [' '], [], rfl, by decide, by decide⟩
    | bufferSize => exact ⟨"16\n", rfl, [], ['\n'], rfl, by decide, by decide⟩
    | pollTimeout => exact ⟨"\u00a0-2147483648", rfl, ['\u00a0'], [], rfl, by decide, by decide⟩
    | backlog => exact ⟨"8", rfl, [], [], rfl, by decide, by decide⟩
  · refine (hreads _ .bufferSize _).mpr (.inr ⟨rfl, ?_⟩)
    intro w hspells
    have hnone : (⟨[("PSV_BUFFER_SIZE", .text "18446744073709551616")]⟩ : Environment).int?
      .word "PSV_BUFFER_SIZE" = none := by decide +kernel
    cases hnone.symm.trans (Environment.int?_eq_some_iff.mpr hspells)

end Config

end EventLoop
