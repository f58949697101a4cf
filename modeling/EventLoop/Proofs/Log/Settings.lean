import EventLoop.Log.Logger
import EventLoop.Proofs.Environment.Words

/-! # The settings of a logger

    A logger has a level and a flush setting. Both come from the environment, which is read
    by the first request that needs a setting (`Request.reads`), and from the program, which
    can set them at any time.

    * `level_perform`, `written_perform`: what one request does to the level in force, the
      one the logger has once the environment was read, and what it writes;
    * `level_decides_writing`: in every run the level in force is the last one set, or else
      the one that the environment names, and it decides what is written;
    * `flushes_performAll`: a flush setting made before the environment was read is lost
      when the environment has one too. `flush_wins_iff` says when a run shows this.

    The two settings differ because setting the level reads the environment first and
    setting the flush does not. So a run is cut at its first request that reads: up to there
    only flush settings can change anything (`performAll_idle`), and from there on the
    environment does not matter any more. -/

namespace EventLoop

namespace Log

/-- What a program asks of its logger. -/
inductive Request where
  | init
  | setLevel (level : Level)
  | setFlush (on : Bool)
  | currentLevel
  | flushEnabled
  | enabled (level : Level)
  | print (line : String)
  | log (level : Level) (message : String)
  deriving DecidableEq, Repr

namespace Request

/-- The level that is set. -/
def level? : Request → Option Level
  | setLevel level => some level
  | _ => none

/-- The flush setting that is made. -/
def flush? : Request → Option Bool
  | setFlush on => some on
  | _ => none

/-- What was set last. -/
def last {α : Type} (set? : Request → Option α) (requests : List Request) : Option α :=
  (requests.filterMap set?).getLast?

/-- What was set last in two stretches is what the second set, or else the first. -/
theorem last_append {α : Type} (set? : Request → Option α) (before since : List Request) :
    last set? (before ++ since) = (last set? since).or (last set? before) := by
  rw [last, List.filterMap_append, List.getLast?_append]
  rfl

theorem last_concat {α : Type} (set? : Request → Option α) (before : List Request) (r : Request) :
    last set? (before ++ [r]) = (set? r).or (last set? before) := by
  rw [last_append, last, List.filterMap_cons]
  cases set? r <;> rfl

/-- What is written while a level is in force. -/
def output (current : Level) : Request → String
  | print line => line ++ "\n"
  | log level message =>
    if level ≠ .off ∧ level.number ≤ current.number then
      level.label ++ " pollserve: " ++ message ++ "\n"
    else ""
  | _ => ""

/-- The settings are needed. -/
def reads : Request → Bool
  | setFlush _ => false
  | enabled level | log level _ => level != .off
  | _ => true

/-- The requests before the first one that needs the settings. -/
def early (requests : List Request) : List Request := requests.takeWhile fun r => !r.reads

/-- The requests from the first one that needs the settings. -/
def since (requests : List Request) : List Request := requests.dropWhile fun r => !r.reads

/-- The requests before the settings are needed and those after make up all of them. -/
theorem early_append_since (requests : List Request) :
    early requests ++ since requests = requests :=
  List.takeWhile_append_dropWhile

variable {r : Request}

/-- A request that needs the settings makes no flush setting. -/
theorem flush?_of_reads (h : r.reads = true) : r.flush? = none := by
  cases r with
  | setFlush on => cases h
  | _ => rfl

/-- A request that does not need the settings sets no level. -/
theorem level?_of_idle (h : r.reads = false) : r.level? = none := by
  cases r with
  | setLevel level => cases h
  | _ => rfl

/-- A request that does not need the settings writes nothing. -/
theorem output_of_idle (h : r.reads = false) (current : Level) : r.output current = "" := by
  cases r with
  | print line => cases h
  | log level message => exact if_neg fun line => line.1 (bne_eq_false_iff_eq.mp h)
  | _ => rfl

end Request

open Request (last)

namespace Logger

variable {l : Logger} {r : Request}

/-- Do what is asked. -/
def perform (l : Logger) : Request → Logger
  | .init => l.init
  | .setLevel level => l.setLevel level
  | .setFlush on => l.setFlush on
  | .currentLevel => l.currentLevel.2
  | .flushEnabled => l.flushEnabled.2
  | .enabled level => (l.enabled level).2
  | .print line => l.print line
  | .log level message => l.log level message

/-- Do what is asked, in order. -/
def performAll (l : Logger) (requests : List Request) : Logger := requests.foldl perform l

/-- What is asked in two stretches is done in two stretches. -/
theorem performAll_append (l : Logger) (before since : List Request) :
    l.performAll (before ++ since) = (l.performAll before).performAll since := List.foldl_append

theorem performAll_concat (l : Logger) (before : List Request) (r : Request) :
    l.performAll (before ++ [r]) = (l.performAll before).perform r := performAll_append l before [r]

/-! ## Reading the settings -/

@[simp] theorem initialised_init (l : Logger) : l.init.initialised = true := by
  rw [init]
  split
  · assumption
  · rfl

@[simp] theorem written_init (l : Logger) : l.init.written = l.written := by
  rw [init]
  split <;> rfl

/-- Settings are read once: after that there is nothing left to do. -/
theorem init_of_initialised (h : l.initialised = true) : l.init = l := if_pos h

@[simp] theorem init_init (l : Logger) : l.init.init = l.init :=
  init_of_initialised l.initialised_init

/-- A message of a real level is written where the level in force admits it, with its label. -/
theorem log_of_ne_off {level : Level} (h : level ≠ .off) (l : Logger) (message : String) :
    l.log level message
      = if level.number ≤ l.init.level.number then
        l.init.print (level.label ++ " pollserve: " ++ message)
        else l.init := by
  rw [log, enabled, if_neg h, Level.admits, bne_iff_ne.mpr h, Bool.true_and]
  split
  · rename_i hadmits
    obtain ⟨hle, rfl⟩ := Prod.mk.inj hadmits
    rw [if_pos (of_decide_eq_true hle)]
  · rename_i hrefuses
    obtain ⟨hgt, rfl⟩ := Prod.mk.inj hrefuses
    rw [if_neg (of_decide_eq_false hgt)]

/-! ## One request -/

/-- A request that needs the settings reads them before it does anything else. -/
theorem perform_of_reads (h : r.reads = true) (l : Logger) :
    l.perform r
      = { l.init with
          level := r.level?.getD l.init.level
          written := l.written ++ r.output l.init.level } := by
  have hplain : { l.init with level := l.init.level, written := l.written ++ "" } = l.init := by
    rw [String.append_empty, ← written_init l]
  -- one case for each request; those that cannot read the settings fall away
  cases r with
  | init => exact hplain.symm
  | setLevel level =>
    show { l.init with level := level } = { l.init with level := level, written := l.written ++ "" }
    rw [String.append_empty, ← written_init l]
  | setFlush on => cases h
  | currentLevel => exact hplain.symm
  | flushEnabled => exact hplain.symm
  | enabled level =>
    rw [perform, enabled, if_neg (bne_iff_ne.mp h)]
    exact hplain.symm
  | print line =>
    rw [perform, print, Request.output, String.append_assoc]
    rfl
  | log level message =>
    have hne : level ≠ .off := bne_iff_ne.mp h
    rw [perform, log_of_ne_off hne, Request.output]
    -- the level in force is read from the settings, not from before
    by_cases hle : level.number ≤ l.init.level.number
    · rw [if_pos hle, if_pos ⟨hne, hle⟩, print, init_init, written_init, String.append_assoc]
      rfl
    · rw [if_neg hle, if_neg fun both => hle both.2]
      exact hplain.symm

/-- Every other request can change nothing but the flush setting. -/
theorem perform_of_idle (h : r.reads = false) (l : Logger) :
    l.perform r = { l with flushes := r.flush?.getD l.flushes } := by
  cases r with
  | setFlush on => rfl
  | enabled level =>
    rw [perform, enabled, if_pos (bne_eq_false_iff_eq.mp h)]
    rfl
  | log level message =>
    rw [perform, bne_eq_false_iff_eq.mp h]
    rfl
  | _ => cases h

/-- The level in force changes when one is set, and only then. -/
theorem level_perform (l : Logger) (r : Request) :
    (l.perform r).init.level = r.level?.getD l.init.level := by
  cases h : r.reads with
  | true =>
    have read : (l.perform r).initialised = true := by
      rw [perform_of_reads h]
      exact l.initialised_init
    rw [init_of_initialised read, perform_of_reads h]
  | false =>
    rw [perform_of_idle h, Request.level?_of_idle h, init, init]
    show (if l.initialised = true then _ else _ : Logger).level = _
    split <;> rfl

/-- A request adds to the output what it writes under the level in force, and nothing else. -/
theorem written_perform (l : Logger) (r : Request) :
    (l.perform r).written = l.written ++ r.output l.init.level := by
  cases h : r.reads with
  | true => rw [perform_of_reads h]
  | false => rw [perform_of_idle h, Request.output_of_idle h, String.append_empty]

/-! ## Runs -/

/-- The level in force is the last one set. -/
theorem level_performAll (l : Logger) (requests : List Request) :
    (l.performAll requests).init.level = (last Request.level? requests).getD l.init.level := by
  -- on the requests: each setting overrides those before it
  induction requests using List.reverseRecOn with
  | nil => rfl
  | append_singleton before r ih =>
    rw [performAll_concat, level_perform, ih, Request.last_concat]
    cases r.level? <;> rfl

/-- What a run writes, beginning with a level in force. -/
def transcript (current : Level) : List Request → String
  | [] => ""
  | r :: rest => r.output current ++ transcript (r.level?.getD current) rest

/-- The output of a run is what was there and then its transcript. -/
theorem written_performAll (requests : List Request) (l : Logger) :
    (l.performAll requests).written = l.written ++ transcript l.init.level requests := by
  -- on the requests: the level in force goes with the logger
  induction requests generalizing l with
  | nil => exact (String.append_empty).symm
  | cons r rest ih =>
    show ((l.perform r).performAll rest).written = _
    rw [ih, written_perform, level_perform, transcript, String.append_assoc]

end Logger

/-! ## The level that the environment names -/

/-- The word is the name of the level, in any case, or its number. -/
def Level.Spelled (level : Level) (word : List Char) : Prop :=
  word.map Char.toLower = level.name.toList.map Char.toLower
    ∨ word.map Char.toLower = Decimal.digits level.number

/-- No spelling of a level has a blank at its ends. -/
theorem Level.Spelled.solid {level : Level} {word : List Char} (h : level.Spelled word) :
    Text.Solid word := by
  refine .of_map_toLower ?_
  rcases h with hname | hnumber
  · rw [hname]
    cases level <;> decide
  · rw [hnumber]
    cases level <;> decide

/-- Reading trims the text once more. -/
theorem Level.read?_eq_some_iff {word : List Char} {level : Level} :
    Level.read? (String.ofList word) = some level ↔ level.Spelled (Text.trim word) := by
  rw [read?, Spelled, String.toList_ofList]
  generalize (Text.trim word).map Char.toLower = small
  constructor
  · intro hread
    split at hread
    all_goals
      rename_i hknown
      cases hread
    all_goals
      have hword := congrArg String.toList hknown
      rw [String.toList_ofList] at hword
      first
        | exact .inl hword
        | exact .inr hword
  · rintro (rfl | rfl)
    · cases level <;> decide
    · cases level <;> decide

end Log

namespace Environment

open Log

variable {env : Environment} {level : Level}

/-- The variable says the level. -/
def NamesLevel (env : Environment) (level : Level) : Prop :=
  ∃ word, env.Says "PSV_LOG_LEVEL" word ∧ level.Spelled word

/-- The level that the variable says, or info when it says none. -/
def ChoosesLevel (env : Environment) (level : Level) : Prop :=
  env.NamesLevel level ∨ level = .info ∧ ∀ named, ¬ env.NamesLevel named

/-- A level is read from the environment exactly when the variable names it. -/
theorem readLevel_eq_some_iff :
    (env.word? "PSV_LOG_LEVEL").bind Level.read? = some level ↔ env.NamesLevel level := by
  rw [word?, Option.bind_map, Option.bind_eq_some_iff]
  refine exists_congr fun word => ?_
  have hread (htrimmed : env.trimmed? "PSV_LOG_LEVEL" = some word) :
      Level.read? (String.ofList word) = some level ↔ level.Spelled word := by
    obtain ⟨s, -, rfl⟩ := Option.map_eq_some_iff.mp htrimmed
    rw [Level.read?_eq_some_iff, Text.trim_trim]
  calc env.trimmed? "PSV_LOG_LEVEL" = some word ∧ Level.read? (String.ofList word) = some level
    _ ↔ env.trimmed? "PSV_LOG_LEVEL" = some word ∧ level.Spelled word := and_congr_right hread
    _ ↔ env.Says "PSV_LOG_LEVEL" word ∧ level.Spelled word :=
        and_congr_left fun h => trimmed?_eq_some_iff h.solid

end Environment

namespace Log.Logger

open Request (last)

variable {env : Environment} {l : Logger} {level : Level}

/-- The level in force at the beginning is the one that the environment chooses. -/
theorem level_init_initial_iff : (initial env).init.level = level ↔ env.ChoosesLevel level := by
  have hlevel : (initial env).init.level
      = (((initial env).environment.word? "PSV_LOG_LEVEL").bind Level.read?).getD .info := by
    have hfresh : (initial env).initialised = false := rfl
    rw [init, hfresh, if_neg Bool.false_ne_true]
    cases (initial env).environment.word? "PSV_LOG_LEVEL" <;> rfl
  rw [hlevel, initial, Environment.ChoosesLevel]
  simp only [← Environment.readLevel_eq_some_iff]
  cases (env.word? "PSV_LOG_LEVEL").bind Level.read? with
  | none => simp [eq_comm]
  | some named => simp

/-! ## What is written -/

/-- The level in force at any time is the last one that was set, or else the one that the
    environment chooses, and it decides which lines are written. -/
theorem level_decides_writing (env : Environment) :
    (∃! chosen, env.ChoosesLevel chosen) ∧
    ∀ chosen, env.ChoosesLevel chosen → ∀ before,
      let l := (initial env).performAll before
      let current := (last Request.level? before).getD chosen
      l.currentLevel.1 = current
        ∧ (∀ level, (l.enabled level).1 = decide (level ≠ .off ∧ level.number ≤ current.number))
        ∧ (∀ r, (l.perform r).written = l.written ++ r.output current)
        ∧ l.written = transcript chosen before := by
  refine ⟨⟨_, level_init_initial_iff.mp rfl, fun other h => (level_init_initial_iff.mpr h).symm⟩,
    ?_⟩
  intro chosen hchosen before l current
  have hinit : (initial env).init.level = chosen := level_init_initial_iff.mpr hchosen
  have hcurrent : l.init.level = current := by
    rw [level_performAll, hinit]
  refine ⟨hcurrent, fun level => ?_, fun r => ?_, ?_⟩
  · rw [enabled, ← hcurrent]
    split
    · rename_i hoff
      exact (decide_eq_false fun h => h.1 hoff).symm
    · rename_i hline
      simp [Level.admits, hline]
  · rw [written_perform, hcurrent]
  · rw [written_performAll, hinit]
    exact String.empty_append

/-- A variable with blanks and capitals, a line below the level, one set level and one more
    reading. -/
theorem level_decides_writing_warn :
    let env : Environment := ⟨[("PSV_LOG_LEVEL", .text "\tWARN ")]⟩
    let before : List Request :=
      [.log .info "a", .log .error "b", .setLevel .trace, .init, .log .info "c"]
    let l := (initial env).performAll before
    env.ChoosesLevel .warn ∧ l.currentLevel.1 = .trace
      ∧ l.written = "[ERROR] pollserve: b\n[INFO]  pollserve: c\n" := by
  have hwarn : (⟨[("PSV_LOG_LEVEL", .text "\tWARN ")]⟩ : Environment).ChoosesLevel .warn :=
    .inl ⟨"WARN".toList, ⟨_, rfl, ['\t'], [' '], rfl, by decide, by decide⟩, .inl rfl⟩
  obtain ⟨hcurrent, -, -, hwritten⟩ := (level_decides_writing _).2 .warn hwarn
    [.log .info "a", .log .error "b", .setLevel .trace, .init, .log .info "c"]
  exact ⟨hwarn, hcurrent, hwritten⟩

/-! ## The flush setting -/

/-- Once the settings were read, the flush setting changes when it is set, and only then. -/
theorem flushes_performAll_of_initialised (h : l.initialised = true) (requests : List Request) :
    (l.performAll requests).initialised = true
      ∧ (l.performAll requests).flushes = (last Request.flush? requests).getD l.flushes := by
  -- on the requests, once the settings have been read
  induction requests using List.reverseRecOn with
  | nil => exact ⟨h, rfl⟩
  | append_singleton before r ih =>
    obtain ⟨hread, hflushes⟩ := ih
    rw [performAll_concat, Request.last_concat]
    cases hr : r.reads with
    | true =>
      rw [perform_of_reads hr, init_of_initialised hread, Request.flush?_of_reads hr]
      exact ⟨hread, hflushes⟩
    | false =>
      rw [perform_of_idle hr, hflushes]
      refine ⟨hread, ?_⟩
      cases r.flush? <;> rfl

/-- Requests that do not read the settings can change nothing but the flush setting. -/
theorem performAll_idle {requests : List Request} (h : ∀ r ∈ requests, r.reads = false)
    (l : Logger) :
    l.performAll requests
      = { l with flushes := (last Request.flush? requests).getD l.flushes } := by
  -- on the requests, none of which reads the settings
  induction requests using List.reverseRecOn with
  | nil => rfl
  | append_singleton before r ih =>
    obtain ⟨hbefore, hr⟩ := List.forall_mem_append.mp h
    rw [performAll_concat, ih hbefore, perform_of_idle (hr r (List.mem_singleton_self r)),
      Request.last_concat]
    cases r.flush? <;> rfl

/-- The settings may as well be read before the first request that needs them. -/
theorem performAll_since (l : Logger) (requests : List Request) :
    (l.performAll (Request.since requests)).init
      = (l.init.performAll (Request.since requests)).init := by
  cases hsince : Request.since requests with
  | nil => exact (init_init l).symm
  | cons r rest =>
    have hreads : r.reads = true := by
      have hhead := List.head?_dropWhile_not (fun r : Request => !r.reads) requests
      rw [← Request.since, hsince] at hhead
      simpa using hhead
    show ((l.perform r).performAll rest).init = ((l.init.perform r).performAll rest).init
    rw [perform_of_reads hreads, perform_of_reads hreads, init_init, written_init]

/-- A flush setting that was made before the settings were read stays only when the environment has
none. -/
theorem flushes_performAll (env : Environment) (before : List Request) :
    ((initial env).performAll before).flushEnabled.1
      = (last Request.flush? (Request.since before)).getD
          (if env.isSet "PSV_FLUSH_EPRINT" then env.switch "PSV_FLUSH_EPRINT" false
            else (last Request.flush? (Request.early before)).getD false) := by
  have hidle : ∀ r ∈ Request.early before, r.reads = false :=
    fun r hr => (Bool.not_eq_true' _).mp
      (List.mem_takeWhile_imp (p := fun r : Request => !r.reads) hr)
  obtain ⟨hread, hflushes⟩ := flushes_performAll_of_initialised
    ((initial env).performAll (Request.early before)).initialised_init (Request.since before)
  show ((initial env).performAll before).init.flushes = _
  rw [← Request.early_append_since before, performAll_append, performAll_since,
    init_of_initialised hread, hflushes, performAll_idle hidle, Request.early_append_since]
  rfl

/-- The flush setting that was made last is in force, or else the one of the environment, except
    where one was made before the settings were read, none since, and the environment has the
    opposite. -/
theorem flush_wins_iff (env : Environment) (before : List Request) :
    let fromEnv := env.switch "PSV_FLUSH_EPRINT" false
    let early := last Request.flush? (Request.early before)
    let since := last Request.flush? (Request.since before)
    let asked := ((initial env).performAll before).flushEnabled.1
    (fromEnv = true ↔ env.Affirms "PSV_FLUSH_EPRINT")
      ∧ asked = since.getD (if env.isSet "PSV_FLUSH_EPRINT" then fromEnv else early.getD false)
      ∧ (asked = (last Request.flush? before).getD fromEnv
          ↔ ¬ (env.isSet "PSV_FLUSH_EPRINT" = true ∧ since = none ∧ early = some (!fromEnv))) := by
  intro fromEnv early since asked
  have hasked :
      asked = since.getD (if env.isSet "PSV_FLUSH_EPRINT" then fromEnv else early.getD false) :=
    flushes_performAll env before
  have hlast : last Request.flush? before = since.or early := by
    rw [← Request.last_append, Request.early_append_since]
  refine ⟨Environment.switch_iff, hasked, ?_⟩
  rw [hasked, hlast]
  -- a setting made since wins; otherwise the variable overrides what was set early
  cases hsince : since with
  | some on => simp
  | none =>
    cases hset : env.isSet "PSV_FLUSH_EPRINT" with
    | true => cases hearly : early <;> cases fromEnv <;> simp
    | false =>
      have hunset : fromEnv = false := Environment.switch_of_unset hset
      cases hearly : early <;> simp [hunset]

/-- Flushing is turned off before anything was written; the variable says that it is on. -/
theorem not_all_flush_settings_win :
    ¬ ∀ (env : Environment) (before : List Request),
      ((initial env).performAll before).flushEnabled.1
        = (last Request.flush? before).getD (env.switch "PSV_FLUSH_EPRINT" false) := by
  intro h
  have hoff := h ⟨[("PSV_FLUSH_EPRINT", .text "1")]⟩ [.setFlush false]
  exact absurd hoff (by decide)

end Log.Logger

end EventLoop
