import DocBatch.Config.Basic

/-!
# Configuration as layers and checks in order

`fromEnv` threads its checks and its settings through one sequence of steps. Here the same
configuration is told in two parts that do not depend on each other:

* the *layered* configuration, where each setting is its variable's reading when the variable
  is set, else the settings file's value when a file is named, else the default;
* the *checks*, a flat list in the order they run: the settings file, the four worker
  variables, the worker check, the redelivery variable (the two queue names are texts and
  always read), the queue check, the connections variable and its lower bound, and the
  database address last.

Main statement (`fromEnv_checks_in_order`): `fromEnv` succeeds exactly when every check
passes, and then gives the layered configuration; otherwise it fails with the fault of the
first check that fails. Two facts make the flat list possible: a variable's check does not
depend on the value it overrides, and each check of settings sees the layered settings.
-/

namespace DocBatch.Config

section Checks

variable {ε : Type}

/-- Checks run in order all pass exactly when each one passes. -/
theorem forM_eq_ok_iff {cs : List (Except ε Unit)} :
    (forM cs id : Except ε Unit) = .ok () ↔ ∀ c ∈ cs, c = .ok () := by
  induction cs with
  | nil => simp [List.forM_nil, pure, Except.pure]
  | cons c cs ih =>
    cases c with
    | error e => simp [List.forM_cons, bind, Except.bind]
    | ok u =>
      have hrun : (forM (Except.ok u :: cs) id : Except ε Unit) = forM cs id := rfl
      simp [hrun, ih]

/-- Checks run in order fail with a fault exactly when some check fails with it and every
check before that one passes. -/
theorem forM_eq_error_iff {cs : List (Except ε Unit)} {e : ε} :
    (forM cs id : Except ε Unit) = .error e ↔
      ∃ pre post, cs = pre ++ .error e :: post ∧ ∀ c ∈ pre, c = .ok () := by
  induction cs with
  | nil => simp [List.forM_nil, pure, Except.pure]
  | cons c cs ih =>
    cases c with
    | error e' =>
      have hrun : (forM (Except.error e' :: cs) id : Except ε Unit) = .error e' := rfl
      rw [hrun]
      constructor
      · intro h
        cases h
        exact ⟨[], cs, rfl, by simp⟩
      · rintro ⟨pre, post, hcs, hpre⟩
        cases pre with
        | nil => simp_all
        | cons p pre =>
          obtain ⟨rfl, -⟩ := List.cons.inj hcs
          simp at hpre
    | ok u =>
      have hrun : (forM (Except.ok u :: cs) id : Except ε Unit) = forM cs id := rfl
      rw [hrun, ih]
      constructor
      · rintro ⟨pre, post, rfl, hpre⟩
        exact ⟨.ok u :: pre, post, rfl, by simpa using hpre⟩
      · rintro ⟨pre, post, hcs, hpre⟩
        cases pre with
        | nil => simp at hcs
        | cons p pre =>
          obtain ⟨-, rfl⟩ := List.cons.inj hcs
          exact ⟨pre, post, rfl, fun c hc => hpre c (List.mem_cons_of_mem _ hc)⟩

/-- A value given after checks is given exactly when the checks pass. -/
theorem bind_pure_eq_ok_iff {α : Type} {x : Except ε Unit} {v c : α} :
    (x >>= fun _ => pure v) = .ok c ↔ x = .ok () ∧ c = v := by
  cases x with
  | error e => simp [bind, Except.bind]
  | ok u => simp [bind, Except.bind, pure, Except.pure, eq_comm]

/-- A value given after checks fails with the checks' fault. -/
theorem bind_pure_eq_error_iff {α : Type} {x : Except ε Unit} {v : α} {e : ε} :
    (x >>= fun _ => pure v) = .error e ↔ x = .error e := by
  cases x with
  | error e' => simp [bind, Except.bind]
  | ok u => simp [bind, Except.bind, pure, Except.pure]

end Checks

/-- A setting a variable can override: the variable, and how its text reads as the setting. -/
structure Override (α : Type) where
  name : String
  read : String → Except IntegerFault α

namespace Override

variable {α : Type}

/-- The check of a variable: it is unset, or its text reads as the setting. A text that does
not read is a fault naming the variable, its text and why. -/
def check (o : Override α) (env : Environment) : Except Error Unit :=
  match env.var o.name with
  | none => .ok ()
  | some raw =>
    match o.read raw with
    | .ok _ => .ok ()
    | .error e =>
      .error (.config (o.name ++ "=" ++ Quoted.debug raw ++ " is invalid: " ++ e.message))

/-- A setting laid over `base`: the variable's reading when it is set, else `base`. -/
def layOver (o : Override α) (env : Environment) (base : α) : α :=
  match env.var o.name with
  | some raw =>
    match o.read raw with
    | .ok v => v
    | .error _ => base
  | none => base

/-- Overriding a setting checks the variable and then lays it over the setting; whether the
check passes does not depend on the setting. -/
theorem override_eq (env : Environment) (name : String) (read : String → Except IntegerFault α)
    (base : α) :
    override env name read base =
      (do
        (⟨name, read⟩ : Override α).check env
        pure ((⟨name, read⟩ : Override α).layOver env base)) := by
  unfold override check layOver
  cases env.var name with
  | none => rfl
  | some raw =>
    dsimp only
    cases read raw with
    | ok v => rfl
    | error e => rfl

/-- The batch size variable. -/
def maxBatchSize : Override Nat := ⟨"DOCWORKER_MAX_BATCH_SIZE", readNatural sizeMax⟩

/-- The batch time variable, in milliseconds. -/
def maxBatchTime : Override Nat :=
  ⟨"DOCWORKER_MAX_BATCH_TIME_MS", readNatural (Nat.pow 2 64 - 1)⟩

/-- The inline threshold variable, in bytes. -/
def inlineThreshold : Override Nat := ⟨"DOCWORKER_INLINE_THRESHOLD", readNatural sizeMax⟩

/-- The store retries variable. -/
def storeRetries : Override Nat := ⟨"DOCWORKER_STORE_RETRIES", readNatural (Nat.pow 2 32 - 1)⟩

/-- The redelivery delay variable, in seconds. -/
def redeliveryDelay : Override Int :=
  ⟨"DOCWORKER_REDELIVERY_DELAY_SECS", readInteger (-(Int.pow 2 31)) (Int.pow 2 31 - 1)⟩

/-- The database connections variable. -/
def maxConnections : Override Nat :=
  ⟨"DATABASE_MAX_CONNECTIONS", readNatural (Nat.pow 2 32 - 1)⟩

end Override

/-! ## The layers -/

/-- The settings below the variables: the settings file's when one is named and reads, else
the defaults. -/
def baseSettings (env : Environment) : SettingsFile :=
  match env.var "DOCWORKER_CONFIG" with
  | some path =>
    match env.read path with
    | .ok text =>
      match SettingsFile.parse text with
      | .ok s => s
      | .error _ => {}
    | .error _ => {}
  | none => {}

/-- Worker settings with each variable laid over `w`. -/
def layeredWorker (env : Environment) (w : WorkerSettings) : WorkerSettings where
  maxBatchSize := Override.maxBatchSize.layOver env w.maxBatchSize
  maxBatchTimeMs := Override.maxBatchTime.layOver env w.maxBatchTimeMs
  inlineThreshold := Override.inlineThreshold.layOver env w.inlineThreshold
  storeRetries := Override.storeRetries.layOver env w.storeRetries

/-- Queue settings with each variable laid over `q`; the visibility timeout and the poll
interval have no variable. -/
def layeredQueue (env : Environment) (q : QueueSettings) : QueueSettings :=
  { q with inputQueue := (env.var "DOCWORKER_INPUT_QUEUE").getD q.inputQueue,
           outputQueue := (env.var "DOCWORKER_OUTPUT_QUEUE").getD q.outputQueue,
           redeliveryDelaySecs := Override.redeliveryDelay.layOver env q.redeliveryDelaySecs }

/-- The configuration the layers give. -/
def layered (env : Environment) : Config where
  databaseUrl := (env.var "DATABASE_URL").getD ""
  databaseMaxConnections := Override.maxConnections.layOver env defaultMaxConnections
  otelEndpoint := env.var "OTEL_ENDPOINT"
  logLevel := (env.var "LOG_LEVEL").getD "info"
  worker := layeredWorker env (baseSettings env).worker
  queue := layeredQueue env (baseSettings env).queue

/-! ## The checks -/

/-- The check of the settings file: none is named, or it reads and parses. -/
def fileCheck (env : Environment) : Except Error Unit :=
  match env.var "DOCWORKER_CONFIG" with
  | none => .ok ()
  | some path =>
    match env.read path with
    | .error e => .error (.config ("cannot read settings file " ++ path ++ ": " ++ e))
    | .ok text =>
      match SettingsFile.parse text with
      | .ok _ => .ok ()
      | .error m => .error (.config ("bad settings file " ++ path ++ ": " ++ m))

/-- The lower bound on database connections. -/
def connectionsCheck (n : Nat) : Except Error Unit :=
  if n = 0 then .error (.config "DATABASE_MAX_CONNECTIONS must be at least 1") else .ok ()

/-- The database address is required. -/
def urlCheck (env : Environment) : Except Error Unit :=
  match env.var "DATABASE_URL" with
  | some _ => .ok ()
  | none => .error (.config "required environment variable DATABASE_URL is not set")

/-- Every check of configuration, in the order they run. -/
def checks (env : Environment) : List (Except Error Unit) :=
  [fileCheck env,
   Override.maxBatchSize.check env, Override.maxBatchTime.check env,
   Override.inlineThreshold.check env, Override.storeRetries.check env,
   (layeredWorker env (baseSettings env).worker).validate,
   Override.redeliveryDelay.check env,
   (layeredQueue env (baseSettings env).queue).validate,
   Override.maxConnections.check env,
   connectionsCheck (Override.maxConnections.layOver env defaultMaxConnections),
   urlCheck env]

/-! ## From the steps to the layers and the checks -/

theorem workerFrom_eq (env : Environment) (w : WorkerSettings) :
    workerFrom env w = (do
      Override.maxBatchSize.check env
      Override.maxBatchTime.check env
      Override.inlineThreshold.check env
      Override.storeRetries.check env
      pure (layeredWorker env w)) := by
  simp only [workerFrom, Override.override_eq, bind_assoc, pure_bind]
  rfl

theorem queueFrom_eq (env : Environment) (q : QueueSettings) :
    queueFrom env q = (do Override.redeliveryDelay.check env; pure (layeredQueue env q)) := by
  simp only [queueFrom, Override.override_eq, bind_assoc, pure_bind]
  rfl

/-- A guard that fails with `e`, ahead of the rest of a sequence. -/
theorem ite_throw_bind {β : Type} (c : Prop) [Decidable c] (e : Error) (m : Except Error β) :
    (if c then (throw e >>= fun (_ : PUnit) => m) else m) =
      ((if c then .error e else .ok ()) >>= fun _ => m) := by
  split <;> rfl

/-- Configuration runs every check in order and then gives the layered configuration. -/
theorem fromEnv_eq (env : Environment) :
    fromEnv env = (forM (checks env) id >>= fun _ => pure (layered env)) := by
  unfold fromEnv checks layered fileCheck baseSettings urlCheck connectionsCheck loadFile
  simp only [workerFrom_eq, queueFrom_eq, Override.override_eq, bind_assoc, pure_bind,
    ite_throw_bind, List.forM_cons, List.forM_nil, id]
  cases env.var "DOCWORKER_CONFIG" with
  | none =>
    cases env.var "DATABASE_URL" with
    | none => rfl
    | some url => rfl
  | some path =>
    dsimp only
    cases env.read path with
    | error e => rfl
    | ok text =>
      dsimp only
      cases SettingsFile.parse text with
      | error m => rfl
      | ok file =>
        cases env.var "DATABASE_URL" with
        | none => rfl
        | some url => rfl

/-- Configuration succeeds exactly when every check passes, and then gives the layered
configuration: each setting is its variable's reading when set, else the settings file's
value, else the default. Otherwise it fails with the fault of the first check that fails. -/
theorem fromEnv_checks_in_order (env : Environment) :
    (∀ c, fromEnv env = .ok c ↔ (∀ ch ∈ checks env, ch = .ok ()) ∧ c = layered env) ∧
      ∀ e, fromEnv env = .error e ↔
        ∃ pre post, checks env = pre ++ .error e :: post ∧ ∀ ch ∈ pre, ch = .ok () := by
  rw [fromEnv_eq]
  refine ⟨fun c => ?_, fun e => ?_⟩
  · rw [bind_pure_eq_ok_iff, forM_eq_ok_iff]
  · rw [bind_pure_eq_error_iff, forM_eq_error_iff]

-- A batch size of zero and no database address: the worker check comes first.
example :
    fromEnv ⟨fun n => if n = "DOCWORKER_MAX_BATCH_SIZE" then some "0" else none,
      fun _ => .error "unread"⟩ = .error (.config "max_batch_size must be a positive integer") := by
  rfl

end DocBatch.Config
