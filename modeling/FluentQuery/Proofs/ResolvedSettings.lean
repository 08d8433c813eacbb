import FluentQuery.Settings.Load

/-!
Settings from a configuration file and the environment. A file's own settings are checked before
the environment is heeded, and what is left of them afterwards is checked again. Main statement:
where the first check makes a difference. Of the values that the environment overrides only a
blank database address does.
-/
namespace FluentQuery.Settings

variable {read : String → Option Settings} {contents contents' : String → Option String}
  {environment : Environment} {settings other base base' : Settings}

/-- The settings before the environment is heeded: those of the configuration file if there is one,
and the defaults otherwise. There are none if the file is malformed. -/
def base? (read : String → Option Settings) (contents : String → Option String)
    (environment : Environment) : Option Settings :=
  match (environment pathVariable).bind contents with
  | some text => read text
  | none => some default

def judged (settings : Settings) : Except Error Settings := settings.check.map fun _ => settings

def blankUrl (settings : Settings) : Bool := Text.blank settings.engine.databaseUrl

/-! Checks. -/

theorem check_eq (settings : Settings) : settings.check =
    if settings.engine.batchSize = 0 then .error .zeroBatchSetting
    else if settings.blankUrl then .error .emptyDatabaseUrl
    else if settings.oracle.timeoutSecs = 0 then .error .zeroTimeoutSetting
    else .ok () := rfl

theorem check_default : (default : Settings).check = .ok () := rfl

/-- Settings that differ in their address at most: it matters where the batch size is no fault. -/
theorem check_eq_check_iff (hbatch : settings.engine.batchSize = other.engine.batchSize)
    (htimeout : settings.oracle.timeoutSecs = other.oracle.timeoutSecs) :
    settings.check = other.check ↔
      settings.engine.batchSize = 0 ∨ settings.blankUrl = other.blankUrl := by
  rw [check_eq, check_eq, ← hbatch, ← htimeout]
  by_cases hzero : settings.engine.batchSize = 0
  · simp [hzero]
  · by_cases hnone : settings.oracle.timeoutSecs = 0 <;>
      cases settings.blankUrl <;> cases other.blankUrl <;> simp [hzero, hnone]

theorem kind_of_check {e : Error} (h : settings.check = .error e) : e.kind = .config := by
  rw [check_eq] at h
  split at h
  · cases h
    rfl
  · split at h
    · cases h
      rfl
    · split at h
      · cases h
        rfl
      · cases h

theorem judged_of_error {e : Error} (h : settings.check = .error e) :
    settings.judged = .error e := by
  rw [judged, h]
  rfl

theorem judged_of_ok (h : settings.check = .ok ()) : settings.judged = .ok settings := by
  rw [judged, h]
  rfl

theorem judged_eq_error_iff {e : Error} :
    settings.judged = .error e ↔ settings.check = .error e := by
  cases hcheck : settings.check with
  | error e' => simp [judged_of_error hcheck]
  | ok _ => simp [judged_of_ok hcheck]

/-! The order of the checks. -/

theorem resolve_of_malformed (h : base? read contents environment = none) :
    resolveWith read contents environment = .error .configSyntax := by
  unfold base? at h
  unfold resolveWith
  cases hfile : (environment pathVariable).bind contents with
  | none => simp [hfile] at h
  | some text =>
    simp only [hfile] at h
    simp [loadWith, h, bind, Except.bind]

/-- The settings are checked as they are in the file, and then as the environment leaves them. -/
theorem resolve_of_base (h : base? read contents environment = some base) :
    resolveWith read contents environment =
      base.check.bind fun _ => (base.overridden environment).judged := by
  have hafter : ∀ settings : Settings, (do
      settings.check
      return settings : Except Error Settings) = settings.judged := by
    intro settings
    cases hcheck : settings.check with
    | error e => rw [judged_of_error hcheck]; rfl
    | ok _ => rw [judged_of_ok hcheck]; rfl
  unfold base? at h
  unfold resolveWith
  cases hfile : (environment pathVariable).bind contents with
  | none =>
    simp only [hfile, Option.some.injEq] at h
    subst h
    exact hafter _
  | some text =>
    simp only [hfile] at h
    cases hcheck : base.check with
    | error e => simp [loadWith, h, hcheck, bind, Except.bind, Except.map]
    | ok _ =>
      simp only [loadWith, h, hcheck, Except.map]
      exact hafter _

theorem kind_of_resolve {e : Error} (h : base? read contents environment = some base)
    (he : resolveWith read contents environment = .error e) : e.kind = .config := by
  rw [resolve_of_base h] at he
  cases hcheck : base.check with
  | error e' =>
    rw [hcheck] at he
    cases he
    exact kind_of_check hcheck
  | ok _ =>
    rw [hcheck] at he
    exact kind_of_check (judged_eq_error_iff.1 he)

/-- The first check makes no difference if it passes, or if the second finds the same fault. -/
theorem resolve_eq_judged_iff (h : base? read contents environment = some base) :
    resolveWith read contents environment = (base.overridden environment).judged ↔
      base.check = .ok () ∨ base.engine.batchSize = 0 ∨
        base.blankUrl = (base.overridden environment).blankUrl := by
  have hsecond := @check_eq_check_iff base (base.overridden environment) rfl rfl
  rw [resolve_of_base h, ← hsecond]
  cases hcheck : base.check with
  | ok _ => exact iff_of_true rfl (.inl rfl)
  | error e =>
    have hfirst : (Except.error e : Except Error Unit).bind
        (fun _ => (base.overridden environment).judged) = .error e := rfl
    rw [hfirst, eq_comm, judged_eq_error_iff, eq_comm]
    simp

/-- What the environment overrides makes no other difference than by a blank address. -/
theorem resolve_congr (h : base? read contents environment = some base)
    (h' : base? read contents' environment = some base')
    (hsame : base.overridden environment = base'.overridden environment)
    (hurl : base.blankUrl = base'.blankUrl) :
    resolveWith read contents environment = resolveWith read contents' environment := by
  have hbatch : (base.overridden environment).engine.batchSize =
      (base'.overridden environment).engine.batchSize := by rw [hsame]
  have htimeout : (base.overridden environment).oracle.timeoutSecs =
      (base'.overridden environment).oracle.timeoutSecs := by rw [hsame]
  rw [resolve_of_base h, resolve_of_base h', hsame,
    (@check_eq_check_iff base base' hbatch htimeout).2 (.inr hurl)]

/-- Reading settings fails on a malformed file. Otherwise they are those of the file or the
defaults, with what the environment overrides, if both can be used, and the first fault otherwise.
This is the outcome of a check after the environment alone, unless the file has a fault that the
environment hides or covers by another. The defaults have none, and a value that the environment
overrides makes a difference only as far as it is a blank address. -/
theorem resolve_judges (read : String → Option Settings) (contents : String → Option String)
    (environment : Environment) :
    ((∃ e, resolveWith read contents environment = .error e ∧ e.kind = .configSyntax) ↔
      base? read contents environment = none) ∧
    ∀ base, base? read contents environment = some base →
      resolveWith read contents environment =
        (base.check.bind fun _ => (base.overridden environment).judged) ∧
      (∀ e, resolveWith read contents environment = .error e → e.kind = .config) ∧
      ((environment pathVariable).bind contents = none →
        resolveWith read contents environment = (base.overridden environment).judged) ∧
      (resolveWith read contents environment = (base.overridden environment).judged ↔
        base.check = .ok () ∨ base.engine.batchSize = 0 ∨
          base.blankUrl = (base.overridden environment).blankUrl) ∧
      ∀ contents' base', base? read contents' environment = some base' →
        base.overridden environment = base'.overridden environment →
        base.blankUrl = base'.blankUrl →
        resolveWith read contents environment = resolveWith read contents' environment := by
  refine ⟨⟨?_, fun h => ⟨_, resolve_of_malformed h, rfl⟩⟩, fun base h => ⟨resolve_of_base h,
    fun e => kind_of_resolve h, fun hfile => ?_, resolve_eq_judged_iff h,
    fun contents' base' h' => resolve_congr h h'⟩⟩
  · rintro ⟨e, he, hkind⟩
    cases h : base? read contents environment with
    | none => rfl
    | some base => exact absurd (hkind.symm.trans (kind_of_resolve h he)) (by decide)
  · rw [base?, hfile, Option.some.injEq] at h
    subst h
    exact (resolve_eq_judged_iff (by rw [base?, hfile])).2 (.inl check_default)

def fileAt (path text : String) : String → Option String :=
  fun name => if name = path then some text else none

def variablesOf (values : List (String × String)) : Environment :=
  fun name => Assoc.get? name values

/-- The environment overrides all that it can in two files, whose formats and keys differ. -/
theorem resolve_judges_overridden :
    let environment := variablesOf [(pathVariable, "a.toml"),
      (databaseUrlVariable, "sqlite://b.db"), (outputFormatVariable, "CSV"), (apiKeyVariable, "k")]
    let first := fileAt "a.toml" "[executor]\noutput_format = \"\"\n[oracle]\ntimeout_secs = 1"
    let second := fileAt "a.toml" "[oracle]\napi_key = \"\"\ntimeout_secs = 1"
    ∃ base base', base? ofToml? first environment = some base ∧
      base? ofToml? second environment = some base' ∧
      base ≠ base' ∧ base.overridden environment = base'.overridden environment ∧
      base.blankUrl = base'.blankUrl ∧ base.check = .ok () ∧
      resolve first environment = (base.overridden environment).judged ∧
      resolve first environment = resolve second environment := by
  intro environment first second
  have h : base? ofToml? first environment = some ⟨{ (default : EngineSettings) with outputFormat := "" },
      { (default : OracleSettings) with timeoutSecs := 1 }⟩ := by decide +kernel
  have h' : base? ofToml? second environment = some ⟨default,
      { (default : OracleSettings) with apiKey := some "", timeoutSecs := 1 }⟩ := by decide +kernel
  obtain ⟨-, -, -, hjudged, hcongr⟩ := (resolve_judges ofToml? first environment).2 _ h
  have hsame := hcongr second _ h' (by decide +kernel) rfl
  exact ⟨_, _, h, h', by decide, by decide +kernel, rfl, rfl, hjudged.2 (.inl rfl), hsame⟩

/-- A blank address in the file is a fault, although the environment overrides it. -/
theorem resolve_ne_judged :
    ∃ contents environment base, base? ofToml? contents environment = some base ∧
      environment databaseUrlVariable = some "sqlite::memory:" ∧
      (base.overridden environment).check = .ok () ∧
      resolve contents environment = .error .emptyDatabaseUrl := by
  have h : base? ofToml? (fileAt "a.toml" "[executor]\ndatabase_url = \"\"\n")
      (variablesOf [(pathVariable, "a.toml"), (databaseUrlVariable, "sqlite::memory:")]) =
        some ⟨{ (default : EngineSettings) with databaseUrl := "" }, default⟩ := by decide +kernel
  refine ⟨_, _, _, h, by decide, ?_, by rw [resolve, resolve_of_base h]; rfl⟩
  rw [check_eq, if_neg (by decide), if_neg (by decide +kernel), if_neg (by decide)]

end FluentQuery.Settings
