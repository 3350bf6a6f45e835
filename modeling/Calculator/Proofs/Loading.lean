import Calculator.Settings.Load

/-!
Loading the settings is all or nothing. Each of the two settings takes the environment
variable's text, trimmed, when it is not empty, and otherwise the configuration table's value;
the table is empty when there is no file, the file is not valid TOML, or its settings entry is
not a table. The two values are then checked together as the settings record checks them: a
missing value takes its default, and if either value is invalid, both are dropped and the
defaults hold. So no value from the file or the environment survives an invalid one.

Main statement: `Settings.load_all_or_nothing`.
-/

namespace Calculator

open Calculator.Text

namespace Toml.Table

@[simp] theorem get?_nil (k : String) : get? [] k = none := rfl

theorem get?_cons (e : String × Value) (t : Table) (k : String) :
    get? (e :: t) k = if e.1 = k then some e.2 else get? t k := by
  by_cases h : e.1 = k <;> simp [get?, h]

theorem get?_append (t u : Table) (k : String) : get? (t ++ u) k = (get? t k).or (get? u k) := by
  induction t with
  | nil => rfl
  | cons e t ih =>
    rw [List.cons_append, get?_cons, get?_cons, ih]
    split <;> rfl

theorem get?_eq_none_of_has {t : Table} {k : String} (h : t.has k = false) : t.get? k = none := by
  simpa [get?, has] using h

/-- Setting a key gives it the new value. -/
@[simp] theorem get?_put_self (t : Table) (k : String) (v : Value) :
    (t.put k v).get? k = some v := by
  unfold put
  split
  next hk =>
    -- the first entry with the key is replaced, and no entry before it has the key
    induction t with
    | nil => simp [has] at hk
    | cons e t ih =>
      rw [List.map_cons, get?_cons]
      by_cases he : e.1 = k
      · simp [he]
      · have ht : has t k = true := by simpa [has, he] using hk
        simpa [he] using ih ht
  next hk =>
    rw [get?_append, get?_eq_none_of_has (by simpa using hk)]
    simp [get?_cons]

/-- Replacing the values of one key leaves those of the others: an entry with the key keeps
it, so a search for another key passes it as before. -/
theorem get?_replace_of_ne (t : Table) {k k' : String} (h : k' ≠ k) (v : Value) :
    get? (t.map fun e => if e.1 == k then (k, v) else e) k' = get? t k' := by
  induction t with
  | nil => rfl
  | cons e t ih =>
    rw [List.map_cons, get?_cons, get?_cons, ih]
    by_cases he : e.1 = k
    · simp [he, Ne.symm h]
    · simp [he]

/-- Setting a key leaves the values of the other keys. -/
@[simp] theorem get?_put_of_ne (t : Table) {k k' : String} (h : k' ≠ k) (v : Value) :
    (t.put k v).get? k' = t.get? k' := by
  unfold put
  split
  · exact get?_replace_of_ne t h v
  · rw [get?_append]
    simp [get?_cons, Ne.symm h]

end Toml.Table

/-- The value an environment variable gives a setting: its text with blanks trimmed, unless the
variable is unset or that text is empty. -/
def envValue? : Option String → Option Toml.Value
  | some text =>
    let trimmed := String.ofList (trimBlanks text.toList)
    if trimmed.isEmpty then none else some (.string trimmed)
  | none => none

/-- The value of a setting before it is checked: the environment's, if it gives one, and
otherwise the configuration table's, if the table has one. -/
def settingValue (config : Option String) (env : List (String × String)) (key name : String) :
    Option Toml.Value :=
  (envValue? (env.lookup name)).or ((configSection config).get? key)

/-- The check of the settings record: a missing value takes its default, a present one must be
valid, and one invalid value fails the whole check. -/
def Settings.validate? (depth level : Option Toml.Value) : Option Settings := do
  let d ← match depth with
    | none => some ⟨defaultMaxDepth, defaultMaxDepth_pos⟩
    | some v => v.maxDepth?
  let l ← match level with
    | none => some LogLevel.warning
    | some v => v.logLevel?
  pure ⟨d.1, l, d.2⟩

theorem Settings.validate?_eq_none_of_depth {depth level : Option Toml.Value} {v : Toml.Value}
    (h : depth = some v) (hv : v.maxDepth? = none) : Settings.validate? depth level = none := by
  simp [validate?, h, hv]

theorem Settings.validate?_eq_none_of_level {depth level : Option Toml.Value} {v : Toml.Value}
    (h : level = some v) (hv : v.logLevel? = none) : Settings.validate? depth level = none := by
  cases depth with
  | none => simp [validate?, h, hv]
  | some w => cases w.maxDepth? <;> simp [validate?, h, hv]

/-- An environment variable replaces the value of its key as `envValue?` says. -/
theorem get?_overrideWith_self (t : Toml.Table) (key : String) (text : Option String) :
    (overrideWith t key text).get? key = (envValue? text).or (t.get? key) := by
  cases text with
  | none => rfl
  | some text =>
    simp only [overrideWith, envValue?]
    split <;> simp

theorem get?_overrideWith_of_ne (t : Toml.Table) {key key' : String} (h : key' ≠ key)
    (text : Option String) : (overrideWith t key text).get? key' = t.get? key' := by
  cases text with
  | none => rfl
  | some text =>
    simp only [overrideWith]
    split
    · rfl
    · exact Toml.Table.get?_put_of_ne t h _

/-- The settings a table gives are those its two values pass the check with, or the defaults. -/
theorem Settings.ofTable_eq_validate (t : Toml.Table) :
    Settings.ofTable t =
      (Settings.validate? (t.get? "max_depth") (t.get? "log_level")).getD .default := by
  unfold ofTable validate?
  -- a value that is missing, invalid or valid, for each of the two keys
  cases t.get? "max_depth" with
  | none =>
    cases t.get? "log_level" with
    | none => rfl
    | some l =>
      simp only [Option.map_none, Option.map_some]
      cases l.logLevel? <;> rfl
  | some v =>
    simp only [Option.map_some]
    cases v.maxDepth? with
    | none => rfl
    | some d =>
      cases t.get? "log_level" with
      | none => rfl
      | some l =>
        simp only [Option.map_some]
        cases l.logLevel? <;> rfl

/-- Loading is all or nothing. The two settings' values, the environment's over the
configuration table's, are checked together: the settings are theirs when both pass, and the
defaults otherwise. The nesting limit is at least one and the log level one of the five; and
one invalid value, in either setting, drops every value of the file and the environment. -/
theorem Settings.load_all_or_nothing (config : Option String) (env : List (String × String)) :
    Settings.load config env =
        (Settings.validate? (settingValue config env "max_depth" maxDepthVariable)
          (settingValue config env "log_level" logLevelVariable)).getD .default ∧
      1 ≤ (Settings.load config env).maxDepth ∧
      (Settings.load config env).logLevel.name ∈
        ["DEBUG", "INFO", "WARNING", "ERROR", "CRITICAL"] ∧
      (∀ v, settingValue config env "max_depth" maxDepthVariable = some v →
        v.maxDepth? = none → Settings.load config env = .default) ∧
      (∀ v, settingValue config env "log_level" logLevelVariable = some v →
        v.logLevel? = none → Settings.load config env = .default) := by
  have hkeys : ("max_depth" : String) ≠ "log_level" := by decide
  have hload : Settings.load config env =
      (Settings.validate? (settingValue config env "max_depth" maxDepthVariable)
        (settingValue config env "log_level" logLevelVariable)).getD .default := by
    rw [Settings.load, ofTable_eq_validate, get?_overrideWith_of_ne _ hkeys,
      get?_overrideWith_self, get?_overrideWith_self, get?_overrideWith_of_ne _ (Ne.symm hkeys)]
    rfl
  refine ⟨hload, (Settings.load config env).maxDepth_pos, ?_, ?_, ?_⟩
  · cases (Settings.load config env).logLevel <;> simp [LogLevel.name]
  · intro v hv hinvalid
    rw [hload, validate?_eq_none_of_depth hv hinvalid]
    rfl
  · intro v hv hinvalid
    rw [hload, validate?_eq_none_of_level hv hinvalid]
    rfl

example : Settings.default.maxDepth = 100 ∧ Settings.default.logLevel.name = "WARNING" :=
  ⟨rfl, rfl⟩

end Calculator
