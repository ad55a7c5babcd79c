import TvmDebugger.UiConfig.Session

/-! Starting a debugger session on the configuration file, and starting it again. `__init__`
puts the defaults first and then the file's other properties by name, and every `set` saves
the whole config; so the file of any session holds a config that a restart reads back as it
is. A start raises only on JSON that is not an object, and then leaves the file.
-/

namespace TvmDebugger.UiConfig

open TvmDebugger.Python OrderedDict

-----------------------------------------------------------------------------------------
-- Loading
-----------------------------------------------------------------------------------------

/-- The loop of `_load_from_file` over distinct keys of the dict, none of them yet in the
config: it never raises, appends the keys in turn, and gives each the dict's value, by
induction on the keys. -/
theorem foldlM_loadKey (configDict : OrderedDict ConfigValue) :
    ∀ (keys : List String) (config : OrderedDict ConfigValue), keys.Nodup →
      (∀ k ∈ keys, k ∈ configDict.keys ∧ k ∉ config.keys) →
      ∃ loaded, keys.foldlM (loadKey configDict) config = .ok loaded ∧
        loaded.keys = config.keys ++ keys ∧
        ∀ k, loaded.get? k = if k ∈ keys then configDict.get? k else config.get? k
  | [], config, _, _ => ⟨config, rfl, by simp, by simp⟩
  | key :: keys, config, nodup, fresh => by
      obtain ⟨notLater, nodup⟩ := List.nodup_cons.mp nodup
      obtain ⟨inDict, notInConfig⟩ := fresh key (List.mem_cons_self _ _)
      obtain ⟨value, found⟩ := Option.ne_none_iff_exists'.mp
        (mt (configDict.get?_eq_none_iff key).mp (not_not.mpr inDict))
      have appended : (config.setItem key value).keys = config.keys ++ [key] := by
        rw [keys_setItem, if_neg notInConfig]
      obtain ⟨loaded, run, keys', values⟩ := foldlM_loadKey configDict keys
        (config.setItem key value) nodup fun k member =>
          ⟨(fresh k (List.mem_cons_of_mem _ member)).1, by
            rw [appended, List.mem_append, List.mem_singleton, not_or]
            exact ⟨(fresh k (List.mem_cons_of_mem _ member)).2,
              fun same => notLater (same ▸ member)⟩⟩
      refine ⟨loaded, by simp [loadKey, found, run], by simp [keys', appended], fun k => ?_⟩
      rw [values, get?_setItem]
      by_cases hit : key = k
      · subst hit
        simp [notLater, found]
      · by_cases later : k ∈ keys <;> simp [later, hit, Ne.symm hit]

/-- `_load_from_file` on a JSON object never raises: it gives the object's names in sorted
order, each with the object's value. -/
theorem loadFromFile_object (members : List (String × ConfigValue)) :
    ∃ loaded, loadFromFile (.object members) = .ok loaded ∧
      loaded.keys = sorted (jsonObject members).keys ∧
      ∀ k, loaded.get? k = (jsonObject members).get? k := by
  have perm : List.Perm (sorted (jsonObject members).keys) (jsonObject members).keys :=
    List.perm_insertionSort _ _
  obtain ⟨loaded, run, keys, values⟩ := foldlM_loadKey (jsonObject members)
    (sorted (jsonObject members).keys) empty (perm.nodup_iff.mpr (nodup_keys _))
    fun k member => ⟨perm.mem_iff.mp member, by simp⟩
  refine ⟨loaded, run, by simpa using keys, fun k => ?_⟩
  rw [values]
  split
  · rfl
  · next absent =>
    exact (((jsonObject members).get?_eq_none_iff k).mpr (mt perm.mem_iff.mpr absent)).symm

/-- What `_load_from_file` returns has its keys in sorted order. -/
theorem loadFromFile_sorted {content : FileContent} {loaded : OrderedDict ConfigValue}
    (h : loadFromFile content = .ok loaded) : loaded.keys.Sorted (· ≤ ·) := by
  cases content with
  | object members =>
    obtain ⟨loaded', run, keys, -⟩ := loadFromFile_object members
    obtain rfl := Except.ok.inj (run.symm.trans h)
    rw [keys]
    exact List.sorted_insertionSort _ _
  | other | nested => simp [loadFromFile] at h
  | absent | unreadable =>
    obtain rfl := Except.ok.inj h
    exact List.sorted_nil

-----------------------------------------------------------------------------------------
-- Starting
-----------------------------------------------------------------------------------------

/-- The order `__init__` leaves the properties in: the defaults, then the others by name. -/
def Canonical (config : OrderedDict ConfigValue) : Prop :=
  ∃ extras, config.keys = defaults.keys ++ extras ∧ extras.Sorted (· ≤ ·) ∧
    ∀ k ∈ extras, k ∉ defaults.keys

/-- The config `__init__` builds is in that order: merging keys in sorted order appends the
new ones sorted. -/
theorem initialConfig_canonical {content : FileContent} {config : OrderedDict ConfigValue}
    (h : initialConfig content = .ok config) : Canonical config := by
  unfold initialConfig at h
  split at h
  · cases loading : loadFromFile content with
    | error e => simp [loading] at h
    | ok loaded =>
      simp only [loading, map_ok, Except.ok.injEq] at h
      subst h
      exact ⟨_, keys_assign defaults loaded.nodup, (loadFromFile_sorted loading).filter _,
        fun k member => by simpa using (List.mem_filter.mp member).2⟩
  · obtain rfl := Except.ok.inj h
    exact ⟨[], by simp, List.sorted_nil, by simp⟩

/-- `__init__` either raises before it saves, or saves the config it built. -/
theorem init_cases (file : ConfigFile) :
    (∃ e, initialConfig file.content = .error e ∧ init file = (file, .error e)) ∨
      ∃ config, initialConfig file.content = .ok config ∧
        init file = (saveToFile config file, .ok ⟨config, Dict.empty⟩) := by
  unfold init
  split
  · next config built => exact .inr ⟨config, built, rfl⟩
  · next e raised => exact .inl ⟨e, raised, rfl⟩

/-- What holds of every session the debugger can be in. -/
structure Invariant (s : Session) : Prop where
  /-- The defaults come first, then the other properties by name. -/
  canonical : Canonical s.cli.config
  /-- A file that can be written holds the config. -/
  mirrored : s.file.writable = true → s.file.content = .object s.cli.config.entries
  /-- Every set-callback is callable. -/
  callable : ∀ propertyName callback, s.cli.setCallbacks.get? propertyName = some callback →
    callback.callable = true

/-- A started session holds the invariant: `__init__` builds the config in order, saves it,
and has no set-callbacks. -/
theorem Invariant.start {file : ConfigFile} {cli : CLIConfig} (started : (init file).2 = .ok cli) :
    Invariant ⟨cli, (init file).1⟩ := by
  rcases init_cases file with ⟨e, -, start⟩ | ⟨config, built, start⟩
  · simp [start] at started
  · rw [start] at started ⊢
    obtain rfl := (Except.ok.inj started).symm
    exact ⟨initialConfig_canonical built, fun writable => saveToFile_of_writable (by simpa using writable),
      fun _ _ registered => by simp [Dict.empty, Dict.get?] at registered⟩

/-- No call changes the order of the properties. -/
theorem Changes.canonical {s s' : Session} (changes : Changes s s')
    (canonical : Canonical s.cli.config) : Canonical s'.cli.config := by
  obtain ⟨extras, split, rest⟩ := canonical
  exact ⟨extras, changes.keys.trans split, rest⟩

/-- Every call keeps the invariant, by what a call can do. -/
theorem Invariant.changes {s s' : Session} (inv : Invariant s) (changes : Changes s s') :
    Invariant s' := by
  refine ⟨changes.canonical inv.canonical, fun writable => ?_, ?_⟩
  · rcases changes.file with ⟨file, config⟩ | saved
    · rw [file, config]
      exact inv.mirrored (file ▸ writable)
    · rw [saved]
      exact saveToFile_of_writable (by rw [← changes.writable]; exact writable)
  · cases changes with
    | none => exact inv.callable
    | value => exact inv.callable
    | @callback propertyName callback _ callable =>
      intro name registered found
      by_cases same : propertyName = name
      · subst same
        simp only [Dict.get?_insert_self, Option.some.injEq] at found
        exact found ▸ callable
      · exact inv.callable name registered (by rwa [Dict.get?_insert_ne _ _ same] at found)

end TvmDebugger.UiConfig
