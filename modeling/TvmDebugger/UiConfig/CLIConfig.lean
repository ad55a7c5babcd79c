import TvmDebugger.Python.Collections

/-! `CLIConfig` of ui_config.py: the debugger's settings, an OrderedDict that starts from two
defaults, takes the values of a JSON file where one exists, and is written back to that file
on start and after every `set`. A session is the object together with the file; each call
returns the session it leaves and its value or the exception it raised, so that what a
raising call leaves behind is part of the model.
-/

namespace TvmDebugger.UiConfig

open TvmDebugger.Python

/-- A configuration value. The file's values come from JSON; `bool`, `int` and `str` are the
types `set` converts to, and a float, `None`, list or dict read from the file is kept as the
name of its Python type and its JSON text. -/
inductive ConfigValue
  | bool (b : Bool)
  | int (n : Int)
  | str (s : String)
  | other (type : String) (json : String)
  deriving DecidableEq, Repr

/-- `type(value).__name__`. -/
def ConfigValue.type : ConfigValue → String
  | .bool _ => "bool"
  | .int _ => "int"
  | .str _ => "str"
  | .other type _ => type

/-- `_DEFAULT_CONFIG`. -/
def defaultConfig : List (String × ConfigValue) :=
  [("graph_recursion_depth", .int 20), ("mouse_mode", .bool true)]

/-- `collections.OrderedDict(self._DEFAULT_CONFIG)`. -/
def defaults : OrderedDict ConfigValue := OrderedDict.empty.assign defaultConfig

/-- What `set` reads of its `property_val`: its text when it is a `str`, and what `bool()`,
`int()` and `str()` give for it. -/
structure Argument where
  text : Option String
  truth : Bool
  toInt : Except PyError Int
  toStr : String
  deriving DecidableEq

/-- A `callback` given to `set_callback`: which object it is, and whether `callable()` holds
of it. What a callback does when `set` calls it is outside this module. -/
structure Callback where
  id : Nat
  callable : Bool
  deriving DecidableEq, Repr

/-- What is at the configuration file's path, as `os.path.isfile` and `json.load` see it. -/
inductive FileContent
  /-- No regular file: `os.path.isfile` is false. -/
  | absent
  /-- A file that `open` or `json.load` fails on with IOError or ValueError. -/
  | unreadable
  /-- A JSON object, its members in file order; a name may repeat. -/
  | object (members : List (String × ConfigValue))
  /-- JSON of another kind, with the Python type `json.load` gives it. -/
  | other (type : String)
  /-- JSON nested deeper than the interpreter's recursion limit, on which `json.load` raises
  RecursionError. -/
  | nested
  deriving DecidableEq

/-- `os.path.isfile(self._config_file_path)`. -/
def FileContent.isFile : FileContent → Bool
  | .absent => false
  | _ => true

/-- The configuration file: what it holds, and whether `open(path, "w")` succeeds on it. -/
structure ConfigFile where
  content : FileContent
  writable : Bool
  deriving DecidableEq

/-- A `CLIConfig` object: `_config` and `_set_callbacks`. -/
structure CLIConfig where
  config : OrderedDict ConfigValue
  setCallbacks : Dict String Callback
  deriving DecidableEq

-----------------------------------------------------------------------------------------
-- The file
-----------------------------------------------------------------------------------------

/-- `_save_to_file`: `json.dump` of the config over the file, or nothing when `open` raises
IOError, which is swallowed. -/
def saveToFile (config : OrderedDict ConfigValue) (file : ConfigFile) : ConfigFile :=
  if file.writable then { file with content := .object config.entries } else file

/-- The dict `json.load` gives for a JSON object: a repeated name keeps its first place and
its last value. -/
def jsonObject (members : List (String × ConfigValue)) : OrderedDict ConfigValue :=
  OrderedDict.empty.assign members

/-- One pass of the loop in `_load_from_file`: `config[key] = config_dict[key]`. -/
def loadKey (configDict config : OrderedDict ConfigValue) (key : String) :
    Except PyError (OrderedDict ConfigValue) :=
  match configDict.get? key with
  | some value => .ok (config.setItem key value)
  | none => .error .keyError

/-- `_load_from_file`: the file's members by sorted name, or `dict()` when reading or decoding
fails with IOError or ValueError. JSON other than an object has no `keys`, and neither that
AttributeError nor the RecursionError of too deep a nesting is caught. -/
def loadFromFile : FileContent → Except PyError (OrderedDict ConfigValue)
  | .object members =>
      (sorted (jsonObject members).keys).foldlM (loadKey (jsonObject members)) OrderedDict.empty
  | .other type => .error (.attributeError ("'" ++ type ++ "' object has no attribute 'keys'"))
  | .nested => .error .recursionError
  | .absent | .unreadable => .ok OrderedDict.empty

/-- The config `__init__` builds before it saves: the defaults, then each loaded value in
turn. -/
def initialConfig (content : FileContent) : Except PyError (OrderedDict ConfigValue) :=
  if content.isFile then (loadFromFile content).map fun config => defaults.assign config.entries
  else .ok defaults

/-- `CLIConfig.__init__`, with the file as it leaves it. -/
def init (file : ConfigFile) : ConfigFile × Except PyError CLIConfig :=
  match initialConfig file.content with
  | .ok config => (saveToFile config file, .ok ⟨config, Dict.empty⟩)
  | .error e => (file, .error e)

-----------------------------------------------------------------------------------------
-- The methods
-----------------------------------------------------------------------------------------

/-- The KeyError of `get`, `set` and `set_callback` for a name that is not a property. -/
def invalidName (propertyName : String) : PyError :=
  .keyErrorWith (propertyName ++ " is not a valid property name.")

/-- `get`. -/
def CLIConfig.get (cli : CLIConfig) (propertyName : String) : Except PyError ConfigValue :=
  match cli.config.get? propertyName with
  | some value => .ok value
  | none => .error (invalidName propertyName)

/-- The strings `set` reads as True for a bool property, after `lower()`. -/
def trueStrings : List String := ["1", "true", "t", "yes", "y", "on"]

/-- The strings `set` reads as False for a bool property, after `lower()`. -/
def falseStrings : List String := ["0", "false", "f", "no", "n", "off"]

/-- `s.lower()` on ASCII letters. Python lowers every cased character, but the only other
characters it lowers to ASCII are the Kelvin sign, to `k`, and the dotted capital I, to `i`
and a combining dot; so both lowerings put a string among the words above alike. -/
def lower (s : String) : String := ⟨s.data.map Char.toLower⟩

/-- The value `set` stores for `property_val` in place of `orig_val`, or what it raises. -/
def convert (origVal : ConfigValue) (propertyVal : Argument) : Except PyError ConfigValue :=
  match origVal with
  | .bool _ =>
      match propertyVal.text with
      | some s =>
          if lower s ∈ trueStrings then .ok (.bool true)
          else if lower s ∈ falseStrings then .ok (.bool false)
          else .error (.valueError ("Invalid string value for bool type: " ++ s))
      | none => .ok (.bool propertyVal.truth)
  | .int _ => propertyVal.toInt.map .int
  | .str _ => .ok (.str propertyVal.toStr)
  | .other type _ =>
      .error (.typeErrorWith ("Unsupported property type: <class '" ++ type ++ "'>"))

/-- `set_callback`. -/
def CLIConfig.setCallback (cli : CLIConfig) (propertyName : String) (callback : Callback) :
    CLIConfig × Except PyError Unit :=
  if propertyName ∉ cli.config.keys then (cli, .error (invalidName propertyName))
  else if !callback.callable then
    (cli, .error (.typeErrorWith "The callback object provided is not callable."))
  else ({ cli with setCallbacks := cli.setCallbacks.insert propertyName callback }, .ok ())

/-- A debugger session: the `CLIConfig` object and the file it saves to. -/
structure Session where
  cli : CLIConfig
  file : ConfigFile
  deriving DecidableEq

/-- `set`. It returns the set-callback it called with the new config, if there is one. -/
def Session.set (s : Session) (propertyName : String) (propertyVal : Argument) :
    Session × Except PyError (Option Callback) :=
  match s.cli.config.get? propertyName with
  | none => (s, .error (invalidName propertyName))
  | some origVal =>
      match convert origVal propertyVal with
      | .error e => (s, .error e)
      | .ok val =>
          let config := s.cli.config.setItem propertyName val
          (⟨{ s.cli with config }, saveToFile config s.file⟩,
            .ok (s.cli.setCallbacks.get? propertyName))

/-- A call on the object. -/
inductive Request
  | get (propertyName : String)
  | set (propertyName : String) (propertyVal : Argument)
  | setCallback (propertyName : String) (callback : Callback)
  deriving DecidableEq

/-- What a call gives back: `get`'s value, the set-callback `set` called, or `None`. -/
inductive Reply
  | value (v : ConfigValue)
  | called (callback : Option Callback)
  | none
  deriving DecidableEq

/-- One call. -/
def Session.handle (s : Session) : Request → Session × Except PyError Reply
  | .get propertyName => (s, (s.cli.get propertyName).map .value)
  | .set propertyName propertyVal =>
      ((s.set propertyName propertyVal).1, (s.set propertyName propertyVal).2.map .called)
  | .setCallback propertyName callback =>
      (⟨(s.cli.setCallback propertyName callback).1, s.file⟩,
        (s.cli.setCallback propertyName callback).2.map fun _ => .none)

/-- Calls one after another. -/
def Session.run (s : Session) : List Request → Session
  | [] => s
  | r :: rs => (s.handle r).1.run rs

end TvmDebugger.UiConfig
