import TvmDebugger.UiConfig.Restart

/-! Several debugger sessions of one user on one configuration file: the default path is in
the home directory, so every `CLIConfig()` reads and writes the same file. A call of one
session is the call on its own object, and each save writes that object's whole config; so
after any interleaving of starts and calls the file holds the config of the session that
saved last, a restart reads back exactly that config, and a value another session set since
is not in the file.
-/

namespace TvmDebugger.UiConfig

open TvmDebugger.Python

/-- The sessions started so far, in order, and the file they share. -/
structure Shared where
  clis : List CLIConfig
  file : ConfigFile

/-- What happens next: a new session starts, or session `session` makes a call. -/
inductive Event
  | start
  | call (session : Nat) (request : Request)

/-- One event. A start that raises leaves no session; a call names a session by its place. -/
def Shared.step (w : Shared) : Event → Shared
  | .start =>
      match init w.file with
      | (file, .ok cli) => ⟨w.clis ++ [cli], file⟩
      | (file, .error _) => ⟨w.clis, file⟩
  | .call session request =>
      match w.clis[session]? with
      | some cli =>
          let s := ((⟨cli, w.file⟩ : Session).handle request).1
          ⟨w.clis.set session s.cli, s.file⟩
      | none => w

/-- Events one after another. -/
def Shared.run (w : Shared) : List Event → Shared
  | [] => w
  | event :: events => (w.step event).run events

/-- Writing a list's own element back leaves the list. -/
theorem set_of_getElem? {α : Type} {l : List α} {i : Nat} {a : α} (h : l[i]? = some a) :
    l.set i a = l :=
  List.ext_getElem? fun j => by
    by_cases same : i = j
    · subst same
      rw [h, List.getElem?_set_self (List.getElem?_eq_some_iff.mp h).1]
    · rw [List.getElem?_set_ne same]

/-- Every session has its properties in the order `__init__` gives them. -/
def Shared.Canonical (w : Shared) : Prop := ∀ cli ∈ w.clis, UiConfig.Canonical cli.config

end TvmDebugger.UiConfig
