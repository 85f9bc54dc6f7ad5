import LogSieve.Journal.Directive
import LogSieve.Text.Utf8

/-!
# A journal that is set by directives

A setting says how detailed the events are that are shown.  It is a list of directives with commas
between them.

* `Verbosity.ofText?` — the directives of a setting; one that cannot be read makes the setting void.
* `Verbosity.ofReadable` — the directives that can be read, the others left out.
* `Verbosity.shows` — whether an event is shown.
* `Journal.standard` — the journal.  The tools run with it; nothing that is said about them rests on it.
-/

namespace LogSieve

/-- Directives in the order in which they were given. -/
structure Verbosity where
  directives : List Directive := []
  deriving DecidableEq, Repr

namespace Verbosity

/-- What stands between the commas of a setting, where anything does. -/
def items (setting : Text) : List Text :=
  (fields ',' setting).filter (!·.isEmpty)

/-- The directives of a setting.  The first that cannot be read decides what is wrong. -/
def ofText? (setting : Text) : Except SettingFault Verbosity :=
  ((items setting).mapM Directive.ofText?).map (⟨·⟩)

/-- The directives of a setting that can be read. -/
def ofReadable (setting : Text) : Verbosity :=
  ⟨(items setting).filterMap fun item => (Directive.ofText? item).toOption⟩

def deciding? (verbosity : Verbosity) (event : Event) : Option Directive :=
  (verbosity.directives.filter fun directive => directive.isLasting && directive.covers event).foldl
    (fun best directive =>
      match best with
      | none => some directive
      | some other => if other.outranks directive then some other else some directive) none

/-- Whether an event is shown.  All events are noted at the level `debug`. -/
def shows (verbosity : Verbosity) (event : Event) : Bool :=
  match verbosity.deciding? event with
  | none => false
  | some directive => directive.bound.includes .debug

end Verbosity

/-- A journal whose setting is a list of directives in UTF-8. -/
def Journal.standard : Journal where
  ofSetting setting :=
    match setting.bind Utf8.decode? with
    | none => .error .malformed
    | some text => (Verbosity.ofText? text).map Verbosity.shows
  ofDirectives directives := (Verbosity.ofReadable directives).shows
  line := Event.text

end LogSieve
