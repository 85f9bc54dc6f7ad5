import LogSieve.Journal.Event

/-!
# Journals

A tool hands its events to a *journal*, which shows some of them.  Which ones is decided once, when
the journal reads its setting, before the tool does anything else.  Journals are not part of the
tools: what they make of a setting and how they word an event is up to them.

* `Journal` — a journal, as a tool sees it.
* `Journal.filter?` — the choice that a tool asks its journal for.  A setting that is of no use does no
  harm by itself: only warnings are shown then.
-/

namespace LogSieve

/-- Why a journal makes no choice from a setting. -/
inductive SettingFault where
  /-- There is no setting, or it is not understood. -/
  | malformed
  /-- The journal gives up, and the tool with it. -/
  | fatal
  deriving DecidableEq, Repr

/-- What shows the events of a tool. -/
structure Journal where
  /-- The events that are shown for the setting in the environment, if there is one. -/
  ofSetting : Option Octets → Except SettingFault (Event → Bool)
  /-- The events that are shown for directives given by the tool itself.  What is not understood in
  them is passed over. -/
  ofDirectives : Text → Event → Bool
  /-- The line that shows an event, without its end. -/
  line : Event → Text

namespace Journal

/-- The directives of a tool that finds no setting of use. -/
def fallback : Text :=
  "warn".toList

/-- The events that a tool has its journal show, or nothing if the journal gives up over the
setting. -/
def filter? (journal : Journal) (setting : Option Octets) : Option (Event → Bool) :=
  match journal.ofSetting setting with
  | .ok shows => some shows
  | .error .malformed => some (journal.ofDirectives fallback)
  | .error .fatal => none

end Journal

end LogSieve
