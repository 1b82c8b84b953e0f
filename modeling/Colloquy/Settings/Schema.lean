import Colloquy.Dictionary
import Colloquy.ShareLog
import Colloquy.Template.Reader
import Colloquy.Text.Blank

/-!
# Settings

Everything that an installation can be told: where predicates are kept, how deep templates may nest,
what a predicate is worth that was never set, where gossip and log lines go, and which agents there
are. Every setting has a default, so an installation that is told nothing works.

A few values would make an installation useless, and `Settings.check` names the first of them. It
does not look at the disk: a directory that cannot be made is found out about when it is needed.

## Main definitions

* `LogSettings`: What is logged, in which form and where to.
* `Settings`: All settings.
* `SettingsFault`: What makes settings unusable.
* `Settings.check`: The first fault of settings.
-/

namespace Colloquy

/-- What is logged, in which form and where to. -/
structure LogSettings where
  enabled : Bool := true
  level : String := "info"
  format : String := "text"
  output : String := "stderr"
  file : Option String := none
  color : Bool := true
  modules : Dictionary String := ∅
  deriving DecidableEq, Repr

/-- Everything that an installation can be told. `agents` holds the properties of each agent. -/
structure Settings where
  baseDir : String := "ffm"
  suffix : String := ".predicates"
  maxDepth : Nat := defaultNesting
  emptyDefault : String := ""
  shareLog : ShareLog := {}
  logging : LogSettings := {}
  agents : Dictionary (Dictionary String) := ∅
  deriving DecidableEq, Repr

/-- What makes settings unusable. -/
inductive SettingsFault where
  | noDepth
  | tooMuchDepth
  | emptySuffix
  | blankRoot
  deriving DecidableEq, Repr

/-- The words for what makes settings unusable. -/
def SettingsFault.message : SettingsFault → String
  | .noDepth => "evaluator.max_depth must be at least 1"
  | .tooMuchDepth => "evaluator.max_depth must be at most " ++ toString nestingCeiling
  | .emptySuffix => "store.suffix must not be empty"
  | .blankRoot => "gossip.xml_root must not be empty"

/-- Nothing, if settings are usable; otherwise the first reason why not. -/
def Settings.check (settings : Settings) : Except SettingsFault Unit :=
  if settings.maxDepth = 0 then .error .noDepth
  else if nestingCeiling < settings.maxDepth then .error .tooMuchDepth
  else if settings.suffix.isEmpty then .error .emptySuffix
  else if isAllBlank settings.shareLog.root.toList then .error .blankRoot
  else .ok ()

end Colloquy
