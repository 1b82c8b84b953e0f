import Colloquy.Logging.Directive

/-!
# Log Filters

Which events are logged. A filter has rules about events and rules about work, and an event is
logged if either kind lets it through.

Of the rules that are for an event the most specific one decides alone: the rule with the longest
channel, or among rules for one channel the one that asks for most facts. So a rule for a part of
the program can let through less than the rule for the whole, as well as more. An event that no
rule is for is not logged.

Rules about work work together: an event that is part of some work is logged if any of the rules
for that work lets it through. But work is followed only if some rule, about whatever events, lets
its level through, or if some rule asks for values, which are not known before the work has begun.
A rule that has been replaced by another still counts for that.

## Main definitions

* `LogRule`, `LogFilter`: Thresholds for events and for work.
* `LogFilter.add`: A filter with one more directive.
* `LogFilter.admits`: Whether an event is logged.
* `LogFilter.ofList`, `LogFilter.ofListLeniently`: The filter of directives with commas between
  them.
* `LogFilter.remarks`: What is said about directives that are passed over.
-/

namespace Colloquy

/-- A threshold for the events of channels that start with `channel` and that carry all of
    `facts`. -/
structure LogRule where
  channel : Option String
  facts : List String
  threshold : Threshold
  deriving DecidableEq, Repr

namespace LogRule

/-- The rule of a directive, unless it asks for work of some kind or for values of facts. -/
def ofDirective? (directive : Directive) : Option LogRule :=
  if directive.work.isSome || directive.asksForValues then none
  else some ⟨directive.channel, directive.facts.map (·.1), directive.threshold⟩

/-- How specific a rule is: the length of its channel, none being the least, and the number of facts
    it asks for. -/
def rank (rule : LogRule) : Nat × Nat :=
  (match rule.channel with
    | some channel => channel.utf8ByteSize + 1
    | none => 0,
    rule.facts.length)

/-- Whether one rule is at least as specific as another. What they ask for decides between rules
    of one rank. -/
def precedes (a b : LogRule) : Bool :=
  b.rank.1 < a.rank.1 ||
    (a.rank.1 = b.rank.1 && (b.rank.2 < a.rank.2 || (a.rank.2 = b.rank.2 && !a.facts.lex b.facts)))

/-- Whether a rule is for an event. -/
def concerns (rule : LogRule) (event : Event) : Bool :=
  Directive.covers rule.channel event.channel &&
    rule.facts.all fun name => name = "message" || event.facts.any (·.1 = name)

end LogRule

/-- Rules about which events are logged. No two rules about events are for the same channel and the
    same facts, and no two rules about work ask for the same. The widest threshold is that of all
    rules that were ever added. -/
structure LogFilter where
  rules : List LogRule := []
  workRules : List Directive := []
  widest : Threshold := none
  deriving DecidableEq, Repr

namespace LogFilter

/-- A filter with one more rule about events, in place of an earlier one for the same events. -/
def addRule (filter : LogFilter) (rule : LogRule) : LogFilter :=
  let others := filter.rules.filter fun other =>
    other.channel ≠ rule.channel || other.facts ≠ rule.facts
  { filter with
    rules := rule :: others
    widest := filter.widest.wider rule.threshold }

/-- A filter with one more rule about work, in place of an earlier one that asks for the same. -/
def addWorkRule (filter : LogFilter) (rule : Directive) : LogFilter :=
  let others := filter.workRules.filter fun other =>
    { other with threshold := rule.threshold } ≠ rule
  { filter with
    workRules := rule :: others
    widest := filter.widest.wider rule.threshold }

/-- A filter with one more directive, as a rule about events if it can be one. -/
def add (filter : LogFilter) (directive : Directive) : LogFilter :=
  match LogRule.ofDirective? directive with
  | some rule => filter.addRule rule
  | none => filter.addWorkRule directive

/-- The filter of directives, each of which is a rule about events and about work if it can be
    both. -/
def ofDirectives (directives : List Directive) : LogFilter :=
  (directives.filter (·.asksForWork)).foldl addWorkRule
    ((directives.filterMap LogRule.ofDirective?).foldl addRule {})

/-- The most specific of the rules for an event. -/
def rule? (filter : LogFilter) (event : Event) : Option LogRule :=
  (filter.rules.filter (·.concerns event)).foldl
    (fun best rule => match best with
      | some best => some (if best.precedes rule then best else rule)
      | none => some rule)
    none

/-- Whether an event is logged for itself. -/
def admitsEvent (filter : LogFilter) (event : Event) : Bool :=
  match filter.rule? event with
  | some rule => rule.threshold.admits event.level
  | none => false

/-- Whether work is followed. -/
def follows (filter : LogFilter) (work : Work) : Bool :=
  filter.workRules.any (·.asksForValues) || filter.widest.admits work.level

/-- Whether events of a level are logged if they are part of some work. -/
def admitsDuring (filter : LogFilter) (work : Work) (level : Level) : Bool :=
  filter.follows work &&
    filter.workRules.any fun rule =>
      rule.concerns work && rule.fits work && rule.threshold.admits level

/-- Whether an event is logged. -/
def admits (filter : LogFilter) (event : Event) : Bool :=
  filter.admitsEvent event || event.work.any fun work => filter.admitsDuring work event.level

/-- The texts of directives with commas between them. -/
def texts (list : String) : List String :=
  ((splitAt ',' list.toList).filter (!·.isEmpty)).map String.ofList

/-- The filter of a list of directives, all of which have to be right. An empty list lets nothing
    through. -/
def ofList (list : String) : Except DirectiveFault LogFilter :=
  ((texts list).mapM Directive.ofText).map ofDirectives

/-- The filter of the directives of a list that are right. If none is, errors alone are logged. -/
def ofListLeniently (list : String) : LogFilter :=
  match (texts list).filterMap fun text => (Directive.ofText text).toOption with
  | [] => LogFilter.addRule {} ⟨none, [], some .error⟩
  | directives => ofDirectives directives

/-- Whether a word of a directive would be cut within a character. Such a directive cannot be passed
    over. -/
def isTorn (text : String) : Bool := (Directive.ofText text) matches .error .torn

/-- What is said about the directives of a list that are passed over. Nothing is said once one of
    them cannot be. -/
def remarks (list : String) : String :=
  String.join (((texts list).takeWhile (!isTorn ·)).filterMap fun text =>
    match Directive.ofText text with
    | .ok _ => none
    | .error fault => some ("ignoring `" ++ text ++ "`: " ++ fault.message ++ "\n"))

end LogFilter

end Colloquy
