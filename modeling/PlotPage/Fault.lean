/-!
# Faults

Every way in which a call can fail is a cause of its own, and each cause belongs to one kind.  A
description or a setting that cannot be used may be the consequence of another cause, which is then
kept inside.  The wording of every message stands in `Fault.message?`; a cause that lies outside
this library, such as a text that is no numeral or a missing directory, has no wording here.
-/

namespace PlotPage

/-- The kinds of faults. -/
inductive FaultKind where
  | value
  | type
  | index
  | overflow
  | attribute
  | lookup
  | key
  | encoding
  | fileMissing
  | fileExists
  | isDirectory
  | notDirectory
  | system
  | write
  | layout
  | script
  | settings
  | markup
  | programMissing
  | programTimeout
  | programFailed
  deriving DecidableEq, Repr

/-- What a call expected when it was given something else. -/
inductive Noun where
  | plot
  | axis
  | graph
  | layout
  deriving DecidableEq, Repr

/-- The name of an expected thing with its article. -/
def Noun.withArticle : Noun → String
  | .plot => "a Plot"
  | .axis => "an Axis"
  | .graph => "a Graph"
  | .layout => "a GraphLayout"

/-- Causes outside the library: they have a kind and no wording. -/
inductive Outside where
  /-- An integer has too many digits to be written. -/
  | longInteger
  /-- A text is no numeral. -/
  | notNumeral
  /-- A value of this kind is no number. -/
  | notNumber
  /-- A number is too large for a double. -/
  | tooLarge
  /-- A value of this kind has no members. -/
  | notContainer
  /-- A value of this kind cannot be gone through. -/
  | notIterable
  /-- A value of this kind cannot be compared with a number. -/
  | notOrdered
  /-- A value cannot be a key. -/
  | notKey
  /-- A value of this kind cannot select a graph. -/
  | notIndex
  /-- No graph has this position. -/
  | noSuchGraph
  /-- A value that must be a text is none. -/
  | notText
  /-- A value of this kind has no such operation. -/
  | noOperation
  /-- A nested sequence is ragged or too deep. -/
  | ragged
  /-- A layout refuses a number of graphs. -/
  | layoutRefuses
  /-- A mapping has no such key. -/
  | missingKey
  /-- A sequence has no such position. -/
  | missingItem
  /-- A date or a time is outside the calendar. -/
  | outsideCalendar
  /-- A time is beyond what the clock can hold. -/
  | outsideClock
  /-- A time is beyond what the system's calendar can hold. -/
  | outsideSystemClock
  /-- A message and its arguments do not fit. -/
  | badTemplate
  /-- A message asks for a number and the argument is none. -/
  | badArgument
  /-- The text cannot be written in the encoding, or the bytes are no text in it. -/
  | unencodable
  /-- The encoding is not known. -/
  | unknownEncoding
  /-- The text has no name to derive another name from, or the other name is none. -/
  | badName
  /-- A path holds a character that no path may hold. -/
  | badPath
  | noFile
  | fileInTheWay
  | directoryInTheWay
  | fileAsDirectory
  | nameTooLong
  /-- The system does not permit what it is asked for. -/
  | notPermitted
  /-- A file is no program. -/
  | notProgram
  /-- A time limit is no number. -/
  | notLimit
  /-- A value that must be written out is a part of itself. -/
  | partOfItself
  deriving DecidableEq, Repr

/-- The kind of a cause outside the library. -/
def Outside.kind : Outside → FaultKind
  | .longInteger => .value
  | .notNumeral => .value
  | .notNumber => .type
  | .tooLarge => .overflow
  | .notContainer => .type
  | .notIterable => .type
  | .notOrdered => .type
  | .notKey => .type
  | .notIndex => .type
  | .noSuchGraph => .index
  | .notText => .type
  | .noOperation => .attribute
  | .ragged => .value
  | .layoutRefuses => .layout
  | .missingKey => .key
  | .missingItem => .index
  | .outsideCalendar => .value
  | .outsideClock => .overflow
  | .outsideSystemClock => .system
  | .badTemplate => .value
  | .badArgument => .type
  | .unencodable => .encoding
  | .unknownEncoding => .lookup
  | .badName => .value
  | .badPath => .value
  | .noFile => .fileMissing
  | .fileInTheWay => .fileExists
  | .directoryInTheWay => .isDirectory
  | .fileAsDirectory => .notDirectory
  | .nameTooLong => .system
  | .notPermitted => .system
  | .notProgram => .system
  | .notLimit => .value
  | .partOfItself => .value

/-- The causes of failure.  A field `shown` is the shown form of the value that was refused. -/
inductive Fault where
  | outside (cause : Outside)
  | brokenLine (what shown : String)
  | blankKey (shown : String)
  | badAxisName (shown : String)
  | quoteInside (what shown : String)
  | truthValue
  | emptyExpression
  | tableNotNumeric (cause : Fault)
  | tableDimensions (count : Nat)
  | tableShape (rows columns : Nat)
  | unexpected (noun : Noun) (kind : String)
  | axisMisplaced (axis name : String)
  | tileOutsidePage (side shown : String)
  | gridSideKind (side kind : String)
  | gridSideSmall (side shown : String)
  | gridCapacity (shown : String)
  | tileIndex (shown rows columns : String)
  | graphIndex (shown : String) (count : Nat)
  | layoutMismatch (capacity count : String)
  | settingsNotMapping (kind : String)
  | sectionNotMapping (name kind : String)
  | notTruthValue (name shown : String)
  | blankExecutable
  | settingsTimeout (shown : String)
  | unknownSettingsLevel (level expected : String)
  | missingSetting (shown : String)
  | badSetting (cause : Fault)
  | emptySettings (path : String)
  | missingSettings (path : String)
  | descriptionNotMapping (kind : String)
  | entryNotMapping (place shown : String)
  | axisEntryNotMapping (place : String)
  | notOneSource (place : String)
  | notRange (place shown : String)
  | badDescription (cause : Fault)
  | emptyDescription (path : String)
  | missingMarkup (path : String)
  | badMarkup (path : String)
  | writeFailed (path : String) (cause : Outside)
  | unknownLevel (level : String)
  | unknownMode (mode : String)
  | emptyExecutable
  | runnerTimeout (shown : String)
  | programMissing (executable : String)
  | programTimeout (seconds : String)
  | programFailed (status : Int) (errors detail : String)
  deriving DecidableEq, Repr

namespace Fault

def kind : Fault → FaultKind
  | .outside cause => cause.kind
  | .brokenLine .. => .value
  | .blankKey _ => .value
  | .badAxisName _ => .value
  | .quoteInside .. => .value
  | .truthValue => .type
  | .emptyExpression => .value
  | .tableNotNumeric _ => .value
  | .tableDimensions _ => .value
  | .tableShape .. => .value
  | .unexpected .. => .type
  | .axisMisplaced .. => .value
  | .tileOutsidePage .. => .value
  | .gridSideKind .. => .layout
  | .gridSideSmall .. => .layout
  | .gridCapacity _ => .layout
  | .tileIndex .. => .layout
  | .graphIndex .. => .index
  | .layoutMismatch .. => .script
  | .settingsNotMapping _ => .settings
  | .sectionNotMapping .. => .settings
  | .notTruthValue .. => .settings
  | .blankExecutable => .settings
  | .settingsTimeout _ => .settings
  | .unknownSettingsLevel .. => .settings
  | .missingSetting _ => .settings
  | .badSetting _ => .settings
  | .emptySettings _ => .settings
  | .missingSettings _ => .fileMissing
  | .descriptionNotMapping _ => .settings
  | .entryNotMapping .. => .settings
  | .axisEntryNotMapping _ => .settings
  | .notOneSource _ => .settings
  | .notRange .. => .settings
  | .badDescription _ => .settings
  | .emptyDescription _ => .settings
  | .missingMarkup _ => .fileMissing
  | .badMarkup _ => .markup
  | .writeFailed .. => .write
  | .unknownLevel _ => .value
  | .unknownMode _ => .value
  | .emptyExecutable => .value
  | .runnerTimeout _ => .value
  | .programMissing _ => .programMissing
  | .programTimeout _ => .programTimeout
  | .programFailed .. => .programFailed

/-- What stands in a message for a cause that has no wording. -/
def detail : String := "<detail>"

/-- The wording of a cause, if it has one. -/
def message? : Fault → Option String
  | .outside _ => none
  | .brokenLine what shown => some s!"{what} must be a single line, got {shown}"
  | .blankKey shown => some s!"Property key must be a non-empty string, got {shown}"
  | .badAxisName shown => some s!"Axis name must be a non-empty word, got {shown}"
  | .quoteInside what shown => some s!"{what} must not contain '\"', got {shown}"
  | .truthValue => some "Booleans are not plottable numbers"
  | .emptyExpression => some "FunctionPlot requires a non-empty expression"
  | .tableNotNumeric cause =>
    some ("DataSetPlot data is not numeric: " ++ (message? cause).getD detail)
  | .tableDimensions count => some s!"DataSetPlot data must be 2-D, got {count} dimensions"
  | .tableShape rows columns =>
    some s!"DataSetPlot requires >= 1 row and column, got shape ({rows}, {columns})"
  | .unexpected noun kind => some s!"Expected {noun.withArticle}, got {kind}"
  | .axisMisplaced axis name => some s!"Axis {axis} cannot be stored under name {name}"
  | .tileOutsidePage side shown => some s!"LayoutMetrics {side} must be in [0, 1], got {shown}"
  | .gridSideKind side kind => some s!"Grid {side} must be an integer, got {kind}"
  | .gridSideSmall side shown => some s!"Grid {side} must be >= 1, got {shown}"
  | .gridCapacity shown => some s!"Grid capacity must be an integer >= 1, got {shown}"
  | .tileIndex shown rows columns => some s!"Tile index {shown} outside {rows}x{columns} grid"
  | .graphIndex shown count => some s!"Graph index {shown} out of range [0, {count})"
  | .layoutMismatch capacity count =>
    some s!"Layout sized for {capacity} graph(s) but document has {count}"
  | .settingsNotMapping kind => some s!"Configuration must be a mapping, got {kind}"
  | .sectionNotMapping name kind => some s!"Section '{name}' must be a mapping, got {kind}"
  | .notTruthValue name shown => some s!"'{name}' must be true or false, got {shown}"
  | .blankExecutable => some "runner.executable must not be empty"
  | .settingsTimeout shown => some s!"runner.timeout_s must be > 0, got {shown}"
  | .unknownSettingsLevel level expected =>
    some s!"Unknown logging.level '{level}'. Expected one of {expected}"
  | .missingSetting shown => some s!"Missing required configuration key: {shown}"
  | .badSetting cause => some ("Invalid configuration value: " ++ (message? cause).getD detail)
  | .emptySettings path => some s!"Empty configuration file: {path}"
  | .missingSettings path => some s!"Configuration file not found: {path}"
  | .descriptionNotMapping kind => some s!"Document description must be a mapping, got {kind}"
  | .entryNotMapping place shown => some s!"{place} must be a mapping, got {shown}"
  | .axisEntryNotMapping place => some s!"{place} must be a mapping"
  | .notOneSource place => some s!"{place} needs exactly one of 'function' or 'data'"
  | .notRange place shown => some s!"{place} must be a 2-element list, got {shown}"
  | .badDescription cause =>
    some ("Invalid document description: " ++ (message? cause).getD detail)
  | .emptyDescription path => some s!"Empty document file: {path}"
  | .missingMarkup path => some s!"YAML file not found: {path}"
  | .badMarkup path => some s!"Failed to parse YAML file {path}: {detail}"
  | .writeFailed path _ => some s!"Failed to write {path} atomically: {detail}"
  | .unknownLevel level => some s!"Unknown log level: {level}"
  | .unknownMode mode => some s!"Unknown format mode: {mode}. Use 'human' or 'json'."
  | .emptyExecutable => some "gnuplot executable must not be empty"
  | .runnerTimeout shown => some s!"timeout_s must be > 0, got {shown}"
  | .programMissing executable => some s!"gnuplot executable not found: {executable}"
  | .programTimeout seconds => some s!"gnuplot did not finish within {seconds} s"
  | .programFailed status _ detail => some s!"gnuplot exited with status {status}: {detail}"

end Fault

end PlotPage
