import Gateway.Settings.Check

/-!
# The command line

The gateway is started with the path of its settings file. The command line is read from left to right, and the first
word that asks for information or cannot be accepted decides. Log lines are shown up to a level that the environment may
set.
-/

namespace Gateway

namespace Command

/-! ## Arguments -/

/-- What the command line asks for. -/
inductive Request where
  | serve (path : String)
  /-- help or version -/
  | inform
  /-- the command line makes no sense -/
  | refuse
deriving Repr, DecidableEq

/-- What follows a text at the start of another one. -/
def after? (start : String) (word : List Char) : Option (List Char) :=
  if start.toList.isPrefixOf word then some (word.drop start.length) else none

/-- What a single word of the command line means. -/
inductive Word where
  /-- help or version is asked for -/
  | inform
  /-- the settings file -/
  | file (path : String)
  /-- the settings file is the next word -/
  | fileNext
  /-- no options follow -/
  | separator
  | unknown
deriving Repr, DecidableEq

/-- The meaning of a word. -/
def Word.ofString (word : String) : Word :=
  if word = "--" then .separator
  else if word = "--help" ∨ word = "--version" then .inform
  else if word = "--config" ∨ word = "-c" then .fileNext
  else
    match after? "--config=" word.toList with
    | some path => .file (String.ofList path)
    | none =>
      match word.toList with
      | '-' :: 'h' :: _ => .inform
      | '-' :: 'V' :: _ => .inform
      | '-' :: 'c' :: '=' :: path => .file (String.ofList path)
      | '-' :: 'c' :: path => .file (String.ofList path)
      | _ => .unknown

/-- Whether a word can be the value of an option. -/
def isOperand (word : String) : Bool := word = "-" || word.toList.head? != some '-'

/-- What is asked for at the end of the command line. -/
def conclude (path : Option String) : Request :=
  match path with
  | some path => .serve path
  | none => .refuse

/-- Reads arguments; `path` is the settings file named so far, which may be named once. -/
def readArguments (path : Option String) : List String → Request
  | [] => conclude path
  | word :: rest =>
    match Word.ofString word with
    | .inform => .inform
    | .unknown => .refuse
    | .separator => if rest.isEmpty then conclude path else .refuse
    | .file named => if path.isSome then .refuse else readArguments (some named) rest
    | .fileNext =>
      match rest with
      | [] => .refuse
      | named :: rest => if isOperand named && path.isNone then readArguments (some named) rest else .refuse

/-! ## Log levels -/

/-- How important a log line is. -/
inductive Level where
  | error
  | warn
  | info
  | debug
  | trace
deriving Repr, DecidableEq

namespace Level

def name : Level → String
  | error => "ERROR"
  | warn => "WARN"
  | info => "INFO"
  | debug => "DEBUG"
  | trace => "TRACE"

/-- Levels by number; zero is none. -/
def rank : Level → Nat
  | error => 1
  | warn => 2
  | info => 3
  | debug => 4
  | trace => 5

end Level

/-- The number of the least important level a text allows. -/
def levelRank? (text : List Char) : Option Nat :=
  let names := ["off", "error", "warn", "info", "debug", "trace"]
  match names.findIdx? fun n => sameText n.toList text with
  | some n => some n
  | none =>
    match text with
    | [d] => if '0' ≤ d ∧ d ≤ '5' then some (digitValue d) else none
    | _ => none

/-- A rule of a filter: log lines of components whose name starts with `component` are shown up to a rank. -/
structure Rule where
  component : List Char
  rank : Nat
deriving Repr, DecidableEq

/-- The rule a text spells: a level for all, a component with a level, or a component with all its lines. -/
def rule? (text : List Char) : Option Rule :=
  match levelRank? text with
  | some rank => some ⟨[], rank⟩
  | none =>
    let isName (cs : List Char) := !cs.isEmpty && cs.all fun c => isAlphanumeric c || c == '_' || c == ':' || c == '-'
    match cutAt '=' text with
    | (component, none) => if isName component then some ⟨component, 5⟩ else none
    | (component, some []) => if isName component then some ⟨component, 5⟩ else none
    | (component, some level) => if isName component then (levelRank? level).map fun rank => ⟨component, rank⟩ else none

/-- The name of the component whose lines are logged here. -/
def component : List Char := "hopline".toList

/-- The rule that decides for a component: the longest name, of equal ones the last. -/
def decisive (rules : List Rule) : Option Rule :=
  (rules.filter fun r => r.component.isPrefixOf component).foldl (fun best r =>
    match best with
    | none => some r
    | some b => if b.component.length ≤ r.component.length then some r else some b) none

/-- The rank up to which lines are shown. The text starts with the level of this component; more rules may follow after
commas. Without any rule that makes sense errors are shown. -/
def shownRank (filter : Option String) : Nat :=
  let text := component ++ '=' :: (filter.getD "info").toList
  let rules := ((fields ',' text).filter fun f => !f.isEmpty).filterMap rule?
  if rules.isEmpty then Level.error.rank
  else ((decisive rules).map Rule.rank).getD 0

/-- A line of the log. -/
structure LogLine where
  level : Level
  message : String
deriving Repr, DecidableEq

/-! ## Runs -/

/-- Why a file could not be read. -/
inductive Unreadable where
  | missing
  | other (detail : String)
deriving Repr, DecidableEq

/-- The wording of a reason. -/
def Unreadable.message : Unreadable → String
  | missing => "No such file or directory (os error 2)"
  | other detail => detail

/-- How a run ends, or that it goes on serving. -/
inductive Ending where
  | exit (code : Nat)
  | serving (limits : Settings.Limits) (routes : RouteTable)
deriving Repr, DecidableEq

/-- The exit code; a gateway that serves ends with 0 when it is told to stop. -/
def Ending.code : Ending → Nat
  | exit code => code
  | serving .. => 0

/-- What is logged when a gateway starts to serve. -/
def startLines (limits : Settings.Limits) : List LogLine :=
  let isV6 (a : SocketAddress) : Bool := match a.ip with
    | .v6 _ => true
    | .v4 .. => false
  ⟨.info, if limits.listen.any isV6 then "Listen both IPv4 and IPv6" else "Listen IPv4"⟩
    :: limits.listen.map (fun a => ⟨.info, "Listen address: " ++ a.text⟩)
    ++ if limits.traceMessages then [⟨.info, "Message tracing is enabled at trace level"⟩] else []

/-- The log of a run that could not start. -/
def failedLines (stage detail : String) : List LogLine :=
  [⟨.error, stage ++ detail⟩, ⟨.error, "hopline service exited: " ++ detail⟩]

/-- A run with the contents of its settings file: how it ends, and its log. -/
def serve (file : Except Unreadable Bytes) : Ending × List LogLine :=
  let started : LogLine := ⟨.info, "Start hopline service"⟩
  let failed (stage detail : String) : Ending × List LogLine := (.exit 1, started :: failedLines stage detail)
  match file with
  | .error reason => failed "Invalid toml file: " reason.message
  | .ok bytes =>
    match Settings.Document.ofBytes bytes with
    | .error flaw => failed "Invalid toml file: " flaw.message
    | .ok document =>
      match document.build with
      | .error flaw => failed "Invalid configuration: " flaw.message
      | .ok (limits, routes) => (.serving limits routes, started :: startLines limits)

/-- The lines that are shown. -/
def shown (filter : Option String) (lines : List LogLine) : List LogLine :=
  lines.filter fun l => decide (l.level.rank ≤ shownRank filter)

/-- A whole run: arguments, the filter of the log, and the files there are. -/
def run (arguments : List String) (filter : Option String) (file : String → Except Unreadable Bytes) :
    Ending × List LogLine :=
  match readArguments none arguments with
  | .inform => (.exit 0, [])
  | .refuse => (.exit 2, [])
  | .serve path =>
    let (ending, lines) := serve (file path)
    (ending, shown filter lines)

end Command

end Gateway
