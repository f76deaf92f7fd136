import ReefRover.Pattern.OfText
import ReefRover.Run.LogLine

/-!
This module contains the settings of the log, which say what is shown of it. A setting is a list of
directives, such as `warn,ocean_bot::sim=debug`, and may have a pattern after a slash, which the
text of each line has to hold. A directive limits the level of the sources whose names begin with
its own; of several the one with the longest name counts.
-/

namespace ReefRover

structure Directive where
  /-- How the names of the sources begin; without it all sources are meant. -/
  source : Option String
  /-- The least grave level that is shown; without it nothing is. -/
  limit : Option Level
deriving DecidableEq, Repr

inductive SettingFault where
  | manySlashes (setting : String)
  | badDirective (text : String)
  | badPattern (e : PatternError)
deriving DecidableEq, Repr

namespace SettingFault

def message : SettingFault → String
  | manySlashes setting => "invalid logging spec '" ++ setting ++ "' (too many '/'s)"
  | badDirective text => "invalid logging spec '" ++ text ++ "'"
  | badPattern e => "invalid regex filter - " ++ e.message

def warning (fault : SettingFault) : String :=
  "warning: " ++ fault.message ++ ", ignoring it\n"

end SettingFault

namespace Directive

def limitOf? (word : String) : Option (Option Level) :=
  if word.toLower == "off" then some none else (Level.ofName? word).map some

def ofText (text : String) : Except SettingFault Directive :=
  match text.splitOn "=" with
  | [word] =>
    match limitOf? word with
    | some limit => .ok { source := none, limit }
    | none => .ok { source := some word, limit := some .trace }
  | [source, word] =>
    let word := Text.trimmed word
    if word.isEmpty then
      .ok { source := some source, limit := some .trace }
    else
      match limitOf? word with
      | some limit => .ok { source := some source, limit }
      | none => .error (.badDirective word)
  | _ => .error (.badDirective text)

def length (d : Directive) : Nat :=
  (d.source.map String.length).getD 0

def isAbout (d : Directive) (source : String) : Bool :=
  d.source.all fun name => name.toList.isPrefixOf source.toList

/-- Adds a directive to others. It takes the place of one about the same sources. -/
def addTo (directives : List Directive) (d : Directive) : List Directive :=
  if directives.any (·.source == d.source) then
    directives.map fun other => if other.source == d.source then d else other
  else
    directives ++ [d]

end Directive

structure LogFilter where
  directives : List Directive := []
  pattern : Option Pattern := none

namespace LogFilter

/-- The least grave level that is shown of a source. Without directives it is that of errors. -/
def limit (filter : LogFilter) (source : String) : Option Level :=
  if filter.directives.isEmpty then
    some .error
  else
    let longest := filter.directives.foldl (fun best d =>
      if d.isAbout source && best.all (Directive.length · ≤ d.length) then some d else best) none
    longest.bind Directive.limit

def shows (filter : LogFilter) (line : LogLine) : Bool :=
  (filter.limit line.source.name).any (line.level.rank ≤ ·.rank)
    && filter.pattern.all (·.isIn line.text)

def readDirectives (text : String) : List Directive × List SettingFault :=
  let parts := ((text.splitOn ",").map Text.trimmed).filter (!·.isEmpty)
  parts.foldl (fun (directives, faults) part =>
    match Directive.ofText part with
    | .ok d => (d.addTo directives, faults)
    | .error fault => (directives, faults ++ [fault])) ([], [])

def ofSetting (setting : String) : LogFilter × List SettingFault :=
  match setting.splitOn "/" with
  | [] => ({}, [])
  | [text] =>
    let (directives, faults) := readDirectives text
    ({ directives }, faults)
  | [text, pattern] =>
    let (directives, faults) := readDirectives text
    match Pattern.ofText pattern with
    | .ok p => ({ directives, pattern := some p }, faults)
    | .error e => ({ directives }, faults ++ [.badPattern e])
  | _ => ({}, [.manySlashes setting])

def defaultSetting : String := "info"

def written (setting : String) (log : List LogLine) : String :=
  let (filter, faults) := ofSetting setting
  String.join (faults.map SettingFault.warning)
    ++ String.join ((log.filter filter.shows).map LogLine.written)

end LogFilter

end ReefRover
