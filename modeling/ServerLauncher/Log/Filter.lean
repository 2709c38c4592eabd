import ServerLauncher.Log.Directive

/-!
# Log filters

A filter says which records reach the log. It is written as directives with commas between them. A
record is judged by the directive that is closest to it, and shown if it matters as much as that
directive's level (`LogFilter.admits`). `LogFilter.ofVariable?` reads the filter of the
environment ; what cannot be read counts as `info`, and nothing at all as `error`.
-/

namespace ServerLauncher

/-- The directives of a filter, in the order of writing. -/
abbrev LogFilter := List LogDirective

namespace LogFilter

/-! ## Reading -/

/-- Read a filter. -/
def parse (s : String) : LogDirective.Reading LogFilter :=
  ((s.toList.splitOn ',').filter fun d => !d.isEmpty).mapM LogDirective.parse

/-- The filter that shows records up to a level. -/
def ofLevel (l : Level) : LogFilter :=
  [{ LogDirective.everything with level := l.rank }]

/-- The filter that the environment asks for. There is none if it cannot be cut into its parts. -/
def ofVariable? (value : Option Bytes) : Option LogFilter :=
  match (value.bind Utf8.decode?).map parse with
  | some (.ok ds) => some (if ds.isEmpty then ofLevel .error else ds)
  | some (.error .brokenCharacter) => none
  | some (.error .unreadable) => some (ofLevel .info)
  | none => some (ofLevel .info)

/-! ## Judging -/

/-- The directive that counts for a target : the closest one, and of several that are equally close
the last one. -/
def closest? (f : LogFilter) (target : String) : Option LogDirective :=
  (f.filter fun d => d.judgesRecords && d.concerns target).foldl (fun best d =>
    match best with
    | some b => if b.isCloser d then some b else some d
    | none => some d) none

/-- The record reaches the log. -/
def admits (f : LogFilter) (r : LogRecord) : Bool :=
  match f.closest? r.source.name with
  | none => false
  | some d => r.level.rank ≤ d.level

end LogFilter

end ServerLauncher
