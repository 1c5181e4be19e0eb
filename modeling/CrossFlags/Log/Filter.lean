import CrossFlags.Environment
import CrossFlags.Log.Directive

/-!
# Which events are shown

A filter is a list of directives. Of all that are about an event the one that asks for most
decides, and among equals the last one written. An event that no directive is about is not shown,
so the filter without directives shows nothing.

Filters come from a variable or, where that is unset or says nothing that can be read, from the
verbosity asked for on the command line.
-/

set_option autoImplicit false

namespace CrossFlags.Log

/-- Directives in the order in which they were written. -/
abbrev Filter := List Directive

namespace Filter

/-- The directive that decides about an event. -/
def deciding? (filter : Filter) (event : Event) : Option Directive :=
  (filter.filter (·.covers event)).foldl
    (fun best? directive =>
      match best? with
      | some best => if directive.outranks best then some directive else some best
      | none => some directive)
    none

/-- The event is shown. -/
def admits (filter : Filter) (event : Event) : Bool :=
  match (filter.deciding? event).bind Directive.limit with
  | some limit => Level.atLeast limit event.level
  | none => false

/-- The events that are shown. -/
def select (filter : Filter) (events : List Event) : List Event := List.filter filter.admits events

/-- Everything up to a level, from every stage. -/
def upTo (limit : Level) : Filter := [{ limit := some limit }]

/-- The filter of a verbosity: being quiet counts only where no more than the usual is asked
for. -/
def ofVerbosity (verbosity : Nat) (quiet : Bool) : Filter :=
  upTo (match verbosity with
    | 0 => if quiet then .error else .warn
    | 1 => .info
    | 2 => .debug
    | _ => .trace)

/-- The filter that a text of directives spells, with commas between them. Nothing between two
commas is no directive. -/
def read? (text : String) : Option Filter :=
  let written := (Text.pieces (· == ',') text.toList).filter fun piece => !piece.isEmpty
  written.mapM fun piece => Directive.read? (String.ofList piece)

/-- The variable that a filter can be given in. -/
def filterVariable : String := "RUST_LOG"

/-- The filter of a run. -/
def ofRun (vars : Variables) (verbosity : Nat) (quiet : Bool) : Filter :=
  (((vars.get? filterVariable).bind Utf8.decode?).bind read?).getD (ofVerbosity verbosity quiet)

end Filter

/-! ## Lines -/

/-- A character of a message as a terminal may safely be sent it: controls that terminals act upon
are spelled out, the newline and the tab stay. -/
def safeChar (c : Char) : String :=
  let code := String.ofList (Nat.toDigits 16 c.toNat)
  if c = '\x1b' ∨ c = '\x7f' then "\\x" ++ code
  else if c = '\x07' ∨ c = '\x08' ∨ c = '\x0c' then "\\x0" ++ code
  else if 0x80 ≤ c.toNat ∧ c.toNat < 0xA0 then "\\u\x7b" ++ code ++ "\x7d"
  else String.singleton c

/-- An event as it is printed: its level, its message, and its fields behind it. -/
def Event.line (event : Event) : String :=
  " ".intercalate
    (event.level.name :: String.join (event.message.toList.map safeChar) ::
      event.fields.map fun field => field.1 ++ "=" ++ field.2)

end CrossFlags.Log
