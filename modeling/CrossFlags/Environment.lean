import CrossFlags.Bag
import CrossFlags.Key
import CrossFlags.Log.Event
import CrossFlags.Text.Utf8

/-!
# Overriding options from the environment

Every option can be overridden by a variable of its own, so variables are looked up option by
option and never the other way round: a variable that belongs to no option is not seen at all,
whatever its name or value is made of.

A value has to be UTF-8. Options are taken in declaration order up to the first one whose value is
not, and the ones before it keep their override; `Overrides` holds both halves of that answer.
-/

set_option autoImplicit false

namespace CrossFlags

/-- Environment variables as pairs of name and value. Where a name occurs twice, the later pair
counts. -/
abbrev Variables := List (Octets × Octets)

namespace Variables

/-- The value of a variable. -/
def get? (vars : Variables) (name : String) : Option Octets :=
  (vars.reverse.find? fun v => v.1 == Utf8.encode name).map Prod.snd

/-- The value of the variable that overrides an option. -/
def override? (vars : Variables) (key : Key) : Option Octets := vars.get? (variableOf key.name)

end Variables

/-- What the environment says about options: the readable overrides, in declaration order, and the
option whose value ends them because it is not UTF-8. -/
structure Overrides where
  applied : List (Key × String)
  unreadable? : Option Key
  deriving DecidableEq

namespace Overrides

/-- One readable override in front of others. -/
def cons (key : Key) (value : String) (rest : Overrides) : Overrides :=
  { rest with applied := (key, value) :: rest.applied }

/-- The overrides of the listed options. -/
def ofKeys (vars : Variables) : List Key → Overrides
  | [] => ⟨[], none⟩
  | key :: rest =>
    match vars.override? key with
    | none => ofKeys vars rest
    | some octets =>
      match Utf8.decode? octets with
      | none => ⟨[], some key⟩
      | some value => (ofKeys vars rest).cons key value

/-- The overrides of all options. -/
def ofVariables (vars : Variables) : Overrides := ofKeys vars Key.all

/-- The overrides as supplied texts. -/
def entries (overrides : Overrides) : Entries :=
  overrides.applied.map fun o => (o.1.name, .text o.2)

/-- What overriding says: each option that is overridden. -/
def events (overrides : Overrides) : List Log.Event :=
  overrides.applied.map fun o =>
    { level := .debug, origin := .loading, message := o.1.name ++ " overridden from environment" }

end Overrides

/-- A bag under the overrides that can be read. -/
def Bag.override (bag : Bag) (overrides : Overrides) : Bag := bag.insertAll overrides.entries

end CrossFlags
