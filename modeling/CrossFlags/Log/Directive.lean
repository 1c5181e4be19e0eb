import CrossFlags.Log.Event
import CrossFlags.Log.Pattern
import CrossFlags.Text.Utf8

/-!
# Directives of a log filter

A directive says up to which level events are shown, and which events it is about: those whose
target begins with a text, those that carry a field, or those inside a span. Written out it is
`target[span{field=pattern}]=level`, where every part but one may be missing; a level alone is
about everything. Stages open no spans, so a directive that names one, or that demands a value of
a span's field, is about no event at all. It still has to be well formed.

How a directive is put together is decided on its text without the blanks around it, but the parts
are taken from the text as it stands, at the same places. Without blanks in front that makes no
difference; with blanks there, parts come out shifted, and what is shifted is seldom a level. Parts
that do not begin and end between characters make the directive unreadable.
-/

set_option autoImplicit false

namespace CrossFlags.Log

/-- Up to which level some events are shown. -/
structure Directive where
  /-- What the events' targets begin with. -/
  target? : Option String := none
  /-- The span that the events are in. -/
  span? : Option String := none
  /-- A field that the events carry. -/
  field? : Option String := none
  /-- What the field's value has to match. -/
  pattern? : Option String := none
  /-- The least severe level shown; `none` shows nothing. -/
  limit : Option Level
  deriving DecidableEq

/-- The event carries a field. Its message is one. -/
def Event.carries (event : Event) (field : String) : Bool :=
  field == "message" || event.fields.any fun f => f.1 == field

namespace Directive

/-- Is about an event. -/
def covers (directive : Directive) (event : Event) : Bool :=
  directive.span?.isNone && directive.pattern?.isNone &&
  directive.target?.all (fun target => target.toList.isPrefixOf event.origin.target.toList) &&
  directive.field?.all event.carries

/-- How much a directive asks for: first the length of its target, then a field. -/
def weight (directive : Directive) : Nat × Nat :=
  ((directive.target?.map fun target => target.length + 1).getD 0,
   if directive.field?.isSome then 1 else 0)

/-- Decides before another that is about the same event and was written earlier: it asks for
more, or for as much and its field does not come first in the alphabet. -/
def outranks (later earlier : Directive) : Bool :=
  let (target, field) := later.weight
  let (target', field') := earlier.weight
  target' < target || (target' == target && (field' < field ||
    (field' == field && (earlier.field?.getD "" ≤ later.field?.getD ""))))

/-! ## Limits -/

/-- The number that decimal digits spell, a plus sign in front allowed. -/
def number? (s : String) : Option Nat :=
  let digits := match s.toList with
    | '+' :: rest => rest
    | cs => cs
  if digits.isEmpty || !digits.all Char.isDigit then none
  else some (digits.foldl (fun n c => n * 10 + (c.toNat - '0'.toNat)) 0)

/-- The limit that a word names: a level, or `off`, in any letter case, or its number. -/
def limit? (word : String) : Option (Option Level) :=
  match number? word with
  | some 0 => some none
  | some 1 => some (some .error)
  | some 2 => some (some .warn)
  | some 3 => some (some .info)
  | some 4 => some (some .debug)
  | some 5 => some (some .trace)
  | _ =>
    match Text.lower word with
    | "off" => some none
    | "error" => some (some .error)
    | "warn" => some (some .warn)
    | "info" => some (some .info)
    | "debug" => some (some .debug)
    | "trace" => some (some .trace)
    | _ => none

/-! ## Directives as text -/

/-- A directive on the way to being read: what decides, and what parts are taken from. -/
structure Cursor where
  /-- The octets left of the text without the blanks around it. -/
  seen : Octets
  /-- The octets left of the text as it stands. -/
  held : Octets

namespace Cursor

/-- At the beginning of a text. -/
def ofString (text : String) : Cursor := ⟨Utf8.encode (Text.trim text), Utf8.encode text⟩

/-- One octet further. -/
def next (cursor : Cursor) : Cursor := ⟨cursor.seen.drop 1, cursor.held.drop 1⟩

/-- The part in front of the first of some signs, with what follows it. -/
def upTo (cursor : Cursor) (signs : List Char) : Octets × Cursor :=
  let size := (cursor.seen.takeWhile fun b => !signs.any fun c => c.toNat == b.toNat).length
  (cursor.held.take size, ⟨cursor.seen.drop size, cursor.held.drop size⟩)

/-- The sign that comes next. -/
def sign? (cursor : Cursor) : Option Char := cursor.seen.head?.map fun b => Char.ofNat b.toNat

/-- The limit that is left: behind the sign for it, or everything where nothing is left. -/
def limit? (cursor : Cursor) : Option (Option Level) :=
  match cursor.sign? with
  | none => some (some .trace)
  | some '=' =>
    (Utf8.decode? cursor.next.held).bind fun word =>
      if word.isEmpty then some (some .trace) else Directive.limit? word
  | some _ => none

end Cursor

/-- A name unless it is empty. -/
def named (name : String) : Option String := if name.isEmpty then none else some name

/-- A field, with the pattern for its value if there is one. -/
def demand? (text : String) : Option (String × Option String) :=
  match (Text.pieces (· == '=') text.toList).map String.ofList with
  | name :: pattern :: _ => if isPattern pattern then some (name, some pattern) else none
  | [name] => if name.isEmpty then none else some (name, none)
  | [] => none

/-- What stands in brackets behind a target, and the limit behind that. A span without a name is
still a span, unless a field is demanded. -/
def bracketed? (target? : Option String) (cursor : Cursor) : Option Directive := do
  let (part, cursor) := cursor.upTo [']', '\x7b']
  let span ← Utf8.decode? part
  match cursor.sign? with
  | some ']' => return { target?, span? := some span, limit := ← cursor.next.limit? }
  | some '\x7b' =>
    let (part, cursor) := cursor.next.upTo ['\x7d']
    let (field, pattern?) ← (Utf8.decode? part).bind demand?
    if cursor.sign? = some '\x7d' ∧ cursor.next.sign? = some ']' then
      return { target?, span? := named span, field? := some field, pattern?
               limit := ← cursor.next.next.limit? }
    else none
  | _ => none

/-- May begin a directive. -/
def mayBegin (c : Char) : Bool :=
  c == '[' || c == '-' || c == ':' || c == '_' || Text.isAlphanumeric c

/-- The directive that a text spells. A word alone is a limit if it names one, and else a target
of which everything is shown. -/
def read? (text : String) : Option Directive := do
  if !(Text.trim text).toList.head?.any mayBegin then none
  let (part, cursor) := (Cursor.ofString text).upTo ['=', '[']
  match cursor.sign? with
  | some '[' => bracketed? (named (← Utf8.decode? part)) cursor.next
  | some _ => return { target? := some (← Utf8.decode? part), limit := ← cursor.limit? }
  | none =>
    match limit? text with
    | some limit => return { limit }
    | none => return { target? := some text, limit := some .trace }

end Directive
end CrossFlags.Log
