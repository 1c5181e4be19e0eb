import CrossFlags.Text.Spelling

/-!
# Paths on the build's side

Flags must not depend on the machine that computes them, so paths inside flags are handled as
text: both separators count everywhere, joining writes `/`, and nothing is looked up.
-/

set_option autoImplicit false

namespace CrossFlags.Path

/-- Either of the two separators. -/
def isSeparator (c : Char) : Bool := c == '/' || c == '\\'

/-- Without the separators at the end. -/
def stem (cs : List Char) : List Char := Text.dropEndWhile isSeparator cs

/-- A relative path below a root. Separators at the end of the root do not count, and a root of
nothing else is the file system's. -/
def join (root relative : String) : String :=
  String.ofList (stem root.toList ++ '/' :: relative.toList)

/-- What stands before the last separator, if there is one. -/
def beforeLast? (cs : List Char) : Option (List Char) :=
  match cs.reverse.dropWhile fun c => !isSeparator c with
  | [] => none
  | _ :: before => some before.reverse

/-- The root of an installation, seen from a tool in a directory right below it: two separators
up from the tool's name. A tool named with fewer has no known root. -/
def installationRoot? (tool : String) : Option String := do
  let directory ← beforeLast? tool.toList
  let root ← beforeLast? directory
  return if root.isEmpty then "/" else String.ofList root

theorem join_eq_join_iff {a b relative : String} :
    join a relative = join b relative ↔ stem a.toList = stem b.toList := by
  unfold join
  rw [← String.toList_inj, String.toList_ofList, String.toList_ofList]
  exact List.append_left_inj _

example : join "C:\\SDK\\" "epoc32" = "C:\\SDK/epoc32" := by decide
example : join "/" "lib" = "/lib" := by decide
example : installationRoot? "/opt/gcc12/bin/g++" = some "/opt/gcc12" := by decide
example : installationRoot? "/bin/g++" = some "/" := by decide
example : installationRoot? "bin/g++" = none := by decide

end CrossFlags.Path
