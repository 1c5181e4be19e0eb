import CrossFlags.Text.Spelling
import CrossFlags.Text.Utf8

/-!
# Scripts

A file that begins with `#!` is no program itself: its first line names the program that runs it,
with at most one argument. Only so much of a file is looked at, and a name that may go on behind
that names nothing.
-/

set_option autoImplicit false

namespace CrossFlags

/-- What a file's beginning says about running it. -/
inductive Start where
  /-- It is a program, or nothing that can be run. -/
  | itself
  /-- Another program runs it. -/
  | script (interpreter : Octets) (argument? : Option Octets)
  /-- It is a script, but no program can be made out. -/
  | nameless
  deriving DecidableEq

namespace Start

/-- What scripts begin with. -/
def mark : Octets := Utf8.encode "#!"

/-- How much of a file is looked at. -/
def reach : Nat := 256

/-- Stands between the words of a script's first line. -/
def isSeparator (b : UInt8) : Bool := b == 0x20 || b == 0x09

/-- What a file of this content says about running it. Where the line ends inside of what is
looked at the blanks at its end do not count; where the file ends first, it ends the line too. -/
def ofContent (content : Octets) : Start :=
  let window := content.take reach
  if window.take 2 ≠ mark then .itself
  else
    let (line, rest) := ((window.drop 2).takeWhile (· != 0)).span (· != 0x0A)
    let ended := !rest.isEmpty
    let line := if ended then Text.dropEndWhile isSeparator line else line
    let (name, behind) := (line.dropWhile isSeparator).span fun b => !isSeparator b
    let complete := ended || window.length < reach || window.contains 0 || !behind.isEmpty
    if !complete || (ended && name.isEmpty) then .nameless
    else .script name (if behind.isEmpty then none else some (behind.dropWhile isSeparator))

example : ofContent (Utf8.encode "#! /bin/sh -e\n") =
    .script (Utf8.encode "/bin/sh") (some (Utf8.encode "-e")) := by decide
example : ofContent (Utf8.encode "#!\n") = .nameless := by decide

end Start
end CrossFlags
