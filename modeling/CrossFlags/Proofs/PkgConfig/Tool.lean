import CrossFlags.PkgConfig
import CrossFlags.Proofs.Except

/-!
# Finding the tool and asking it

A query fails for want of a tool or by the tool's own word. `Locates` says which program is the
tool: the one that the environment names, without a look at it, or else the first place on the
search list where something can be run. `Answers` says what comes of asking it: **it has answered
exactly if it ran and ended well**, whatever it printed besides, and every failure names the library
that was asked for.
-/

set_option autoImplicit false

namespace CrossFlags

/-- Something that can be run stands at the path. -/
def Host.Runnable (host : Host) (path : Octets) : Prop :=
  ∃ content, host.look path = .ok (.file content true) ∨
    ∃ why, host.look path = .ok (.closed why content true)

theorem Host.isOk_executableAt_iff {host : Host} {path : Octets} :
    (host.executableAt path).isOk = true ↔ host.Runnable path := by
  unfold executableAt Runnable
  cases host.look path with
  | error why => simp [Except.isOk, Except.toBool]
  | ok node =>
    cases node with
    | directory => simp [Except.isOk, Except.toBool]
    | file content executable => cases executable <;> simp [Except.isOk, Except.toBool]
    | closed why content executable => cases executable <;> simp [Except.isOk, Except.toBool]

namespace PkgConfig

variable {host : Host} {binary : Octets} {settings : Settings} {query : Query}

/-! ## Finding it -/

/-- The program is the tool of this host. -/
inductive Locates (host : Host) : Octets → Prop
  | named {binary : Octets} (h : host.environment.get? "PKG_CONFIG" = some binary) :
    Locates host binary
  | found {before after : List Octets} {binary : Octets}
    (hunnamed : host.environment.get? "PKG_CONFIG" = none)
    (hsplit : candidates host.environment = before ++ binary :: after)
    (hbefore : ∀ path ∈ before, ¬ host.Runnable path) (hbinary : host.Runnable binary) :
    Locates host binary

/-- **The tool is the one that is named, or else the first candidate that can be run.** -/
theorem locate?_eq_some_iff : locate? host = some binary ↔ Locates host binary := by
  unfold locate?
  rw [Option.or_eq_some_iff, List.find?_eq_some_iff_append]
  simp only [Bool.not_eq_true', Bool.eq_false_iff, ne_eq, Host.isOk_executableAt_iff]
  constructor
  · rintro (hnamed | ⟨hunnamed, hbinary, before, after, hsplit, hbefore⟩)
    · exact .named hnamed
    · exact .found hunnamed hsplit hbefore hbinary
  · intro h
    cases h with
    | named hnamed => exact .inl hnamed
    | found hunnamed hsplit hbefore hbinary =>
      exact .inr ⟨hunnamed, hbinary, _, _, hsplit, hbefore⟩

/-- There is no tool where none is named and no candidate can be run. -/
theorem locate?_eq_none_iff :
    locate? host = none ↔
      host.environment.get? "PKG_CONFIG" = none ∧
        ∀ path ∈ candidates host.environment, ¬ host.Runnable path := by
  unfold locate?
  rw [Option.or_eq_none_iff, List.find?_eq_none]
  simp only [Host.isOk_executableAt_iff]

/-! ## Asking it -/

variable {result : Except Failure Answer} {reply : Reply}

theorem answerOf_eq_ok_iff {answer : Answer} :
    answerOf query reply = .ok answer ↔
      reply.status = 0 ∧ .read (Utf8.decodeLossy reply.stdout) = answer := by
  unfold answerOf
  by_cases h : reply.status = 0 <;> simp [h]

theorem answerOf_eq_error_iff {failure : Failure} :
    answerOf query reply = .error failure ↔
      reply.status ≠ 0 ∧
        ⟨query.library, Text.trim (Utf8.decodeLossy reply.stderr)⟩ = failure := by
  unfold answerOf
  by_cases h : reply.status = 0 <;> simp [h]

/-- What comes of a query. -/
inductive Answers (host : Host) (binary : Octets) (settings : Settings) (query : Query) :
    Except Failure Answer → Prop
  | answered {reply : Reply} (hrun : host.run binary (settings.call query) = .ok reply)
    (hstatus : reply.status = 0) :
    Answers host binary settings query (.ok (.read (Utf8.decodeLossy reply.stdout)))
  | failed {reply : Reply} (hrun : host.run binary (settings.call query) = .ok reply)
    (hstatus : reply.status ≠ 0) :
    Answers host binary settings query
      (.error ⟨query.library, Text.trim (Utf8.decodeLossy reply.stderr)⟩)
  | notRun {refusal : Refusal} (hrun : host.run binary (settings.call query) = .error refusal) :
    Answers host binary settings query
      (.error ⟨query.library,
        "failed to run " ++ Utf8.decodeLossy binary ++ ": " ++ refusal.message⟩)

theorem exists_answers (host : Host) (binary : Octets) (settings : Settings) (query : Query) :
    ∃ result, Answers host binary settings query result := by
  cases hrun : host.run binary (settings.call query) with
  | error refusal => exact ⟨_, .notRun hrun⟩
  | ok reply =>
    by_cases hstatus : reply.status = 0
    · exact ⟨_, .answered hrun hstatus⟩
    · exact ⟨_, .failed hrun hstatus⟩

theorem Answers.ask_eq (h : Answers host binary settings query result) :
    ask host binary settings query = result := by
  unfold ask
  cases h with
  | answered hrun hstatus => simp only [hrun, answerOf_eq_ok_iff.mpr ⟨hstatus, rfl⟩]
  | failed hrun hstatus => simp only [hrun, answerOf_eq_error_iff.mpr ⟨hstatus, rfl⟩]
  | notRun hrun => simp only [hrun]

/-- **A query is answered exactly if the tool runs and ends well.** -/
theorem ask_eq_iff :
    ask host binary settings query = result ↔ Answers host binary settings query result :=
  eq_iff_of_exists (exists_answers host binary settings query) fun _ => Answers.ask_eq

end PkgConfig
end CrossFlags
