import CrossFlags.Proofs.Discovery.Answers

/-!
# What discovery asks

Whether discovery fails, with which error, and what it has asked by then are all decided by the
probe. **It asks the pending queries one after the other and stops behind the first that fails**
(`discovery_stops_at_first_failure`): the error is the one that this query got, nothing behind it is
asked, nothing in front of it is left out, asked twice or asked in another place.

That is a statement about calls, so it is made about a probe for which a call is something that
happens. The probe has a state, which each call may change and on which each reply may depend, so
that asking for one library twice may well give two different answers. What it is asked is written
down by the probe itself (`Discovery.recorded`); discovery only passes the record along, since all
it knows of a probe is that it can be called. For the same reason it does not matter what an answer
says: put aside what discovery makes of the answers, and what is left is a loop that throws them
away (`Discovery.map_unit_collect`).

A probe without a state is the special case that the rest of the theory is about. `FlagSet.discover`
is then what the run comes to, and `Discovery.asked` is the record of it.
-/

set_option autoImplicit false

namespace CrossFlags

variable {σ ε : Type}

namespace Discovery

/-! ## Calls and replies -/

/-- A probe that writes down what it is asked. -/
def recorded (probe : Query → σ → Except ε Answer × σ) (query : Query) :
    ExceptT ε (StateM (σ × List Query)) Answer :=
  ExceptT.mk fun (state, record) =>
    let (reply, next) := probe query state
    (reply, next, record ++ [query])

theorem run_recorded (probe : Query → σ → Except ε Answer × σ) (query : Query) (state : σ)
    (record : List Query) :
    (recorded probe query).run.run (state, record) =
      ((probe query state).1, (probe query state).2, record ++ [query]) := rfl

/-- What the probe replies to these queries if it is asked all of them in this order, whether it
fails on some or not. -/
def replies (probe : Query → σ → Except ε Answer × σ) : σ → List Query →
    List (Query × Except ε Answer)
  | _, [] => []
  | state, query :: rest =>
    (query, (probe query state).1) :: replies probe (probe query state).2 rest

theorem map_fst_replies (probe : Query → σ → Except ε Answer × σ) (state : σ)
    (queries : List Query) : (replies probe state queries).map Prod.fst = queries := by
  induction queries generalizing state with
  | nil => rfl
  | cons query rest ih => rw [replies, List.map_cons, ih]

/-- A run that is to get these replies fails with the first error among them, and has asked up to
there and no further. -/
structure StopsAtFirstFailure {α : Type} (replies : List (Query × Except ε Answer))
    (result : Except ε α) (asked : List Query) : Prop where
  fails_iff : (∃ e, result = .error e) ↔ ∃ query e, (query, .error e) ∈ replies
  first_failure : ∀ e, result = .error e →
    ∃ before query after, replies = before ++ (query, .error e) :: after ∧
      (∀ reply ∈ before, ∃ answer, reply.2 = .ok answer) ∧ asked = before.map Prod.fst ++ [query]
  all_asked : ∀ a, result = .ok a → asked = replies.map Prod.fst

namespace StopsAtFirstFailure

variable {α : Type} {later : List (Query × Except ε Answer)} {asked : List Query}

theorem nil (a : α) : StopsAtFirstFailure (ε := ε) [] (.ok a) [] where
  fails_iff := by simp
  first_failure := by
    intro e h
    cases h
  all_asked := by
    intro _ _
    rfl

theorem cons_error (query : Query) (e : ε) (later : List (Query × Except ε Answer)) :
    StopsAtFirstFailure ((query, .error e) :: later) (.error e : Except ε α) [query] where
  fails_iff := iff_of_true ⟨e, rfl⟩ ⟨query, e, List.mem_cons_self⟩
  first_failure := by
    intro e' h
    cases h
    exact ⟨[], query, later, rfl, fun _ h => absurd h List.not_mem_nil, rfl⟩
  all_asked := by
    intro a h
    cases h

theorem cons_ok {result : Except ε α} (h : StopsAtFirstFailure later result asked)
    (query : Query) (answer : Answer) :
    StopsAtFirstFailure ((query, .ok answer) :: later) result (query :: asked) where
  fails_iff := by
    rw [h.fails_iff]
    simp
  first_failure := by
    intro e he
    obtain ⟨before, failing, after, hsplit, hbefore, hasked⟩ := h.first_failure e he
    refine ⟨(query, .ok answer) :: before, failing, after, ?_, ?_, ?_⟩
    · rw [hsplit, List.cons_append]
    · exact List.forall_mem_cons.mpr ⟨⟨answer, rfl⟩, hbefore⟩
    · rw [hasked, List.map_cons, List.cons_append]
  all_asked := by
    intro a ha
    rw [h.all_asked a ha, List.map_cons]

/-- The value of a run that succeeds does not count. -/
theorem of_outcome_eq {β : Type} {result : Except ε α} {other : Except ε β}
    (h : StopsAtFirstFailure later result asked) (heq : outcome other = outcome result) :
    StopsAtFirstFailure later other asked := by
  have herror : ∀ e, other = .error e ↔ result = .error e := by
    intro e
    rw [← outcome_eq_error_iff, heq, outcome_eq_error_iff]
  refine ⟨?_, ?_, ?_⟩
  · rw [← h.fails_iff]
    exact exists_congr herror
  · intro e he
    exact h.first_failure e ((herror e).mp he)
  · intro b hb
    obtain ⟨a, ha⟩ := outcome_eq_ok_iff.mp (heq ▸ outcome_eq_ok_iff.mpr ⟨b, hb⟩)
    exact h.all_asked a ha

end StopsAtFirstFailure

/-! ## The loop without the answers -/

section

variable {τ α β : Type}

theorem run_bind (first : ExceptT ε (StateM τ) α) (next : α → ExceptT ε (StateM τ) β) (state : τ) :
    (first >>= next).run.run state =
      match first.run.run state with
      | (.ok a, middle) => (next a).run.run middle
      | (.error e, middle) => (.error e, middle) := by
  rw [ExceptT.run_bind, StateT.run_bind]
  cases first.run.run state with
  | mk result middle => cases result <;> rfl

theorem run_map_unit (step : ExceptT ε (StateM τ) α) (state : τ) :
    ((fun _ => ()) <$> step).run.run state =
      (outcome (step.run.run state).1, (step.run.run state).2) := by
  rw [ExceptT.run_map, StateT.run_map]
  rfl

end

/-- **Merging has no say in what is asked.** With its result put aside, collecting answers is
calling the probe on every query and throwing the answers away. -/
theorem map_unit_collect {m : Type → Type} [Monad m] [LawfulMonad m] (probe : Query → m Answer)
    (progress : Progress) (queries : List Query) :
    (fun _ => ()) <$> collect probe progress queries =
      queries.forM fun query => (fun _ => ()) <$> probe query := by
  induction queries generalizing progress with
  | nil => simp [collect]
  | cons query rest ih => simp [collect, ih]

/-- Queries asked in order, their answers thrown away. -/
def asking (probe : Query → σ → Except ε Answer × σ) (queries : List Query) :
    ExceptT ε (StateM (σ × List Query)) Unit :=
  queries.forM fun query => (fun _ => ()) <$> recorded probe query

theorem run_asking_cons (probe : Query → σ → Except ε Answer × σ) (query : Query)
    (rest : List Query) (state : σ) (record : List Query) :
    (asking probe (query :: rest)).run.run (state, record) =
      match (probe query state).1 with
      | .ok _ => (asking probe rest).run.run ((probe query state).2, record ++ [query])
      | .error e => (.error e, (probe query state).2, record ++ [query]) := by
  have hcons : asking probe (query :: rest) =
      ((fun _ => ()) <$> recorded probe query >>= fun _ => asking probe rest) := rfl
  rw [hcons, run_bind, run_map_unit, run_recorded]
  cases (probe query state).1 <;> rfl

theorem asking_stops (probe : Query → σ → Except ε Answer × σ) (queries : List Query) (state : σ)
    (record : List Query) :
    ∃ asked, ((asking probe queries).run.run (state, record)).2.2 = record ++ asked ∧
      StopsAtFirstFailure (replies probe state queries)
        ((asking probe queries).run.run (state, record)).1 asked := by
  induction queries generalizing state record with
  | nil => exact ⟨[], (List.append_nil record).symm, .nil ()⟩
  | cons query rest ih =>
    rw [run_asking_cons, replies]
    cases (probe query state).1 with
    | error e => exact ⟨[query], rfl, .cons_error query e _⟩
    | ok answer =>
      obtain ⟨asked, hrecord, hstops⟩ := ih (probe query state).2 (record ++ [query])
      exact ⟨query :: asked, by rw [hrecord, List.append_assoc]; rfl, hstops.cons_ok query answer⟩

theorem asking_congr {probe other : Query → σ → Except ε Answer × σ}
    (h : ∀ query state, outcome (other query state).1 = outcome (probe query state).1 ∧
      (other query state).2 = (probe query state).2) (queries : List Query) :
    asking other queries = asking probe queries := by
  have hcall : (fun query => (fun _ => ()) <$> recorded other query) =
      fun query => (fun _ => ()) <$> recorded probe query := by
    funext query
    apply ExceptT.ext
    funext (state, record)
    obtain ⟨hreply, hstate⟩ := h query state
    show ((fun _ => ()) <$> recorded other query).run.run (state, record) =
      ((fun _ => ()) <$> recorded probe query).run.run (state, record)
    rw [run_map_unit, run_map_unit, run_recorded, run_recorded, hreply, hstate]
  rw [asking, asking, hcall]

/-! ## A probe without a state -/

theorem run_collect_of_stateless {probe : Query → σ → Except ε Answer × σ}
    {fixed : Query → Except ε Answer} (h : ∀ query state, probe query state = (fixed query, state))
    (progress : Progress) (queries : List Query) (state : σ) (record : List Query) :
    (collect (recorded probe) progress queries).run.run (state, record) =
      (collect fixed progress queries, state, record ++ asked fixed queries) := by
  induction queries generalizing progress record with
  | nil => rw [asked, List.append_nil]; rfl
  | cons query rest ih =>
    rw [collect, run_bind, run_recorded, h, collect, asked]
    cases fixed query with
    | error e => rfl
    | ok answer =>
      show (collect (recorded probe) (progress.absorb answer) rest).run.run
        (state, record ++ [query]) = _
      rw [ih, List.append_assoc]
      rfl

end Discovery

namespace FlagSet

/-- Discovery by a probe that has a state and is in this one: the result, the state that the probe
is left in, and what it was asked. -/
def discoverRecorded (flags : FlagSet) (probe : Query → σ → Except ε Answer × σ)
    (profile : Profile) (start : σ) : Except ε FlagSet × σ × List Query :=
  (flags.discoverM (Discovery.recorded probe) profile).run.run (start, [])

theorem map_unit_discoverM {m : Type → Type} [Monad m] [LawfulMonad m] (flags : FlagSet)
    (probe : Query → m Answer) (profile : Profile) :
    (fun _ => ()) <$> flags.discoverM probe profile =
      flags.discovery.forM fun query => (fun _ => ()) <$> probe query := by
  rw [discoverM, ← Discovery.map_unit_collect probe ⟨flags, []⟩]
  simp

theorem discoverRecorded_eq_asking (flags : FlagSet) (probe : Query → σ → Except ε Answer × σ)
    (profile : Profile) (start : σ) :
    (outcome (flags.discoverRecorded probe profile start).1,
        (flags.discoverRecorded probe profile start).2) =
      (Discovery.asking probe flags.discovery).run.run (start, []) := by
  rw [Discovery.asking, ← map_unit_discoverM, Discovery.run_map_unit]
  rfl

theorem discoverRecorded_of_stateless {probe : Query → σ → Except ε Answer × σ}
    {fixed : Query → Except ε Answer} (h : ∀ query state, probe query state = (fixed query, state))
    (flags : FlagSet) (profile : Profile) (start : σ) :
    flags.discoverRecorded probe profile start =
      (flags.discover fixed profile, start, Discovery.asked fixed flags.discovery) := by
  unfold discoverRecorded discover discoverM
  rw [Discovery.run_bind, Discovery.run_collect_of_stateless h]
  cases Discovery.collect fixed ⟨flags, []⟩ flags.discovery <;> rfl

/-- **Discovery stops at the first failing query.** It fails exactly if the probe fails on a pending
query, with the error of the first of them; the probe is asked the pending queries in order, up to
that one, or all of them if it answers them all. What is in an answer has no say in this. For a
probe without a state the run is `discover`, and its record is `asked`. -/
theorem discovery_stops_at_first_failure (flags : FlagSet)
    (probe : Query → σ → Except ε Answer × σ) (profile : Profile) (start : σ) :
    let run := flags.discoverRecorded probe profile start
    Discovery.StopsAtFirstFailure (Discovery.replies probe start flags.discovery) run.1 run.2.2 ∧
      (Discovery.replies probe start flags.discovery).map Prod.fst = flags.discovery ∧
      (∀ other : Query → σ → Except ε Answer × σ,
        (∀ query state, outcome (other query state).1 = outcome (probe query state).1 ∧
          (other query state).2 = (probe query state).2) →
        outcome (flags.discoverRecorded other profile start).1 = outcome run.1 ∧
          (flags.discoverRecorded other profile start).2 = run.2) ∧
      ∀ fixed : Query → Except ε Answer, (∀ query state, probe query state = (fixed query, state)) →
        run = (flags.discover fixed profile, start, Discovery.asked fixed flags.discovery) := by
  intro run
  have hrun := discoverRecorded_eq_asking flags probe profile start
  refine ⟨?_, Discovery.map_fst_replies probe start flags.discovery, ?_, ?_⟩
  · obtain ⟨asked, hrecord, hstops⟩ := Discovery.asking_stops probe flags.discovery start []
    rw [← hrun] at hrecord hstops
    have hasked : run.2.2 = asked := hrecord
    rw [hasked]
    exact hstops.of_outcome_eq (outcome_unit _).symm
  · intro other hother
    have heq := discoverRecorded_eq_asking flags other profile start
    rw [Discovery.asking_congr hother, ← hrun] at heq
    exact Prod.mk.inj heq
  · intro fixed hfixed
    exact discoverRecorded_of_stateless hfixed flags profile start

/-- The state counts the calls, and the second one fails: Ogg is asked twice, Opus never. -/
example (profile : Profile) :
    let probe : Query → Nat → Except String Answer × Nat := fun _ calls =>
      (if calls = 0 then .ok {} else .error "busy", calls + 1)
    let flags : FlagSet := { discovery := [.ofLibrary .ogg, .ofLibrary .ogg, .ofLibrary .opus] }
    flags.discoverRecorded probe profile 0 =
      (.error "busy", 2, [.ofLibrary .ogg, .ofLibrary .ogg]) := by
  rfl

end FlagSet
end CrossFlags
