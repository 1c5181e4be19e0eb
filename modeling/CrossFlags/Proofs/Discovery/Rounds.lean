import CrossFlags.Proofs.Discovery.LinkOrder

/-!
# One round of discovery or two

Pending queries may be asked all at once, or some of them now and the others when the first answers
have been merged. **The flags come out the same, and the libraries do too, except that the two
rounds stand the other way round** (`discover_in_two_rounds`). Each round puts what it finds right
behind the startup code, so the round that comes later ends up in front.

That nothing else differs is a fact about deduplication. In one round, the libraries of the first
queries are among those found so far; in two, they are in the middle of the base list when the
second round begins. Membership is all that is asked of either, so the second queries find the same
libraries both times, in the same order (`Flag.newLibraries_append`).

The base list has to have room for the startup code. In a shorter one the first round's libraries
would slip into it, and the second round would cut the list in another place.
-/

set_option autoImplicit false

namespace CrossFlags

namespace Flag

/-- What a second batch of reports adds is what it would add to any base that has the same libraries
as the first base and the first batch together. -/
theorem newLibraries_append {base extended : List String} {first : List String}
    (h : ∀ lib, lib ∈ extended ↔ lib ∈ base ∨ lib ∈ first) (second : List String) :
    newLibraries base (first ++ second) =
      newLibraries base first ++ newLibraries extended second := by
  unfold newLibraries
  rw [List.filter_append, List.eraseDups_append, List.removeAll, List.filter_filter]
  congr 2
  apply List.filter_congr
  intro lib _
  rw [Bool.eq_iff_iff]
  simp [h]
  tauto

end Flag

namespace FlagSet

/-- One round, and the first and the second of two, come to the same but for the libraries between
`entry` and `rest`: those that the first round leaves there stand in front of the others in the one
case and behind them in the other. -/
structure SwapsRounds (entry rest : List String) (once between twice : FlagSet) : Prop where
  defines : once.defines = twice.defines
  compileFlags : once.compileFlags = twice.compileFlags
  cFlags : once.cFlags = twice.cFlags
  linkFlags : once.linkFlags = twice.linkFlags
  linkLibraries : ∃ earlier later, between.linkLibraries = entry ++ earlier ++ rest ∧
    once.linkLibraries = entry ++ earlier ++ later ++ rest ∧
    twice.linkLibraries = entry ++ later ++ earlier ++ rest

section

variable {flags : FlagSet} {profile : Profile}

/-- Merging goes by the answers, not by the queries that were pending. -/
theorem withAnswers_with_discovery (flags : FlagSet) (profile : Profile) (answers : List Answer)
    (queries : List Query) :
    withAnswers { flags with discovery := queries } profile answers =
      flags.withAnswers profile answers := by
  ext1
  case defines => rw [defines_withAnswers, defines_withAnswers]
  case compileFlags => rw [compileFlags_withAnswers, compileFlags_withAnswers]
  case cFlags => rw [cFlags_withAnswers, cFlags_withAnswers]
  case linkFlags => rw [linkFlags_withAnswers, linkFlags_withAnswers]
  case linkLibraries => rw [linkLibraries_withAnswers, linkLibraries_withAnswers]
  case discovery => rfl

/-- A second round takes the libraries of the first one for part of the base. -/
theorem linkLibraries_withAnswers_withAnswers
    (h : profile.libraries.entry.length ≤ flags.linkLibraries.length)
    (first second : List Answer) :
    ((flags.withAnswers profile first).withAnswers profile second).linkLibraries =
      flags.linkLibraries.take profile.libraries.entry.length ++
        Flag.newLibraries (flags.withAnswers profile first).linkLibraries
          (second.flatMap Answer.linkLibraries) ++
        Flag.newLibraries flags.linkLibraries (first.flatMap Answer.linkLibraries) ++
        flags.linkLibraries.drop profile.libraries.entry.length := by
  have hentry : (flags.linkLibraries.take profile.libraries.entry.length).length =
      profile.libraries.entry.length := List.length_take_of_le h
  have hbetween := linkLibraries_withAnswers flags profile first
  rw [List.append_assoc] at hbetween
  rw [linkLibraries_withAnswers]
  simp only [hbetween, List.take_left' hentry, List.drop_left' hentry, List.append_assoc]

/-- **Answers merged in two rounds** give what they give in one, with the two finds swapped. -/
theorem swapsRounds_withAnswers
    (h : profile.libraries.entry.length ≤ flags.linkLibraries.length)
    (first second : List Answer) :
    SwapsRounds (flags.linkLibraries.take profile.libraries.entry.length)
      (flags.linkLibraries.drop profile.libraries.entry.length)
      (flags.withAnswers profile (first ++ second)) (flags.withAnswers profile first)
      ((flags.withAnswers profile first).withAnswers profile second) where
  defines := by
    rw [defines_withAnswers, defines_withAnswers, defines_withAnswers, List.map_append,
      List.foldl_append]
  compileFlags := by
    rw [compileFlags_withAnswers, compileFlags_withAnswers, compileFlags_withAnswers,
      List.map_append, List.foldl_append]
  cFlags := by rw [cFlags_withAnswers, cFlags_withAnswers, cFlags_withAnswers]
  linkFlags := by
    rw [linkFlags_withAnswers, linkFlags_withAnswers, linkFlags_withAnswers, List.map_append,
      List.foldl_append]
  linkLibraries := by
    refine ⟨_, _, linkLibraries_withAnswers flags profile first, ?_,
      linkLibraries_withAnswers_withAnswers h first second⟩
    rw [linkLibraries_withAnswers, List.flatMap_append,
      Flag.newLibraries_append fun lib => mem_linkLibraries_withAnswers, ← List.append_assoc]

end

/-- **Discovery in one round or two.** Where every query is answered and the base has room for the
startup code, asking all queries at once and asking them in two rounds both succeed. The results
differ at most in the order of the two rounds' libraries, which follow the startup code. -/
theorem discover_in_two_rounds {ε : Type} {flags : FlagSet} {profile : Profile}
    {probe : Query → Except ε Answer} {first second : List Query}
    (hroom : profile.libraries.entry.length ≤ flags.linkLibraries.length)
    (hanswered : ∀ query ∈ first ++ second, ∃ answer, probe query = .ok answer) :
    ∃ once between twice,
      discover { flags with discovery := first ++ second } probe profile = .ok once ∧
        discover { flags with discovery := first } probe profile = .ok between ∧
        discover { between with discovery := second } probe profile = .ok twice ∧
        SwapsRounds (flags.linkLibraries.take profile.libraries.entry.length)
          (flags.linkLibraries.drop profile.libraries.entry.length) once between twice := by
  obtain ⟨hfirst, hsecond⟩ := List.forall_mem_append.mp hanswered
  obtain ⟨answers, hanswers⟩ := exists_mapM_eq_ok hfirst
  obtain ⟨others, hothers⟩ := exists_mapM_eq_ok hsecond
  have honce : discover { flags with discovery := first ++ second } probe profile = .ok _ :=
    discover_eq_ok_iff.mpr ⟨_, mapM_append_eq_ok hanswers hothers,
      withAnswers_with_discovery flags profile _ _⟩
  have hbetween : discover { flags with discovery := first } probe profile = .ok _ :=
    discover_eq_ok_iff.mpr ⟨_, hanswers, withAnswers_with_discovery flags profile _ _⟩
  refine ⟨_, _, _, honce, hbetween, ?_, swapsRounds_withAnswers hroom answers others⟩
  exact discover_eq_ok_iff.mpr ⟨_, hothers, withAnswers_with_discovery _ profile _ _⟩

/-- Both rounds ask about Ogg, and `m` is in the base. -/
theorem discover_in_two_rounds_of_overlap :
    let entry := [":eexe.lib", ":usrt2_2.lib", ":libcrt0.lib"]
    let flags : FlagSet := { defines := ["A"], linkLibraries := entry ++ ["m", "gcc"] }
    let probe : Query → Except String Answer := fun query =>
      if query.library = .ogg then
        .ok { defines := ["A", "O"], compileFlags := ["-I/ogg"], linkLibraries := ["ogg", "m"] }
      else
        .ok { defines := ["O", "P"], compileFlags := ["-I/opus", "-I/ogg"],
              linkLibraries := ["opus", "ogg"] }
    let first := [Query.ofLibrary .ogg]
    let second := [Query.ofLibrary .opus, Query.ofLibrary .ogg]
    Profile.symbian.libraries.entry.length ≤ flags.linkLibraries.length ∧
      (∀ query ∈ first ++ second, ∃ answer, probe query = .ok answer) ∧
      ∃ once between twice,
        discover { flags with discovery := first ++ second } probe .symbian = .ok once ∧
          discover { flags with discovery := first } probe .symbian = .ok between ∧
          discover { between with discovery := second } probe .symbian = .ok twice ∧
          SwapsRounds entry ["m", "gcc"] once between twice ∧
          once.linkLibraries = entry ++ ["ogg", "opus"] ++ ["m", "gcc"] ∧
          twice.linkLibraries = entry ++ ["opus", "ogg"] ++ ["m", "gcc"] := by
  intro entry flags probe first second
  have hroom : Profile.symbian.libraries.entry.length ≤ flags.linkLibraries.length := by decide
  have hanswered : ∀ query ∈ first ++ second, ∃ answer, probe query = .ok answer := by
    intro query _
    by_cases hogg : query.library = .ogg
    · exact ⟨_, if_pos hogg⟩
    · exact ⟨_, if_neg hogg⟩
  obtain ⟨once, between, twice, honce, hbetween, htwice, hswaps⟩ :=
    discover_in_two_rounds hroom hanswered
  refine ⟨hroom, hanswered, once, between, twice, honce, hbetween, htwice, hswaps, ?_, ?_⟩
  · cases honce
    rfl
  · cases hbetween
    cases htwice
    rfl

/-- A base without room for the startup code keeps the rounds in the order in which they came. -/
example :
    let probe : Query → Except String Answer := fun query =>
      .ok { linkLibraries := query.library.packages }
    let between := discover { linkLibraries := ["gcc"], discovery := [.ofLibrary .ogg] } probe
      .symbian
    let twice := between.bind fun flags =>
      discover { flags with discovery := [.ofLibrary .opus] } probe .symbian
    twice.map FlagSet.linkLibraries = .ok ["gcc", "ogg", "opus", "opusfile"] := by
  rfl

end FlagSet
end CrossFlags
