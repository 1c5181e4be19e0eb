import CrossFlags.Discovery
import CrossFlags.Proofs.Except

/-!
# Discovery as a function of the answers

`Discovery.collect` asks and merges in one loop. The two have nothing to do with each other: what is
asked does not depend on what was merged, and what is merged does not depend on who was asked. So a
run that succeeds is all the answers, in query order, folded into the flag set
(`FlagSet.discover_eq_ok_iff`), and from here on a statement about discovery is a statement about a
list of answers.
-/

set_option autoImplicit false

namespace CrossFlags

variable {ε : Type} {probe : Query → Except ε Answer}

namespace Discovery

theorem collect_eq_ok_iff {progress result : Progress} {queries : List Query} :
    collect probe progress queries = .ok result ↔
      ∃ answers, queries.mapM probe = .ok answers ∧
        answers.foldl Progress.absorb progress = result := by
  induction queries generalizing progress with
  | nil =>
    constructor
    · intro h
      cases h
      exact ⟨[], rfl, rfl⟩
    · rintro ⟨answers, hanswers, rfl⟩
      cases hanswers
      rfl
  | cons query rest ih =>
    unfold collect
    simp only [bind_eq_ok_iff, mapM_cons_eq_ok_iff, ih]
    constructor
    · rintro ⟨answer, hanswer, others, hothers, hfold⟩
      exact ⟨answer :: others, ⟨answer, others, hanswer, hothers, rfl⟩, hfold⟩
    · rintro ⟨_, ⟨answer, others, hanswer, hothers, rfl⟩, hfold⟩
      exact ⟨answer, hanswer, others, hothers, hfold⟩

/-- A field that every answer is merged into on its own is a merge of all answers. -/
theorem Progress.foldl_absorb_field (field : FlagSet → List String)
    (report : Answer → List String)
    (h : ∀ (progress : Progress) (answer : Answer), field (progress.absorb answer).flags =
      Flag.mergeUnique (field progress.flags) (report answer))
    (answers : List Answer) (progress : Progress) :
    field (answers.foldl absorb progress).flags =
      (answers.map report).foldl Flag.mergeUnique (field progress.flags) := by
  induction answers generalizing progress with
  | nil => rfl
  | cons answer rest ih => rw [List.foldl_cons, List.map_cons, List.foldl_cons, ih, h]

/-- A field that no answer is merged into is left alone by all of them. -/
theorem Progress.foldl_absorb_untouched {β : Type} (field : FlagSet → β)
    (h : ∀ (progress : Progress) (answer : Answer),
      field (progress.absorb answer).flags = field progress.flags)
    (answers : List Answer) (progress : Progress) :
    field (answers.foldl absorb progress).flags = field progress.flags := by
  induction answers generalizing progress with
  | nil => rfl
  | cons answer rest ih => rw [List.foldl_cons, ih, h]

end Discovery

namespace FlagSet

def withAnswers (flags : FlagSet) (profile : Profile) (answers : List Answer) : FlagSet :=
  (answers.foldl Discovery.Progress.absorb ⟨flags, []⟩).finish profile.libraries.entry.length

/-- **Discovery succeeds when every query is answered, and then merges the answers.** -/
theorem discover_eq_ok_iff {flags merged : FlagSet} {profile : Profile} :
    flags.discover probe profile = .ok merged ↔
      ∃ answers, flags.discovery.mapM probe = .ok answers ∧
        flags.withAnswers profile answers = merged := by
  unfold discover discoverM
  simp only [bind_eq_ok_iff, pure_eq_ok_iff, Discovery.collect_eq_ok_iff]
  constructor
  · rintro ⟨_, ⟨answers, hanswers, rfl⟩, hmerged⟩
    exact ⟨answers, hanswers, hmerged⟩
  · rintro ⟨answers, hanswers, hmerged⟩
    exact ⟨_, ⟨answers, hanswers, rfl⟩, hmerged⟩

/-! ## The fields after discovery -/

theorem defines_withAnswers (flags : FlagSet) (profile : Profile) (answers : List Answer) :
    (flags.withAnswers profile answers).defines =
      (answers.map Answer.defines).foldl Flag.mergeUnique flags.defines :=
  Discovery.Progress.foldl_absorb_field FlagSet.defines Answer.defines
    (fun _ _ => rfl) answers ⟨flags, []⟩

theorem compileFlags_withAnswers (flags : FlagSet) (profile : Profile) (answers : List Answer) :
    (flags.withAnswers profile answers).compileFlags =
      (answers.map Answer.compileFlags).foldl Flag.mergeUnique flags.compileFlags :=
  Discovery.Progress.foldl_absorb_field FlagSet.compileFlags Answer.compileFlags
    (fun _ _ => rfl) answers ⟨flags, []⟩

theorem linkFlags_withAnswers (flags : FlagSet) (profile : Profile) (answers : List Answer) :
    (flags.withAnswers profile answers).linkFlags =
      (answers.map Answer.linkFlags).foldl Flag.mergeUnique flags.linkFlags :=
  Discovery.Progress.foldl_absorb_field FlagSet.linkFlags Answer.linkFlags
    (fun _ _ => rfl) answers ⟨flags, []⟩

theorem cFlags_withAnswers (flags : FlagSet) (profile : Profile) (answers : List Answer) :
    (flags.withAnswers profile answers).cFlags = flags.cFlags :=
  Discovery.Progress.foldl_absorb_untouched FlagSet.cFlags (fun _ _ => rfl) answers ⟨flags, []⟩

theorem discovery_withAnswers (flags : FlagSet) (profile : Profile) (answers : List Answer) :
    (flags.withAnswers profile answers).discovery = [] := rfl

end FlagSet
end CrossFlags
