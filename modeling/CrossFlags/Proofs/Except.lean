import Mathlib.Data.List.Forall2

/-!
# Chains that can fail

Reading, resolving and discovering are chains of steps in `Except`, each of which may end the run
with its error. A run that ends well is taken apart by the equivalences below, one link at a time,
so that no later proof has to look at how a chain is built. A run that ends badly has an error of
one of its steps; which one is asked of the chain without its values (`outcome`).

Where a chain has many ways to end, they are listed as the constructors of a relation. That the list
is complete is then a statement without the chain, and the chain has only to be run on each of them
(`eq_iff_of_exists`).
-/

set_option autoImplicit false

namespace CrossFlags

section

variable {ε α β : Type}

/-- A chain succeeds when its first link does and the rest succeeds on what that gives. -/
theorem bind_eq_ok_iff {first : Except ε α} {next : α → Except ε β} {b : β} :
    (first >>= next) = .ok b ↔ ∃ a, first = .ok a ∧ next a = .ok b := by
  cases first with
  | error e =>
    constructor
    · intro h; cases h
    · rintro ⟨a, ha, -⟩; cases ha
  | ok a =>
    constructor
    · intro h; exact ⟨a, rfl, h⟩
    · rintro ⟨a', ha, h⟩; cases ha; exact h

theorem bind_eq_error_iff {first : Except ε α} {next : α → Except ε β} {e : ε} :
    (first >>= next) = .error e ↔ first = .error e ∨ ∃ a, first = .ok a ∧ next a = .error e := by
  cases first with
  | error e' =>
    constructor
    · intro h
      cases h
      exact Or.inl rfl
    · rintro (h | ⟨a, ha, -⟩)
      · cases h
        rfl
      · cases ha
  | ok a =>
    constructor
    · intro h
      exact Or.inr ⟨a, rfl, h⟩
    · rintro (h | ⟨a', ha, h⟩)
      · cases h
      · cases ha
        exact h

/-- A relation that some result satisfies, and no other than the one that is given, holds of exactly
that. -/
theorem eq_iff_of_exists {ends : Except ε α → Prop} {given result : Except ε α}
    (hexists : ∃ r, ends r) (h : ∀ r, ends r → given = r) : given = result ↔ ends result := by
  constructor
  · rintro rfl
    obtain ⟨r, hr⟩ := hexists
    rwa [h r hr]
  · exact h result

theorem eq_of_eq_ok {first second : Except ε α} {a b : α} (ha : first = .ok a)
    (hb : second = .ok b) (h : first = second) : a = b := by
  rw [ha, hb] at h
  exact Except.ok.inj h

theorem pure_eq_ok_iff {a b : α} : (pure a : Except ε α) = .ok b ↔ a = b := by
  constructor
  · intro h; cases h; rfl
  · rintro rfl; rfl

theorem mapError_eq_ok_iff {ε' : Type} {step : Except ε α} {f : ε → ε'} {a : α} :
    step.mapError f = .ok a ↔ step = .ok a := by
  cases step with
  | error e =>
    constructor
    · intro h; cases h
    · intro h; cases h
  | ok b =>
    constructor
    · intro h; cases h; rfl
    · intro h; cases h; rfl

theorem mapError_id (step : Except ε α) : step.mapError id = step := by
  cases step <;> rfl

/-- Two chains are alike up to a change of errors if they are so link by link. -/
theorem mapError_bind_congr {ε' : Type} {f : ε → ε'} {first second : Except ε α}
    {next other : α → Except ε β} (hfirst : first.mapError f = second.mapError f)
    (hnext : ∀ a, (next a).mapError f = (other a).mapError f) :
    (first >>= next).mapError f = (second >>= other).mapError f := by
  cases first with
  | error e =>
    cases second with
    | error e' => exact congrArg Except.error (Except.error.inj hfirst)
    | ok a => cases hfirst
  | ok a =>
    cases second with
    | error e => cases hfirst
    | ok a' =>
      obtain rfl : a = a' := Except.ok.inj hfirst
      exact hnext a

theorem mapM_cons_eq_ok_iff {step : α → Except ε β} {a : α} {rest : List α} {bs : List β} :
    (a :: rest).mapM step = .ok bs ↔
      ∃ b others, step a = .ok b ∧ rest.mapM step = .ok others ∧ bs = b :: others := by
  rw [List.mapM_cons]
  simp only [bind_eq_ok_iff, pure_eq_ok_iff]
  constructor
  · rintro ⟨b, hb, others, hothers, rfl⟩
    exact ⟨b, others, hb, hothers, rfl⟩
  · rintro ⟨b, others, hb, hothers, rfl⟩
    exact ⟨b, hb, others, hothers, rfl⟩

/-- A loop succeeds with one value for each element. -/
theorem mapM_eq_ok_iff_forall₂ {step : α → Except ε β} {as : List α} {bs : List β} :
    as.mapM step = .ok bs ↔ List.Forall₂ (fun a b => step a = .ok b) as bs := by
  induction as generalizing bs with
  | nil =>
    rw [List.mapM_nil, pure_eq_ok_iff, List.forall₂_nil_left_iff]
    exact eq_comm
  | cons a rest ih =>
    rw [mapM_cons_eq_ok_iff, List.forall₂_cons_left_iff]
    constructor
    · rintro ⟨b, others, hb, hothers, rfl⟩
      exact ⟨b, others, hb, ih.mp hothers, rfl⟩
    · rintro ⟨b, others, hb, hothers, rfl⟩
      exact ⟨b, others, hb, ih.mpr hothers, rfl⟩

theorem exists_mapM_eq_ok {step : α → Except ε β} {as : List α}
    (h : ∀ a ∈ as, ∃ b, step a = .ok b) : ∃ bs, as.mapM step = .ok bs := by
  induction as with
  | nil => exact ⟨[], rfl⟩
  | cons a rest ih =>
    obtain ⟨⟨b, hb⟩, hrest⟩ := List.forall_mem_cons.mp h
    obtain ⟨bs, hbs⟩ := ih hrest
    exact ⟨b :: bs, mapM_cons_eq_ok_iff.mpr ⟨b, bs, hb, hbs, rfl⟩⟩

theorem mapM_append_eq_ok {step : α → Except ε β} {first second : List α} {bs bs' : List β}
    (h : first.mapM step = .ok bs) (h' : second.mapM step = .ok bs') :
    (first ++ second).mapM step = .ok (bs ++ bs') := by
  rw [mapM_eq_ok_iff_forall₂] at h h' ⊢
  exact List.rel_append h h'

theorem exists_of_mem_mapM {step : α → Except ε β} {as : List α} {bs : List β} {b : β}
    (h : as.mapM step = .ok bs) (hb : b ∈ bs) : ∃ a ∈ as, step a = .ok b := by
  induction as generalizing bs with
  | nil =>
    cases h
    cases hb
  | cons a rest ih =>
    obtain ⟨b', others, ha, hothers, rfl⟩ := mapM_cons_eq_ok_iff.mp h
    rcases List.mem_cons.mp hb with rfl | hb
    · exact ⟨a, List.mem_cons_self, ha⟩
    · obtain ⟨a', ha', hstep⟩ := ih hothers hb
      exact ⟨a', List.mem_cons_of_mem _ ha', hstep⟩

/-! ## Whether a step succeeds -/

/-- A step without the value it gives. -/
def outcome (step : Except ε α) : Except ε Unit := step.map fun _ => ()

theorem outcome_eq_ok_iff {step : Except ε α} : outcome step = .ok () ↔ ∃ a, step = .ok a := by
  cases step with
  | error e =>
    constructor
    · intro h; cases h
    · rintro ⟨a, ha⟩; cases ha
  | ok a => exact iff_of_true rfl ⟨a, rfl⟩

theorem outcome_eq_error_iff {step : Except ε α} {e : ε} :
    outcome step = .error e ↔ step = .error e := by
  cases step with
  | error e' =>
    constructor
    · intro h; cases h; rfl
    · intro h; cases h; rfl
  | ok a =>
    constructor
    · intro h; cases h
    · intro h; cases h

theorem outcome_unit (step : Except ε Unit) : outcome step = step := by
  cases step <;> rfl

/-- Where the rest of a chain succeeds or fails whatever the first link gives, so does the whole. -/
theorem outcome_bind {first : Except ε α} {next : α → Except ε β} {check rest : Except ε Unit}
    (hfirst : outcome first = check) (hnext : ∀ a, outcome (next a) = rest) :
    outcome (first >>= next) = (check >>= fun _ => rest) := by
  subst hfirst
  cases first with
  | error e => rfl
  | ok a => exact hnext a

theorem outcome_bind_pure (first : Except ε α) (f : α → β) :
    outcome (first >>= fun a => pure (f a)) = outcome first := by
  cases first <;> rfl

/-- A run over a list fails as its first failing step does. -/
theorem forM_eq_error_iff {step : α → Except ε Unit} {l : List α} {e : ε} :
    l.forM step = .error e ↔
      ∃ before a after, l = before ++ a :: after ∧ (∀ b ∈ before, step b = .ok ()) ∧
        step a = .error e := by
  induction l with
  | nil =>
    constructor
    · intro h; cases h
    · rintro ⟨before, a, after, h, -⟩
      simp at h
  | cons a rest ih =>
    have hcons : (a :: rest).forM step = (step a >>= fun _ => rest.forM step) := rfl
    rw [hcons]
    cases ha : step a with
    | error e' =>
      constructor
      · intro h
        cases h
        exact ⟨[], a, rest, rfl, fun _ h => absurd h List.not_mem_nil, ha⟩
      · rintro ⟨before, b, after, hsplit, hbefore, hb⟩
        cases before with
        | nil =>
          obtain ⟨rfl, -⟩ := List.cons.inj hsplit
          rw [ha] at hb
          cases hb
          rfl
        | cons first before =>
          obtain ⟨rfl, -⟩ := List.cons.inj hsplit
          rw [hbefore a List.mem_cons_self] at ha
          cases ha
    | ok _ =>
      constructor
      · intro h
        obtain ⟨before, b, after, rfl, hbefore, hb⟩ := ih.mp h
        exact ⟨a :: before, b, after, rfl, List.forall_mem_cons.mpr ⟨ha, hbefore⟩, hb⟩
      · rintro ⟨before, b, after, hsplit, hbefore, hb⟩
        cases before with
        | nil =>
          obtain ⟨rfl, -⟩ := List.cons.inj hsplit
          rw [ha] at hb
          cases hb
        | cons first before =>
          obtain ⟨rfl, rfl⟩ := List.cons.inj hsplit
          exact ih.mpr ⟨before, b, after, rfl, (List.forall_mem_cons.mp hbefore).2, hb⟩

theorem forM_eq_ok_iff {step : α → Except ε Unit} {l : List α} :
    l.forM step = .ok () ↔ ∀ a ∈ l, step a = .ok () := by
  induction l with
  | nil => exact iff_of_true rfl fun _ h => absurd h List.not_mem_nil
  | cons a rest ih =>
    have hcons : (a :: rest).forM step = (step a >>= fun _ => rest.forM step) := rfl
    rw [hcons, bind_eq_ok_iff, List.forall_mem_cons, ← ih]
    exact ⟨fun ⟨_, ha, hrest⟩ => ⟨ha, hrest⟩, fun ⟨ha, hrest⟩ => ⟨(), ha, hrest⟩⟩

end

end CrossFlags
