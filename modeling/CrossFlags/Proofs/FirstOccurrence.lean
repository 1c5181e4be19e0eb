/-!
# First occurrences and what they stand before

Lists that are put together from several sources keep the first occurrence of everything and drop
the others (`List.eraseDups`). What order that leaves is decided by who comes first in the long
list, and `Leads` is the statement of it: `b` never turns up before `a` has. Two facts make it
usable: it can be read off an appended list part by part, and it is exactly the order that the
deduplicated list has (`sublist_eraseDups_iff`).

"`a` stands before `b`" is written `[a, b] <+ l` throughout. In a list without repeats that is the
only thing it can mean.
-/

set_option autoImplicit false

namespace CrossFlags

open scoped List

variable {α : Type}

/-! ## Who comes first -/

/-- Whatever is `late` in the list has something `early` in front of it, or is early itself. -/
def Leads (early late : α → Prop) (l : List α) : Prop :=
  ∀ front x back, l = front ++ x :: back → late x → ∃ y ∈ front ++ [x], early y

section

variable {early late : α → Prop}

theorem leads_nil : Leads early late [] := by
  intro front x back h
  cases front <;> cases h

theorem leads_cons_iff {x : α} {rest : List α} :
    Leads early late (x :: rest) ↔ early x ∨ (¬ late x ∧ Leads early late rest) := by
  constructor
  · intro h
    by_cases hx : early x
    · exact Or.inl hx
    refine Or.inr ⟨?_, ?_⟩
    · intro hlate
      obtain ⟨y, hy, hearly⟩ := h [] x rest rfl hlate
      exact hx (List.mem_singleton.mp hy ▸ hearly)
    · intro front y back hsplit hlate
      have hwhole : x :: rest = (x :: front) ++ y :: back := by rw [hsplit, List.cons_append]
      obtain ⟨z, hz, hearly⟩ := h (x :: front) y back hwhole hlate
      rcases List.mem_cons.mp hz with rfl | hz
      · exact absurd hearly hx
      · exact ⟨z, hz, hearly⟩
  · intro h front y back hsplit hlate
    cases front with
    | nil =>
      obtain ⟨rfl, -⟩ := List.cons.inj hsplit
      rcases h with hearly | ⟨hnot, -⟩
      · exact ⟨x, List.mem_singleton_self x, hearly⟩
      · exact absurd hlate hnot
    | cons z front =>
      obtain ⟨rfl, hrest⟩ := List.cons.inj hsplit
      rcases h with hearly | ⟨-, hleads⟩
      · exact ⟨x, List.mem_cons_self, hearly⟩
      · obtain ⟨w, hw, hearly⟩ := hleads front y back hrest hlate
        exact ⟨w, List.mem_cons_of_mem _ hw, hearly⟩

theorem leads_append_iff {first second : List α} :
    Leads early late (first ++ second) ↔
      Leads early late first ∧ ((∃ x ∈ first, early x) ∨ Leads early late second) := by
  induction first with
  | nil => simp [leads_nil]
  | cons x rest ih =>
    rw [List.cons_append, leads_cons_iff, leads_cons_iff, ih]
    simp only [List.mem_cons, exists_eq_or_imp]
    by_cases hx : early x
    · simp [hx]
    · simp only [hx, false_or, and_assoc]

theorem leads_iff_of_forall_not {l : List α} (h : ∀ x ∈ l, ¬ early x) :
    Leads early late l ↔ ∀ x ∈ l, ¬ late x := by
  induction l with
  | nil => simp [leads_nil]
  | cons x rest ih =>
    obtain ⟨hx, hrest⟩ := List.forall_mem_cons.mp h
    rw [leads_cons_iff, ih hrest, List.forall_mem_cons]
    simp [hx]

end

/-- A list that follows a strict order has the lesser of two elements first, if it has it. -/
theorem leads_of_pairwise {before : α → α → Prop} {a b : α} {l : List α}
    (hirrefl : ∀ x, ¬ before x x) (htrans : ∀ x y z, before x y → before y z → before x z)
    (hpairwise : l.Pairwise before) (hab : before a b) (ha : a ∈ l) :
    Leads (· = a) (· = b) l := by
  rintro front _ back rfl rfl
  refine ⟨a, ?_, rfl⟩
  rw [List.append_cons] at ha hpairwise
  rcases List.mem_append.mp ha with hfront | hback
  · exact hfront
  · -- An `a` behind this `b` would put `b` before `a` in the order.
    have hba := (List.pairwise_append.mp hpairwise).2.2 _ (List.mem_concat_self) a hback
    exact absurd (htrans a _ a hab hba) (hirrefl a)

/-! ## Order among first occurrences -/

/-- Elements that are neither `a` nor `b` have no say in which of the two comes first. -/
theorem leads_filter_iff {a b : α} {keep : α → Bool} (ha : keep a = true) (hb : keep b = true)
    {l : List α} : Leads (· = a) (· = b) (l.filter keep) ↔ Leads (· = a) (· = b) l := by
  induction l with
  | nil => rfl
  | cons x rest ih =>
    by_cases hx : keep x = true
    · rw [List.filter_cons_of_pos hx, leads_cons_iff, leads_cons_iff, ih]
    · have hxa : x ≠ a := by
        intro h
        exact hx (h ▸ ha)
      have hxb : x ≠ b := by
        intro h
        exact hx (h ▸ hb)
      rw [List.filter_cons_of_neg hx, leads_cons_iff, ih]
      simp [hxa, hxb]

section

variable [DecidableEq α] {a b : α}

-- By length and not by structure, as is all that follows: `eraseDups` goes on with a filtered tail.
theorem nodup_eraseDups (l : List α) : l.eraseDups.Nodup := by
  match l with
  | [] => exact List.nodup_nil
  | a :: rest =>
    have hshorter : (rest.filter fun x => !x == a).length < rest.length + 1 :=
      Nat.lt_succ_of_le (List.length_filter_le _ _)
    rw [List.eraseDups_cons]
    refine List.nodup_cons.mpr ⟨?_, nodup_eraseDups _⟩
    intro ha
    simp at ha
termination_by l.length

theorem eraseDups_of_nodup {l : List α} (h : l.Nodup) : l.eraseDups = l := by
  induction l with
  | nil => rfl
  | cons a rest ih =>
    obtain ⟨ha, hrest⟩ := List.nodup_cons.mp h
    have hkept : (rest.filter fun x => !x == a) = rest := by
      apply List.filter_eq_self.mpr
      intro x hx
      have hne : x ≠ a := fun he => ha (he ▸ hx)
      simpa using hne
    rw [List.eraseDups_cons, hkept, ih hrest]

theorem eraseDups_append_of_nodup {base : List α} (h : base.Nodup) (more : List α) :
    (base ++ more).eraseDups = base ++ (more.removeAll base).eraseDups := by
  rw [List.eraseDups_append, eraseDups_of_nodup h]

theorem eraseDups_append_of_subset {base more : List α} (h : ∀ a ∈ more, a ∈ base) :
    (base ++ more).eraseDups = base.eraseDups := by
  have hnone : more.removeAll base = [] := by
    rw [List.removeAll, List.filter_eq_nil_iff]
    intro a ha
    simpa using h a ha
  rw [List.eraseDups_append, hnone, List.eraseDups_nil, List.append_nil]

theorem eraseDups_eraseDups_append (base more : List α) :
    (base.eraseDups ++ more).eraseDups = (base ++ more).eraseDups := by
  have hsame : more.removeAll base.eraseDups = more.removeAll base := by
    refine List.filter_congr fun a _ => ?_
    simp
  rw [List.eraseDups_append, List.eraseDups_append, hsame, eraseDups_of_nodup (nodup_eraseDups base)]

theorem eraseDups_append_singleton (l : List α) (a : α) :
    (l ++ [a]).eraseDups = if a ∈ l then l.eraseDups else l.eraseDups ++ [a] := by
  rw [List.eraseDups_append]
  by_cases ha : a ∈ l
  · rw [if_pos ha, List.removeAll, List.filter_cons_of_neg (by simpa using ha)]
    simp
  · rw [if_neg ha, List.removeAll, List.filter_cons_of_pos (by simpa using ha)]
    rfl

/-- **Among first occurrences, `a` stands before `b` exactly when no `b` came before the first
`a`.** -/
theorem sublist_eraseDups_iff (hne : a ≠ b) {l : List α} :
    [a, b] <+ l.eraseDups ↔ b ∈ l ∧ Leads (· = a) (· = b) l := by
  match l with
  | [] => simp [leads_nil]
  | x :: rest =>
    have hshorter : (rest.filter fun y => !y == x).length < rest.length + 1 :=
      Nat.lt_succ_of_le (List.length_filter_le _ _)
    rw [List.eraseDups_cons, leads_cons_iff]
    by_cases hxa : x = a
    · -- `x` is the first `a`: all that is left to ask is whether there is a `b`.
      subst hxa
      rw [List.cons_sublist_cons, List.singleton_sublist, List.mem_eraseDups]
      simp [Ne.symm hne]
    · have hskip : [a, b] <+ x :: (rest.filter fun y => !y == x).eraseDups ↔
          [a, b] <+ (rest.filter fun y => !y == x).eraseDups := by
        constructor
        · intro h
          cases h with
          | cons _ h => exact h
          | cons_cons _ h => exact absurd rfl hxa
        · intro h
          exact h.cons x
      rw [hskip, sublist_eraseDups_iff hne]
      by_cases hxb : x = b
      · -- `x` is a `b` with no `a` in front of it: both sides are false.
        subst hxb
        simp [hxa]
      · rw [leads_filter_iff (by simpa using Ne.symm hxa) (by simpa using Ne.symm hxb)]
        simp [hxa, hxb, Ne.symm hxb]
termination_by l.length

end

/-- Two elements that are in the middle part alone stand in the whole as they stand there. -/
theorem sublist_append_iff_of_not_mem {a b : α} {left middle right : List α}
    (hleft : a ∉ left ∧ b ∉ left) (hright : a ∉ right ∧ b ∉ right) :
    [a, b] <+ left ++ middle ++ right ↔ [a, b] <+ middle := by
  classical
  have hfilter (l : List α) (h : a ∉ l ∧ b ∉ l) : l.filter (fun x => x = a ∨ x = b) = [] := by
    refine List.filter_eq_nil_iff.mpr ?_
    intro x hx
    simp only [decide_eq_true_eq, not_or]
    exact ⟨fun he => h.1 (he ▸ hx), fun he => h.2 (he ▸ hx)⟩
  constructor
  · -- The pair survives a filter that leaves nothing of the outer parts.
    intro h
    have hkept := h.filter fun x => x = a ∨ x = b
    rw [List.filter_append, List.filter_append, hfilter left hleft, hfilter right hright,
      List.nil_append, List.append_nil] at hkept
    refine List.Sublist.trans ?_ (hkept.trans List.filter_sublist)
    simp
  · intro h
    exact (h.trans (List.sublist_append_right left middle)).trans (List.sublist_append_left _ right)

end CrossFlags
