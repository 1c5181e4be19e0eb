import Mathlib.Data.Fintype.Card
import Mathlib.Data.Fintype.EquivFin
import Mathlib.Data.Fintype.OfMap
import Mathlib.Order.WellFounded
import CrossFlags.Proofs.Rule.Forcing

/-!
# What the order check rules out

A table that fails the check may fail for one of two reasons, and they call for different repairs.
Its rules may be in the wrong order, and then some other order passes; or they contradict any order,
and then one of them has to go. **Some order of a table passes exactly if its rules form no cycle**
(`exists_ordered_perm_iff_acyclic`), of whatever length, a rule about its own premise included. So
the check refuses nothing that could be applied in one pass, and nothing that passes it can go round
in circles.

The check compares rules pair by pair and sees no chains. What makes it see cycles is that the first
rule of a table that passes can be taken off: no rule is about its premise, so no chain arrives
there, and a cycle would have to do without it (`chain_of_cons`). The other direction puts rules back
on in the same way. An acyclic table has a rule about whose premise there is no rule, because chains
cannot go back for ever among finitely many libraries; that rule comes first.
-/

set_option autoImplicit false

namespace CrossFlags

open Relation (TransGen)

namespace Rule

variable {rules first second later : List Rule} {rule : Rule} {a b : Library}

/-- No chain of rules, each about the premise of the next, leads from a library back to it. -/
def Acyclic (rules : List Rule) : Prop := ∀ lib, ¬ TransGen (Links rules) lib lib

theorem Links.mono (hsub : first ⊆ second) (h : Links first a b) : Links second a b := by
  obtain ⟨rule, hmem, hpremise, himplied⟩ := h
  exact ⟨rule, hsub hmem, hpremise, himplied⟩

theorem Acyclic.mono (hsub : first ⊆ second) (h : Acyclic second) : Acyclic first := by
  intro lib hcycle
  exact h lib (TransGen.mono (fun _ _ hlink => hlink.mono hsub) lib lib hcycle)

theorem exists_rule_of_chain (h : TransGen (Links rules) a b) :
    ∃ rule ∈ rules, rule.implied = b := by
  obtain ⟨_, -, rule, hmem, -, himplied⟩ := TransGen.tail'_iff.mp h
  exact ⟨rule, hmem, himplied⟩

/-! ## A table that passes has no cycle -/

theorem Links.of_cons (hne : a ≠ rule.premise) (h : Links (rule :: later) a b) :
    Links later a b := by
  obtain ⟨other, hmem, hpremise, himplied⟩ := h
  rcases List.mem_cons.mp hmem with rfl | hmem
  · exact absurd hpremise.symm hne
  · exact ⟨other, hmem, hpremise, himplied⟩

/-- A chain that does not begin at the premise of a rule never makes use of it, if no rule is about
that premise. -/
theorem chain_of_cons (hfree : ∀ other ∈ rule :: later, other.implied ≠ rule.premise)
    (hne : a ≠ rule.premise) (h : TransGen (Links (rule :: later)) a b) :
    TransGen (Links later) a b := by
  induction h with
  | single hlink => exact .single (hlink.of_cons hne)
  | tail hchain hlink ih =>
    obtain ⟨other, hmem, himplied⟩ := exists_rule_of_chain hchain
    exact ih.tail (hlink.of_cons (himplied ▸ hfree other hmem))

theorem acyclic_of_ordered (ho : ordered rules = true) : Acyclic rules := by
  induction rules with
  | nil =>
    intro lib hcycle
    obtain ⟨rule, hmem, -⟩ := exists_rule_of_chain hcycle
    exact absurd hmem List.not_mem_nil
  | cons rule later ih =>
    obtain ⟨hfree, hlater⟩ := ordered_cons_iff.mp ho
    intro lib hcycle
    -- Some rule is about every library of the cycle, so the premise of the first is not one of them.
    obtain ⟨other, hmem, himplied⟩ := exists_rule_of_chain hcycle
    have hne : lib ≠ rule.premise := himplied ▸ hfree other hmem
    exact ih hlater lib (chain_of_cons hfree hne hcycle)

/-! ## A table without a cycle can be put in order -/

theorem finite_library : Finite Library := (Fintype.ofList Library.all Library.mem_all).finite

/-- Some rule of an acyclic table can have the first turn. -/
theorem Acyclic.exists_first (h : Acyclic rules) (hne : rules ≠ []) :
    ∃ rule ∈ rules, ∀ other ∈ rules, other.implied ≠ rule.premise := by
  have : Finite Library := finite_library
  have : Std.Irrefl (TransGen (Links rules)) := ⟨h⟩
  have hwf : WellFounded (TransGen (Links rules)) := Finite.wellFounded_of_trans_of_irrefl _
  obtain ⟨head, hhead⟩ := List.exists_mem_of_ne_nil rules hne
  -- Of the premises there are, one has no other in front of it.
  obtain ⟨lib, ⟨rule, hmem, rfl⟩, hleast⟩ :=
    hwf.has_min {lib | ∃ rule ∈ rules, rule.premise = lib} ⟨_, head, hhead, rfl⟩
  refine ⟨rule, hmem, ?_⟩
  intro other hother himplied
  exact hleast other.premise ⟨other, hother, rfl⟩ (.single ⟨other, hother, rfl, himplied⟩)

theorem Acyclic.exists_ordered_perm (h : Acyclic rules) :
    ∃ table : List Rule, table.Perm rules ∧ ordered table = true := by
  induction hlength : rules.length generalizing rules with
  | zero =>
    rw [List.eq_nil_of_length_eq_zero hlength]
    exact ⟨[], .refl _, rfl⟩
  | succ n ih =>
    have hne : rules ≠ [] := by
      intro hnil
      rw [hnil] at hlength
      cases hlength
    obtain ⟨rule, hmem, hfirst⟩ := h.exists_first hne
    have hrest : (rules.erase rule).length = n := by
      rw [List.length_erase_of_mem hmem, hlength, Nat.add_sub_cancel]
    obtain ⟨table, hperm, ho⟩ := ih (h.mono List.erase_subset) hrest
    have hwhole : (rule :: table).Perm rules :=
      (hperm.cons rule).trans (List.perm_cons_erase hmem).symm
    refine ⟨rule :: table, hwhole, ordered_cons_iff.mpr ⟨?_, ho⟩⟩
    intro other hother
    exact hfirst other (hwhole.mem_iff.mp hother)

/-- **The order check rules out cycles and nothing else.** -/
theorem exists_ordered_perm_iff_acyclic (rules : List Rule) :
    ((∃ table : List Rule, table.Perm rules ∧ ordered table = true) ↔ Acyclic rules) ∧
      (ordered rules = true → Acyclic rules) := by
  refine ⟨?_, acyclic_of_ordered⟩
  constructor
  · rintro ⟨table, hperm, ho⟩
    exact (acyclic_of_ordered ho).mono hperm.symm.subset
  · intro h
    exact h.exists_ordered_perm

-- A table that fails the check only for its order.
example :
    let rules : List Rule := [⟨.vorbis, .ogg, .system⟩, ⟨.theora, .vorbis, .system⟩]
    ordered rules = false ∧ ordered rules.reverse = true := by
  decide

end Rule
end CrossFlags
