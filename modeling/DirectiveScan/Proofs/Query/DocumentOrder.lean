import DirectiveScan.Proofs.Query.Standing
import Mathlib.Data.List.Perm.Basic

namespace DirectiveScan

/-! The order of a walk.

A walk meets every node of a tree at its address, each address once, and in lexicographic
order. A search returns what it accepts in this order, and the searches for the thirteen
kinds share the nodes out among themselves. -/

/-! ## Sharing out by kind -/

/-- Values that are shared out by their keys are all there, each one once. -/
theorem perm_flatMap_filter {α κ : Type} [DecidableEq κ] (key : α → κ) {keys : List κ}
    (nodup : keys.Nodup) {values : List α} (complete : ∀ value ∈ values, key value ∈ keys) :
    (keys.flatMap fun one => values.filter (key · = one)).Perm values := by
  induction keys generalizing values with
  | nil =>
      have empty : values = [] := List.eq_nil_iff_forall_not_mem.mpr fun value member =>
        List.not_mem_nil (complete value member)
      simp [empty]
  | cons first rest induction =>
      have ⟨firstNotMem, restNodup⟩ := List.nodup_cons.mp nodup
      let others := values.filter fun value => !decide (key value = first)
      have restComplete : ∀ value ∈ others, key value ∈ rest := by
        intro value member
        have ⟨isValue, different⟩ := List.mem_filter.mp member
        have isKey := complete value isValue
        simp_all
      -- The values of a later key are found among those that the first key leaves.
      have later : ∀ one ∈ rest,
          values.filter (key · = one) = others.filter (key · = one) := by
        intro one member
        have different : one ≠ first := fun same => firstNotMem (same ▸ member)
        rw [List.filter_filter]
        apply List.filter_congr
        intro value _
        by_cases same : key value = one <;> simp [same, different]
      rw [List.flatMap_cons, List.flatMap_congr later]
      exact ((induction restNodup restComplete).append_left _).trans
        (List.filter_append_perm _ values)

theorem NodeKind.mem_all (kind : NodeKind) : kind ∈ all := by
  cases kind <;> decide

theorem NodeKind.nodup_all : all.Nodup := by decide

namespace Start

theorem findKind_eq (start : Start) (kind : NodeKind) :
    start.findKind kind = (start.walk.map Visit.node).filter (·.kind = kind) :=
  start.findWhere_node fun found => found.kind = kind

/-! ## The walk -/

theorem forall₂_nodeAt (start : Start) :
    List.Forall₂ (fun address visit => start.NodeAt address visit.node)
      start.addresses start.walk := by
  refine start.forall₂_walk.imp ?_
  rintro address visit ⟨reached, holds, _⟩
  exact (start.nodeAt_iff_reach address visit.node).mpr ⟨reached, holds⟩

/-- The accepted visits of a walk, with their addresses. -/
def accepted (start : Start) (accepts : Visit → Bool) : List (Address × Visit) :=
  (start.addresses.zip start.walk).filter fun occurrence => accepts occurrence.2

theorem findWhere_eq (start : Start) (accepts : Visit → Bool) :
    start.findWhere accepts = (start.accepted accepts).map fun occurrence => occurrence.2.node := by
  have lengths : start.walk.length ≤ start.addresses.length :=
    Nat.le_of_eq start.forall₂_nodeAt.length_eq.symm
  have visits : (start.accepted accepts).map Prod.snd = start.walk.filter accepts := by
    conv_rhs => rw [← List.map_snd_zip lengths, List.filter_map]
    rfl
  rw [findWhere, ← visits, List.map_map]
  rfl

/-- A walk meets exactly the nodes that stand somewhere below its start, each of them once,
and in the order of their addresses: every node after all the nodes around it, and before
everything to the right of it. A search returns exactly the nodes that it accepts, in this
order, and every node is found under exactly one of the kinds. -/
theorem walk_in_document_order (start : Start) :
    List.Forall₂ (fun address visit => start.NodeAt address visit.node)
      start.addresses start.walk ∧
    (∀ address, address ∈ start.addresses ↔ ∃ found, start.NodeAt address found) ∧
    start.addresses.Pairwise (· < ·) ∧
    (∀ accepts, List.Forall₂ start.NodeAt ((start.accepted accepts).map Prod.fst)
      (start.findWhere accepts)) ∧
    (∀ accepts, ((start.accepted accepts).map Prod.fst).Sublist start.addresses) ∧
    (∀ kind, ∀ found ∈ start.findKind kind, found.kind = kind) ∧
    (NodeKind.all.flatMap start.findKind).Perm (start.walk.map Visit.node) := by
  refine ⟨start.forall₂_nodeAt, start.mem_addresses_iff, start.piece.pairwise_addresses,
    fun accepts => ?_, fun accepts => ?_, fun kind found member => ?_, ?_⟩
  · rw [findWhere_eq, List.forall₂_map_left_iff, List.forall₂_map_right_iff, List.forall₂_same]
    intro occurrence member
    have ⟨inZip, _⟩ := List.mem_filter.mp member
    exact (List.forall₂_iff_zip.mp start.forall₂_nodeAt).2 inZip
  · have lengths : start.addresses.length ≤ start.walk.length :=
      Nat.le_of_eq start.forall₂_nodeAt.length_eq
    rw [← List.map_fst_zip lengths]
    exact List.filter_sublist.map _
  · rw [findKind_eq] at member
    simpa using (List.mem_filter.mp member).2
  · rw [List.flatMap_congr fun kind _ => start.findKind_eq kind]
    exact perm_flatMap_filter Node.kind NodeKind.nodup_all fun found _ => found.kind.mem_all

end Start

end DirectiveScan
