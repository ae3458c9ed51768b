import Symbolizer.Table.Builder

set_option autoImplicit false

namespace Symbolizer

def Precedes (left right : Symbol × Nat) : Prop :=
  -- Ties of the address are broken by the place in the list.
  left.1.address < right.1.address ∨ left.1.address = right.1.address ∧ left.2 < right.2

def InSourceOrder (source ordered : List Symbol) : Prop :=
  ∃ placed : List (Symbol × Nat),
    placed.Perm source.zipIdx ∧ placed.Pairwise Precedes ∧ ordered = placed.map Prod.fst

namespace Module

@[simp] theorem sorted_name (part : Module) : part.sorted.name = part.name := rfl

theorem sorted_perm (part : Module) : part.sorted.symbols.Perm part.symbols :=
  List.mergeSort_perm _ _

@[simp] theorem sorted_length (part : Module) :
    part.sorted.symbols.length = part.symbols.length :=
  part.sorted_perm.length_eq

theorem address_le_trans (left middle right : Symbol)
    (first : decide (left.address ≤ middle.address) = true)
    (second : decide (middle.address ≤ right.address) = true) :
    decide (left.address ≤ right.address) = true := by
  simp only [decide_eq_true_eq] at first second ⊢
  exact UInt64.le_trans first second

theorem address_le_total (left right : Symbol) :
    (decide (left.address ≤ right.address) || decide (right.address ≤ left.address)) = true := by
  simpa using UInt64.le_total left.address right.address

theorem sorted_ascending (part : Module) :
    part.sorted.symbols.Pairwise fun left right => left.address ≤ right.address := by
  have ascending := List.pairwise_mergeSort address_le_trans address_le_total part.symbols
  simpa [sorted] using ascending

theorem sorted_of_ascending (part : Module)
    (ascending : part.symbols.Pairwise fun left right => left.address ≤ right.address) :
    part.sorted = part := by
  have unmoved : part.symbols.mergeSort (fun left right => decide (left.address ≤ right.address)) =
      part.symbols := List.mergeSort_of_pairwise (by simpa using ascending)
  rw [sorted, unmoved]

theorem zipIdx_distinct (symbols : List Symbol) :
    symbols.zipIdx.Pairwise fun left right => left.2 ≠ right.2 := by
  have places : (symbols.zipIdx.map Prod.snd).Nodup := by
    rw [List.zipIdx_map_snd]
    exact List.nodup_range'
  exact List.pairwise_map.1 places

theorem sorted_inSourceOrder (part : Module) :
    InSourceOrder part.symbols part.sorted.symbols := by
  -- A stable sort is a sort of the symbols together with their places.
  let byAddress (left right : Symbol) : Bool := left.address ≤ right.address
  let placed := part.symbols.zipIdx.mergeSort (List.zipIdxLE byAddress)
  have perm : placed.Perm part.symbols.zipIdx := List.mergeSort_perm _ _
  refine ⟨placed, perm, ?_, List.mergeSort_zipIdx.symm⟩
  have ascending : placed.Pairwise fun left right => List.zipIdxLE byAddress left right = true :=
    List.pairwise_mergeSort (List.zipIdxLE_trans address_le_trans)
      (List.zipIdxLE_total address_le_total) _
  have distinct : placed.Pairwise fun left right => left.2 ≠ right.2 :=
    perm.symm.pairwise (zipIdx_distinct part.symbols) fun different => different.symm
  apply (ascending.and distinct).imp
  intro left right both
  obtain ⟨ordered, different⟩ := both
  simp only [List.zipIdxLE, byAddress, decide_eq_true_eq] at ordered
  unfold Precedes
  split at ordered
  next forth =>
    by_cases back : right.1.address ≤ left.1.address
    · have place : left.2 ≤ right.2 := by simpa [back] using ordered
      exact .inr ⟨UInt64.le_antisymm forth back, Nat.lt_of_le_of_ne place different⟩
    · exact .inl (UInt64.not_le.1 back)
  next => simp at ordered

theorem sorted_filter_address (part : Module) (address : Address) :
    part.sorted.symbols.filter (·.address == address) =
      part.symbols.filter (·.address == address) := by
  have level : (part.symbols.filter (·.address == address)).Pairwise fun left right =>
      decide (left.address ≤ right.address) = true := by
    apply List.pairwise_of_forall_mem_list
    intro left leftMember right rightMember
    simp only [List.mem_filter, beq_iff_eq] at leftMember rightMember
    simp [leftMember.2, rightMember.2]
  have kept := List.sublist_mergeSort address_le_trans address_le_total level
    List.filter_sublist
  have inside := kept.filter (·.address == address)
  rw [List.filter_filter] at inside
  simp only [Bool.and_self] at inside
  have count := (part.sorted_perm.filter (·.address == address)).length_eq
  exact (inside.eq_of_length count.symm).symm

end Module

theorem Builder.finish_ascending (builder : Builder) :
    ∀ part ∈ builder.finish.table.modules,
      part.symbols.Pairwise fun left right => left.address ≤ right.address := by
  intro part member
  obtain ⟨unsorted, _, rfl⟩ := List.mem_map.1 member
  exact unsorted.sorted_ascending

end Symbolizer
