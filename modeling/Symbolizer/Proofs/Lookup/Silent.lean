import Symbolizer.Proofs.Lookup.Interval
import Symbolizer.Proofs.Lookup.ModuleOrder

set_option autoImplicit false

namespace Symbolizer

def Module.Level (part : Module) : Prop :=
  ∀ left ∈ part.symbols, ∀ right ∈ part.symbols, left.address = right.address

namespace Module

variable {part : Module}

theorem candidate?_of_level (level : part.Level) (address : Address) :
    part.candidate? address = none := by
  cases found : enclosing? address part.symbols with
  | none => simp [candidate?, found]
  | some ends =>
      obtain ⟨earlier, later, whole, low, high⟩ := neighbours_of_enclosing? found
      have same := level ends.1 (by simp [whole]) ends.2 (by simp [whole])
      have apart := UInt64.lt_of_le_of_lt low high
      simp [same] at apart

theorem exists_lt_of_not_level (uneven : ¬part.Level) :
    ∃ low ∈ part.symbols, ∃ high ∈ part.symbols, low.address < high.address := by
  simp only [Level, not_forall] at uneven
  obtain ⟨left, leftMember, right, rightMember, different⟩ := uneven
  rcases UInt64.lt_or_lt_of_ne different with less | greater
  · exact ⟨left, leftMember, right, rightMember, less⟩
  · exact ⟨right, rightMember, left, leftMember, greater⟩

theorem candidate?_at_symbol
    (ascending : part.symbols.Pairwise fun left right => left.address ≤ right.address)
    {low high : Symbol} (lowMember : low ∈ part.symbols) (highMember : high ∈ part.symbols)
    (apart : low.address < high.address) :
    ∃ candidate, part.candidate? low.address = some candidate ∧ candidate.offset = 0 := by
  obtain ⟨base, next, found⟩ := exists_enclosing?_of_ascending ascending lowMember
    (UInt64.le_refl _) highMember apart
  obtain ⟨_, _, _, atMost, _⟩ := neighbours_of_enclosing? found
  -- Several symbols may stand at the lower end, and the last of them opens the interval.
  have atLeast : low.address ≤ base.address := by
    simp only [enclosing?_of_ascending _ _ ascending, Option.bind_eq_some_iff] at found
    obtain ⟨last, isLast, first⟩ := found
    obtain ⟨rfl, _⟩ : last = base ∧ (above low.address part.symbols).head? = some next := by
      simpa [and_comm] using first
    exact le_last_upTo ascending isLast low lowMember (UInt64.le_refl _)
  have same : base.address = low.address := UInt64.le_antisymm atMost atLeast
  exact ⟨⟨part.name, base.name, low.address - base.address, next.address - base.address⟩,
    by simp [candidate?, found], by simp [same]⟩

end Module

namespace Table

variable {table : Table}

theorem lookup_offset_eq_zero {part : Module} (member : part ∈ table.modules) {address : Address}
    {candidate : Candidate} (own : part.candidate? address = some candidate)
    (zero : candidate.offset = 0) :
    ∃ answer, table.lookup address = some answer ∧ answer.offset = 0 := by
  cases found : table.tightest? address with
  | none =>
      have silent := (tightest?_eq_none_iff table.modules address).1 found part member
      simp [silent] at own
  | some winner =>
      have unbeaten := unbeaten_of_tightest? found part member candidate own
      have closest : winner.offset = 0 ∧ winner.size ≤ candidate.size := by
        rw [Candidate.not_isTighterThan_iff, zero] at unbeaten
        simpa using unbeaten
      exact ⟨winner.resolved, by simp [lookup, found], closest.1⟩

theorem level_of_addressesHidden (hidden : table.addressesHidden = true) :
    ∀ part ∈ table.modules, part.Level := by
  intro part member left leftMember right rightMember
  have zero : ∀ symbol ∈ part.symbols, symbol.address = 0 := by
    simp only [addressesHidden, symbols, Bool.and_eq_true, List.all_flatMap, List.all_eq_true,
      beq_iff_eq] at hidden
    exact hidden.2 part member
  rw [zero left leftMember, zero right rightMember]

theorem lookup_of_level (level : ∀ part ∈ table.modules, part.Level) (address : Address) :
    table.lookup address = none :=
  (table.lookup_eq_none_iff address).2 fun part member =>
    part.candidate?_of_level (level part member) address

section Ascending

variable (ascending : ∀ part ∈ table.modules,
  part.symbols.Pairwise fun left right => left.address ≤ right.address)

include ascending

theorem lookup_at_symbol {part : Module} (member : part ∈ table.modules) {low high : Symbol}
    (lowMember : low ∈ part.symbols) (highMember : high ∈ part.symbols)
    (apart : low.address < high.address) :
    ∃ answer, table.lookup low.address = some answer ∧ answer.offset = 0 := by
  obtain ⟨candidate, own, zero⟩ :=
    part.candidate?_at_symbol (ascending part member) lowMember highMember apart
  exact lookup_offset_eq_zero member own zero

theorem lookup_eq_none_forall_iff :
    (∀ address, table.lookup address = none) ↔ ∀ part ∈ table.modules, part.Level := by
  constructor
  · intro silent part member
    by_contra uneven
    obtain ⟨low, lowMember, high, highMember, apart⟩ := Module.exists_lt_of_not_level uneven
    obtain ⟨answer, answered, _⟩ := lookup_at_symbol ascending member lowMember highMember apart
    simp [silent] at answered
  · exact lookup_of_level

end Ascending

end Table

theorem buildLines_silent_iff (options : BuildOptions) (lines : List Text) :
    let table := (buildLines options lines).table
    ((∀ address, table.lookup address = none) ↔ ∀ part ∈ table.modules,
      ∀ left ∈ part.symbols, ∀ right ∈ part.symbols, left.address = right.address) ∧
    (table.addressesHidden = true → ∀ address, table.lookup address = none) ∧
    ∀ part ∈ table.modules, ∀ low ∈ part.symbols, ∀ high ∈ part.symbols,
      low.address < high.address →
        ∃ answer, table.lookup low.address = some answer ∧ answer.offset = 0 := by
  intro table
  have ascending := (Builder.pushAll { options } lines).finish_ascending
  refine ⟨Table.lookup_eq_none_forall_iff ascending, ?_, ?_⟩
  · intro hidden
    exact Table.lookup_of_level (Table.level_of_addressesHidden hidden)
  · intro part member low lowMember high highMember apart
    exact Table.lookup_at_symbol ascending member lowMember highMember apart

-- A table can be silent with its addresses in plain sight.
example :
    let table : Table := ⟨[⟨none, [⟨['a'], 5⟩, ⟨['b'], 5⟩]⟩, ⟨some ['m'], [⟨['c'], 7⟩]⟩]⟩
    table.addressesHidden = false ∧ table.lookup 5 = none ∧ table.lookup 6 = none := by
  decide

end Symbolizer
