import Mathlib.Algebra.Group.Nat.Defs
import Symbolizer.Proofs.Lookup.Tightest

set_option autoImplicit false

namespace Symbolizer

structure Clear (symbols : List Symbol) (address later : Address) : Prop where
  le : address ≤ later
  outside : ∀ symbol ∈ symbols, symbol.address ≤ address ∨ later < symbol.address

namespace Clear

variable {symbols : List Symbol} {address later : Address}

theorem lt_iff (clear : Clear symbols address later) {symbol : Symbol} (member : symbol ∈ symbols) :
    later < symbol.address ↔ address < symbol.address := by
  constructor
  · exact UInt64.lt_of_le_of_lt clear.le
  · intro high
    rcases clear.outside symbol member with low | beyond
    · exact absurd low (UInt64.not_le.2 high)
    · exact beyond

theorem of_subset {others : List Symbol} (clear : Clear symbols address later)
    (inside : others ⊆ symbols) : Clear others address later where
  le := clear.le
  outside := fun symbol member => clear.outside symbol (inside member)

theorem succ (bounded : address.toNat < 2 ^ 64 - 1)
    (free : ∀ symbol ∈ symbols, symbol.address ≠ address + 1) :
    Clear symbols address (address + 1) := by
  have next : (address + 1).toNat = address.toNat + 1 := by
    rw [UInt64.toNat_add, UInt64.toNat_one]
    omega
  constructor
  · rw [UInt64.le_iff_toNat_le]
    omega
  · intro symbol member
    have other : symbol.address.toNat ≠ (address + 1).toNat := fun same =>
      free symbol member (UInt64.toNat_inj.1 same)
    rw [UInt64.le_iff_toNat_le, UInt64.lt_iff_toNat_lt]
    omega

end Clear

theorem enclosing?_of_clear {address later : Address} {symbols : List Symbol}
    (clear : Clear symbols address later) :
    enclosing? later symbols = enclosing? address symbols := by
  induction symbols with
  | nil => rfl
  | cons first rest ih =>
      have onward := ih (clear.of_subset (List.subset_cons_self _ _))
      cases rest with
      | nil => rfl
      | cons second others =>
          have firstSame : later < first.address ↔ address < first.address :=
            clear.lt_iff (by simp)
          have secondSame : later < second.address ↔ address < second.address :=
            clear.lt_iff (by simp)
          simp only [enclosing?, firstSame, secondSame, onward]

namespace Candidate

def onward (distance : Address) (candidate : Candidate) : Candidate :=
  { candidate with offset := candidate.offset + distance }

theorem isTighterThan_onward {distance : Address} {candidate other : Candidate}
    (room : candidate.offset.toNat + distance.toNat < 2 ^ 64)
    (otherRoom : other.offset.toNat + distance.toNat < 2 ^ 64) :
    (candidate.onward distance).isTighterThan (other.onward distance) =
      candidate.isTighterThan other := by
  have sum (offset : Address) (fits : offset.toNat + distance.toNat < 2 ^ 64) :
      (offset + distance).toNat = offset.toNat + distance.toNat := by
    rw [UInt64.toNat_add, Nat.mod_eq_of_lt fits]
  rw [Bool.eq_iff_iff, isTighterThan_iff, isTighterThan_iff]
  simp only [onward, UInt64.lt_iff_toNat_lt, ← UInt64.toNat_inj, sum _ room, sum _ otherRoom]
  omega

end Candidate

section Onward

variable {address later : Address}

theorem Module.candidate?_of_clear {part : Module} (clear : Clear part.symbols address later) :
    part.candidate? later = (part.candidate? address).map (Candidate.onward (later - address)) := by
  have apart (base : Address) : later - base = address - base + (later - address) := by
    grind
  simp only [candidate?, enclosing?_of_clear clear, Option.map_map, Function.comp_def,
    Candidate.onward, ← apart]

theorem Module.offset_le_of_candidate? {part : Module} {candidate : Candidate}
    (found : part.candidate? address = some candidate) : candidate.offset ≤ address := by
  obtain ⟨⟨base, next⟩, enclosing, rfl⟩ := Option.map_eq_some_iff.1 found
  obtain ⟨_, _, _, low, _⟩ := neighbours_of_enclosing? enclosing
  rw [UInt64.le_iff_toNat_le] at low ⊢
  rw [UInt64.toNat_sub_of_le _ _ (UInt64.le_iff_toNat_le.2 low)]
  omega

namespace Table

theorem offset_le_of_tightest? {modules : List Module} {candidate : Candidate}
    (found : tightest? ⟨modules⟩ address = some candidate) : candidate.offset ≤ address := by
  obtain ⟨_, part, _, _, own, _⟩ := leads_of_tightest? _ _ _ found
  exact Module.offset_le_of_candidate? own

theorem tightest?_of_clear {modules : List Module}
    (clear : Clear (symbols ⟨modules⟩) address later) :
    tightest? ⟨modules⟩ later =
      (tightest? ⟨modules⟩ address).map (Candidate.onward (later - address)) := by
  induction modules with
  | nil => rfl
  | cons part rest ih =>
      have own := Module.candidate?_of_clear
        (clear.of_subset (List.subset_append_left part.symbols (symbols ⟨rest⟩)))
      have others := ih (clear.of_subset (List.subset_append_right part.symbols (symbols ⟨rest⟩)))
      rw [tightest?_cons, tightest?_cons, own, others]
      -- No offset wraps around, for none exceeds the address and the distance makes up the rest.
      have room (candidate : Candidate) (short : candidate.offset ≤ address) :
          candidate.offset.toNat + (later - address).toNat < 2 ^ 64 := by
        have inside := later.toNat_lt
        have ordered := UInt64.le_iff_toNat_le.1 clear.le
        have offset := UInt64.le_iff_toNat_le.1 short
        rw [UInt64.toNat_sub_of_le _ _ clear.le]
        omega
      cases here : part.candidate? address with
      | none => rfl
      | some first =>
          cases behind : tightest? ⟨rest⟩ address with
          | none => rfl
          | some second =>
              have firstRoom := room first (Module.offset_le_of_candidate? here)
              have secondRoom := room second (offset_le_of_tightest? behind)
              simp only [Option.map_some, Candidate.tighter_some,
                Candidate.isTighterThan_onward secondRoom firstRoom]
              split <;> rfl

theorem lookup_of_clear (table : Table) (clear : Clear table.symbols address later) :
    table.lookup later = (table.lookup address).map fun answer =>
      { answer with offset := answer.offset + (later - address) } := by
  simp only [lookup, tightest?_of_clear clear, Option.map_map]
  rfl

theorem lookup_succ (table : Table) (address : Address) (bounded : address.toNat < 2 ^ 64 - 1)
    (free : ∀ symbol ∈ table.symbols, symbol.address ≠ address + 1) :
    (table.lookup (address + 1) = none ↔ table.lookup address = none) ∧
    ∀ answer, table.lookup address = some answer →
      ∃ onward, table.lookup (address + 1) = some onward ∧ onward.name = answer.name ∧
        onward.size = answer.size ∧ onward.offset.toNat = answer.offset.toNat + 1 := by
  have step : (address + 1) - address = 1 := by grind
  have shifted := table.lookup_of_clear (Clear.succ bounded free)
  rw [step] at shifted
  refine ⟨by rw [shifted, Option.map_eq_none_iff], ?_⟩
  intro answer answered
  have short : answer.offset ≤ address := by
    obtain ⟨candidate, tightest, rfl⟩ := Option.map_eq_some_iff.1 answered
    exact offset_le_of_tightest? tightest
  rw [UInt64.le_iff_toNat_le] at short
  refine ⟨{ answer with offset := answer.offset + 1 }, ?_, rfl, rfl, ?_⟩
  · rw [shifted, answered, Option.map_some]
  · rw [UInt64.toNat_add, UInt64.toNat_one]
    omega

def overlappingTable : Table :=
  ⟨[⟨none, [⟨"a".toList, 4⟩, ⟨"b".toList, 9⟩]⟩,
    ⟨some "m".toList, [⟨"c".toList, 4⟩, ⟨"d".toList, 8⟩]⟩]⟩

theorem lookup_succ_of_overlappingTable :
    (6 : Address).toNat < 2 ^ 64 - 1 ∧
      (∀ symbol ∈ overlappingTable.symbols, symbol.address ≠ 6 + 1) ∧
      overlappingTable.lookup 6 = some ⟨"m:c".toList, 2, 4⟩ ∧
      ∃ onward, overlappingTable.lookup (6 + 1) = some onward ∧ onward.name = "m:c".toList ∧
        onward.size = 4 ∧ onward.offset.toNat = 3 := by
  have bounded : (6 : Address).toNat < 2 ^ 64 - 1 := by decide
  have free : ∀ symbol ∈ overlappingTable.symbols, symbol.address ≠ 6 + 1 := by decide
  have answered : overlappingTable.lookup 6 = some ⟨"m:c".toList, 2, 4⟩ := by decide
  obtain ⟨_, shifts⟩ := lookup_succ overlappingTable 6 bounded free
  exact ⟨bounded, free, answered, shifts _ answered⟩

end Table

end Onward

end Symbolizer
