import Mathlib.Logic.ExistsUnique
import Symbolizer.Proofs.Lookup.Tightest

set_option autoImplicit false

namespace Symbolizer

def Resolved.IsTighterThan (answer other : Resolved) : Prop :=
  answer.offset < other.offset ∨ answer.offset = other.offset ∧ answer.size < other.size

def Module.Attains (part : Module) (address : Address) (answer : Resolved) : Prop :=
  ∃ candidate, part.candidate? address = some candidate ∧
    candidate.offset = answer.offset ∧ candidate.size = answer.size

namespace Candidate

theorem eq_of_not_isTighterThan {candidate other : Candidate}
    (unbeaten : ¬other.isTighterThan candidate = true)
    (otherUnbeaten : ¬candidate.isTighterThan other = true) :
    candidate.offset = other.offset ∧ candidate.size = other.size := by
  rw [not_isTighterThan_iff] at unbeaten otherUnbeaten
  grind

theorem not_isTighterThan_of_isTighterThan {candidate other : Candidate}
    (tighter : candidate.isTighterThan other = true) : ¬other.isTighterThan candidate = true := by
  rw [isTighterThan_iff] at tighter
  rw [not_isTighterThan_iff]
  grind

theorem not_isTighterThan_self (candidate : Candidate) :
    ¬candidate.isTighterThan candidate = true := by
  simp [isTighterThan]

end Candidate

namespace Table

section Append

variable {earlier later : List Module} {address : Address}

def Overtakes (earlier later : List Module) (address : Address) : Prop :=
  ∃ answer, lookup ⟨later⟩ address = some answer ∧
    ∀ other, lookup ⟨earlier⟩ address = some other → answer.IsTighterThan other

theorem lookup_append_of_overtakes (overtakes : Overtakes earlier later address) :
    lookup ⟨earlier ++ later⟩ address = lookup ⟨later⟩ address := by
  obtain ⟨answer, answered, tighter⟩ := overtakes
  rw [lookup_append, answered]
  cases first : lookup ⟨earlier⟩ address with
  | none => rfl
  | some other => exact if_pos (tighter other first)

theorem lookup_append_of_not_overtakes (behind : ¬Overtakes earlier later address) :
    lookup ⟨earlier ++ later⟩ address = lookup ⟨earlier⟩ address := by
  rw [lookup_append]
  cases second : lookup ⟨later⟩ address with
  | none => cases lookup ⟨earlier⟩ address <;> rfl
  | some answer =>
      cases first : lookup ⟨earlier⟩ address with
      | none => exact absurd ⟨answer, second, by simp [first]⟩ behind
      | some other =>
          apply if_neg
          intro tighter
          apply behind
          refine ⟨answer, second, ?_⟩
          intro same found
          rw [first, Option.some.injEq] at found
          exact found ▸ tighter

end Append

section Reordered

variable {modules others : List Module} {address : Address}

theorem exists_of_tightest? {candidate : Candidate}
    (found : tightest? ⟨modules⟩ address = some candidate) :
    ∃ part ∈ modules, part.candidate? address = some candidate := by
  obtain ⟨_, part, _, rfl, own, _⟩ := leads_of_tightest? _ _ _ found
  exact ⟨part, by simp, own⟩

theorem unbeaten_of_tightest? {candidate : Candidate}
    (found : tightest? ⟨modules⟩ address = some candidate) (part : Module)
    (member : part ∈ modules) (rival : Candidate) (rivals : part.candidate? address = some rival) :
    ¬rival.isTighterThan candidate = true := by
  obtain ⟨earlier, winner, later, rfl, own, ahead, behind⟩ := leads_of_tightest? _ _ _ found
  rcases List.mem_append.1 member with before | atOrAfter
  · exact Candidate.not_isTighterThan_of_isTighterThan (ahead part before rival rivals)
  · rcases List.mem_cons.1 atOrAfter with rfl | after
    · rw [← Option.some.inj (own.symm.trans rivals)]
      exact candidate.not_isTighterThan_self
    · exact behind part after rival rivals

variable (perm : others.Perm modules)

include perm

theorem tightest?_eq_none_iff_of_perm :
    tightest? ⟨others⟩ address = none ↔ tightest? ⟨modules⟩ address = none := by
  rw [tightest?_eq_none_iff, tightest?_eq_none_iff]
  exact forall_congr' fun part => by rw [perm.mem_iff]

theorem same_extent_of_perm {candidate other : Candidate}
    (found : tightest? ⟨modules⟩ address = some candidate)
    (otherFound : tightest? ⟨others⟩ address = some other) :
    candidate.offset = other.offset ∧ candidate.size = other.size := by
  -- Each of the two wins among the same modules, so neither is tighter than the other.
  obtain ⟨part, member, own⟩ := exists_of_tightest? found
  obtain ⟨otherPart, otherMember, otherOwn⟩ := exists_of_tightest? otherFound
  apply Candidate.eq_of_not_isTighterThan
  · exact unbeaten_of_tightest? found otherPart (perm.mem_iff.1 otherMember) other otherOwn
  · exact unbeaten_of_tightest? otherFound part (perm.mem_iff.2 member) candidate own

theorem tightest?_of_perm_of_single {candidate other : Candidate}
    (found : tightest? ⟨modules⟩ address = some candidate)
    (otherFound : tightest? ⟨others⟩ address = some other)
    (single : ∃! part, part ∈ modules ∧ part.Attains address candidate.resolved) :
    other = candidate := by
  obtain ⟨part, member, own⟩ := exists_of_tightest? found
  obtain ⟨otherPart, otherMember, otherOwn⟩ := exists_of_tightest? otherFound
  obtain ⟨offset, size⟩ := same_extent_of_perm perm found otherFound
  have same : otherPart = part := single.unique
    ⟨perm.mem_iff.1 otherMember, other, otherOwn, offset.symm, size.symm⟩
    ⟨member, candidate, own, rfl, rfl⟩
  rw [same] at otherOwn
  exact Option.some.inj (otherOwn.symm.trans own)

end Reordered

theorem moduleOrder_decides_ties_only (table : Table) (address : Address) :
    (∀ earlier later, table.modules = earlier ++ later →
      (Overtakes earlier later address → table.lookup address = lookup ⟨later⟩ address) ∧
      (¬Overtakes earlier later address → table.lookup address = lookup ⟨earlier⟩ address)) ∧
    ∀ others : List Module, others.Perm table.modules →
      (lookup ⟨others⟩ address = none ↔ table.lookup address = none) ∧
      ∀ answer, table.lookup address = some answer →
        ∃ other, lookup ⟨others⟩ address = some other ∧
          other.offset = answer.offset ∧ other.size = answer.size ∧
          ((∃! part, part ∈ table.modules ∧ part.Attains address answer) →
            other.name = answer.name) := by
  constructor
  · intro earlier later split
    have whole : table = ⟨earlier ++ later⟩ := by rw [← split]
    rw [whole]
    exact ⟨lookup_append_of_overtakes, lookup_append_of_not_overtakes⟩
  · intro others perm
    have silent : tightest? ⟨others⟩ address = none ↔ tightest? table address = none :=
      tightest?_eq_none_iff_of_perm perm
    refine ⟨?_, ?_⟩
    · simpa only [lookup, Option.map_eq_none_iff] using silent
    · intro answer answered
      obtain ⟨candidate, found, rfl⟩ := Option.map_eq_some_iff.1 answered
      cases otherFound : tightest? ⟨others⟩ address with
      | none => simp [silent.1 otherFound] at found
      | some other =>
          obtain ⟨offset, size⟩ := same_extent_of_perm perm found otherFound
          refine ⟨other.resolved, ?_, offset.symm, size.symm, ?_⟩
          · rw [lookup, otherFound, Option.map_some]
          · intro single
            rw [tightest?_of_perm_of_single perm found otherFound single]

-- Of two modules that tie the earlier one answers.
example :
    let part (name : String) : Module := ⟨some name.toList, [⟨['a'], 4⟩, ⟨['b'], 9⟩]⟩
    lookup ⟨[part "m", part "n"]⟩ 6 = some ⟨"m:a".toList, 2, 5⟩ ∧
      lookup ⟨[part "n", part "m"]⟩ 6 = some ⟨"n:a".toList, 2, 5⟩ := by
  decide

end Table

end Symbolizer
