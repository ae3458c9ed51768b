import Symbolizer.Proofs.Lookup.Interval
import Symbolizer.Proofs.Lookup.Tightest

set_option autoImplicit false

namespace Symbolizer

theorem tightest?_of_runs (entries : List Entry) (address : Address) (candidate : Candidate)
    (found : Table.tightest? ⟨(runs entries).map fun run => (Module.ofRun run).sorted⟩ address =
      some candidate) :
    ∃ earlier run later, runs entries = earlier ++ run :: later ∧
      Answers run address candidate ∧
      (∀ other ∈ earlier, ∀ rival, Answers other address rival →
        candidate.isTighterThan rival = true) ∧
      ∀ other ∈ later, ∀ rival, Answers other address rival →
        ¬rival.isTighterThan candidate = true := by
  obtain ⟨before, _, behind, split, wins, ahead, follow⟩ := Table.leads_of_tightest? _ _ _ found
  obtain ⟨earlier, rest, whole, rfl, tail⟩ := List.map_eq_append_iff.1 split
  obtain ⟨run, later, rfl, rfl, rfl⟩ := List.map_eq_cons_iff.1 tail
  have uniform := (runs_maximal entries).uniform
  rw [whole] at uniform
  refine ⟨earlier, run, later, whole, ?_, ?_, ?_⟩
  · exact (Module.candidate?_sorted_ofRun (uniform run (by simp)) address candidate).1 wins
  · intro other member rival answers
    apply ahead _ (List.mem_map_of_mem member) rival
    exact (Module.candidate?_sorted_ofRun (uniform other (by simp [member])) address rival).2
      answers
  · intro other member rival answers
    apply follow _ (List.mem_map_of_mem member) rival
    exact (Module.candidate?_sorted_ofRun (uniform other (by simp [member])) address rival).2
      answers

theorem lookup_buildLines_eq_none_iff (options : BuildOptions) (lines : List Text)
    (address : Address) :
    (buildLines options lines).table.lookup address = none ↔
      ∀ run ∈ runs (Builder.kept { options } lines), ¬Encloses run address := by
  rw [Table.lookup_eq_none_iff, buildLines_modules, List.forall_mem_map]
  apply forall₂_congr
  intro run member
  exact Module.candidate?_eq_none_iff ((runs_maximal _).uniform run member) address

theorem lookup_buildLines (options : BuildOptions) (lines : List Text) (address : Address) :
    ((buildLines options lines).table.lookup address = none ↔
      ∀ run ∈ runs (Builder.kept { options } lines), ¬Encloses run address) ∧
    ∀ answer, (buildLines options lines).table.lookup address = some answer →
      ∃ earlier run later base next entry,
        runs (Builder.kept { options } lines) = earlier ++ run :: later ∧
        Spans run address base next ∧ lastAt? run base = some entry ∧
        answer.offset = address - base ∧ answer.size = next - base ∧
        answer.name = Text.takeBytes nameLimit
          (match entry.owner with
          | some owner => owner ++ ':' :: entry.name
          | none => entry.name) ∧
        (∀ other ∈ earlier, Encloses other address →
          ∃ base' next', Spans other address base' next' ∧
            (answer.offset < address - base' ∨
              answer.offset = address - base' ∧ answer.size < next' - base')) ∧
        ∀ other ∈ later, Encloses other address →
          ∃ base' next', Spans other address base' next' ∧
            (answer.offset < address - base' ∨
              answer.offset = address - base' ∧ answer.size ≤ next' - base') := by
  refine ⟨lookup_buildLines_eq_none_iff options lines address, ?_⟩
  intro answer answered
  obtain ⟨candidate, found, rfl⟩ := Option.map_eq_some_iff.1 answered
  have sorted : (buildLines options lines).table =
      ⟨(runs (Builder.kept { options } lines)).map fun run => (Module.ofRun run).sorted⟩ := by
    rw [← buildLines_modules]
  rw [sorted] at found
  obtain ⟨earlier, run, later, whole, answers, ahead, behind⟩ := tightest?_of_runs _ _ _ found
  obtain ⟨base, next, entry, spans, last, rfl⟩ := answers
  have uniform := (runs_maximal (Builder.kept { options } lines)).uniform
  rw [whole] at uniform
  refine ⟨earlier, run, later, base, next, entry, whole, spans, last, rfl, rfl, ?_, ?_, ?_⟩
  · cases named : entry.owner <;> simp [Candidate.resolved, Candidate.fullName]
  · intro other member encloses
    obtain ⟨rival, answers⟩ := encloses.answers (uniform other (by simp [member]))
    have beaten := (Candidate.isTighterThan_iff _ _).1 (ahead other member rival answers)
    obtain ⟨base', next', _, otherSpans, _, rfl⟩ := answers
    exact ⟨base', next', otherSpans, beaten⟩
  · intro other member encloses
    obtain ⟨rival, answers⟩ := encloses.answers (uniform other (by simp [member]))
    have unbeaten := (Candidate.not_isTighterThan_iff _ _).1 (behind other member rival answers)
    obtain ⟨base', next', _, otherSpans, _, rfl⟩ := answers
    exact ⟨base', next', otherSpans, unbeaten⟩

end Symbolizer
