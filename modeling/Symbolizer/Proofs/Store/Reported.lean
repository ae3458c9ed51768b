import Symbolizer.Proofs.Store.Published
import Symbolizer.Proofs.Table.Runs
import Symbolizer.Proofs.Table.Shape

set_option autoImplicit false

namespace Symbolizer

theorem Table.moduleCount_le_symbolCount (modules : List Module)
    (occupied : ∀ part ∈ modules, part.symbols ≠ []) :
    moduleCount ⟨modules⟩ ≤ symbolCount ⟨modules⟩ := by
  simp only [moduleCount, symbolCount, symbols]
  induction modules with
  | nil => simp
  | cons part rest ih =>
      have own : 0 < part.symbols.length := List.length_pos_iff.2 (occupied part (by simp))
      have others := ih fun other member => occupied other (List.mem_cons_of_mem _ member)
      simp only [List.flatMap_cons, List.length_append, List.length_cons]
      omega

theorem buildLines_modules_eq_nil_iff (options : BuildOptions) (lines : List Text) :
    (buildLines options lines).table.modules = [] ↔ (buildLines options lines).symbols = 0 := by
  have counted : (buildLines options lines).symbols =
      (buildLines options lines).table.symbolCount := rfl
  have empty := (buildLines_shaped options lines).isEmpty_iff
  simpa [Table.isEmpty, counted] using empty

namespace Store

theorem report_eq_loaded_iff (outcome : BuildOutcome) (symbols modules : Nat) :
    report outcome = .loaded symbols modules ↔
      outcome.symbols ≠ 0 ∧ outcome.symbols = symbols ∧ outcome.modules = modules := by
  by_cases nothing : outcome.symbols = 0 <;> simp [report, nothing]

theorem report_eq_empty_iff (outcome : BuildOutcome) :
    report outcome = .empty ↔ outcome.symbols = 0 := by
  by_cases nothing : outcome.symbols = 0 <;> simp [report, nothing]

section Built

variable {store : Store} {source : Source}

theorem exists_lines_of_build {told : Report} (built : (store.build source).result = .ok told)
    (present : told ≠ .sourceAbsent) :
    ∃ stream lines, source.opening = .opened stream ∧ stream.readAll = (lines, none) ∧
      report (buildLines store.options lines) = told ∧
      (store.build source).store.published = (buildLines store.options lines).table := by
  rcases store.build_cases source with
    ⟨outcome, read, result, after⟩ | ⟨result, _⟩ | ⟨failure, _, _, result, _⟩
  · obtain ⟨stream, lines, opens, whole, rfl⟩ := (source.outcome_eq_ok_iff _ _).1 read
    refine ⟨stream, lines, opens, whole, ?_, by simp [after, publish]⟩
    simpa [result] using built
  · simp [result, present.symm] at built
  · simp [result] at built

theorem counts_of_loaded {symbols modules : Nat}
    (built : (store.build source).result = .ok (.loaded symbols modules)) :
    (store.build source).store.published.symbolCount = symbols ∧
      (store.build source).store.published.moduleCount = modules ∧
      1 ≤ modules ∧ modules ≤ symbols := by
  obtain ⟨stream, lines, _, _, told, published⟩ := exists_lines_of_build built (by simp)
  obtain ⟨occupied, rfl, rfl⟩ := (report_eq_loaded_iff _ _ _).1 told
  have some_module : 1 ≤ (buildLines store.options lines).table.modules.length := by
    simpa [Nat.one_le_iff_ne_zero, buildLines_modules_eq_nil_iff] using occupied
  have at_most := Table.moduleCount_le_symbolCount _
    (buildLines_shaped store.options lines).occupied
  simp only [published]
  exact ⟨rfl, rfl, some_module, at_most⟩

theorem nothing_of_empty (built : (store.build source).result = .ok .empty) :
    (∃ stream lines, source.opening = .opened stream ∧ stream.readAll = (lines, none) ∧
      Builder.kept { options := store.options } lines = []) ∧
    (store.build source).store.published.modules = [] := by
  obtain ⟨stream, lines, opens, read, told, published⟩ := exists_lines_of_build built (by simp)
  have no_symbol := (report_eq_empty_iff _).1 told
  have unkept : Builder.kept { options := store.options } lines = [] := by
    simpa [buildLines_symbols] using no_symbol
  have no_module := (buildLines_modules_eq_nil_iff _ _).2 no_symbol
  exact ⟨⟨stream, lines, opens, read, unkept⟩, by simpa [published] using no_module⟩

theorem nothing_of_sourceAbsent (built : (store.build source).result = .ok .sourceAbsent) :
    (store.build source).store.published.modules = [] := by
  rcases store.build_cases source with
    ⟨outcome, _, result, _⟩ | ⟨_, after⟩ | ⟨failure, _, _, result, _⟩
  · simp [result, report_ne_sourceAbsent] at built
  · simp [after, publish, Table.empty]
  · simp [result] at built

end Built

theorem build_report_agrees (store : Store) (source : Source) :
    let built := store.build source
    let table := built.store.published
    (∀ symbols modules, built.result = .ok (.loaded symbols modules) →
      table.symbolCount = symbols ∧ table.moduleCount = modules ∧
        1 ≤ modules ∧ modules ≤ symbols) ∧
    (built.result = .ok .empty →
      (∃ stream lines, source.opening = .opened stream ∧ stream.readAll = (lines, none) ∧
        Builder.kept { options := store.options } lines = []) ∧
      table.modules = []) ∧
    (built.result = .ok .sourceAbsent → table.modules = []) ∧
    (∀ told, built.result = .ok told →
      (table.isEmpty = true ↔ ∀ symbols modules, told ≠ .loaded symbols modules)) ∧
    ((∃ told, built.result = .ok told) ↔ source.opening = .absent ∨
      ∃ stream, source.opening = .opened stream ∧ stream.failure = none) ∧
    (built.result = .ok .sourceAbsent ↔ source.opening = .absent) := by
  intro built table
  refine ⟨fun symbols modules => counts_of_loaded, nothing_of_empty, nothing_of_sourceAbsent, ?_,
    store.build_ok_iff source, store.build_eq_sourceAbsent_iff source⟩
  intro told result
  have empty : table.isEmpty = true ↔ table.modules = [] := List.isEmpty_iff
  cases told with
  | loaded symbols modules =>
      obtain ⟨_, count, some_module, _⟩ := counts_of_loaded result
      have positive : 0 < table.moduleCount := Nat.lt_of_lt_of_eq some_module count.symm
      have occupied : table.modules ≠ [] := List.ne_nil_of_length_pos positive
      simp [empty, occupied]
  | empty =>
      have nothing := (nothing_of_empty result).2
      simpa [empty] using nothing
  | sourceAbsent =>
      have nothing := nothing_of_sourceAbsent result
      simpa [empty] using nothing

end Store

end Symbolizer
