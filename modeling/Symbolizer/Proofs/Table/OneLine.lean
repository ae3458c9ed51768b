import Symbolizer.Proofs.Source.Lines
import Symbolizer.Proofs.Table.Runs

set_option autoImplicit false

namespace Symbolizer

structure Module.OneLine (part : Module) : Prop where
  name : ∀ name ∈ part.name, '\n' ∉ name
  symbols : ∀ symbol ∈ part.symbols, '\n' ∉ symbol.name

def Table.OneLine (table : Table) : Prop :=
  ∀ part ∈ table.modules, part.OneLine

namespace Text

theorem trimEnd_prefix (text : Text) : trimEnd text <+: text := by
  have kept := List.dropWhile_suffix isBlank (l := text.reverse)
  simpa [trimEnd] using List.reverse_prefix.2 kept

theorem pieces_of_cut? {separator : Char} {text before after : Text}
    (cut : cut? separator text = some (before, after)) : before <:+: text ∧ after <:+: text := by
  obtain ⟨rfl, _⟩ := (cut?_eq_some_iff separator text before after).1 cut
  exact ⟨(List.prefix_append _ _).isInfix,
    ((List.suffix_cons _ _).trans (List.suffix_append _ _)).isInfix⟩

theorem notMem_of_mem_splitOn (separator : Char) (text : Text) :
    ∀ piece ∈ text.splitOn separator, separator ∉ piece := by
  induction text with
  | nil => simp
  | cons head rest ih =>
      rw [List.splitOn_cons_eq_if_modifyHead]
      by_cases same : head = separator
      · simpa [same] using ih
      · obtain ⟨piece, pieces, parts⟩ :=
          List.exists_cons_of_ne_nil (List.splitOn_ne_nil separator rest)
        rw [parts, List.forall_mem_cons] at ih
        simpa [same, parts, Ne.symm same] using ih

theorem newline_notMem_of_mem_lines (text : Text) : ∀ line ∈ lines text, '\n' ∉ line := by
  intro line member
  apply notMem_of_mem_splitOn '\n' text line
  simp only [lines] at member
  split at member
  · exact List.dropLast_subset _ member
  · exact member

end Text

namespace Entry

theorem splitOwner_pieces (line : Text) :
    (splitOwner line).1 <:+: line ∧ ∀ owner ∈ (splitOwner line).2, owner <:+: line := by
  unfold splitOwner
  cases opened : Text.cut? '[' line with
  | none => simp
  | some parts =>
      obtain ⟨described, bracketed⟩ := Text.pieces_of_cut? opened
      refine ⟨(Text.trimEnd_prefix _).isInfix.trans described, ?_⟩
      cases closed : Text.cut? ']' parts.2 with
      | none => simpa [closed] using bracketed
      | some pieces => simpa [closed] using (Text.pieces_of_cut? closed).1.trans bracketed

theorem describe?_piece (described name : Text) (address : Address)
    (read : describe? described = some (address, name)) : name <:+: described := by
  unfold describe? at read
  cases cut : Text.cut? ' ' described with
  | none => simp [cut] at read
  | some parts =>
      obtain ⟨dropped, rfl⟩ : Text.dropBytes? 2 parts.2 = some name ∧ _ = address := by
        simpa [cut, and_comm] using read
      obtain ⟨before, whole, _⟩ := Text.dropBytes?_eq_some 2 parts.2 name dropped
      have behind := (Text.pieces_of_cut? cut).2
      exact (whole ▸ List.suffix_append before name).isInfix.trans behind

theorem parse?_pieces (line : Text) (entry : Entry) (parsed : parse? line = some entry) :
    entry.name <:+: line ∧ ∀ owner ∈ entry.owner, owner <:+: line := by
  obtain ⟨described, read, rfl⟩ := Option.map_eq_some_iff.1 parsed
  have parts := splitOwner_pieces line
  exact ⟨(describe?_piece _ _ _ read).trans parts.1, parts.2⟩

end Entry

theorem Builder.exists_line_of_mem_kept (builder : Builder) (lines : List Text) (entry : Entry)
    (member : entry ∈ builder.kept lines) : ∃ line ∈ lines, Entry.parse? line = some entry := by
  induction lines generalizing builder with
  | nil => simp [kept, verdicts] at member
  | cons line rest ih =>
      rw [kept_cons, List.mem_append, Option.mem_toList] at member
      rcases member with here | later
      · have kept := (judge_kept?_eq_some_iff builder line entry).1 here
        exact ⟨line, by simp, ((judge_eq_kept_iff builder line entry).1 kept).1⟩
      · obtain ⟨other, inside, parsed⟩ := ih _ later
        exact ⟨other, List.mem_cons_of_mem _ inside, parsed⟩

theorem Module.oneLine_sorted_ofRun (run : List Entry)
    (name : ∀ entry ∈ run, '\n' ∉ entry.name)
    (owner : ∀ entry ∈ run, ∀ owner ∈ entry.owner, '\n' ∉ owner) : (ofRun run).sorted.OneLine where
  name := by
    intro text named
    cases run with
    | nil => simp [ofRun] at named
    | cons entry rest => exact owner entry (by simp) text (by simpa [ofRun] using named)
  symbols := by
    intro symbol member
    obtain ⟨entry, inside, rfl⟩ := List.mem_map.1 ((ofRun run).sorted_perm.mem_iff.1 member)
    exact name entry inside

theorem buildLines_oneLine (options : BuildOptions) (lines : List Text)
    (closed : ∀ line ∈ lines, '\n' ∉ line) : (buildLines options lines).table.OneLine := by
  have pieces : ∀ entry ∈ Builder.kept { options } lines,
      '\n' ∉ entry.name ∧ ∀ owner ∈ entry.owner, '\n' ∉ owner := by
    intro entry member
    obtain ⟨line, inside, parsed⟩ := Builder.exists_line_of_mem_kept _ _ _ member
    obtain ⟨name, owners⟩ := Entry.parse?_pieces line entry parsed
    refine ⟨fun broken => closed line inside (name.subset broken), fun owner owned broken => ?_⟩
    exact closed line inside ((owners owner owned).subset broken)
  rw [Table.OneLine, buildLines_modules, List.forall_mem_map]
  intro run member
  have whole : ∀ entry ∈ run, entry ∈ Builder.kept { options } lines := by
    rw [← (runs_maximal (Builder.kept { options } lines)).whole]
    exact fun entry inside => List.mem_flatten_of_mem member inside
  exact Module.oneLine_sorted_ofRun run (fun entry inside => (pieces entry (whole entry inside)).1)
    fun entry inside => (pieces entry (whole entry inside)).2

theorem Source.oneLine_of_outcome (options : BuildOptions) (source : Source)
    (outcome : BuildOutcome) (built : source.outcome options = .ok outcome) :
    outcome.table.OneLine := by
  obtain ⟨stream, lines, _, read, rfl⟩ := (source.outcome_eq_ok_iff options outcome).1 built
  apply buildLines_oneLine
  rw [Stream.eq_lines_of_readAll read]
  exact Text.newline_notMem_of_mem_lines _

end Symbolizer
