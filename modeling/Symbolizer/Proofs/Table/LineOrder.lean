import Mathlib.Data.List.Forall2
import Symbolizer.Proofs.Table.Shape

set_option autoImplicit false

namespace Symbolizer

/-- The symbols of each address in the same order; across addresses the order may differ. -/
def SameTies (left right : List Symbol) : Prop :=
  ∀ address : Address,
    left.filter (·.address == address) = right.filter (·.address == address)

namespace SameTies

variable {left right : List Symbol}

theorem symm (ties : SameTies left right) : SameTies right left :=
  fun address => (ties address).symm

theorem subset (ties : SameTies left right) : left ⊆ right := by
  intro symbol member
  have inside : symbol ∈ left.filter (·.address == symbol.address) := by simpa using member
  rw [ties symbol.address] at inside
  exact (List.mem_filter.1 inside).1

theorem of_cons {first : Symbol} (ties : SameTies (first :: left) (first :: right)) :
    SameTies left right := by
  intro address
  have same := ties address
  by_cases here : first.address = address <;> simpa [here] using same

theorem append {left' right' : List Symbol} (ties : SameTies left right)
    (ties' : SameTies left' right') : SameTies (left ++ left') (right ++ right') := by
  intro address
  rw [List.filter_append, List.filter_append, ties address, ties' address]

theorem reverse (ties : SameTies left right) : SameTies left.reverse right.reverse := by
  intro address
  rw [List.filter_reverse, List.filter_reverse, ties address]

theorem eq_of_ascending (ties : SameTies left right)
    (leftAscending : left.Pairwise fun first second => first.address ≤ second.address)
    (rightAscending : right.Pairwise fun first second => first.address ≤ second.address) :
    left = right := by
  induction left generalizing right with
  | nil => exact (List.subset_nil.1 ties.symm.subset).symm
  | cons first rest ih =>
      cases right with
      | nil => exact List.subset_nil.1 ties.subset
      | cons other others =>
          have low : first.address ≤ other.address := by
            rcases List.mem_cons.1 (ties.symm.subset (List.mem_cons_self ..)) with rfl | later
            · exact UInt64.le_refl _
            · exact List.rel_of_pairwise_cons leftAscending later
          have high : other.address ≤ first.address := by
            rcases List.mem_cons.1 (ties.subset (List.mem_cons_self ..)) with rfl | later
            · exact UInt64.le_refl _
            · exact List.rel_of_pairwise_cons rightAscending later
          have level : other.address = first.address := UInt64.le_antisymm high low
          -- Both lists begin with the least address, hence with the first symbol that has it.
          have same : first = other := by
            have heads := ties first.address
            simp only [List.filter_cons, level, beq_self_eq_true, if_true, List.cons.injEq] at heads
            exact heads.1
          subst same
          rw [ih ties.of_cons leftAscending.of_cons rightAscending.of_cons]

end SameTies

namespace Module

structure Alike (left right : Module) : Prop where
  name : left.name = right.name
  ties : SameTies left.symbols right.symbols

theorem Alike.refl (part : Module) : part.Alike part :=
  ⟨rfl, fun _ => rfl⟩

theorem Alike.sorted_eq {left right : Module} (alike : left.Alike right) :
    left.sorted = right.sorted := by
  have symbols : left.sorted.symbols = right.sorted.symbols := by
    apply SameTies.eq_of_ascending ?_ left.sorted_ascending right.sorted_ascending
    intro address
    rw [left.sorted_filter_address, right.sorted_filter_address, alike.ties address]
  have whole (part : Module) : part.sorted = ⟨part.name, part.sorted.symbols⟩ := rfl
  rw [whole left, whole right, alike.name, symbols]

end Module

namespace Builder

/-- Builders that judge every further line alike and finish with the same table. -/
structure Alike (left right : Builder) : Prop where
  options : left.options = right.options
  seenNamed : left.seenNamed = right.seenNamed
  skipped : left.skipped = right.skipped
  begun : List.Forall₂ Module.Alike left.begun right.begun

theorem judge_eq_of_state {left right : Builder} (options : left.options = right.options)
    (seenNamed : left.seenNamed = right.seenNamed) (line : Text) :
    left.judge line = right.judge line := by
  rw [judge, judge, options, seenNamed]

theorem forall₂_alike_refl (begun : List Module) : List.Forall₂ Module.Alike begun begun :=
  List.forall₂_same.2 fun part _ => Module.Alike.refl part

theorem addTo_alike (entry : Entry) {left right : List Module}
    (alike : List.Forall₂ Module.Alike left right) :
    List.Forall₂ Module.Alike (addTo entry left) (addTo entry right) := by
  cases alike with
  | nil => exact forall₂_alike_refl _
  | @cons latest other earlier others head tail =>
      by_cases same : latest.name = entry.owner
      · have otherSame : other.name = entry.owner := head.name.symm.trans same
        simp only [addTo, same, otherSame, if_true]
        refine .cons ⟨rfl, ?_⟩ tail
        have added : SameTies [entry.symbol] [entry.symbol] := fun _ => rfl
        exact added.append head.ties
      · have otherApart : ¬other.name = entry.owner := head.name ▸ same
        simp only [addTo, same, otherApart, if_false]
        exact .cons (Module.Alike.refl _) (.cons head tail)

theorem push_alike (left right : Builder) (line : Text) (alike : Alike left right) :
    Alike (left.push line) (right.push line) := by
  have judged := judge_eq_of_state alike.options alike.seenNamed line
  constructor
  · rw [push_options, push_options, alike.options]
  · rw [push_seenNamed, push_seenNamed, alike.seenNamed]
  · rw [push_skipped, push_skipped, judged, alike.skipped]
  · rw [push_begun, push_begun, judged]
    cases (right.judge line).kept? with
    | none => exact alike.begun
    | some entry => exact addTo_alike entry alike.begun

theorem pushAll_alike (left right : Builder) (lines : List Text) (alike : Alike left right) :
    Alike (left.pushAll lines) (right.pushAll lines) := by
  induction lines generalizing left right with
  | nil => exact alike
  | cons line rest ih => exact ih _ _ (push_alike left right line alike)

theorem inOrder_sorted_of_alike {left right : List Module}
    (alike : List.Forall₂ Module.Alike left right) :
    (inOrder left).map Module.sorted = (inOrder right).map Module.sorted := by
  induction alike with
  | nil => rfl
  | @cons latest other earlier others head _ ih =>
      have same : Module.Alike { latest with symbols := latest.symbols.reverse }
          { other with symbols := other.symbols.reverse } :=
        ⟨head.name, head.ties.reverse⟩
      simp only [inOrder, List.reverse_cons, List.map_append, List.map_cons, List.map_nil,
        same.sorted_eq]
      exact congrArg (· ++ _) ih

theorem finish_eq_of_alike (left right : Builder) (alike : Alike left right) :
    left.finish = right.finish := by
  simp only [finish, inOrder_sorted_of_alike alike.begun, alike.skipped]

end Builder

def Entry.ofOwner? (owner : Option Text) (line : Text) : Option Entry :=
  (Entry.parse? line).filter (·.owner == owner)

def Entry.standsAt (owner : Option Text) (address : Address) (line : Text) : Bool :=
  (Entry.ofOwner? owner line).any (·.address == address)

theorem sameTies_of_filter_standsAt {owner : Option Text} {lines others : List Text}
    (ties : ∀ address, lines.filter (Entry.standsAt owner address) =
      others.filter (Entry.standsAt owner address)) :
    SameTies ((lines.filterMap (Entry.ofOwner? owner)).map Entry.symbol)
      ((others.filterMap (Entry.ofOwner? owner)).map Entry.symbol) := by
  have told (address : Address) (texts : List Text) :
      ((texts.filterMap (Entry.ofOwner? owner)).map Entry.symbol).filter (·.address == address) =
        ((texts.filter (Entry.standsAt owner address)).filterMap (Entry.ofOwner? owner)).map
          Entry.symbol := by
    induction texts with
    | nil => rfl
    | cons line rest ih =>
        cases found : Entry.ofOwner? owner line with
        | none => simpa [Entry.standsAt, found] using ih
        | some entry =>
            by_cases here : entry.address = address <;> simpa [Entry.standsAt, found, here] using ih
  intro address
  rw [told, told, ties address]

/-- The first line is one of the run, so behind it no line without an owner is kept in the run of a
named module. -/
structure WithinRun (owner : Option Text) (lines : List Text) : Prop where
  begins : ∃ first rest entry, lines = first :: rest ∧ Entry.parse? first = some entry ∧
    entry.owner = owner
  inside : ∀ line ∈ lines, ∀ entry, Entry.parse? line = some entry →
    entry.owner = owner ∨ entry.owner = none

namespace Builder

def admits (builder : Builder) (owner : Option Text) : Bool :=
  owner.isSome || !(builder.seenNamed || builder.options.skipBaseKernel)

theorem judge_kept?_eq (builder : Builder) (line : Text) :
    (builder.judge line).kept? =
      (Entry.parse? line).filter fun entry => builder.admits entry.owner := by
  apply Option.ext
  intro entry
  rw [judge_kept?_eq_some_iff, judge_eq_kept_iff_unfiltered, Option.filter_eq_some_iff]
  apply and_congr_right
  intro _
  cases entry.owner <;> simp [admits, and_comm]

theorem kept_of_steady (builder : Builder) (lines : List Text)
    (steady : ∀ line ∈ lines, namesOwner line = true → builder.seenNamed = true) :
    builder.kept lines = lines.filterMap fun line => (builder.judge line).kept? := by
  induction lines generalizing builder with
  | nil => rfl
  | cons line rest ih =>
      rw [List.forall_mem_cons] at steady
      have same : (builder.push line).seenNamed = builder.seenNamed := by
        rw [push_seenNamed]
        cases named : namesOwner line with
        | false => simp
        | true => simp [steady.1 named]
      have onward := ih (builder.push line) fun next member named =>
        same.trans (steady.2 next member named)
      have judged := judge_eq_of_state (push_options builder line) same
      rw [kept_cons, onward, List.filterMap_cons]
      simp only [judged]
      cases (builder.judge line).kept? <;> rfl

theorem kept_withinRun (builder : Builder) {owner : Option Text} {lines : List Text}
    (within : WithinRun owner lines) :
    builder.kept lines =
      if builder.admits owner then lines.filterMap (Entry.ofOwner? owner) else [] := by
  cases owner with
  | none =>
      -- No line here names an owner, so the filter stays as the builder has it.
      have unowned : ∀ line ∈ lines, ∀ entry, Entry.parse? line = some entry →
          entry.owner = none := by simpa using within.inside
      have steady : ∀ line ∈ lines, namesOwner line = true → builder.seenNamed = true := by
        intro line member named
        simp only [namesOwner, Bool.and_eq_true, List.contains_iff_mem,
          Option.isSome_iff_exists] at named
        obtain ⟨bracket, entry, parsed⟩ := named
        have owned := (Entry.parse?_owner_isSome line entry parsed).2 bracket
        simp [unowned line member entry parsed] at owned
      rw [kept_of_steady builder lines steady]
      split
      next admits =>
        apply List.filterMap_congr
        intro line member
        rw [judge_kept?_eq, Entry.ofOwner?]
        cases parsed : Entry.parse? line with
        | none => rfl
        | some entry => simp [Option.filter_some, unowned line member entry parsed, admits]
      next bars =>
        apply List.filterMap_eq_nil_iff.2
        intro line member
        rw [judge_kept?_eq, Option.filter_eq_none_iff]
        intro entry parsed
        simpa [unowned line member entry parsed] using bars
  | some name =>
      -- The first line is kept and opens a named module; from then on only bracketed lines pass.
      obtain ⟨first, rest, entry, rfl, parsed, owned⟩ := within.begins
      have admitted : builder.admits (some name) = true := rfl
      have kept : (builder.judge first).kept? = Entry.ofOwner? (some name) first := by
        simp [judge_kept?_eq, Entry.ofOwner?, parsed, owned, admitted, Option.filter_some]
      have seen : (builder.push first).seenNamed = true := by
        have bracket := (Entry.parse?_owner_isSome first entry parsed).1 (by simp [owned])
        simp [push_seenNamed, namesOwner, parsed, bracket]
      have others : rest.filterMap (fun line => ((builder.push first).judge line).kept?) =
          rest.filterMap (Entry.ofOwner? (some name)) := by
        apply List.filterMap_congr
        intro line member
        rw [judge_kept?_eq, Entry.ofOwner?]
        cases nextParsed : Entry.parse? line with
        | none => rfl
        | some next =>
            have known := within.inside line (List.mem_cons_of_mem _ member) next nextParsed
            rcases known with same | none
            · simp [Option.filter_some, admits, same]
            · simp [Option.filter_some, admits, none, seen]
      rw [kept_cons, kept_of_steady _ rest fun _ _ _ => seen, others, kept, if_pos admitted,
        List.filterMap_cons]
      cases Entry.ofOwner? (some name) first <;> rfl

theorem exists_latest (owner : Option Text) (begun : List Module) :
    ∃ latest earlier, ∀ entry : Entry, entry.owner = owner →
      addTo entry begun =
        { name := owner, symbols := entry.symbol :: latest } :: earlier := by
  cases begun with
  | nil => exact ⟨[], [], fun entry owned => by simp [addTo, owned]⟩
  | cons latest earlier =>
      by_cases same : latest.name = owner
      · exact ⟨latest.symbols, earlier, fun entry owned => by simp [addTo, owned, same]⟩
      · exact ⟨[], latest :: earlier, fun entry owned => by simp [addTo, owned, same]⟩

theorem foldl_addTo_latest {owner : Option Text} {entries : List Entry}
    (owned : ∀ entry ∈ entries, entry.owner = owner) (symbols : List Symbol)
    (earlier : List Module) :
    entries.foldl (fun begun entry => addTo entry begun) (⟨owner, symbols⟩ :: earlier) =
      ⟨owner, (entries.map Entry.symbol).reverse ++ symbols⟩ :: earlier := by
  induction entries generalizing symbols with
  | nil => rfl
  | cons entry rest ih =>
      rw [List.forall_mem_cons] at owned
      have here : addTo entry (⟨owner, symbols⟩ :: earlier) =
          ⟨owner, entry.symbol :: symbols⟩ :: earlier := by simp [addTo, owned.1]
      rw [List.foldl_cons, here, ih owned.2]
      simp

theorem foldl_addTo_alike {owner : Option Text} {entries others : List Entry}
    (owned : ∀ entry ∈ entries, entry.owner = owner)
    (othersOwned : ∀ entry ∈ others, entry.owner = owner)
    (ties : SameTies (entries.map Entry.symbol) (others.map Entry.symbol))
    (begun : List Module) :
    List.Forall₂ Module.Alike (entries.foldl (fun begun entry => addTo entry begun) begun)
      (others.foldl (fun begun entry => addTo entry begun) begun) := by
  cases entries with
  | nil =>
      obtain rfl : others = [] := by simpa using ties.symm.subset
      exact forall₂_alike_refl begun
  | cons entry rest =>
      cases others with
      | nil => simpa using ties.subset
      | cons other rest' =>
          rw [List.forall_mem_cons] at owned othersOwned
          obtain ⟨latest, earlier, added⟩ := exists_latest owner begun
          rw [List.foldl_cons, List.foldl_cons, added entry owned.1, added other othersOwned.1,
            foldl_addTo_latest owned.2, foldl_addTo_latest othersOwned.2]
          refine .cons ⟨rfl, ?_⟩ (forall₂_alike_refl earlier)
          have tail : SameTies latest latest := fun _ => rfl
          have both := ties.reverse.append tail
          simpa using both

section Reordered

variable {owner : Option Text} {run reordered : List Text} (within : WithinRun owner run)
  (withinReordered : WithinRun owner reordered) (perm : reordered.Perm run)
  (ties : ∀ address, reordered.filter (Entry.standsAt owner address) =
    run.filter (Entry.standsAt owner address))

include within withinReordered perm ties

theorem pushAll_alike_of_reordered (builder : Builder) :
    Alike (builder.pushAll reordered) (builder.pushAll run) := by
  have kept := builder.kept_withinRun within
  have keptReordered := builder.kept_withinRun withinReordered
  constructor
  · rw [pushAll_options, pushAll_options]
  · rw [pushAll_seenNamed, pushAll_seenNamed, perm.any_eq]
  · have skipped := builder.pushAll_skipped_add_kept run
    have skippedReordered := builder.pushAll_skipped_add_kept reordered
    have lengths : (builder.kept reordered).length = (builder.kept run).length := by
      rw [kept, keptReordered]
      split
      · exact (perm.filterMap _).length_eq
      · rfl
    have whole := perm.length_eq
    omega
  · rw [pushAll_begun, pushAll_begun, kept, keptReordered]
    split
    · have owned (lines : List Text) : ∀ entry ∈ lines.filterMap (Entry.ofOwner? owner),
          entry.owner = owner := by
        intro entry member
        obtain ⟨line, _, found⟩ := List.mem_filterMap.1 member
        simpa using (Option.filter_eq_some_iff.1 found).2
      exact foldl_addTo_alike (owned reordered) (owned run) (sameTies_of_filter_standsAt ties) _
    · exact forall₂_alike_refl _

theorem buildLines_of_reordered (options : BuildOptions) (before after : List Text) :
    buildLines options (before ++ reordered ++ after) =
      buildLines options (before ++ run ++ after) := by
  have split (lines : List Text) : pushAll { options } (before ++ lines ++ after) =
      ((pushAll { options } before).pushAll lines).pushAll after := by
    simp only [pushAll, List.foldl_append]
  rw [buildLines, buildLines, split, split]
  apply finish_eq_of_alike
  apply pushAll_alike
  exact pushAll_alike_of_reordered within withinReordered perm ties _

end Reordered

end Builder

theorem lineOrder_decides_ties_only (options : BuildOptions) (before after : List Text) :
    (∀ first second entry other, Entry.parse? first = some entry →
      Entry.parse? second = some other → entry.owner = other.owner →
      entry.address ≠ other.address →
      buildLines options (before ++ [first, second] ++ after) =
        buildLines options (before ++ [second, first] ++ after)) ∧
    ∀ owner run reordered, WithinRun owner run → WithinRun owner reordered →
      reordered.Perm run →
      (∀ address, reordered.filter (Entry.standsAt owner address) =
        run.filter (Entry.standsAt owner address)) →
      buildLines options (before ++ reordered ++ after) =
        buildLines options (before ++ run ++ after) := by
  constructor
  · intro first second entry other parsed otherParsed sameOwner apart
    have inside : ∀ line ∈ [first, second], ∀ read, Entry.parse? line = some read →
        read.owner = other.owner ∨ read.owner = none := by
      simp [parsed, otherParsed, sameOwner]
    have within : WithinRun other.owner [first, second] :=
      ⟨⟨first, [second], entry, rfl, parsed, sameOwner⟩, inside⟩
    have withinSwapped : WithinRun other.owner [second, first] :=
      ⟨⟨second, [first], other, rfl, otherParsed, rfl⟩, by simpa [or_comm, and_comm] using inside⟩
    apply Builder.buildLines_of_reordered withinSwapped within (List.Perm.swap ..)
    intro address
    by_cases here : entry.address = address
    · have there : ¬other.address = address := here ▸ apart.symm
      simp [Entry.standsAt, Entry.ofOwner?, parsed, otherParsed, sameOwner, here, there]
    · simp [Entry.standsAt, Entry.ofOwner?, parsed, otherParsed, sameOwner, here, List.filter_cons]
  · intro owner run reordered within withinReordered perm ties
    exact Builder.buildLines_of_reordered within withinReordered perm ties options before after

end Symbolizer
