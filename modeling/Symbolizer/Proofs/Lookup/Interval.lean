import Mathlib.Data.Finset.Max
import Symbolizer.Proofs.Table.Runs
import Symbolizer.Table.Basic

set_option autoImplicit false

namespace Symbolizer

def Encloses (run : List Entry) (address : Address) : Prop :=
  -- The least address of a run is at or below the address, the greatest one is above it.
  ∃ least ∈ run, ∃ greatest ∈ run,
    (∀ entry ∈ run, least.address ≤ entry.address ∧ entry.address ≤ greatest.address) ∧
      least.address ≤ address ∧ address < greatest.address

structure Spans (run : List Entry) (address base next : Address) : Prop where
  base_mem : ∃ entry ∈ run, entry.address = base
  base_le : base ≤ address
  greatest : ∀ entry ∈ run, entry.address ≤ address → entry.address ≤ base
  next_mem : ∃ entry ∈ run, entry.address = next
  lt_next : address < next
  least : ∀ entry ∈ run, address < entry.address → next ≤ entry.address

def lastAt? (run : List Entry) (address : Address) : Option Entry :=
  (run.filter (·.address == address)).getLast?

namespace Spans

variable {run : List Entry} {address base next : Address}

theorem encloses (spans : Spans run address base next) : Encloses run address := by
  obtain ⟨low, lowMember, rfl⟩ := spans.base_mem
  obtain ⟨high, highMember, rfl⟩ := spans.next_mem
  have occupied : run.toFinset.Nonempty := ⟨low, List.mem_toFinset.2 lowMember⟩
  obtain ⟨least, leastMember, lowest⟩ :=
    run.toFinset.exists_min_image (fun entry => entry.address.toNat) occupied
  obtain ⟨greatest, greatestMember, highest⟩ :=
    run.toFinset.exists_max_image (fun entry => entry.address.toNat) occupied
  simp only [List.mem_toFinset] at leastMember greatestMember lowest highest
  refine ⟨least, leastMember, greatest, greatestMember,
    fun entry member => ⟨lowest entry member, highest entry member⟩, ?_, ?_⟩
  · exact UInt64.le_trans (lowest low lowMember) spans.base_le
  · exact UInt64.lt_of_lt_of_le spans.lt_next (highest high highMember)

theorem unique {base' next' : Address} (spans : Spans run address base next)
    (other : Spans run address base' next') : base = base' ∧ next = next' := by
  obtain ⟨low, lowMember, rfl⟩ := spans.base_mem
  obtain ⟨low', lowMember', rfl⟩ := other.base_mem
  obtain ⟨high, highMember, rfl⟩ := spans.next_mem
  obtain ⟨high', highMember', rfl⟩ := other.next_mem
  constructor
  · exact UInt64.le_antisymm (other.greatest low lowMember spans.base_le)
      (spans.greatest low' lowMember' other.base_le)
  · exact UInt64.le_antisymm (spans.least high' highMember' other.lt_next)
      (other.least high highMember spans.lt_next)

end Spans

def upTo (address : Address) (symbols : List Symbol) : List Symbol :=
  symbols.filter fun symbol => symbol.address ≤ address

def above (address : Address) (symbols : List Symbol) : List Symbol :=
  symbols.filter fun symbol => address < symbol.address

theorem upTo_append_above (address : Address) (symbols : List Symbol)
    (ascending : symbols.Pairwise fun left right => left.address ≤ right.address) :
    upTo address symbols ++ above address symbols = symbols := by
  induction symbols with
  | nil => rfl
  | cons first rest ih =>
      have whole := ih ascending.of_cons
      by_cases low : first.address ≤ address
      · have closed : ¬address < first.address := UInt64.not_lt.2 low
        simpa [upTo, above, low, closed] using whole
      · -- From the first symbol above the address on, all symbols are above it.
        have high : address < first.address := UInt64.not_le.1 low
        have beyond : ∀ symbol ∈ rest, address < symbol.address := fun symbol member =>
          UInt64.lt_of_lt_of_le high (List.rel_of_pairwise_cons ascending member)
        have none : upTo address rest = [] := List.filter_eq_nil_iff.2 fun symbol member => by
          simpa using UInt64.not_le.2 (beyond symbol member)
        have same : above address rest = rest := by simpa [none] using whole
        have head : upTo address (first :: rest) = upTo address rest := by simp [upTo, low]
        have tail : above address (first :: rest) = first :: above address rest := by
          simp [above, high]
        rw [head, tail, none, same, List.nil_append]

theorem enclosing?_append (address : Address) (low high : List Symbol)
    (lowEnough : ∀ symbol ∈ low, symbol.address ≤ address)
    (highEnough : ∀ symbol ∈ high, address < symbol.address) :
    enclosing? address (low ++ high) =
      low.getLast?.bind fun base => high.head?.map fun next => (base, next) := by
  induction low with
  | nil =>
      cases high with
      | nil => rfl
      | cons next others =>
          cases others with
          | nil => rfl
          | cons after _ => simp [enclosing?, highEnough next, highEnough after]
  | cons first rest ih =>
      have firstLow := UInt64.not_lt.2 (lowEnough first (by simp))
      cases rest with
      | nil =>
          cases high with
          | nil => rfl
          | cons next _ => simp [enclosing?, firstLow, highEnough next]
      | cons second rest =>
          have secondLow := UInt64.not_lt.2 (lowEnough second (by simp))
          have onward := ih fun symbol member => lowEnough symbol (List.mem_cons_of_mem _ member)
          simpa [enclosing?, secondLow] using onward

theorem enclosing?_of_ascending (address : Address) (symbols : List Symbol)
    (ascending : symbols.Pairwise fun left right => left.address ≤ right.address) :
    enclosing? address symbols =
      (upTo address symbols).getLast?.bind fun base =>
        (above address symbols).head?.map fun next => (base, next) := by
  rw [← enclosing?_append address (upTo address symbols) (above address symbols),
    upTo_append_above address symbols ascending]
  · intro symbol member
    simpa using (List.mem_filter.1 member).2
  · intro symbol member
    simpa using (List.mem_filter.1 member).2

theorem exists_enclosing?_of_ascending {address : Address} {symbols : List Symbol}
    (ascending : symbols.Pairwise fun left right => left.address ≤ right.address)
    {low high : Symbol} (lowMember : low ∈ symbols) (isLow : low.address ≤ address)
    (highMember : high ∈ symbols) (isHigh : address < high.address) :
    ∃ base next, enclosing? address symbols = some (base, next) := by
  have lowInside : low ∈ upTo address symbols := List.mem_filter.2 ⟨lowMember, decide_eq_true isLow⟩
  have highInside : high ∈ above address symbols :=
    List.mem_filter.2 ⟨highMember, decide_eq_true isHigh⟩
  have last := List.getLast?_isSome.2 (List.ne_nil_of_mem lowInside)
  have first := List.isSome_head?.2 (List.ne_nil_of_mem highInside)
  obtain ⟨base, last⟩ := Option.isSome_iff_exists.1 last
  obtain ⟨next, first⟩ := Option.isSome_iff_exists.1 first
  exact ⟨base, next, by simp [enclosing?_of_ascending address symbols ascending, last, first]⟩

section Ends

variable {address : Address} {symbols : List Symbol}
  (ascending : symbols.Pairwise fun left right => left.address ≤ right.address)

include ascending

theorem le_last_upTo {base : Symbol} (last : (upTo address symbols).getLast? = some base)
    (symbol : Symbol) (member : symbol ∈ symbols) (low : symbol.address ≤ address) :
    symbol.address ≤ base.address := by
  obtain ⟨earlier, split⟩ := List.getLast?_eq_some_iff.1 last
  have inside : symbol ∈ earlier ++ [base] := by
    rw [← split]
    exact List.mem_filter.2 ⟨member, by simpa using low⟩
  have ordered : (earlier ++ [base]).Pairwise fun left right => left.address ≤ right.address := by
    rw [← split]
    exact ascending.filter _
  rcases List.mem_append.1 inside with before | same
  · exact (List.pairwise_append.1 ordered).2.2 symbol before base (by simp)
  · rw [List.mem_singleton.1 same]
    exact UInt64.le_refl _

theorem head_above_le {next : Symbol} (first : (above address symbols).head? = some next)
    (symbol : Symbol) (member : symbol ∈ symbols) (high : address < symbol.address) :
    next.address ≤ symbol.address := by
  obtain ⟨later, split⟩ := List.head?_eq_some_iff.1 first
  have inside : symbol ∈ next :: later := by
    rw [← split]
    exact List.mem_filter.2 ⟨member, by simpa using high⟩
  have ordered : (next :: later).Pairwise fun left right => left.address ≤ right.address := by
    rw [← split]
    exact ascending.filter _
  rcases List.mem_cons.1 inside with rfl | after
  · exact UInt64.le_refl _
  · exact List.rel_of_pairwise_cons ordered after

end Ends

theorem getLast?_at_last_upTo {address : Address} {symbols : List Symbol} {base : Symbol}
    (last : (upTo address symbols).getLast? = some base) :
    (symbols.filter (·.address == base.address)).getLast? = some base := by
  obtain ⟨earlier, split⟩ := List.getLast?_eq_some_iff.1 last
  have low : base.address ≤ address := by
    have member : base ∈ upTo address symbols := List.mem_of_getLast? last
    simpa using (List.mem_filter.1 member).2
  have narrowed : symbols.filter (·.address == base.address) =
      (upTo address symbols).filter (·.address == base.address) := by
    rw [upTo, List.filter_filter]
    apply List.filter_congr
    intro symbol _
    by_cases same : symbol.address = base.address <;> simp [same, low]
  rw [narrowed, split, List.filter_append]
  simp

def Answers (run : List Entry) (address : Address) (candidate : Candidate) : Prop :=
  ∃ base next entry, Spans run address base next ∧ lastAt? run base = some entry ∧
    candidate = ⟨entry.owner, entry.name, address - base, next - base⟩

theorem Answers.unique {run : List Entry} {address : Address} {candidate other : Candidate}
    (answers : Answers run address candidate) (again : Answers run address other) :
    candidate = other := by
  obtain ⟨base, next, entry, spans, last, rfl⟩ := answers
  obtain ⟨base', next', entry', spans', last', rfl⟩ := again
  obtain ⟨rfl, rfl⟩ := spans.unique spans'
  obtain rfl := Option.some.inj (last.symm.trans last')
  rfl

theorem Answers.encloses {run : List Entry} {address : Address} {candidate : Candidate}
    (answers : Answers run address candidate) : Encloses run address := by
  obtain ⟨base, next, entry, spans, _⟩ := answers
  exact spans.encloses

namespace Module

variable {run : List Entry}

theorem mem_sorted_ofRun (symbol : Symbol) :
    symbol ∈ (ofRun run).sorted.symbols ↔ ∃ entry ∈ run, entry.symbol = symbol := by
  rw [(sorted_perm _).mem_iff]
  simp [ofRun]

theorem getLast?_sorted_ofRun (address : Address) :
    ((ofRun run).sorted.symbols.filter (·.address == address)).getLast? =
      (lastAt? run address).map Entry.symbol := by
  have same : (ofRun run).symbols.filter (·.address == address) =
      (run.filter (·.address == address)).map Entry.symbol := by
    simp [ofRun, List.filter_map, Function.comp_def]
  rw [sorted_filter_address, same, List.getLast?_map]
  rfl

theorem candidate?_isSome_of_encloses {address : Address} (encloses : Encloses run address) :
    ((ofRun run).sorted.candidate? address).isSome := by
  obtain ⟨least, leastMember, greatest, greatestMember, _, low, high⟩ := encloses
  obtain ⟨base, next, found⟩ := exists_enclosing?_of_ascending (ofRun run).sorted_ascending
    ((mem_sorted_ofRun _).2 ⟨least, leastMember, rfl⟩) low
    ((mem_sorted_ofRun _).2 ⟨greatest, greatestMember, rfl⟩) high
  simp [candidate?, found]

section OneOwner

variable (uniform : ∀ left ∈ run, ∀ right ∈ run, left.owner = right.owner)

include uniform

theorem answers_of_candidate? {address : Address} {candidate : Candidate}
    (found : (ofRun run).sorted.candidate? address = some candidate) :
    Answers run address candidate := by
  have ascending := (ofRun run).sorted_ascending
  simp only [candidate?, enclosing?_of_ascending address _ ascending, Option.map_eq_some_iff,
    Option.bind_eq_some_iff] at found
  obtain ⟨_, ⟨base, last, next, first, rfl⟩, rfl⟩ := found
  obtain ⟨baseMember, low⟩ := List.mem_filter.1 (List.mem_of_getLast? last)
  obtain ⟨nextMember, high⟩ := List.mem_filter.1 (List.mem_of_head? first)
  obtain ⟨entry, lastEntry, rfl⟩ : ∃ entry, lastAt? run base.address = some entry ∧
      entry.symbol = base := by
    have atBase := getLast?_at_last_upTo last
    rwa [getLast?_sorted_ofRun, Option.map_eq_some_iff] at atBase
  have member : entry ∈ run := (List.mem_filter.1 (List.mem_of_getLast? lastEntry)).1
  obtain ⟨nextEntry, nextEntryMember, rfl⟩ := (mem_sorted_ofRun next).1 nextMember
  have named := ofRun_name run uniform entry member
  refine ⟨entry.address, nextEntry.address, entry, ?_, lastEntry, ?_⟩
  · exact
      { base_mem := ⟨entry, member, rfl⟩
        base_le := of_decide_eq_true low
        greatest := fun other inside otherLow =>
          le_last_upTo ascending last other.symbol ((mem_sorted_ofRun _).2 ⟨other, inside, rfl⟩)
            otherLow
        next_mem := ⟨nextEntry, nextEntryMember, rfl⟩
        lt_next := of_decide_eq_true high
        least := fun other inside otherHigh =>
          head_above_le ascending first other.symbol ((mem_sorted_ofRun _).2 ⟨other, inside, rfl⟩)
            otherHigh }
  · simp [named]

theorem candidate?_sorted_ofRun (address : Address) (candidate : Candidate) :
    (ofRun run).sorted.candidate? address = some candidate ↔ Answers run address candidate := by
  constructor
  · exact answers_of_candidate? uniform
  · intro answers
    -- The scan finds some candidate, and a run has no two answers.
    obtain ⟨other, found⟩ :=
      Option.isSome_iff_exists.1 (candidate?_isSome_of_encloses answers.encloses)
    rw [found, answers.unique (answers_of_candidate? uniform found)]

theorem candidate?_eq_none_iff (address : Address) :
    (ofRun run).sorted.candidate? address = none ↔ ¬Encloses run address := by
  constructor
  · intro missing encloses
    simpa [missing] using candidate?_isSome_of_encloses encloses
  · intro outside
    apply Option.eq_none_iff_forall_ne_some.2
    intro candidate found
    exact outside (answers_of_candidate? uniform found).encloses

end OneOwner

end Module

theorem Encloses.answers {run : List Entry} {address : Address} (encloses : Encloses run address)
    (uniform : ∀ left ∈ run, ∀ right ∈ run, left.owner = right.owner) :
    ∃ candidate, Answers run address candidate := by
  obtain ⟨candidate, found⟩ :=
    Option.isSome_iff_exists.1 (Module.candidate?_isSome_of_encloses encloses)
  exact ⟨candidate, Module.answers_of_candidate? uniform found⟩

end Symbolizer
