import Symbolizer.Dump.Plain
import Symbolizer.Proofs.Dump.Sink
import Symbolizer.Proofs.Numeral
import Symbolizer.Proofs.Table.OneLine
import Symbolizer.Proofs.Text.Encoding

set_option autoImplicit false

namespace Symbolizer

theorem Module.displayName_inj {part other : Module}
    (apart : part.name ≠ some "kernel space".toList)
    (apart' : other.name ≠ some "kernel space".toList)
    (same : part.displayName = other.displayName) : part.name = other.name := by
  unfold displayName at same
  cases name : part.name <;> cases name' : other.name <;> simp_all

namespace Plain

variable {number : Nat} {rest rest' : Text}

theorem symbolLines_inj {symbol other : Symbol} (closed : '\n' ∉ symbol.name)
    (closed' : '\n' ∉ other.name)
    (same : (symbolLines number symbol).flatten ++ rest =
      (symbolLines number other).flatten ++ rest') : symbol = other ∧ rest = rest' := by
  have lines (symbol : Symbol) (rest : Text) : (symbolLines number symbol).flatten ++ rest =
      ("\tSymbol #".toList ++ decimal number ++ "\n\tName: ".toList) ++
        (symbol.name ++ '\n' :: ("\tAddress: ".toList ++
          (hexadecimal symbol.address.toNat ++ '\n' :: '\n' :: rest))) := by
    simp [symbolLines]
  rw [lines, lines, List.append_cancel_left_eq] at same
  obtain ⟨name, addresses⟩ := Text.append_separator_inj closed closed' same
  rw [List.append_cancel_left_eq] at addresses
  obtain ⟨address, behind⟩ := Text.append_separator_inj
    (notMem_hexadecimal _ '\n' rfl) (notMem_hexadecimal _ '\n' rfl) addresses
  have word := UInt64.toNat_inj.1 (hexadecimal_injective address)
  cases symbol
  cases other
  simp_all

theorem symbolsFrom_inj {symbols others : List Symbol} (count : symbols.length = others.length)
    (closed : ∀ symbol ∈ symbols, '\n' ∉ symbol.name)
    (closed' : ∀ symbol ∈ others, '\n' ∉ symbol.name)
    (same : (symbolsFrom number symbols).flatten ++ rest =
      (symbolsFrom number others).flatten ++ rest') : symbols = others ∧ rest = rest' := by
  induction symbols generalizing number others with
  | nil =>
      obtain rfl : others = [] := List.length_eq_zero_iff.1 count.symm
      exact ⟨rfl, same⟩
  | cons symbol symbols ih =>
      cases others with
      | nil => simp at count
      | cons other others =>
          rw [List.forall_mem_cons] at closed closed'
          simp only [symbolsFrom, List.flatten_append, List.append_assoc] at same
          obtain ⟨rfl, later⟩ := symbolLines_inj closed.1 closed'.1 same
          obtain ⟨rfl, behind⟩ := ih (by simpa using count) closed.2 closed'.2 later
          exact ⟨rfl, behind⟩

def caption (part : Module) : Text :=
  part.displayName ++ ", Number of symbols = ".toList ++ decimal part.symbols.length

theorem heading_append (part : Module) : heading number part ++ rest =
    ("Module #".toList ++ decimal number ++ " = ".toList) ++ (caption part ++ '\n' :: rest) := by
  unfold heading caption
  rw [List.append_assoc _ ['\n'] rest, List.singleton_append]
  simp only [List.append_assoc]

theorem notMem_caption {part : Module} (closed : part.OneLine) : '\n' ∉ caption part := by
  have name : '\n' ∉ part.displayName := by
    unfold Module.displayName
    cases text : part.name with
    | none => decide
    | some name => exact closed.name name text
  simp [caption, name, notMem_decimal _ '\n' rfl]

theorem caption_inj {part other : Module} (same : caption part = caption other) :
    part.displayName = other.displayName ∧ part.symbols.length = other.symbols.length := by
  -- The name may imitate the label, so it is the last blank that ends the label.
  obtain ⟨label, ends⟩ : ∃ label, ", Number of symbols = ".toList = label ++ [' '] :=
    ⟨", Number of symbols =".toList, by decide⟩
  have whole : (part.displayName ++ label) ++ ' ' :: decimal part.symbols.length =
      (other.displayName ++ label) ++ ' ' :: decimal other.symbols.length := by
    simpa [caption, ends] using same
  obtain ⟨name, count⟩ := Text.append_separator_inj_right
    (notMem_decimal _ ' ' rfl) (notMem_decimal _ ' ' rfl) whole
  exact ⟨List.append_cancel_right name, decimal_injective count⟩

theorem heading_inj {part other : Module} (closed : part.OneLine) (closed' : other.OneLine)
    (same : heading number part ++ rest = heading number other ++ rest') :
    part.displayName = other.displayName ∧ part.symbols.length = other.symbols.length ∧
      rest = rest' := by
  rw [heading_append, heading_append, List.append_cancel_left_eq] at same
  obtain ⟨shown, behind⟩ :=
    Text.append_separator_inj (notMem_caption closed) (notMem_caption closed') same
  obtain ⟨name, count⟩ := caption_inj shown
  exact ⟨name, count, behind⟩

theorem modulesFrom_inj {modules others : List Module} (count : modules.length = others.length)
    (closed : ∀ part ∈ modules, part.OneLine) (closed' : ∀ part ∈ others, part.OneLine)
    (apart : ∀ part ∈ modules, part.name ≠ some "kernel space".toList)
    (apart' : ∀ part ∈ others, part.name ≠ some "kernel space".toList)
    (same : (modulesFrom number modules).flatten = (modulesFrom number others).flatten) :
    modules = others := by
  induction modules generalizing number others with
  | nil => exact (List.length_eq_zero_iff.1 count.symm).symm
  | cons part modules ih =>
      cases others with
      | nil => simp at count
      | cons other others =>
          rw [List.forall_mem_cons] at closed closed' apart apart'
          simp only [modulesFrom, List.cons_append, List.flatten_cons, List.flatten_append] at same
          obtain ⟨shown, length, same⟩ := heading_inj closed.1 closed'.1 same
          obtain ⟨symbols, same⟩ := symbolsFrom_inj length closed.1.symbols closed'.1.symbols same
          have name := Module.displayName_inj apart.1 apart'.1 shown
          have first : part = other := by
            cases part
            cases other
            simp_all
          rw [first, ih (by simpa using count) closed.2 closed'.2 apart.2 apart'.2 same]

theorem render_inj {table other : Table} (closed : table.OneLine) (closed' : other.OneLine)
    (apart : ∀ part ∈ table.modules, part.name ≠ some "kernel space".toList)
    (apart' : ∀ part ∈ other.modules, part.name ≠ some "kernel space".toList)
    (same : render table = render other) : table = other := by
  have first (table : Table) : render table = "Number of modules: ".toList ++
      (decimal table.moduleCount ++ '\n' :: '\n' :: (modulesFrom 1 table.modules).flatten) := by
    simp [render, pieces]
  rw [first, first, List.append_cancel_left_eq] at same
  obtain ⟨count, behind⟩ := Text.append_separator_inj
    (notMem_decimal _ '\n' rfl) (notMem_decimal _ '\n' rfl) same
  have modules := modulesFrom_inj (decimal_injective count) closed closed' apart apart'
    (List.cons.inj behind).2
  exact congrArg Table.mk modules

theorem write_unlimited (refusal : Text) (table : Table) :
    (write { room := none, refusal } table).failure = none ∧
      (write { room := none, refusal } table).sink.contents = Text.encode (render table) := by
  obtain ⟨taken, _, held⟩ := Sink.writeAll_unlimited { room := none, refusal } rfl (pieces table)
  have written : Sink.writeAll { room := none, refusal } (pieces table) =
      ((Sink.writeAll { room := none, refusal } (pieces table)).1, true) := Prod.ext rfl taken
  rw [write, written]
  exact ⟨rfl, held⟩

theorem write_uniquely_readable (refusal : Text) :
    (∀ table, (write { room := none, refusal } table).failure = none) ∧
    (∀ options (source : Source) outcome, source.outcome options = .ok outcome →
      outcome.table.OneLine) ∧
    ∀ table other : Table, table.OneLine → other.OneLine →
      (∀ part ∈ table.modules, part.name ≠ some "kernel space".toList) →
      (∀ part ∈ other.modules, part.name ≠ some "kernel space".toList) →
      (write { room := none, refusal } table).sink.contents =
        (write { room := none, refusal } other).sink.contents → table = other := by
  refine ⟨fun table => (write_unlimited refusal table).1, ?_, ?_⟩
  · intro options source outcome built
    exact source.oneLine_of_outcome options outcome built
  · intro table other closed closed' apart apart' same
    rw [(write_unlimited refusal table).2, (write_unlimited refusal other).2] at same
    have text := congrArg Text.decode same
    rw [Text.decode_encode, Text.decode_encode] at text
    exact render_inj closed closed' apart apart' text

-- The base kernel and a module with its name have one dump.
example : render ⟨[⟨none, []⟩]⟩ = render ⟨[⟨some "kernel space".toList, []⟩]⟩ := rfl

def imitatingTable (name : Text) : Table :=
  ⟨[⟨none, [⟨"a, Number of symbols = 3".toList, 0x10⟩]⟩,
    ⟨some name, [⟨"Module #2 = ".toList, 0⟩, ⟨"\tAddress: 0".toList, 0x20⟩]⟩,
    ⟨some [], [⟨"\tSymbol #2".toList, 0xffffffffffffffff⟩]⟩]⟩

theorem imitatingTable_oneLine {name : Text} (closed : '\n' ∉ name) :
    (imitatingTable name).OneLine := by
  intro part member
  simp only [imitatingTable, List.mem_cons, List.not_mem_nil, or_false] at member
  rcases member with rfl | rfl | rfl
  · exact ⟨by simp, by simp⟩
  · exact ⟨by simpa using closed, by simp⟩
  · exact ⟨by simp, by simp⟩

theorem write_imitatingTable :
    let short := imitatingTable "m".toList
    let long := imitatingTable "m, Number of symbols = 2".toList
    short.OneLine ∧ long.OneLine ∧
      (∀ part ∈ short.modules, part.name ≠ some "kernel space".toList) ∧
      (∀ part ∈ long.modules, part.name ≠ some "kernel space".toList) ∧
      (write { room := none, refusal := [] } short).sink.contents ≠
        (write { room := none, refusal := [] } long).sink.contents := by
  intro short long
  have shortLine : short.OneLine := imitatingTable_oneLine (by decide)
  have longLine : long.OneLine := imitatingTable_oneLine (by decide)
  have apart : (∀ part ∈ short.modules, part.name ≠ some "kernel space".toList) ∧
      ∀ part ∈ long.modules, part.name ≠ some "kernel space".toList := by decide
  refine ⟨shortLine, longLine, apart.1, apart.2, ?_⟩
  intro same
  have equal := (write_uniquely_readable []).2.2 short long shortLine longLine apart.1 apart.2 same
  exact absurd equal (by decide)

end Plain

end Symbolizer
