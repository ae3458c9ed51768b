import Mathlib.Logic.Function.Defs
import Symbolizer.Proofs.Dump.JsonLayout
import Symbolizer.Proofs.Dump.Sink
import Symbolizer.Proofs.Text.Encoding

set_option autoImplicit false

namespace Symbolizer

open Json (Value)

def Symbol.toJson (symbol : Symbol) : Value :=
  .object [("name".toList, .text symbol.name), ("address".toList, .number symbol.address.toNat)]

def Module.toJson (part : Module) : Value :=
  .object [("name".toList, part.name.elim .null .text),
    ("symbols".toList, .array (part.symbols.map Symbol.toJson))]

def Table.toJson (table : Table) : Value :=
  .object [("modules".toList, .array (table.modules.map Module.toJson))]

namespace Json

theorem writes_symbolPieces (symbol : Symbol) :
    Writes (symbolPieces symbol).flatten symbol.toJson := by
  apply writes_object 4 [(("name".toList, .text symbol.name), [string symbol.name]),
    (("address".toList, .number symbol.address.toNat), [decimal symbol.address.toNat])]
  simp [writes_string, writes_decimal]

theorem writes_modulePieces (part : Module) : Writes (modulePieces part).flatten part.toJson := by
  apply writes_object 2 [(("name".toList, part.name.elim .null .text), [stringOrNull part.name]),
    (("symbols".toList, .array (part.symbols.map Symbol.toJson)),
      array 3 (part.symbols.map symbolPieces))]
  have symbols := writes_array 3 part.symbols symbolPieces Symbol.toJson
    fun symbol _ => writes_symbolPieces symbol
  simpa [writes_stringOrNull] using symbols

theorem writes_tablePieces (table : Table) : Writes (tablePieces table).flatten table.toJson := by
  apply writes_object 0 [(("modules".toList, .array (table.modules.map Module.toJson)),
    array 1 (table.modules.map modulePieces))]
  have modules := writes_array 1 table.modules modulePieces Module.toJson
    fun part _ => writes_modulePieces part
  simpa using modules

theorem read?_render (table : Table) : read? (render table) = some table.toJson :=
  read?_of_writes (writes_tablePieces table)

end Json

namespace Json.Value

def field? {α : Type} (key : Text) (read : Value → Option α) : Value → Option α
  | .object fields => (fields.lookup key).bind read
  | _ => none

def list? {α : Type} (read : Value → Option α) : Value → Option (List α)
  | .array elements => elements.mapM read
  | _ => none

def text? : Value → Option Text
  | .text held => some held
  | _ => none

def textOrNull? : Value → Option (Option Text)
  | .null => some none
  | .text held => some (some held)
  | _ => none

def word? : Value → Option UInt64
  | .number held => if held < UInt64.size then some (UInt64.ofNat held) else none
  | _ => none

theorem list?_map {α : Type} (write : α → Value) (read : Value → Option α)
    (inverse : ∀ element, read (write element) = some element) (elements : List α) :
    list? read (.array (elements.map write)) = some elements := by
  rw [list?]
  induction elements with
  | nil => rfl
  | cons element rest ih => simp [List.mapM_cons, inverse, ih]

theorem textOrNull?_elim (text : Option Text) :
    textOrNull? (text.elim .null .text) = some text := by
  cases text <;> rfl

theorem word?_toNat (word : UInt64) : word? (.number word.toNat) = some word := by
  rw [word?, if_pos word.toNat_lt_size, UInt64.ofNat_toNat]

end Json.Value

def Symbol.ofJson? (value : Value) : Option Symbol :=
  match value.field? "name".toList Value.text?, value.field? "address".toList Value.word? with
  | some name, some address => some ⟨name, address⟩
  | _, _ => none

def Module.ofJson? (value : Value) : Option Module :=
  match value.field? "name".toList Value.textOrNull?,
    value.field? "symbols".toList (Value.list? Symbol.ofJson?) with
  | some name, some symbols => some ⟨name, symbols⟩
  | _, _ => none

def Table.ofJson? (value : Value) : Option Table :=
  (value.field? "modules".toList (Value.list? Module.ofJson?)).map Table.mk

theorem Symbol.ofJson?_toJson (symbol : Symbol) : ofJson? symbol.toJson = some symbol := by
  have name : symbol.toJson.field? "name".toList Value.text? = some symbol.name := rfl
  have address : symbol.toJson.field? "address".toList Value.word? = some symbol.address :=
    Value.word?_toNat symbol.address
  rw [ofJson?, name, address]

theorem Module.ofJson?_toJson (part : Module) : ofJson? part.toJson = some part := by
  have name : part.toJson.field? "name".toList Value.textOrNull? = some part.name :=
    Value.textOrNull?_elim part.name
  have symbols : part.toJson.field? "symbols".toList (Value.list? Symbol.ofJson?) =
      some part.symbols := Value.list?_map _ _ Symbol.ofJson?_toJson part.symbols
  rw [ofJson?, name, symbols]

theorem Table.ofJson?_toJson (table : Table) : ofJson? table.toJson = some table := by
  have modules : table.toJson.field? "modules".toList (Value.list? Module.ofJson?) =
      some table.modules := Value.list?_map _ _ Module.ofJson?_toJson table.modules
  rw [ofJson?, modules, Option.map_some]

section Write

variable {sink next : Sink} {table : Table}

theorem Json.write_of_refused (refused : sink.writeAll (tablePieces table) = (next, false)) :
    write sink table = ⟨next, some (.notSerialized next.refusal)⟩ := by
  simp only [write, refused]

theorem Json.write_of_serialized (serialized : sink.writeAll (tablePieces table) = (next, true)) :
    write sink table = ⟨(next.write ['\n']).1,
      if (next.write ['\n']).2 = true then none
      else some (.notWritten (next.write ['\n']).1.refusal)⟩ := by
  simp only [write, serialized]
  rcases next.write ['\n'] with ⟨last, _ | _⟩ <;> rfl

end Write

theorem Json.encode_render (table : Table) :
    Text.encode (render table) = Text.encode (tablePieces table).flatten ++ Text.encode ['\n'] :=
  Text.encode_append _ _

theorem Json.write_unlimited (refusal : Text) (table : Table) :
    (write { room := none, refusal } table).failure = none ∧
      (write { room := none, refusal } table).sink.contents = Text.encode (render table) := by
  obtain ⟨taken, unlimited, held⟩ :=
    Sink.writeAll_unlimited { room := none, refusal } rfl (tablePieces table)
  have serialized : Sink.writeAll { room := none, refusal } (tablePieces table) =
      ((Sink.writeAll { room := none, refusal } (tablePieces table)).1, true) := Prod.ext rfl taken
  rw [write_of_serialized serialized, Sink.write_unlimited _ unlimited]
  refine ⟨rfl, ?_⟩
  rw [Sink.contents, List.reverse_cons, List.flatten_append, ← Sink.contents, held, encode_render]
  simp [Sink.contents]

theorem Json.write_loses_nothing (refusal : Text) :
    (∀ table, (write { room := none, refusal } table).failure = none ∧
      (read? (Text.decode (write { room := none, refusal } table).sink.contents)).bind
        Table.ofJson? = some table) ∧
    Function.Injective fun table => (write { room := none, refusal } table).sink.contents := by
  have reads (table : Table) :
      (read? (Text.decode (write { room := none, refusal } table).sink.contents)).bind
        Table.ofJson? = some table := by
    rw [(write_unlimited refusal table).2, Text.decode_encode, read?_render, Option.bind_some,
      Table.ofJson?_toJson]
  refine ⟨fun table => ⟨(write_unlimited refusal table).1, reads table⟩, ?_⟩
  intro table other same
  have first := reads table
  have second := reads other
  simp only at same
  rw [same, second] at first
  exact (Option.some.inj first).symm

end Symbolizer
