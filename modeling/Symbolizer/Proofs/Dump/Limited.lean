import Symbolizer.Proofs.Dump.JsonTable
import Symbolizer.Proofs.Dump.PlainText

set_option autoImplicit false

namespace Symbolizer

section Limited

variable (refusal : Text) (table : Table) (room : Nat)

theorem Plain.write_limited :
    (write { room := some room, refusal } table).sink.contents =
        (Text.encode (render table)).take room ∧
      (write { room := some room, refusal } table).failure =
        if (Text.encode (render table)).length ≤ room then none
        else some (.notWritten refusal) := by
  have taken : Sink.Takes { room := some room, refusal } room (Text.encode (render table))
      (Sink.writeAll { room := some room, refusal } (pieces table)) := Sink.takes_writeAll rfl _
  cases written : Sink.writeAll { room := some room, refusal } (pieces table) with
  | mk sink all =>
      rw [written] at taken
      cases all with
      | true =>
          simp only [write, written]
          exact ⟨taken.contents, (if_pos (taken.all_iff.1 rfl)).symm⟩
      | false =>
          have exceeds : ¬(Text.encode (render table)).length ≤ room := by simpa using taken.all_iff
          have reason : sink.refusal = refusal := taken.refusal
          simp only [write, written, reason]
          exact ⟨taken.contents, (if_neg exceeds).symm⟩

theorem Json.write_limited :
    (write { room := some room, refusal } table).sink.contents =
        (Text.encode (render table)).take room ∧
      (write { room := some room, refusal } table).failure =
        if (Text.encode (render table)).length ≤ room then none
        else some (if room < (Text.encode (render table)).length - 1 then .notSerialized refusal
          else .notWritten refusal) := by
  have taken : Sink.Takes { room := some room, refusal } room
      (Text.encode (tablePieces table).flatten)
      (Sink.writeAll { room := some room, refusal } (tablePieces table)) :=
    Sink.takes_writeAll rfl _
  have length : (Text.encode (render table)).length =
      (Text.encode (tablePieces table).flatten).length + 1 := by
    rw [encode_render, List.length_append]
    rfl
  cases written : Sink.writeAll { room := some room, refusal } (tablePieces table) with
  | mk sink serialized =>
      rw [written] at taken
      cases serialized with
      | false =>
          have exceeds : ¬(Text.encode (tablePieces table).flatten).length ≤ room := by
            simpa using taken.all_iff
          have cut := taken.refused (Text.encode ['\n'])
          rw [← encode_render] at cut
          have reason : sink.refusal = refusal := cut.refusal
          rw [write_of_refused written, reason]
          exact ⟨cut.contents, by rw [if_neg (by omega), if_pos (by omega)]⟩
      | true =>
          have fits := taken.all_iff.1 rfl
          have ended := taken.append (Sink.takes_write taken.remaining ['\n'])
          rw [← encode_render] at ended
          have reason : (sink.write ['\n']).1.refusal = refusal := ended.refusal
          have lineEnd : ¬room < (Text.encode (render table)).length - 1 := by omega
          rw [write_of_serialized written, reason, if_neg lineEnd]
          refine ⟨ended.contents, ?_⟩
          simp only [ended.all_iff]

theorem failure_of_report {whole : List UInt8} {failure : Option DumpFailure}
    {cause : DumpFailure}
    (reported : failure = if whole.length ≤ room then none else some cause) :
    (failure = none ↔ whole.length ≤ room) ∧ ∀ found ∈ failure, found = cause := by
  by_cases fits : whole.length ≤ room <;> simp [reported, fits]

end Limited

theorem dump_cut_exactly (refusal : Text) (table : Table) (room : Nat) :
    (let whole := (Plain.write { room := none, refusal } table).sink.contents
     let cut := Plain.write { room := some room, refusal } table
     whole = Text.encode (Plain.render table) ∧
      cut.sink.contents = whole.take (min room whole.length) ∧
      (cut.failure = none ↔ whole.length ≤ room) ∧
      ∀ failure ∈ cut.failure, failure.causes = [refusal]) ∧
    (let whole := (Json.write { room := none, refusal } table).sink.contents
     let cut := Json.write { room := some room, refusal } table
     whole = Text.encode (Json.render table) ∧
      cut.sink.contents = whole.take (min room whole.length) ∧
      (cut.failure = none ↔ whole.length ≤ room) ∧
      ∀ failure ∈ cut.failure, failure.causes =
        if room < whole.length - 1 then ["Failed to serialize symbol table".toList, refusal]
        else [refusal]) := by
  constructor
  · intro whole cut
    have same : whole = Text.encode (Plain.render table) := (Plain.write_unlimited refusal table).2
    obtain ⟨contents, reported⟩ := Plain.write_limited refusal table room
    rw [← same] at contents reported
    obtain ⟨complete, causes⟩ := failure_of_report room reported
    refine ⟨same, contents.trans List.take_eq_take_min, complete, ?_⟩
    intro failure failed
    rw [causes failure failed]
    rfl
  · intro whole cut
    have same : whole = Text.encode (Json.render table) := (Json.write_unlimited refusal table).2
    obtain ⟨contents, reported⟩ := Json.write_limited refusal table room
    rw [← same] at contents reported
    obtain ⟨complete, causes⟩ := failure_of_report room reported
    refine ⟨same, contents.trans List.take_eq_take_min, complete, ?_⟩
    intro failure failed
    rw [causes failure failed]
    split <;> rfl

-- Twenty bytes in all: a brace is missing, the line end, nothing.
example : [18, 19, 20].map (fun room =>
      (Json.write { room := some room, refusal := [] } Table.empty).failure) =
    [some (.notSerialized []), some (.notWritten []), none] := by
  decide

end Symbolizer
