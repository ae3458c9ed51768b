import Symbolizer.Dump.Plain

set_option autoImplicit false

namespace Symbolizer

namespace Sink

variable (sink : Sink)

theorem write_unlimited (unlimited : sink.room = none) (text : Text) :
    sink.write text = ({ sink with chunks := Text.encode text :: sink.chunks }, true) := by
  simp [write, unlimited]

theorem writeAll_unlimited (unlimited : sink.room = none) (texts : List Text) :
    (sink.writeAll texts).2 = true ∧ (sink.writeAll texts).1.room = none ∧
      (sink.writeAll texts).1.contents = sink.contents ++ Text.encode texts.flatten := by
  induction texts generalizing sink with
  | nil => simp [writeAll, unlimited, Text.encode]
  | cons text rest ih =>
      have next := ih { sink with chunks := Text.encode text :: sink.chunks } unlimited
      simp only [writeAll, sink.write_unlimited unlimited text]
      refine ⟨next.1, next.2.1, next.2.2.trans ?_⟩
      simp [contents, Text.encode_append]

/-- Of the bytes the sink took what fits, and told whether that is all. -/
structure Takes (room : Nat) (bytes : List UInt8) (taken : Sink × Bool) : Prop where
  contents : taken.1.contents = sink.contents ++ bytes.take room
  all_iff : taken.2 = true ↔ bytes.length ≤ room
  remaining : taken.1.room = some (room - bytes.length)
  refusal : taken.1.refusal = sink.refusal

section Limited

variable {sink : Sink} {room : Nat} {bytes : List UInt8}

theorem takes_nil (limited : sink.room = some room) : sink.Takes room [] (sink, true) where
  contents := by simp
  all_iff := by simp
  remaining := by simpa using limited
  refusal := rfl

theorem takes_write (limited : sink.room = some room) (text : Text) :
    sink.Takes room (Text.encode text) (sink.write text) := by
  simp only [write, limited]
  split
  next fits =>
    constructor <;> simp [Sink.contents, fits, List.take_of_length_le]
  next exceeds =>
    have spent : room - (Text.encode text).length = 0 := by omega
    constructor <;> simp [Sink.contents, exceeds, spent]

theorem Takes.append {next : Sink} {more : List UInt8} {taken : Sink × Bool}
    (first : sink.Takes room bytes (next, true))
    (second : next.Takes (room - bytes.length) more taken) :
    sink.Takes room (bytes ++ more) taken where
  contents := by
    rw [second.contents, first.contents, List.take_append, List.append_assoc]
  all_iff := by
    have fits := first.all_iff.1 rfl
    rw [second.all_iff, List.length_append]
    omega
  remaining := by
    rw [second.remaining, List.length_append, Nat.sub_sub]
  refusal := second.refusal.trans first.refusal

theorem Takes.refused {next : Sink} (first : sink.Takes room bytes (next, false))
    (more : List UInt8) : sink.Takes room (bytes ++ more) (next, false) := by
  have exceeds : room < bytes.length := by simpa using first.all_iff
  have spent : room - bytes.length = 0 := by omega
  constructor
  · simp [first.contents, List.take_append, spent]
  · simp only [Bool.false_eq_true, List.length_append, false_iff]
    omega
  · rw [first.remaining, List.length_append, Option.some.injEq]
    omega
  · exact first.refusal

theorem takes_writeAll (limited : sink.room = some room) (texts : List Text) :
    sink.Takes room (Text.encode texts.flatten) (sink.writeAll texts) := by
  induction texts generalizing sink room with
  | nil => exact takes_nil limited
  | cons text rest ih =>
      have first := takes_write limited text
      rw [List.flatten_cons, Text.encode_append, writeAll]
      cases written : sink.write text with
      | mk next all =>
          rw [written] at first
          cases all with
          | true => exact first.append (ih first.remaining)
          | false => exact first.refused _

end Limited

end Sink

end Symbolizer
