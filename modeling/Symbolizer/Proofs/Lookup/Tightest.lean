import Symbolizer.Table.Basic

set_option autoImplicit false

namespace Symbolizer

namespace Candidate

theorem isTighterThan_iff (candidate other : Candidate) :
    candidate.isTighterThan other = true ↔
      candidate.offset < other.offset ∨
        candidate.offset = other.offset ∧ candidate.size < other.size := by
  simp [isTighterThan]

theorem not_isTighterThan_iff (candidate other : Candidate) :
    ¬candidate.isTighterThan other = true ↔
      other.offset < candidate.offset ∨
        other.offset = candidate.offset ∧ other.size ≤ candidate.size := by
  rw [isTighterThan_iff]
  grind

theorem isTighterThan_of_not {first second third : Candidate}
    (notTighter : ¬second.isTighterThan first = true)
    (tighter : second.isTighterThan third = true) : first.isTighterThan third = true := by
  rw [not_isTighterThan_iff] at notTighter
  rw [isTighterThan_iff] at tighter ⊢
  grind

@[simp] theorem none_tighter (later : Option Candidate) : tighter none later = later := rfl

@[simp] theorem tighter_none (earlier : Option Candidate) : tighter earlier none = earlier := by
  cases earlier <;> rfl

theorem isTighterThan_trans {first second third : Candidate}
    (left : first.isTighterThan second = true) (right : second.isTighterThan third = true) :
    first.isTighterThan third = true := by
  rw [isTighterThan_iff] at left right ⊢
  grind

theorem tighter_some (earlier later : Candidate) :
    tighter (some earlier) (some later) =
      some (if later.isTighterThan earlier then later else earlier) := by
  by_cases closer : later.isTighterThan earlier <;> simp [tighter, closer]

theorem tighter_assoc (first second third : Option Candidate) :
    tighter (tighter first second) third = tighter first (tighter second third) := by
  cases first with
  | none => rfl
  | some first =>
      cases second with
      | none => rfl
      | some second =>
          cases third with
          | none => simp
          | some third =>
              simp only [tighter_some, Option.some.injEq]
              by_cases middle : second.isTighterThan first
              · by_cases last : third.isTighterThan second
                · simp [middle, last, isTighterThan_trans last middle]
                · simp [middle, last]
              · by_cases last : third.isTighterThan second
                · simp [middle, last]
                · have behind : ¬third.isTighterThan first = true := fun closer =>
                    middle (isTighterThan_of_not last closer)
                  simp [middle, last, behind]

end Candidate

namespace Table

theorem foldl_tighter (modules : List Module) (address : Address) (best : Option Candidate) :
    modules.foldl (fun best part => Candidate.tighter best (part.candidate? address)) best =
      Candidate.tighter best (tightest? ⟨modules⟩ address) := by
  unfold tightest?
  induction modules generalizing best with
  | nil => simp
  | cons part rest ih =>
      rw [List.foldl_cons, List.foldl_cons, ih, ih (Candidate.tighter none _),
        Candidate.none_tighter, Candidate.tighter_assoc]

@[simp] theorem tightest?_nil (address : Address) : tightest? ⟨[]⟩ address = none := rfl

theorem tightest?_cons (part : Module) (rest : List Module) (address : Address) :
    tightest? ⟨part :: rest⟩ address =
      Candidate.tighter (part.candidate? address) (tightest? ⟨rest⟩ address) :=
  foldl_tighter rest address (part.candidate? address)

theorem tightest?_eq_none_iff (modules : List Module) (address : Address) :
    tightest? ⟨modules⟩ address = none ↔ ∀ part ∈ modules, part.candidate? address = none := by
  induction modules with
  | nil => simp
  | cons part rest ih =>
      rw [tightest?_cons, List.forall_mem_cons, ← ih]
      cases part.candidate? address <;> cases tightest? ⟨rest⟩ address <;>
        simp [Candidate.tighter_some]

theorem lookup_eq_none_iff (table : Table) (address : Address) :
    table.lookup address = none ↔ ∀ part ∈ table.modules, part.candidate? address = none := by
  simpa [lookup] using tightest?_eq_none_iff table.modules address

theorem tightest?_append (earlier later : List Module) (address : Address) :
    tightest? ⟨earlier ++ later⟩ address =
      Candidate.tighter (tightest? ⟨earlier⟩ address) (tightest? ⟨later⟩ address) := by
  have both : tightest? ⟨earlier ++ later⟩ address =
      later.foldl (fun best part => Candidate.tighter best (part.candidate? address))
        (tightest? ⟨earlier⟩ address) := List.foldl_append
  rw [both, foldl_tighter]

def Leads (modules : List Module) (address : Address) (candidate : Candidate) : Prop :=
  ∃ earlier part later, modules = earlier ++ part :: later ∧
    part.candidate? address = some candidate ∧
    (∀ other ∈ earlier, ∀ rival, other.candidate? address = some rival →
      candidate.isTighterThan rival = true) ∧
    ∀ other ∈ later, ∀ rival, other.candidate? address = some rival →
      ¬rival.isTighterThan candidate = true

section Leads

variable {part : Module} {rest : List Module} {address : Address} {candidate : Candidate}

theorem leads_head (own : part.candidate? address = some candidate)
    (unbeaten : ∀ other ∈ rest, ∀ rival, other.candidate? address = some rival →
      ¬rival.isTighterThan candidate = true) : Leads (part :: rest) address candidate :=
  ⟨[], part, rest, rfl, own, by simp, unbeaten⟩

theorem Leads.prepend (leads : Leads rest address candidate)
    (beaten : ∀ rival, part.candidate? address = some rival →
      candidate.isTighterThan rival = true) : Leads (part :: rest) address candidate := by
  obtain ⟨earlier, winner, later, rfl, wins, before, behind⟩ := leads
  refine ⟨part :: earlier, winner, later, rfl, wins, ?_, behind⟩
  intro other member
  cases member with
  | head => exact beaten
  | tail _ member => exact before other member

theorem Leads.unbeaten (leads : Leads rest address candidate) {first : Candidate}
    (notTighter : ¬candidate.isTighterThan first = true) (other : Module) (member : other ∈ rest)
    (rival : Candidate) (rivals : other.candidate? address = some rival) :
    ¬rival.isTighterThan first = true := by
  obtain ⟨earlier, winner, later, rfl, wins, before, behind⟩ := leads
  -- Whatever beats the first candidate would make the leading one beat it too.
  intro beats
  apply notTighter
  rcases List.mem_append.1 member with inFront | atOrBehind
  · exact Candidate.isTighterThan_trans (before other inFront rival rivals) beats
  · rcases List.mem_cons.1 atOrBehind with rfl | inBack
    · rwa [Option.some.inj (wins.symm.trans rivals)]
    · exact Candidate.isTighterThan_of_not (behind other inBack rival rivals) beats

end Leads

theorem leads_of_tightest? (modules : List Module) (address : Address) (candidate : Candidate)
    (found : tightest? ⟨modules⟩ address = some candidate) :
    Leads modules address candidate := by
  induction modules generalizing candidate with
  | nil => simp at found
  | cons part rest ih =>
      rw [tightest?_cons] at found
      cases own : part.candidate? address with
      | none =>
          rw [own, Candidate.none_tighter] at found
          exact (ih candidate found).prepend (by simp [own])
      | some first =>
          cases best : tightest? ⟨rest⟩ address with
          | none =>
              rw [own, best, Candidate.tighter_none] at found
              have silent := (tightest?_eq_none_iff rest address).1 best
              apply leads_head (own.trans found)
              intro other member rival rivals
              simp [silent other member] at rivals
          | some second =>
              rw [own, best, Candidate.tighter_some, Option.some.injEq] at found
              by_cases closer : second.isTighterThan first
              · rw [if_pos closer] at found
                subst found
                apply (ih second best).prepend
                intro rival rivals
                rwa [← Option.some.inj (own.symm.trans rivals)]
              · rw [if_neg closer] at found
                subst found
                exact leads_head own ((ih second best).unbeaten closer)

end Table

def Resolved.tighter : Option Resolved → Option Resolved → Option Resolved
  | none, other => other
  | some first, none => some first
  | some first, some other =>
      if other.offset < first.offset ∨ other.offset = first.offset ∧ other.size < first.size then
        some other
      else some first

theorem Candidate.map_resolved_tighter (first other : Option Candidate) :
    (tighter first other).map resolved =
      Resolved.tighter (first.map resolved) (other.map resolved) := by
  cases first with
  | none => rfl
  | some first =>
      cases other with
      | none => rfl
      | some other =>
          have same : (other.resolved.offset < first.resolved.offset ∨
              other.resolved.offset = first.resolved.offset ∧
                other.resolved.size < first.resolved.size) ↔ other.isTighterThan first = true :=
            (isTighterThan_iff other first).symm
          simp only [tighter_some, Option.map_some, Resolved.tighter, same]
          split <;> rfl

theorem Table.lookup_append (earlier later : List Module) (address : Address) :
    lookup ⟨earlier ++ later⟩ address =
      Resolved.tighter (lookup ⟨earlier⟩ address) (lookup ⟨later⟩ address) := by
  rw [lookup, tightest?_append, Candidate.map_resolved_tighter]
  rfl

end Symbolizer
