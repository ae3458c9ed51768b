import Mathlib.Data.List.Induction
import Symbolizer.Proofs.Source.Lines
import Symbolizer.Store.Session

set_option autoImplicit false

namespace Symbolizer

abbrev Step := Action × Reply

def Step.settles : Step → Bool
  | (.reset, _) => true
  | (.build _, .built (.ok _) _) => true
  | _ => false

def Settled (options : BuildOptions) : Option Step → Table → Prop
  | some (.build source, .built (.ok report) _), table =>
      if report = .sourceAbsent then table = .empty
      else ∃ outcome, source.outcome options = .ok outcome ∧ table = outcome.table
  | _, table => table = .empty

namespace Store

theorem report_ne_sourceAbsent (outcome : BuildOutcome) : report outcome ≠ .sourceAbsent := by
  unfold report
  split <;> simp

theorem build_of_outcome (store : Store) (source : Source) :
    (∀ outcome, source.outcome store.options = .ok outcome →
      (store.build source).result = .ok (report outcome) ∧
        (store.build source).store = store.publish outcome.table) ∧
    (∀ name, source.outcome store.options = .error (.absent name) →
      (store.build source).result = .ok .sourceAbsent ∧
        (store.build source).store = store.publish .empty) ∧
    ∀ failure, source.outcome store.options = .error failure → failure.isAbsent = false →
      (store.build source).result = .error failure ∧ (store.build source).store = store := by
  unfold build Source.outcome
  refine ⟨?_, ?_, ?_⟩
  · intro outcome read
    simp [read]
  · intro name read
    simp [read]
  · intro failure read present
    cases failure with
    | absent name => contradiction
    | notOpened | notAllocated | notRead => simp [read]

theorem build_result (store : Store) (source : Source) :
    (store.build source).result =
      match source.opening with
      | .absent => .ok .sourceAbsent
      | .refused reason => .error (.notOpened source.name reason)
      | .opened stream =>
          match stream.failure with
          | some reason => .error (.notRead reason)
          | none => .ok (Store.report (buildLines store.options stream.lines)) := by
  have read := source.outcome_eq store.options
  obtain ⟨loaded, absent, refused⟩ := store.build_of_outcome source
  cases opens : source.opening with
  | absent =>
      simp only [opens] at read
      exact (absent _ read).1
  | refused reason =>
      simp only [opens] at read
      exact (refused _ read rfl).1
  | opened stream =>
      cases failing : stream.failure <;> simp only [opens, failing] at read ⊢
      · exact (loaded _ read).1
      · exact (refused _ read rfl).1

theorem build_eq_sourceAbsent_iff (store : Store) (source : Source) :
    (store.build source).result = .ok .sourceAbsent ↔ source.opening = .absent := by
  rw [build_result]
  cases source.opening with
  | absent => simp
  | refused reason => simp
  | opened stream =>
      cases failing : stream.failure <;> simp [failing, report_ne_sourceAbsent]

theorem build_ok_iff (store : Store) (source : Source) :
    (∃ report, (store.build source).result = .ok report) ↔
      source.opening = .absent ∨
        ∃ stream, source.opening = .opened stream ∧ stream.failure = none := by
  rw [build_result]
  cases source.opening with
  | absent => simp
  | refused reason => simp
  | opened stream => cases failing : stream.failure <;> simp [failing]

theorem build_cases (store : Store) (source : Source) :
    (∃ outcome, source.outcome store.options = .ok outcome ∧
      (store.build source).result = .ok (report outcome) ∧
      (store.build source).store = store.publish outcome.table) ∨
    ((store.build source).result = .ok .sourceAbsent ∧
      (store.build source).store = store.publish .empty) ∨
    (∃ failure, source.outcome store.options = .error failure ∧ failure.isAbsent = false ∧
      (store.build source).result = .error failure ∧ (store.build source).store = store) := by
  obtain ⟨loaded, absent, failed⟩ := store.build_of_outcome source
  cases read : source.outcome store.options with
  | ok outcome => exact .inl ⟨outcome, rfl, loaded outcome read⟩
  | error failure =>
      right
      cases failure with
      | absent name => exact .inl (absent name read)
      | _ => exact .inr ⟨_, rfl, rfl, failed _ read rfl⟩

theorem build_failure (store : Store) (source : Source) (failure : LoadFailure)
    (failed : (store.build source).result = .error failure) :
    (store.build source).store = store ∧
      ∃ reason, failure = .notOpened source.name reason ∨ failure = .notRead reason := by
  have unchanged : (store.build source).store = store := by
    rcases store.build_cases source with
      ⟨outcome, _, result, _⟩ | ⟨result, _⟩ | ⟨other, _, _, _, after⟩
    · simp [result] at failed
    · simp [result] at failed
    · exact after
  refine ⟨unchanged, ?_⟩
  rw [build_result] at failed
  cases opening : source.opening with
  | absent => simp [opening] at failed
  | refused reason => exact ⟨reason, .inl (by simpa [opening] using failed.symm)⟩
  | opened stream =>
      cases failing : stream.failure with
      | none => simp [opening, failing] at failed
      | some reason => exact ⟨reason, .inr (by simpa [opening, failing] using failed.symm)⟩

theorem build_options (store : Store) (source : Source) :
    (store.build source).store.options = store.options := by
  rcases store.build_cases source with
    ⟨outcome, _, _, after⟩ | ⟨_, after⟩ | ⟨failure, _, _, _, after⟩
  · rw [after, publish]
  · rw [after, publish]
  · rw [after]

end Store

namespace Session

def opened (options : BuildOptions) : Session :=
  { store := { options } }

def steps (session : Session) : List Action → List Step
  | [] => []
  | action :: rest =>
      (action, (session.perform action).2) :: steps (session.perform action).1 rest

theorem run_cons (session : Session) (action : Action) (rest : List Action) :
    session.run (action :: rest) = (session.perform action).1.run rest := rfl

theorem run_concat (session : Session) (actions : List Action) (action : Action) :
    session.run (actions ++ [action]) = ((session.run actions).perform action).1 := by
  simp [run]

theorem steps_concat (session : Session) (actions : List Action) (action : Action) :
    session.steps (actions ++ [action]) =
      session.steps actions ++ [(action, ((session.run actions).perform action).2)] := by
  induction actions generalizing session with
  | nil => rfl
  | cons first rest ih => simp [steps, run_cons, ih]

theorem perform_options (session : Session) (action : Action) :
    (session.perform action).1.store.options = session.store.options := by
  cases action with
  | build source => exact session.store.build_options source
  | reset => rfl
  | lookup address => rfl
  | snapshot => rfl
  | hold => rfl

theorem run_options (session : Session) (actions : List Action) :
    (session.run actions).store.options = session.store.options := by
  induction actions using List.reverseRecOn with
  | nil => rfl
  | append_singleton actions action ih => rw [run_concat, perform_options, ih]

theorem settled_of_settles (session : Session) (action : Action)
    (settles : Step.settles (action, (session.perform action).2) = true) :
    Settled session.store.options (some (action, (session.perform action).2))
      (session.perform action).1.store.published := by
  cases action with
  | build source =>
      simp only [perform] at settles ⊢
      rcases session.store.build_cases source with
        ⟨outcome, read, result, after⟩ | ⟨result, after⟩ | ⟨failure, _, _, result, _⟩
      · rw [result, after]
        simpa [Settled, Store.report_ne_sourceAbsent] using ⟨outcome, read, rfl⟩
      · rw [result, after]
        simp [Settled, Store.publish]
      · simp [Step.settles, result] at settles
  | reset => rfl
  | lookup address => contradiction
  | snapshot => contradiction
  | hold => contradiction

theorem store_of_not_settles (session : Session) (action : Action)
    (unsettled : ¬Step.settles (action, (session.perform action).2) = true) :
    (session.perform action).1.store = session.store := by
  cases action with
  | build source =>
      simp only [perform] at unsettled ⊢
      rcases session.store.build_cases source with
        ⟨outcome, _, result, _⟩ | ⟨result, _⟩ | ⟨failure, _, _, _, after⟩
      · simp [Step.settles, result] at unsettled
      · simp [Step.settles, result] at unsettled
      · exact after
  | reset => contradiction
  | lookup address => rfl
  | snapshot => rfl
  | hold => rfl

theorem settled_run (options : BuildOptions) (actions : List Action) :
    Settled options (((opened options).steps actions).reverse.find? Step.settles)
      ((opened options).run actions).store.published := by
  -- From the end: the last step settles what is published, or the store is as before it.
  induction actions using List.reverseRecOn with
  | nil => rfl
  | append_singleton actions action ih =>
      have same : ((opened options).run actions).store.options = options :=
        run_options (opened options) actions
      rw [steps_concat, run_concat, List.reverse_append, List.reverse_singleton,
        List.singleton_append]
      by_cases here : Step.settles (action, (((opened options).run actions).perform action).2)
      · have settled := settled_of_settles _ action here
        rw [same] at settled
        rwa [List.find?_cons_of_pos here]
      · rwa [List.find?_cons_of_neg here, store_of_not_settles _ action here]

theorem perform_held (session : Session) (action : Action) :
    session.held <+: (session.perform action).1.held := by
  cases action with
  | hold => exact List.prefix_append _ _
  | _ => exact List.prefix_refl _

theorem run_held (session : Session) (actions : List Action) :
    session.held <+: (session.run actions).held := by
  induction actions generalizing session with
  | nil => exact List.prefix_refl _
  | cons action rest ih => exact (session.perform_held action).trans (ih _)

theorem held_run_hold (session : Session) (later : List Action) :
    (session.run (.hold :: later)).held[session.held.length]? = some session.store.published := by
  -- What is held grows at its end only.
  have kept := (session.perform .hold).1.run_held later
  have held : (session.perform .hold).1.held = session.held ++ [session.store.published] := rfl
  obtain ⟨more, whole⟩ := kept
  rw [run_cons, ← whole, held, List.append_assoc, List.getElem?_append_right (Nat.le_refl _),
    Nat.sub_self]
  rfl

/-- What holds of a session with the steps behind it, whatever is done with it from now on. -/
structure Lawful (options : BuildOptions) (past : List Step) (session : Session) : Prop where
  published : Settled options (past.reverse.find? Step.settles) session.store.published
  succeeds : ∀ source,
    (∃ report journal, (session.perform (.build source)).2 = .built (.ok report) journal) ↔
      source.opening = .absent ∨
        ∃ stream, source.opening = .opened stream ∧ stream.failure = none
  failed : ∀ source failure journal,
    (session.perform (.build source)).2 = .built (.error failure) journal →
      (session.perform (.build source)).1 = session ∧
        ∃ reason, failure = .notOpened source.name reason ∨ failure = .notRead reason
  lookup : ∀ address, (session.perform (.lookup address)).1 = session
  snapshot : (session.perform .snapshot).1 = session ∧
    ∃ table, (session.perform .snapshot).2 = .table table ∧
      ∀ address, (session.perform (.lookup address)).2 = .resolved (table.lookup address)
  hold : (session.perform .hold).1.store = session.store ∧
    ∃ slot table, (session.perform .hold).2 = .slot slot ∧
      (∀ address, (session.perform (.lookup address)).2 = .resolved (table.lookup address)) ∧
      ∀ later, (session.run (.hold :: later)).held[slot]? = some table

theorem run_lawful (options : BuildOptions) (actions : List Action) :
    Lawful options ((opened options).steps actions) ((opened options).run actions) := by
  constructor
  · exact settled_run options actions
  · intro source
    rw [← Store.build_ok_iff ((opened options).run actions).store source]
    simp [perform]
  · intro source failure journal reply
    simp only [perform, Reply.built.injEq] at reply ⊢
    obtain ⟨same, read⟩ := Store.build_failure _ source failure reply.1
    exact ⟨by rw [same], read⟩
  · intro address
    rfl
  · exact ⟨rfl, _, rfl, fun address => rfl⟩
  · exact ⟨rfl, _, _, rfl, fun address => rfl, held_run_hold _⟩

end Session

end Symbolizer
