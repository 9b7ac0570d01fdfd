import InstanceDirectory.Account

/-!
# Recording events of reads

An event is refused when an entry of the observation repeats one of its fields or a name
that the log keeps for itself, and a refused event takes the place of the outcome.  A
reporter without such entries records every event of a read, and then no outcome depends
on the observation.
-/

namespace InstanceDirectory

/-- What is attached to every event. -/
def Reporter.entries (reporter : Reporter) : Fields :=
  (reporter.observation.map Observation.entries).getD []

/-- The keys that events of reads use themselves. -/
def ReadEvent.ownKeys : List String := [
    "lookup", "retrieved_instance_id", "key", "error", "error_type", "returned", "total"
  ]

/-- No entry repeats what an event of a read, or the log itself, uses already. -/
def Reporter.IsUnobtrusive (reporter : Reporter) : Prop :=
  ∀ entry ∈ reporter.entries,
    entry.1 ∉ ReadEvent.ownKeys ∧ entry.1 ∉ LogEntry.keptKeys ∧ entry.1 ≠ LogEntry.writtenKey

/-- The fields of an event of a read are among its own keys. -/
theorem ReadEvent.ownKeys_of_contains
    {event : ReadEvent}
    {key : String}
    (present : Fields.contains event.entry.fields key) :
    key ∈ ownKeys := by
  cases event <;> simp [entry, Fields.contains] at present <;>
    rcases present with rfl | rfl | rfl | rfl <;> decide

namespace LogEntry

theorem clash?_eq_none_iff {fields entries : Fields} :
    clash? fields entries = none ↔
      ∀ entry ∈ entries, Fields.contains fields entry.1 = false := by
  simp only [clash?, Option.map_eq_none_iff, List.find?_eq_none, Bool.not_eq_true]

theorem kept?_eq_none_iff
    {entries : Fields}
    {written : Bool} :
    kept? entries written = none ↔
      ∀ entry ∈ entries, entry.1 ∉ keptKeys ∧ (written -> entry.1 ≠ writtenKey) := by
  cases kept : entries.find? fun entry => keptKeys.contains entry.1 with
  | some entry =>
      have isKept : entry.1 ∈ keptKeys := by simpa using List.find?_some kept
      simp only [kept?, kept, reduceCtorEq, false_iff]
      intro apart
      exact (apart entry (List.mem_of_find?_eq_some kept)).1 isKept
  | none =>
      have noneKept : ∀ entry ∈ entries, entry.1 ∉ keptKeys := by simpa using kept
      cases written with
      | false =>
          simp only [kept?, kept, Bool.false_and, Bool.false_eq_true, if_false, true_iff]
          exact fun entry present => ⟨noneKept entry present, nofun⟩
      | true =>
          simp only [kept?, kept, Bool.true_and, ite_eq_right_iff, reduceCtorEq, imp_false,
            forall_const, Fields.contains, List.any_eq_true, beq_iff_eq, not_exists, not_and]
          constructor
          · intro apart entry present
            exact ⟨noneKept entry present, apart entry present⟩
          · intro apart entry present
            exact (apart entry present).2

/-- No entry repeats a field, or a key that the log keeps for itself. -/
def Admits (entry : LogEntry) (entries : Fields) (written : Bool) : Prop :=
  ∀ extra ∈ entries, Fields.contains entry.fields extra.1 = false ∧
    extra.1 ∉ keptKeys ∧ (written -> extra.1 ≠ writtenKey)

theorem admits_iff
    {entry : LogEntry}
    {entries : Fields}
    {written : Bool} :
    entry.Admits entries written ↔
      clash? entry.fields entries = none ∧ kept? entries written = none := by
  rw [clash?_eq_none_iff, kept?_eq_none_iff]
  constructor
  · intro admits
    exact ⟨fun extra present => (admits extra present).1,
      fun extra present => (admits extra present).2⟩
  · rintro ⟨apart, free⟩ extra present
    exact ⟨apart extra present, free extra present⟩

/-- Entries are attached when all of them are admitted, and otherwise one of them is named. -/
theorem attach_cases (entry : LogEntry) (entries : Fields) (written : Bool) :
    (entry.Admits entries written ∧
      entry.attach entries written = .ok { entry with fields := entry.fields ++ entries }) ∨
    (¬ entry.Admits entries written ∧
      ∃ key, entry.attach entries written = .error (.duplicate key)) := by
  rw [admits_iff]
  unfold attach
  cases clash? entry.fields entries with
  | some key => exact .inr ⟨nofun, key, rfl⟩
  | none =>
      cases kept? entries written with
      | some key => exact .inr ⟨nofun, key, rfl⟩
      | none => exact .inl ⟨⟨rfl, rfl⟩, rfl⟩

end LogEntry

/-- The entries of a reporter can be attached to an event. -/
def Event.IsAdmittedBy (event : Event) (reporter : Reporter) : Prop :=
  event.entry.Admits reporter.entries (event.entry.level.isWritten reporter.least)

/-- Recording keeps the outcome when the event is admitted, and otherwise a key is named. -/
theorem Account.record_cases
    (event : Event)
    (reporter : Reporter)
    (outcome : Except Failure α) :
    (event.IsAdmittedBy reporter ∧ Account.record event reporter outcome =
      { entries := [{ event.entry with fields := event.entry.fields ++ reporter.entries }]
        outcome }) ∨
    (¬ event.IsAdmittedBy reporter ∧ ∃ key,
      Account.record event reporter outcome = { outcome := .error (.duplicate key) }) := by
  rcases event.entry.attach_cases reporter.entries
      (event.entry.level.isWritten reporter.least) with
    ⟨admits, attached⟩ | ⟨refuses, key, attached⟩
  · refine .inl ⟨admits, ?_⟩
    rw [record, show event.record reporter = _ from attached]
  · refine .inr ⟨refuses, key, ?_⟩
    rw [record, show event.record reporter = _ from attached]

/-- An unobtrusive reporter admits every event of a read. -/
theorem Reporter.IsUnobtrusive.admits
    {reporter : Reporter}
    (unobtrusive : reporter.IsUnobtrusive)
    (event : ReadEvent) :
    (Event.read event).IsAdmittedBy reporter := by
  intro entry present
  obtain ⟨notOwn, notKept, notWritten⟩ := unobtrusive entry present
  refine ⟨?_, notKept, fun _ => notWritten⟩
  rw [← Bool.not_eq_true]
  exact fun repeats => notOwn (ReadEvent.ownKeys_of_contains repeats)

/-- An unobtrusive reporter records every event of a read, so recording changes no outcome. -/
theorem Account.outcome_record
    {reporter : Reporter}
    (unobtrusive : reporter.IsUnobtrusive)
    (event : ReadEvent)
    (outcome : Except Failure α) :
    (Account.record (.read event) reporter outcome).outcome = outcome := by
  rcases Account.record_cases (.read event) reporter outcome with
    ⟨-, recorded⟩ | ⟨refused, -⟩
  · rw [recorded]
  · exact absurd (unobtrusive.admits event) refused

/-- Two events of the same importance say something under the same keys. -/
structure Event.IsLike (event other : Event) : Prop where
  sameLevel : event.entry.level = other.entry.level
  sameKeys : event.entry.fields.map Prod.fst = other.entry.fields.map Prod.fst

/-- Fields with the same keys hold the same keys. -/
theorem Fields.contains_congr
    {fields others : Fields}
    (sameKeys : fields.map Prod.fst = others.map Prod.fst)
    (key : String) :
    contains fields key = contains others key := by
  have ofKeys (fields : Fields) :
      contains fields key = (fields.map Prod.fst).any fun name => name == key := by
    rw [contains, List.any_map]
    rfl
  rw [ofKeys, ofKeys, sameKeys]

/-- Entries are attached to events that are alike, or refused for the same key. -/
theorem LogEntry.attach_alike
    {entry other : LogEntry}
    (sameKeys : entry.fields.map Prod.fst = other.fields.map Prod.fst)
    (entries : Fields)
    (written : Bool) :
    (∃ attached attachedToo, entry.attach entries written = .ok attached ∧
      other.attach entries written = .ok attachedToo) ∨
    (¬ entry.Admits entries written ∧ ∃ key,
      entry.attach entries written = .error (.duplicate key) ∧
      other.attach entries written = .error (.duplicate key)) := by
  have sameClash : clash? other.fields entries = clash? entry.fields entries := by
    unfold clash?
    congr 2
    funext extra
    exact Fields.contains_congr sameKeys.symm extra.1
  rw [admits_iff]
  simp only [attach, sameClash]
  cases clash? entry.fields entries with
  | some key => exact .inr ⟨nofun, key, rfl, rfl⟩
  | none =>
      cases kept? entries written with
      | some key => exact .inr ⟨nofun, key, rfl, rfl⟩
      | none => exact .inl ⟨_, _, rfl, rfl⟩

/-- Events that are alike are both recorded, or both refused for the same key. -/
theorem Account.record_alike
    {event other : Event}
    (alike : event.IsLike other)
    (reporter : Reporter)
    (outcome ending : Except Failure α) :
    ((record event reporter outcome).outcome = outcome ∧
      (record other reporter ending).outcome = ending) ∨
    (¬ event.IsAdmittedBy reporter ∧ ∃ key,
      (record event reporter outcome).outcome = .error (.duplicate key) ∧
      (record other reporter ending).outcome = .error (.duplicate key)) := by
  unfold record
  rcases LogEntry.attach_alike alike.sameKeys reporter.entries
      (event.entry.level.isWritten reporter.least) with
    ⟨attached, attachedToo, first, second⟩ | ⟨refused, key, first, second⟩
  · rw [alike.sameLevel] at second
    rw [show event.record reporter = _ from first, show other.record reporter = _ from second]
    exact .inl ⟨rfl, rfl⟩
  · rw [alike.sameLevel] at second
    rw [show event.record reporter = _ from first, show other.record reporter = _ from second]
    exact .inr ⟨refused, key, rfl, rfl⟩

/-- Whether or not an event is recorded, success is not made by recording it. -/
theorem Account.eq_ok_of_record
    {event : Event}
    {reporter : Reporter}
    {outcome : Except Failure α}
    {answer : α}
    (succeeds : (Account.record event reporter outcome).outcome = .ok answer) :
    outcome = .ok answer := by
  unfold record at succeeds
  split at succeeds
  · exact succeeds
  · cases succeeds

end InstanceDirectory
