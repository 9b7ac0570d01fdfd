import InstanceDirectory.Proofs.Projecting

/-!
# Fitting rows

A list of values fits an instance when it is wide enough and every column holds what it has to.
The requirements on columns form a table, in the order in which they are judged: a row that
meets all of them decodes, and the first one that a row does not meet is what is said of it.
-/

namespace InstanceDirectory
namespace Row

/-! ## Requirements on columns -/

/-- What the column at a position has to hold, and what is said of a value that does not fit. -/
structure Requirement where
  /-- The position of the column. -/
  position : Nat
  /-- The values that fit. -/
  admits : Value -> Bool
  /-- What is said of any other value. -/
  complaint : Value -> Failure

namespace Requirement

/-- A text that is not empty. -/
def identity (position : Nat) : Requirement where
  position := position
  admits
    | .text content => !content.isEmpty
    | _ => false
  complaint
    | .null => .value "instance id is empty"
    | .text _ => .value "instance id is empty"
    | value => .type ("expected text column, got " ++ value.kindName)

/-- An integer that is not negative; truth values are integers. -/
def sequence (position : Nat) : Requirement where
  position := position
  admits value := value.integer?.any fun number => decide (0 ≤ number)
  complaint value := .value (value.inMessage fun literal => "invalid sequence " ++ literal)

/-- A timestamp; a date alone is none. -/
def timestamp (position : Nat) : Requirement where
  position := position
  admits
    | .timestamp _ => true
    | _ => false
  complaint value := .type ("expected timestamp column, got " ++ value.kindName)

/-- A text, or null. -/
def text (position : Nat) : Requirement where
  position := position
  admits
    | .null => true
    | .text _ => true
    | _ => false
  complaint value := .type ("expected text column, got " ++ value.kindName)

/-- The number of a setup stage, or a value that is blank. -/
def setupStep (position : Nat) : Requirement where
  position := position
  admits value :=
    value.isBlank || value.toInt?.any fun number => decide (0 ≤ number ∧ number ≤ 25)
  complaint value :=
    .value (value.inMessage fun literal => literal ++ " is not a valid SetupStep")

/-- The requirements on the columns of an instance, in the order in which they are judged. -/
def ofInstance : List Requirement := [
    identity 0, sequence 3, timestamp 1, timestamp 2, text 4, text 5, text 6, text 7,
    setupStep 8, setupStep 9, text 10
  ]

/-- What is said of the first requirement that a row does not meet. -/
def complaint? (items : List Value) : List Requirement -> Option Failure
  | [] => none
  | requirement :: rest =>
      if requirement.admits (items.getD requirement.position .null) then complaint? items rest
      else some (requirement.complaint (items.getD requirement.position .null))

/-- A row meets a list of requirements when there is nothing to say of it. -/
theorem complaint?_eq_none_iff {items : List Value} {requirements : List Requirement} :
    complaint? items requirements = none ↔
      ∀ requirement ∈ requirements,
        requirement.admits (items.getD requirement.position .null) = true := by
  induction requirements with
  | nil => simp [complaint?]
  | cons requirement rest restHypothesis =>
      rw [complaint?, List.forall_mem_cons, ← restHypothesis]
      split
      next admitted => rw [and_iff_right admitted]
      next refused => exact ⟨nofun, fun both => absurd both.1 refused⟩

end Requirement

/-! ## Judging a row -/

/-- A reader answers for the values that a requirement admits, and complains of all others. -/
structure Requirement.IsReadBy
    (requirement : Requirement) (reader : Value -> Except Failure α) : Prop where
  answers : ∀ value, requirement.admits value = true -> ∃ answer, reader value = .ok answer
  complains : ∀ value, requirement.admits value = false ->
    reader value = .error (requirement.complaint value)

namespace Requirement

theorem text_isReadBy (position : Nat) : (text position).IsReadBy Row.text := by
  constructor
  · intro value admitted
    cases value with
    | null => exact ⟨"", rfl⟩
    | text content => exact ⟨content, rfl⟩
    | _ => cases admitted
  · intro value refused
    cases value with
    | null => cases refused
    | text content => cases refused
    | _ => rfl

theorem timestamp_isReadBy (position : Nat) : (timestamp position).IsReadBy Row.timestamp := by
  constructor
  · intro value admitted
    cases value with
    | timestamp moment => exact ⟨moment, rfl⟩
    | _ => cases admitted
  · intro value refused
    cases value with
    | timestamp moment => cases refused
    | _ => rfl

theorem identity_isReadBy (position : Nat) : (identity position).IsReadBy Row.identity := by
  constructor
  · intro value admitted
    cases value with
    | text content =>
        have nonempty : content ≠ "" := by simpa [identity] using admitted
        exact ⟨content, identity_eq_ok_iff.mpr ⟨rfl, nonempty⟩⟩
    | _ => cases admitted
  · intro value refused
    cases value with
    | text content =>
        obtain rfl : content = "" := by simpa [identity] using refused
        rfl
    | _ => rfl

theorem sequence_isReadBy (position : Nat) :
    (sequence position).IsReadBy (Row.tally "sequence") := by
  constructor
  · intro value admitted
    cases value with
    | bool holds => exact ⟨.truth holds, rfl⟩
    | int number =>
        cases number with
        | ofNat number => exact ⟨.count number, rfl⟩
        | negSucc number => cases admitted
    | _ => cases admitted
  · intro value refused
    cases value with
    | bool holds => cases holds <;> cases refused
    | int number =>
        cases number with
        | ofNat number => cases refused
        | negSucc number => rfl
    | _ => rfl

theorem setupStep_isReadBy (position : Nat) : (setupStep position).IsReadBy Row.setupStep := by
  constructor
  · intro value admitted
    simp only [setupStep, Bool.or_eq_true, Option.any_eq_true, decide_eq_true_eq] at admitted
    rcases blank : value.isBlank with _ | _
    · rw [blank] at admitted
      obtain ⟨number, isNumber, least, most⟩ := admitted.resolve_left nofun
      have bounded : number.toNat < 26 := by omega
      have same : (number.toNat : Int) = number := Int.toNat_of_nonneg least
      refine ⟨⟨⟨number.toNat, bounded⟩⟩, setupStep_eq_ok_iff.mpr ?_⟩
      rw [Value.HoldsStep, blank, if_neg nofun, isNumber, same]
    · exact ⟨.unspecified, by rw [Row.setupStep, if_pos blank]⟩
  · intro value refused
    simp only [setupStep, Bool.or_eq_false_iff, Option.any_eq_false] at refused
    obtain ⟨full, unknown⟩ := refused
    rw [Row.setupStep, if_neg (Bool.eq_false_iff.mp full)]
    cases found : SetupStep.ofValue? value with
    | none => rfl
    | some step =>
        have isNumber := SetupStep.ofValue?_eq_some_iff.mp found
        have bounded := step.number.isLt
        have outside := of_decide_eq_false (unknown _ isNumber)
        omega

end Requirement

/-- A computation answers if there is nothing to complain of, and else fails with the complaint. -/
def Judged : Option Failure -> Except Failure α -> Prop
  | none, computation => ∃ answer, computation = .ok answer
  | some complaint, computation => computation = .error complaint

/-- Reading a column and then others is judged by its own requirement first. -/
theorem Judged.bind
    {items : List Value}
    {requirement : Requirement}
    {requirements : List Requirement}
    {reader : Value -> Except Failure β}
    {next : β -> Except Failure α}
    (isRead : requirement.IsReadBy reader)
    (later : ∀ answer, Judged (Requirement.complaint? items requirements) (next answer)) :
    Judged (Requirement.complaint? items (requirement :: requirements))
      (reader (items.getD requirement.position .null) >>= next) := by
  rw [Requirement.complaint?]
  split
  next admitted =>
    obtain ⟨answer, read⟩ := isRead.answers _ admitted
    rw [read]
    exact later answer
  next refused =>
    rw [isRead.complains _ (Bool.eq_false_iff.mpr refused)]
    rfl

/-- The columns of a row by their names, as the projection orders them. -/
def named (items : List Value) : Assignment :=
  fun column => items.getD (Column.projection.idxOf column) .null

/-- A row that is wide enough holds the columns of the projection, and maybe others. -/
theorem map_named_append_drop
    {items : List Value}
    (wide : instanceWidth ≤ items.length) :
    Column.projection.map (named items) ++ items.drop instanceWidth = items := by
  have leading : Column.projection.map (named items) = items.take instanceWidth := by
    apply List.ext_getElem
    · rw [List.length_map, List.length_take, Nat.min_eq_left wide]
      rfl
    · intro index inProjection inRow
      rw [List.length_map] at inProjection
      have nodup : Column.projection.Nodup := by decide
      have within : index < items.length := Nat.lt_of_lt_of_le inProjection wide
      rw [List.getElem_map, named, nodup.idxOf_getElem index inProjection, List.getElem_take,
        List.getD_eq_getElem?_getD, List.getElem?_eq_getElem within, Option.getD_some]
  rw [leading, List.take_append_drop]

/-- A row that is wide enough is judged by the requirements on its columns. -/
theorem judged_decodeColumns (host : String) (row : Assignment) (others : List Value) :
    Judged
      (Requirement.complaint? (Column.projection.map row ++ others) Requirement.ofInstance)
      (decodeColumns host (Column.projection.map row ++ others)) := by
  refine Judged.bind (Requirement.identity_isReadBy 0) fun id => ?_
  refine Judged.bind (Requirement.sequence_isReadBy 3) fun sequence => ?_
  refine Judged.bind (Requirement.timestamp_isReadBy 1) fun creationDate => ?_
  refine Judged.bind (Requirement.timestamp_isReadBy 2) fun changeDate => ?_
  refine Judged.bind (Requirement.text_isReadBy 4) fun globalOrgId => ?_
  refine Judged.bind (Requirement.text_isReadBy 5) fun iamProjectId => ?_
  refine Judged.bind (Requirement.text_isReadBy 6) fun consoleId => ?_
  refine Judged.bind (Requirement.text_isReadBy 7) fun consoleAppId => ?_
  refine Judged.bind (Requirement.setupStep_isReadBy 8) fun setupStarted => ?_
  refine Judged.bind (Requirement.setupStep_isReadBy 9) fun setupDone => ?_
  refine Judged.bind (Requirement.text_isReadBy 10) fun language => ?_
  exact ⟨_, rfl⟩

/-- A row that is too narrow has no instance. -/
theorem decodeColumns_of_narrow
    {items : List Value}
    (narrow : items.length < instanceWidth)
    (host : String) :
    decodeColumns host items = .error (tooNarrow items.length) := by
  unfold decodeColumns
  split
  next =>
    simp only [List.length_cons, instanceWidth] at narrow
    omega
  next => rfl

/-- A row that fits an instance: wide enough, and with what is required in every column. -/
structure IsWellFormed (items : List Value) : Prop where
  wide : instanceWidth ≤ items.length
  fits : ∀ requirement ∈ Requirement.ofInstance,
    requirement.admits (items.getD requirement.position .null) = true

/-- What is said of a row that does not fit: its width is judged first. -/
def misfit? (items : List Value) : Option Failure :=
  if items.length < instanceWidth then some (tooNarrow items.length)
  else Requirement.complaint? items Requirement.ofInstance

theorem misfit?_eq_none_iff {items : List Value} : misfit? items = none ↔ IsWellFormed items := by
  unfold misfit?
  split
  next narrow =>
    constructor
    · nofun
    · exact fun wellFormed => absurd wellFormed.wide (Nat.not_le_of_lt narrow)
  next wide =>
    rw [Requirement.complaint?_eq_none_iff]
    exact ⟨fun fits => ⟨Nat.le_of_not_lt wide, fits⟩, IsWellFormed.fits⟩

/-- Reading the columns of a row is judged by its width and its columns. -/
theorem judged_columns (host : String) (items : List Value) :
    Judged (misfit? items) (decodeColumns host items) := by
  unfold misfit?
  split
  next narrow => exact decodeColumns_of_narrow narrow host
  next wide =>
    have whole := map_named_append_drop (Nat.le_of_not_lt wide)
    have judged := judged_decodeColumns host (named items) (items.drop instanceWidth)
    rwa [whole] at judged

/-- The rows that fit are those that can be read. -/
theorem exists_decodeColumns_iff {host : String} {items : List Value} :
    (∃ inst, decodeColumns host items = .ok inst) ↔ IsWellFormed items := by
  have judged := judged_columns host items
  rw [← misfit?_eq_none_iff]
  cases misfit : misfit? items with
  | none =>
      rw [misfit] at judged
      exact iff_of_true judged rfl
  | some complaint =>
      rw [misfit] at judged
      refine iff_of_false ?_ nofun
      rintro ⟨inst, read⟩
      rw [read] at judged
      cases judged

/-- What can be read of a row is what its columns hold. -/
theorem carries_of_decodeColumns
    {host : String}
    {items : List Value}
    {inst : Instance}
    (read : decodeColumns host items = .ok inst) :
    inst.Carries (named items) ∧ inst.host = host := by
  have fits : IsWellFormed items := exists_decodeColumns_iff.mp ⟨inst, read⟩
  rw [← map_named_append_drop fits.wide] at read
  exact (decodeColumns_eq_ok_iff _).mp read

/-- Columns after those of an instance are left alone. -/
theorem decodeColumns_append
    {items : List Value}
    (wide : instanceWidth ≤ items.length)
    (host : String)
    (others : List Value) :
    decodeColumns host (items ++ others) = decodeColumns host items := by
  rw [← map_named_append_drop wide, List.append_assoc]
  rfl

/-- Details that name nothing that a query failure has anyway. -/
def KeepsApart (details : Fields) : Prop :=
  ∀ field ∈ details, field.1 ∉ ["error_id", "message", "self"]

theorem repeated?_of_keepsApart {details : Fields} (apart : KeepsApart details) :
    Failure.repeated? details = none := by
  have noErrorId : Fields.contains details "error_id" = false := by
    rw [Fields.contains, List.any_eq_false]
    intro field present same
    rw [beq_iff_eq] at same
    exact apart field present (by simp [same])
  have noOther : details.find? (fun field => field.1 == "message" || field.1 == "self") = none := by
    rw [List.find?_eq_none]
    intro field present same
    rw [Bool.or_eq_true, beq_iff_eq, beq_iff_eq] at same
    refine apart field present ?_
    rcases same with same | same <;> simp [same]
  rw [Failure.repeated?, noErrorId, noOther]
  rfl

/-- How a lookup of a single row judges a row of values. -/
structure Judges (items : List Value) (host : String) (details : Fields) : Prop where
  /-- The rows that fit are answered, and no others are. -/
  accepts : (∃ inst, single (.list items) host details = .ok inst) ↔ IsWellFormed items
  /-- The instance holds what the columns hold, and the host of the request. -/
  carries : ∀ inst, single (.list items) host details = .ok inst ->
    inst.Carries (named items) ∧ inst.host = host
  /-- A tag that is empty or malformed stands for the undefined language. -/
  undefined : ∀ inst stored, single (.list items) host details = .ok inst ->
    (named items .defaultLanguage).HoldsText stored ->
    stored = "" ∨ Language.resolve? Language.replacementDepth stored = none ->
    inst.defaultLanguage = .undefined
  /-- Further columns do not matter. -/
  ignores : ∀ others, instanceWidth ≤ items.length ->
    single (.list (items ++ others)) host details = single (.list items) host details
  /-- A row that does not fit is reported with the details, because of what is said of it. -/
  rejects : KeepsApart details -> ¬ IsWellFormed items ->
    ∃ complaint, misfit? items = some complaint ∧
      single (.list items) host details = .error {
        kind := .query .internal "QUERY-d9nw" details
        message := "Errors.Internal"
        cause := some complaint }

/--
A single row is accepted exactly when it fits, and then its instance holds what its columns
hold.  Of a row that does not fit, the first requirement that is not met is reported.
-/
theorem single_judges (items : List Value) (host : String) (details : Fields) :
    Judges items host details := by
  have answered (inst : Instance) :
      single (.list items) host details = .ok inst ↔ decodeColumns host items = .ok inst := by
    show (decodeColumns host items).mapError _ = _ ↔ _
    cases decodeColumns host items <;> simp [Except.mapError]
  refine {
    accepts := ?accepts, carries := ?carries, undefined := ?undefined, ignores := ?ignores
    rejects := ?rejects }
  case accepts => simp only [answered, exists_decodeColumns_iff]
  case carries => exact fun inst isAnswer => carries_of_decodeColumns ((answered inst).mp isAnswer)
  case undefined =>
    intro inst stored isAnswer holds malformed
    have carries := (carries_of_decodeColumns ((answered inst).mp isAnswer)).1
    obtain ⟨content, alsoHolds, parsed⟩ := carries.defaultLanguage
    obtain rfl : content = stored := by
      have same := text_eq_ok_iff.mpr alsoHolds
      rw [text_eq_ok_iff.mpr holds] at same
      exact (Except.ok.inj same).symm
    rw [parsed]
    rcases malformed with rfl | unresolved
    · rfl
    · rw [Language.parse, unresolved]
      exact ite_self _
  case ignores =>
    intro others wide
    show (decodeColumns host (items ++ others)).mapError _ = (decodeColumns host items).mapError _
    rw [decodeColumns_append wide]
  case rejects =>
    intro apart unfit
    have judged := judged_columns host items
    cases misfit : misfit? items with
    | none => exact absurd (misfit?_eq_none_iff.mp misfit) unfit
    | some complaint =>
        rw [misfit] at judged
        have failed : decodeColumns host items = .error complaint := judged
        have isDecode := decodeColumns_failsByDecoding host items complaint failed
        refine ⟨complaint, rfl, ?_⟩
        show (decodeColumns host items).mapError _ = _
        rw [failed]
        show Except.error (report _ _ _ _) = _
        rw [report, if_pos isDecode, Failure.internal, Failure.query,
          repeated?_of_keepsApart apart]

/-- A row that does not fit is not reported with details that name the failure itself. -/
theorem single_of_repeated :
    ¬ IsWellFormed [.text "a"] ∧
    single (.list [.text "a"]) "" [("self", .int 1)] = .error (.duplicate "self") ∧
    ∀ cause, single (.list [.text "a"]) "" [("self", .int 1)] ≠ .error {
      kind := .query .internal "QUERY-d9nw" [("self", .int 1)]
      message := "Errors.Internal"
      cause } := by
  have reported : single (.list [.text "a"]) "" [("self", .int 1)] =
      .error (.duplicate "self") := rfl
  refine ⟨fun fits => absurd fits.wide (by decide), reported, fun cause same => ?_⟩
  rw [reported] at same
  cases same

/-- The sequence of a row is judged before the columns that stand in front of it. -/
example :
    misfit? [.text "a", .null, .null, .text "1", .null, .null, .null, .null, .null, .null, .int 7] =
      some (.value "invalid sequence '1'") := rfl

end Row
end InstanceDirectory
