import InstanceDirectory.Row

/-!
# Decoding rows

A row in order of its columns decodes, or fails for one of the reasons of decoding: it is
too narrow, or a column is of the wrong kind or has the wrong value.
-/

namespace InstanceDirectory

/-- A computation in two steps answers exactly when its second step does for the first one. -/
theorem bind_eq_ok_iff
    {computation : Except ε α}
    {next : α -> Except ε β}
    {answer : β} :
    (computation >>= next) = .ok answer ↔
      ∃ middle, computation = .ok middle ∧ next middle = .ok answer := by
  cases computation with
  | error failure => simp [bind, Except.bind]
  | ok middle => simp [bind, Except.bind]

/-- A computation that fails, if it fails, for a reason of decoding. -/
def FailsByDecoding (computation : Except Failure α) : Prop :=
  ∀ failure, computation = .error failure -> failure.isDecode

namespace FailsByDecoding

theorem ok (answer : α) : FailsByDecoding (.ok answer) :=
  nofun

theorem error {failure : Failure} (decode : failure.isDecode) :
    FailsByDecoding (.error failure : Except Failure α) := by
  rintro _ ⟨⟩
  exact decode

theorem bind
    {computation : Except Failure α}
    {next : α -> Except Failure β}
    (first : FailsByDecoding computation)
    (rest : ∀ answer, FailsByDecoding (next answer)) :
    FailsByDecoding (computation >>= next) := by
  cases computation with
  | error failure => exact fun found same => first found (by cases same; rfl)
  | ok answer => exact rest answer

end FailsByDecoding

/-- A computation that does not fail as a query. -/
def NeverQueries (computation : Except Failure α) : Prop :=
  ∀ failure, computation = .error failure -> failure.query? = none

namespace NeverQueries

theorem of_failsByDecoding
    {computation : Except Failure α}
    (decoding : FailsByDecoding computation) :
    NeverQueries computation := by
  intro failure failed
  have isDecode := decoding failure failed
  rcases failure with ⟨kind, message, cause⟩
  cases kind with
  | query fault errorId details => cases isDecode
  | _ => rfl

theorem bind
    {computation : Except Failure α}
    {next : α -> Except Failure β}
    (first : NeverQueries computation)
    (rest : ∀ answer, NeverQueries (next answer)) :
    NeverQueries (computation >>= next) := by
  cases computation with
  | error failure =>
      intro found same
      cases same
      exact first failure rfl
  | ok answer => exact rest answer

end NeverQueries

namespace Row

open FailsByDecoding

theorem text_failsByDecoding (value : Value) : FailsByDecoding (text value) := by
  cases value with
  | null => exact ok _
  | text content => exact ok _
  | _ => exact error rfl

theorem timestamp_failsByDecoding (value : Value) : FailsByDecoding (timestamp value) := by
  cases value with
  | timestamp moment => exact ok _
  | _ => exact error rfl

theorem identity_failsByDecoding (value : Value) : FailsByDecoding (identity value) := by
  refine (text_failsByDecoding value).bind fun id => ?_
  split
  · exact error rfl
  · exact ok _

theorem tally_failsByDecoding (noun : String) (value : Value) :
    FailsByDecoding (tally noun value) := by
  unfold tally
  split
  · exact ok _
  · exact error rfl

theorem setupStep_failsByDecoding (value : Value) : FailsByDecoding (setupStep value) := by
  unfold setupStep
  split
  · exact ok _
  · split
    · exact ok _
    · exact error rfl

theorem decodeColumns_failsByDecoding (host : String) (columns : List Value) :
    FailsByDecoding (decodeColumns host columns) := by
  unfold decodeColumns
  split
  · refine (identity_failsByDecoding _).bind fun _ => ?_
    refine (tally_failsByDecoding _ _).bind fun _ => ?_
    refine (timestamp_failsByDecoding _).bind fun _ => ?_
    refine (timestamp_failsByDecoding _).bind fun _ => ?_
    refine (text_failsByDecoding _).bind fun _ => ?_
    refine (text_failsByDecoding _).bind fun _ => ?_
    refine (text_failsByDecoding _).bind fun _ => ?_
    refine (text_failsByDecoding _).bind fun _ => ?_
    refine (setupStep_failsByDecoding _).bind fun _ => ?_
    refine (setupStep_failsByDecoding _).bind fun _ => ?_
    refine (text_failsByDecoding _).bind fun _ => ?_
    exact ok _
  · exact error rfl

/-- A row that is a list fails, if it fails, for a reason of decoding. -/
theorem decode_list_failsByDecoding (items : List Value) (host : String) :
    FailsByDecoding (decode (.list items) host) :=
  decodeColumns_failsByDecoding host items

theorem total_list_failsByDecoding (items : List Value) :
    FailsByDecoding (total (.list items)) := by
  refine FailsByDecoding.bind (ok items) ?_
  intro columns
  cases columns[instanceWidth]? with
  | none => exact error rfl
  | some value => exact tally_failsByDecoding "count" value

theorem addTo_list_failsByDecoding (page : Page) (items : List Value) :
    FailsByDecoding (addTo page (.list items)) :=
  (decode_list_failsByDecoding items "").bind fun _ =>
    (total_list_failsByDecoding items).bind fun _ => nofun

theorem columns_neverQueries (row : Value) : NeverQueries (columns row) := by
  intro failure failed
  cases row with
  | record fields =>
      simp only [columns] at failed
      split at failed <;> cases failed <;> rfl
  | list items => cases failed
  | text content => cases failed
  | bytes content => cases failed
  | _ =>
      cases failed
      rfl

theorem decode_neverQueries (row : Value) (host : String) : NeverQueries (decode row host) :=
  (columns_neverQueries row).bind fun columns =>
    .of_failsByDecoding (decodeColumns_failsByDecoding host columns)

theorem total_neverQueries (row : Value) : NeverQueries (total row) :=
  (columns_neverQueries row).bind fun columns =>
    .of_failsByDecoding (total_list_failsByDecoding columns)

theorem addTo_neverQueries (page : Page) (row : Value) : NeverQueries (addTo page row) :=
  (decode_neverQueries row "").bind fun _ => (total_neverQueries row).bind fun _ => nofun

/-- An absent row does not decode. -/
theorem decode_null (host : String) (inst : Instance) : decode .null host ≠ .ok inst :=
  nofun

/-- The identity of an instance is never null. -/
theorem eq_text_of_identity
    {value : Value}
    {id : String}
    (read : identity value = .ok id) :
    value = .text id := by
  cases value with
  | null => cases read
  | text content =>
      have chosen : (if content.isEmpty then .error (.value "instance id is empty")
          else .ok content : Except Failure String) = .ok id := read
      split at chosen
      · cases chosen
      · cases chosen
        rfl
  | _ => cases read

/-- A row that decodes holds the identity of its instance in its first column. -/
theorem id_of_decode_list
    {id : Value}
    {columns : List Value}
    {host : String}
    {inst : Instance}
    (decoded : decode (.list (id :: columns)) host = .ok inst) :
    id = .text inst.id := by
  have decodes : decodeColumns host (id :: columns) = .ok inst := decoded
  unfold decodeColumns at decodes
  split at decodes
  next same =>
    cases same
    simp only [bind_eq_ok_iff] at decodes
    obtain ⟨identity, isIdentity, _, -, _, -, _, -, _, -, _, -, _, -, _, -, _, -, _, -, _, -,
      decodes⟩ := decodes
    cases decodes
    exact eq_text_of_identity isIdentity
  next => cases decodes

end Row
end InstanceDirectory
