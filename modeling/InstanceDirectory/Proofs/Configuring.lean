import InstanceDirectory.Proofs.Course
import InstanceDirectory.Proofs.Lending
import InstanceDirectory.Settings
import Mathlib.Data.List.Forall2

/-!
# Configuring the database

Every field of the database settings has one value that counts: what the caller gives for it,
or else what the environment says, or else its default.  Both name a field in any case of
letters.  Settings are accepted exactly when all of these values convert and lie in range, and
the bounds on connections are in order.  Otherwise every field that is not acceptable is named,
in the order of declaration, and the bounds are only compared when there is none.  Opening a
pool under accepted settings asks the driver for bounds that it can keep, as long as the
timeout can be written out.
-/

namespace InstanceDirectory

-- A power is the core library's here, whatever other library is in scope.
attribute [local instance (high)] instPowNat

/-! ## Fields and the values that count -/

/-- A field of the database settings. -/
inductive DatabaseField where
  | host
  | port
  | database
  | username
  | password
  | leastConnections
  | mostConnections
  | statementTimeout
deriving DecidableEq

namespace DatabaseField

open Settings

/-- All fields in the order in which they are declared. -/
def all : List DatabaseField := [
    host, port, database, username, password, leastConnections, mostConnections,
    statementTimeout
  ]

/-- What callers call a field. -/
def name : DatabaseField -> String
  | host => "host"
  | port => "port"
  | database => "database"
  | username => "username"
  | password => "password"
  | leastConnections => "pool_min_connections"
  | mostConnections => "pool_max_connections"
  | statementTimeout => "statement_timeout_seconds"

/-- What the environment calls a field. -/
def environmentName (field : DatabaseField) : String :=
  DatabaseSettings.envStem ++ field.name

/-- What a field holds. -/
abbrev Content : DatabaseField -> Type
  | host => String
  | port => Int
  | database => String
  | username => String
  | password => String
  | leastConnections => Int
  | mostConnections => Int
  | statementTimeout => Int

/-- The value of a field that nobody sets. -/
def fallback : DatabaseField -> Value
  | host => .text "localhost"
  | port => .int 5432
  | database => .text "controlplane"
  | username => .text "controlplane"
  | password => .text ""
  | leastConnections => .int 2
  | mostConnections => .int 10
  | statementTimeout => .int 30

/-- Convert a value to what a field holds. -/
def convert : (field : DatabaseField) -> Value -> Except Complaint field.Content
  | host, value => Lax.text value
  | port, value => Lax.integer value
  | database, value => Lax.text value
  | username, value => Lax.text value
  | password, value => Lax.secret value
  | leastConnections, value => Lax.integer value
  | mostConnections, value => Lax.integer value
  | statementTimeout, value => Lax.integer value

/-- The range of a field. -/
def InRange : (field : DatabaseField) -> field.Content -> Prop
  | leastConnections, number => 1 ≤ number ∧ number ≤ 100
  | mostConnections, number => 1 ≤ number ∧ number ≤ 100
  | statementTimeout, number => 0 ≤ number
  | _, _ => True

/-- A value is acceptable for a field. -/
def Admits (field : DatabaseField) (value : Value) : Prop :=
  ∃ content, field.convert value = .ok content ∧ field.InRange content

/-- Read a value for a field, or say what is wrong with it. -/
def read : (field : DatabaseField) -> Value -> Except Complaint field.Content
  | host => Lax.text
  | port => Lax.integer
  | database => Lax.text
  | username => Lax.text
  | password => Lax.secret
  | leastConnections => DatabaseSettings.connections
  | mostConnections => DatabaseSettings.connections
  | statementTimeout => DatabaseSettings.seconds

/--
The value that counts for a field.  Of what the caller gives under its name, in whatever case
of letters, the first counts; then of what the environment says the last; then the default.
-/
inductive Counts (source : Source) (field : DatabaseField) : Value -> Prop where
  | given {earlier later : Fields} {key : String} {value : Value} :
      source.given = earlier ++ (key, value) :: later -> foldName key = field.name ->
      (∀ entry ∈ earlier, foldName entry.1 ≠ field.name) ->
      Counts source field value
  | environment {earlier later : List (String × String)} {key content : String} :
      (∀ entry ∈ source.given, foldName entry.1 ≠ field.name) ->
      source.environment = earlier ++ (key, content) :: later ->
      foldName key = field.environmentName ->
      (∀ entry ∈ later, foldName entry.1 ≠ field.environmentName) ->
      Counts source field (.text content)
  | unset :
      (∀ entry ∈ source.given, foldName entry.1 ≠ field.name) ->
      (∀ entry ∈ source.environment, foldName entry.1 ≠ field.environmentName) ->
      Counts source field field.fallback

end DatabaseField

namespace DatabaseSettings

open Settings

/-- What settings hold in a field. -/
def content (settings : DatabaseSettings) : (field : DatabaseField) -> field.Content
  | .host => settings.host
  | .port => settings.port
  | .database => settings.database
  | .username => settings.username
  | .password => settings.password
  | .leastConnections => settings.leastConnections
  | .mostConnections => settings.mostConnections
  | .statementTimeout => settings.statementTimeout

/-- Settings hold in a field what a value converts to, and it lies in the range of the field. -/
def Holds (settings : DatabaseSettings) (field : DatabaseField) (value : Value) : Prop :=
  field.convert value = .ok (settings.content field) ∧ field.InRange (settings.content field)

end DatabaseSettings

namespace Settings

/-- The first entry under a name is found behind others that are called otherwise. -/
theorem firstNamed_eq_some_iff {entries : List (String × α)} {name : String} {value : α} :
    firstNamed entries name = some value ↔
      ∃ earlier key later, entries = earlier ++ (key, value) :: later ∧ foldName key = name ∧
        ∀ entry ∈ earlier, foldName entry.1 ≠ name := by
  simp only [firstNamed, Option.map_eq_some_iff, List.find?_eq_some_iff_append]
  constructor
  · rintro ⟨⟨key, value⟩, ⟨named, earlier, later, rfl, others⟩, rfl⟩
    exact ⟨earlier, key, later, rfl, by simpa using named, by simpa using others⟩
  · rintro ⟨earlier, key, later, rfl, named, others⟩
    exact ⟨(key, value), ⟨by simpa using named, earlier, later, rfl, by simpa using others⟩, rfl⟩

/-- The last entry under a name is found before others that are called otherwise. -/
theorem firstNamed_reverse_eq_some_iff
    {entries : List (String × α)}
    {name : String}
    {value : α} :
    firstNamed entries.reverse name = some value ↔
      ∃ earlier key later, entries = earlier ++ (key, value) :: later ∧ foldName key = name ∧
        ∀ entry ∈ later, foldName entry.1 ≠ name := by
  rw [firstNamed_eq_some_iff]
  constructor
  · rintro ⟨later, key, earlier, split, named, others⟩
    refine ⟨earlier.reverse, key, later.reverse, ?_, named, by simpa using others⟩
    simpa using congrArg List.reverse split
  · rintro ⟨earlier, key, later, rfl, named, others⟩
    exact ⟨later.reverse, key, earlier.reverse, by simp, named, by simpa using others⟩

theorem firstNamed_eq_none_iff {entries : List (String × α)} {name : String} :
    firstNamed entries name = none ↔ ∀ entry ∈ entries, foldName entry.1 ≠ name := by
  simp [firstNamed]

theorem firstNamed_reverse_eq_none_iff {entries : List (String × α)} {name : String} :
    firstNamed entries.reverse name = none ↔ ∀ entry ∈ entries, foldName entry.1 ≠ name := by
  simp [firstNamed]

end Settings

namespace DatabaseField

open Settings

/-- The effective value of a field: what the source says, or else the default. -/
def effective (source : Source) (field : DatabaseField) : Value :=
  (source.raw DatabaseSettings.envStem field.name).getD field.fallback

theorem effective_eq (source : Source) (field : DatabaseField) :
    field.effective source =
      ((firstNamed source.given field.name).getD
        (((firstNamed source.environment.reverse field.environmentName).map .text).getD
          field.fallback)) := by
  simp only [effective, Source.raw, environmentName]
  cases firstNamed source.given field.name <;> rfl

/-- The effective value counts. -/
theorem counts_effective (source : Source) (field : DatabaseField) :
    field.Counts source (field.effective source) := by
  rw [effective_eq]
  cases given : firstNamed source.given field.name with
  | some value =>
      obtain ⟨earlier, key, later, split, named, others⟩ := firstNamed_eq_some_iff.mp given
      exact .given split named others
  | none =>
      have notGiven := firstNamed_eq_none_iff.mp given
      cases set : firstNamed source.environment.reverse field.environmentName with
      | some content =>
          obtain ⟨earlier, key, later, split, named, others⟩ :=
            firstNamed_reverse_eq_some_iff.mp set
          exact .environment notGiven split named others
      | none => exact .unset notGiven (firstNamed_reverse_eq_none_iff.mp set)

/-- Nothing but the effective value counts. -/
theorem Counts.eq_effective
    {source : Source}
    {field : DatabaseField}
    {value : Value}
    (counts : field.Counts source value) :
    value = field.effective source := by
  rw [effective_eq]
  cases counts with
  | given split named others =>
      rw [firstNamed_eq_some_iff.mpr ⟨_, _, _, split, named, others⟩]
      rfl
  | environment notGiven split named others =>
      rw [firstNamed_eq_none_iff.mpr notGiven,
        firstNamed_reverse_eq_some_iff.mpr ⟨_, _, _, split, named, others⟩]
      rfl
  | unset notGiven notSet =>
      rw [firstNamed_eq_none_iff.mpr notGiven, firstNamed_reverse_eq_none_iff.mpr notSet]
      rfl

/-- A name that is given in capitals is the field's, before the one that is spelled exactly. -/
example :
    host.effective
      { given := [("HOST", .text "first"), ("host", .text "second")]
        environment := [("CONTROLPLANE_DB_HOST", "third")] } =
      .text "first" := rfl

end DatabaseField

/-! ## Faults -/

namespace Settings
namespace Checked

/-- The faults that were found. -/
def faults : Checked α -> List FieldFault
  | .ok _ => []
  | .error faults => faults

@[simp] theorem faults_ok (answer : α) : faults (.ok answer) = [] := rfl

@[simp] theorem faults_error (found : List FieldFault) :
    faults (.error found : Checked α) = found := rfl

/-- Combining keeps the faults of both, those of the function first. -/
@[simp] theorem faults_apply (function : Checked (α -> β)) (argument : Checked α) :
    (Checked.apply function argument).faults = function.faults ++ argument.faults := by
  cases function <;> cases argument <;> simp [Checked.apply]

theorem apply_eq_ok_iff {function : Checked (α -> β)} {argument : Checked α} {answer : β} :
    Checked.apply function argument = .ok answer ↔
      ∃ map given, function = .ok map ∧ argument = .ok given ∧ map given = answer := by
  cases function <;> cases argument <;> simp [Checked.apply]

/-- What is refused is refused for a fault. -/
def IsFounded (checked : Checked α) : Prop :=
  checked ≠ .error []

theorem IsFounded.apply
    {function : Checked (α -> β)}
    {argument : Checked α}
    (functionFounded : function.IsFounded)
    (argumentFounded : argument.IsFounded) :
    (Checked.apply function argument).IsFounded := by
  unfold IsFounded at *
  cases function <;> cases argument <;> simp_all [Checked.apply]

/-- What is refused for a fault is refused for the faults that were found. -/
theorem IsFounded.eq_error_iff
    {checked : Checked α}
    {found : List FieldFault}
    (founded : checked.IsFounded) :
    checked = .error found ↔ checked.faults = found ∧ found ≠ [] := by
  unfold IsFounded at founded
  cases checked with
  | ok answer => simp
  | error faults =>
      simp only [faults_error, Except.error.injEq]
      refine ⟨?_, And.left⟩
      rintro rfl
      exact ⟨rfl, fun none => founded (none ▸ rfl)⟩

end Checked

namespace Lax

/-- A value that is read as a number between bounds converts to it, and it lies there. -/
theorem within_integer_eq_ok_iff
    {least number : Int}
    {value : Value}
    (greatest : Option Int) :
    (do within least greatest (← integer value)) = .ok number ↔
      integer value = .ok number ∧ least ≤ number ∧
        ∀ bound, greatest = some bound -> number ≤ bound := by
  cases integer value with
  | error complaint => simp [bind, Except.bind]
  | ok whole =>
      simp only [bind, Except.bind, Except.ok.injEq, within]
      split
      · simp
        omega
      · cases greatest with
        | none =>
            simp
            omega
        | some bound =>
            simp only [Option.some.injEq, forall_eq']
            split <;> simp <;> omega

end Lax
end Settings

namespace DatabaseField

open Settings

/-- A value is read as what it converts to, if that lies in range. -/
theorem read_eq_ok_iff {field : DatabaseField} {value : Value} {content : field.Content} :
    field.read value = .ok content ↔
      field.convert value = .ok content ∧ field.InRange content := by
  cases field with
  | leastConnections =>
      refine (Lax.within_integer_eq_ok_iff (some 100)).trans ?_
      simp [convert, InRange]
  | mostConnections =>
      refine (Lax.within_integer_eq_ok_iff (some 100)).trans ?_
      simp [convert, InRange]
  | statementTimeout =>
      refine (Lax.within_integer_eq_ok_iff none).trans ?_
      simp [convert, InRange]
  | _ => exact (and_iff_left trivial).symm

/-- A value is acceptable exactly when it is read without a complaint. -/
theorem admits_iff {field : DatabaseField} {value : Value} :
    field.Admits value ↔ ∃ content, field.read value = .ok content := by
  simp only [Admits, read_eq_ok_iff]

/-- Every default passes the check of its field. -/
theorem read_fallback (field : DatabaseField) :
    field.read field.fallback = .ok (({} : DatabaseSettings).content field) := by
  cases field <;> rfl

/-- The judgement on the effective value of a field. -/
def judge (source : Source) (field : DatabaseField) : Checked field.Content :=
  match field.read (field.effective source) with
  | .ok content => .ok content
  | .error complaint => .error [⟨some field.name, complaint.rule, complaint.explanation⟩]

/-- A field is judged by its effective value. -/
theorem field_eq_judge (source : Source) (field : DatabaseField) :
    Settings.field source DatabaseSettings.envStem field.name
      (({} : DatabaseSettings).content field) field.read = field.judge source := by
  unfold Settings.field judge effective
  cases source.raw DatabaseSettings.envStem field.name with
  | none => simp [read_fallback]
  | some value => cases read : field.read value <;> simp [read]

theorem judge_eq_ok_iff {source : Source} {field : DatabaseField} {content : field.Content} :
    field.judge source = .ok content ↔ field.read (field.effective source) = .ok content := by
  unfold judge
  cases field.read (field.effective source) <;> simp

theorem judge_isFounded (source : Source) (field : DatabaseField) :
    (field.judge source).IsFounded := by
  unfold judge Checked.IsFounded
  cases field.read (field.effective source) <;> simp

/-- A fault says what is wrong with the value that counts for a field. -/
def IsBlamed (source : Source) (fault : FieldFault) (field : DatabaseField) : Prop :=
  ∃ value complaint, field.Counts source value ∧ field.read value = .error complaint ∧
    fault = ⟨some field.name, complaint.rule, complaint.explanation⟩

/-- A field whose effective value is not acceptable. -/
def isRefused (source : Source) (field : DatabaseField) : Bool :=
  !(field.judge source).faults.isEmpty

theorem judge_cases (source : Source) (field : DatabaseField) :
    (field.isRefused source = false ∧ field.Admits (field.effective source) ∧
      (field.judge source).faults = []) ∨
    (field.isRefused source = true ∧ ¬ field.Admits (field.effective source) ∧
      ∃ fault, (field.judge source).faults = [fault] ∧ IsBlamed source fault field) := by
  unfold isRefused judge
  rw [admits_iff]
  cases read : field.read (field.effective source) with
  | ok content => exact .inl ⟨rfl, ⟨content, rfl⟩, rfl⟩
  | error complaint =>
      refine .inr ⟨rfl, nofun, _, rfl, _, complaint, field.counts_effective source, read, rfl⟩

theorem isRefused_iff {source : Source} {field : DatabaseField} :
    field.isRefused source = true ↔ ∃ value, field.Counts source value ∧ ¬ field.Admits value := by
  constructor
  · intro refused
    rcases judge_cases source field with ⟨accepted, -, -⟩ | ⟨-, unfit, -⟩
    · exact absurd (refused.symm.trans accepted) nofun
    · exact ⟨_, field.counts_effective source, unfit⟩
  · rintro ⟨value, counts, unfit⟩
    rw [counts.eq_effective] at unfit
    rcases judge_cases source field with ⟨-, fit, -⟩ | ⟨refused, -, -⟩
    · exact absurd fit unfit
    · exact refused

/-- The faults of fields are those of the refused ones, one for each, in their order. -/
theorem faults_blame (source : Source) (fields : List DatabaseField) :
    List.Forall₂ (IsBlamed source)
      (fields.flatMap fun field => (field.judge source).faults)
      (fields.filter (isRefused source)) := by
  induction fields with
  | nil => exact .nil
  | cons field fields fieldsHypothesis =>
      rw [List.flatMap_cons]
      rcases judge_cases source field with
        ⟨accepted, -, none⟩ | ⟨refused, -, fault, one, blamed⟩
      · rw [none, List.filter_cons_of_neg (by simp [accepted])]
        exact fieldsHypothesis
      · rw [one, List.filter_cons_of_pos refused]
        exact .cons blamed fieldsHypothesis

theorem mem_all (field : DatabaseField) : field ∈ all := by
  cases field <;> decide

end DatabaseField

/-! ## Loading settings -/

namespace DatabaseSettings

open Settings DatabaseField

variable {source : Source} {settings : DatabaseSettings}

/-- Fields are judged one after the other. -/
theorem fields_eq (source : Source) :
    fields source =
      Checked.apply (Checked.apply (Checked.apply (Checked.apply (Checked.apply (Checked.apply
        (Checked.apply (Checked.apply (.ok DatabaseSettings.mk)
          (judge source .host)) (judge source .port)) (judge source .database))
          (judge source .username)) (judge source .password))
          (judge source .leastConnections)) (judge source .mostConnections))
          (judge source .statementTimeout) := by
  simp only [← field_eq_judge]
  rfl

/-- All fields are accepted when each of them is. -/
theorem fields_eq_ok_iff :
    fields source = .ok settings ↔ ∀ field, judge source field = .ok (settings.content field) := by
  rw [fields_eq]
  simp only [Checked.apply_eq_ok_iff]
  constructor
  · rintro ⟨_, _, ⟨_, _, ⟨_, _, ⟨_, _, ⟨_, _, ⟨_, _, ⟨_, _, ⟨_, _, ⟨⟩, host, rfl⟩, port, rfl⟩,
      database, rfl⟩, username, rfl⟩, password, rfl⟩, least, rfl⟩, most, rfl⟩, timeout, rfl⟩ field
    cases field <;> assumption
  · intro accepted
    exact ⟨_, _, ⟨_, _, ⟨_, _, ⟨_, _, ⟨_, _, ⟨_, _, ⟨_, _, ⟨_, _, rfl, accepted .host, rfl⟩,
      accepted .port, rfl⟩, accepted .database, rfl⟩, accepted .username, rfl⟩,
      accepted .password, rfl⟩, accepted .leastConnections, rfl⟩,
      accepted .mostConnections, rfl⟩, accepted .statementTimeout, rfl⟩

/-- The faults of the fields stand in the order of the fields. -/
theorem faults_fields (source : Source) :
    (fields source).faults = all.flatMap fun field => (judge source field).faults := by
  simp [fields_eq, all]

theorem fields_isFounded (source : Source) : (fields source).IsFounded := by
  have founded : Checked.IsFounded (.ok DatabaseSettings.mk) := nofun
  rw [fields_eq]
  exact ((((((((founded.apply (judge_isFounded source _)).apply (judge_isFounded source _)).apply
    (judge_isFounded source _)).apply (judge_isFounded source _)).apply
    (judge_isFounded source _)).apply (judge_isFounded source _)).apply
    (judge_isFounded source _)).apply (judge_isFounded source _))

/-- Settings hold what counts for every field exactly when all fields are accepted as they are. -/
theorem holds_iff_fields :
    (∀ field value, field.Counts source value -> settings.Holds field value) ↔
      fields source = .ok settings := by
  simp only [fields_eq_ok_iff, judge_eq_ok_iff, read_eq_ok_iff]
  constructor
  · intro holds field
    exact holds field _ (field.counts_effective source)
  · intro holds field value counts
    rw [counts.eq_effective]
    exact holds field

theorem load_eq_ok_iff :
    load source = .ok settings ↔
      fields source = .ok settings ∧ settings.leastConnections ≤ settings.mostConnections := by
  unfold load
  cases fields source with
  | error faults => simp
  | ok found =>
      simp only [Except.ok.injEq]
      split
      · constructor
        · nofun
        · rintro ⟨rfl, ordered⟩
          omega
      · constructor
        · rintro ⟨⟩
          exact ⟨rfl, by omega⟩
        · rintro ⟨rfl, -⟩
          rfl

theorem load_eq_error_iff {found : List FieldFault} :
    load source = .error found ↔
      fields source = .error found ∨
      ∃ settings, fields source = .ok settings ∧
        settings.mostConnections < settings.leastConnections ∧
        found = [settings.reversedBounds] := by
  unfold load
  cases fields source with
  | error faults => simp
  | ok settings =>
      simp only [Except.ok.injEq, reduceCtorEq, false_or, exists_eq_left']
      split
      next reversed => simp [reversed, eq_comm]
      next ordered => simp [ordered]

/-- Accepted settings lie in range, and their bounds are in order. -/
theorem inRange_of_load
    (loaded : load source = .ok settings)
    (field : DatabaseField) :
    field.InRange (settings.content field) :=
  (holds_iff_fields.mpr (load_eq_ok_iff.mp loaded).1 field _ (field.counts_effective source)).2

/-! ## Requests for a pool -/

/-- The timeout of statements can be written out in milliseconds. -/
def IsWritable (settings : DatabaseSettings) : Prop :=
  (settings.statementTimeout * 1000).natAbs < 10 ^ mostDigits

/-- What every session is told: to read only, and the timeout if there is one. -/
def sessionSettings (settings : DatabaseSettings) : List (String × String) :=
  ("default_transaction_read_only", "on") ::
    if 0 < settings.statementTimeout then
      [("statement_timeout", toString (settings.statementTimeout * 1000))]
    else []

theorem not_isWritable_of_le
    (atLeast : ((10 ^ mostDigits : Nat) : Int) ≤ settings.statementTimeout) :
    ¬ settings.IsWritable := by
  unfold IsWritable
  omega

theorem serverSettings_of_isWritable (writable : settings.IsWritable) :
    settings.serverSettings = .ok settings.sessionSettings := by
  have written : milliseconds (settings.statementTimeout * 1000) =
      .ok (toString (settings.statementTimeout * 1000)) :=
    if_neg (Nat.not_le.mpr writable)
  unfold serverSettings sessionSettings
  split
  · rw [written]
    rfl
  · rfl

theorem serverSettings_of_not_isWritable
    (notNegative : 0 ≤ settings.statementTimeout)
    (unwritable : ¬ settings.IsWritable) :
    settings.serverSettings = .error tooManyDigits := by
  have tooLong : 10 ^ mostDigits ≤ (settings.statementTimeout * 1000).natAbs :=
    Nat.not_lt.mp unwritable
  have refused : milliseconds (settings.statementTimeout * 1000) = .error tooManyDigits :=
    if_pos tooLong
  have positive : 0 < settings.statementTimeout := by
    have power : 0 < 10 ^ mostDigits := Nat.pow_pos (by decide)
    omega
  unfold serverSettings
  rw [if_pos positive, refused]
  rfl

/-- The request for a pool that settings make when their timeout can be written out. -/
def poolRequest (settings : DatabaseSettings) : PoolRequest where
  leastConnections := settings.leastConnections
  mostConnections := settings.mostConnections
  host := settings.host
  port := settings.port
  database := settings.database
  user := settings.username
  password := settings.password
  serverSettings := settings.sessionSettings

theorem request_of_isWritable (writable : settings.IsWritable) :
    Pool.request settings = .ok settings.poolRequest := by
  unfold Pool.request
  rw [serverSettings_of_isWritable writable]
  rfl

theorem request_of_not_isWritable
    (notNegative : 0 ≤ settings.statementTimeout)
    (unwritable : ¬ settings.IsWritable) :
    Pool.request settings = .error tooManyDigits := by
  unfold Pool.request
  rw [serverSettings_of_not_isWritable notNegative unwritable]
  rfl

/-- Opening a closed pool at once asks the driver for what the settings request. -/
theorem start_establish
    {site : Site}
    (closed : site.isOpen = false) :
    Supervision.start (Pool.establish settings) site =
      match Pool.request settings with
      | .ok request =>
          { operation := Pool.create settings request
            site := site.note (.contact (.requested (.createPool request))) }
      | .error failure => { operation := .fail failure, site } := by
  unfold Supervision.start Pool.establish
  simp only [Operation.settle, closed, Bool.false_eq_true, if_false]
  cases Pool.request settings <;> rfl

end DatabaseSettings

open DatabaseSettings in
/--
One value counts for every field of the database settings.  Settings are accepted exactly
when they hold what these values convert to, each in its range, and their bounds on
connections are in order.  They are refused for the fields whose values are not acceptable,
each named once and in the order of declaration, or, when there are none, for their bounds
alone.  Opening a closed pool under accepted settings at once asks the driver for bounds
between one and a hundred that are in order, and for sessions that read only and have the
timeout of the settings if there is one.  It does so exactly when that timeout can be written
out in milliseconds; otherwise opening fails and asks for nothing.
-/
theorem DatabaseSettings.load_requests (source : Settings.Source) :
    (∀ field : DatabaseField, ∃! value, field.Counts source value) ∧
    (∀ settings, load source = .ok settings ↔
      (∀ field value, field.Counts source value -> settings.Holds field value) ∧
        settings.leastConnections ≤ settings.mostConnections) ∧
    (∀ faults, load source = .error faults ->
      (∃ fields, fields ≠ [] ∧ fields.Sublist DatabaseField.all ∧
        (∀ field, field ∈ fields ↔ ∃ value, field.Counts source value ∧ ¬ field.Admits value) ∧
        List.Forall₂ (DatabaseField.IsBlamed source) faults fields) ∨
      ∃ settings : DatabaseSettings,
        (∀ field value, field.Counts source value -> settings.Holds field value) ∧
        settings.mostConnections < settings.leastConnections ∧
        faults = [settings.reversedBounds]) ∧
    ∀ settings site, load source = .ok settings -> site.isOpen = false ->
      (1 ≤ settings.leastConnections ∧ settings.leastConnections ≤ settings.mostConnections ∧
        settings.mostConnections ≤ 100) ∧
      let opening := Supervision.start (Pool.establish settings) site
      (settings.IsWritable -> opening.operation.request? = some (.createPool {
        leastConnections := settings.leastConnections
        mostConnections := settings.mostConnections
        host := settings.host
        port := settings.port
        database := settings.database
        user := settings.username
        password := settings.password
        serverSettings := ("default_transaction_read_only", "on") ::
          if 0 < settings.statementTimeout then
            [("statement_timeout", toString (settings.statementTimeout * 1000))]
          else [] })) ∧
      (¬ settings.IsWritable ->
        opening.operation.outcome? = some (.error tooManyDigits) ∧ opening.site = site) := by
  refine ⟨fun field => ?_, fun settings => ?_, fun faults => ?_, ?_⟩
  · exact ⟨_, field.counts_effective source, fun value counts => counts.eq_effective⟩
  · rw [holds_iff_fields, load_eq_ok_iff]
  · simp only [holds_iff_fields]
    intro refused
    refine (load_eq_error_iff.mp refused).imp_left fun refusedFields => ?_
    obtain ⟨rfl, someFault⟩ := (fields_isFounded source).eq_error_iff.mp refusedFields
    have blamed := DatabaseField.faults_blame source DatabaseField.all
    rw [← faults_fields] at blamed
    refine ⟨_, ?_, List.filter_sublist, fun field => ?_, blamed⟩
    · intro none
      rw [none] at blamed
      exact someFault (List.forall₂_nil_right_iff.mp blamed)
    · rw [List.mem_filter, and_iff_right field.mem_all, DatabaseField.isRefused_iff]
  · intro settings site loaded closed
    have least := inRange_of_load loaded .leastConnections
    have most := inRange_of_load loaded .mostConnections
    have timeout := inRange_of_load loaded .statementTimeout
    refine ⟨⟨least.1, (load_eq_ok_iff.mp loaded).2, most.2⟩, fun writable => ?_,
      fun unwritable => ?_⟩
    · rw [start_establish closed, request_of_isWritable writable]
      rfl
    · rw [start_establish closed, request_of_not_isWritable timeout unwritable]
      exact ⟨rfl, rfl⟩


namespace DatabaseSettings

open Settings DatabaseField

/-- What a caller gives who only sets the timeout. -/
def timeoutOnly (seconds : Int) : Source where
  given := [("statement_timeout_seconds", .int seconds)]

theorem effective_timeoutOnly (seconds : Int) (field : DatabaseField) :
    field.effective (timeoutOnly seconds) =
      if field = .statementTimeout then .int seconds else field.fallback := by
  have folded : foldName "statement_timeout_seconds" = "statement_timeout_seconds" := by decide
  rw [effective_eq]
  cases field <;> simp [timeoutOnly, firstNamed, folded, DatabaseField.name]

theorem load_timeoutOnly {seconds : Int} (notNegative : 0 ≤ seconds) :
    load (timeoutOnly seconds) = .ok { statementTimeout := seconds } := by
  refine load_eq_ok_iff.mpr ⟨fields_eq_ok_iff.mpr fun field => judge_eq_ok_iff.mpr ?_, ?_⟩
  · rw [effective_timeoutOnly]
    cases field with
    | statementTimeout => exact read_eq_ok_iff.mpr ⟨rfl, notNegative⟩
    | _ => exact read_fallback _
  · show (2 : Int) ≤ 10
    decide

/-- Settings that make no request for a pool, though they are accepted. -/
theorem load_requests_nothing :
    let seconds : Int := (10 ^ mostDigits : Nat)
    ∃ settings, load (timeoutOnly seconds) = .ok settings ∧
      settings.statementTimeout = seconds ∧ 0 < seconds ∧
      let opening := Supervision.start (Pool.establish settings) {}
      opening.operation.request? = none ∧
      opening.operation.outcome? = some (.error tooManyDigits) := by
  intro seconds
  have positive : 0 < seconds := Int.natCast_pos.mpr (Nat.pow_pos (by decide))
  have notNegative : 0 ≤ seconds := Int.le_of_lt positive
  have unwritable : ¬ IsWritable { statementTimeout := seconds } :=
    not_isWritable_of_le (Int.le_refl seconds)
  have opening : Supervision.start (Pool.establish { statementTimeout := seconds }) {} =
      { operation := .fail tooManyDigits, site := {} } :=
    (start_establish rfl).trans (by rw [request_of_not_isWritable notNegative unwritable])
  refine ⟨_, load_timeoutOnly notNegative, rfl, positive, ?_⟩
  rw [opening]
  exact ⟨rfl, rfl⟩

/-- Settings with a timeout of a minute and a half request a pool. -/
theorem load_requests_limited :
    ∃ settings, load (timeoutOnly 90) = .ok settings ∧
      ∃ request, (Supervision.start (Pool.establish settings) {}).operation.request? =
          some (.createPool request) ∧
        request.serverSettings =
          [("default_transaction_read_only", "on"), ("statement_timeout", "90000")] := by
  have loaded : load (timeoutOnly 90) = .ok { statementTimeout := 90 } :=
    load_timeoutOnly (by decide)
  have writable : IsWritable { statementTimeout := 90 } :=
    Nat.lt_of_lt_of_le (by decide) (Nat.pow_le_pow_right (by decide) (by decide : 5 ≤ mostDigits))
  obtain ⟨-, -, -, requests⟩ := load_requests (timeoutOnly 90)
  obtain ⟨-, asks, -⟩ := requests _ {} loaded rfl
  exact ⟨_, loaded, _, asks writable, by decide⟩

end DatabaseSettings

end InstanceDirectory
