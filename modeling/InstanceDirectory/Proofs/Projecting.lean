import InstanceDirectory.Proofs.Chaining
import InstanceDirectory.Proofs.Decoding
import InstanceDirectory.Proofs.HostBinding

/-!
# Select lists and rows

A row holds its columns without their names, so the reader of rows and the select lists of
statements have to agree on an order.  They do: whatever a select is narrowed and paged by,
the values that its select list shows of a row are read back into the fields of an instance
that are named after their columns, and a page shows the number of matches where it is read.
-/

namespace InstanceDirectory

/-- A value holds a text when it is that text; null holds the empty one. -/
def Value.HoldsText (value : Value) (content : String) : Prop :=
  value = .text content ∨ (value = .null ∧ content = "")

/-- A value holds the setup stage whose number it equals; a blank one holds the unspecified. -/
def Value.HoldsStep (value : Value) (step : SetupStep) : Prop :=
  if value.isBlank then step = .unspecified else value.toInt? = some (step.number.val : Int)

/--
An instance carries a row when each of its fields holds what its own column holds.  Every
column of the projection is named once, so a row that some instance carries is decodable in
every column, and the row determines all of the instance but its host.
-/
structure Instance.Carries (inst : Instance) (row : Assignment) : Prop where
  id : row .id = .text inst.id
  hasId : inst.id ≠ ""
  creationDate : row .creationDate = .timestamp inst.creationDate
  changeDate : row .changeDate = .timestamp inst.changeDate
  sequence : row .sequence = inst.sequence.toValue
  globalOrgId : (row .globalOrgId).HoldsText inst.globalOrgId
  iamProjectId : (row .iamProjectId).HoldsText inst.iamProjectId
  consoleId : (row .consoleClientId).HoldsText inst.consoleId
  consoleAppId : (row .consoleAppId).HoldsText inst.consoleAppId
  setupStarted : (row .setupStarted).HoldsStep inst.setupStarted
  setupDone : (row .setupDone).HoldsStep inst.setupDone
  defaultLanguage : ∃ stored,
    (row .defaultLanguage).HoldsText stored ∧ inst.defaultLanguage = Language.parse (some stored)

/-- A value equals the stage of its number, if there is one. -/
theorem SetupStep.ofValue?_eq_some_iff {value : Value} {step : SetupStep} :
    ofValue? value = some step ↔ value.toInt? = some (step.number.val : Int) := by
  obtain ⟨stage, bounded⟩ := step
  unfold ofValue?
  cases value.toInt? with
  | none => simp
  | some number =>
      cases number with
      | negSucc number => simp
      | ofNat number =>
          have same : (number : Int) = (stage : Int) ↔ number = stage := by omega
          by_cases known : number < 26
          · simp [known, same]
          · have differs : number ≠ stage := by omega
            simp [known, same, differs]

namespace Row

/-! ## What each reader reads -/

theorem text_eq_ok_iff {value : Value} {content : String} :
    text value = .ok content ↔ value.HoldsText content := by
  cases value <;> simp [text, Value.HoldsText, eq_comm]

theorem identity_eq_ok_iff {value : Value} {id : String} :
    identity value = .ok id ↔ value = .text id ∧ id ≠ "" := by
  rw [identity, bind_eq_ok_iff]
  constructor
  · rintro ⟨content, read, chosen⟩
    split at chosen
    next => cases chosen
    next nonempty =>
      cases chosen
      rw [String.isEmpty_iff] at nonempty
      rcases text_eq_ok_iff.mp read with isText | ⟨-, isEmpty⟩
      · exact ⟨isText, nonempty⟩
      · exact absurd isEmpty nonempty
  · rintro ⟨rfl, nonempty⟩
    exact ⟨id, rfl, if_neg (by rwa [String.isEmpty_iff])⟩

theorem timestamp_eq_ok_iff {value : Value} {moment : Timestamp} :
    timestamp value = .ok moment ↔ value = .timestamp moment := by
  cases value <;> simp [timestamp]

theorem tally_eq_ok_iff {noun : String} {value : Value} {number : Tally} :
    tally noun value = .ok number ↔ value = number.toValue := by
  constructor
  · intro read
    unfold tally Tally.ofValue? at read
    split at read
    next found =>
      cases read
      split at found <;> cases found <;> rfl
    next => cases read
  · rintro rfl
    simp [tally]

theorem setupStep_eq_ok_iff {value : Value} {step : SetupStep} :
    setupStep value = .ok step ↔ value.HoldsStep step := by
  unfold setupStep Value.HoldsStep
  split
  next => simp [eq_comm]
  next =>
    rw [← SetupStep.ofValue?_eq_some_iff]
    cases SetupStep.ofValue? value <;> simp

/-- The columns of the projection are read into the fields that they are named for. -/
theorem decodeColumns_eq_ok_iff
    {row : Assignment}
    (others : List Value)
    {host : String}
    {inst : Instance} :
    decodeColumns host (Column.projection.map row ++ others) = .ok inst ↔
      inst.Carries row ∧ inst.host = host := by
  change decodeColumns host (row .id :: row .creationDate :: row .changeDate :: row .sequence ::
    row .globalOrgId :: row .iamProjectId :: row .consoleClientId :: row .consoleAppId ::
    row .setupStarted :: row .setupDone :: row .defaultLanguage :: others) = _ ↔ _
  simp only [decodeColumns, bind_eq_ok_iff, identity_eq_ok_iff, tally_eq_ok_iff,
    timestamp_eq_ok_iff, text_eq_ok_iff, setupStep_eq_ok_iff]
  constructor
  · rintro ⟨id, ⟨isId, hasId⟩, sequence, isSequence, created, isCreated, changed, isChanged,
      org, isOrg, project, isProject, client, isClient, app, isApp, started, isStarted,
      done, isDone, language, isLanguage, made⟩
    cases made
    exact ⟨{
      id := isId, hasId, creationDate := isCreated, changeDate := isChanged
      sequence := isSequence, globalOrgId := isOrg, iamProjectId := isProject
      consoleId := isClient, consoleAppId := isApp, setupStarted := isStarted
      setupDone := isDone, defaultLanguage := ⟨language, isLanguage, rfl⟩ }, rfl⟩
  · rintro ⟨carries, rfl⟩
    obtain ⟨language, isLanguage, parsed⟩ := carries.defaultLanguage
    refine ⟨_, ⟨carries.id, carries.hasId⟩, _, carries.sequence, _, carries.creationDate,
      _, carries.changeDate, _, carries.globalOrgId, _, carries.iamProjectId,
      _, carries.consoleId, _, carries.consoleAppId, _, carries.setupStarted,
      _, carries.setupDone, language, isLanguage, ?_⟩
    rw [← parsed]
    rfl

end Row

/-! ## The select list in statement text -/

/-- An item of a select list in statement text, among bound values with the given labels. -/
def SelectItem.text (schema : Schema) (labels : List String) : SelectItem -> String
  | column name => Piece.nameText labels (schema.columnText name)
  | matchCount => "count(*) OVER () AS count"

namespace Piece

/-- Sequences that bind no value are written one by one, with the fixed words between them. -/
theorem write_separated
    (schema : Schema)
    (labels : List String)
    (number : Nat)
    (separator : String)
    (sequences : List (List Piece))
    (bindsNone : ∀ pieces ∈ sequences, arguments pieces = []) :
    write schema labels number (separated separator sequences) =
      separator.intercalate (sequences.map (write schema labels number)) := by
  induction sequences using separated.induct with
  | case1 => simp [separated, write]
  | case2 pieces => simp [separated]
  | case3 pieces rest nonempty restHypothesis =>
      have first : arguments pieces = [] := bindsNone pieces (by simp)
      have later := restHypothesis fun pieces present => bindsNone pieces (.tail _ present)
      have remains : rest.map (write schema labels number) ≠ [] := by simpa using nonempty
      rw [separated, write_append, first, write, List.length_nil, Nat.add_zero, later,
        List.map_cons, String.intercalate_cons_of_ne_nil remains, String.append_assoc]
      exact nonempty

/-- Every item of a select list is written as itself. -/
theorem write_item
    (schema : Schema)
    (labels : List String)
    (number : Nat)
    (item : SelectItem) :
    write schema labels number item.pieces = item.text schema labels := by
  cases item <;> simp [SelectItem.pieces, SelectItem.text, write]

end Piece

namespace Draft

/-- The text before the conditions starts with the select list, item by item. -/
theorem write_headPieces
    (draft : Draft)
    (schema : Schema)
    (labels : List String)
    (later : List Piece) :
    ∃ rest, Piece.write schema labels 1 (draft.headPieces ++ later) =
      "SELECT " ++ ", ".intercalate (draft.selection.items.map (SelectItem.text schema labels))
        ++ " \nFROM " ++ rest := by
  have bindsNone : ∀ pieces ∈ draft.selection.items.map SelectItem.pieces,
      Piece.arguments pieces = [] := by
    intro pieces present
    obtain ⟨item, -, rfl⟩ := List.mem_map.mp present
    cases item <;> rfl
  have items := Piece.write_separated schema labels 1 ", " _ bindsNone
  rw [List.map_map] at items
  have each : (Piece.write schema labels 1 ∘ SelectItem.pieces) = SelectItem.text schema labels :=
    funext (Piece.write_item schema labels 1)
  rw [each] at items
  refine ⟨Piece.write schema labels (1 + (Piece.arguments
    (Piece.separated ", " (draft.selection.items.map SelectItem.pieces))).length)
      (draft.selection.source ++ later), ?_⟩
  rw [headPieces, List.append_assoc, List.cons_append, Piece.write, Piece.write_append, items,
    List.cons_append, Piece.write]
  simp only [String.append_assoc]

/-- What the select list of a draft shows of one of a number of rows. -/
def shows (draft : Draft) (number : Nat) (row : Assignment) : List Value :=
  draft.selection.items.map (itemValue number row)

/-- Every select list starts with the projection. -/
theorem exists_shows_eq (draft : Draft) (number : Nat) (row : Assignment) :
    ∃ others, draft.shows number row = Column.projection.map row ++ others := by
  unfold shows
  cases draft.selection with
  | single => exact ⟨[], rfl⟩
  | byDomain => exact ⟨[], rfl⟩
  | page => exact ⟨[.ofNat number], rfl⟩

/-- No chain changes what a select reads and returns. -/
theorem selection_of_follow
    {chain : Chain}
    {selection : Selection}
    {draft : Draft}
    (drafted : ({ selection } : Draft).follow chain = .ok draft) :
    draft.selection = selection := by
  rw [Chain.follow_eq] at drafted
  cases stated : chain.predicates.mapM Clause.ofPredicate with
  | error failure =>
      rw [stated] at drafted
      cases drafted
  | ok conditions =>
      rw [stated] at drafted
      cases drafted
      rfl

end Draft

/--
The select list of every statement and the reader of rows agree column by column.  The
statement names the items of the select list in order; the values that these show of a row
decode exactly when every column is decodable, and then into the instance that carries the
row; and on a page the item after the projection, where the total is read, is the number of
matches.
-/
theorem projection_carries
    {selection : Selection}
    {chain : Chain}
    {draft : Draft}
    (drafted : ({ selection } : Draft).follow chain = .ok draft) :
    draft.selection = selection ∧
    (∀ (schema : Schema) (statement : Statement), draft.compile schema = .ok statement ->
      ∃ pieces rest, draft.pieces = .ok pieces ∧
        statement.text =
          "SELECT " ++
            ", ".intercalate (draft.selection.items.map (SelectItem.text schema (Piece.labels pieces)))
            ++ " \nFROM " ++ rest) ∧
    (∀ (number : Nat) (row : Assignment) (host : String) (inst : Instance),
      Row.decode (.list (draft.shows number row)) host = .ok inst ↔
        inst.Carries row ∧ inst.host = host) ∧
    (selection = .page ->
      draft.selection.items[Row.instanceWidth]? = some .matchCount ∧
      ∀ (number : Nat) (row : Assignment),
        Row.total (.list (draft.shows number row)) = .ok (.count number)) := by
  have selected := Draft.selection_of_follow drafted
  refine ⟨selected, ?written, ?decoded, ?counted⟩
  case written =>
    intro schema statement compiled
    obtain ⟨-, conjuncts, writes, rfl⟩ := Draft.compile_eq_ok_iff.mp compiled
    have pieces : draft.pieces = .ok (draft.piecesAround conjuncts) := by
      rw [Draft.pieces_eq, mapM_eq_ok_iff.mpr writes]
      rfl
    obtain ⟨rest, starts⟩ := draft.write_headPieces schema
      (Piece.labels (draft.piecesAround conjuncts))
      (Draft.wherePieces conjuncts ++ draft.orderingPieces ++ draft.windowPieces)
    refine ⟨_, rest, pieces, ?_⟩
    rw [← starts, ← List.append_assoc, ← List.append_assoc]
    rfl
  case decoded =>
    intro number row host inst
    obtain ⟨others, shown⟩ := draft.exists_shows_eq number row
    rw [shown]
    exact Row.decodeColumns_eq_ok_iff others
  case counted =>
    rintro rfl
    constructor
    · rw [selected]
      rfl
    · intro number row
      rw [Draft.shows, selected]
      rfl

/-- A page that is narrowed and bounded shows an instance without projects and setup. -/
theorem projection_carries_plainInstance :
    let draft : Draft := {
      selection := .page, conditions := [.equals .id (.text "i")], limit := some 5 }
    ({ selection := .page } : Draft).follow
      [.filter [.equals .id (.text "i")], .paginate { limit := some 5 }] = .ok draft ∧
    (∃ inst, Row.decode (.list (draft.shows 7 (plainInstance "i"))) "host" = .ok inst ∧
      inst.Carries (plainInstance "i") ∧ inst.host = "host") ∧
    Row.total (.list (draft.shows 7 (plainInstance "i"))) = .ok (.count 7) := by
  intro draft
  have drafted : ({ selection := .page } : Draft).follow
      [.filter [.equals .id (.text "i")], .paginate { limit := some 5 }] = .ok draft := rfl
  obtain ⟨-, -, decoded, counted⟩ := projection_carries drafted
  refine ⟨drafted, ⟨_, rfl, ?_⟩, (counted rfl).2 7 (plainInstance "i")⟩
  exact (decoded 7 (plainInstance "i") "host" _).mp rfl

end InstanceDirectory
