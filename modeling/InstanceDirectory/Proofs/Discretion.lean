import InstanceDirectory.Proofs.Matching
import InstanceDirectory.Proofs.Resolution
import InstanceDirectory.Service

/-!
# Discretion of reads

What a failure of the driver says, and what an unfit row holds, never reaches the caller of
a read over the pool.  Every step on the way builds a message of its own from the failure
that it caught, and the last one reports nothing but the name of the read and the caller's
own key.  So each operation of the reads matches itself, and so do the accounts that are
given of it.
-/

namespace InstanceDirectory

open Operation

/--
Two failures of an operation over the pool tell a caller the same once the store is left out:
they are one failure that may pass, failures of the store, or the same report.
-/
inductive Failure.Surfaces (passes : Failure -> Prop) (details : Fields) :
    Failure -> Failure -> Prop where
  | passed {failure : Failure} : passes failure -> Surfaces passes details failure failure
  | store {first second : Failure} :
      first.isStore -> second.isStore -> Surfaces passes details first second
  | reported {first second : Failure} {errorId : String} :
      first.kind = .query .internal errorId details ->
      second.kind = .query .internal errorId details ->
      first.message = second.message -> Surfaces passes details first second

variable {passes : Failure -> Prop} {details : Fields}

namespace Failure

/-- The internal failures of reads are made of the details and of nothing else that varies. -/
theorem internal_surfaces
    (apart : repeated? details = none)
    (message errorId : String)
    (first second : Failure) :
    Surfaces passes details (internal message errorId details first)
      (internal message errorId details second) := by
  simp only [internal, query, apart]
  exact .reported rfl rfl rfl

theorem Surfaces.isStore_eq
    {first second : Failure}
    (surfaces : first.Surfaces passes details second) :
    first.isStore = second.isStore := by
  cases surfaces with
  | passed _ => rfl
  | store isStore isStoreToo => rw [isStore, isStoreToo]
  | reported isInternal isInternalToo _ => simp [isStore, isInternal, isInternalToo]

/-- Failures that are alike are both of the driver, or one failure that may pass. -/
theorem Alike.cases
    {first second : Failure}
    (alike : first.Alike second)
    (permitted : first.isDriver ∨ passes first) :
    (first.isDriver ∧ second.isDriver) ∨
      (first = second ∧ first.isDriver = false ∧ passes first) := by
  rcases alike with rfl | areDriver
  · cases isDriver : first.isDriver with
    | true => exact .inl ⟨rfl, rfl⟩
    | false => exact .inr ⟨rfl, rfl, permitted.resolve_left (by simp [isDriver])⟩
  · exact .inl areDriver

end Failure

namespace Pool

/-- What a failure of the driver says ends in the failure that the pool reports. -/
theorem failWith_matches
    {first second : Failure}
    {answers : α -> α -> Prop}
    (event : Failure -> PoolEvent)
    (message : String)
    (alike : first.Alike second)
    (permitted : first.isDriver ∨ passes first) :
    (failWith event message first).Matches passes
      (Related answers (Failure.Surfaces passes details)) (failWith event message second) := by
  rcases alike.cases permitted with ⟨isDriver, isDriverToo⟩ | ⟨rfl, notDriver, passing⟩
  · simp only [failWith, isDriver, isDriverToo, if_true]
    exact .note _ _ (.done (.error (.store rfl rfl)))
  · simp only [failWith, notDriver, Bool.false_eq_true, if_false]
    exact .done (.error (.passed passing))

theorem acquire_matches :
    acquire.Matches passes (Related Eq (Failure.Surfaces passes details)) acquire := by
  refine .ifOpen (.call ?_) (.done (.error (.store rfl rfl)))
  intro answer other alike permitted
  cases alike with
  | ok same => exact .note _ _ (.done (.ok same))
  | error alike => exact failWith_matches _ _ alike permitted

theorem release_matches (connection : Connection) :
    (release connection).Matches passes (Related (fun _ _ => True)
      (Failure.Surfaces passes details)) (release connection) := by
  refine .ifOpen (.call ?_) (.done (.ok trivial))
  intro answer other alike permitted
  cases alike with
  | ok _ => exact .note _ _ (.done (.ok trivial))
  | error alike => exact failWith_matches _ _ alike permitted

end Pool

namespace Statement

/-- What a failure of the driver says ends in the failure that a statement reports. -/
theorem report_surfaces
    {first second : Failure}
    (statement : Statement)
    (message : String)
    (alike : first.Alike second)
    (permitted : first.isDriver ∨ passes first) :
    Failure.Surfaces passes details (statement.report message first)
      (statement.report message second) := by
  rcases alike.cases permitted with ⟨isDriver, isDriverToo⟩ | ⟨rfl, notDriver, passing⟩
  · simp only [report, isDriver, isDriverToo, if_true]
    exact .store rfl rfl
  · simp only [report, notDriver, Bool.false_eq_true, if_false]
    exact .passed passing

end Statement

/-- Giving a connection back in any case leaves the outcome before unless it fails itself. -/
theorem Pool.release_then_matches
    {answers : α -> α -> Prop}
    {outcome ending : Except Failure α}
    (connection : Connection)
    (related : Related answers (Failure.Surfaces passes details) outcome ending) :
    ((release connection).attempt fun
        | .error failure => .fail failure
        | .ok () => .done outcome).Matches passes
      (Related answers (Failure.Surfaces passes details))
      ((release connection).attempt fun
        | .error failure => .fail failure
        | .ok () => .done ending) := by
  apply (release_matches connection).attempt
  intro returned other alike
  cases alike with
  | ok _ => exact .done related
  | error surfaces => exact .done (.error surfaces)

namespace Executor

/-- The first row over the pool is the same or unfit, and a failure is of the store. -/
theorem fetchRowPooled_matches (statement : Statement) :
    (fetchRowPooled statement).Matches passes
      (Related
        (fun row other => Row.Alike Row.IsUndecodable row other ∧ Row.IsPermitted passes row)
        (Failure.Surfaces passes details)) (fetchRowPooled statement) := by
  apply Pool.acquire_matches.andThen
  rintro connection _ rfl
  refine .call ?_
  intro answer other alike permitted
  apply Pool.release_then_matches
  cases alike with
  | ok alike => exact .ok ⟨alike, permitted⟩
  | error alike => exact .error (statement.report_surfaces _ alike permitted)

/-- A pooled cursor over the same connection is opened in both runs. -/
theorem openRows_matches (statement : Statement) (prefetch : Int) :
    ((pooled prefetch).openRows statement).Matches passes
      (Related (fun cursor other => cursor = other ∧
        ∃ connection, cursor = .pooled connection statement prefetch)
        (Failure.Surfaces passes details)) ((pooled prefetch).openRows statement) := by
  apply Pool.acquire_matches.andThen
  rintro connection _ rfl
  refine .note _ _ (.call ?_)
  intro answer other alike permitted
  cases alike with
  | ok _ => exact .done (.ok ⟨rfl, connection, rfl⟩)
  | @error failure fault alike =>
      have reported : Failure.Surfaces passes details
          (statement.report "Starting read transaction failed: " failure)
          (statement.report "Starting read transaction failed: " fault) :=
        statement.report_surfaces _ alike permitted
      rcases alike.cases permitted with ⟨isDriver, isDriverToo⟩ | ⟨rfl, -, passing⟩
      · simp only [isDriver, isDriverToo, Bool.true_or, if_true]
        apply (Pool.release_matches connection).andThen
        rintro - - -
        exact .done (.error reported)
      · cases givesBack : failure.isDriver || failure.isInterruption with
        | true =>
            simp only [givesBack, if_true]
            apply (Pool.release_matches connection).andThen
            rintro - - -
            exact .done (.error reported)
        | false =>
            simp only [givesBack, Bool.false_eq_true, if_false]
            exact .done (.error (.passed passing))

end Executor

/-- Two failures of a scan are those of an operation over the pool, or matters of decoding. -/
def Failure.Spoils (passes : Failure -> Prop) (details : Fields) (first second : Failure) : Prop :=
  first.Surfaces passes details second ∨ (first.isDecode ∧ second.isDecode)

/-- The end of a transaction is reported over the same connection in both runs. -/
theorem Cursor.finishTransaction_matches (connection : Connection) (statement : Statement) :
    (finishTransaction connection statement).Matches passes
      (Related (fun _ _ => True) (Failure.Surfaces passes details))
      (finishTransaction connection statement) := by
  refine .call ?_
  intro answer other alike permitted
  apply Pool.release_then_matches
  cases alike with
  | ok _ => exact .ok trivial
  | error alike => exact .error (statement.report_surfaces _ alike permitted)

namespace Scan

/-- Rows that were collected are the same in both runs, and make up the same page. -/
theorem collect_matches (connection : Connection) (statement : Statement) (prefetch : Int) :
    (collect (.pooled connection statement prefetch)).Matches passes
      (Related Eq (Failure.Spoils passes details))
      (collect (.pooled connection statement prefetch)) := by
  refine .note _ _ (.rows nofun ?_)
  intro ending other alike
  cases alike with
  | @exhausted rows sound =>
      obtain ⟨instances, count, folded, -⟩ := foldlM_addTo sound {}
      have collected : page rows = .ok { instances := [] ++ instances, total := count } := folded
      refine .done ?_
      rw [collected]
      exact .ok rfl
  | refused alike =>
      rcases alike with areDecode | ⟨rfl, passing⟩
      · exact .done (.error (.inr areDecode))
      · exact .done (.error (.inl (.passed passing)))
  | failed alike permitted =>
      exact .done (.error (.inl (statement.report_surfaces _ alike permitted)))

/-- What a scan reports of a failure that spoiled it tells a caller the same in both runs. -/
theorem report_surfaces
    {first second : Failure}
    (apart : Failure.repeated? details = none)
    (spoils : first.Spoils passes details second) :
    Failure.Surfaces passes details (report details first) (report details second) := by
  have wraps {failure : Failure} (wrapped : failure.isStore || failure.isDecode) :
      report details failure = .internal "Errors.Internal" "QUERY-3j98f" details failure :=
    if_pos wrapped
  rcases spoils with surfaces | ⟨isDecode, isDecodeToo⟩
  · cases surfaces with
    | passed passing =>
        cases wrapped : first.isStore || first.isDecode with
        | true =>
            rw [wraps wrapped]
            exact Failure.internal_surfaces apart _ _ _ _
        | false =>
            rw [report, wrapped]
            exact .passed passing
    | store isStore isStoreToo =>
        rw [wraps (by simp [isStore]), wraps (by simp [isStoreToo])]
        exact Failure.internal_surfaces apart _ _ _ _
    | reported isInternal isInternalToo sameMessage =>
        have kept : report details first = first := by
          simp [report, Failure.isStore, Failure.isDecode, isInternal]
        have keptToo : report details second = second := by
          simp [report, Failure.isStore, Failure.isDecode, isInternalToo]
        rw [kept, keptToo]
        exact .reported isInternal isInternalToo sameMessage
  · rw [wraps (by simp [isDecode]), wraps (by simp [isDecodeToo])]
    exact Failure.internal_surfaces apart _ _ _ _

/-- A scan whose reading and closing go alike concludes alike. -/
theorem conclude_related
    {collected gathered : Except Failure Page}
    {closed ended : Except Failure Unit}
    (apart : Failure.repeated? details = none)
    (reading : Related Eq (Failure.Spoils passes details) collected gathered)
    (closing : Related (fun _ _ => True) (Failure.Surfaces passes details) closed ended) :
    Related Eq (Failure.Surfaces passes details)
      (conclude details collected closed) (conclude details gathered ended) := by
  have reported : Related Eq (Failure.Surfaces passes details)
      (collected.mapError (report details)) (gathered.mapError (report details)) := by
    cases reading with
    | ok same => exact .ok same
    | error spoils => exact .error (report_surfaces apart spoils)
  cases closing with
  | ok _ => exact reported
  | error surfaces =>
      simp only [conclude, ← surfaces.isStore_eq]
      split
      · cases reading with
        | ok _ => exact .error (Failure.internal_surfaces apart _ _ _ _)
        | error spoils => exact .error (report_surfaces apart spoils)
      · exact .error surfaces

theorem run_matches
    (apart : Failure.repeated? details = none)
    (connection : Connection)
    (statement : Statement)
    (prefetch : Int) :
    (run (.pooled connection statement prefetch) details).Matches passes
      (Related Eq (Failure.Surfaces passes details))
      (run (.pooled connection statement prefetch) details) := by
  apply (collect_matches connection statement prefetch).attempt
  intro collected gathered reading
  apply (Cursor.finishTransaction_matches connection statement).attempt
  intro closed ended closing
  exact .done (conclude_related apart reading closing)

end Scan

/-- The operation of a search over the pool keeps what it is told to itself. -/
theorem Repository.searchOperation_matches
    {repository : Repository}
    {prefetch : Int}
    (pooled : repository.executor = .pooled prefetch)
    (statement : Statement) :
    (repository.searchOperation statement).Matches passes
      (Related Eq (Failure.Surfaces passes searchDetails))
      (repository.searchOperation statement) := by
  unfold searchOperation
  rw [pooled]
  apply (Executor.openRows_matches statement prefetch).andThen
  rintro cursor _ ⟨rfl, connection, rfl⟩
  exact Scan.run_matches rfl connection statement prefetch

end InstanceDirectory
