import InstanceDirectory.Proofs.Lending

/-!
# Scanning a collection

A scan reads the rows of a cursor until they end, a reading fails, or a row does not fit,
and then closes the cursor, once.  Its outcome weighs what went wrong first in reading
against what went wrong in closing, and a page is returned only when nothing went wrong.
-/

namespace InstanceDirectory

open Operation

namespace Supervision

/-- Answered moments leave an operation alone that has ended. -/
theorem after_done
    (outcome : Except Failure α)
    (site : Site)
    (fired : Bool)
    (answerers : List Answerer) :
    let ended : Supervision α := { operation := .done outcome, site, fired }
    ended.after (answerers.map .answered) = ended ∧
      ended.exchanges (answerers.map .answered) = [] := by
  intro ended
  induction answerers with
  | nil => exact ⟨rfl, rfl⟩
  | cons answerer answerers answerersHypothesis => exact answerersHypothesis

/-- A settled operation that the next moments are about. -/
def settled (operation : Operation α) (site : Site) (fired : Bool) : Supervision α where
  operation := (operation.settle site).1
  site := (operation.settle site).2
  fired := fired

/-- A loop whose request is answered goes on as the answer says. -/
theorem after_row
    (kept : List Value)
    (judge : List Value -> Value -> Verdict)
    (next : RowsEnd -> Operation α)
    (site : Site)
    (fired : Bool)
    {answerer : Answerer}
    {answer : Except Failure (Option Value)}
    (gives : answerer .nextRow = answer)
    (moments : List Moment) :
    ∃ traced : Site,
      (settled (.rows kept judge next) site fired).after (.answered answerer :: moments) =
        (settled (afterRow kept judge next answer) traced fired).after moments ∧
      (settled (.rows kept judge next) site fired).exchanges (.answered answerer :: moments) =
        Exchange.nextRow answer ::
          (settled (afterRow kept judge next answer) traced fired).exchanges moments := by
  subst gives
  obtain ⟨traced, -, -, answered⟩ := answer_rows kept judge next answerer site
  have stepped : (settled (.rows kept judge next) site fired).answer answerer =
      settled (afterRow kept judge next (answerer .nextRow)) traced fired := by
    simp only [settled, Supervision.answer, Operation.settle, answered]
  refine ⟨traced, ?_, ?_⟩
  · rw [after_cons, step, stepped]
  · rw [exchanges_cons, step, stepped]
    rfl

/-- A loop whose requests are answered as its reading says goes on after the reading. -/
theorem after_reading
    {judge : List Value -> Value -> Verdict}
    {kept : List Value}
    {answers : List (Except Failure (Option Value))}
    {ending : RowsEnd}
    (reading : Reading judge kept answers ending)
    (next : RowsEnd -> Operation α)
    (site : Site)
    (fired : Bool)
    {give : Except Failure (Option Value) -> Answerer}
    (gives : ∀ answer, give answer .nextRow = answer)
    (rest : List Moment) :
    ∃ traced : Site,
      (settled (.rows kept judge next) site fired).after
          (answers.map (.answered ∘ give) ++ rest) =
        (settled (next ending) traced fired).after rest ∧
      (settled (.rows kept judge next) site fired).exchanges
          (answers.map (.answered ∘ give) ++ rest) =
        answers.map Exchange.nextRow ++ (settled (next ending) traced fired).exchanges rest := by
  induction reading generalizing site with
  | exhausted kept => exact after_row kept judge next site fired (gives _) rest
  | failed kept failure => exact after_row kept judge next site fired (gives _) rest
  | @take kept row answers ending verdict _ readingHypothesis =>
      obtain ⟨between, first, firstWord⟩ := after_row kept judge next site fired
        (gives (.ok (some row))) (answers.map (.answered ∘ give) ++ rest)
      simp only [afterRow, verdict] at first firstWord
      obtain ⟨traced, later, laterWord⟩ := readingHypothesis between
      exact ⟨traced, first.trans later, firstWord.trans (congrArg (_ :: ·) laterWord)⟩
  | @takeLast kept row verdict =>
      have only := after_row kept judge next site fired (gives (.ok (some row))) rest
      simp only [afterRow, verdict] at only
      exact only
  | @refuse kept row failure verdict =>
      have only := after_row kept judge next site fired (gives (.ok (some row))) rest
      simp only [afterRow, verdict] at only
      exact only

end Supervision

namespace Row

/-- What is wrong with a row of a page: it does not decode, or its count is not one. -/
def fault? (row : Value) : Option Failure :=
  match decode row "" with
  | .error failure => some failure
  | .ok _ =>
      match total row with
      | .error failure => some failure
      | .ok _ => none

/-- A row with a fault is not added to a page. -/
theorem addTo_of_fault
    {row : Value}
    {failure : Failure}
    (faulty : fault? row = some failure)
    (page : Page) :
    addTo page row = .error failure := by
  unfold fault? at faulty
  unfold addTo
  cases decoded : decode row "" with
  | error _ =>
      rw [decoded] at faulty
      cases faulty
      rfl
  | ok inst =>
      simp only [decoded] at faulty
      cases counted : total row with
      | error _ =>
          rw [counted] at faulty
          cases faulty
          rfl
      | ok count =>
          rw [counted] at faulty
          cases faulty

/-- A row without a fault is added to a page with its count. -/
theorem addTo_of_sound
    {row : Value}
    (sound : fault? row = none)
    (page : Page) :
    ∃ inst count, decode row "" = .ok inst ∧ total row = .ok count ∧
      addTo page row = .ok { instances := page.instances ++ [inst], total := count } := by
  unfold fault? at sound
  unfold addTo
  cases decoded : decode row "" with
  | error failure =>
      rw [decoded] at sound
      cases sound
  | ok inst =>
      simp only [decoded] at sound
      cases counted : total row with
      | error failure =>
          rw [counted] at sound
          cases sound
      | ok count => exact ⟨inst, count, rfl, rfl, rfl⟩

end Row

namespace Scan

/-- The judge of a scan refuses exactly the rows with a fault. -/
theorem judge_eq (kept : List Value) (row : Value) :
    judge kept row =
      match Row.fault? row with
      | some failure => .refuse failure
      | none => .take := by
  unfold judge
  cases faulty : Row.fault? row with
  | some failure => rw [Row.addTo_of_fault faulty]
  | none =>
      obtain ⟨inst, count, -, -, added⟩ := Row.addTo_of_sound faulty {}
      rw [added]

/-- The count of a page of rows: the one of the last row, and the given one without rows. -/
def CountsLast (rows : List Value) (otherwise count : Tally) : Prop :=
  match rows.getLast? with
  | none => count = otherwise
  | some last => Row.total last = .ok count

/--
Rows without a fault add their instances to a page, in order, and the count of the last row
becomes the count of the page.
-/
theorem foldlM_addTo
    {rows : List Value}
    (sound : ∀ row ∈ rows, Row.fault? row = none)
    (page : Page) :
    ∃ instances count,
      rows.foldlM Row.addTo page =
        .ok { instances := page.instances ++ instances, total := count } ∧
      (rows.map fun row => Row.decode row "") = instances.map .ok ∧
      CountsLast rows page.total count := by
  induction rows generalizing page with
  | nil => exact ⟨[], page.total, by simp; rfl, rfl, rfl⟩
  | cons row rows rowsHypothesis =>
      obtain ⟨inst, count, decoded, counted, added⟩ :=
        Row.addTo_of_sound (sound row List.mem_cons_self) page
      obtain ⟨instances, last, folded, decodes, counts⟩ :=
        rowsHypothesis (fun row member => sound row (List.mem_cons_of_mem _ member))
          { instances := page.instances ++ [inst], total := count }
      refine ⟨inst :: instances, last, ?_, ?_, ?_⟩
      · rw [List.append_assoc] at folded
        rw [List.foldlM_cons, added]
        exact folded
      · rw [List.map_cons, List.map_cons, decoded, decodes]
      · unfold CountsLast at counts ⊢
        rw [List.getLast?_cons]
        cases ends : rows.getLast? with
        | none =>
            rw [ends] at counts
            simpa [counts] using counted
        | some final =>
            rw [ends] at counts
            exact counts

/-- The outcome of reading rows into a page. -/
def collected (ending : RowsEnd) : Except Failure Page :=
  (Cursor.concludeRows id ending).bind page

/-- A scan of the caller's own rows is a loop followed by one closing. -/
theorem run_direct (details : Fields) :
    run .direct details = .rows [] judge fun ending =>
      .call .closeRows fun closed => .done (conclude details (collected ending) closed) := by
  unfold run collect Cursor.read Cursor.close
  simp only [attempt_rows]
  congr 1
  funext ending
  cases ending <;> rfl

/-- What a cursor supplies: rows, how they end, and how closing goes. -/
structure Supply where
  /-- The rows in order. -/
  rows : List Value
  /-- The failure of the reading after the last row, if it is one. -/
  failure? : Option Failure
  /-- How closing goes. -/
  closing : Except Failure Unit

namespace Supply

/-- The answer to the reading after the last row. -/
def last (supply : Supply) : Except Failure (Option Value) :=
  match supply.failure? with
  | some failure => .error failure
  | none => .ok none

/-- Answer for a row, or for the closing. -/
def give (supply : Supply) (answer : Except Failure (Option Value)) : Answerer
  | .nextRow => answer
  | .closeRows => supply.closing
  | _ => .error .interrupted

theorem give_nextRow (supply : Supply) (answer : Except Failure (Option Value)) :
    supply.give answer .nextRow = answer := rfl

/--
The answers that a cursor has for some rows and what comes after them: one for each row, one
for their end and one for the closing, at which the end of the rows would be met again.
-/
def offers (supply : Supply) (rows : List Value) : List (Except Failure (Option Value)) :=
  rows.map (fun row => .ok (some row)) ++ [supply.last, supply.last]

/-- The moments at which a cursor answers; whoever closes early needs fewer of them. -/
def moments (supply : Supply) : List Moment :=
  (supply.offers supply.rows).map (.answered ∘ supply.give)

/-- The answers of readings up to the first row with a fault. -/
def answersUntilFault (supply : Supply) : List Value -> List (Except Failure (Option Value))
  | [] => [supply.last]
  | row :: rows =>
      .ok (some row) ::
        match Row.fault? row with
        | some _ => []
        | none => supply.answersUntilFault rows

/-- The answers of the readings that are made. -/
def answers (supply : Supply) : List (Except Failure (Option Value)) :=
  supply.answersUntilFault supply.rows

/-- How the reading of rows ends when some were kept before. -/
def ending (supply : Supply) (kept rows : List Value) : RowsEnd :=
  match rows.findSome? Row.fault? with
  | some fault => .refused fault
  | none =>
      match supply.failure? with
      | some failure => .failed failure
      | none => .exhausted (kept ++ rows)

/-- What goes wrong first in reading. -/
def fault? (supply : Supply) : Option Failure :=
  (supply.rows.findSome? Row.fault?).or supply.failure?

/-- A cursor has an answer for every reading, and at least one more. -/
theorem offers_eq (supply : Supply) (rows : List Value) :
    ∃ next later, supply.offers rows = supply.answersUntilFault rows ++ next :: later := by
  induction rows with
  | nil => exact ⟨supply.last, [], rfl⟩
  | cons row rows rowsHypothesis =>
      cases faulty : Row.fault? row with
      | some failure =>
          obtain ⟨next, later, offered⟩ : ∃ next later, supply.offers rows = next :: later := by
            cases rows <;> exact ⟨_, _, rfl⟩
          refine ⟨next, later, ?_⟩
          simp only [answersUntilFault, faulty]
          exact congrArg (.ok (some row) :: ·) offered
      | none =>
          obtain ⟨next, later, offered⟩ := rowsHypothesis
          refine ⟨next, later, ?_⟩
          simp only [answersUntilFault, faulty]
          exact congrArg (.ok (some row) :: ·) offered

/-- The readings that are made end as the rows and their faults say. -/
theorem reading (supply : Supply) (kept rows : List Value) :
    Reading judge kept (supply.answersUntilFault rows) (supply.ending kept rows) := by
  induction rows generalizing kept with
  | nil =>
      simp only [answersUntilFault, ending, last, List.findSome?_nil]
      cases supply.failure? with
      | some failure => exact .failed kept failure
      | none =>
          rw [List.append_nil]
          exact .exhausted kept
  | cons row rows rowsHypothesis =>
      have judged := judge_eq kept row
      cases faulty : Row.fault? row with
      | some failure =>
          rw [faulty] at judged
          simp only [answersUntilFault, ending, List.findSome?_cons, faulty]
          exact .refuse judged
      | none =>
          rw [faulty] at judged
          have rest := rowsHypothesis (kept ++ [row])
          simp only [ending, List.append_assoc, List.singleton_append] at rest
          simp only [answersUntilFault, ending, List.findSome?_cons, faulty]
          exact .take judged rest

/-- A scan of what a cursor supplies ends after one closing. -/
theorem run_ends (supply : Supply) (details : Fields) (site : Site) :
    let running := Supervision.start (run .direct details) site
    (running.after supply.moments).operation =
      .done (conclude details (collected (supply.ending [] supply.rows)) supply.closing) ∧
    running.exchanges supply.moments =
      supply.answers.map Exchange.nextRow ++ [⟨.closeRows, supply.closing⟩] := by
  intro running
  obtain ⟨next, later, offered⟩ := supply.offers_eq supply.rows
  have whole : supply.moments = supply.answers.map (.answered ∘ supply.give) ++
      (next :: later).map (.answered ∘ supply.give) := by
    rw [moments, offered, List.map_append]
    rfl
  have started : running = Supervision.settled (.rows [] judge fun ending =>
      .call .closeRows fun closed => .done (conclude details (collected ending) closed))
        site false := by
    rw [← run_direct]
    rfl
  obtain ⟨traced, read, readWord⟩ := Supervision.after_reading (supply.reading [] supply.rows)
    (fun ending => .call .closeRows fun closed =>
      .done (conclude details (collected ending) closed))
    site false supply.give_nextRow ((next :: later).map (.answered ∘ supply.give))
  obtain ⟨ended, noExchange⟩ := Supervision.after_done
    (conclude details (collected (supply.ending [] supply.rows)) supply.closing)
    (traced.note (.contact (.requested .closeRows))) false (later.map supply.give)
  rw [List.map_map] at ended noExchange
  rw [whole, started]
  refine ⟨?_, ?_⟩
  · rw [answers, read]
    exact congrArg Supervision.operation ended
  · rw [answers, readWord]
    exact congrArg (_ ++ Exchange.mk .closeRows supply.closing :: ·) noExchange

/-- What comes of a scan, from what went wrong in reading and what went wrong in closing. -/
structure Concludes
    (supply : Supply) (details : Fields) (outcome : Except Failure Page) : Prop where
  /-- A closing that fails with a failure that is not the store's decides the outcome. -/
  closingFails : ∀ failure, supply.closing = .error failure -> failure.isStore = false ->
    outcome = .error failure
  /-- Otherwise what went wrong first in reading does; the store and rows are reported. -/
  readingFails : ∀ fault, supply.fault? = some fault ->
    (∀ failure, supply.closing = .error failure -> failure.isStore) ->
    outcome = .error (if fault.isStore || fault.isDecode
      then .internal "Errors.Internal" "QUERY-3j98f" details fault else fault)
  /-- When nothing went wrong in reading, the store's failure in closing is reported. -/
  onlyClosingFails : supply.fault? = none -> ∀ failure, supply.closing = .error failure ->
    failure.isStore ->
    outcome = .error (.internal "Errors.Query.CloseRows" "QUERY-8nlWW" details failure)
  /-- When nothing went wrong, all rows are returned in order with the last row's count. -/
  returned : supply.fault? = none -> supply.closing = .ok () ->
    ∃ page, outcome = .ok page ∧
      (supply.rows.map fun row => Row.decode row "") = page.instances.map .ok ∧
      CountsLast supply.rows (.count 0) page.total

/-- What was collected when something went wrong in reading. -/
theorem collected_of_fault
    {supply : Supply}
    {fault : Failure}
    (faulty : supply.fault? = some fault) :
    collected (supply.ending [] supply.rows) = .error fault := by
  unfold fault? at faulty
  unfold ending
  cases found : supply.rows.findSome? Row.fault? with
  | some first =>
      rw [found] at faulty
      cases faulty
      rfl
  | none =>
      rw [found] at faulty
      cases failed : supply.failure? with
      | some failure =>
          rw [failed] at faulty
          cases faulty
          rfl
      | none =>
          rw [failed] at faulty
          cases faulty

/-- What was collected when nothing went wrong in reading. -/
theorem collected_of_sound
    {supply : Supply}
    (sound : supply.fault? = none) :
    ∃ page, collected (supply.ending [] supply.rows) = .ok page ∧
      (supply.rows.map fun row => Row.decode row "") = page.instances.map .ok ∧
      CountsLast supply.rows (.count 0) page.total := by
  obtain ⟨noFault, noFailure⟩ := Option.or_eq_none_iff.mp sound
  obtain ⟨instances, count, folded, decodes, counts⟩ :=
    foldlM_addTo (List.findSome?_eq_none_iff.mp noFault) {}
  refine ⟨{ instances, total := count }, ?_, decodes, counts⟩
  simp only [ending, noFault, noFailure]
  exact folded

end Supply

/--
A scan of whatever a cursor supplies ends.  It reads up to the first row with a fault, or to
the end of the rows, then closes the cursor, once, and its outcome is all or nothing.
-/
theorem run_concludes (supply : Supply) (details : Fields) (site : Site) :
    let running := Supervision.start (run .direct details) site
    ∃ outcome,
      (running.after supply.moments).operation.outcome? = some outcome ∧
      running.exchanges supply.moments =
        supply.answers.map Exchange.nextRow ++ [⟨.closeRows, supply.closing⟩] ∧
      supply.Concludes details outcome := by
  intro running
  obtain ⟨ended, word⟩ := supply.run_ends details site
  refine ⟨_, congrArg Operation.outcome? ended, word, ?_, ?_, ?_, ?_⟩
  · intro failure failed notStore
    rw [failed]
    simp only [conclude, notStore]
    rfl
  · intro fault faulty closes
    rw [Supply.collected_of_fault faulty]
    cases closed : supply.closing with
    | ok => rfl
    | error failure => simp only [conclude, closes failure closed, if_true, report]
  · intro sound failure failed ofStore
    obtain ⟨page, collects, -, -⟩ := Supply.collected_of_sound sound
    rw [failed, collects]
    simp only [conclude, ofStore, if_true]
  · intro sound closed
    obtain ⟨page, collects, decodes, counts⟩ := Supply.collected_of_sound sound
    refine ⟨page, ?_, decodes, counts⟩
    rw [closed, collects]
    rfl

end Scan
end InstanceDirectory
