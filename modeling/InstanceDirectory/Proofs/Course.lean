import InstanceDirectory.Account
import InstanceDirectory.Proofs.Ending
import InstanceDirectory.Supervision

/-!
# Courses of operations under a context

What happens while an operation runs is a sequence of moments: requests are answered, and
the context may fire.  Each moment is at most one exchange with the driver, so a sequence
of moments brings about a sequence of exchanges.  When the operation has ended, these are
the exchanges of one of its endings, and what the operation has remarked on the way stands
in the journal.
-/

namespace InstanceDirectory

/--
A remark is written by an operation itself; requests, rows and interruptions are traced
for it.
-/
def Notice.isRemark : Notice -> Bool
  | contact (.requested _) => false
  | contact (.row _) => false
  | contact (.interrupted _) => false
  | _ => true

namespace Site

/-- The remarks in the journal, in order. -/
def remarks (site : Site) : List Notice :=
  site.journal.filter Notice.isRemark

@[simp] theorem remarks_note (site : Site) (notice : Notice) :
    (site.note notice).remarks = site.remarks ++ [notice].filter Notice.isRemark := by
  simp [remarks, note]

end Site

namespace Act

/-- The remarks among acts, in order. -/
def remarks (acts : List Act) : List Notice :=
  (notices acts).filter Notice.isRemark

@[simp] theorem remarks_nil : remarks [] = [] := rfl

@[simp] theorem remarks_noted (notice : Notice) (acts : List Act) :
    remarks (noted notice :: acts) = [notice].filter Notice.isRemark ++ remarks acts := by
  simp only [remarks, notices_noted, List.filter_cons]
  cases notice.isRemark <;> rfl

@[simp] theorem remarks_append (first second : List Act) :
    remarks (first ++ second) = remarks first ++ remarks second := by
  simp [remarks]

end Act

namespace Operation

/--
By the given acts an operation is carried on to a later one: every ending of the later
operation is an ending of the earlier one, and the remarks of the acts are in the journal.
-/
structure Advances
    (operation : Operation α) (site : Site) (acts : List Act)
    (later : Operation α) (laterSite : Site) : Prop where
  /-- What the later operation ends in, the earlier one ends in after the acts. -/
  ends : ∀ {rest : List Act} {outcome : Except Failure α} {left : Bool},
    Ends laterSite.isOpen later rest outcome left ->
      Ends site.isOpen operation (acts ++ rest) outcome left
  /-- The journal has grown by the remarks of the acts. -/
  remarks : laterSite.remarks = site.remarks ++ Act.remarks acts

namespace Advances

theorem refl (operation : Operation α) (site : Site) :
    Advances operation site [] operation site where
  ends ending := ending
  remarks := by simp

theorem trans
    {first second third : Operation α}
    {firstSite secondSite thirdSite : Site}
    {before after : List Act}
    (earlier : Advances first firstSite before second secondSite)
    (later : Advances second secondSite after third thirdSite) :
    Advances first firstSite (before ++ after) third thirdSite where
  ends ending := by
    rw [List.append_assoc]
    exact earlier.ends (later.ends ending)
  remarks := by
    rw [later.remarks, earlier.remarks, Act.remarks_append, List.append_assoc]

/-- Traces that are no remarks leave a site as it is for operations. -/
theorem of_traced
    {operation later : Operation α}
    {site traced laterSite : Site}
    {acts : List Act}
    (advances : Advances operation traced acts later laterSite)
    (sameOpen : traced.isOpen = site.isOpen)
    (sameRemarks : traced.remarks = site.remarks) :
    Advances operation site acts later laterSite where
  ends ending := sameOpen ▸ advances.ends ending
  remarks := sameRemarks ▸ advances.remarks

end Advances

/-- Settling carries an operation on without an exchange. -/
theorem settle_advances (operation : Operation α) (site : Site) :
    ∃ acts, Act.exchanges acts = [] ∧
      Advances operation site acts (operation.settle site).1 (operation.settle site).2 := by
  induction operation generalizing site with
  | done outcome => exact ⟨[], rfl, .refl _ _⟩
  | note notice next nextHypothesis =>
      obtain ⟨acts, noExchange, advances⟩ := nextHypothesis (site.note notice)
      refine ⟨.noted notice :: acts, noExchange, fun ending => ?_, ?_⟩
      · exact .note notice (advances.ends ending)
      · rw [Act.remarks_noted, ← List.append_assoc, ← Site.remarks_note]
        exact advances.remarks
  | ifOpen whenOpen whenClosed openHypothesis closedHypothesis =>
      cases found : site.isOpen with
      | true =>
          obtain ⟨acts, noExchange, advances⟩ := openHypothesis site
          simp only [settle, found, if_true]
          refine ⟨acts, noExchange, fun ending => .ifOpen ?_, advances.remarks⟩
          rw [if_pos found]
          exact advances.ends ending
      | false =>
          obtain ⟨acts, noExchange, advances⟩ := closedHypothesis site
          simp only [settle, found, Bool.false_eq_true, if_false]
          refine ⟨acts, noExchange, fun ending => .ifOpen ?_, advances.remarks⟩
          rw [if_neg (Bool.eq_false_iff.mp found)]
          exact advances.ends ending
  | setOpen isOpen next nextHypothesis =>
      obtain ⟨acts, noExchange, advances⟩ := nextHypothesis { site with isOpen }
      exact ⟨acts, noExchange, fun ending => .setOpen _ (advances.ends ending),
        advances.remarks⟩
  | call request next nextHypothesis =>
      refine ⟨[], rfl, ?_⟩
      cases traced : isTraced request with
      | true =>
          simp only [settle, traced, if_true]
          exact ⟨fun ending => ending, by simp [Notice.isRemark]⟩
      | false =>
          simp only [settle, traced, Bool.false_eq_true, if_false]
          exact .refl _ _
  | rows kept judge next nextHypothesis => exact ⟨[], rfl, .refl _ _⟩

/-- Answering for a row goes on as the answer says, whatever it is. -/
theorem answer_rows
    (kept : List Value)
    (judge : List Value -> Value -> Verdict)
    (next : RowsEnd -> Operation α)
    (answerer : Answerer)
    (site : Site) :
    ∃ traced : Site, traced.isOpen = site.isOpen ∧ traced.remarks = site.remarks ∧
      (rows kept judge next).answer answerer site =
        (afterRow kept judge next (answerer .nextRow)).settle traced := by
  simp only [answer]
  rcases answerer .nextRow with failure | (_ | row)
  · exact ⟨site, rfl, rfl, rfl⟩
  · exact ⟨site, rfl, rfl, rfl⟩
  · refine ⟨site.note (.contact (.row kept.length)), rfl, by simp [Notice.isRemark], ?_⟩
    simp only [afterRow]
    cases judge kept row <;> rfl

/-- An answer carries an operation on by the exchange of the request it was waiting for. -/
theorem answer_advances (operation : Operation α) (answerer : Answerer) (site : Site) :
    ∃ acts,
      Act.exchanges acts =
        (operation.request?.map fun request => ⟨request, answerer request⟩).toList ∧
      Advances operation site acts
        (operation.answer answerer site).1 (operation.answer answerer site).2 := by
  cases operation with
  | call request next =>
      obtain ⟨acts, noExchange, advances⟩ := settle_advances (next (answerer request)) site
      refine ⟨.exchanged ⟨request, answerer request⟩ :: acts, ?_, ?_⟩
      · simp [noExchange, request?]
      · exact ⟨fun ending => .call _ (advances.ends ending), advances.remarks⟩
  | rows kept judge next =>
      obtain ⟨traced, sameOpen, sameRemarks, answered⟩ :=
        answer_rows kept judge next answerer site
      obtain ⟨acts, noExchange, advances⟩ :=
        settle_advances (afterRow kept judge next (answerer .nextRow)) traced
      have untraced := advances.of_traced sameOpen sameRemarks
      rw [answered]
      refine ⟨.exchanged ⟨.nextRow, answerer .nextRow⟩ :: acts, ?_, ?_⟩
      · simp [noExchange, request?]
      · exact ⟨fun ending => .rows _ (untraced.ends ending), untraced.remarks⟩
  | done outcome => exact settle_advances _ site
  | note notice next => exact settle_advances _ site
  | ifOpen whenOpen whenClosed => exact settle_advances _ site
  | setOpen isOpen next => exact settle_advances _ site

end Operation

namespace Supervision

/-- Take moments in order. -/
def after (supervision : Supervision α) (moments : List Moment) : Supervision α :=
  moments.foldl step supervision

@[simp] theorem after_nil (supervision : Supervision α) : supervision.after [] = supervision :=
  rfl

@[simp] theorem after_cons
    (supervision : Supervision α)
    (moment : Moment)
    (moments : List Moment) :
    supervision.after (moment :: moments) = (supervision.step moment).after moments := rfl

/-- The exchange that a moment brings about. -/
def exchange? (supervision : Supervision α) : Moment -> Option Exchange
  | .answered answerer =>
      supervision.operation.request?.map fun request => ⟨request, answerer request⟩
  | .fired =>
      if supervision.fired then none
      else supervision.operation.request?.map fun request => ⟨request, .error .interrupted⟩

/-- The exchanges that moments bring about, in order. -/
def exchanges (supervision : Supervision α) : List Moment -> List Exchange
  | [] => []
  | moment :: moments =>
      (supervision.exchange? moment).toList ++ (supervision.step moment).exchanges moments

@[simp] theorem exchanges_nil (supervision : Supervision α) :
    supervision.exchanges [] = [] := rfl

@[simp] theorem exchanges_cons
    (supervision : Supervision α)
    (moment : Moment)
    (moments : List Moment) :
    supervision.exchanges (moment :: moments) =
      (supervision.exchange? moment).toList ++
        (supervision.step moment).exchanges moments := rfl

/-- Moments are taken one part after the other. -/
theorem after_append
    (supervision : Supervision α)
    (first second : List Moment) :
    supervision.after (first ++ second) = (supervision.after first).after second :=
  List.foldl_append

theorem exchanges_append
    (supervision : Supervision α)
    (first second : List Moment) :
    supervision.exchanges (first ++ second) =
      supervision.exchanges first ++ (supervision.after first).exchanges second := by
  induction first generalizing supervision with
  | nil => rfl
  | cons moment first firstHypothesis =>
      rw [List.cons_append, exchanges_cons, firstHypothesis, exchanges_cons, after_cons,
        List.append_assoc]

/-- The context of an operation that has fired stays fired. -/
theorem fired_step
    {supervision : Supervision α}
    (fired : supervision.fired)
    (moment : Moment) :
    (supervision.step moment).fired := by
  cases moment with
  | answered answerer => exact fired
  | fired => simp [step, fire, fired]

theorem fired_after
    {supervision : Supervision α}
    (fired : supervision.fired)
    (moments : List Moment) :
    (supervision.after moments).fired := by
  induction moments generalizing supervision with
  | nil => exact fired
  | cons moment moments momentsHypothesis =>
      exact momentsHypothesis (fired_step fired moment)

/-- The trace of an interruption is no remark. -/
theorem noteInterruption_traced (operation : Operation α) (site : Site) :
    (noteInterruption operation site).isOpen = site.isOpen ∧
      (noteInterruption operation site).remarks = site.remarks := by
  cases operation with
  | call request next => exact ⟨rfl, by simp [noteInterruption, Notice.isRemark]⟩
  | _ => exact ⟨rfl, rfl⟩

/-- An operation that has ended is waiting for nothing. -/
theorem request?_of_outcome?
    {operation : Operation α}
    {outcome : Except Failure α}
    (ended : operation.outcome? = some outcome) :
    operation.request? = none := by
  cases operation <;> simp_all [Operation.outcome?, Operation.request?]

/-- Nothing happens to an operation that has ended. -/
theorem step_of_outcome?
    {supervision : Supervision α}
    {outcome : Except Failure α}
    (ended : supervision.operation.outcome? = some outcome)
    (moment : Moment) :
    supervision.step moment = supervision := by
  cases moment with
  | fired => simp [step, fire, ended]
  | answered answerer =>
      obtain ⟨operation, site, fired⟩ := supervision
      cases operation with
      | done ending => rfl
      | _ => cases ended

theorem after_of_outcome?
    {supervision : Supervision α}
    {outcome : Except Failure α}
    (ended : supervision.operation.outcome? = some outcome)
    (moments : List Moment) :
    supervision.after moments = supervision := by
  induction moments with
  | nil => rfl
  | cons moment moments momentsHypothesis =>
      rw [after_cons, step_of_outcome? ended, momentsHypothesis]

theorem outcome?_after
    {supervision : Supervision α}
    {outcome : Except Failure α}
    (ended : supervision.operation.outcome? = some outcome)
    (moments : List Moment) :
    (supervision.after moments).operation.outcome? = some outcome := by
  rw [after_of_outcome? ended]
  exact ended

/-- An operation that has ended takes part in no further exchange. -/
theorem exchanges_of_outcome?
    {supervision : Supervision α}
    {outcome : Except Failure α}
    (ended : supervision.operation.outcome? = some outcome)
    (moments : List Moment) :
    supervision.exchanges moments = [] := by
  have waiting := request?_of_outcome? ended
  induction moments with
  | nil => rfl
  | cons moment moments momentsHypothesis =>
      rw [exchanges_cons, step_of_outcome? ended, momentsHypothesis]
      cases moment <;> simp [exchange?, waiting]

/-- A moment carries an operation on by the exchange that it brings about. -/
theorem step_advances (supervision : Supervision α) (moment : Moment) :
    ∃ acts, Act.exchanges acts = (supervision.exchange? moment).toList ∧
      supervision.operation.Advances supervision.site acts
        (supervision.step moment).operation (supervision.step moment).site := by
  cases moment with
  | answered answerer => exact supervision.operation.answer_advances answerer supervision.site
  | fired =>
      cases fired : supervision.fired with
      | true =>
          refine ⟨[], ?_, ?_⟩
          · simp [exchange?, fired]
          · simpa [step, fire, fired] using Operation.Advances.refl _ _
      | false =>
          cases ended : supervision.operation.outcome? with
          | some outcome =>
              refine ⟨[], ?_, ?_⟩
              · simp [exchange?, fired, request?_of_outcome? ended]
              · simpa [step, fire, fired, ended] using Operation.Advances.refl _ _
          | none =>
              obtain ⟨sameOpen, sameRemarks⟩ :=
                noteInterruption_traced supervision.operation supervision.site
              obtain ⟨acts, exchanged, advances⟩ :=
                supervision.operation.answer_advances Answerer.interruption
                  (noteInterruption supervision.operation supervision.site)
              refine ⟨acts, ?_, ?_⟩
              · simpa [exchange?, fired, Answerer.interruption] using exchanged
              · simpa [step, fire, fired, ended, interrupt, answer] using
                  advances.of_traced sameOpen sameRemarks

/-- Moments carry an operation on by the exchanges that they bring about. -/
theorem after_advances (supervision : Supervision α) (moments : List Moment) :
    ∃ acts, Act.exchanges acts = supervision.exchanges moments ∧
      supervision.operation.Advances supervision.site acts
        (supervision.after moments).operation (supervision.after moments).site := by
  induction moments generalizing supervision with
  | nil => exact ⟨[], rfl, .refl _ _⟩
  | cons moment moments momentsHypothesis =>
      obtain ⟨first, firstExchanges, firstAdvances⟩ := supervision.step_advances moment
      obtain ⟨rest, restExchanges, restAdvances⟩ := momentsHypothesis (supervision.step moment)
      refine ⟨first ++ rest, ?_, firstAdvances.trans restAdvances⟩
      rw [Act.exchanges_append, firstExchanges, restExchanges, exchanges_cons]

/-- An operation that has ended after some moments has ended by their exchanges. -/
theorem ends_of_outcome?
    {operation : Operation α}
    {site : Site}
    {moments : List Moment}
    {outcome : Except Failure α}
    (ended : ((start operation site).after moments).operation.outcome? = some outcome) :
    ∃ acts,
      operation.Ends site.isOpen acts outcome ((start operation site).after moments).site.isOpen ∧
      Act.exchanges acts = (start operation site).exchanges moments ∧
      ((start operation site).after moments).site.remarks = site.remarks ++ Act.remarks acts := by
  obtain ⟨settling, noExchange, settled⟩ := operation.settle_advances site
  obtain ⟨acts, exchanged, advances⟩ := (start operation site).after_advances moments
  have whole := settled.trans advances
  cases last : ((start operation site).after moments).operation with
  | done ending =>
      rw [last] at ended whole
      cases ended
      refine ⟨settling ++ acts, ?_, ?_, whole.remarks⟩
      · simpa using whole.ends (.done _ _)
      · rw [Act.exchanges_append, noExchange, exchanged, List.nil_append]
  | _ => simp [last, Operation.outcome?] at ended

/--
Whoever answers an exchange answered one of the moments, unless the exchange was
interrupted because the context fired.
-/
theorem answered_or_interrupted
    {supervision : Supervision α}
    {moments : List Moment}
    {exchange : Exchange}
    (happened : exchange ∈ supervision.exchanges moments) :
    (∃ answerer, .answered answerer ∈ moments ∧
      exchange.answer = answerer exchange.request) ∨
    (exchange.answer = .error .interrupted ∧ (supervision.after moments).fired) := by
  induction moments generalizing supervision with
  | nil => simp at happened
  | cons moment moments momentsHypothesis =>
      rw [exchanges_cons, List.mem_append] at happened
      rcases happened with first | later
      · cases moment with
        | answered answerer =>
            obtain ⟨request, _, rfl⟩ : ∃ request,
                supervision.operation.request? = some request ∧
                  ⟨request, answerer request⟩ = exchange := by
              simpa [exchange?] using first
            exact .inl ⟨answerer, List.mem_cons_self, rfl⟩
        | fired =>
            cases fired : supervision.fired with
            | true => simp [exchange?, fired] at first
            | false =>
                obtain ⟨request, waiting, rfl⟩ : ∃ request,
                    supervision.operation.request? = some request ∧
                      ⟨request, .error .interrupted⟩ = exchange := by
                  simpa [exchange?, fired] using first
                refine .inr ⟨rfl, fired_after ?_ moments⟩
                cases ended : supervision.operation.outcome? with
                | some outcome => simp [request?_of_outcome? ended] at waiting
                | none => simp [step, fire, fired, ended]
      · rcases momentsHypothesis later with ⟨answerer, answered, same⟩ | interrupted
        · exact .inl ⟨answerer, List.mem_cons_of_mem _ answered, same⟩
        · exact .inr interrupted

end Supervision
end InstanceDirectory
