import InstanceDirectory.Proofs.Progress

/-!
# Conduct of reads

A read that awaits an operation is carried out under the caller's context.  A context that
has fired before asks the driver for nothing.  Otherwise the operation runs through the
moments of a course, and its account is given once it has ended: from the reason of the
context if it fired first, and from the operation's own outcome if it did not.
-/

namespace InstanceDirectory

/-- What happens around and during a read. -/
structure Course where
  /-- The moment at which the read is made. -/
  now : Instant
  /-- The cancel signals that were sent before. -/
  sent : List Signal
  /-- What happens while the operation of the read runs. -/
  moments : List Moment
  /-- The cancel signals that were sent by the end. -/
  sentLater : List Signal

/-- What comes of a read. -/
structure Conduct (α : Type) where
  /-- The exchanges with the driver, in order. -/
  exchanges : List Exchange
  /-- Why the read was abandoned, when the context fired before the operation had ended. -/
  abandoned? : Option Failure
  /-- The account of the read, once it has ended. -/
  account? : Option (Account α)
  /-- What the read shares with others, with the journal of its operation. -/
  site : Site

/-- The outcome of a read, once it has ended. -/
def Conduct.outcome? (conduct : Conduct α) : Option (Except Failure α) :=
  conduct.account?.map Account.outcome

/-- Carry a read out under a context. -/
def Read.conduct
    (read : Read β α) (context : Context) (course : Course) (site : Site) : Conduct α :=
  match read with
  | .settled account => { exchanges := [], abandoned? := none, account? := some account, site }
  | .awaiting operation conclude =>
      match context.check course.sent course.now with
      | .error failure =>
          { exchanges := [], abandoned? := some failure
            account? := some (conclude (.error failure)), site }
      | .ok () =>
          let running := Supervision.start operation site
          let ended := running.after course.moments
          let reason := context.reason course.sentLater
          { exchanges := running.exchanges course.moments
            abandoned? := if ended.fired then some reason else none
            account? := (ended.outcome? reason).map conclude
            site := ended.site }

/-- The operation that a read awaits, if it awaits one, ends within a number of answers. -/
def Read.EndsWithin (most : Option Nat) : Read β α -> Nat -> Prop
  | .settled _, _ => True
  | .awaiting operation _, bound => operation.EndsWithin most bound

namespace Conduct

/-- Why a context abandons a read: it was cancelled, or its deadline has passed. -/
def IsReason (failure : Failure) : Prop :=
  failure = .contextCancelled ∨ failure = .deadlineExceeded

end Conduct

theorem Context.isReason_reason (context : Context) (sent : List Signal) :
    Conduct.IsReason (context.reason sent) := by
  unfold reason
  split
  · exact .inl rfl
  · exact .inr rfl

theorem Context.isReason_of_check
    {context : Context}
    {sent : List Signal}
    {now : Instant}
    {failure : Failure}
    (fired : context.check sent now = .error failure) :
    Conduct.IsReason failure := by
  unfold check at fired
  split at fired
  · cases fired
    exact context.isReason_reason sent
  · cases fired

namespace Read

variable {operation : Operation β} {conclude : Except Failure β -> Account α}
  {context : Context} {course : Course} {site : Site}

/-- A read is abandoned only for a reason of its context. -/
theorem isReason_of_abandoned?
    {reason : Failure}
    (read : Read β α)
    (abandoned : (read.conduct context course site).abandoned? = some reason) :
    Conduct.IsReason reason := by
  cases read with
  | settled account => simp [conduct] at abandoned
  | awaiting operation conclude =>
      cases checked : context.check course.sent course.now with
      | error failure =>
          obtain rfl : failure = reason := by simpa [conduct, checked] using abandoned
          exact Context.isReason_of_check checked
      | ok =>
          obtain ⟨_, rfl⟩ := by simpa [conduct, checked] using abandoned
          exact context.isReason_reason _

/-- A context that has fired before the read leaves the driver alone. -/
theorem conduct_of_fired
    (fired : context.hasFired course.sent course.now) :
    (Read.awaiting operation conclude).conduct context course site =
      { exchanges := [], abandoned? := some (context.reason course.sent)
        account? := some (conclude (.error (context.reason course.sent))), site } := by
  simp [conduct, Context.check, fired]

/-- A context that has not fired before the read lets its operation run. -/
theorem conduct_of_unfired
    (unfired : context.hasFired course.sent course.now = false) :
    let running := Supervision.start operation site
    let ended := running.after course.moments
    let reason := context.reason course.sentLater
    (Read.awaiting operation conclude).conduct context course site =
      { exchanges := running.exchanges course.moments
        abandoned? := if ended.fired then some reason else none
        account? := (ended.outcome? reason).map conclude
        site := ended.site } := by
  simp [conduct, Context.check, unfired]

/--
A read that has ended under a context that had not fired before it gives its account from
an ending of its operation.
-/
theorem ends_of_account?
    {account : Account α}
    (unfired : context.hasFired course.sent course.now = false)
    (ended : ((Read.awaiting operation conclude).conduct context course site).account? =
      some account) :
    let conduct := (Read.awaiting operation conclude).conduct context course site
    ∃ acts outcome,
      operation.Ends site.isOpen acts outcome conduct.site.isOpen ∧
      Act.exchanges acts = conduct.exchanges ∧
      conduct.site.remarks = site.remarks ++ Act.remarks acts ∧
      account = conclude (match conduct.abandoned? with
        | some reason => .error reason
        | none => outcome) := by
  have checked : context.check course.sent course.now = .ok () := by
    simp [Context.check, unfired]
  simp only [conduct, checked] at ended ⊢
  obtain ⟨outcome, outcomeEnded, rfl⟩ := by
    simpa only [Option.map_eq_some_iff, Supervision.outcome?] using ended
  obtain ⟨last, lastEnded, rfl⟩ := outcomeEnded
  obtain ⟨acts, ends, exchanged, remarked⟩ := Supervision.ends_of_outcome? lastEnded
  refine ⟨acts, last, ends, exchanged, remarked, ?_⟩
  cases fired : ((Supervision.start operation site).after course.moments).fired with
  | true => simp
  | false => simp

/-- Nothing that happens after a read has ended is any of its business. -/
theorem conduct_append
    {account : Account α}
    {read : Read β α}
    (ended : (read.conduct context course site).account? = some account)
    (moments : List Moment) :
    read.conduct context { course with moments := course.moments ++ moments } site =
      read.conduct context course site := by
  let longer : Course := { course with moments := course.moments ++ moments }
  show read.conduct context longer site = _
  cases read with
  | settled account => rfl
  | awaiting operation conclude =>
      cases fired : context.hasFired course.sent course.now with
      | true =>
          have firedToo : context.hasFired longer.sent longer.now := fired
          rw [conduct_of_fired fired, conduct_of_fired firedToo]
      | false =>
          have unfiredToo : context.hasFired longer.sent longer.now = false := fired
          rw [conduct_of_unfired fired] at ended
          rw [conduct_of_unfired fired, conduct_of_unfired unfiredToo]
          obtain ⟨outcome, stopped, -⟩ := Option.map_eq_some_iff.mp ended
          obtain ⟨last, lastEnded, -⟩ := Option.map_eq_some_iff.mp stopped
          simp only [longer, Supervision.exchanges_append, Supervision.after_append,
            Supervision.exchanges_of_outcome? lastEnded, Supervision.after_of_outcome? lastEnded,
            List.append_nil]

/-- Extending the account of a read changes nothing of what happens on the way. -/
theorem conduct_mapAccount
    (read : Read γ α)
    (next : Account α -> Account β)
    (context : Context)
    (course : Course)
    (site : Site) :
    let conduct := read.conduct context course site
    (read.mapAccount next).conduct context course site =
      { exchanges := conduct.exchanges, abandoned? := conduct.abandoned?
        account? := conduct.account?.map next, site := conduct.site } := by
  cases read with
  | settled account => rfl
  | awaiting operation conclude =>
      cases checked : context.check course.sent course.now with
      | error failure => simp [mapAccount, conduct, checked]
      | ok =>
          simp only [mapAccount, conduct, checked, Option.map_map]
          rfl

/--
Whoever answers an exchange of a read answered one of the moments of its course, unless the
exchange was interrupted because the context fired.
-/
theorem answered_or_interrupted
    {exchange : Exchange}
    (read : Read β α)
    (happened : exchange ∈ (read.conduct context course site).exchanges) :
    (∃ answerer, .answered answerer ∈ course.moments ∧
      exchange.answer = answerer exchange.request) ∨
    (exchange.answer = .error .interrupted ∧
      ∃ reason, (read.conduct context course site).abandoned? = some reason) := by
  cases read with
  | settled account => simp [conduct] at happened
  | awaiting operation conclude =>
      cases checked : context.check course.sent course.now with
      | error failure => simp [conduct, checked] at happened
      | ok =>
          simp only [conduct, checked] at happened ⊢
          rcases Supervision.answered_or_interrupted happened with answered | ⟨interrupted, fired⟩
          · exact .inl answered
          · exact .inr ⟨interrupted, _, by rw [if_pos fired]⟩

/--
A read that has ended was abandoned for a reason of its context, or gives its account from
an ending of its operation whose exchanges were all answered by moments of the course.
-/
theorem account_cases
    {account : Account α}
    (ended : ((Read.awaiting operation conclude).conduct context course site).account? =
      some account) :
    let conduct := (Read.awaiting operation conclude).conduct context course site
    (∃ reason, conduct.abandoned? = some reason ∧ Conduct.IsReason reason ∧
      account = conclude (.error reason)) ∨
    (conduct.abandoned? = none ∧ ∃ acts outcome,
      operation.Ends site.isOpen acts outcome conduct.site.isOpen ∧
      Act.exchanges acts = conduct.exchanges ∧
      account = conclude outcome ∧
      ∀ exchange ∈ conduct.exchanges, ∃ answerer, .answered answerer ∈ course.moments ∧
        exchange.answer = answerer exchange.request) := by
  intro conduct
  cases fired : context.hasFired course.sent course.now with
  | true =>
      have whole : conduct = _ := conduct_of_fired fired
      rw [whole]
      rw [conduct_of_fired fired] at ended
      cases ended
      exact .inl ⟨_, rfl, context.isReason_reason course.sent, rfl⟩
  | false =>
      obtain ⟨acts, outcome, ends, exchanged, -, rfl⟩ := ends_of_account? fired ended
      cases abandoned : conduct.abandoned? with
      | some reason => exact .inl ⟨reason, rfl, isReason_of_abandoned? _ abandoned, rfl⟩
      | none =>
          refine .inr ⟨rfl, acts, outcome, ends, exchanged, rfl, fun exchange happened => ?_⟩
          rcases answered_or_interrupted _ happened with given | ⟨-, reason, interrupted⟩
          · exact given
          · exact absurd (abandoned.symm.trans interrupted) nofun

/-- A read ends once its operation was answered often enough. -/
theorem exists_account
    {bound : Nat}
    (within : operation.EndsWithin none bound)
    (enough : bound ≤ Moment.answers course.moments) :
    ∃ account,
      ((Read.awaiting operation conclude).conduct context course site).account? =
        some account := by
  cases checked : context.check course.sent course.now with
  | error failure => exact ⟨_, by simp [conduct, checked]; rfl⟩
  | ok =>
      have startWithin : (Supervision.start operation site).operation.EndsWithin none bound :=
        within.settle site
      obtain ⟨outcome, ended⟩ := Supervision.ends_of_answers startWithin
        (operation.isSettled_settle site) enough
      exact ⟨_, by simp [conduct, checked, Supervision.outcome?, ended]; rfl⟩

end Read

/-- A driver that grants everything, reads the given row for a statement and streams none. -/
def Answerer.granting (row : Value) : Answerer
  | .perform => .ok .null
  | .acquire => .ok 1
  | .fetchRow _ _ => .ok row
  | .nextRow => .ok none
  | .createPool _ => .ok ()
  | .closePool => .ok ()
  | .release _ => .ok ()
  | .beginTransaction _ => .ok ()
  | .rollback _ => .ok ()
  | .openRows _ => .ok ()
  | .closeRows => .ok ()

/-- A course without signals, during which a number of requests is answered alike. -/
def Course.answeredBy (answerer : Answerer) (number : Nat) : Course where
  now := 0
  sent := []
  moments := List.replicate number (.answered answerer)
  sentLater := []

end InstanceDirectory
