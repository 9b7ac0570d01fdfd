import InstanceDirectory.Proofs.Rehearsing

/-!
# Abandoning an operation

An operation under a context either has its own way to its end, or the context fires first.
Then the operation is interrupted at the request it is waiting for and cleans up, and when
its cleanup has ended, the reason of the context takes the place of its outcome.  A context
that has fired before leaves the operation alone.  Whoever carries an operation out in a
rehearsed world sees just this.
-/

namespace InstanceDirectory
namespace Supervision

variable {supervision : Supervision α} {now : Instant} {replies : List Reply}

/-- An operation whose context does not fire is answered only. -/
theorem answered_of_mem_happenings
    {happening : Happening}
    (happens : happening ∈ supervision.happenings none now replies) :
    ∃ answerer, happening.moment = .answered answerer := by
  have next {reply : Reply} {supervision : Supervision α} {now : Instant}
      (next : supervision.next? none now reply = some happening) :
      ∃ answerer, happening.moment = .answered answerer := by
    obtain ⟨-, ⟨_, -, rfl, -⟩ | ⟨-, _, fires, -⟩⟩ := next?_cases next
    · exact ⟨reply.answerer, rfl⟩
    · cases fires
  induction replies generalizing supervision now with
  | nil => exact next (Option.mem_toList.mp happens)
  | cons reply replies repliesHypothesis =>
      unfold happenings at happens
      cases first : supervision.next? none now reply with
      | none => simp [first] at happens
      | some other =>
          simp only [first, List.mem_cons] at happens
          rcases happens with rfl | later
          · exact next first
          · exact repliesHypothesis later

/-- Answers do not make a context fire. -/
theorem fired_after_of_answered
    {moments : List Moment}
    (answered : ∀ moment ∈ moments, ∃ answerer, moment = .answered answerer) :
    (supervision.after moments).fired = supervision.fired := by
  induction moments generalizing supervision with
  | nil => rfl
  | cons moment moments momentsHypothesis =>
      rw [List.forall_mem_cons] at answered
      obtain ⟨⟨answerer, rfl⟩, answered⟩ := answered
      exact momentsHypothesis answered

/-- An operation whose context has fired ends in the reason whatever its own outcome is. -/
theorem outcome?_of_fired
    (fired : supervision.fired)
    (reason : Failure) :
    supervision.outcome? reason = supervision.operation.outcome?.map fun _ => .error reason := by
  simp [outcome?, fired]

theorem outcome?_of_unfired
    (unfired : supervision.fired = false)
    (reason : Failure) :
    supervision.outcome? reason = supervision.operation.outcome? := by
  simp [outcome?, unfired]

end Supervision

namespace Timeline

variable {timeline : Timeline} {context : Context} {running : Supervision α}

/-- Nothing but answers happens before the context fires. -/
theorem fired_reached (unfired : running.fired = false) :
    (timeline.reached context running).fired = false := by
  rw [← unfired]
  apply Supervision.fired_after_of_answered
  intro moment isMoment
  obtain ⟨happening, isEarly, rfl⟩ := List.mem_map.mp isMoment
  apply Supervision.answered_of_mem_happenings
  unfold early at isEarly
  split at isEarly
  · exact isEarly
  · exact (List.takeWhile_sublist _).mem isEarly

/-- An operation that ends before its context fires, or whose context does not, is left alone. -/
theorem happenings_eq_early
    (unfired : running.fired = false)
    (alone : timeline.fires? context = none ∨
      ∃ outcome, (timeline.reached context running).operation.outcome? = some outcome) :
    timeline.happenings context running = timeline.early context running := by
  cases fires : timeline.fires? context with
  | none => simp only [happenings, early, fires]
  | some fire =>
      obtain ⟨outcome, ended⟩ := alone.resolve_left (by simp [fires])
      have split := @Supervision.happenings_some _ running timeline.now fire timeline.replies
        unfired
      simp only [reached, early, fires] at ended
      simp only [ended] at split
      simp only [happenings, early, fires]
      exact split

/-- An operation that has not ended when its context fires is interrupted and cleans up. -/
theorem happenings_eq_cleanup
    {fire : Instant}
    (unfired : running.fired = false)
    (fires : timeline.fires? context = some fire)
    (unended : (timeline.reached context running).operation.outcome? = none) :
    timeline.happenings context running =
      timeline.early context running ++ ⟨fire, .fired⟩ :: timeline.cleanup context running fire := by
  have split := @Supervision.happenings_some _ running timeline.now fire timeline.replies unfired
  simp only [reached, early, fires] at unended
  simp only [unended] at split
  simp only [happenings, cleanup, reached, early, fires]
  exact split

section Conduct

variable {operation : Operation β} {conclude : Except Failure β -> Account α} {site : Site}

/-- How an operation fares under a context along a timeline. -/
structure Abandons
    (timeline : Timeline) (context : Context) (operation : Operation β)
    (conclude : Except Failure β -> Account α) (site : Site) : Prop where
  /-- Under a context that has fired before, no step of the operation is taken. -/
  firedBefore : context.hasFired timeline.sent timeline.now ->
    timeline.conduct context operation conclude site = {
      exchanges := []
      abandoned? := some (context.reason timeline.sent)
      account? := some (conclude (.error (context.reason timeline.sent)))
      site }
  /-- An operation that has ended when the context fires, or a moment before, has its outcome. -/
  completed : context.hasFired timeline.sent timeline.now = false ->
    let running := Supervision.start operation site
    let reached := timeline.reached context running
    ∀ outcome, reached.operation.outcome? = some outcome ->
      timeline.conduct context operation conclude site = {
        exchanges := running.exchanges ((timeline.early context running).map Happening.moment)
        abandoned? := none
        account? := some (conclude outcome)
        site := reached.site }
  /--
  One that has not is interrupted at the request it is waiting for.  The reason takes the place
  of whatever its cleanup ends in, as soon as it ends.
  -/
  interrupted : context.hasFired timeline.sent timeline.now = false ->
    let running := Supervision.start operation site
    let reached := timeline.reached context running
    reached.operation.outcome? = none ->
    ∀ fire, timeline.fires? context = some fire ->
      let cleanup := timeline.cleanup context running fire
      let cleaned := reached.fire.after (cleanup.map Happening.moment)
      let reason := context.reason (timeline.sentBy (Happening.endsAt fire cleanup))
      ∃ request, reached.operation.request? = some request ∧
        timeline.conduct context operation conclude site = {
          exchanges :=
            running.exchanges ((timeline.early context running).map Happening.moment) ++
              ⟨request, .error .interrupted⟩ ::
                reached.fire.exchanges (cleanup.map Happening.moment)
          abandoned? := some reason
          account? := cleaned.operation.outcome?.map fun _ => conclude (.error reason)
          site := cleaned.site }
  /-- One that never ends under a context that never fires is waited for. -/
  unending : context.hasFired timeline.sent timeline.now = false ->
    (timeline.reached context (Supervision.start operation site)).operation.outcome? = none ->
    timeline.fires? context = none ->
    (timeline.conduct context operation conclude site).account? = none
  /-- Whatever may happen after the account was given, nothing more comes of the operation. -/
  afterwards : ∀ account, (timeline.conduct context operation conclude site).account? = some account ->
    let course := timeline.course context (.start operation site)
    ∀ moments, (Read.awaiting operation conclude).conduct context
      { course with moments := course.moments ++ moments } site =
        timeline.conduct context operation conclude site

/-- An operation that has ended when its context fires has its own outcome. -/
theorem conduct_of_completed
    {outcome : Except Failure β}
    (unfiredBefore : context.hasFired timeline.sent timeline.now = false)
    (ended : (timeline.reached context (.start operation site)).operation.outcome? =
      some outcome) :
    timeline.conduct context operation conclude site = {
      exchanges := (Supervision.start operation site).exchanges
        ((timeline.early context (.start operation site)).map Happening.moment)
      abandoned? := none
      account? := some (conclude outcome)
      site := (timeline.reached context (.start operation site)).site } := by
  have alone : timeline.happenings context (.start operation site) =
      timeline.early context (.start operation site) :=
    happenings_eq_early rfl (.inr ⟨outcome, ended⟩)
  have reaches : (Supervision.start operation site).after
      ((timeline.early context (.start operation site)).map Happening.moment) =
        timeline.reached context (.start operation site) := rfl
  have unfired : (timeline.reached context (.start operation site)).fired = false :=
    fired_reached rfl
  rw [conduct, Read.conduct_of_unfired unfiredBefore]
  simp only [course, alone, reaches]
  rw [Supervision.outcome?_of_unfired unfired, ended, unfired]
  rfl

/-- An operation that has not ended when its context fires is interrupted and cleans up. -/
theorem conduct_of_interrupted
    {fire : Instant}
    {request : Request}
    (unfiredBefore : context.hasFired timeline.sent timeline.now = false)
    (fires : timeline.fires? context = some fire)
    (unended : (timeline.reached context (.start operation site)).operation.outcome? = none)
    (waiting : (timeline.reached context (.start operation site)).operation.request? =
      some request) :
    let running := Supervision.start operation site
    let reached := timeline.reached context running
    let cleanup := timeline.cleanup context running fire
    let cleaned := reached.fire.after (cleanup.map Happening.moment)
    let reason := context.reason (timeline.sentBy (Happening.endsAt fire cleanup))
    timeline.conduct context operation conclude site = {
      exchanges :=
        running.exchanges ((timeline.early context running).map Happening.moment) ++
          ⟨request, .error .interrupted⟩ :: reached.fire.exchanges (cleanup.map Happening.moment)
      abandoned? := some reason
      account? := cleaned.operation.outcome?.map fun _ => conclude (.error reason)
      site := cleaned.site } := by
  intro running reached cleanup cleaned reason
  have happens : timeline.happenings context running =
      timeline.early context running ++ ⟨fire, .fired⟩ :: cleanup :=
    happenings_eq_cleanup rfl fires unended
  have unfired : reached.fired = false := fired_reached rfl
  have fired : cleaned.fired := Supervision.fired_after (Supervision.fired_fire unended) _
  have carried : running.after ((timeline.happenings context running).map Happening.moment) =
      cleaned := by
    rw [happens, List.map_append, Supervision.after_append]
    rfl
  have ends : timeline.endsAt context running = Happening.endsAt fire cleanup := by
    rw [endsAt, happens, Happening.endsAt_append, Happening.endsAt_cons]
  have exchanged : running.exchanges ((timeline.happenings context running).map
      Happening.moment) =
      running.exchanges ((timeline.early context running).map Happening.moment) ++
        ⟨request, .error .interrupted⟩ ::
          reached.fire.exchanges (cleanup.map Happening.moment) := by
    have interrupted : reached.exchange? .fired = some ⟨request, .error .interrupted⟩ := by
      rw [Supervision.exchange?, unfired, show reached.operation.request? = _ from waiting]
      rfl
    rw [happens, List.map_append, Supervision.exchanges_append]
    show _ ++ ((reached.exchange? .fired).toList ++ _) = _
    rw [interrupted]
    rfl
  refine (Read.conduct_of_unfired unfiredBefore).trans ?_
  show Conduct.mk
    (running.exchanges ((timeline.happenings context running).map Happening.moment))
    (if (running.after ((timeline.happenings context running).map Happening.moment)).fired then
      some (context.reason (timeline.sentBy (timeline.endsAt context running))) else none)
    (((running.after ((timeline.happenings context running).map Happening.moment)).outcome?
      (context.reason (timeline.sentBy (timeline.endsAt context running)))).map conclude)
    (running.after ((timeline.happenings context running).map Happening.moment)).site = _
  rw [exchanged, carried, ends, if_pos fired, Supervision.outcome?_of_fired fired, Option.map_map]
  rfl

/-- An operation that does not end under a context that does not fire is waited for. -/
theorem account?_of_unending
    (unfiredBefore : context.hasFired timeline.sent timeline.now = false)
    (unended : (timeline.reached context (.start operation site)).operation.outcome? = none)
    (never : timeline.fires? context = none) :
    (timeline.conduct context operation conclude site).account? = none := by
  have alone : timeline.happenings context (.start operation site) =
      timeline.early context (.start operation site) :=
    happenings_eq_early rfl (.inl never)
  have reaches : (Supervision.start operation site).after
      ((timeline.early context (.start operation site)).map Happening.moment) =
        timeline.reached context (.start operation site) := rfl
  have unfired : (timeline.reached context (.start operation site)).fired = false :=
    fired_reached rfl
  rw [conduct, Read.conduct_of_unfired unfiredBefore]
  simp only [course, alone, reaches]
  rw [Supervision.outcome?_of_unfired unfired, unended]
  rfl

/-- An operation under a context fares as it should. -/
theorem abandons (timeline : Timeline) :
    timeline.Abandons context operation conclude site := by
  constructor
  · intro fired
    exact Read.conduct_of_fired fired
  · intro unfiredBefore running reached outcome ended
    exact conduct_of_completed unfiredBefore ended
  · intro unfiredBefore running reached unended fire fires cleanup cleaned reason
    have settled : reached.operation.IsSettled :=
      Supervision.isSettled_after (operation.isSettled_settle site) _
    obtain ⟨request, waiting⟩ := Operation.exists_request settled unended
    exact ⟨request, waiting, conduct_of_interrupted unfiredBefore fires unended waiting⟩
  · intro unfiredBefore unended never
    exact account?_of_unending unfiredBefore unended never
  · intro account ended course moments
    exact Read.conduct_append ended moments

end Conduct
end Timeline

/--
An operation under a context is abandoned cleanly along every timeline, and whoever carries it
out in a world without other operations conducts it along one.
-/
theorem Operation.abandoned_cleanly
    (operation : Operation β)
    (conclude : Except Failure β -> Account α)
    (context : Context) :
    (∀ (timeline : Timeline) (site : Site),
      timeline.Abandons context operation conclude site) ∧
    ∀ (world : Rehearsal.World) (bound : Nat),
      world.background = [] ->
      operation.EndsWithin (some world.script.rows.rows.length) bound ->
      bound ≤ world.patience ->
      world.Conducts context operation := by
  constructor
  · intro timeline site
    exact timeline.abandons
  · intro world bound quiet within patient
    exact Rehearsal.World.conducts quiet within patient

/-- Work over a connection that is given back whatever becomes of the work. -/
def Operation.borrowing : Operation Value :=
  .call .acquire fun
    | .ok connection => .call .perform fun outcome => .call (.release connection) fun _ => .done outcome
    | .error failure => .fail failure

/-- A connection is granted at once, the work takes for ever, and giving back fails after a while. -/
def Timeline.dragging : Timeline where
  now := 0
  sent := []
  signals := []
  replies := [
    ⟨some 0, .granting .null⟩, .never,
    ⟨some 2, fun _ => .error (.connection "gone" none)⟩]

/-- Work that takes too long is interrupted, and its deadline is told once all is given back. -/
theorem Operation.abandoned_cleanly_of_dragging :
    let context : Context := { deadline := some 5, signal := 0 }
    let conduct := Timeline.dragging.conduct context .borrowing (fun outcome => { outcome }) {}
    conduct.exchanges = [
      ⟨.acquire, .ok 1⟩, ⟨.perform, .error .interrupted⟩,
      ⟨.release 1, .error (.connection "gone" none)⟩] ∧
    conduct.account? = some { outcome := .error .deadlineExceeded } := by
  intro context conduct
  have abandons := (abandoned_cleanly .borrowing (fun outcome => ({ outcome } : Account Value))
    context).1 .dragging {}
  obtain ⟨request, waiting, conducted⟩ := abandons.interrupted rfl rfl 5 rfl
  cases waiting
  exact ⟨congrArg Conduct.exchanges conducted, congrArg Conduct.account? conducted⟩

end InstanceDirectory
