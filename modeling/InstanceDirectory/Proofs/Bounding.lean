import InstanceDirectory.Proofs.Abandoning
import InstanceDirectory.Proofs.Observing
import Mathlib.Data.List.Infix
import Mathlib.Data.List.ReduceOption
import Mathlib.Data.List.TakeWhile

/-!
# Bounding contexts

A context is bounded again and again on its way from the caller to the driver, and whoever
holds one of the contexts may cancel it at any time.  Bounding acts on a context like taking
the earliest of some deadlines, so a chain of bounded contexts is the original context under
longer and longer lists of deadlines.  All its contexts have the signal of the original one.
The service bounds each of its reads once more, by its own timeout.
-/

namespace InstanceDirectory

/-- The earliest of the earliest moment of a list and the moments of another one. -/
theorem min?_toList_append (moments others : List Instant) :
    (moments.min?.toList ++ others).min? = (moments ++ others).min? := by
  cases moments with
  | nil => rfl
  | cons moment moments => exact congrArg some List.foldl_append.symm

namespace Context

/-- A context that is due by its own deadline and by those of the given ones that are set. -/
def tightened (context : Context) (dues : List (Option Instant)) : Context :=
  { context with deadline := (context.deadline :: dues).reduceOption.min? }

theorem reduceOption_cons_eq_append (due : Option Instant) (dues : List (Option Instant)) :
    (due :: dues).reduceOption = due.toList ++ dues.reduceOption := by
  cases due with
  | none => exact List.reduceOption_cons_of_none dues
  | some due => exact List.reduceOption_cons_of_some due dues

@[simp] theorem tightened_nil (context : Context) : context.tightened [] = context := by
  cases context with
  | mk deadline observation signal =>
      cases deadline with
      | none => rfl
      | some deadline => rfl

/-- Tightening twice is tightening by all the deadlines. -/
theorem tightened_append (context : Context) (first second : List (Option Instant)) :
    context.tightened (first ++ second) = (context.tightened first).tightened second := by
  simp only [tightened, reduceOption_cons_eq_append, List.reduceOption_append]
  rw [min?_toList_append, List.append_assoc]

/-- Bounding is tightening by one deadline, if there is a span. -/
theorem bounded_eq_tightened (context : Context) (now : Instant) (span : Option Duration) :
    context.bounded now span = context.tightened [span.map (now + ·)] := by
  cases span with
  | none =>
      rcases context with ⟨_ | deadline, observation, signal⟩
      · rfl
      · rfl
  | some span =>
      have sameDeadline : (context.bounded now (some span)).deadline =
          (context.tightened [some (now + span)]).deadline := by
        rw [deadline_bounded_some, tightened, reduceOption_cons_eq_append]
        cases context.deadline with
        | none => rfl
        | some deadline => exact congrArg some (Int.min_comm _ _)
      have sameObservation := context.observation_bounded now (some span)
      have sameSignal := context.signal_bounded now (some span)
      generalize context.bounded now (some span) = result at *
      cases result
      cases sameDeadline
      cases sameObservation
      cases sameSignal
      rfl

/-- What bounding by some deadlines makes of a context. -/
structure Tightens (original context : Context) (dues : List (Option Instant)) : Prop where
  /-- The deadline is the earliest of the original one and those that are set. -/
  earliest : context.deadline = (original.deadline :: dues).reduceOption.min?
  /-- It is no later than any of them. -/
  notLater : ∀ due, some due ∈ original.deadline :: dues ->
    ∃ deadline, context.deadline = some deadline ∧ deadline ≤ due
  /-- The observation stays. -/
  sameObservation : context.observation = original.observation
  /-- So does the cancel signal. -/
  sameSignal : context.signal = original.signal

theorem tightens_tightened (context : Context) (dues : List (Option Instant)) :
    context.Tightens (context.tightened dues) dues := by
  refine ⟨rfl, fun due isDue => ?_, rfl, rfl⟩
  have isReduced : due ∈ (context.deadline :: dues).reduceOption :=
    List.reduceOption_mem_iff.mpr isDue
  cases least : (context.tightened dues).deadline with
  | none =>
      rw [tightened, List.min?_eq_none_iff] at least
      exact absurd (least ▸ isReduced) List.not_mem_nil
  | some deadline =>
      exact ⟨deadline, rfl, (List.min?_eq_some_iff.mp least).2 due isReduced⟩

/-- A context tells that it is cancelled whenever it is. -/
theorem check_eq_cancelled_iff (context : Context) (sent : List Signal) (now : Instant) :
    context.check sent now = .error .contextCancelled ↔ context.signal ∈ sent := by
  have cancelled : context.isCancelled sent ↔ context.signal ∈ sent := List.contains_iff_mem
  rw [← cancelled, check, hasFired, reason]
  cases context.isCancelled sent with
  | true => simp
  | false =>
      cases context.isDue now with
      | true => simp [Failure.deadlineExceeded, Failure.contextCancelled]
      | false => simp

end Context

/-! ## Chains of contexts -/

/-- What may be done with a chain of contexts. -/
inductive ContextCall where
  /-- Derive a context from the latest one, by a span from now. -/
  | bound (now : Instant) (span : Option Duration)
  /-- Cancel the context at a place of the chain. -/
  | cancel (index : Nat)

/-- A context, those derived from it one from another, and the cancel signals sent so far. -/
structure ContextChain where
  /-- The context that the caller created. -/
  original : Context
  /-- The contexts derived from it, the latest one last. -/
  derived : List Context := []
  /-- The cancel signals that were sent. -/
  sent : List Signal

/-- The deadline that a call sets; a call that bounds by no span sets none. -/
def ContextCall.due? : ContextCall -> Option (Option Instant)
  | .bound now span => some (span.map (now + ·))
  | .cancel _ => none

/-- The deadlines that calls set, one for each context that they derive. -/
def ContextCall.dues (calls : List ContextCall) : List (Option Instant) :=
  calls.filterMap due?

namespace ContextChain

/-- The contexts of a chain, from the original one to the latest one. -/
def contexts (chain : ContextChain) : List Context :=
  chain.original :: chain.derived

/-- The context that was derived last. -/
def latest (chain : ContextChain) : Context :=
  chain.derived.getLastD chain.original

/-- A chain after a call; cancelling a context sends its signal. -/
def step (chain : ContextChain) : ContextCall -> ContextChain
  | .bound now span =>
      { chain with derived := chain.derived ++ [chain.latest.bounded now span] }
  | .cancel index =>
      { chain with
        sent := chain.sent ++ (chain.contexts[index]?.map Context.signal).toList }

/-- A chain after some calls. -/
def after (chain : ContextChain) (calls : List ContextCall) : ContextChain :=
  calls.foldl step chain

/-- A context of the chain was cancelled, before or after others were derived. -/
def Cancels (calls : List ContextCall) : Prop :=
  ∃ before index later, calls = before ++ .cancel index :: later ∧
    index ≤ (ContextCall.dues before).length

theorem after_append (chain : ContextChain) (first second : List ContextCall) :
    chain.after (first ++ second) = (chain.after first).after second :=
  List.foldl_append

/-- How a chain stands that was made of a context by calls. -/
structure Stands (original : Context) (sent : List Signal) (calls : List ContextCall)
    (chain : ContextChain) : Prop where
  /-- Its contexts are the original one under the deadlines set so far. -/
  contexts : chain.contexts = (ContextCall.dues calls).inits.map original.tightened
  /-- The latest of them is under all the deadlines. -/
  latest : chain.latest = original.tightened (ContextCall.dues calls)
  /-- Their common signal was sent before or by cancelling one of them. -/
  cancelled : original.signal ∈ chain.sent ↔ original.signal ∈ sent ∨ Cancels calls

variable {original : Context} {sent : List Signal} {calls : List ContextCall}
  {chain : ContextChain}

theorem cancels_concat_bound (now : Instant) (span : Option Duration) :
    Cancels (calls ++ [.bound now span]) ↔ Cancels calls := by
  constructor
  · rintro ⟨before, index, later, split, inChain⟩
    rcases later.eq_nil_or_concat' with rfl | ⟨later, last, rfl⟩
    · exact absurd (List.append_inj_right' split rfl) (by simp)
    · rw [← List.cons_append, ← List.append_assoc] at split
      exact ⟨before, index, later, List.append_inj_left' split rfl, inChain⟩
  · rintro ⟨before, index, later, rfl, inChain⟩
    exact ⟨before, index, later ++ [.bound now span], by simp, inChain⟩

theorem cancels_concat_cancel (index : Nat) :
    Cancels (calls ++ [.cancel index]) ↔
      Cancels calls ∨ index ≤ (ContextCall.dues calls).length := by
  constructor
  · rintro ⟨before, found, later, split, inChain⟩
    rcases later.eq_nil_or_concat' with rfl | ⟨later, last, rfl⟩
    · obtain ⟨rfl, same⟩ := List.append_inj' split rfl
      cases same
      exact .inr inChain
    · rw [← List.cons_append, ← List.append_assoc] at split
      exact .inl ⟨before, found, later, List.append_inj_left' split rfl, inChain⟩
  · rintro (⟨before, found, later, rfl, inChain⟩ | inChain)
    · exact ⟨before, found, later ++ [.cancel index], by simp, inChain⟩
    · exact ⟨calls, index, [], rfl, inChain⟩

namespace Stands

variable (stands : Stands original sent calls chain)

include stands

theorem length_contexts :
    chain.contexts.length = (ContextCall.dues calls).length + 1 := by
  rw [stands.contexts, List.length_map, List.length_inits]

/-- The context at a place is under the deadlines that were set up to there. -/
theorem getElem?_contexts
    {index : Nat}
    {context : Context}
    (found : chain.contexts[index]? = some context) :
    context = original.tightened ((ContextCall.dues calls).take index) := by
  obtain ⟨within, -⟩ := List.getElem?_eq_some_iff.mp found
  rw [stands.length_contexts, ← List.length_inits] at within
  rw [stands.contexts, List.getElem?_map, List.getElem?_eq_getElem within, List.getElem_inits]
    at found
  exact (Option.some.inj found).symm

/-- Bounding the latest context adds one under one more deadline. -/
theorem bound (now : Instant) (span : Option Duration) :
    Stands original sent (calls ++ [.bound now span]) (chain.step (.bound now span)) := by
  have dues : ContextCall.dues (calls ++ [.bound now span]) =
      ContextCall.dues calls ++ [span.map (now + ·)] :=
    List.filterMap_append
  have added : chain.latest.bounded now span =
      original.tightened (ContextCall.dues calls ++ [span.map (now + ·)]) := by
    rw [stands.latest, Context.bounded_eq_tightened, Context.tightened_append]
  constructor
  · rw [dues, List.inits_append, List.map_append, ← stands.contexts]
    exact congrArg (chain.contexts ++ [·]) added
  · rw [dues, ← added]
    exact List.getLastD_concat
  · rw [cancels_concat_bound]
    exact stands.cancelled

/-- Cancelling a context of the chain sends the signal that all of them have. -/
theorem cancel (index : Nat) :
    Stands original sent (calls ++ [.cancel index]) (chain.step (.cancel index)) := by
  have dues : ContextCall.dues (calls ++ [.cancel index]) = ContextCall.dues calls :=
    List.filterMap_append.trans (List.append_nil _)
  constructor
  · rw [dues]
    exact stands.contexts
  · rw [dues]
    exact stands.latest
  · have added : original.signal ∈ (chain.contexts[index]?.map Context.signal).toList ↔
        index ≤ (ContextCall.dues calls).length := by
      rw [Option.mem_toList, Option.map_eq_some_iff, ← Nat.lt_succ_iff, Nat.succ_eq_add_one,
        ← stands.length_contexts]
      constructor
      · rintro ⟨context, found, -⟩
        exact (List.getElem?_eq_some_iff.mp found).1
      · intro within
        have found := List.getElem?_eq_getElem within
        have same := stands.getElem?_contexts found
        exact ⟨_, found, by rw [same]; rfl⟩
    rw [cancels_concat_cancel, ← or_assoc, ← stands.cancelled, ← added]
    exact List.mem_append

end Stands

theorem stands_start (original : Context) (sent : List Signal) :
    Stands original sent [] { original, sent } where
  contexts := congrArg (· :: []) (original.tightened_nil).symm
  latest := original.tightened_nil.symm
  cancelled := by simp [Cancels]

/-- Every call keeps how a chain stands, so it stands so after all of them. -/
theorem stands_after (original : Context) (sent : List Signal) (calls : List ContextCall) :
    Stands original sent calls (after { original, sent } calls) := by
  induction calls using List.reverseRecOn with
  | nil => exact stands_start original sent
  | append_singleton calls call callsHypothesis =>
      rw [after_append]
      cases call with
      | bound now span => exact callsHypothesis.bound now span
      | cancel index => exact callsHypothesis.cancel index

/-- A later deadline leaves the earlier one, an earlier one takes its place. -/
example :
    let original : Context := { deadline := some 10, signal := 0 }
    let chain := after { original, sent := [] } [.bound 0 (some 20), .cancel 1, .bound 2 (some 3)]
    chain.contexts.map Context.deadline = [some 10, some 10, some 5] ∧ chain.sent = [0] := by
  decide

/-- Later calls leave the contexts of a chain as they are. -/
theorem contexts_prefix_after (chain : ContextChain) (later : List ContextCall) :
    chain.contexts <+: (chain.after later).contexts := by
  induction later generalizing chain with
  | nil => exact List.prefix_rfl
  | cons call later laterHypothesis =>
      refine List.IsPrefix.trans ?_ (laterHypothesis (chain.step call))
      cases call with
      | bound now span => exact List.prefix_append _ [chain.latest.bounded now span]
      | cancel index => exact List.prefix_rfl

end ContextChain

/-! ## Reads of the service -/

namespace Timeline

variable {timeline : Timeline} {context : Context} {due : Instant}

/-- A context fires as soon as it is due. -/
theorem exists_fires?_of_deadline
    {deadline : Instant}
    (isDeadline : context.deadline = some deadline)
    (reached : deadline ≤ due) :
    ∃ fire, timeline.fires? context = some fire ∧ fire ≤ max timeline.now due := by
  have isCause : max timeline.now deadline ∈
      (timeline.causes context).map (max timeline.now) :=
    List.mem_map_of_mem (List.mem_append_left _ (by simp [isDeadline]))
  cases fires : timeline.fires? context with
  | none =>
      rw [fires?, List.min?_eq_none_iff] at fires
      exact absurd (fires ▸ isCause) List.not_mem_nil
  | some fire =>
      have least : fire ≤ max timeline.now deadline :=
        (List.min?_eq_some_iff.mp fires).2 _ isCause
      have onTime : max timeline.now deadline ≤ max timeline.now due :=
        Int.max_le.mpr ⟨Int.le_max_left .., Int.le_trans reached (Int.le_max_right ..)⟩
      exact ⟨fire, rfl, Int.le_trans least onTime⟩

/-- A context that fires leaves no answer for later. -/
theorem time_le_of_mem_early
    {fire : Instant}
    {running : Supervision α}
    {happening : Happening}
    (fires : timeline.fires? context = some fire)
    (happened : happening ∈ timeline.early context running) :
    happening.time ≤ fire := by
  simp only [early, fires] at happened
  have kept := List.mem_takeWhile_imp happened
  exact of_decide_eq_true kept

end Timeline

/-- What becomes of a read of the service that has to be over by a moment. -/
structure Service.KeepsTo
    (service : Service) (context : Context) (timeline : Timeline) (due : Instant) : Prop where
  /-- The context of the read fires by then. -/
  fires : ∃ fire, timeline.fires? (service.boundedContext context timeline.now) = some fire ∧
    fire ≤ max timeline.now due
  /-- The answers that count arrive by then. -/
  answeredBy : ∀ {β : Type} (running : Supervision β),
    ∀ happening ∈ timeline.early (service.boundedContext context timeline.now) running,
      happening.time ≤ max timeline.now due
  /-- A read that these answers do not end is abandoned. -/
  abandons : ∀ {β α : Type} (least : Level) (read : Reporter -> Read β α) (site : Site),
    let bounded := service.boundedContext context timeline.now
    ∀ operation conclude,
      read (context.observation.reporter least) = .awaiting operation conclude ->
      let running := Supervision.start operation site
      (timeline.reached bounded running).operation.outcome? = none ->
      ∃ reason, Conduct.IsReason reason ∧
        (service.carryOut least context (timeline.course bounded running) site read).abandoned? =
          some reason

/-- A read keeps to every moment that its context is due by. -/
theorem Service.keepsTo_of_deadline
    {service : Service}
    {context : Context}
    {timeline : Timeline}
    {due deadline : Instant}
    (isDeadline : (service.boundedContext context timeline.now).deadline = some deadline)
    (reached : deadline ≤ due) :
    service.KeepsTo context timeline due := by
  obtain ⟨fire, fires, onTime⟩ := timeline.exists_fires?_of_deadline isDeadline reached
  refine ⟨⟨fire, fires, onTime⟩, ?answered, ?abandoned⟩
  case answered =>
    intro β running happening happened
    exact Int.le_trans (Timeline.time_le_of_mem_early fires happened) onTime
  case abandoned =>
    intro β α least read site bounded operation conclude reads running unended
    have carried : service.carryOut least context (timeline.course bounded running) site read =
        timeline.conduct bounded operation conclude site := by
      rw [carryOut, reads]
      rfl
    have abandons : timeline.Abandons bounded operation conclude site := timeline.abandons
    rw [carried]
    cases firedBefore : bounded.hasFired timeline.sent timeline.now with
    | true =>
        rw [abandons.firedBefore firedBefore]
        exact ⟨_, bounded.isReason_reason _, rfl⟩
    | false =>
        obtain ⟨request, -, conducted⟩ := abandons.interrupted firedBefore unended fire fires
        rw [conducted]
        exact ⟨_, bounded.isReason_reason _, rfl⟩

/--
Whatever is done with a context and those derived from it, each of them is the original one
with the earliest of the deadlines set up to there, the contexts that exist stay as they are,
and all of them tell of a cancellation once one of them was cancelled.  A read of the service
keeps both to the deadline of its caller and to the timeout of the service.
-/
theorem bounding_only_tightens (original : Context) :
    (∀ (sent : List Signal) (calls : List ContextCall),
      let chain := ContextChain.after { original, sent } calls
      chain.contexts.length = (ContextCall.dues calls).length + 1 ∧
      chain.contexts.head? = some original ∧
      (∀ later, chain.contexts <+: (chain.after later).contexts) ∧
      ∀ index context, chain.contexts[index]? = some context ->
        original.Tightens context ((ContextCall.dues calls).take index) ∧
        ∀ now, context.check chain.sent now = .error .contextCancelled ↔
          original.signal ∈ sent ∨ ContextChain.Cancels calls) ∧
    ∀ (service : Service) (timeline : Timeline),
      let timeouts := [service.defaultTimeout.map (timeline.now + ·)]
      original.Tightens (service.boundedContext original timeline.now) timeouts ∧
      ∀ due, some due ∈ original.deadline :: timeouts ->
        service.KeepsTo original timeline due := by
  constructor
  · intro sent calls chain
    have stands := ContextChain.stands_after original sent calls
    have heads : chain.contexts.head? = some chain.original := rfl
    have first : chain.contexts[0]? = some chain.original := rfl
    have sameOriginal : chain.original = original :=
      (stands.getElem?_contexts first).trans original.tightened_nil
    refine ⟨stands.length_contexts, heads.trans (congrArg some sameOriginal),
      chain.contexts_prefix_after, fun index context found => ?_⟩
    have isTightened := stands.getElem?_contexts found
    have tightens := original.tightens_tightened ((ContextCall.dues calls).take index)
    rw [← isTightened] at tightens
    refine ⟨tightens, fun now => ?_⟩
    rw [Context.check_eq_cancelled_iff, tightens.sameSignal]
    exact stands.cancelled
  · intro service timeline timeouts
    have isTightened : service.boundedContext original timeline.now = original.tightened timeouts :=
      original.bounded_eq_tightened timeline.now service.defaultTimeout
    have tightens := original.tightens_tightened timeouts
    rw [← isTightened] at tightens
    refine ⟨tightens, fun due isDue => ?_⟩
    obtain ⟨deadline, isDeadline, reached⟩ := tightens.notLater due isDue
    exact Service.keepsTo_of_deadline isDeadline reached

end InstanceDirectory
