import InstanceDirectory.Proofs.Chaining
import InstanceDirectory.Proofs.HostBinding
import InstanceDirectory.Proofs.Serving

/-!
# Pages and their totals

A page select shows a part of the rows that match, and beside every row how many match.  So
a search returns the part that was asked for, with the number of all matches, as long as the
part has a row that the number can be read from: past the last match the total is zero.
-/

namespace InstanceDirectory

/-- The natural number that a value is. -/
def Value.natural? : Value -> Option Nat
  | .int (.ofNat number) => some number
  | _ => none

/--
The rows that the last clauses of a select keep, as standard SQL reads them: an offset skips
rows, and a limit takes some of those that are left.
-/
def Piece.window? : List Piece -> Option (List Assignment -> List Assignment)
  | [] => some id
  | [.words " \n LIMIT ", .bound _ limit _] => limit.natural?.map List.take
  | [.words " \n LIMIT ", .bound _ limit _, .words " OFFSET ", .bound _ offset _] => do
      let limit ← limit.natural?
      let offset ← offset.natural?
      return fun rows => (rows.drop offset).take limit
  | [.words "\n LIMIT ALL OFFSET ", .bound _ offset _] => offset.natural?.map List.drop
  | _ => none

namespace Draft

/-- What a draft shows of the rows that satisfy its conditions, in the order of its sorting. -/
def shown? (draft : Draft) (rows : List Assignment) : Option (List (List Value)) := do
  let window ← Piece.window? draft.windowPieces
  return (window rows).map fun row => draft.selection.items.map (itemValue rows.length row)

/-- The last clauses of a draft skip its offset and take its limit. -/
theorem window?_windowPieces (draft : Draft) :
    Piece.window? draft.windowPieces = some fun rows =>
      match draft.limit with
      | none => rows.drop (draft.offset.getD 0)
      | some limit => (rows.drop (draft.offset.getD 0)).take limit := by
  unfold windowPieces
  cases draft.limit with
  | none => cases draft.offset <;> rfl
  | some limit => cases draft.offset <;> rfl

end Draft

/-- The part of rows after an offset, no longer than a limit that is not zero. -/
def PageRequest.slice (offset limit : Nat) (rows : List Assignment) : List Assignment :=
  if limit = 0 then rows.drop offset else (rows.drop offset).take limit

/-- Natural numbers make a page request, in which zero sets no bound. -/
theorem PageRequest.build_ofNat
    (offset limit : Nat)
    (sorting : Option Column)
    (ascending : Bool) :
    build (.ofNat offset) (.ofNat limit) sorting ascending =
      .ok {
        offset := if offset = 0 then none else some offset
        limit := if limit = 0 then none else some limit
        sorting, ascending } := by
  have bounds (number : Nat) :
      bound (.ofNat number) = .ok (if number = 0 then none else some number) := by
    by_cases isZero : number = 0
    · rw [isZero]
      rfl
    · simp [bound, Value.ofNat, isZero]
  have notNegative (number : Nat) : isNegative (.ofNat number) = .ok false := by
    have least : ¬ ((number : Int) < 0) := by omega
    simp [isNegative, Value.ofNat, least]
  simp only [build, notNegative, bounds, bind, Except.bind, pure, Except.pure]
  rfl

/-- A driver that grants everything and gives the same row whenever it is asked for one. -/
def Answerer.offering (row : Value) : Answerer
  | .nextRow => .ok (some row)
  | request => granting .null request

namespace Repository

variable {repository : Repository} {reporter : Reporter} {search : Search} {draft : Draft}
  {offset limit : Nat} {sorting : Option Column} {ascending : Bool} {rows : List Assignment}

/-- What is shown of an instance on a page of so many matches. -/
def shownRow (number : Nat) (row : Assignment) : List Value :=
  Column.projection.map row ++ [.ofNat number]

/-- The draft of a search selects a page and has the bounds that its request sets. -/
theorem searchDraft_bounds (drafted : searchDraft search = .ok draft) :
    draft.selection = .page ∧ draft.limit = search.request.limit ∧
      draft.offset = search.request.offset := by
  unfold searchDraft Draft.search at drafted
  rw [Draft.filter_eq] at drafted
  cases stated : search.predicates.mapM Clause.ofPredicate with
  | error failure =>
      rw [stated] at drafted
      cases drafted
  | ok conditions =>
      rw [stated] at drafted
      cases drafted
      simp [Draft.withConditions, Draft.paginate]

/-- A search shows the part of the matches that its numbers ask for, each with their number. -/
theorem shown?_searchDraft
    (built : PageRequest.build (.ofNat offset) (.ofNat limit) sorting ascending =
      .ok search.request)
    (drafted : searchDraft search = .ok draft)
    (rows : List Assignment) :
    draft.shown? rows =
      some ((PageRequest.slice offset limit rows).map (shownRow rows.length)) := by
  obtain ⟨isPage, sameLimit, sameOffset⟩ := searchDraft_bounds drafted
  rw [PageRequest.build_ofNat] at built
  have request := Except.ok.inj built
  rw [← request] at sameLimit sameOffset
  have skipped : draft.offset.getD 0 = offset := by
    rw [sameOffset]
    split
    next isZero => exact isZero.symm
    next => rfl
  unfold Draft.shown?
  rw [Draft.window?_windowPieces, skipped, sameLimit, isPage]
  unfold PageRequest.slice
  by_cases isZero : limit = 0
  · simp only [isZero, if_true]
    rfl
  · simp only [isZero, if_false]
    rfl

/-- A row that is shown of a decodable instance has no fault, and decodes as the instance. -/
theorem decode_shownRow (number : Nat) (row : Assignment) :
    Row.decode (.list (shownRow number row)) "" =
      Row.decode (.list (Column.projection.map row)) "" := rfl

theorem total_shownRow (number : Nat) (row : Assignment) :
    Row.total (.list (shownRow number row)) = .ok (.count number) := rfl

theorem fault?_shownRow
    {row : Assignment}
    {inst : Instance}
    (decoded : Row.decode (.list (Column.projection.map row)) "" = .ok inst)
    (number : Nat) :
    Row.fault? (.list (shownRow number row)) = none := by
  rw [Row.fault?, decode_shownRow, decoded]
  simp only [total_shownRow]

/-- The count of rows that all tell the same number is that number, if there is one. -/
theorem total_of_countsLast
    {number : Nat}
    {shown : List Assignment}
    {count : Tally}
    (counts : Scan.CountsLast (shown.map fun row => .list (shownRow number row)) (.count 0) count) :
    count = .count (if shown = [] then 0 else number) := by
  unfold Scan.CountsLast at counts
  rw [List.getLast?_map] at counts
  cases ends : shown.getLast? with
  | none =>
      rw [ends] at counts
      rw [if_pos (List.getLast?_eq_none_iff.mp ends)]
      exact counts
  | some last =>
      rw [ends] at counts
      have nonempty : shown ≠ [] := by
        rintro rfl
        cases ends
      rw [if_neg nonempty]
      exact (Except.ok.inj (counts.symm.trans (total_shownRow number last)))

/-- A page of the matches is empty exactly when it starts past the last of them. -/
theorem slice_eq_nil_iff : PageRequest.slice offset limit rows = [] ↔ rows.length ≤ offset := by
  unfold PageRequest.slice
  split
  · exact List.drop_eq_nil_iff
  next bounded => simp [List.take_eq_nil_iff, bounded, List.drop_eq_nil_iff]

theorem length_slice_le : (PageRequest.slice offset limit rows).length ≤ rows.length := by
  unfold PageRequest.slice
  split
  · simp
  · simp only [List.length_take, List.length_drop]
    omega

theorem mem_of_mem_slice
    {row : Assignment}
    (present : row ∈ PageRequest.slice offset limit rows) :
    row ∈ rows := by
  unfold PageRequest.slice at present
  split at present
  · exact List.mem_of_mem_drop present
  · exact List.mem_of_mem_drop (List.mem_of_mem_take present)

/-- An unobtrusive reporter records a search that has ended in a page. -/
theorem outcome_concludeSearch
    (unobtrusive : reporter.IsUnobtrusive)
    (page : Page) :
    (concludeSearch reporter (.ok page)).outcome = .ok page :=
  Account.outcome_record unobtrusive _ _

/-- A search whose draft compiles awaits its statement. -/
theorem search_eq_awaiting
    {statement : Statement}
    (drafted : searchDraft search = .ok draft)
    (compiled : draft.compile repository.schema = .ok statement)
    (reporter : Reporter) :
    repository.search reporter search =
      .awaiting (repository.searchOperation statement) (concludeSearch reporter) := by
  simp only [Repository.search, drafted, compileThen, compiled]

/-- The operation of a search needs six answers besides those for its rows. -/
theorem searchOperation_endsWithin (statement : Statement) :
    (repository.searchOperation statement).EndsWithin (some 0) 6 :=
  (repository.executor.openRows_endsWithin statement).andThen fun cursor =>
    Scan.run_endsWithin 0 cursor searchDetails

/--
When the driver answers the statement of a search as its text asks and nothing fails, the
search returns the part of the matches that was asked for, in order.  Its total is the number
of all matches, unless the part starts past the last match: then it is zero.
-/
theorem search_total
    {statement : Statement}
    {context : Context}
    {course : Course}
    {site : Site}
    (decodable : ∀ row ∈ rows, ∃ inst,
      Row.decode (.list (Column.projection.map row)) "" = .ok inst)
    (built : PageRequest.build (.ofNat offset) (.ofNat limit) sorting ascending =
      .ok search.request)
    (drafted : searchDraft search = .ok draft)
    (compiled : draft.compile repository.schema = .ok statement)
    (usable : repository.executor = .direct ∨ site.isOpen)
    (unobtrusive : reporter.IsUnobtrusive) :
    ∃ shown, draft.shown? rows = some shown ∧
      let conduct := (repository.search reporter search).conduct context course site
      (Exchange.Serve (shown.map .list) conduct.exchanges -> conduct.abandoned? = none ->
        (rows.length + 6 ≤ Moment.answers course.moments ->
          ∃ account, conduct.account? = some account) ∧
        ∀ account, conduct.account? = some account ->
          ∃ page, account.outcome = .ok page ∧
            ((PageRequest.slice offset limit rows).map fun row =>
              Row.decode (.list (Column.projection.map row)) "") = page.instances.map .ok ∧
            page.total = .count (if rows.length ≤ offset then 0 else rows.length)) := by
  refine ⟨_, shown?_searchDraft built drafted rows, ?_⟩
  rw [search_eq_awaiting drafted compiled reporter, List.map_map]
  intro conduct serves unabandoned
  have fewer := @length_slice_le offset limit rows
  refine ⟨fun enough => ?_, fun account ended => ?_⟩
  · refine Read.exists_account_of_serve (searchOperation_endsWithin statement) serves ?_
    rw [List.length_map]
    omega
  · rcases Read.account_cases ended with
      ⟨reason, abandoned, -⟩ | ⟨-, acts, outcome, ends, exchanged, rfl, -⟩
    · cases abandoned.symm.trans unabandoned
    · have sound : ∀ row ∈ (PageRequest.slice offset limit rows).map
          (Value.list ∘ shownRow rows.length), Row.fault? row = none := by
        intro row present
        obtain ⟨kept, isKept, rfl⟩ := List.mem_map.mp present
        obtain ⟨inst, decoded⟩ := decodable kept (mem_of_mem_slice isKept)
        exact fault?_shownRow decoded rows.length
      rw [← exchanged] at serves
      obtain ⟨page, rfl, decodes, counts⟩ := outcome_of_serve usable ends serves sound
      refine ⟨page, outcome_concludeSearch unobtrusive page, ?_, ?_⟩
      · rw [List.map_map] at decodes
        exact decodes
      · rw [total_of_countsLast counts]
        simp only [slice_eq_nil_iff]

/-- A course in which rows are given after one answer, and then nothing but grants follow. -/
def servingCourse (rows : List Value) : Course where
  now := 0
  sent := []
  moments := .answered (.granting .null) :: rows.map (fun row => .answered (.offering row)) ++
    List.replicate 8 (.answered (.granting .null))
  sentLater := []

/-- The last of two matches is a page of its own, and its total is two. -/
theorem search_total_of_lastMatch :
    let search : Search := { request := { offset := some 1, limit := some 5 } }
    let row := Value.list (shownRow 2 (plainInstance "j"))
    ∃ account page,
      (({} : Repository).search {} search |>.conduct { signal := 0 }
        (servingCourse [row]) {}).account? = some account ∧
      account.outcome = .ok page ∧
      [Row.decode (.list (Column.projection.map (plainInstance "j"))) ""] =
        page.instances.map .ok ∧
      page.total = .count 2 := by
  intro search row
  have decodable : ∀ row ∈ [plainInstance "i", plainInstance "j"], ∃ inst,
      Row.decode (.list (Column.projection.map row)) "" = .ok inst := by
    intro row present
    simp only [List.mem_cons, List.not_mem_nil, or_false] at present
    rcases present with rfl | rfl <;> exact ⟨_, rfl⟩
  obtain ⟨draft, statement, drafted, compiled⟩ :
      ∃ draft statement, searchDraft search = .ok draft ∧
        draft.compile Schema.standard = .ok statement := ⟨_, _, rfl, rfl⟩
  have built : PageRequest.build (.ofNat 1) (.ofNat 5) none false = .ok search.request := rfl
  have shows := shown?_searchDraft built drafted [plainInstance "i", plainInstance "j"]
  obtain ⟨shown, same, total⟩ :=
    @search_total {} {} search draft 1 5 none false [plainInstance "i", plainInstance "j"]
      statement { signal := 0 } (servingCourse [row]) {} decodable built drafted
      compiled (.inl rfl) nofun
  have isRow : shown = [shownRow 2 (plainInstance "j")] := Option.some.inj (same.symm.trans shows)
  rw [search_eq_awaiting drafted compiled] at total ⊢
  have serves : Exchange.Serve (shown.map .list)
      ((Read.awaiting (({} : Repository).searchOperation statement) (concludeSearch {})).conduct
        { signal := 0 } (servingCourse [row]) {}).exchanges := by
    have word : ((Read.awaiting (({} : Repository).searchOperation statement)
        (concludeSearch {})).conduct { signal := 0 } (servingCourse [row]) {}).exchanges =
      [⟨.openRows statement, .ok ()⟩, ⟨.nextRow, .ok (some row)⟩, ⟨.nextRow, .ok none⟩,
        ⟨.closeRows, .ok ()⟩] := rfl
    rw [isRow, word]
    exact ⟨by simp [Exchange.failure?], List.prefix_rfl⟩
  obtain ⟨ends, settled⟩ := total serves rfl
  obtain ⟨account, ended⟩ := ends (by decide)
  obtain ⟨page, outcome, decodes, count⟩ := settled account ended
  exact ⟨account, page, ended, outcome, decodes, count⟩

/-- Past the last match a page is empty, and its total is zero although there is a match. -/
theorem search_total_of_pastLastMatch :
    let search : Search := { request := { offset := some 1 } }
    let conduct := (({} : Repository).search {} search).conduct { signal := 0 }
      (servingCourse []) {}
    PageRequest.build (.ofNat 1) (.ofNat 0) none false = .ok search.request ∧
    (∃ inst, Row.decode (.list (Column.projection.map (plainInstance "i"))) "" = .ok inst) ∧
    ∃ draft shown account page,
      searchDraft search = .ok draft ∧ draft.shown? [plainInstance "i"] = some shown ∧
      Exchange.Serve (shown.map .list) conduct.exchanges ∧ conduct.abandoned? = none ∧
      conduct.account? = some account ∧ account.outcome = .ok page ∧
      page.instances = [] ∧ page.total ≠ .count 1 := by
  intro search conduct
  refine ⟨rfl, ⟨_, rfl⟩, ?_⟩
  obtain ⟨draft, statement, drafted, compiled⟩ :
      ∃ draft statement, searchDraft search = .ok draft ∧
        draft.compile Schema.standard = .ok statement := ⟨_, _, rfl, rfl⟩
  have built : PageRequest.build (.ofNat 1) (.ofNat 0) none false = .ok search.request := rfl
  have shows := shown?_searchDraft built drafted [plainInstance "i"]
  have awaits : conduct = (Read.awaiting (({} : Repository).searchOperation statement)
      (concludeSearch {})).conduct { signal := 0 } (servingCourse []) {} :=
    congrArg (fun read => read.conduct { signal := 0 } (servingCourse []) {})
      (search_eq_awaiting drafted compiled {})
  have word : conduct.exchanges =
      [⟨.openRows statement, .ok ()⟩, ⟨.nextRow, .ok none⟩, ⟨.closeRows, .ok ()⟩] := by
    rw [awaits]
    rfl
  refine ⟨draft, _, concludeSearch {} (.ok {}), {}, drafted, shows, ?serves, ?unabandoned, ?ended,
    rfl, rfl, nofun⟩
  case serves =>
    rw [word]
    exact ⟨by simp [Exchange.failure?], List.prefix_rfl⟩
  case unabandoned =>
    rw [awaits]
    rfl
  case ended =>
    rw [awaits]
    rfl

end Repository
end InstanceDirectory
