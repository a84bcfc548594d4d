import LoadSweep.Proofs.Campaign.Visits
import LoadSweep.Proofs.Recording.Failures

/-!
# Measuring points

Once a sweep is in progress, no call of the notebook can be refused any more: the loop asks for the
samples in just the order in which the notebook takes them, and it commits a point when every
endpoint has brought its sample.  So measuring points goes on to the first point at which the
campaign is to stop, and the rows are those of the visits up to there (`Measured`), unless the log
loses a line: that of a point, or the marker (`Broken`).  Then nothing more is done, and the log
ends with the lines of the points before and a part of the line at most.  In a reliable notebook no
line is lost.

What carries the loop is `Ready`: between two points nothing is pending, and the points that are
left are those after the rows.
-/

namespace LoadSweep

set_option autoImplicit false

namespace Campaign

variable {σ : Type}

/-! ## One visit -/

theorem run_inNotebook {α : Type} (action : NotebookM α) (stage : Stage σ) :
    (inNotebook action).run stage =
      match action.run stage.notebook with
      | .ok value notebook => .ok value { stage with notebook }
      | .error fault notebook => .error fault { stage with notebook } := rfl

/-- A stage after events that have left the bench in a state. -/
def mark (stage : Stage σ) (events : List Event) (world : σ) : Stage σ :=
  ⟨{ stage.notebook with journal := events.reverse ++ stage.notebook.journal }, world⟩

theorem run_onBench {α : Type} (event : Event) (action : σ → α × σ) (stage : Stage σ) :
    (onBench event action).run stage =
      .ok (action stage.world).1 (mark stage [event] (action stage.world).2) := rfl

theorem run_stopRequested (campaign : Campaign σ) (stage : Stage σ) :
    campaign.stopRequested.run stage = .ok (campaign.bench.stopRequested stage.world) stage := rfl

theorem run_run (campaign : Campaign σ) (operation : Operation) (visit : Visit)
    (stage : Stage σ) :
    (campaign.run visit.endpoint operation visit.point).run stage =
      .ok (campaign.attend operation visit stage.world).1
        (mark stage (campaign.visitEvents operation visit)
          (campaign.attend operation visit stage.world).2) := by
  simp only [run, attend, visitEvents, warmed, command]
  cases campaign.client.warmup with
  | true => simp [EStateM.run_bind, run_onBench, mark]
  | false => simp [run_onBench, mark]

/-! ## One point -/

/-- The first item that is left follows the items that are done. -/
theorem next_of_drop {α : Type} {items rest : List α} {next : α} {done : Nat}
    (left : items.drop done = next :: rest) :
    items[done]? = some next ∧ items.drop (done + 1) = rest := by
  have first : (items.drop done)[0]? = some next := by rw [left]; rfl
  have others : (items.drop done).tail = rest := by rw [left]; rfl
  rw [List.getElem?_drop, Nat.add_zero] at first
  rw [List.tail_drop] at others
  exact ⟨first, others⟩

/-- A stage after visits whose samples are pending. -/
def collect (campaign : Campaign σ) (operation : Operation) (stage : Stage σ)
    (visits : List Visit) : Stage σ where
  notebook := { stage.notebook with
    pending := stage.notebook.pending ++ campaign.samples operation stage.world visits
    journal := (visits.flatMap (campaign.visitEvents operation)).reverse ++ stage.notebook.journal }
  world := campaign.after operation stage.world visits

theorem collect_nil (campaign : Campaign σ) (operation : Operation) (stage : Stage σ) :
    campaign.collect operation stage [] = stage := by
  simp [collect, samples, outcomes, after]

theorem collect_append (campaign : Campaign σ) (operation : Operation) (stage : Stage σ)
    (earlier later : List Visit) :
    campaign.collect operation (campaign.collect operation stage earlier) later =
      campaign.collect operation stage (earlier ++ later) := by
  simp [collect, samples_append, after_append]

/-- Visits write nothing. -/
theorem extends_collect (campaign : Campaign σ) (operation : Operation) (stage : Stage σ)
    (visits : List Visit) :
    stage.notebook.Extends (visits.flatMap (campaign.visitEvents operation))
      (campaign.collect operation stage visits).notebook :=
  .quiet rfl rfl rfl id (by
    rw [← deeds_visitEvents]
    exact Event.written_deeds _)

/-- The sample of the next endpoint is taken. -/
theorem record_visit (campaign : Campaign σ) (operation : Operation) (visit : Visit)
    {series : Series} {stage : Stage σ} (current : stage.notebook.current = some series)
    (expected : series.endpoints[stage.notebook.pending.length]? = some visit.endpoint.name) :
    (inNotebook (Notebook.record series.length visit.endpoint
        (.ofOutput (campaign.attend operation visit stage.world).1.output))).run
      (mark stage (campaign.visitEvents operation visit)
        (campaign.attend operation visit stage.world).2) =
      .ok () (campaign.collect operation stage [visit]) := by
  have awaited : Notebook.Awaits
      (mark stage (campaign.visitEvents operation visit)
        (campaign.attend operation visit stage.world).2).notebook
      series series.length visit.endpoint := ⟨current, rfl, expected⟩
  rw [run_inNotebook, Notebook.run_record awaited]
  simp [collect, mark, samples, outcomes, after]

/-- The samples of the endpoints that are left are taken one by one. -/
theorem run_measurePoint (campaign : Campaign σ) (operation : Operation) (point : Point)
    {series : Series} {endpoints : List Endpoint} (stage : Stage σ)
    (current : stage.notebook.current = some series)
    (left : series.endpoints.drop stage.notebook.pending.length = endpoints.map Endpoint.name) :
    (campaign.measurePoint operation series.length point endpoints).run stage =
      .ok () (campaign.collect operation stage (Visit.atPoint endpoints point)) := by
  -- Over the endpoints that are left; the samples of those before are pending.
  induction endpoints generalizing stage with
  | nil =>
    rw [Visit.atPoint, List.map_nil, collect_nil]
    rfl
  | cons endpoint endpoints ih =>
    obtain ⟨expected, others⟩ := next_of_drop left
    let visit : Visit := ⟨point, endpoint⟩
    have ran := campaign.run_run operation visit stage
    have taken := campaign.record_visit operation visit current expected
    have rest := ih (campaign.collect operation stage [visit]) current
      (by simpa [collect, length_samples] using others)
    rw [collect_append] at rest
    simp only [measurePoint, EStateM.run_bind]
    rw [ran]
    dsimp only
    rw [taken]
    exact rest

/-! ## Point by point -/

/-- Between two points of a sweep: nothing is pending, and points are left. -/
structure Ready (stage : Stage σ) (series : Series) (endpoints : List Endpoint)
    (points : List Point) : Prop where
  current : stage.notebook.current = some series
  pending : stage.notebook.pending = []
  opened : stage.notebook.logOpen = true
  endpoints : series.endpoints = endpoints.map Endpoint.name
  left : series.sweep.points.drop series.length = points

/-- A series with the rows that points in order yield. -/
def grown (campaign : Campaign σ) (operation : Operation) (endpoints : List Endpoint)
    (world : σ) (series : Series) (points : List Point) : Series :=
  { series with rows := series.rows ++ campaign.rows operation endpoints world points }

theorem grown_nil (campaign : Campaign σ) (operation : Operation) (endpoints : List Endpoint)
    (world : σ) (series : Series) :
    campaign.grown operation endpoints world series [] = series := by
  simp [grown, rows]

theorem grown_cons (campaign : Campaign σ) (operation : Operation) (endpoints : List Endpoint)
    (world : σ) (series : Series) (point : Point) (points : List Point) :
    campaign.grown operation endpoints
        (campaign.after operation world (Visit.atPoint endpoints point))
        (campaign.grown operation endpoints world series [point]) points =
      campaign.grown operation endpoints world series (point :: points) := by
  simp [grown, rows]

/-- What measuring and committing a point has done. -/
structure Committed (campaign : Campaign σ) (operation : Operation) (endpoints : List Endpoint)
    (stage : Stage σ) (series : Series) (point : Point) (events : List Event) (next : Stage σ) :
    Prop where
  world : next.world = campaign.after operation stage.world (Visit.atPoint endpoints point)
  extended : stage.notebook.Extends events next.notebook
  deeds : Event.deeds events =
    (Visit.atPoint endpoints point).flatMap (campaign.visitEvents operation)
  lines : Event.lines events = [pointLine series.sweep.axis point series.endpoints
    (campaign.samples operation stage.world (Visit.atPoint endpoints point))]

section Point

variable {stage : Stage σ} {series : Series} {endpoints : List Endpoint} {point : Point}
  {points : List Point} (ready : Ready stage series endpoints (point :: points))
  (campaign : Campaign σ) (operation : Operation)

include ready

/-- The point that comes next is measured: every endpoint brings its sample. -/
theorem Ready.measured :
    let collected := campaign.collect operation stage (Visit.atPoint endpoints point)
    (campaign.measurePoint operation series.length point endpoints).run stage =
        .ok () collected ∧
      collected.notebook.pending =
        campaign.samples operation stage.world (Visit.atPoint endpoints point) ∧
      collected.notebook.Completes series point := by
  intro collected
  have measured := campaign.run_measurePoint operation point stage ready.current
    (by simpa [ready.pending] using ready.endpoints)
  have row : collected.notebook.pending =
      campaign.samples operation stage.world (Visit.atPoint endpoints point) := by
    rw [show collected.notebook.pending = stage.notebook.pending ++ _ from rfl, ready.pending,
      List.nil_append]
  refine ⟨measured, row, ready.current, (next_of_drop ready.left).1, ?_⟩
  rw [row, length_samples, ready.endpoints, List.length_map, Visit.length_atPoint]

/-- The point that was measured is committed, unless the log loses its line. -/
theorem Ready.commits :
    let collected := campaign.collect operation stage (Visit.atPoint endpoints point)
    (∃ next events, (inNotebook Notebook.commit).run collected = .ok () next ∧
        Committed campaign operation endpoints stage series point events next ∧
        Ready next (campaign.grown operation endpoints stage.world series [point]) endpoints
          points) ∨
      ∃ fault notebook torn, (inNotebook Notebook.commit).run collected =
          .error fault { collected with notebook } ∧
        LogFault stage.notebook.logPath fault ∧
        collected.notebook.Loses (pointLine series.sweep.axis point series.endpoints
          (campaign.samples operation stage.world (Visit.atPoint endpoints point))) torn
          notebook := by
  intro collected
  obtain ⟨-, row, complete⟩ := ready.measured campaign operation
  rcases Notebook.commit_or_loses complete with
      ⟨next, committed, extended, current, pending, opened⟩ | ⟨fault, next, torn, failed, loses⟩
  · have quiet := campaign.extends_collect operation stage (Visit.atPoint endpoints point)
    refine .inl ⟨{ collected with notebook := next }, _, ?_,
      ⟨rfl, quiet.trans extended, ?_, ?_⟩, ⟨?_, pending, opened, ready.endpoints, ?_⟩⟩
    · rw [run_inNotebook, committed]
    · rw [Event.deeds_append, deeds_visitEvents]
      exact List.append_nil _
    · rw [Event.lines_append, lines_visitEvents, row]
      rfl
    · rw [current, row]
      rfl
    · rw [← (next_of_drop ready.left).2]
      simp [grown, Series.length, rows]
  · have fromLog := Notebook.logFault_of_commit complete failed
    rw [row] at loses
    exact .inr ⟨fault, next, torn, by rw [run_inNotebook, failed], fromLog, loses⟩

/-- Unless the campaign is to stop, the point that comes next is measured and committed, and the
points after it follow. -/
theorem Ready.run_measurePoints_cons (on : campaign.bench.stopRequested stage.world = false) :
    (campaign.measurePoints operation endpoints series.length (point :: points)).run stage =
      match (inNotebook Notebook.commit).run
          (campaign.collect operation stage (Visit.atPoint endpoints point)) with
      | .ok _ next =>
        (campaign.measurePoints operation endpoints (series.length + 1) points).run next
      | .error fault next => .error fault next := by
  have measured := (ready.measured campaign operation).1
  simp only [measurePoints, EStateM.run_bind, run_stopRequested, on, Bool.false_eq_true, if_false,
    measured]
  cases (inNotebook Notebook.commit).run
    (campaign.collect operation stage (Visit.atPoint endpoints point)) <;> rfl

end Point

/-! ## The loop -/

/-- The number of points that are measured: those before the first at whose start the campaign is to
stop. -/
structure StopsAfter (campaign : Campaign σ) (operation : Operation) (endpoints : List Endpoint)
    (world : σ) (points : List Point) (count : Nat) : Prop where
  within : count ≤ points.length
  goesOn : ∀ index < count, campaign.bench.stopRequested
    (campaign.after operation world (Visit.grid (points.take index) endpoints)) = false
  stops : count < points.length → campaign.bench.stopRequested
    (campaign.after operation world (Visit.grid (points.take count) endpoints)) = true

namespace StopsAfter

variable {campaign : Campaign σ} {operation : Operation} {endpoints : List Endpoint} {world : σ}

theorem nil : StopsAfter campaign operation endpoints world [] 0 :=
  ⟨Nat.le_refl 0, nofun, nofun⟩

theorem here (stop : campaign.bench.stopRequested world = true) (points : List Point) :
    StopsAfter campaign operation endpoints world points 0 :=
  ⟨Nat.zero_le _, nofun, fun _ => stop⟩

theorem cons {point : Point} {points : List Point} {count : Nat}
    (on : campaign.bench.stopRequested world = false)
    (later : StopsAfter campaign operation endpoints
      (campaign.after operation world (Visit.atPoint endpoints point)) points count) :
    StopsAfter campaign operation endpoints world (point :: points) (count + 1) where
  within := Nat.succ_le_succ later.within
  goesOn := by
    intro index before
    cases index with
    | zero => exact on
    | succ index =>
      rw [List.take_succ_cons, Visit.grid_cons, after_append]
      exact later.goesOn index (Nat.lt_of_succ_lt_succ before)
  stops := by
    intro before
    rw [List.take_succ_cons, Visit.grid_cons, after_append]
    exact later.stops (Nat.lt_of_succ_lt_succ before)

end StopsAfter

/-- What measuring points has done: it went on until it was to stop, and closed the notebook. -/
structure Measured (campaign : Campaign σ) (operation : Operation) (endpoints : List Endpoint)
    (stage : Stage σ) (points : List Point) (count : Nat) (events : List Event)
    (final : Stage σ) : Prop where
  stops : StopsAfter campaign operation endpoints stage.world points count
  world : final.world =
    campaign.after operation stage.world (Visit.grid (points.take count) endpoints)
  closed : final.notebook.Closed
  extended : stage.notebook.Extends events final.notebook
  deeds : Event.deeds events =
    (Visit.grid (points.take count) endpoints).flatMap (campaign.visitEvents operation)

/-- The lines of rows that are measured for the next points of a sweep in progress. -/
def rowLines (series : Series) (points : List Point) (rows : List (List Sample)) : List String :=
  List.zipWith (fun point row => pointLine series.sweep.axis point series.endpoints row) points rows

/-- The lines that a sweep in progress gets when rows are measured for its next points: one for each
row, and a marker unless every point has got a row. -/
def addedLines (series : Series) (points : List Point) (rows : List (List Sample)) : List String :=
  rowLines series points rows ++
    if rows.length < points.length then
      [abortMarker (series.length + rows.length) series.sweep.length]
    else []

theorem addedLines_cons (series : Series) (point : Point) (points : List Point)
    (row : List Sample) (rows : List (List Sample)) :
    addedLines series (point :: points) (row :: rows) =
      pointLine series.sweep.axis point series.endpoints row ::
        addedLines { series with rows := series.rows ++ [row] } points rows := by
  have marked : series.length + (rows.length + 1) =
      Series.length { series with rows := series.rows ++ [row] } + rows.length := by
    simp only [Series.length, List.length_append, List.length_singleton]
    omega
  simp [addedLines, rowLines, marked]

/-- The line that is due once a number of points have theirs, and how many points are visited by
then: the marker if the campaign is to stop, and else the line of the next point. -/
inductive Due (campaign : Campaign σ) (operation : Operation) (endpoints : List Endpoint)
    (world : σ) (series : Series) (points : List Point) (count : Nat) : Nat → String → Prop where
  | marker (fewer : count < points.length)
      (stop : campaign.bench.stopRequested
        (campaign.after operation world (Visit.grid (points.take count) endpoints)) = true) :
      Due campaign operation endpoints world series points count count
        (abortMarker (series.length + count) series.sweep.length)
  | point (point : Point) (next : points[count]? = some point)
      (on : campaign.bench.stopRequested
        (campaign.after operation world (Visit.grid (points.take count) endpoints)) = false) :
      Due campaign operation endpoints world series points count (count + 1)
        (pointLine series.sweep.axis point series.endpoints
          (campaign.samples operation
            (campaign.after operation world (Visit.grid (points.take count) endpoints))
            (Visit.atPoint endpoints point)))

/-- What measuring points has done when the log has lost the line that was due: the visits up to
then, and the lines of the points before.  No line is lost in a reliable notebook. -/
structure Broken (campaign : Campaign σ) (operation : Operation) (endpoints : List Endpoint)
    (stage : Stage σ) (series : Series) (points : List Point) (count visited : Nat)
    (events : List Event) (torn : String) (fault : Fault) (final : Stage σ) : Prop where
  goesOn : ∀ index < count, campaign.bench.stopRequested
    (campaign.after operation stage.world (Visit.grid (points.take index) endpoints)) = false
  due : ∃ line, campaign.Due operation endpoints stage.world series points count visited line ∧
    Torn (line ++ "\n") torn
  world : final.world =
    campaign.after operation stage.world (Visit.grid (points.take visited) endpoints)
  tears : stage.notebook.Tears events torn final.notebook
  deeds : Event.deeds events =
    (Visit.grid (points.take visited) endpoints).flatMap (campaign.visitEvents operation)
  lines : Event.lines events = rowLines series points
    (campaign.rows operation endpoints stage.world (points.take count))
  fault : LogFault stage.notebook.logPath fault
  unreliable : ¬ stage.notebook.Reliable

section Cons

variable {campaign : Campaign σ} {operation : Operation} {endpoints : List Endpoint}
  {stage next final : Stage σ} {series : Series} {point : Point} {points : List Point}
  {count visited : Nat} {events rest : List Event} {torn : String} {fault : Fault}

/-- A committed point may come before points that are measured. -/
theorem Measured.cons (on : campaign.bench.stopRequested stage.world = false)
    (committed : Committed campaign operation endpoints stage series point events next)
    (later : Measured campaign operation endpoints next points count rest final) :
    Measured campaign operation endpoints stage (point :: points) (count + 1) (events ++ rest)
      final := by
  have stops := later.stops
  rw [committed.world] at stops
  refine ⟨.cons on stops, ?_, later.closed, committed.extended.trans later.extended, ?_⟩
  · rw [later.world, committed.world, List.take_succ_cons, Visit.grid_cons, after_append]
  · rw [Event.deeds_append, committed.deeds, later.deeds, List.take_succ_cons, Visit.grid_cons,
      List.flatMap_append]

theorem Due.cons {line : String}
    (due : campaign.Due operation endpoints
      (campaign.after operation stage.world (Visit.atPoint endpoints point))
      (campaign.grown operation endpoints stage.world series [point]) points count visited line) :
    campaign.Due operation endpoints stage.world series (point :: points) (count + 1)
      (visited + 1) line := by
  have before : campaign.after operation stage.world
      (Visit.grid ((point :: points).take (count + 1)) endpoints) =
      campaign.after operation
        (campaign.after operation stage.world (Visit.atPoint endpoints point))
        (Visit.grid (points.take count) endpoints) := by
    rw [List.take_succ_cons, Visit.grid_cons, after_append]
  cases due with
  | marker fewer stop =>
    have length : (campaign.grown operation endpoints stage.world series [point]).length + count =
        series.length + (count + 1) := by
      simp only [grown, rows, Series.length, List.length_append, List.length_singleton]
      omega
    rw [length]
    exact .marker (Nat.succ_lt_succ fewer) (before ▸ stop)
  | point following found on =>
    rw [← before] at on ⊢
    exact .point following (List.getElem?_cons_succ.trans found) on

/-- A committed point may come before points of which the log loses a line. -/
theorem Broken.cons (on : campaign.bench.stopRequested stage.world = false)
    (committed : Committed campaign operation endpoints stage series point events next)
    (later : Broken campaign operation endpoints next
      (campaign.grown operation endpoints stage.world series [point]) points count visited rest torn
      fault final) :
    Broken campaign operation endpoints stage series (point :: points) (count + 1) (visited + 1)
      (events ++ rest) torn fault final := by
  obtain ⟨goesOn, ⟨line, due, part⟩, world, tears, deeds, lines, fromLog, unreliable⟩ := later
  rw [committed.world] at goesOn due world lines
  refine ⟨?_, ⟨line, due.cons, part⟩, ?_, committed.extended.tears tears, ?_, ?_,
    committed.extended.path ▸ fromLog,
    fun reliable => unreliable (committed.extended.reliable reliable)⟩
  · intro index before
    cases index with
    | zero => exact on
    | succ index =>
      rw [List.take_succ_cons, Visit.grid_cons, after_append]
      exact goesOn index (Nat.lt_of_succ_lt_succ before)
  · rw [world, List.take_succ_cons, Visit.grid_cons, after_append]
  · rw [Event.deeds_append, committed.deeds, deeds, List.take_succ_cons, Visit.grid_cons,
      List.flatMap_append]
  · rw [Event.lines_append, committed.lines, lines, List.take_succ_cons, rows]
    rfl

/-- The log may lose the marker when the campaign is to stop. -/
theorem Broken.of_marker {notebook : Notebook} (opened : stage.notebook.logOpen = true)
    (stop : campaign.bench.stopRequested stage.world = true)
    (fromLog : LogFault stage.notebook.logPath fault)
    (loses : stage.notebook.Loses (abortMarker series.length series.sweep.length) torn notebook) :
    Broken campaign operation endpoints stage series (point :: points) 0 0 [] torn fault
      { stage with notebook } where
  goesOn := nofun
  due := ⟨_, .marker (Nat.succ_pos _) stop, loses.cuts.toTorn⟩
  world := rfl
  tears := loses.tears
  deeds := rfl
  lines := rfl
  fault := fromLog
  unreliable := fun reliable => Bool.noConfusion (opened.symm.trans (loses.closed reliable))

/-- The log may lose the line of the next point. -/
theorem Broken.of_point {notebook : Notebook} (opened : stage.notebook.logOpen = true)
    (on : campaign.bench.stopRequested stage.world = false)
    (fromLog : LogFault stage.notebook.logPath fault)
    (loses : (campaign.collect operation stage (Visit.atPoint endpoints point)).notebook.Loses
      (pointLine series.sweep.axis point series.endpoints
        (campaign.samples operation stage.world (Visit.atPoint endpoints point))) torn notebook) :
    Broken campaign operation endpoints stage series (point :: points) 0 1
      ((Visit.atPoint endpoints point).flatMap (campaign.visitEvents operation)) torn fault
      { campaign.collect operation stage (Visit.atPoint endpoints point) with notebook } := by
  have quiet := campaign.extends_collect operation stage (Visit.atPoint endpoints point)
  have one : Visit.grid ((point :: points).take 1) endpoints = Visit.atPoint endpoints point := by
    rw [List.take_succ_cons, List.take_zero, Visit.grid_cons]
    exact List.append_nil _
  refine ⟨nofun, ⟨_, .point point rfl on, loses.cuts.toTorn⟩, ?_, ?_, ?_, ?_, fromLog, ?_⟩
  · rw [one]
    rfl
  · have tears := quiet.tears loses.tears
    rwa [List.append_nil] at tears
  · rw [one, deeds_visitEvents]
  · rw [lines_visitEvents]
    rfl
  · intro reliable
    exact Bool.noConfusion (opened.symm.trans (loses.closed (quiet.reliable reliable)))

end Cons

/-- **Measuring points ends with the points that were to be measured**, or with a line lost. -/
theorem run_measurePoints (campaign : Campaign σ) (operation : Operation)
    {endpoints : List Endpoint} {stage : Stage σ} {series : Series} {points : List Point}
    (ready : Ready stage series endpoints points) :
    (∃ count events final,
        Measured campaign operation endpoints stage points count events final ∧
          (campaign.measurePoints operation endpoints series.length points).run stage =
            .ok (campaign.grown operation endpoints stage.world series (points.take count))
              final ∧
          Event.lines events = addedLines series points
            (campaign.rows operation endpoints stage.world (points.take count))) ∨
      ∃ count visited events torn fault final,
        Broken campaign operation endpoints stage series points count visited events torn fault
            final ∧
          (campaign.measurePoints operation endpoints series.length points).run stage =
            .error fault final := by
  -- Over the points that are left; `Ready` is what one point hands to the next.
  induction points generalizing stage series with
  | nil =>
    obtain ⟨next, finished, extended, closed⟩ :=
      Notebook.finish_closes ready.current ready.pending
    refine .inl ⟨0, [], { stage with notebook := next }, ⟨.nil, rfl, closed, extended, rfl⟩, ?_,
      rfl⟩
    rw [measurePoints, run_inNotebook, finished, List.take_zero, grown_nil]
  | cons point points ih =>
    cases stop : campaign.bench.stopRequested stage.world with
    | true =>
      rcases Notebook.abort_or_loses ready.current with
          ⟨next, aborted, extended, closed⟩ | ⟨fault, next, torn, failed, loses⟩
      · refine .inl ⟨0, _, { stage with notebook := next },
          ⟨.here stop _, rfl, closed, extended, rfl⟩, ?_,
          by simp [addedLines, rowLines, rows, Event.lines]⟩
        simp only [measurePoints, EStateM.run_bind, run_stopRequested, stop, if_true,
          run_inNotebook, aborted, List.take_zero, grown_nil]
      · have fromLog := Notebook.logFault_of_abort ready.current failed
        refine .inr ⟨0, 0, [], torn, fault, _, .of_marker ready.opened stop fromLog loses, ?_⟩
        simp only [measurePoints, EStateM.run_bind, run_stopRequested, stop, if_true,
          run_inNotebook, failed]
    | false =>
      have step := ready.run_measurePoints_cons campaign operation stop
      rcases ready.commits campaign operation with
          ⟨next, first, committed, done, again⟩ | ⟨fault, notebook, torn, failed, fromLog, loses⟩
      · have position : (campaign.grown operation endpoints stage.world series [point]).length =
            series.length + 1 := by
          simp [grown, rows, Series.length]
        rw [committed, ← position] at step
        rcases ih again with
            ⟨count, rest, final, later, ran, lines⟩ |
            ⟨count, visited, rest, torn, fault, final, later, ran⟩
        · rw [done.world, grown_cons] at ran
          rw [done.world] at lines
          refine .inl ⟨count + 1, first ++ rest, final, .cons stop done later, step.trans ran, ?_⟩
          rw [Event.lines_append, done.lines, lines, List.take_succ_cons, rows, addedLines_cons]
          rfl
        · exact .inr ⟨count + 1, visited + 1, first ++ rest, torn, fault, final,
            .cons stop done later, step.trans ran⟩
      · rw [failed] at step
        exact .inr ⟨0, 1, _, torn, fault, _, .of_point ready.opened stop fromLog loses, step⟩

end Campaign

end LoadSweep
