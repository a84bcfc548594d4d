import LoadSweep.Proofs.Recording.Failures

/-!
# Samples behind the last point

A notebook takes a sample if it comes from the next endpoint and for the point behind the rows of
the sweep in progress (`Notebook.record_ok_iff`).  Whether the sweep has that point is only asked
when it is committed.  So two cases are to be told apart.

While a point is left, every sample that is taken is for a declared point, and the point in progress
can be completed: the samples of the remaining endpoints are taken in order, and the point is
committed (`Notebook.run_recordAll`, `Notebook.commit_again`).

Once every point is committed, a sample for one point more is still taken.  It can neither be
committed nor dropped, and a sweep that holds it is never finished: it stays in progress through
every turn but an interruption or a new notebook (`Notebook.Surplus.run`).  A sweep without such
samples can be finished.

The main statement is `surplus_blocks_sweep`.
-/

namespace LoadSweep

set_option autoImplicit false

open Call (Result)

namespace Notebook

/-! ## Taking samples -/

/-- A sweep in progress takes a sample exactly if it comes from the next endpoint, for the point
behind the rows. -/
theorem record_ok_iff {notebook : Notebook} {series : Series}
    (current : notebook.current = some series) (point : Nat) (endpoint : Endpoint)
    (sample : Sample) :
    (∃ after, (record point endpoint sample).run notebook = .ok () after) ↔
      point = series.length ∧
        series.endpoints[notebook.pending.length]? = some endpoint.name := by
  constructor
  · rintro ⟨after, taken⟩
    rcases notebook.record_cases point endpoint sample with ⟨cause, refused⟩ | awaited
    · cases refused.symm.trans taken
    · obtain ⟨other, busy, position, expected⟩ := awaited
      cases current.symm.trans busy
      exact ⟨position, expected⟩
  · rintro ⟨position, expected⟩
    exact ⟨_, run_record ⟨current, position, expected⟩ sample⟩

/-- Takes samples for a point, one endpoint after the other. -/
def recordAll (point : Nat) : List (Endpoint × Sample) → NotebookM Unit
  | [] => pure ()
  | (endpoint, sample) :: rest => do
    record point endpoint sample
    recordAll point rest

/-- The samples of the remaining endpoints are all taken. -/
theorem run_recordAll {notebook : Notebook} {series : Series}
    (current : notebook.current = some series) {samples : List (Endpoint × Sample)}
    (named : samples.map (fun sample => sample.1.name) =
      series.endpoints.drop notebook.pending.length) :
    (recordAll series.length samples).run notebook =
      .ok () { notebook with pending := notebook.pending ++ samples.map Prod.snd } := by
  induction samples generalizing notebook with
  | nil => simp [recordAll]
  | cons first rest ih =>
    obtain ⟨endpoint, sample⟩ := first
    rw [List.map_cons] at named
    have expected : series.endpoints[notebook.pending.length]? = some endpoint.name := by
      rw [← List.head?_drop, ← named, List.head?_cons]
    have others : rest.map (fun sample => sample.1.name) =
        series.endpoints.drop (notebook.pending ++ [sample]).length := by
      rw [List.length_append, List.length_singleton, ← List.drop_drop, ← named, List.drop_one,
        List.tail_cons]
    have taken := run_record ⟨current, rfl, expected⟩ sample
    have onward := @ih { notebook with pending := notebook.pending ++ [sample] } current others
    simp only [recordAll, EStateM.run_bind, taken, onward, List.map_cons, List.append_assoc,
      List.singleton_append]

/-- While a point is left, the remaining samples complete it. -/
theorem completes_recordAll {notebook : Notebook} {series : Series} (sound : notebook.Sound)
    (current : notebook.current = some series) (room : series.length < series.sweep.length)
    {samples : List (Endpoint × Sample)}
    (named : samples.map (fun sample => sample.1.name) =
      series.endpoints.drop notebook.pending.length) :
    Completes { notebook with pending := notebook.pending ++ samples.map Prod.snd } series
      series.sweep.points[series.length] := by
  refine ⟨current, List.getElem?_eq_getElem room, ?_⟩
  have pending := sound.pending series current
  have rest := congrArg List.length named
  rw [List.length_map, List.length_drop] at rest
  rw [List.length_append, List.length_map]
  omega

/-- A sweep in progress can be finished exactly if nothing is pending. -/
theorem finish_ok_iff {notebook : Notebook} {series : Series}
    (current : notebook.current = some series) :
    (∃ after, finish.run notebook = .ok series after) ↔ notebook.pending = [] := by
  constructor
  · rintro ⟨after, finished⟩
    exact (finish_inv finished).2
  · intro committed
    exact ⟨_, run_finish current committed⟩

/-! ## A surplus -/

/-- Every point of the sweep in progress is committed, and a sample for one point more is
pending. -/
structure Surplus (notebook : Notebook) (series : Series) : Prop where
  current : notebook.current = some series
  full : series.length = series.sweep.length
  more : notebook.pending ≠ []

namespace Surplus

variable {notebook : Notebook} {series : Series}

/-- No point is left to commit. -/
theorem not_completes (surplus : notebook.Surplus series) {other : Series} {point : Point} :
    ¬ notebook.Completes other point := by
  rintro ⟨current, declared, -⟩
  cases surplus.current.symm.trans current
  have room : series.length < series.sweep.length := (List.getElem?_eq_some_iff.mp declared).1
  have full := surplus.full
  omega

/-- The samples are not committed, since the sweep has no point for them. -/
theorem commit_refused (surplus : notebook.Surplus series) :
    commit.run notebook =
      .error (Misalignment.noSuchPoint series.sweep.name series.length).fault notebook := by
  have undeclared : series.sweep.points[series.length]? = none :=
    List.getElem?_eq_none (Nat.le_of_eq surplus.full.symm)
  simp only [commit, EStateM.run_bind, run_inProgressSeries surplus.current, EStateM.run_get,
    undeclared, run_refuse]

/-- The sweep is not finished, since the samples are not committed. -/
theorem finish_refused (surplus : notebook.Surplus series) :
    finish.run notebook =
      .error (Misalignment.uncommitted notebook.pending.length).fault notebook := by
  have uncommitted : notebook.pending.isEmpty = false := by simpa using surplus.more
  simp only [finish, EStateM.run_bind, EStateM.run_get, uncommitted, Bool.not_false, if_true,
    run_refuse]

/-- A surplus outlasts every reaction but the end of the sweep. -/
theorem react (surplus : notebook.Surplus series) {call : Call} {lines : List String}
    {result : Result} (reaction : Reaction notebook call lines result)
    (ordinary : call ≠ .abort ∧ call ≠ .renew) : result.notebook.Surplus series := by
  obtain ⟨notAbort, notRenew⟩ := ordinary
  have busy : notebook.current ≠ none := by simp [surplus.current]
  cases reaction with
  | refused => exact surplus
  | unheaded _ _ _ _ _ _ idle => exact absurd idle busy
  | begun _ _ _ _ idle => exact absurd idle busy
  | recorded => exact ⟨surplus.current, surplus.full, List.concat_ne_nil _ _⟩
  | unwritten _ _ _ _ _ complete => exact absurd complete surplus.not_completes
  | committed _ _ _ complete => exact absurd complete surplus.not_completes
  | finished _ _ committed => exact absurd committed surplus.more
  | unmarked => exact absurd rfl notAbort
  | aborted => exact absurd rfl notAbort
  | nothingToAbort => exact absurd rfl notAbort
  | renewed => exact absurd rfl notRenew

end Surplus

end Notebook

/-- Whether a turn can end a sweep that is not finished: an interruption, or a new notebook. -/
def Turn.givesUp : Turn → Bool
  | .call .abort => true
  | .call .renew => true
  | _ => false

namespace Notebook.Surplus

/-- A surplus outlasts one turn that does not give the sweep up. -/
theorem take {session : Session} {series : Series} (surplus : session.notebook.Surplus series)
    {turn : Turn} (onward : turn.givesUp = false) :
    (session.take turn).notebook.Surplus series := by
  cases turn with
  | call call =>
    obtain ⟨_, reacts⟩ := reaction session.notebook call
    refine surplus.react reacts ⟨?_, ?_⟩
    · rintro rfl
      cases onward
    · rintro rfl
      cases onward
  | elsewhere files => exact ⟨surplus.current, surplus.full, surplus.more⟩

/-- A surplus outlasts all turns that do not give the sweep up. -/
theorem run {session : Session} {series : Series} (surplus : session.notebook.Surplus series)
    {turns : List Turn} (onward : ∀ turn ∈ turns, turn.givesUp = false) :
    (session.run turns).notebook.Surplus series := by
  induction turns generalizing session with
  | nil => exact surplus
  | cons turn turns ih =>
    obtain ⟨here, later⟩ := List.forall_mem_cons.mp onward
    exact ih (surplus.take here) later

end Notebook.Surplus

/-! ## How far a sweep can be brought to its end -/

/-- **A surplus blocks a sweep.** In a notebook that any turns of a session have left with a sweep
in progress, a sample is taken exactly if it comes from the next endpoint for the point behind the
rows; that point is declared exactly while a point is left.  Then the samples of the remaining
endpoints are taken, and the point is committed if the log takes lines.  When no point is left, the
sweep can be finished exactly if nothing is pending; otherwise it stays in progress, and can neither
be committed nor finished, until it is interrupted or another notebook is taken. -/
theorem surplus_blocks_sweep (logPath : String) (files : FileTree) (turns : List Turn)
    (series : Series) :
    let session := (Session.fresh logPath files).run turns
    let notebook := session.notebook
    notebook.current = some series →
      (∀ point endpoint sample,
        (∃ after, (Notebook.record point endpoint sample).run notebook = .ok () after) ↔
          point = series.length ∧
            series.endpoints[notebook.pending.length]? = some endpoint.name) ∧
      series.length ≤ series.sweep.length ∧
      (series.length < series.sweep.length → ∀ samples : List (Endpoint × Sample),
        samples.map (fun sample => sample.1.name) =
            series.endpoints.drop notebook.pending.length →
          ∃ recorded, (Notebook.recordAll series.length samples).run notebook = .ok () recorded ∧
            recorded.pending = notebook.pending ++ samples.map Prod.snd ∧
            (recorded.Writable → ∃ next, Notebook.commit.run recorded = .ok () next ∧
              next.current = some { series with rows := series.rows ++ [recorded.pending] } ∧
              next.pending = [])) ∧
      (series.length = series.sweep.length →
        ((∃ after, Notebook.finish.run notebook = .ok series after) ↔ notebook.pending = []) ∧
        (notebook.pending ≠ [] → ∀ more : List Turn, (∀ turn ∈ more, turn.givesUp = false) →
          let later := (session.run more).notebook
          later.current = some series ∧
            Notebook.commit.run later =
              .error (Misalignment.noSuchPoint series.sweep.name series.length).fault later ∧
            Notebook.finish.run later =
              .error (Misalignment.uncommitted later.pending.length).fault later)) := by
  intro session notebook current
  have sound : notebook.Sound := ((Session.kept_fresh logPath files).run turns).sound
  refine ⟨Notebook.record_ok_iff current, (sound.aligned series current).points, ?_, ?_⟩
  · intro room samples named
    refine ⟨_, Notebook.run_recordAll current named, rfl, ?_⟩
    intro writable
    have complete := Notebook.completes_recordAll sound current room named
    obtain ⟨next, committed, row, emptied, -⟩ := Notebook.commit_again complete (writable _)
    exact ⟨next, committed, row, emptied⟩
  · intro full
    refine ⟨Notebook.finish_ok_iff current, ?_⟩
    intro more turns onward
    have surplus : notebook.Surplus series := ⟨current, full, more⟩
    have later := surplus.run onward
    exact ⟨later.current, later.commit_refused, later.finish_refused⟩

/-- The only point of a sweep is committed. -/
def committedWhole : List Turn :=
  let endpoint : Endpoint := ⟨"redis", "127.0.0.1", 6378⟩
  let sweep : Sweep := ⟨"get", "GET sweep", .get, .clients, [⟨1, 1, 10⟩]⟩
  [.call (.begin "12:00" sweep [endpoint]), .call (.record 0 endpoint .empty), .call .commit]

/-- A sample comes for a point that the sweep does not have. -/
def oneTooMany : Turn :=
  .call (.record 1 ⟨"redis", "127.0.0.1", 6378⟩ .empty)

/-- The sample is taken, and then the sweep neither takes the point nor ends. -/
theorem sample_behind_last_point_is_taken :
    let full := (Session.fresh "log.txt" .empty).run committedWhole
    let blocked := (full.take oneTooMany).notebook
    (∃ series, full.notebook.current = some series ∧ series.sweep.length = 1 ∧
        ∃ after, (Notebook.record 1 ⟨"redis", "127.0.0.1", 6378⟩ .empty).run full.notebook =
          .ok () after) ∧
      (∃ cause : Misalignment, Notebook.commit.run blocked = .error cause.fault blocked) ∧
      ∃ cause : Misalignment, Notebook.finish.run blocked = .error cause.fault blocked := by
  intro full blocked
  have state : (full.notebook.current.map fun series =>
      (series.sweep.length, series.length, series.endpoints)) = some (1, 1, ["redis"]) ∧
        full.notebook.pending.length = 0 := by
    decide +kernel
  obtain ⟨inProgress, nothing⟩ := state
  obtain ⟨series, current, shape⟩ := Option.map_eq_some_iff.mp inProgress
  obtain ⟨declared, committed, names⟩ : series.sweep.length = 1 ∧ series.length = 1 ∧
      series.endpoints = ["redis"] := by simpa using shape
  have awaited : full.notebook.Awaits series 1 ⟨"redis", "127.0.0.1", 6378⟩ :=
    ⟨current, committed.symm, by rw [nothing, names]; rfl⟩
  have taken := Notebook.run_record awaited .empty
  have after : blocked = { full.notebook with pending := full.notebook.pending ++ [.empty] } := by
    change Result.notebook ((do
      Notebook.record 1 ⟨"redis", "127.0.0.1", 6378⟩ .empty
      return none : NotebookM (Option Series)).run full.notebook) = _
    rw [EStateM.run_bind, taken]
    rfl
  have surplus : blocked.Surplus series := by
    rw [after]
    exact ⟨current, committed.trans declared.symm, List.concat_ne_nil _ _⟩
  exact ⟨⟨series, current, declared, _, taken⟩, ⟨_, surplus.commit_refused⟩,
    ⟨_, surplus.finish_refused⟩⟩

/-- Neither another sample nor another sweep brings the blocked sweep to an end. -/
theorem blocked_sweep_stays :
    let session := (Session.fresh "log.txt" .empty).run (committedWhole ++ [oneTooMany])
    ∃ series, session.notebook.current = some series ∧
      (session.run (oneTooMany :: .call .finish :: committedWhole)).notebook.current =
        some series := by
  intro session
  have state : (session.notebook.current.map fun series => (series.sweep.length, series.length)) =
      some (1, 1) ∧ session.notebook.pending.length = 1 := by
    decide +kernel
  obtain ⟨inProgress, one⟩ := state
  obtain ⟨series, current, shape⟩ := Option.map_eq_some_iff.mp inProgress
  obtain ⟨declared, committed⟩ : series.sweep.length = 1 ∧ series.length = 1 := by simpa using shape
  have more : session.notebook.pending ≠ [] := List.ne_nil_of_length_eq_add_one one
  obtain ⟨-, -, -, ending⟩ := surplus_blocks_sweep "log.txt" .empty _ series current
  obtain ⟨-, blocked⟩ := ending (committed.trans declared.symm)
  exact ⟨series, current, (blocked more _ (by decide)).1⟩

end LoadSweep
