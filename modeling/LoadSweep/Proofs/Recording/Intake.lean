import LoadSweep.Proofs.Recording.Calls

/-!
# Where the samples of a sweep are

An intake is kept beside a notebook by someone who only sees the calls and whether they went
through: the sweep that was begun and its endpoints, every sample accepted since, and those accepted
when a point was last committed.  A session is a notebook with its intake, and between two calls the
files may change in any way.

The invariant `Accounted` says that the rows of the sweep in progress are what was committed, and
that the pending samples are what was accepted after that, each under the endpoint it was recorded
for.  It is kept by every reaction of a notebook (`Accounted.react`), hence by every session.  So no
sample is lost, comes twice or changes its place (`no_sample_is_lost`).
-/

namespace LoadSweep

set_option autoImplicit false

open Call (Result)

/-- What was taken in since a sweep began; a sample comes with the name of its endpoint. -/
structure Intake where
  sweep : Sweep
  endpoints : List Endpoint
  accepted : List (String × Sample)
  committed : List (String × Sample)

namespace Intake

/-- The names of the endpoints in declared order. -/
def names (intake : Intake) : List String :=
  intake.endpoints.map Endpoint.name

/-- The intake after a call that went through or did not. -/
def follow (intake : Option Intake) : Call → Bool → Option Intake
  | .begin _ sweep endpoints, true => some ⟨sweep, endpoints, [], []⟩
  | .record _ endpoint sample, true => intake.map fun intake =>
    { intake with accepted := intake.accepted ++ [(endpoint.name, sample)] }
  | .commit, true => intake.map fun intake => { intake with committed := intake.accepted }
  | .finish, true => none
  | .abort, _ => none
  | .renew, _ => none
  | _, false => intake

end Intake

/-- Something that happens to a notebook: a call, or a change of the files from elsewhere. -/
inductive Turn where
  | call (call : Call)
  | elsewhere (files : FileTree)

/-- A notebook and the intake kept beside it. -/
structure Session where
  notebook : Notebook
  intake : Option Intake

namespace Session

/-- A session with a new notebook. -/
def fresh (logPath : String) (files : FileTree) : Session :=
  ⟨.fresh logPath files, none⟩

/-- A session after one turn. -/
def take (session : Session) : Turn → Session
  | .call call =>
    let result := call.action.run session.notebook
    ⟨Result.notebook result, Intake.follow session.intake call (Result.succeeded result)⟩
  | .elsewhere files => { session with notebook := { session.notebook with files } }

/-- A session after turns in order. -/
def run (session : Session) (turns : List Turn) : Session :=
  turns.foldl take session

end Session

/-- What a sweep in progress has, against what was taken in since it began. -/
structure Tallies (notebook : Notebook) (series : Series) (intake : Intake) : Prop where
  sweep : series.sweep = intake.sweep
  endpoints : series.endpoints = intake.names
  /-- The rows and then the pending samples are the accepted samples in order. -/
  order : series.rows.flatten ++ notebook.pending = intake.accepted.map Prod.snd
  /-- Every sample stands in the column of the endpoint it was recorded for. -/
  columns : series.rows.flatMap intake.names.zip ++ intake.names.zip notebook.pending =
    intake.accepted
  width : ∀ row ∈ series.rows, row.length = intake.endpoints.length
  points : series.rows.length ≤ intake.sweep.points.length
  pending : notebook.pending.length ≤ intake.endpoints.length
  opened : notebook.logOpen = true

/-! ## The accounting invariant -/

/-- The samples of the sweep in progress are those taken in: the rows hold what was committed, and
what was accepted after that is pending. -/
structure Accounts (notebook : Notebook) (series : Series) (intake : Intake) : Prop where
  current : notebook.current = some series
  sweep : series.sweep = intake.sweep
  endpoints : series.endpoints = intake.names
  committed : series.rows.flatMap intake.names.zip = intake.committed
  accepted : intake.committed ++ intake.names.zip notebook.pending = intake.accepted

/-- An intake is that of the sweep in progress, and there is none without a sweep. -/
def Accounted (notebook : Notebook) : Option Intake → Prop
  | none => notebook.current = none
  | some intake => ∃ series, Accounts notebook series intake

/-- Only the sweep in progress and its pending samples matter. -/
theorem Accounted.congr {before after : Notebook} {intake : Option Intake}
    (accounted : Accounted before intake) (current : after.current = before.current)
    (pending : after.pending = before.pending) : Accounted after intake := by
  cases intake with
  | none => exact current.trans accounted
  | some intake =>
    obtain ⟨series, accounts⟩ := accounted
    exact ⟨series, current.trans accounts.current, accounts.sweep, accounts.endpoints,
      accounts.committed, by rw [pending]; exact accounts.accepted⟩

/-- A sweep in progress has an intake. -/
theorem Accounted.busy {notebook : Notebook} {intake : Option Intake}
    (accounted : Accounted notebook intake) {series : Series}
    (current : notebook.current = some series) :
    ∃ taken, intake = some taken ∧ Accounts notebook series taken := by
  cases intake with
  | none => cases current.symm.trans accounted
  | some taken =>
    obtain ⟨other, accounts⟩ := accounted
    cases current.symm.trans accounts.current
    exact ⟨taken, rfl, accounts⟩

/-- A recorded sample goes to the end of what is pending and of what was accepted. -/
theorem Accounts.record {notebook : Notebook} {series : Series} {intake : Intake}
    (accounts : Accounts notebook series intake) {endpoint : Endpoint}
    (expected : series.endpoints[notebook.pending.length]? = some endpoint.name)
    (sample : Sample) :
    Accounts { notebook with pending := notebook.pending ++ [sample] } series
      { intake with accepted := intake.accepted ++ [(endpoint.name, sample)] } where
  current := accounts.current
  sweep := accounts.sweep
  endpoints := accounts.endpoints
  committed := accounts.committed
  accepted := by
    rw [accounts.endpoints] at expected
    have placed : intake.names.zip (notebook.pending ++ [sample]) =
        intake.names.zip notebook.pending ++ [(endpoint.name, sample)] :=
      Series.zipWith_append_singleton Prod.mk expected sample
    rw [← accounts.accepted, List.append_assoc, ← placed]
    rfl

/-- A committed point moves everything that is pending into a row. -/
theorem Accounts.commit {before after : Notebook} {series : Series} {intake : Intake}
    (accounts : Accounts before series intake)
    (current : after.current = some { series with rows := series.rows ++ [before.pending] })
    (pending : after.pending = []) :
    Accounts after { series with rows := series.rows ++ [before.pending] }
      { intake with committed := intake.accepted } where
  current := current
  sweep := accounts.sweep
  endpoints := accounts.endpoints
  committed := by
    rw [List.flatMap_append, List.flatMap_singleton]
    exact (congrArg (· ++ _) accounts.committed).trans accounts.accepted
  accepted := by rw [pending, List.zip_nil_right, List.append_nil]

/-- Every reaction of a notebook keeps the accounts. -/
theorem Accounted.react {before : Notebook} {call : Call} {lines : List String} {result : Result}
    {intake : Option Intake} (accounted : Accounted before intake)
    (reaction : Reaction before call lines result) :
    Accounted result.notebook (Intake.follow intake call result.succeeded) := by
  cases reaction with
  | refused call fault ordinary =>
    -- An interruption ends the intake even if it fails, so it is not among the refusals.
    obtain ⟨notAbort, notRenew⟩ := ordinary
    cases call with
    | abort => exact absurd rfl notAbort
    | renew => exact absurd rfl notRenew
    | _ => exact accounted
  | unheaded => exact accounted.congr rfl rfl
  | begun timestamp sweep endpoints files => exact ⟨_, rfl, rfl, rfl, rfl, List.zip_nil_right⟩
  | recorded point endpoint sample series awaited =>
    obtain ⟨current, -, expected⟩ := awaited
    obtain ⟨taken, rfl, accounts⟩ := accounted.busy current
    exact ⟨series, accounts.record expected sample⟩
  | unwritten => exact accounted.congr rfl rfl
  | committed series point files complete =>
    obtain ⟨taken, rfl, accounts⟩ := accounted.busy complete.1
    exact ⟨_, accounts.commit rfl rfl⟩
  | finished => exact rfl
  | unmarked => exact rfl
  | aborted => exact rfl
  | nothingToAbort _ idle => exact idle
  | renewed => exact rfl

namespace Session

/-- What holds of a session after every turn. -/
structure Kept (session : Session) : Prop where
  sound : session.notebook.Sound
  accounted : Accounted session.notebook session.intake

theorem kept_fresh (logPath : String) (files : FileTree) : (fresh logPath files).Kept :=
  ⟨Notebook.sound_fresh logPath files, rfl⟩

theorem Kept.take {session : Session} (kept : session.Kept) (turn : Turn) :
    (session.take turn).Kept := by
  cases turn with
  | call call =>
    obtain ⟨_, reacts⟩ := reaction session.notebook call
    exact ⟨reacts.sound kept.sound, kept.accounted.react reacts⟩
  | elsewhere files =>
    exact ⟨⟨kept.sound.idle, kept.sound.aligned, kept.sound.pending, kept.sound.opened⟩,
      kept.accounted.congr rfl rfl⟩

theorem Kept.run {session : Session} (kept : session.Kept) (turns : List Turn) :
    (session.run turns).Kept := by
  induction turns generalizing session with
  | nil => exact kept
  | cons turn turns ih => exact ih (kept.take turn)

end Session

/-! ## Rows and columns -/

/-- Rows of full width, each with the names of its columns, hold the samples in order. -/
theorem map_snd_flatMap_zip {names : List String} {rows : List (List Sample)}
    (width : ∀ row ∈ rows, row.length = names.length) :
    (rows.flatMap names.zip).map Prod.snd = rows.flatten := by
  induction rows with
  | nil => rfl
  | cons row rows ih =>
    have here : row.length ≤ names.length := Nat.le_of_eq (width row List.mem_cons_self)
    have rest := ih fun other member => width other (List.mem_cons_of_mem _ member)
    rw [List.flatMap_cons, List.map_append, List.map_snd_zip here, rest, List.flatten_cons]

/-- Every row is as wide as the list of endpoints that was begun with. -/
theorem Accounts.width {notebook : Notebook} {series : Series} {intake : Intake}
    (accounts : Accounts notebook series intake) (sound : notebook.Sound) :
    ∀ row ∈ series.rows, row.length = intake.names.length := by
  rw [← accounts.endpoints]
  exact (sound.aligned series accounts.current).width

theorem Accounts.committed_samples {notebook : Notebook} {series : Series} {intake : Intake}
    (accounts : Accounts notebook series intake) (sound : notebook.Sound) :
    series.rows.flatten = intake.committed.map Prod.snd := by
  rw [← accounts.committed, map_snd_flatMap_zip (accounts.width sound)]

theorem Accounts.tallies {notebook : Notebook} {series : Series} {intake : Intake}
    (accounts : Accounts notebook series intake) (sound : notebook.Sound) :
    Tallies notebook series intake := by
  have names : intake.names.length = intake.endpoints.length := List.length_map ..
  have pending : notebook.pending.length ≤ intake.names.length := by
    rw [← accounts.endpoints]
    exact sound.pending series accounts.current
  refine ⟨accounts.sweep, accounts.endpoints, ?_, ?_, ?_, ?_, ?_,
    sound.opened series accounts.current⟩
  · rw [← accounts.accepted, List.map_append, List.map_snd_zip pending,
      accounts.committed_samples sound]
  · rw [accounts.committed]
    exact accounts.accepted
  · intro row member
    rw [accounts.width sound row member, names]
  · rw [← accounts.sweep]
    exact (sound.aligned series accounts.current).points
  · rw [← names]
    exact pending

/-! ## Nothing is lost -/

/-- **No sample is lost, repeated or moved.** After any turns of a session: the sweep in progress
tallies with what was taken in since it began; without a sweep nothing is pending; a finished sweep
yields all the accepted samples, and an interrupted one those of its committed points. -/
theorem no_sample_is_lost (logPath : String) (files : FileTree) (turns : List Turn) :
    let session := (Session.fresh logPath files).run turns
    let notebook := session.notebook
    (∀ series, notebook.current = some series →
        ∃ intake, session.intake = some intake ∧ Tallies notebook series intake) ∧
      (notebook.current = none → notebook.pending = []) ∧
      (∀ series after, Notebook.finish.run notebook = .ok series after →
        ∃ intake, session.intake = some intake ∧ series.sweep = intake.sweep ∧
          series.endpoints = intake.names ∧
          series.rows.flatten = intake.accepted.map Prod.snd) ∧
      ∀ series after, Notebook.abort.run notebook = .ok series after →
        ∃ intake, session.intake = some intake ∧ series.sweep = intake.sweep ∧
          series.endpoints = intake.names ∧
          series.rows.flatten = intake.committed.map Prod.snd := by
  intro session notebook
  obtain ⟨sound, accounted⟩ : session.Kept := (Session.kept_fresh logPath files).run turns
  refine ⟨?_, sound.idle, ?_, ?_⟩
  · intro series current
    obtain ⟨intake, taken, accounts⟩ := accounted.busy current
    exact ⟨intake, taken, accounts.tallies sound⟩
  · intro series after finished
    obtain ⟨current, nothing⟩ := Notebook.finish_inv finished
    obtain ⟨intake, taken, accounts⟩ := accounted.busy current
    have order := (accounts.tallies sound).order
    rw [nothing, List.append_nil] at order
    exact ⟨intake, taken, accounts.sweep, accounts.endpoints, order⟩
  · intro series after aborted
    obtain ⟨intake, taken, accounts⟩ := accounted.busy (Notebook.abort_inv aborted)
    exact ⟨intake, taken, accounts.sweep, accounts.endpoints, accounts.committed_samples sound⟩

/-- A session in which one of two samples of a point is taken; the other comes out of order. -/
def halfTaken : Session :=
  let redis : Endpoint := ⟨"redis", "127.0.0.1", 6378⟩
  let valkey : Endpoint := ⟨"valkey", "127.0.0.1", 6379⟩
  let sweep : Sweep := ⟨"get", "GET sweep", .get, .clients, [⟨1, 1, 10⟩]⟩
  (Session.fresh "log.txt" .empty).run
    [.call (.begin "12:00" sweep [redis, valkey]), .call (.record 0 valkey .empty),
      .call (.record 0 redis .empty)]

/-- The sample that came in order is pending, and no other. -/
theorem halfTaken_tallies :
    ∃ series intake, halfTaken.notebook.current = some series ∧ halfTaken.intake = some intake ∧
      Tallies halfTaken.notebook series intake ∧ halfTaken.notebook.pending.length = 1 := by
  have busy : halfTaken.notebook.current.isSome = true := by decide +kernel
  obtain ⟨series, current⟩ := Option.isSome_iff_exists.mp busy
  obtain ⟨intake, taken, tallies⟩ := (no_sample_is_lost "log.txt" .empty _).1 series current
  exact ⟨series, intake, current, taken, tallies, by decide +kernel⟩

end LoadSweep
