import CodeGraph.Proofs.Session.Directory
import CodeGraph.Session.Shared

/-!
# Sessions take turns

Of the sessions that are open on one store directory at most one is ready, the one that
holds the lock.  The snapshot changes only when a ready session ends, and a session that
starts begins with it: no update is lost.
-/

namespace CodeGraph

open Disk StoreLock

/-- The states that a session in a state may be in after an action. -/
inductive SessionState.MovesTo : SessionState → SessionState → Prop where
  | stays (state : SessionState) : MovesTo state state
  | starts : MovesTo .uninitialized .ready
  | ends : MovesTo .ready .closed
  | endsUnstarted : MovesTo .uninitialized .closed

namespace EmbeddedSession

variable {session : EmbeddedSession} {place : Location} {disk after : Disk}

/-- Neither ready nor holding a lock. -/
structure Idle (session : EmbeddedSession) : Prop where
  state : session.state ≠ .ready
  lock : session.lock = none

/-- Ready, and holding the lock of the directory at a place. -/
structure Holding (session : EmbeddedSession) (place : Location) (disk : Disk) : Prop where
  state : session.state = .ready
  leads : Leads session.path place disk
  lock : ∃ number, session.lock = some number ∧ disk.lockNumber? place = some number

theorem Holding.of_keeps (holding : session.Holding place disk)
    (keeps : KeepsLock place disk after) : session.Holding place after := by
  obtain ⟨number, held, found⟩ := holding.lock
  exact ⟨holding.state, holding.leads.of_keeps keeps.keeps, number, held,
    keeps.lockNumber number found⟩

/-- Running a batch changes nothing but the store. -/
theorem exists_execute_eq (session : EmbeddedSession) (batch : List Statement) :
    ∃ outcome store, session.execute batch = (outcome, { session with store }) := by
  unfold execute
  split
  · exact ⟨_, session.store, rfl⟩
  · split
    · exact ⟨_, session.store, rfl⟩
    · exact ⟨_, _, rfl⟩

theorem startup_movesTo (session : EmbeddedSession) (disk : Disk) :
    session.state.MovesTo (session.startup disk).2.1.state := by
  unfold startup
  split
  · exact .stays _
  next allowed =>
    split
    · exact .stays _
    · split
      · exact .stays _
      · split
        · exact .stays _
        · rw [SessionState.requireUninitialized_eq_ok_iff.mp allowed]
          exact .starts

theorem shutdown_movesTo (session : EmbeddedSession) (disk : Disk) :
    session.state.MovesTo (session.shutdown disk).2.1.state := by
  unfold shutdown
  split
  next state => exact .stays _
  next state => exact state ▸ .endsUnstarted
  next state => exact state ▸ .ends

end EmbeddedSession

/-- Does an action end a session that is ready with a save? -/
def SessionAction.saves (action : SessionAction) (autoShutdown : Bool) : Bool :=
  match action with
  | .shutdown => true
  | .opens _ | .drop => autoShutdown
  | .startup | .execute _ | .setAutoShutdown => false

namespace SharedSessions

/-- The session with a name, if an action saves its store. -/
def saving? (shared : SharedSessions) (name : String) (action : SessionAction) :
    Option EmbeddedSession :=
  (shared.session? name).filter fun session =>
    session.state = .ready ∧ action.saves session.autoShutdown = true

variable {shared : SharedSessions} {name other : String}

/-! ## Sessions by name -/

theorem lookup_others (shared : SharedSessions) (name other : String) :
    (shared.others name).lookup other = if other = name then none else shared.session? other := by
  rw [others, lookup_filter (fun key => decide (key ≠ name)), session?]
  by_cases same : other = name <;> simp [same]

theorem session?_put (session : EmbeddedSession) (disk : Disk) :
    (shared.put name session disk).session? other =
      if other = name then some session else shared.session? other := by
  rw [session?, put, List.lookup_cons, lookup_others]
  cases same : other == name <;> simp_all

theorem session?_put_self (session : EmbeddedSession) (disk : Disk) :
    (shared.put name session disk).session? name = some session := by
  rw [session?_put, if_pos rfl]

theorem session?_put_of_ne (session : EmbeddedSession) (disk : Disk) (different : other ≠ name) :
    (shared.put name session disk).session? other = shared.session? other := by
  rw [session?_put, if_neg different]

theorem session?_drop :
    (shared.drop name).session? other =
      if other = name then none else shared.session? other := by
  unfold drop
  split
  next missing =>
    split
    next same => rw [same, missing]
    next => rfl
  next => rw [session?, lookup_others]

theorem act_of_none {action : SessionAction} (missing : shared.session? name = none)
    (opening : ∀ path, action ≠ .opens path) : (shared.act name action).2 = shared := by
  cases action with
  | opens path => exact absurd rfl (opening path)
  | drop => simp only [act, drop, missing]
  | _ => simp only [act, missing]

theorem session?_act_of_ne {action : SessionAction} (different : other ≠ name) :
    (shared.act name action).2.session? other = shared.session? other := by
  unfold act
  split
  next => rw [opens, session?_put_of_ne _ _ different, session?_drop, if_neg different]
  next => rw [session?_drop, if_neg different]
  next => rfl
  all_goals exact session?_put_of_ne _ _ different

/-! ## The holder of the lock -/

/-- All sessions are on the directory at a place.  The holder, if there is one, is ready and
holds the lock, and no other session is or does. -/
structure Guarded (place : Location) (shared : SharedSessions) (holder : Option String) :
    Prop where
  sound : shared.disk.Sound
  placed : ∀ name session, shared.session? name = some session →
    shared.disk.resolve session.path = place
  idle : ∀ name session, shared.session? name = some session → holder ≠ some name →
    session.Idle
  holding : ∀ name, holder = some name →
    ∃ session, shared.session? name = some session ∧ session.Holding place shared.disk
  lockCount : shared.disk.lockCount place = if holder.isSome then 1 else 0

private theorem filter_ne_of_ne {holder : Option String} (other : holder ≠ some name) :
    holder.filter (· ≠ name) = holder := by
  cases holder with
  | none => rfl
  | some held => simpa using other

namespace Guarded

variable {place : Location} {holder : Option String} {session : EmbeddedSession}

theorem holder_of_ready (guarded : Guarded place shared holder)
    (found : shared.session? name = some session) (ready : session.state = .ready) :
    holder = some name := by
  by_contra other
  exact (guarded.idle name session found other).state ready

theorem holding_of_held (guarded : Guarded place shared holder)
    (found : shared.session? name = some session) (held : holder = some name) :
    session.Holding place shared.disk := by
  obtain ⟨same, here, holding⟩ := guarded.holding name held
  cases found.symm.trans here
  exact holding

theorem holding_of_ready (guarded : Guarded place shared holder)
    (found : shared.session? name = some session) (ready : session.state = .ready) :
    session.Holding place shared.disk :=
  guarded.holding_of_held found (guarded.holder_of_ready found ready)

/-- What is done to one session leaves the others as they were. -/
theorem update (guarded : Guarded place shared holder) (name : String)
    {next : SharedSessions} {nextHolder : Option String}
    (others : ∀ other, other ≠ name → next.session? other = shared.session? other)
    (elsewhere : ∀ other, other ≠ name → (nextHolder = some other ↔ holder = some other))
    (keeps : KeepsLock place shared.disk next.disk)
    (lockCount : next.disk.lockCount place = if nextHolder.isSome then 1 else 0)
    (placed : ∀ session, next.session? name = some session →
      shared.disk.resolve session.path = place)
    (idle : ∀ session, next.session? name = some session → nextHolder ≠ some name →
      session.Idle)
    (holding : nextHolder = some name →
      ∃ session, next.session? name = some session ∧ session.Holding place next.disk) :
    Guarded place next nextHolder where
  sound := keeps.sound
  placed := by
    intro other session found
    rw [keeps.keeps.resolve]
    by_cases same : other = name
    · exact placed session (same ▸ found)
    · exact guarded.placed other session (others other same ▸ found)
  idle := by
    intro other session found free
    by_cases same : other = name
    · exact idle session (same ▸ found) (same ▸ free)
    · rw [others other same] at found
      exact guarded.idle other session found fun held => free ((elsewhere other same).mpr held)
  holding := by
    intro other held
    by_cases same : other = name
    · exact same ▸ holding (same ▸ held)
    · obtain ⟨session, found, holds⟩ :=
        guarded.holding other ((elsewhere other same).mp held)
      exact ⟨session, (others other same).trans found, holds.of_keeps keeps⟩
  lockCount := lockCount

/-- A session that is replaced by one that holds what it held. -/
theorem replace (guarded : Guarded place shared holder)
    (found : shared.session? name = some session) {replaced : EmbeddedSession} {disk : Disk}
    {names : List String} (touches : Touches place names shared.disk disk)
    (path : replaced.path = session.path) (lock : replaced.lock = session.lock)
    (state : replaced.state = .ready ↔ session.state = .ready) :
    Guarded place (shared.put name replaced disk) holder := by
  refine guarded.update name (fun other different => ?_) (fun _ _ => Iff.rfl)
    touches.toKeepsLock (touches.lockCount.trans guarded.lockCount) ?_ ?_ ?_
  · exact session?_put_of_ne _ _ different
  · intro own here
    rw [session?_put_self] at here
    cases here
    exact path ▸ guarded.placed name session found
  · intro own here free
    rw [session?_put_self] at here
    cases here
    have idle := guarded.idle name session found free
    exact ⟨fun ready => idle.state (state.mp ready), lock.trans idle.lock⟩
  · intro held
    have holding := guarded.holding_of_held found held
    refine ⟨replaced, session?_put_self _ _, state.mpr holding.state, ?_, ?_⟩
    · exact path ▸ holding.leads.of_keeps touches.keeps
    · exact lock ▸ (holding.of_keeps touches.toKeepsLock).lock

/-- A session gives up the lock if it is the holder. -/
theorem release (guarded : Guarded place shared holder)
    (found : shared.session? name = some session) {disk : Disk} {names : List String}
    (touches : Touches place names shared.disk disk) :
    KeepsLock place shared.disk (session.release disk) ∧
      (session.release disk).lockCount place =
        (if (holder.filter (· ≠ name)).isSome then 1 else 0) ∧
      (session.release disk).snapshot? place = disk.snapshot? place := by
  by_cases held : holder = some name
  · obtain ⟨number, locks, numbered⟩ := (guarded.holding_of_held found held).lock
    have kept := touches.lockNumber number numbered
    have released : session.release disk = disk.unlock number := by
      rw [EmbeddedSession.release, locks]
    rw [released]
    refine ⟨touches.toKeepsLock.unlock number, ?_, rfl⟩
    rw [lockCount_unlock kept, touches.lockCount, guarded.lockCount, held]
    simp
  · have released : session.release disk = disk := by
      rw [EmbeddedSession.release, (guarded.idle name session found held).lock]
    rw [released, filter_ne_of_ne held]
    exact ⟨touches.toKeepsLock, touches.lockCount.trans guarded.lockCount, rfl⟩

/-- A session that is gone or has ended. -/
theorem leave (guarded : Guarded place shared holder)
    (found : shared.session? name = some session) {disk : Disk} {names : List String}
    (touches : Touches place names shared.disk disk) {next : SharedSessions}
    (nextDisk : next.disk = session.release disk)
    (others : ∀ other, other ≠ name → next.session? other = shared.session? other)
    (own : ∀ ended, next.session? name = some ended → ended.path = session.path ∧ ended.Idle) :
    Guarded place next (holder.filter (· ≠ name)) := by
  obtain ⟨keeps, lockCount, -⟩ := guarded.release found touches
  rw [← nextDisk] at keeps lockCount
  refine guarded.update name others ?_ keeps lockCount ?_ ?_ ?_
  · intro other different
    rw [Option.filter_eq_some_iff]
    simp [different]
  · intro ended here
    exact (own ended here).1 ▸ guarded.placed name session found
  · exact fun ended here _ => (own ended here).2
  · intro held
    simp [Option.filter_eq_some_iff] at held

theorem drop (guarded : Guarded place shared holder)
    (saves : ∀ session, shared.saving? name .drop = some session →
      (session.store.save session.snapshotPath shared.disk).1 = .ok ()) :
    Guarded place (shared.drop name) (holder.filter (· ≠ name)) ∧
      KeepsLock place shared.disk (shared.drop name).disk ∧
      (shared.drop name).disk.snapshot? place =
        ((shared.saving? name .drop).map fun session => Snapshot.save session.store).or
          (shared.disk.snapshot? place) := by
  cases found : shared.session? name with
  | none =>
      have nobody : shared.saving? name .drop = none := by rw [saving?, found, Option.filter_none]
      have other : holder ≠ some name := by
        intro held
        obtain ⟨session, here, -⟩ := guarded.holding name held
        cases found.symm.trans here
      have unchanged : shared.drop name = shared := by rw [SharedSessions.drop, found]
      rw [nobody, unchanged, filter_ne_of_ne other]
      exact ⟨guarded, (Touches.refl guarded.sound place []).toKeepsLock, rfl⟩
  | some session =>
      have saving : shared.saving? name .drop =
          if session.autoShutdown = true ∧ session.state = .ready then some session else none := by
        rw [saving?, found, Option.filter_some]
        simp [SessionAction.saves, and_comm]
      obtain ⟨written, touches, dropped, snapshot⟩ := EmbeddedSession.drop_eq_release
        guarded.sound (guarded.placed name session found)
        fun automatic ready => saves session (by rw [saving, if_pos ⟨automatic, ready⟩])
      have disk : (shared.drop name).disk = session.release written := by
        rw [SharedSessions.drop, found, ← dropped]
      obtain ⟨keeps, -, unlocked⟩ := guarded.release found touches
      refine ⟨guarded.leave found touches disk ?_ ?_, disk ▸ keeps, ?_⟩
      · exact fun other different => by rw [session?_drop, if_neg different]
      · intro ended here
        rw [session?_drop, if_pos rfl] at here
        cases here
      · rw [disk, unlocked, snapshot, saving]
        split <;> rfl

theorem startup (guarded : Guarded place shared holder)
    (found : shared.session? name = some session) :
    (∃ next, Guarded place (shared.act name .startup).2 next) ∧
      (shared.act name .startup).2.disk.snapshot? place = shared.disk.snapshot? place := by
  have placed := guarded.placed name session found
  rcases tried : session.startup shared.disk with ⟨outcome, started, disk⟩
  have acted : (shared.act name .startup).2 = shared.put name started disk := by
    simp only [act, found, tried]
  rw [acted]
  cases outcome with
  | error failure =>
      obtain ⟨rfl, touches⟩ := EmbeddedSession.startup_of_error guarded.sound placed tried
      exact ⟨⟨holder, guarded.replace found touches rfl rfl Iff.rfl⟩,
        touches.snapshot?_eq (by decide)⟩
  | ok =>
      obtain ⟨-, free, number, store, written, rfl, rfl, touches, leads, numbered, -⟩ :=
        EmbeddedSession.startup_of_ok guarded.sound placed tried
      have nobody : holder = none := by
        rw [guarded.lockCount] at free
        cases holder with
        | none => rfl
        | some other => simp at free
      refine ⟨⟨some name, guarded.update name ?_ ?_ (touches.toKeepsLock.lock numbered) ?_ ?_ ?_
        ?_⟩, touches.snapshot?_eq (by decide)⟩
      · exact fun other different => session?_put_of_ne _ _ different
      · intro other different
        simp [nobody, Ne.symm different]
      · change (written.lock number).lockCount place = 1
        rw [lockCount_lock numbered, touches.lockCount, free]
      · intro own here
        rw [session?_put_self] at here
        cases here
        exact placed
      · exact fun own here free => absurd rfl free
      · intro _
        exact ⟨_, session?_put_self _ _, rfl, leads, number, rfl, numbered⟩

theorem shutdown (guarded : Guarded place shared holder)
    (found : shared.session? name = some session)
    (saves : session.state = .ready →
      (session.store.save session.snapshotPath shared.disk).1 = .ok ()) :
    (∃ next, Guarded place (shared.act name .shutdown).2 next) ∧
      (shared.act name .shutdown).2.disk.snapshot? place =
        if session.state = .ready then some (Snapshot.save session.store)
        else shared.disk.snapshot? place := by
  have untouched := Touches.refl guarded.sound place []
  have acted : (shared.act name .shutdown).2 =
      shared.put name (session.shutdown shared.disk).2.1 (session.shutdown shared.disk).2.2 := by
    simp only [act, found]
  rw [acted]
  cases state : session.state with
  | uninitialized =>
      rw [EmbeddedSession.shutdown, state]
      refine ⟨⟨holder, guarded.replace found untouched rfl rfl ?_⟩, rfl⟩
      simp [state]
  | closed =>
      rw [EmbeddedSession.shutdown, state]
      exact ⟨⟨holder, guarded.replace found untouched rfl rfl Iff.rfl⟩, rfl⟩
  | ready =>
      obtain ⟨written, touches, saved, ended⟩ := EmbeddedSession.shutdown_of_ready guarded.sound
        (guarded.placed name session found) state (saves state)
      rw [ended]
      refine ⟨⟨_, guarded.leave found touches rfl ?_ ?_⟩, ?_⟩
      · exact fun other different => session?_put_of_ne _ _ different
      · intro own here
        rw [session?_put_self] at here
        cases here
        exact ⟨rfl, by simp, rfl⟩
      · exact (guarded.release found touches).2.2.trans saved

theorem opens (guarded : Guarded place shared holder) {path : String}
    (placed : shared.disk.resolve path = place)
    (saves : ∀ session, shared.saving? name .drop = some session →
      (session.store.save session.snapshotPath shared.disk).1 = .ok ()) :
    Guarded place (shared.opens name path) (holder.filter (· ≠ name)) := by
  obtain ⟨dropped, keeps, -⟩ := guarded.drop saves
  have nobody : holder.filter (· ≠ name) ≠ some name := by
    simp [Option.filter_eq_some_iff]
  have opened : ∀ session, (shared.opens name path).session? name = some session →
      session = { path } := by
    intro session here
    rw [SharedSessions.opens, session?_put_self] at here
    exact (Option.some.inj here).symm
  refine dropped.update name ?_ (fun _ _ => Iff.rfl)
    (Touches.refl dropped.sound place []).toKeepsLock dropped.lockCount ?_ ?_ ?_
  · exact fun other different => session?_put_of_ne _ _ different
  · intro session here
    rw [opened session here]
    exact (keeps.keeps.resolve path).trans placed
  · intro session here _
    rw [opened session here]
    exact ⟨nofun, rfl⟩
  · exact fun held => absurd held nobody

/-- An action keeps the sessions guarded, and changes the snapshot only if it saves. -/
theorem act (guarded : Guarded place shared holder) {action : SessionAction}
    (placed : ∀ path, action = .opens path → shared.disk.resolve path = place)
    (saves : ∀ session, shared.saving? name action = some session →
      (session.store.save session.snapshotPath shared.disk).1 = .ok ()) :
    (∃ next, Guarded place (shared.act name action).2 next) ∧
      (shared.act name action).2.disk.snapshot? place =
        ((shared.saving? name action).map fun session => Snapshot.save session.store).or
          (shared.disk.snapshot? place) := by
  by_cases opening : ∃ path, action = .opens path
  · obtain ⟨path, rfl⟩ := opening
    exact ⟨⟨_, guarded.opens (placed path rfl) saves⟩, (guarded.drop saves).2.2⟩
  have untouched := Touches.refl guarded.sound place []
  cases found : shared.session? name with
  | none =>
      rw [act_of_none found fun path same => opening ⟨path, same⟩, saving?, found]
      exact ⟨⟨holder, guarded⟩, rfl⟩
  | some session =>
      have saving : shared.saving? name action =
          if session.state = .ready ∧ action.saves session.autoShutdown = true then some session
          else none := by
        rw [saving?, found, Option.filter_some]
        simp
      cases action with
      | opens path => exact absurd ⟨path, rfl⟩ opening
      | drop =>
          obtain ⟨dropped, -, snapshot⟩ := guarded.drop saves
          exact ⟨⟨_, dropped⟩, snapshot⟩
      | startup =>
          rw [saving, if_neg (by simp [SessionAction.saves])]
          exact guarded.startup found
      | shutdown =>
          obtain ⟨next, snapshot⟩ := guarded.shutdown found fun ready =>
            saves session (by rw [saving, if_pos ⟨ready, rfl⟩])
          refine ⟨next, snapshot.trans ?_⟩
          rw [saving]
          simp only [SessionAction.saves, and_true]
          split <;> rfl
      | setAutoShutdown =>
          rw [saving, if_neg (by simp [SessionAction.saves])]
          simp only [SharedSessions.act, found]
          exact ⟨⟨holder, guarded.replace found untouched rfl rfl Iff.rfl⟩, rfl⟩
      | execute batch =>
          rw [saving, if_neg (by simp [SessionAction.saves])]
          obtain ⟨outcome, store, executed⟩ := session.exists_execute_eq batch
          simp only [SharedSessions.act, found, executed]
          exact ⟨⟨holder, guarded.replace found untouched rfl rfl Iff.rfl⟩, rfl⟩

theorem isLocked_of_ready (guarded : Guarded place shared holder)
    (found : shared.session? name = some session) (ready : session.state = .ready) {number : Nat}
    (numbered : shared.disk.lockNumber? place = some number) :
    shared.disk.isLocked number = true := by
  have once := lockCount_of_lockNumber? numbered
  rw [guarded.lockCount, guarded.holder_of_ready found ready] at once
  exact List.contains_iff_mem.mpr (List.count_pos_iff.mp (Nat.lt_of_lt_of_eq Nat.one_pos once))

/-- Exactly the session that holds the lock is ready. -/
theorem ready_iff (guarded : Guarded place shared holder)
    (found : shared.session? name = some session) :
    session.state = .ready ↔ ∃ number, session.lock = some number ∧
      shared.disk.fileNumber? (StoreLock.path session.path) = some number ∧
      shared.disk.isLocked number = true := by
  constructor
  · intro ready
    have holding := guarded.holding_of_ready found ready
    obtain ⟨number, held, numbered⟩ := holding.lock
    exact ⟨number, held, (fileNumber?_eq_some_iff holding.leads).mpr numbered,
      guarded.isLocked_of_ready found ready numbered⟩
  · rintro ⟨number, held, -⟩
    by_contra other
    have free : holder ≠ some name := fun holds =>
      other (guarded.holding_of_held found holds).state
    rw [(guarded.idle name session found free).lock] at held
    cases held

theorem held_iff (guarded : Guarded place shared holder) :
    (∃ number, shared.disk.lockNumber? place = some number ∧
        shared.disk.isLocked number = true) ↔
      ∃ name session, shared.session? name = some session ∧ session.state = .ready := by
  constructor
  · rintro ⟨number, found, locked⟩
    have count := List.count_pos_iff.mpr (List.contains_iff_mem.mp locked)
    rw [← lockCount_of_lockNumber? found, guarded.lockCount] at count
    cases holder with
    | none => simp at count
    | some name =>
        obtain ⟨session, here, holding⟩ := guarded.holding name rfl
        exact ⟨name, session, here, holding.state⟩
  · rintro ⟨name, session, found, ready⟩
    obtain ⟨number, -, numbered⟩ := (guarded.holding_of_ready found ready).lock
    exact ⟨number, numbered, guarded.isLocked_of_ready found ready numbered⟩

end Guarded

/-! ## Moves -/

theorem act_movesTo {action : SessionAction} {session moved : EmbeddedSession}
    (found : shared.session? other = some session)
    (after : (shared.act name action).2.session? other = some moved)
    (same : ∀ path, action = .opens path → other ≠ name) :
    session.state.MovesTo moved.state := by
  by_cases elsewhere : other = name
  · subst other
    cases action with
    | opens path => exact absurd rfl (same path rfl)
    | drop =>
        simp only [act, session?_drop] at after
        cases after
    | startup =>
        simp only [act, found, session?_put] at after
        cases after
        exact EmbeddedSession.startup_movesTo session shared.disk
    | shutdown =>
        simp only [act, found, session?_put] at after
        cases after
        exact EmbeddedSession.shutdown_movesTo session shared.disk
    | setAutoShutdown =>
        simp only [act, found, session?_put] at after
        cases after
        exact .stays _
    | execute batch =>
        obtain ⟨outcome, store, executed⟩ := session.exists_execute_eq batch
        simp only [act, found, executed, session?_put] at after
        cases after
        exact .stays _
  · rw [session?_act_of_ne elsewhere, found] at after
    cases after
    exact .stays _

theorem saving?_of_not_saves {action : SessionAction}
    (quiet : ∀ automatic, action.saves automatic = false) : shared.saving? name action = none := by
  rw [saving?, Option.filter_eq_none_iff]
  simp [quiet]

/-! ## Any number of actions -/

/-- What actions lead to that open sessions only on the directory at a place, and whose saves
succeed: the sessions, and the store that was saved last. -/
inductive Serves (place : Location) (start : Disk) :
    SharedSessions → Option Store → Prop where
  | start : Serves place start { disk := start } none
  | act {shared : SharedSessions} {last : Option Store} (name : String)
      (action : SessionAction) : Serves place start shared last →
      (∀ path, action = .opens path → shared.disk.resolve path = place) →
      (∀ session, shared.saving? name action = some session →
        (session.store.save session.snapshotPath shared.disk).1 = .ok ()) →
      Serves place start (shared.act name action).2
        (((shared.saving? name action).map (·.store)).or last)

/-- What a session that starts begins with, and what is counted then: the snapshot, if there
is one, and the store that was saved last. -/
structure Begins (place : Location) (before : Disk) (last : Option Store)
    (started : EmbeddedSession) (after : Disk) : Prop where
  empty : before.snapshot? place = none →
    started.store = Store.empty ∧ storedStats started.path after = .ok none
  loaded : ∀ bytes, before.snapshot? place = some bytes →
    Snapshot.load started.snapshotPath bytes = .ok started.store ∧
      storedStats started.path after = .ok (some started.store.stats)
  same : ∀ store, last = some store → store.Fits →
    started.store.dump = store.dump ∧ storedStats started.path after = .ok (some store.stats)

/-- Sessions on one directory take turns and lose nothing. -/
structure TakesTurns (place : Location) (start : Disk) (shared : SharedSessions)
    (last : Option Store) : Prop where
  /-- The session that holds the lock of the directory is ready, and no other. -/
  ready_iff : ∀ name session, shared.session? name = some session →
    (session.state = .ready ↔ ∃ number, session.lock = some number ∧
      shared.disk.fileNumber? (StoreLock.path session.path) = some number ∧
      shared.disk.isLocked number = true)
  alone : ∀ first second session other, shared.session? first = some session →
    shared.session? second = some other → session.state = .ready → other.state = .ready →
    first = second
  /-- The lock is not held when no session is ready. -/
  held_iff : (∃ number, shared.disk.lockNumber? place = some number ∧
      shared.disk.isLocked number = true) ↔
    ∃ name session, shared.session? name = some session ∧ session.state = .ready
  /-- An action that does not open a session in place of another only moves it on. -/
  moves : ∀ name action other session moved, shared.session? other = some session →
    (shared.act name action).2.session? other = some moved →
    (∀ path, action = .opens path → other ≠ name) → session.state.MovesTo moved.state
  /-- Nothing but the last save is in the snapshot. -/
  snapshot : shared.disk.snapshot? place = (last.map Snapshot.save).or (start.snapshot? place)
  begins : ∀ name session started after, shared.session? name = some session →
    session.startup shared.disk = (.ok (), started, after) →
    Begins place shared.disk last started after
  counts : ∀ directory, Leads directory place shared.disk → ∀ store, last = some store →
    store.Fits → store.EndsLive → storedStats directory shared.disk = .ok (some store.stats)

namespace Serves

variable {place : Location} {start : Disk} {last : Option Store} {holder : Option String}
  {session : EmbeddedSession}

/-- An action that saves nothing. -/
theorem quiet (serves : Serves place start shared last) (name : String)
    (action : SessionAction) (unsaved : shared.saving? name action = none)
    (placed : ∀ path, action = .opens path → shared.disk.resolve path = place) :
    Serves place start (shared.act name action).2 last := by
  have acted := serves.act name action placed fun session saves => by
    rw [unsaved] at saves
    cases saves
  rwa [unsaved] at acted

theorem exists_guarded (serves : Serves place start shared last) (sound : start.Sound)
    (free : start.lockCount place = 0) :
    (∃ holder, Guarded place shared holder) ∧
      shared.disk.snapshot? place = (last.map Snapshot.save).or (start.snapshot? place) := by
  induction serves with
  | start =>
      refine ⟨⟨none, sound, ?_, ?_, ?_, free⟩, rfl⟩
      · exact fun _ _ found => nomatch found
      · exact fun _ _ found => nomatch found
      · exact fun _ held => nomatch held
  | act name action _ placed saves induction =>
      obtain ⟨⟨holder, guarded⟩, snapshot⟩ := induction
      obtain ⟨next, changed⟩ := guarded.act placed saves
      refine ⟨next, ?_⟩
      rw [changed, snapshot]
      cases SharedSessions.saving? _ name action <;> rfl

theorem begins (guarded : Guarded place shared holder)
    (found : shared.session? name = some session) (snapshot : shared.disk.snapshot? place =
      (last.map Snapshot.save).or (start.snapshot? place)) {started : EmbeddedSession}
    {after : Disk} (starts : session.startup shared.disk = (.ok (), started, after)) :
    Begins place shared.disk last started after := by
  obtain ⟨-, -, number, store, written, rfl, rfl, touches, leads, -, loaded⟩ :=
    EmbeddedSession.startup_of_ok guarded.sound (guarded.placed name session found) starts
  have unchanged : (written.lock number).snapshot? place = shared.disk.snapshot? place :=
    touches.snapshot?_eq (by decide)
  have leadsAfter : Leads session.path place (written.lock number) := leads.of_keeps
    ⟨fun _ => id, rfl⟩
  have reads : ∀ bytes, shared.disk.snapshot? place = some bytes →
      Snapshot.load session.snapshotPath bytes = .ok store ∧
        storedStats session.path (written.lock number) = .ok (some store.stats) := by
    intro bytes here
    rw [← unchanged] at here
    rw [EmbeddedSession.stored_of_some leadsAfter here] at loaded
    refine ⟨loaded, ?_⟩
    rw [EmbeddedSession.storedStats_of_some leadsAfter here]
    exact congrArg _ loaded
  refine ⟨?_, reads, ?_⟩
  · intro missing
    rw [← unchanged] at missing
    exact ⟨EmbeddedSession.stored_of_none leadsAfter missing loaded,
      EmbeddedSession.storedStats_of_none leadsAfter missing⟩
  · rintro saved rfl fits
    obtain ⟨loads, counts⟩ := reads _ snapshot
    have same := Store.dump_eq_of_load fits loads
    exact ⟨same, Store.stats_eq_of_dump_eq same ▸ counts⟩

/-- Whatever is done to the sessions on one store directory, they take turns and lose
nothing. -/
theorem takesTurns (serves : Serves place start shared last) (sound : start.Sound)
    (free : start.lockCount place = 0) : TakesTurns place start shared last := by
  obtain ⟨⟨holder, guarded⟩, snapshot⟩ := serves.exists_guarded sound free
  refine ⟨fun name session found => guarded.ready_iff found, ?_, guarded.held_iff,
    fun _ _ _ _ _ => act_movesTo, snapshot,
    fun name session started after found => begins guarded found snapshot, ?_⟩
  · intro first second session other found otherFound ready otherReady
    have held := guarded.holder_of_ready found ready
    rw [guarded.holder_of_ready otherFound otherReady] at held
    exact (Option.some.inj held).symm
  · rintro directory leads store rfl fits live
    obtain ⟨restored, loaded, same⟩ :=
      Store.load_save live fits (Path.join directory snapshotFileName) []
    rw [List.append_nil] at loaded
    rw [EmbeddedSession.storedStats_of_some leads snapshot, loaded,
      ← Store.stats_eq_of_dump_eq same]
    rfl

end Serves

/-- The first session has the lock and a node in its store, and the second was rejected. -/
def contended : SharedSessions :=
  let opened := (act { disk := {} } "first" (.opens "store")).2
  let both := (opened.act "second" (.opens "./store")).2
  let started := (both.act "first" .startup).2
  let rejected := (started.act "second" .startup).2
  let filled := (rejected.act "first" (.execute [⟨"CREATE (a:Type)", none⟩])).2
  (filled.act "first" .setAutoShutdown).2

theorem serves_contended : Serves ["store"] {} contended none := by
  have placed : ∀ (shared : SharedSessions) (opened : String),
      shared.disk.resolve opened = ["store"] → ∀ path,
      SessionAction.opens opened = .opens path → shared.disk.resolve path = ["store"] := by
    rintro shared opened leads path ⟨⟩
    exact leads
  have opened := (Serves.start : Serves ["store"] {} _ _).quiet "first" (.opens "store") rfl
    (placed _ _ (by decide +kernel))
  have both := opened.quiet "second" (.opens "./store")
    (Option.isNone_iff_eq_none.mp (by decide +kernel)) (placed _ _ (by decide +kernel))
  have started := both.quiet "first" .startup (saving?_of_not_saves fun _ => rfl) nofun
  have rejected := started.quiet "second" .startup (saving?_of_not_saves fun _ => rfl) nofun
  have filled := rejected.quiet "first" (.execute [⟨"CREATE (a:Type)", none⟩])
    (saving?_of_not_saves fun _ => rfl) nofun
  exact filled.quiet "first" .setAutoShutdown (saving?_of_not_saves fun _ => rfl) nofun

/-- Dropped, the first session leaves its node to the second, which now may start. -/
theorem takesTurns_contended : ∃ store,
    TakesTurns ["store"] {} (contended.act "first" .drop).2 (some store) ∧
      store.nodeCount = 1 ∧
      ((contended.act "first" .drop).2.act "second" .startup).1.isOk = true := by
  have counted : (contended.saving? "first" .drop).map (·.store.nodeCount) = some 1 := by
    decide +kernel
  obtain ⟨session, saving, nodes⟩ := Option.map_eq_some_iff.mp counted
  have saves : ((contended.saving? "first" .drop).all fun session =>
      (session.store.save session.snapshotPath contended.disk).1.isOk) = true := by
    decide +kernel
  rw [saving, Option.all_some] at saves
  have dropped := serves_contended.act "first" .drop nofun fun other same => by
    cases saving.symm.trans same
    cases outcome : (session.store.save session.snapshotPath contended.disk).1 with
    | ok => rfl
    | error failure =>
        rw [outcome] at saves
        cases saves
  rw [saving] at dropped
  have sound : Disk.Sound {} := ⟨by simp [Disk.at?], by simp [Disk.at?], by simp⟩
  exact ⟨session.store, dropped.takesTurns sound rfl, nodes, by decide +kernel⟩

end SharedSessions

end CodeGraph
