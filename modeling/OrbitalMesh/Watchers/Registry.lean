import OrbitalMesh.Runtime

/-!
# The registry of watcher threads

`WatcherRegistry` runs one loop thread for each watcher that is started.  Its calls
hold one lock.  Stopping sets the stop event of the thread, waits for the thread with
a timeout, and then forgets it, whether or not it has ended; meanwhile the loops go on.

A loop looks at its stop event, begins a tick, and sleeps.  How long a tick, a wait or
a stop takes is left open.
-/

namespace OrbitalMesh.Watchers

/-- `Watcher`, as far as the registry looks at it. -/
structure Watcher where
  name : String
  signalSource : String
  intervalSeconds : Int
deriving DecidableEq

/-- Where a thread is in `_run_loop`. -/
inductive Phase where
  /-- the wait before the first tick -/
  | delay
  /-- at `while not stop_event.is_set()` -/
  | looking
  /-- past it, before `watcher.tick()` -/
  | due
  | ticking
  | sleeping
  | ended
deriving DecidableEq

/-- A thread that runs `_run_loop`, with its stop event. -/
structure Loop where
  watcher : Watcher
  stopEvent : Bool := false
  phase : Phase := .delay

/-- `thread.is_alive()`. -/
def Loop.alive (loop : Loop) : Bool := loop.phase ≠ .ended

/-- What a loop does next. -/
inductive Move where
  /-- `stop_event.wait(...)` returns; a wait of no time is none -/
  | wake (signalled : Bool)
  | look
  | beginTick
  /-- the tick returns or raises an `Exception`; `rests` if some of the interval
  is left -/
  | endTick (rests : Bool)
  /-- the tick raises anything else -/
  | die
deriving DecidableEq

/-- `_run_loop`, one step. -/
def Loop.move (loop : Loop) : Move → Option Loop
  | .wake signalled =>
    if loop.phase ≠ .delay ∧ loop.phase ≠ .sleeping then none
    else if signalled then
      if loop.stopEvent then some { loop with phase := .ended } else none
    else some { loop with phase := .looking }
  | .look =>
    if loop.phase ≠ .looking then none
    else some { loop with phase := if loop.stopEvent then .ended else .due }
  | .beginTick => if loop.phase ≠ .due then none else some { loop with phase := .ticking }
  | .endTick rests =>
    if loop.phase ≠ .ticking then none
    else some { loop with phase := if rests then .sleeping else .looking }
  | .die => if loop.phase ≠ .ticking then none else some { loop with phase := .ended }

inductive Call where
  | register (watcher : Watcher)
  | unregister (name : String)
  | start (name : String)
  | stop (name : String)
deriving DecidableEq

inductive Request where
  | one (call : Call)
  | startAll
  | stopAll
deriving DecidableEq

/-- What a call goes on with after `thread.join(...)`. -/
inductive Afterwards where
  | stopped
  | unregistered
  | registered (watcher : Watcher)

structure Join where
  name : String
  thread : Nat
  afterwards : Afterwards

/-- The registry and the threads it has started.  `todo` are the calls that the
request under way still makes. -/
structure World where
  watchers : Table Watcher := ∅
  threads : Table Nat := ∅
  stopEvents : Table Nat := ∅
  loops : List Loop := []
  joining : Option Join := none
  todo : List Call := []

namespace World

variable (w : World) (name : String)

/-- `_thread_is_alive_locked` and `is_running`. -/
def isRunning : Bool :=
  match w.threads[name]? with
  | some i => (w.loops[i]?).any Loop.alive
  | none => false

def listNames : List String := w.watchers.keys

/-- `stop_event.set()`. -/
def signal : World :=
  match w.stopEvents[name]? with
  | some i => { w with loops := w.loops.modify i fun loop => { loop with stopEvent := true } }
  | none => w

/-- The end of `_stop_locked`, and of the call that made it. -/
def finish : Afterwards → World
  | .stopped => { w with threads := w.threads.erase name }
  | .unregistered => { w with
      watchers := w.watchers.erase name
      threads := w.threads.erase name
      stopEvents := w.stopEvents.erase name }
  | .registered watcher => { w with
      watchers := w.watchers.insert name watcher
      threads := w.threads.erase name }

/-- `_stop_locked`: wait for a thread that is alive, then go on. -/
def stopLocked (afterwards : Afterwards) : World :=
  let w := w.signal name
  match w.threads[name]? with
  | some thread =>
    if w.isRunning name then { w with joining := some { name, thread, afterwards } }
    else w.finish name afterwards
  | none => w.finish name afterwards

def call : Call → World
  | .register watcher =>
    if (w.watchers[watcher.name]?).isSome && w.isRunning watcher.name then
      w.stopLocked watcher.name (.registered watcher)
    else { w with watchers := w.watchers.insert watcher.name watcher }
  | .unregister name =>
    if (w.watchers[name]?).isNone then w
    else if w.isRunning name then w.stopLocked name .unregistered
    else w.finish name .unregistered
  | .start name =>
    match w.watchers[name]? with
    | none => { w with todo := [] }
    | some watcher =>
      if w.isRunning name then w
      else { w with
        threads := w.threads.insert name w.loops.length
        stopEvents := w.stopEvents.insert name w.loops.length
        loops := w.loops ++ [{ watcher }] }
  | .stop name => w.stopLocked name .stopped

def callsOf : Request → List Call
  | .one call => [call]
  | .startAll => w.listNames.map .start
  | .stopAll => w.listNames.map .stop

end World

inductive Label where
  /-- a request is made -/
  | request (request : Request)
  /-- the request makes its next call -/
  | next
  /-- the thread has ended, or the timeout is over -/
  | joined
  | move (thread : Nat) (move : Move)
deriving DecidableEq

namespace World

def step (w : World) : Label → Option World
  | .request request =>
    if w.joining = none ∧ w.todo = [] then some { w with todo := w.callsOf request } else none
  | .next =>
    match w.joining, w.todo with
    | none, call :: rest => some (({ w with todo := rest } : World).call call)
    | _, _ => none
  | .joined =>
    match w.joining with
    | some join => some (({ w with joining := none } : World).finish join.name join.afterwards)
    | none => none
  | .move thread move =>
    match (w.loops[thread]?).bind fun loop => loop.move move with
    | some loop => some { w with loops := w.loops.set thread loop }
    | none => none

def run (w : World) : List Label → Option World
  | [] => some w
  | label :: rest => (w.step label).bind fun w => w.run rest

end World

variable (w : World)

def World.Runs (name : String) (i : Nat) : Prop :=
  ∃ loop, w.loops[i]? = some loop ∧ loop.alive = true ∧ loop.watcher.name = name

/-- At most one live thread for each name; and, while no call holds the lock,
`is_running` tells whether there is one. -/
structure Lawful : Prop where
  one : ∀ name i j, w.Runs name i → w.Runs name j → i = j
  tells : w.joining = none → ∀ name, w.isRunning name = true ↔ ∃ i, w.Runs name i

def Stops (call : Call) (name : String) : Prop :=
  call = .stop name ∨ call = .unregister name ∨
    ∃ watcher, call = .register watcher ∧ watcher.name = name ∧
      (w.watchers[name]?).isSome = true

/-- The step from `w` to `w'` is the return of such a call. -/
def Returns (w w' : World) (name : String) : Label → Prop
  | .joined => ∃ join, w.joining = some join ∧ join.name = name
  | .next => w'.joining = none ∧ ∃ call rest, w.todo = call :: rest ∧ Stops w call name
  | _ => False

variable (labels : List Label)

def Quiet : Prop :=
  ∀ left label right u v, labels = left ++ label :: right → w.run left = some u →
    u.step label = some v → ∀ name, Returns u v name label →
    ∀ i loop, v.loops[i]? = some loop → loop.watcher.name = name →
      Label.move i .beginTick ∉ right

def JoinsEnd : Prop :=
  ∀ left right u join, labels = left ++ .joined :: right → w.run left = some u →
    u.joining = some join → ¬ u.Runs join.name join.thread

/-- The thread table names loops of its watchers, and a call waits for one of
them. -/
structure Known : Prop where
  loops : ∀ (name : String) i, w.threads[name]? = some i →
    ∃ loop, w.loops[i]? = some loop ∧ loop.watcher.name = name
  registered : ∀ (name : String) i, w.threads[name]? = some i → (w.watchers[name]?).isSome = true
  names : ∀ (name : String) watcher, w.watchers[name]? = some watcher → watcher.name = name
  joining : ∀ join, w.joining = some join → w.threads[join.name]? = some join.thread ∧
    ∀ watcher, join.afterwards = .registered watcher → watcher.name = join.name

def AllKnown : Prop := ∀ name i, w.Runs name i → w.threads[name]? = some i

section

variable {w v : World} {name : String} {i : Nat} {move : Move} {thread : Nat} {label : Label}

theorem Loop.move_spec {loop loop' : Loop} (h : loop.move move = some loop') :
    loop.alive = true ∧ loop'.watcher = loop.watcher := by
  unfold Loop.alive
  cases move with
  | wake signalled =>
    simp only [Loop.move] at h
    split at h
    · cases h
    · next hphase =>
      rw [not_and_or, not_not, not_not] at hphase
      have halive : loop.phase ≠ .ended := by
        rcases hphase with hphase | hphase <;> simp [hphase]
      split at h
      · split at h
        · cases h
          exact ⟨by simpa using halive, rfl⟩
        · cases h
      · cases h
        exact ⟨by simpa using halive, rfl⟩
  | look | beginTick | endTick | die =>
    simp only [Loop.move] at h
    split at h
    · cases h
    · next hphase =>
      cases h
      rw [not_not] at hphase
      exact ⟨by simp [hphase], rfl⟩

theorem World.runs_of_move (h : w.step (.move thread move) = some v) :
    ∃ loop loop', w.loops[thread]? = some loop ∧ loop.alive = true ∧
      loop'.watcher = loop.watcher ∧ v = { w with loops := w.loops.set thread loop' } := by
  simp only [World.step] at h
  split at h
  · next loop' hmove =>
    cases h
    obtain ⟨loop, hloop, hmoves⟩ := Option.bind_eq_some_iff.mp hmove
    obtain ⟨halive, hwatcher⟩ := Loop.move_spec hmoves
    exact ⟨loop, loop', hloop, halive, hwatcher, rfl⟩
  · cases h

def World.nameOf (w : World) (i : Nat) : Option String :=
  (w.loops[i]?).map fun loop => loop.watcher.name

theorem World.nameOf_eq_some :
    w.nameOf i = some name ↔ ∃ loop, w.loops[i]? = some loop ∧ loop.watcher.name = name :=
  Option.map_eq_some_iff

theorem World.runs_iff : w.Runs name i ↔ w.nameOf i = some name ∧
    (w.loops[i]?).any Loop.alive = true := by
  cases hloop : w.loops[i]? with
  | none => simp [World.Runs, World.nameOf, hloop]
  | some loop => simp [World.Runs, World.nameOf, hloop, and_comm]

/-- The loops of two states are the same, but for stop events. -/
def SameLoops (w v : World) : Prop :=
  ∀ i, v.nameOf i = w.nameOf i ∧ (v.loops[i]?).any Loop.alive = (w.loops[i]?).any Loop.alive

theorem SameLoops.runs (h : SameLoops w v) : v.Runs name i ↔ w.Runs name i := by
  rw [World.runs_iff, World.runs_iff, (h i).1, (h i).2]

theorem sameLoops_signal (w : World) (name : String) : SameLoops w (w.signal name) := by
  intro i
  unfold World.signal
  split
  · next j _ =>
    rw [World.nameOf, World.nameOf]
    rw [List.getElem?_modify]
    cases hloop : w.loops[i]? with
    | none => exact ⟨rfl, rfl⟩
    | some loop =>
      by_cases hij : j = i
      · simp [hij, Loop.alive]
      · simp [hij]
  · exact ⟨rfl, rfl⟩

theorem signal_tables (w : World) (name : String) :
    (w.signal name).threads = w.threads ∧ (w.signal name).watchers = w.watchers ∧
      (w.signal name).joining = w.joining ∧ (w.signal name).todo = w.todo := by
  unfold World.signal
  split <;> exact ⟨rfl, rfl, rfl, rfl⟩

theorem Known.isRunning_iff (h : Known w) :
    w.isRunning name = true ↔ ∃ i, w.threads[name]? = some i ∧ w.Runs name i := by
  unfold World.isRunning
  cases hthread : w.threads[name]? with
  | none => simp
  | some i =>
    have hname : w.nameOf i = some name := World.nameOf_eq_some.mpr (h.loops name i hthread)
    simp [World.runs_iff, hname]

theorem isRunning_congr (h : SameLoops w v) (hthreads : v.threads = w.threads) (name : String) :
    v.isRunning name = w.isRunning name := by
  unfold World.isRunning
  rw [hthreads]
  cases w.threads[name]? with
  | none => rfl
  | some i => exact (h i).2

/-- A call that has nothing to wait for keeps what is known. -/
theorem Known.of_same (h : Known w) (hthreads : v.threads = w.threads)
    (hwatchers : v.watchers = w.watchers) (hloops : SameLoops w v)
    (hjoining : v.joining = w.joining) : Known v := by
  refine ⟨fun other j hget => ?_, fun other j hget => ?_, fun other watcher hget => ?_,
    fun join hjoin => ?_⟩
  · rw [hthreads] at hget
    rw [← World.nameOf_eq_some, (hloops j).1, World.nameOf_eq_some]
    exact h.loops other j hget
  · rw [hthreads] at hget
    rw [hwatchers]
    exact h.registered other j hget
  · rw [hwatchers] at hget
    exact h.names other watcher hget
  · rw [hjoining] at hjoin
    rw [hthreads]
    exact h.joining join hjoin

theorem AllKnown.of_same (h : AllKnown w) (hthreads : v.threads = w.threads)
    (hloops : SameLoops w v) : AllKnown v := by
  intro other j hruns
  rw [hthreads]
  exact h other j (hloops.runs.mp hruns)

theorem finish_spec (w : World) (name : String) (afterwards : Afterwards) :
    (w.finish name afterwards).threads = w.threads.erase name ∧
      (w.finish name afterwards).loops = w.loops ∧
      (w.finish name afterwards).joining = w.joining ∧
      ∀ other, (w.finish name afterwards).watchers[other]? = w.watchers[other]? ∨
        other = name ∧ ((w.finish name afterwards).watchers[other]? = none ∨
          ∃ watcher, afterwards = .registered watcher ∧
            (w.finish name afterwards).watchers[other]? = some watcher) := by
  cases afterwards with
  | stopped => exact ⟨rfl, rfl, rfl, fun _ => .inl rfl⟩
  | unregistered =>
    refine ⟨rfl, rfl, rfl, fun other => ?_⟩
    have hget := Table.get_erase w.watchers name other
    by_cases heq : other = name
    · rw [if_pos heq] at hget
      exact .inr ⟨heq, .inl hget⟩
    · rw [if_neg heq] at hget
      exact .inl hget
  | registered watcher =>
    refine ⟨rfl, rfl, rfl, fun other => ?_⟩
    have hget := Table.get_insert w.watchers name other watcher
    by_cases heq : other = name
    · rw [if_pos heq] at hget
      exact .inr ⟨heq, .inr ⟨watcher, rfl, hget⟩⟩
    · rw [if_neg heq] at hget
      exact .inl hget

theorem Known.finish (h : Known w) (hjoining : w.joining = none) {afterwards : Afterwards}
    (hname : ∀ watcher, afterwards = .registered watcher → watcher.name = name) :
    Known (w.finish name afterwards) := by
  obtain ⟨hthreads, hloops, hjoin, hwatchers⟩ := finish_spec w name afterwards
  have hget : ∀ (other : String) j, (w.finish name afterwards).threads[other]? = some j →
      other ≠ name ∧ w.threads[other]? = some j := by
    intro other j hj
    rw [hthreads, Table.get_erase] at hj
    split at hj
    · cases hj
    · next hne => exact ⟨hne, hj⟩
  refine ⟨fun other j hj => ?_, fun other j hj => ?_, fun other watcher hj => ?_,
    fun join hj => ?_⟩
  · rw [hloops]
    exact h.loops other j (hget other j hj).2
  · obtain ⟨hne, hj⟩ := hget other j hj
    rw [(hwatchers other).resolve_right fun heq => hne heq.1]
    exact h.registered other j hj
  · rcases hwatchers other with hsame | ⟨rfl, hnone | ⟨new, hnew, hget⟩⟩
    · exact h.names other watcher (hsame ▸ hj)
    · rw [hnone] at hj
      cases hj
    · rw [hget] at hj
      obtain rfl := Option.some.inj hj
      exact hname new hnew
  · rw [hjoin, hjoining] at hj
    cases hj

theorem AllKnown.finish (h : AllKnown w) (hnone : ∀ j, ¬ w.Runs name j)
    (afterwards : Afterwards) : AllKnown (w.finish name afterwards) := by
  obtain ⟨hthreads, hloops, -, -⟩ := finish_spec w name afterwards
  intro other j hruns
  have hruns' : w.Runs other j := by
    rw [World.Runs, hloops] at hruns
    exact hruns
  have hne : other ≠ name := by
    rintro rfl
    exact hnone j hruns'
  rw [hthreads, Table.get_erase, if_neg hne]
  exact h other j hruns'

theorem AllKnown.not_runs (h : AllKnown w) (hknown : Known w) (hnot : w.isRunning name = false)
    (j : Nat) : ¬ w.Runs name j := by
  intro hruns
  have hrunning := hknown.isRunning_iff.mpr ⟨j, h name j hruns, hruns⟩
  rw [hnot] at hrunning
  cases hrunning

theorem stopLocked_cases (h : Known w) (name : String) (afterwards : Afterwards) :
    (∃ thread, w.threads[name]? = some thread ∧ w.Runs name thread ∧
      w.stopLocked name afterwards =
        { w.signal name with joining := some { name, thread, afterwards } }) ∨
    (w.isRunning name = false ∧
      w.stopLocked name afterwards = (w.signal name).finish name afterwards) := by
  have hsignal := signal_tables w name
  have hrunning := isRunning_congr (sameLoops_signal w name) hsignal.1 name
  unfold World.stopLocked
  dsimp only
  rw [hsignal.1, hrunning]
  cases hthread : w.threads[name]? with
  | none =>
    refine .inr ⟨?_, rfl⟩
    rw [World.isRunning, hthread]
  | some thread =>
    dsimp only
    by_cases hruns : w.isRunning name = true
    · obtain ⟨j, hj, hruns'⟩ := h.isRunning_iff.mp hruns
      obtain rfl := Option.some.inj (hthread.symm.trans hj)
      exact .inl ⟨thread, rfl, hruns', by rw [if_pos hruns]⟩
    · exact .inr ⟨by simpa using hruns, by rw [if_neg hruns]⟩

theorem Known.stopLocked (h : Known w) (hjoining : w.joining = none) (name : String)
    (afterwards : Afterwards)
    (hname : ∀ watcher, afterwards = .registered watcher → watcher.name = name) :
    Known (w.stopLocked name afterwards) ∧
      (AllKnown w → AllKnown (w.stopLocked name afterwards) ∧
        ((w.stopLocked name afterwards).joining = none →
          ∀ j, ¬ (w.stopLocked name afterwards).Runs name j)) := by
  obtain ⟨hthreads, hwatchers, hjoin, -⟩ := signal_tables w name
  have hsame := sameLoops_signal w name
  have hsignal : Known (w.signal name) := h.of_same hthreads hwatchers hsame hjoin
  obtain ⟨thread, hthread, hruns, hresult⟩ | ⟨hnot, hresult⟩ :=
    stopLocked_cases h name afterwards
  · rw [hresult]
    refine ⟨⟨hsignal.loops, hsignal.registered, hsignal.names, fun join hj => ?_⟩, fun hall => ?_⟩
    · obtain rfl := Option.some.inj hj
      exact ⟨hthreads ▸ hthread, hname⟩
    · exact ⟨hall.of_same hthreads hsame, fun hnone => by cases hnone⟩
  · rw [hresult]
    refine ⟨hsignal.finish (hjoin.trans hjoining) hname, fun hall => ?_⟩
    have hnone : ∀ j, ¬ (w.signal name).Runs name j :=
      fun j hruns => hall.not_runs h hnot j (hsame.runs.mp hruns)
    refine ⟨(hall.of_same hthreads hsame).finish hnone afterwards, fun _ j hruns => hnone j ?_⟩
    rw [World.Runs, (finish_spec _ _ _).2.1] at hruns
    exact hruns

theorem Known.start (h : Known w) (hjoining : w.joining = none) {watcher : Watcher}
    (hwatcher : w.watchers[name]? = some watcher) (hnot : w.isRunning name = false) :
    let v : World := { w with
      threads := w.threads.insert name w.loops.length
      stopEvents := w.stopEvents.insert name w.loops.length
      loops := w.loops ++ [{ watcher }] }
    Known v ∧ (AllKnown w → AllKnown v) := by
  intro v
  have hold : ∀ j, j < w.loops.length → v.loops[j]? = w.loops[j]? :=
    fun j hj => List.getElem?_append_left hj
  have hnew : v.loops[w.loops.length]? = some { watcher } := List.getElem?_concat_length
  refine ⟨⟨fun other j hj => ?_, fun other j hj => ?_, h.names, fun join hj => ?_⟩,
    fun hall other j hruns => ?_⟩
  · rw [Table.get_insert] at hj
    split at hj
    · next heq =>
      obtain rfl := Option.some.inj hj
      exact ⟨_, hnew, heq ▸ h.names name watcher hwatcher⟩
    · obtain ⟨loop, hloop, hname⟩ := h.loops other j hj
      exact ⟨loop, (hold j (List.getElem?_eq_some_iff.mp hloop).1).trans hloop, hname⟩
  · rw [Table.get_insert] at hj
    split at hj
    · next heq => simp [v, heq, hwatcher]
    · exact h.registered other j hj
  · have hnone : v.joining = none := hjoining
    rw [hnone] at hj
    cases hj
  · obtain ⟨loop, hloop, halive, hname⟩ := hruns
    rw [Table.get_insert]
    by_cases hlt : j < w.loops.length
    · have hruns' : w.Runs other j := ⟨loop, (hold j hlt).symm.trans hloop, halive, hname⟩
      have hne : other ≠ name := by
        rintro rfl
        exact hall.not_runs h hnot j hruns'
      rw [if_neg hne]
      exact hall other j hruns'
    · have hlen : j < v.loops.length := (List.getElem?_eq_some_iff.mp hloop).1
      have hj : j = w.loops.length := by
        have htotal : v.loops.length = w.loops.length + 1 := by simp [v]
        omega
      subst hj
      obtain rfl := Option.some.inj (hnew.symm.trans hloop)
      rw [if_pos (hname.symm.trans (h.names name watcher hwatcher))]

/-- **A call** keeps what is known; when it stops a watcher and returns, no
thread of the name runs. -/
theorem Known.call (h : Known w) (hjoining : w.joining = none) (call : Call) :
    Known (w.call call) ∧ (AllKnown w → AllKnown (w.call call) ∧
      ∀ name, Stops w call name → (w.call call).joining = none →
        ∀ j, ¬ (w.call call).Runs name j) := by
  cases call with
  | stop other =>
    obtain ⟨hknown, hrest⟩ := h.stopLocked hjoining other .stopped (fun _ hne => by cases hne)
    refine ⟨hknown, fun hall => ⟨(hrest hall).1, fun name hstops hnone => ?_⟩⟩
    obtain hsame | hsame | ⟨_, hsame, -⟩ := hstops
    · cases hsame
      exact (hrest hall).2 hnone
    · cases hsame
    · cases hsame
  | unregister other =>
    have hother : ∀ name, Stops w (.unregister other) name → name = other := by
      rintro name (hsame | hsame | ⟨_, hsame, -⟩)
      · cases hsame
      · cases hsame
        rfl
      · cases hsame
    rw [World.call]
    by_cases hnone : (w.watchers[other]?).isNone = true
    · rw [if_pos hnone]
      refine ⟨h, fun hall => ⟨hall, fun name hstops _ j hruns => ?_⟩⟩
      rw [hother name hstops] at hruns
      have hsome := h.registered other j (hall other j hruns)
      rw [Option.isNone_iff_eq_none.mp hnone] at hsome
      cases hsome
    · rw [if_neg hnone]
      by_cases hruns : w.isRunning other = true
      · rw [if_pos hruns]
        obtain ⟨hknown, hrest⟩ := h.stopLocked hjoining other .unregistered
          (fun _ hne => by cases hne)
        exact ⟨hknown, fun hall => ⟨(hrest hall).1, fun name hstops hnone =>
          hother name hstops ▸ (hrest hall).2 hnone⟩⟩
      · rw [if_neg hruns]
        have hnot : w.isRunning other = false := by simpa using hruns
        refine ⟨h.finish hjoining (fun _ hne => by cases hne), fun hall =>
          ⟨hall.finish (hall.not_runs h hnot) _, fun name hstops _ j hruns' => ?_⟩⟩
        rw [hother name hstops] at hruns'
        exact hall.not_runs h hnot j hruns'
  | register watcher =>
    have hother : ∀ name, Stops w (.register watcher) name →
        name = watcher.name ∧ (w.watchers[name]?).isSome = true := by
      rintro name (hsame | hsame | ⟨_, hsame, hname, hsome⟩)
      · cases hsame
      · cases hsame
      · cases hsame
        exact ⟨hname.symm, hsome⟩
    rw [World.call]
    by_cases hruns : ((w.watchers[watcher.name]?).isSome && w.isRunning watcher.name) = true
    · rw [if_pos hruns]
      obtain ⟨hknown, hrest⟩ := h.stopLocked hjoining watcher.name (.registered watcher)
        (fun _ heq => by cases heq; rfl)
      exact ⟨hknown, fun hall => ⟨(hrest hall).1, fun name hstops hnone =>
        (hother name hstops).1 ▸ (hrest hall).2 hnone⟩⟩
    · rw [if_neg hruns]
      refine ⟨⟨h.loops, fun name j hj => ?_, fun name other hget => ?_, h.joining⟩,
        fun hall => ⟨hall, fun name hstops _ j hruns' => ?_⟩⟩
      · rw [Table.get_insert]
        split
        · rfl
        · exact h.registered name j hj
      · rw [Table.get_insert] at hget
        split at hget
        · next heq =>
          obtain rfl := Option.some.inj hget
          exact heq.symm
        · exact h.names name other hget
      · obtain ⟨rfl, hsome⟩ := hother name hstops
        rw [hsome, Bool.true_and, Bool.not_eq_true] at hruns
        exact hall.not_runs h hruns j hruns'
  | start other =>
    have hother : ∀ name, ¬ Stops w (.start other) name := by
      rintro name (hsame | hsame | ⟨_, hsame, -⟩) <;> cases hsame
    rw [World.call]
    cases hwatcher : w.watchers[other]? with
    | none =>
      exact ⟨⟨h.loops, h.registered, h.names, h.joining⟩, fun hall =>
        ⟨hall, fun name hstops => absurd hstops (hother name)⟩⟩
    | some watcher =>
      dsimp only
      by_cases hruns : w.isRunning other = true
      · rw [if_pos hruns]
        exact ⟨h, fun hall => ⟨hall, fun name hstops => absurd hstops (hother name)⟩⟩
      · rw [if_neg hruns]
        obtain ⟨hknown, hall⟩ := h.start hjoining hwatcher (by simpa using hruns)
        exact ⟨hknown, fun hbefore =>
          ⟨hall hbefore, fun name hstops => absurd hstops (hother name)⟩⟩

theorem sameNames_of_move (h : w.step (.move thread move) = some v) :
    v.threads = w.threads ∧ v.watchers = w.watchers ∧ v.joining = w.joining ∧
      (∀ j, v.nameOf j = w.nameOf j) ∧ ∀ name j, v.Runs name j → w.Runs name j := by
  obtain ⟨loop, loop', hloop, halive, hwatcher, rfl⟩ := World.runs_of_move h
  have hlt := (List.getElem?_eq_some_iff.mp hloop).1
  have hget : ∀ j, (w.loops.set thread loop')[j]? =
      if thread = j then some loop' else w.loops[j]? := by
    intro j
    by_cases hj : thread = j
    · subst hj
      simp [hlt]
    · simp [hj]
  refine ⟨rfl, rfl, rfl, fun j => ?_, fun name j hruns => ?_⟩
  · simp only [World.nameOf, hget]
    by_cases hj : thread = j
    · subst hj
      simp [hloop, hwatcher]
    · simp [hj]
  · obtain ⟨other, hother, hothers, hname⟩ := hruns
    simp only [hget] at hother
    by_cases hj : thread = j
    · subst hj
      rw [if_pos rfl] at hother
      obtain rfl := Option.some.inj hother
      exact ⟨loop, hloop, halive, hwatcher ▸ hname⟩
    · rw [if_neg hj] at hother
      exact ⟨other, hother, hothers, hname⟩

/-- **One step** keeps what is known; and if every wait ends after its thread, every running
thread stays known until its watcher is stopped. -/
theorem Known.step (h : Known w) (hstep : w.step label = some v) :
    Known v ∧ (AllKnown w →
      (label = .joined → ∀ join, w.joining = some join → ¬ w.Runs join.name join.thread) →
      AllKnown v ∧ ∀ name, Returns w v name label → ∀ j, ¬ v.Runs name j) := by
  cases label with
  | request request =>
    simp only [World.step] at hstep
    split at hstep
    · cases hstep
      exact ⟨⟨h.loops, h.registered, h.names, h.joining⟩, fun hall _ =>
        ⟨hall, fun name hreturns => hreturns.elim⟩⟩
    · cases hstep
  | next =>
    simp only [World.step] at hstep
    split at hstep
    · next call rest hjoining htodo =>
      cases hstep
      have h' : Known ({ w with todo := rest } : World) :=
        ⟨h.loops, h.registered, h.names, h.joining⟩
      obtain ⟨hknown, hrest⟩ := h'.call hjoining call
      refine ⟨hknown, fun hall _ => ⟨(hrest hall).1, fun name hreturns => ?_⟩⟩
      obtain ⟨hnone, other, rest', hcall, hstops⟩ := hreturns
      rw [htodo] at hcall
      obtain ⟨rfl, -⟩ := List.cons.inj hcall
      exact (hrest hall).2 name hstops hnone
    · cases hstep
  | joined =>
    simp only [World.step] at hstep
    split at hstep
    · next join hjoining =>
      cases hstep
      obtain ⟨hthread, hname⟩ := h.joining join hjoining
      have h' : Known ({ w with joining := none } : World) :=
        ⟨h.loops, h.registered, h.names, fun _ hnone => by cases hnone⟩
      refine ⟨h'.finish rfl hname, fun hall hended => ?_⟩
      have hnone : ∀ j, ¬ w.Runs join.name j := by
        intro j hruns
        obtain rfl := Option.some.inj (hthread.symm.trans (hall join.name j hruns))
        exact hended rfl join hjoining hruns
      have hall' : AllKnown ({ w with joining := none } : World) := hall
      refine ⟨hall'.finish hnone _, fun name hreturns j hruns => ?_⟩
      obtain ⟨other, hother, rfl⟩ := hreturns
      obtain rfl := Option.some.inj (hjoining.symm.trans hother)
      rw [World.Runs, (finish_spec _ _ _).2.1] at hruns
      exact hnone j hruns
    · cases hstep
  | move thread move =>
    obtain ⟨hthreads, hwatchers, hjoining, hnames, hruns⟩ := sameNames_of_move hstep
    refine ⟨⟨fun name j hj => ?_, fun name j hj => ?_, fun name watcher hj => ?_,
      fun join hj => ?_⟩, fun hall _ => ⟨fun name j hj => ?_, fun name hreturns =>
        hreturns.elim⟩⟩
    · rw [← World.nameOf_eq_some, hnames, World.nameOf_eq_some]
      exact h.loops name j (hthreads ▸ hj)
    · rw [hwatchers]
      exact h.registered name j (hthreads ▸ hj)
    · exact h.names name watcher (hwatchers ▸ hj)
    · rw [hthreads]
      exact h.joining join (hjoining ▸ hj)
    · rw [hthreads]
      exact hall name j (hruns name j hj)

/-- The loops that were there are there still, under their names, and none that
had ended runs again. -/
structure Fades (w v : World) : Prop where
  length : w.loops.length ≤ v.loops.length
  nameOf : ∀ i, i < w.loops.length → v.nameOf i = w.nameOf i
  alive : ∀ i, i < w.loops.length → (v.loops[i]?).any Loop.alive = true →
    (w.loops[i]?).any Loop.alive = true

theorem Fades.refl (w : World) : Fades w w := ⟨le_rfl, fun _ _ => rfl, fun _ _ h => h⟩

theorem Fades.trans {u : World} (h : Fades w v) (h' : Fades v u) : Fades w u where
  length := h.length.trans h'.length
  nameOf i hi := (h'.nameOf i (hi.trans_le h.length)).trans (h.nameOf i hi)
  alive i hi halive := h.alive i hi (h'.alive i (hi.trans_le h.length) halive)

theorem fades_of_loops (h : v.loops = w.loops) : Fades w v := by
  refine ⟨(congrArg List.length h).ge, fun i _ => ?_, fun i _ halive => ?_⟩
  · rw [World.nameOf, World.nameOf, h]
  · rwa [h] at halive

theorem fades_signal (w : World) (name : String) : Fades w (w.signal name) := by
  have hsame := sameLoops_signal w name
  refine ⟨?_, fun i _ => (hsame i).1, fun i _ halive => (hsame i).2 ▸ halive⟩
  unfold World.signal
  split
  · simp
  · exact le_rfl

theorem fades_stopLocked (w : World) (name : String) (afterwards : Afterwards) :
    Fades w (w.stopLocked name afterwards) := by
  have hsignal := fades_signal w name
  have hfinish : Fades w ((w.signal name).finish name afterwards) :=
    hsignal.trans (fades_of_loops (finish_spec _ _ _).2.1)
  unfold World.stopLocked
  dsimp only
  split
  · split
    · exact hsignal.trans (fades_of_loops rfl)
    · exact hfinish
  · exact hfinish

theorem fades_call (w : World) (call : Call) : Fades w (w.call call) := by
  cases call with
  | stop name => exact fades_stopLocked w name _
  | unregister name =>
    rw [World.call]
    split
    · exact .refl w
    · split
      · exact fades_stopLocked w name _
      · exact fades_of_loops (finish_spec _ _ _).2.1
  | register watcher =>
    rw [World.call]
    split
    · exact fades_stopLocked w _ _
    · exact fades_of_loops rfl
  | start name =>
    rw [World.call]
    split
    · exact fades_of_loops rfl
    · split
      · exact .refl w
      · refine ⟨by simp, fun i hi => ?_, fun i hi halive => ?_⟩
        · rw [World.nameOf, World.nameOf, List.getElem?_append_left hi]
        · rwa [List.getElem?_append_left hi] at halive

theorem fades_step (h : w.step label = some v) : Fades w v := by
  cases label with
  | request request =>
    simp only [World.step] at h
    split at h
    · cases h
      exact fades_of_loops rfl
    · cases h
  | next =>
    simp only [World.step] at h
    split at h
    · next call rest _ _ =>
      cases h
      have htodo : Fades w ({ w with todo := rest } : World) := fades_of_loops rfl
      exact htodo.trans (fades_call _ call)
    · cases h
  | joined =>
    simp only [World.step] at h
    split at h
    · cases h
      exact fades_of_loops (finish_spec _ _ _).2.1
    · cases h
  | move thread move =>
    obtain ⟨-, -, -, hnames, hruns⟩ := sameNames_of_move h
    obtain ⟨loop, loop', -, -, -, rfl⟩ := World.runs_of_move h
    refine ⟨by simp, fun i _ => hnames i, fun i hi halive => ?_⟩
    obtain ⟨name, hname⟩ : ∃ name, w.nameOf i = some name :=
      ⟨(w.loops.get ⟨i, hi⟩).watcher.name, by simp [World.nameOf, hi]⟩
    exact (World.runs_iff.mp (hruns name i (World.runs_iff.mpr ⟨hnames i ▸ hname, halive⟩))).2

end

section

variable {w v u : World} {labels : List Label} {label : Label} {left right : List Label}

theorem World.run_cons :
    w.run (label :: labels) = some v ↔ ∃ u, w.step label = some u ∧ u.run labels = some v :=
  Option.bind_eq_some_iff

theorem World.run_append (w : World) (left right : List Label) :
    w.run (left ++ right) = (w.run left).bind fun u => u.run right := by
  induction left generalizing w with
  | nil => rfl
  | cons label left ih =>
    rw [List.cons_append, World.run, World.run]
    cases w.step label with
    | none => rfl
    | some u => exact ih u

theorem World.run_through (h : w.run (left ++ label :: right) = some v) :
    ∃ u u', w.run left = some u ∧ u.step label = some u' ∧ u'.run right = some v := by
  rw [World.run_append] at h
  obtain ⟨u, hleft, hrest⟩ := Option.bind_eq_some_iff.mp h
  obtain ⟨u', hstep, hright⟩ := World.run_cons.mp hrest
  exact ⟨u, u', hleft, hstep, hright⟩

theorem fades_run (h : w.run labels = some v) : Fades w v := by
  induction labels generalizing w with
  | nil => exact Option.some.inj h ▸ .refl w
  | cons label rest ih =>
    obtain ⟨u, hstep, hrest⟩ := World.run_cons.mp h
    exact (fades_step hstep).trans (ih hrest)

theorem no_tick_of_ended {i : Nat} (hrun : w.run labels = some v) (hi : i < w.loops.length)
    (hended : (w.loops[i]?).any Loop.alive = false) : Label.move i .beginTick ∉ labels := by
  intro hmem
  obtain ⟨left, right, rfl⟩ := List.append_of_mem hmem
  obtain ⟨u, u', hleft, hstep, -⟩ := World.run_through hrun
  obtain ⟨loop, -, hloop, halive, -, -⟩ := World.runs_of_move hstep
  have hu : (u.loops[i]?).any Loop.alive = true := by rw [hloop]; exact halive
  have hw := (fades_run hleft).alive i hi hu
  rw [hended] at hw
  cases hw

theorem JoinsEnd.cons {label : Label} (h : JoinsEnd w (label :: labels))
    (hstep : w.step label = some u) :
    (label = .joined → ∀ join, w.joining = some join → ¬ w.Runs join.name join.thread) ∧
      JoinsEnd u labels := by
  refine ⟨?_, fun left right u' join hlabels hleft => ?_⟩
  · rintro rfl join hjoining
    exact h [] labels w join rfl rfl hjoining
  · exact h (label :: left) right u' join (congrArg (List.cons label) hlabels)
      (World.run_cons.mpr ⟨u, hstep, hleft⟩)

theorem JoinsEnd.take (h : JoinsEnd w (left ++ right)) : JoinsEnd w left := by
  rintro left' right' u join rfl
  exact h left' (right' ++ right) u join (by simp)

/-- **A run** in which every wait ends after its thread keeps every running
thread known. -/
theorem Known.run (h : Known w) (hrun : w.run labels = some v) :
    Known v ∧ (AllKnown w → JoinsEnd w labels → AllKnown v) := by
  induction labels generalizing w with
  | nil =>
    obtain rfl := Option.some.inj hrun
    exact ⟨h, fun hall _ => hall⟩
  | cons label rest ih =>
    obtain ⟨u, hstep, hrest⟩ := World.run_cons.mp hrun
    obtain ⟨hu, hfirst⟩ := h.step hstep
    obtain ⟨hv, hlater⟩ := ih hu hrest
    refine ⟨hv, fun hall hends => ?_⟩
    obtain ⟨hlabel, hrests⟩ := hends.cons hstep
    exact hlater (hfirst hall hlabel).1 hrests

theorem known_empty : Known {} ∧ AllKnown {} := by
  refine ⟨⟨fun name i hget => ?_, fun name i hget => ?_, fun name watcher hget => ?_,
    fun join hjoin => ?_⟩, fun name i hruns => ?_⟩
  · simp at hget
  · simp at hget
  · simp at hget
  · cases hjoin
  · obtain ⟨loop, hloop, -⟩ := hruns
    simp at hloop

theorem Known.lawful (h : Known w) (hall : AllKnown w) : Lawful w where
  one name i j hi hj := Option.some.inj ((hall name i hi).symm.trans (hall name j hj))
  tells _ name := by
    rw [h.isRunning_iff]
    exact ⟨fun ⟨i, _, hruns⟩ => ⟨i, hruns⟩, fun ⟨i, hruns⟩ => ⟨i, hall name i hruns, hruns⟩⟩

theorem not_lawful_of_joined {join : Join} (hjoining : w.joining = some join)
    (hstep : w.step .joined = some v) (hruns : w.Runs join.name join.thread) : ¬ Lawful v := by
  intro hlawful
  simp only [World.step, hjoining, Option.some.injEq] at hstep
  subst hstep
  obtain ⟨hthreads, hloops, hnone, -⟩ :=
    finish_spec ({ w with joining := none } : World) join.name join.afterwards
  have hrunning := (hlawful.tells hnone join.name).mpr ⟨join.thread, by
    rw [World.Runs, hloops]
    exact hruns⟩
  rw [World.isRunning, hthreads, Table.get_erase, if_pos rfl] at hrunning
  cases hrunning

end

/-- **At most one live loop runs for a watcher name** in every state of a run, exactly when no
wait for a thread runs out before the thread has ended. -/
theorem one_loop_per_name_iff (w : World)
    (hrun : World.run {} labels = some w) :
    ((∀ left right u, labels = left ++ right → World.run {} left = some u → Lawful u) ∧
        Quiet {} labels) ↔
      JoinsEnd {} labels := by
  obtain ⟨hknown, hall⟩ := known_empty
  constructor
  · rintro ⟨hlawful, -⟩ left right u join rfl hleft hjoining hruns
    obtain ⟨u', v, hleft', hstep, -⟩ := World.run_through hrun
    obtain rfl := Option.some.inj (hleft.symm.trans hleft')
    refine not_lawful_of_joined hjoining hstep hruns (hlawful (left ++ [.joined]) right v ?_ ?_)
    · simp
    · rw [World.run_append, hleft]
      exact World.run_cons.mpr ⟨v, hstep, rfl⟩
  · refine fun hends => ⟨?_, ?_⟩
    · rintro left right u rfl hleft
      obtain ⟨hu, hkept⟩ := hknown.run hleft
      exact hu.lawful (hkept hall hends.take)
    · rintro left label right u v rfl hleft hstep name hreturns i loop hloop hname
      obtain ⟨u', v', hleft', hstep', hright⟩ := World.run_through hrun
      obtain rfl := Option.some.inj (hleft.symm.trans hleft')
      obtain rfl := Option.some.inj (hstep.symm.trans hstep')
      obtain ⟨hu, hkept⟩ := hknown.run hleft
      have hnone := ((hu.step hstep).2 (hkept hall hends.take) ?_).2 name hreturns i
      · refine no_tick_of_ended hright (List.getElem?_eq_some_iff.mp hloop).1 ?_
        rw [hloop]
        by_contra halive
        exact hnone ⟨loop, hloop, by simpa using halive, hname⟩
      · rintro rfl join hjoining
        exact hends left right u join rfl hleft hjoining

def stoppedInTick : List Label :=
  [.request (.one (.register ⟨"kubernetes", "kubernetes_deployment", 30⟩)), .next,
    .request (.one (.start "kubernetes")), .next,
    .move 0 (.wake false), .move 0 .look, .move 0 .beginTick,
    .request (.one (.stop "kubernetes")), .next]

/-- The tick ends while the stop waits for it, and the watcher is started
again. -/
theorem one_loop_per_name_stopped :
    ∃ w, World.run {} (stoppedInTick ++ [.move 0 (.endTick true), .move 0 (.wake true)] ++
        .joined :: [.request .startAll, .next]) = some w ∧
      w.isRunning "kubernetes" = true ∧ Lawful w := by
  obtain ⟨w, hrun⟩ := Option.isSome_iff_exists.mp (show (World.run {} (stoppedInTick ++
    [.move 0 (.endTick true), .move 0 (.wake true)] ++
      .joined :: [.request .startAll, .next])).isSome = true by decide +kernel)
  have hends : JoinsEnd {} (stoppedInTick ++ [.move 0 (.endTick true), .move 0 (.wake true)] ++
      .joined :: [.request .startAll, .next]) := by
    intro left right u join hlabels hleft hjoining hruns
    obtain ⟨rfl, -, -⟩ := (List.append_cons_inj_of_notMem (by decide) (by decide)).mp hlabels
    have hended : ∀ u ∈ World.run {}
        (stoppedInTick ++ [.move 0 (.endTick true), .move 0 (.wake true)]),
        ∀ join ∈ u.joining, (u.loops[join.thread]?).any Loop.alive = false := by
      decide +kernel
    have halive := (World.runs_iff.mp hruns).2
    rw [hended u hleft join hjoining] at halive
    cases halive
  have hlawful := ((one_loop_per_name_iff _ w hrun).mpr hends).1 _ [] w
    (List.append_nil _).symm hrun
  refine ⟨w, hrun, ?_, hlawful⟩
  have htells : ∀ w ∈ World.run {} (stoppedInTick ++
      [.move 0 (.endTick true), .move 0 (.wake true)] ++
        .joined :: [.request .startAll, .next]), w.isRunning "kubernetes" = true := by
    decide +kernel
  exact htells w hrun

/-- A tick that outlasts the wait: the thread is forgotten while it runs, and a
second one is started beside it. -/
theorem forgotten_thread_runs_on :
    ¬ ∀ (labels : List Label) (w : World), World.run {} labels = some w →
      (∀ left right u, labels = left ++ right → World.run {} left = some u → Lawful u) ∧
        Quiet {} labels := by
  intro hclaim
  obtain ⟨w, hrun⟩ := Option.isSome_iff_exists.mp (show (World.run {} (stoppedInTick ++
    [.joined, .request .startAll, .next])).isSome = true by decide +kernel)
  have hlawful := (hclaim _ w hrun).1 _ [] w (List.append_nil _).symm hrun
  have hboth : ∀ w ∈ World.run {} (stoppedInTick ++ [.joined, .request .startAll, .next]),
      ∀ i ∈ [0, 1], w.nameOf i = some "kubernetes" ∧ (w.loops[i]?).any Loop.alive = true := by
    decide +kernel
  have hruns : ∀ i ∈ [0, 1], w.Runs "kubernetes" i := fun i hi =>
    World.runs_iff.mpr (hboth w hrun i hi)
  have hsame := hlawful.one "kubernetes" 0 1 (hruns 0 (by decide)) (hruns 1 (by decide))
  cases hsame

end OrbitalMesh.Watchers
