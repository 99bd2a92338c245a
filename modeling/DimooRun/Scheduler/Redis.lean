/-
  Scheduler/Redis.lean --- the Redis task backend.

  Source: scheduler/redis_backend.py.

  A method is a program of Redis commands. The server keeps a hash for every task, a
  sorted set of task ids for every queue, the counter of the ids and the list of dead
  letters. A method reads a whole hash, works on the dictionary it got, and writes the
  whole dictionary back; only the lease script does all of this in one command.

  Values are kept decoded. A field that not every task has is `none` while the hash has
  no such field, and a `null` is a value. HSET writes the fields it is given, so a field
  that the writer did not have stays. Scores are the values of doubles; how a score is
  computed is left open (`score`).
-/
import Mathlib.Data.Rat.Defs
import Mathlib.Algebra.Order.Ring.Unbundled.Rat
import DimooRun.Foundation.Commands
import DimooRun.Scheduler.InMemory

set_option autoImplicit false

namespace DimooRun.Scheduler

open Foundation DimooRun.Runtime
open Domain (RowOrder)

/-- The hash of a task. -/
structure TaskHash where
  taskId : Int
  runId : Option Int := none
  queue : String
  priority : Int
  status : TaskStatus
  attempt : Int
  maxAttempts : Int
  fencingToken : Int
  createdAt : Time
  scheduledAt : Option (Option Time) := none
  workerId : Option (Option String) := none
  leasedUntil : Option (Option Time) := none
  heartbeatAt : Option Time := none
  startedAt : Option Time := none
  finishedAt : Option Time := none
  error : Option PyDict := none
  deadLetterReason : Option String := none

/-- What a call of the Redis backend raises. -/
inductive RedisError where
  | task (error : TaskError)
  /-- the lease script compares a `null` to a text -/
  | response
  /-- `TypeError`: the encoder refuses the dead letter -/
  | encoding
  deriving DecidableEq, Repr

/-! ## Methods on one task -/

/-- A computation over the dictionary of a task. -/
abbrev HashM : Type → Type := EStateM TaskError TaskHash

namespace TaskHash

/-- `task.get("worker_id")`. -/
def owner (task : TaskHash) : Option String := task.workerId.join

/-- `_parse_dt(task.get("leased_until"))`. -/
def leaseEnd (task : TaskHash) : Option Time := task.leasedUntil.join

/-- `_parse_dt(task.get("scheduled_at"))`. -/
def dueAt (task : TaskHash) : Option Time := task.scheduledAt.join

/-- `assert_task_transition(task["status"], target)`. -/
def transition (target : TaskStatus) : HashM Unit := do
  match assertTaskTransition (← get).status target with
  | .ok _ => pure ()
  | .error e => throw (.invalidTransition e)

/-- `task["status"] = status`. -/
def setStatus (status : TaskStatus) : HashM Unit :=
  modify fun task => { task with status := status }

section

variable (workerId : String) (fencingToken : Int) (error : PyDict) (message : String) (now : Time)

/-- `_assert_fencing_token`. -/
def assertFencingToken : HashM Unit := do
  let task ← get
  if task.fencingToken ≠ fencingToken then
    throw (.staleFencingToken task.taskId)

/-- `_assert_owner`. -/
def assertOwner : HashM Unit := do
  let task ← get
  if task.owner ≠ some workerId then
    throw (.taskLease task.taskId workerId)

/-- The part of `heartbeat` between the commands. -/
def heartbeat (leaseSeconds : Int) (now : Time) : HashM Unit := do
  assertOwner workerId
  modify fun task =>
    { task with
      heartbeatAt := some now
      leasedUntil := some (some (now + seconds leaseSeconds)) }

/-- A leased task is stepped to running first. -/
def stepToRunning : HashM Unit := do
  if (← get).status = .leased then
    transition .running
    setStatus .running

/-- The part of `complete` between the commands. -/
def complete : HashM Unit := do
  assertFencingToken fencingToken
  assertOwner workerId
  stepToRunning
  transition .succeeded
  setStatus .succeeded
  modify fun task => { task with finishedAt := some now, leasedUntil := some none }

/-- The part of `fail` between the commands; `message` is `_error_message(error)`. The
result tells whether the task was dead-lettered. -/
def fail : HashM Bool := do
  assertFencingToken fencingToken
  assertOwner workerId
  stepToRunning
  transition .failed
  setStatus .failed
  modify fun task => { task with error := some error }
  let task ← get
  if task.attempt + 1 ≥ task.maxAttempts then
    transition .deadLetter
    setStatus .deadLetter
    modify fun task =>
      { task with
        deadLetterReason := some message
        finishedAt := some now
        leasedUntil := some none }
    return true
  transition .retrying
  setStatus .retrying
  modify fun task =>
    { task with attempt := task.attempt + 1, workerId := some none, leasedUntil := some none }
  transition .queued
  setStatus .queued
  return false

/-- The part of `cancel` between the commands. -/
def cancel : HashM Unit := do
  stepToRunning
  transition .cancelled
  setStatus .cancelled
  modify fun task => { task with finishedAt := some now }

/-- The part of `mark_running` between the commands. -/
def markRunning : HashM Unit := do
  assertFencingToken fencingToken
  assertOwner workerId
  transition .running
  setStatus .running
  modify fun task => { task with startedAt := task.startedAt.or (some now) }

/-- The reaper takes the task. -/
def Expired (task : TaskHash) : Prop :=
  (task.status = .leased ∨ task.status = .running) ∧
    ∃ leasedUntil, task.leaseEnd = some leasedUntil ∧ leasedUntil < now

end

instance (now : Time) (task : TaskHash) : Decidable (task.Expired now) :=
  match h : task.leaseEnd with
  | none => .isFalse (by simp [Expired, h])
  | some leasedUntil =>
      decidable_of_iff ((task.status = .leased ∨ task.status = .running) ∧ leasedUntil < now)
        (by simp [Expired, h])

/-- The part of the reaper's loop between the commands; the result tells whether the task
was dead-lettered. -/
def reap : HashM Bool := do
  let task ← get
  if task.status = .running then
    if task.attempt + 1 ≥ task.maxAttempts then
      transition .deadLetter
      setStatus .deadLetter
      modify fun task =>
        { task with
          deadLetterReason := some "lease_expired"
          workerId := some none
          leasedUntil := some none }
      return true
    transition .retrying
    setStatus .retrying
    modify fun task => { task with attempt := task.attempt + 1 }
  transition .queued
  setStatus .queued
  modify fun task => { task with workerId := some none, leasedUntil := some none }
  return false

/-- The task is to be left for later. -/
def NotYet (now : Time) (task : TaskHash) : Prop :=
  ∃ dueAt, task.dueAt = some dueAt ∧ now < dueAt

instance (now : Time) (task : TaskHash) : Decidable (task.NotYet now) :=
  match h : task.dueAt with
  | none => .isFalse (by simp [NotYet, h])
  | some dueAt => decidable_of_iff (now < dueAt) (by simp [NotYet, h])

/-- The task with a new lease. -/
def leased (workerId : String) (leasedUntil now : Time) (task : TaskHash) : TaskHash :=
  { task with
    status := .leased
    workerId := some (some workerId)
    leasedUntil := some (some leasedUntil)
    heartbeatAt := some now
    fencingToken := task.fencingToken + 1 }

/-- HSET of a dictionary over a hash: fields that the dictionary lacks stay. -/
def merge (old new : TaskHash) : TaskHash :=
  { new with
    runId := new.runId.or old.runId
    scheduledAt := new.scheduledAt.or old.scheduledAt
    workerId := new.workerId.or old.workerId
    leasedUntil := new.leasedUntil.or old.leasedUntil
    heartbeatAt := new.heartbeatAt.or old.heartbeatAt
    startedAt := new.startedAt.or old.startedAt
    finishedAt := new.finishedAt.or old.finishedAt
    error := new.error.or old.error
    deadLetterReason := new.deadLetterReason.or old.deadLetterReason }

end TaskHash

/-! ## The server -/

/-- The keys of the backend. -/
structure RedisStore where
  taskIdSeq : Int
  tasks : Dict Int TaskHash
  queues : Dict String (Dict Int ℚ)
  deadLetters : List (Int × PyDict)

/-- The commands that the backend sends. -/
inductive RedisCommand where
  | incr
  | hgetall (taskId : Int)
  | hset (taskId : Int) (task : TaskHash)
  | zadd (queue : String) (taskId : Int) (score : ℚ)
  | zrem (queue : String) (taskId : Int)
  | zrange (queue : String)
  | keys (order : RowOrder)
  | rpush (taskId : Int) (error : PyDict)
  | publish (taskId : Int)
  | evalLease (queue workerId : String) (leasedUntil now : Time)

/-- What the server answers. -/
abbrev RedisCommand.Answer : RedisCommand → Type
  | incr => Int
  | hgetall _ => Option TaskHash
  | zrange _ => List Int
  | keys _ => List Int
  | evalLease _ _ _ _ => Except RedisError (Option TaskHash)
  | _ => Unit

namespace RedisStore

/-- No keys. -/
def empty : RedisStore := ⟨0, .empty, .empty, []⟩

section

variable (store : RedisStore) (name : String) (taskId : Int)

/-- The sorted set of a queue. -/
def queue : Dict Int ℚ :=
  (store.queues.get? name).getD .empty

/-- The order of a sorted set: by score, and by the text of the member. -/
def MemberLE (a b : Int × ℚ) : Prop :=
  a.2 < b.2 ∨ (a.2 = b.2 ∧ toString a.1 ≤ toString b.1)

instance (a b : Int × ℚ) : Decidable (MemberLE a b) := inferInstanceAs (Decidable (_ ∨ _))

/-- `ZRANGE key 0 -1`. -/
def members : List Int :=
  ((store.queue name).entries.insertionSort MemberLE).map Prod.fst

/-- HSET. -/
def putTask (task : TaskHash) : RedisStore :=
  { store with
    tasks :=
      store.tasks.set taskId
        (match store.tasks.get? taskId with
        | none => task
        | some old => old.merge task) }

/-- ZADD. -/
def addMember (score : ℚ) : RedisStore :=
  { store with queues := store.queues.set name ((store.queue name).set taskId score) }

/-- ZREM. -/
def removeMember : RedisStore :=
  { store with queues := store.queues.set name ((store.queue name).erase taskId) }

end

/-- The day of a time stamp. -/
def day (t : Time) : Int := t / 86400000000

/-- The comparison of the lease script. It compares texts: the stored one has a blank
between date and time (`str` of a datetime), the present one a `T` (`isoformat`), so two
times of one day compare as the blank and the `T` do, whatever the time of the day. -/
def TextLE (scheduledAt now : Time) : Prop := day scheduledAt ≤ day now

instance (scheduledAt now : Time) : Decidable (TextLE scheduledAt now) :=
  inferInstanceAs (Decidable (_ ≤ _))

/-- The loop of the lease script. -/
def scriptLoop (store : RedisStore) (name workerId : String) (leasedUntil now : Time) :
    List Int → Except RedisError (Option TaskHash) × RedisStore
  | [] => (.ok none, store)
  | taskId :: rest =>
      match store.tasks.get? taskId with
      | none => scriptLoop store name workerId leasedUntil now rest
      | some task =>
          if task.status ≠ .queued then scriptLoop store name workerId leasedUntil now rest
          else
            match task.scheduledAt with
            | some none => (.error .response, store)
            | some (some scheduledAt) =>
                if TextLE scheduledAt now then
                  let task' := task.leased workerId leasedUntil now
                  (.ok (some task'),
                    { store with tasks := store.tasks.set taskId task' }.removeMember name taskId)
                else scriptLoop store name workerId leasedUntil now rest
            | none =>
                let task' := task.leased workerId leasedUntil now
                (.ok (some task'),
                  { store with tasks := store.tasks.set taskId task' }.removeMember name taskId)

/-- One command. -/
def exec : (command : RedisCommand) → RedisStore → command.Answer × RedisStore
  | .incr, store => (store.taskIdSeq + 1, { store with taskIdSeq := store.taskIdSeq + 1 })
  | .hgetall taskId, store => (store.tasks.get? taskId, store)
  | .hset taskId task, store => ((), store.putTask taskId task)
  | .zadd name taskId score, store => ((), store.addMember name taskId score)
  | .zrem name taskId, store => ((), store.removeMember name taskId)
  | .zrange name, store => (store.members name, store)
  | .keys order, store => (order.arrange store.tasks.keys, store)
  | .rpush taskId error, store =>
      ((), { store with deadLetters := store.deadLetters ++ [(taskId, error)] })
  | .publish _, store => ((), store)
  | .evalLease name workerId leasedUntil now, store =>
      store.scriptLoop name workerId leasedUntil now (store.members name)

end RedisStore

/-! ## Methods of the backend -/

/-- A method. -/
abbrev RedisM : Type → Type := Program RedisCommand RedisCommand.Answer RedisError

namespace RedisTaskBackend

open Program RedisCommand

/-- `_task`. -/
def task (taskId : Int) : RedisM TaskHash := do
  match ← ask (hgetall taskId) with
  | none => raised (.task (.keyError taskId))
  | some task => pure task

/-- Work on the dictionary: the result, and the dictionary afterwards. -/
def work {α : Type} (act : HashM α) (task : TaskHash) : RedisM (α × TaskHash) :=
  match act.run task with
  | .ok a task' => done (a, task')
  | .error e _ => raised (.task e)

section

variable (score : Int → Time → ℚ)

/-- `_queue_score`. -/
def queueScore (task : TaskHash) : ℚ := score task.priority task.createdAt

/-- The record that `enqueue` stores. -/
def record (now : Time) (input : TaskInput) (taskId : Int) : TaskHash :=
  { taskId := taskId
    runId := input.runId
    queue := input.queue.getD "default"
    priority := input.priority.getD 0
    status := .queued
    attempt := input.attempt.getD 0
    maxAttempts := input.maxAttempts.getD 3
    fencingToken := 0
    createdAt := input.createdAt.getD now
    scheduledAt :=
      match input.scheduledAt with
      | some scheduledAt => some (some scheduledAt)
      | none => if input.scheduledAtNone then some none else none }

/-- `int(task.get("task_id") or await self._next_task_id())`. -/
def idFor (input : TaskInput) : RedisM Int :=
  match input.taskId with
  | none => ask incr
  | some taskId => if taskId = 0 then ask incr else pure taskId

section

variable (scripts : Bool) (now reapNow : Time) (order : RowOrder) (queue workerId : String)
  (leaseSeconds : Int)

/-- `enqueue`. -/
def enqueue (input : TaskInput) : RedisM Int := do
  let taskId ← idFor input
  ask (hset taskId (record now input taskId))
  ask (zadd (record now input taskId).queue taskId (queueScore score (record now input taskId)))
  pure taskId

/-- The body of the reaper's loop, for the tasks of one queue; the result is what it adds
to the count. -/
def reapTask (taskId : Int) : RedisM Nat := do
  let found ← task taskId
  if found.queue ≠ queue then
    pure 0
  else if ¬ found.Expired now then
    pure 0
  else do
    let (dead, reaped) ← work TaskHash.reap found
    ask (hset reaped.taskId reaped)
    if dead then
      pure 1
    else do
      ask (zadd reaped.queue reaped.taskId (queueScore score reaped))
      pure 1

/-- The reaper's loop. -/
def reapEach (now : Time) (queue : String) : List Int → RedisM Nat
  | [] => pure 0
  | taskId :: rest => do
      let count ← reapTask score now queue taskId
      let counts ← reapEach now queue rest
      pure (count + counts)

/-- `reap_expired_leases`; without a queue it is that of `_known_queues`. -/
def reapExpiredLeases (queue : Option String) : RedisM Nat := do
  let taskIds ← ask (keys order)
  reapEach score now (queue.getD "default") taskIds

/-- The loop of `lease` over the sorted set, for a client without scripts or when the
script found nothing. -/
def leaseEach (now : Time) (queue workerId : String) (leaseSeconds : Int) :
    List Int → RedisM (Option TaskHash)
  | [] => pure none
  | taskId :: rest => do
      let found ← task taskId
      if found.status ≠ .queued then
        leaseEach now queue workerId leaseSeconds rest
      else if found.NotYet now then
        leaseEach now queue workerId leaseSeconds rest
      else do
        let leased := found.leased workerId (now + seconds leaseSeconds) now
        ask (hset leased.taskId leased)
        ask (zrem queue leased.taskId)
        pure (some leased)

/-- `_lease_with_eval`; `scripts` tells whether the client has `eval`. -/
def leaseWithEval : RedisM (Option TaskHash) :=
  if scripts then do
    match ← ask (evalLease queue workerId (now + seconds leaseSeconds) now) with
    | .ok leased => pure leased
    | .error e => raised e
  else pure none

/-- `lease`. -/
def lease : RedisM (Option TaskHash) := do
  let _ ← reapExpiredLeases score reapNow order (some queue)
  match ← leaseWithEval scripts now queue workerId leaseSeconds with
  | some leased => pure (some leased)
  | none => do
      let taskIds ← ask (zrange queue)
      leaseEach now queue workerId leaseSeconds taskIds

end

section

variable (now : Time) (taskId : Int) (workerId : String) (fencingToken : Int)

/-- `heartbeat`. -/
def heartbeat (leaseSeconds : Int) : RedisM Unit := do
  let found ← task taskId
  let (_, written) ← work (TaskHash.heartbeat workerId leaseSeconds now) found
  ask (hset taskId written)

/-- `complete`. -/
def complete : RedisM Unit := do
  let found ← task taskId
  let (_, written) ← work (TaskHash.complete workerId fencingToken now) found
  ask (hset taskId written)

/-- `fail`. -/
def fail (error : PyDict) (message : String) : RedisM Unit := do
  let found ← task taskId
  let (dead, written) ← work (TaskHash.fail workerId fencingToken error message now) found
  ask (hset taskId written)
  if dead then
    -- the hash is written; `json.dumps` has no default here
    if (PyValue.dict error).Encodable then ask (rpush taskId error) else raised .encoding
  else
    ask (zadd written.queue taskId (queueScore score written))

/-- `cancel`. -/
def cancel : RedisM Unit := do
  let found ← task taskId
  let (_, written) ← work (TaskHash.cancel now) found
  ask (hset taskId written)
  ask (zrem written.queue taskId)
  ask (publish taskId)

/-- `mark_running`. -/
def markRunning : RedisM Unit := do
  let found ← task taskId
  let (_, written) ← work (TaskHash.markRunning workerId fencingToken now) found
  ask (hset taskId written)

end

/-- The method behind a call; `str` is the text of a value. -/
def method (str : PyValue → String) (scripts : Bool) : DurableCall → RedisM (DurableReply TaskHash)
  | .enqueue now input => do
      let taskId ← enqueue score now input
      pure (.enqueued taskId)
  | .lease now reapNow _ reapOrder queue workerId leaseSeconds => do
      let leased ← lease score scripts now reapNow reapOrder queue workerId leaseSeconds
      pure (.leased leased)
  | .heartbeat now taskId workerId leaseSeconds => do
      heartbeat now taskId workerId leaseSeconds
      pure .done
  | .markRunning now taskId workerId fencingToken => do
      markRunning now taskId workerId fencingToken
      pure .done
  | .complete now taskId workerId fencingToken => do
      complete now taskId workerId fencingToken
      pure .done
  | .fail now taskId workerId fencingToken error => do
      fail score now taskId workerId fencingToken error (errorMessage str error)
      pure .done
  | .cancel now taskId => do
      cancel now taskId
      pure .done
  | .reapExpiredLeases now order queue => do
      let count ← reapExpiredLeases score now order queue
      pure (.reaped count)

end

end RedisTaskBackend

end DimooRun.Scheduler
