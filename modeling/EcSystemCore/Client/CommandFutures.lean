import EcSystemCore.Protocol.Framing

/-!
# The futures of the commands of the Java and Python clients

Both clients keep a command in a bounded queue until their worker takes it, then as a
pending request of the current transport until it is answered, and then hand its future to
a completion executor.  A future holds a slot from its creation until it is retired.  The
functions here are those of `SystemCoreClient.java` and `client.py` that move a future from
one of these places to another; the two clients differ in nothing that they do.

An exception handed to a future is its message.  Deadlines are not kept: which requests have
expired is given.  `requestReconnect` makes the worker end its session, which it may do at
any time, and so is not modelled.
-/

namespace EcSystemCore

/-- `CommandKind`. -/
inductive CommandKind where
  | heartbeat | enable | disable | write | release | generic
  deriving DecidableEq, Repr

/-- A disable or a release. -/
def CommandKind.safety (kind : CommandKind) : Bool := kind = .disable || kind = .release

/-- How a future ends. -/
inductive FutureOutcome where
  | acknowledged (status : AckStatus) (detail : ℤ)
  | failed (message : String)
  | cancelled
  deriving DecidableEq, Repr

/-- `IsolatedFuture`, `_CommandFuture`. -/
structure CommandFuture where
  outcome : Option FutureOutcome := none
  retired : Bool := false
  deriving DecidableEq, Repr

/-- `Command`, `_Command`.  A command without a result comes from `tryWriteOutput`; `call` is
the call that made the command. -/
structure Command (ε : Type) where
  generation : ℕ
  epoch : ε
  type : MessageType
  payload : Bytes
  kind : CommandKind
  result : Option ℕ
  call : ℕ
  deriving DecidableEq, Repr

/-- `PendingRequest`, `_Pending`. -/
structure PendingRequest (ε : Type) where
  kind : CommandKind
  result : Option ℕ
  generation : ℕ
  epoch : ε
  deriving DecidableEq, Repr

/-- The futures of a client, and the places they are in.  A future is known by its place in
the order of their creation. -/
structure CommandFutures (ε : Type) where
  /-- `maximumQueuedCommands`. -/
  capacity : ℕ
  commands : List (Command ε) := []
  /-- `transport.pending`. -/
  pending : List (UInt32 × PendingRequest ε) := []
  futures : List CommandFuture := []
  futureSlots : ℕ
  /-- The tasks of the completion executor. -/
  completions : List (ℕ × FutureOutcome) := []
  completionsClosed : Bool := false
  deriving DecidableEq, Repr

namespace CommandFutures

variable {ε : Type}

/-- A client without futures. -/
def new (capacity : ℕ) : CommandFutures ε := { capacity, futureSlots := 2 * capacity }

/-! ### One future -/

/-- `isDone`. -/
def isDone (client : CommandFutures ε) (future : ℕ) : Bool :=
  client.futures[future]?.any (·.outcome.isSome)

/-- `isCancelled`. -/
def isCancelled (client : CommandFutures ε) (future : ℕ) : Bool :=
  client.futures[future]?.any (·.outcome = some .cancelled)

/-- A future that is not done gets an outcome. -/
def finish (client : CommandFutures ε) (future : ℕ) (outcome : FutureOutcome) :
    CommandFutures ε :=
  { client with futures := client.futures.modify future fun value =>
      { value with outcome := value.outcome <|> some outcome } }

/-- `retire`. -/
def retire (client : CommandFutures ε) (future : ℕ) : CommandFutures ε :=
  if client.futures[future]?.any (!·.retired) then
    { client with
      futures := client.futures.modify future fun value => { value with retired := true }
      futureSlots := client.futureSlots + 1 }
  else client

/-- `complete` and `completeExceptionally` of the future, `set_result` and `set_exception`. -/
def settle (client : CommandFutures ε) (future : ℕ) (outcome : FutureOutcome) :
    CommandFutures ε :=
  (client.finish future outcome).retire future

/-- `cancel`, by the caller. -/
def cancel (client : CommandFutures ε) (future : ℕ) : CommandFutures ε :=
  client.finish future .cancelled

/-- `futureSlots.tryAcquire` and the new future. -/
def create (client : CommandFutures ε) : Option (ℕ × CommandFutures ε) :=
  if client.futureSlots = 0 then none
  else some (client.futures.length, { client with
    futures := client.futures ++ [{}]
    futureSlots := client.futureSlots - 1 })

/-! ### From one place to another -/

/-- `complete` and `completeExceptionally` of the client. -/
def handOver (client : CommandFutures ε) (result : Option ℕ) (outcome : FutureOutcome) :
    CommandFutures ε :=
  match result with
  | none => client
  | some future =>
    if client.isDone future then client.retire future
    else if client.completionsClosed || client.completions.length ≥ 2 * client.capacity then
      -- `RejectedExecutionException`
      client.retire future
    else { client with completions := client.completions ++ [(future, outcome)] }

/-- A thread of the completion executor runs a task. -/
def runCompletion (client : CommandFutures ε) (index : ℕ) : Option (CommandFutures ε) :=
  (client.completions[index]?).map fun task =>
    { client with completions := client.completions.eraseIdx index }.settle task.1 task.2

/-- `commands.offer`. -/
def offer (client : CommandFutures ε) (command : Command ε) : Bool × CommandFutures ε :=
  if client.commands.length < client.capacity then
    (true, { client with commands := client.commands ++ [command] })
  else (false, client)

/-- `commands.poll`. -/
def poll (client : CommandFutures ε) : Option (Command ε × CommandFutures ε) :=
  match client.commands with
  | [] => none
  | command :: commands => some (command, { client with commands })

/-- A turn of `failQueuedCommands`. -/
def failCommand (client : CommandFutures ε) (message : String) : Option (CommandFutures ε) :=
  client.poll.map fun (command, client) => client.handOver command.result (.failed message)

/-- `pending.put`. -/
def putPending (client : CommandFutures ε) (requestId : UInt32) (request : PendingRequest ε) :
    CommandFutures ε :=
  { client with pending := client.pending.filter (·.1 ≠ requestId) ++ [(requestId, request)] }

/-- `pending.remove`. -/
def removePending (client : CommandFutures ε) (requestId : UInt32) :
    Option (PendingRequest ε × CommandFutures ε) :=
  (client.pending.find? (·.1 = requestId)).map fun entry =>
    (entry.2, { client with pending := client.pending.eraseP (·.1 = requestId) })

/-- The loop of `expireRequests` over the requests that have expired. -/
def expirePending (client : CommandFutures ε) (message : String) :
    List UInt32 → CommandFutures ε
  | [] => client
  | requestId :: requestIds =>
    match client.removePending requestId with
    | none => client.expirePending message requestIds
    | some (request, client) =>
      (client.handOver request.result (.failed message)).expirePending message requestIds

/-- The loop of `failPending` over entries of `pending`. -/
def failEntries (client : CommandFutures ε) (message : String) :
    List (UInt32 × PendingRequest ε) → CommandFutures ε
  | [] => client
  | entry :: entries =>
    (client.handOver entry.2.result (.failed message)).failEntries message entries

/-- `failPending`. -/
def failPending (client : CommandFutures ε) (message : String) : CommandFutures ε :=
  { client.failEntries message client.pending with pending := [] }

end CommandFutures

end EcSystemCore
