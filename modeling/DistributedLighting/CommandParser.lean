import DistributedLighting.CommandRelay
import DistributedLighting.LastMinuteBuffer
import DistributedLighting.StringConversions

namespace DistributedLighting

open Std.Do

set_option mvcgen.warning false

/-!
# The lines that users type

`Commands::interpretCommand` checks a line by hand and throws `input_exception`
wherever it finds a mistake.  Below it, exceptions and the members of the server are
carried through the functions as they are called.
-/

/-- A `std::mutex` in one thread: locking it twice and unlocking it unlocked are undefined. -/
inductive Mutex where
  | unlocked
  | locked
  | undefined
  deriving DecidableEq

/-- `std::mutex::lock` -/
def Mutex.lock : Mutex → Mutex
  | .unlocked => .locked
  | .locked | .undefined => .undefined

/-- `std::mutex::unlock` -/
def Mutex.unlock : Mutex → Mutex
  | .locked => .unlocked
  | .unlocked | .undefined => .undefined

/-- `activeStreams`: for a node and a client, whether duty cycle and illuminance are streamed. -/
abbrev ActiveStreams (Client : Type) :=
  Byte → Option Client → Option (Bool × Bool)

/-- The members of `Server` that `interpretCommand` uses; no client is the console. -/
structure CommandedServer (K Client : Type) where
  mtxNodeIds : Mutex
  nodeIds : List Int
  lastMinuteBuffer : LastMinuteBuffer K
  activeStreams : ActiveStreams Client
  fileName : String
  writingToFile : Bool
  millisFileWritingStated : Int

/-- What is written to `textOutputStream`. -/
inductive TextOutput (K : Type) where
  | line (text : String)
  /-- A message with the line that it is about. -/
  | quoted (text : String) (line : List Byte)
  /-- `e.what()` -/
  | what (exception : StdException)
  | sample (printed : PrintedSample K)

/-- The server, and what has been written to `textOutputStream`. -/
structure CommandsState (K Client : Type) where
  server : CommandedServer K Client
  textOutputStream : List (TextOutput K)

/-- A computation of `Commands`, which may throw. -/
abbrev Commands (K Client : Type) :=
  ExceptT StdException (StateM (CommandsState K Client))

namespace Commands

variable {K Client : Type}

/-- Throw an `input_exception`. -/
def throwInput
    {Value : Type}
    (message : String) : Commands K Client Value :=
  throw (.input message)

/-- The result of a function of the standard library. -/
def ofExcept
    {Value : Type} : Except StdException Value → Commands K Client Value
  | .ok value => pure value
  | .error exception => throw exception

/-- Change the server. -/
def modifyServer
    (change : CommandedServer K Client → CommandedServer K Client) :
    Commands K Client Unit :=
  modify fun state => { state with server := change state.server }

/-- `textOutputStream << … << endl` -/
def write (outputs : List (TextOutput K)) : Commands K Client Unit :=
  modify fun state =>
    { state with textOutputStream := state.textOutputStream ++ outputs }

/-- `server->mtxNodeIds.lock()` -/
def lockNodeIds : Commands K Client Unit :=
  modifyServer fun server =>
    { server with mtxNodeIds := server.mtxNodeIds.lock }

/-- `server->mtxNodeIds.unlock()` -/
def unlockNodeIds : Commands K Client Unit :=
  modifyServer fun server =>
    { server with mtxNodeIds := server.mtxNodeIds.unlock }

/-- `std::string::substr` -/
def substr
    (data : List Byte)
    (position count : Nat) : Except StdException (List Byte) :=
  if position ≤ data.length then
    .ok ((data.drop position).take count)
  else
    .error .outOfRange

/-- `data.find(' ', position)` -/
def findSpace
    (data : List Byte)
    (position : Nat) : Option Nat :=
  ((data.drop position).findIdx? fun character => character = byteOf ' ').map
    fun index => position + index

/-- `arguments` of `checkGetArguments` -/
def arguments : List Byte :=
  "IdoOULxrcptevf".toList.map byteOf

/-- `argumentsWithT` of `checkGetArguments` -/
def argumentsWithT : List Byte :=
  "pevf".toList.map byteOf

/-- The character at a position below the length, or the terminator. -/
def charAt
    (data : List Byte)
    (position : Nat) : Byte :=
  data.getD position 0

/-- `line.rfind(text, 0) == 0` -/
def beginsWith
    (text : String)
    (line : List Byte) : Bool :=
  (text.toList.map byteOf).isPrefixOf line

/-- `Commands::commandGetDestination` -/
def commandGetDestination
    (substring : List Byte) : Commands K Client Byte := do
  let destination ←
    try
      ofExcept (stoi substring)
    catch _ =>
      throwInput "Destination must be an integer"
  if destination > 255 ∨ destination ≤ 0 then
    throwInput "Invalid destination"
  else
    lockNodeIds
    let state ← get
    if destination ∉ state.server.nodeIds then
      unlockNodeIds
      throwInput ("Destination ID " ++ toString destination ++ " not present")
    else
      unlockNodeIds
      return BitVec.ofInt 8 destination

/-- `Commands::checkGetArguments` -/
def checkGetArguments (data : List Byte) : Commands K Client Byte := do
  if data.length < 5 ∨ charAt data 3 ≠ byteOf ' ' then
    throwInput "Invalid command"
  else if arguments.contains (charAt data 2) = false then
    throwInput "No valid argument"
  else if charAt data 4 = byteOf 'T' then
    if argumentsWithT.contains (charAt data 2) then
      return 0
    else
      throwInput
        ("Argument " ++ toString (charAt data 2).toInt ++
          " is not valid for total")
  else
    let lastPartOfString ← ofExcept (substr data 3 (data.length - 1))
    commandGetDestination lastPartOfString

/-- What `checkSetArgumentsFloat` and `checkSetArgumentsBool` have in common. -/
def checkSetArguments
    (data : List Byte) : Commands K Client (Byte × BitVec 32) := do
  if data.length < 5 ∨ charAt data 1 ≠ byteOf ' ' then
    throwInput "Invalid command"
  else
    match findSpace data 2 with
    | none => throwInput "Invalid command"
    | some idxSecondSpace =>
        let substring ← ofExcept (substr data 2 (idxSecondSpace - 1))
        let destination ← commandGetDestination substring
        let lastPartOfString ←
          ofExcept (substr data (idxSecondSpace + 1) (data.length - 1))
        let value ←
          try
            ofExcept (stof lastPartOfString)
          catch _ =>
            throwInput "Value must be a number"
        return (destination, value)

/-- `Commands::checkSetArgumentsFloat` -/
def checkSetArgumentsFloat
    (data : List Byte) : Commands K Client (Byte × BitVec 32) :=
  checkSetArguments data

/-- `Commands::checkSetArgumentsBool`; the pair converts the value to `bool`. -/
def checkSetArgumentsBool
    (data : List Byte) : Commands K Client (Byte × Bool) := do
  let destinationAndValue ← checkSetArguments data
  if isZero destinationAndValue.2 = false ∧
      isOne destinationAndValue.2 = false then
    throwInput "Value must be 0 or 1"
  else
    return (destinationAndValue.1, !isZero destinationAndValue.2)

/-- `Server::startSaveValues`; opening the file does not throw. -/
def startSaveValues (millis : Int) : Commands K Client Unit := do
  let state ← get
  if state.server.writingToFile then
    write [.line ("Alreading saving to file " ++ state.server.fileName)]
  else
    modifyServer fun server =>
      { server with
        writingToFile := true
        fileName := "values.txt"
        millisFileWritingStated := millis }
    write [.line "Started saving values to file values.txt"]

/-- `Server::stopSaveValues` -/
def stopSaveValues : Commands K Client Unit := do
  let state ← get
  if state.server.writingToFile then
    modifyServer fun server => { server with writingToFile := false }
    write [.line ("Stoped saving values to file " ++ state.server.fileName)]
  else
    return ()

section Streams

variable [DecidableEq Client]

/-- `activeStreams[destination][client] = streaming` -/
def setStream
    (activeStreams : ActiveStreams Client)
    (destination : Byte)
    (client : Option Client)
    (streaming : Bool × Bool) : ActiveStreams Client :=
  fun node other =>
    if node = destination ∧ other = client then
      some streaming
    else
      activeStreams node other

/-- Toggle one of the two streams; `activeStreams[…][…]` inserts a pair of `false`. -/
def toggleStream
    (destination : Byte)
    (client : Option Client)
    (previous : Bool × Bool → Bool)
    (toggled : Bool × Bool → Bool × Bool) : Commands K Client Unit := do
  let state ← get
  let streaming :=
    (state.server.activeStreams destination client).getD (false, false)
  modifyServer fun server =>
    { server with
      activeStreams :=
        setStream server.activeStreams destination client (toggled streaming) }
  if previous streaming then
    write [.line "ack"]
  else
    return ()

/-- The branch `b` of `interpretCommand`; the header goes to the console. -/
def printBuffer
    (line : List Byte)
    (destination : Byte) : Commands K Client Unit := do
  let state ← get
  if charAt line 2 = byteOf 'I' then
    write
      ((state.server.lastMinuteBuffer.printLastMinuteBuffer destination
        false).map .sample)
  else if charAt line 2 = byteOf 'd' then
    write
      ((state.server.lastMinuteBuffer.printLastMinuteBuffer destination
        true).map .sample)
  else
    write [.quoted "Must be buffer 'I' or 'd': " line]

/-- The branch `s` of `interpretCommand`. -/
def switchStream
    (line : List Byte)
    (destination : Byte)
    (clientSession : Option Client) : Commands K Client Unit := do
  if charAt line 2 = byteOf 'I' then
    toggleStream destination clientSession Prod.snd
      fun streaming => (streaming.1, !streaming.2)
  else if charAt line 2 = byteOf 'd' then
    toggleStream destination clientSession Prod.fst
      fun streaming => (!streaming.1, streaming.2)
  else
    write [.quoted "Must be buffer 'I' or 'd': " line]

/--
The block that `interpretCommand` tries: the command that it returns, or none where
it ends without one.
-/
def interpretTried
    (line : List Byte)
    (clientSession : Option Client) : Commands K Client (Option Command) := do
  let cmd := charAt line 0
  if cmd = byteOf 'g' then
    let destination ← checkGetArguments line
    return some (.ofType cmd destination (Int8.ofBitVec (charAt line 2)))
  else if cmd = byteOf 'O' ∨ cmd = byteOf 'U' ∨ cmd = byteOf 'c' then
    let destinationAndValue ← checkSetArgumentsFloat line
    return some
      { cmd := cmd
        destination := destinationAndValue.1
        value := destinationAndValue.2 }
  else if cmd = byteOf 'o' then
    let destinationAndValue ← checkSetArgumentsBool line
    return some
      (.ofType cmd destinationAndValue.1
        (if destinationAndValue.2 then 1 else 0))
  else if cmd = byteOf 'b' then
    let destination ← checkGetArguments line
    printBuffer line destination
    return none
  else if cmd = byteOf 's' then
    let destination ← checkGetArguments line
    switchStream line destination clientSession
    return none
  else
    write [.quoted "Unknown command: " line]
    return none

/-- `Commands::interpretCommand`, while the clock of the system reads `millis`. -/
def interpretCommand
    (millis : Int)
    (line : List Byte)
    (clientSession : Option Client) : Commands K Client Command := do
  if line.length ≥ 1 ∧ charAt line 0 = byteOf 'q' then
    return .ofType (charAt line 0) 0 0
  else if line.length ≥ 1 ∧ charAt line 0 = byteOf 'r' then
    return .ofType (charAt line 0) 0 0
  else if beginsWith "start save" line then
    startSaveValues millis
    return .ofType 0 0 0
  else if beginsWith "stop save" line then
    stopSaveValues
    return .ofType 0 0 0
  else if line.length > 2 ∧ charAt line 1 = byteOf ' ' then
    let returned ←
      try
        interpretTried line clientSession
      catch exception =>
        write [.what exception]
        pure none
    return returned.getD .null
  else
    write [.quoted "Unknown command: " line]
    return .null

end Streams

end Commands

section Specifications

variable {K Client : Type}

namespace Commands

/-- The destination is one byte, and a node of the server. -/
def Addressed
    (nodeIds : List Int)
    (destination : Byte) : Prop :=
  1 ≤ destination.toNat ∧ destination.toNat ≤ 255 ∧
    (destination.toNat : Int) ∈ nodeIds

/-- An integer from 1 to 255 is the byte that it is converted to. -/
theorem addressed_ofInt
    {nodeIds : List Int}
    {destination : Int}
    (inRange : ¬ (destination > 255 ∨ destination ≤ 0))
    (present : ¬ destination ∉ nodeIds) :
    Addressed nodeIds (BitVec.ofInt 8 destination) := by
  have value : ((BitVec.ofInt 8 destination).toNat : Int) = destination := by
    rw [BitVec.toNat_ofInt]
    omega
  refine ⟨by omega, by omega, ?_⟩
  rw [value]
  exact not_not.mp present

/-- Locking a free mutex and unlocking it again leaves the state as it was. -/
theorem unlock_lock
    {state : CommandsState K Client}
    (free : state.server.mtxNodeIds = .unlocked) :
    { state with
      server :=
        { state.server with
          mtxNodeIds := state.server.mtxNodeIds.lock.unlock } } =
      state := by
  have same : state.server.mtxNodeIds.lock.unlock = state.server.mtxNodeIds := by
    rw [free]
    rfl
  rw [same]

@[spec]
theorem commandGetDestination_spec
    (before : CommandsState K Client)
    (free : before.server.mtxNodeIds = .unlocked)
    (substring : List Byte) :
    ⦃fun state => ⌜state = before⌝⦄
    commandGetDestination substring
    ⦃post⟨fun destination state =>
        ⌜state = before ∧ Addressed before.server.nodeIds destination⌝,
      fun _ state => ⌜state = before⌝⟩⦄ := by
  mvcgen [commandGetDestination, ofExcept, throwInput, lockNodeIds,
    unlockNodeIds, modifyServer]
  · subst_vars
    exact unlock_lock free
  · next inRange _ present _ =>
      subst_vars
      exact ⟨unlock_lock free, addressed_ofInt inRange present⟩

/-- What `checkGetArguments` has found out where it returns. -/
def GetChecked
    (nodeIds : List Int)
    (data : List Byte)
    (destination : Byte) : Prop :=
  charAt data 2 ∈ arguments ∧
    (Addressed nodeIds destination ∨
      destination = 0 ∧ charAt data 2 ∈ argumentsWithT)

@[spec]
theorem checkGetArguments_spec
    (before : CommandsState K Client)
    (free : before.server.mtxNodeIds = .unlocked)
    (data : List Byte) :
    ⦃fun state => ⌜state = before⌝⦄
    checkGetArguments data
    ⦃post⟨fun destination state =>
        ⌜state = before ∧ GetChecked before.server.nodeIds data destination⌝,
      fun _ state => ⌜state = before⌝⟩⦄ := by
  mvcgen [checkGetArguments, ofExcept, throwInput]
  · next listed _ total _ unchanged =>
      exact
        ⟨unchanged, List.contains_iff_mem.mp (Bool.of_not_eq_false listed),
          .inr ⟨rfl, List.contains_iff_mem.mp total⟩⟩
  · next unchanged _ _ =>
      exact unchanged ▸ free
  · next listed _ _ unchanged _ _ destination _ =>
      intro same addressed
      subst unchanged
      exact
        ⟨same, List.contains_iff_mem.mp (Bool.of_not_eq_false listed),
          .inl addressed⟩
  · next unchanged _ _ _ _ =>
      intro same
      exact same.trans unchanged

@[spec]
theorem checkSetArguments_spec
    (before : CommandsState K Client)
    (free : before.server.mtxNodeIds = .unlocked)
    (data : List Byte) :
    ⦃fun state => ⌜state = before⌝⦄
    checkSetArguments data
    ⦃post⟨fun checked state =>
        ⌜state = before ∧ Addressed before.server.nodeIds checked.1⌝,
      fun _ state => ⌜state = before⌝⟩⦄ := by
  mvcgen [checkSetArguments, ofExcept, throwInput]
  · next unchanged _ _ =>
      exact unchanged ▸ free
  · next unchanged _ _ _ _ checked _ _ _ _ =>
      subst unchanged
      exact checked
  · next unchanged _ _ _ _ checked _ _ _ _ =>
      exact checked.1.trans unchanged
  · next unchanged _ _ _ _ checked _ _ =>
      exact checked.1.trans unchanged
  · next unchanged _ _ _ _ =>
      intro same
      exact same.trans unchanged

@[spec]
theorem checkSetArgumentsBool_spec
    (before : CommandsState K Client)
    (free : before.server.mtxNodeIds = .unlocked)
    (data : List Byte) :
    ⦃fun state => ⌜state = before⌝⦄
    checkSetArgumentsBool data
    ⦃post⟨fun checked state =>
        ⌜state = before ∧ Addressed before.server.nodeIds checked.1⌝,
      fun _ state => ⌜state = before⌝⟩⦄ := by
  mvcgen [checkSetArgumentsBool, throwInput]
  · next unchanged =>
      exact unchanged ▸ free
  · next unchanged _ _ _ checked =>
      exact checked.1.trans unchanged
  · next unchanged _ _ _ checked =>
      subst unchanged
      exact checked
  · next unchanged _ _ =>
      intro same
      exact same.trans unchanged

/-- What a command may be that leaves `interpretCommand`. -/
inductive Validated
    (nodeIds : List Int)
    (command : Command) : Prop where
  | control
      (isControl : command.cmd = byteOf 'q' ∨ command.cmd = byteOf 'r')
      (toNobody : command.destination = 0)
  | get
      (isGet : command.cmd = byteOf 'g')
      (type : command.getType.toBitVec ∈ arguments)
      (addressed : Addressed nodeIds command.destination)
  | getTotal
      (isGet : command.cmd = byteOf 'g')
      (type : command.getType.toBitVec ∈ argumentsWithT)
      (toAll : command.destination = 0)
  | set
      (isSet :
        command.cmd = byteOf 'O' ∨ command.cmd = byteOf 'U' ∨
          command.cmd = byteOf 'c')
      (addressed : Addressed nodeIds command.destination)
  | setOccupied
      (isSet : command.cmd = byteOf 'o')
      (addressed : Addressed nodeIds command.destination)
      (flag : command.value = 0 ∨ command.value = 1)

/-- Run a computation of `Commands`. -/
def runOn
    {Value : Type}
    (computation : Commands K Client Value)
    (before : CommandsState K Client) :
    Except StdException Value × CommandsState K Client :=
  computation.run.run before

theorem holds_of_triple
    {Value : Type}
    {computation : Commands K Client Value}
    {before : CommandsState K Client}
    {returns : Value → CommandsState K Client → Prop}
    {throws : StdException → CommandsState K Client → Prop}
    (triple :
      ⦃fun state => ⌜state = before⌝⦄
      computation
      ⦃post⟨fun value state => ⌜returns value state⌝,
        fun exception state => ⌜throws exception state⌝⟩⦄) :
    match runOn computation before with
    | (.ok value, after) => returns value after
    | (.error exception, after) => throws exception after := by
  rcases isRun : runOn computation before with ⟨result, after⟩
  refine StateM.of_wp_run_eq isRun
    (fun reached =>
      match reached with
      | (.ok value, after) => returns value after
      | (.error exception, after) => throws exception after) ?_
  intro _
  rw [WP.ExceptT_run]
  exact triple before rfl

theorem runOn_tryCatch_of_throws
    {Value : Type}
    {computation : Commands K Client Value}
    {handler : StdException → Commands K Client Value}
    {before thrown : CommandsState K Client}
    {exception : StdException}
    (throws : runOn computation before = (.error exception, thrown)) :
    runOn (tryCatch computation handler) before =
      runOn (handler exception) thrown := by
  have handled :
      runOn (tryCatch computation handler) before =
        match runOn computation before with
        | (.ok value, after) => (.ok value, after)
        | (.error exception, after) => runOn (handler exception) after := by
    simp only [runOn, tryCatch, tryCatchThe, MonadExceptOf.tryCatch,
      ExceptT.tryCatch, ExceptT.run, ExceptT.mk, StateT.run_bind]
    rcases StateT.run computation before with ⟨result, after⟩
    cases result with
    | ok value => rfl
    | error exception => rfl
  rw [handled, throws]

theorem runOn_bind_of_throws
    {First Second : Type}
    {computation : Commands K Client First}
    {next : First → Commands K Client Second}
    {before thrown : CommandsState K Client}
    {exception : StdException}
    (throws : runOn computation before = (.error exception, thrown)) :
    runOn (computation >>= next) before = (.error exception, thrown) := by
  simp only [runOn, ExceptT.run_bind, StateT.run_bind] at *
  rw [throws]
  rfl

theorem runOn_bind_of_returns
    {First Second : Type}
    {computation : Commands K Client First}
    {next : First → Commands K Client Second}
    {before after : CommandsState K Client}
    {value : First}
    (returns : runOn computation before = (.ok value, after)) :
    runOn (computation >>= next) before = runOn (next value) after := by
  simp only [runOn, ExceptT.run_bind, StateT.run_bind] at *
  rw [returns]
  rfl

/-- The commands that set something. -/
def setCommands : List Byte :=
  ['O', 'U', 'c', 'o'].map byteOf

/-- No command that sets something is for all nodes. -/
theorem Validated.destination_ne_zero
    {nodeIds : List Int}
    {command : Command}
    (validated : Validated nodeIds command)
    (isSet : command.cmd ∈ setCommands) :
    command.destination ≠ 0 := by
  have nobody : Addressed nodeIds command.destination → command.destination ≠ 0 := by
    intro addressed toAll
    rw [Addressed, toAll] at addressed
    exact absurd addressed.1 (by decide)
  cases validated with
  | control isControl _ =>
      rcases isControl with isControl | isControl
      · rw [isControl] at isSet
        exact absurd isSet (by decide)
      · rw [isControl] at isSet
        exact absurd isSet (by decide)
  | get isGet _ _ =>
      rw [isGet] at isSet
      exact absurd isSet (by decide)
  | getTotal isGet _ _ =>
      rw [isGet] at isSet
      exact absurd isSet (by decide)
  | set _ addressed => exact nobody addressed
  | setOccupied _ addressed _ => exact nobody addressed

section Interpreting

variable [DecidableEq Client]

/-- The line reaches the block that `interpretCommand` tries. -/
def Tried (line : List Byte) : Prop :=
  ¬ (line.length ≥ 1 ∧ charAt line 0 = byteOf 'q') ∧
    ¬ (line.length ≥ 1 ∧ charAt line 0 = byteOf 'r') ∧
    ¬ beginsWith "start save" line = true ∧
    ¬ beginsWith "stop save" line = true ∧
    line.length > 2 ∧ charAt line 1 = byteOf ' '

instance (line : List Byte) : Decidable (Tried line) :=
  inferInstanceAs (Decidable (_ ∧ _ ∧ _ ∧ _ ∧ _ ∧ _))

/-- The line asks for a stream that exists. -/
def NamesStream (line : List Byte) : Prop :=
  charAt line 2 = byteOf 'I' ∨ charAt line 2 = byteOf 'd'

/-- The line asks to switch a stream. -/
def SwitchesStream (line : List Byte) : Prop :=
  charAt line 0 = byteOf 's' ∧ NamesStream line

instance (line : List Byte) : Decidable (SwitchesStream line) :=
  inferInstanceAs (Decidable (_ ∧ (_ ∨ _)))

/--
What a line leaves alone: the nodes, the buffer, the streams of other clients, and
all streams where it does not switch one.
-/
structure Leaves
    (switches : Prop)
    (clientSession : Option Client)
    (before after : CommandsState K Client) : Prop where
  mtxNodeIds : after.server.mtxNodeIds = before.server.mtxNodeIds
  nodeIds : after.server.nodeIds = before.server.nodeIds
  lastMinuteBuffer :
    after.server.lastMinuteBuffer = before.server.lastMinuteBuffer
  streams :
    ∀ node other,
      (switches → other ≠ clientSession) →
      after.server.activeStreams node other =
        before.server.activeStreams node other

namespace Leaves

variable {switches : Prop}
    {clientSession : Option Client}
    {before changed after : CommandsState K Client}

omit [DecidableEq Client] in
/-- Output leaves the server as it is. -/
theorem of_server
    (leaves : Leaves switches clientSession before changed)
    (same : after.server = changed.server) :
    Leaves switches clientSession before after where
  mtxNodeIds := same ▸ leaves.mtxNodeIds
  nodeIds := same ▸ leaves.nodeIds
  lastMinuteBuffer := same ▸ leaves.lastMinuteBuffer
  streams := same ▸ leaves.streams

omit [DecidableEq Client] in
theorem refl
    (switches : Prop)
    (clientSession : Option Client)
    (state : CommandsState K Client) :
    Leaves switches clientSession state state where
  mtxNodeIds := rfl
  nodeIds := rfl
  lastMinuteBuffer := rfl
  streams _ _ _ := rfl

omit [DecidableEq Client] in
theorem weaken
    {other : Prop}
    (leaves : Leaves switches clientSession before after)
    (weaker : switches → other) :
    Leaves other clientSession before after where
  mtxNodeIds := leaves.mtxNodeIds
  nodeIds := leaves.nodeIds
  lastMinuteBuffer := leaves.lastMinuteBuffer
  streams node client isOther :=
    leaves.streams node client fun switched => isOther (weaker switched)

omit [DecidableEq Client] in
/-- A line that switches nothing may be of any client. -/
theorem of_false
    (leaves : Leaves False none before after) :
    Leaves switches clientSession before after where
  mtxNodeIds := leaves.mtxNodeIds
  nodeIds := leaves.nodeIds
  lastMinuteBuffer := leaves.lastMinuteBuffer
  streams node client _ := leaves.streams node client False.elim

/-- A client switches a stream of its own. -/
theorem setStream
    (clientSession : Option Client)
    (state : CommandsState K Client)
    (destination : Byte)
    (streaming : Bool × Bool) :
    Leaves True clientSession state
      { state with
        server :=
          { state.server with
            activeStreams :=
              Commands.setStream state.server.activeStreams destination
                clientSession streaming } } where
  mtxNodeIds := rfl
  nodeIds := rfl
  lastMinuteBuffer := rfl
  streams _ _ isOther :=
    if_neg fun same => isOther trivial same.2

end Leaves

omit [DecidableEq Client] in
@[spec]
theorem write_spec
    (before : CommandsState K Client)
    (outputs : List (TextOutput K)) :
    ⦃fun state => ⌜state = before⌝⦄
    write outputs
    ⦃⇓ _ state => ⌜state.server = before.server⌝⦄ := by
  mvcgen [write]
  subst_vars
  rfl

@[spec]
theorem toggleStream_spec
    (before : CommandsState K Client)
    (destination : Byte)
    (clientSession : Option Client)
    (previous : Bool × Bool → Bool)
    (toggled : Bool × Bool → Bool × Bool) :
    ⦃fun state => ⌜state = before⌝⦄
    toggleStream destination clientSession previous toggled
    ⦃⇓ _ state => ⌜Leaves True clientSession before state⌝⦄ := by
  mvcgen [toggleStream, modifyServer]
  · next unchanged _ _ _ _ _ =>
      intro same
      subst unchanged
      exact (Leaves.setStream _ _ _ _).of_server same
  · next unchanged _ _ _ =>
      subst unchanged
      exact Leaves.setStream _ _ _ _

omit [DecidableEq Client] in
@[spec]
theorem printBuffer_spec
    (before : CommandsState K Client)
    (line : List Byte)
    (destination : Byte) :
    ⦃fun state => ⌜state = before⌝⦄
    printBuffer line destination
    ⦃⇓ _ state => ⌜state.server = before.server⌝⦄ := by
  mvcgen [printBuffer]

@[spec]
theorem switchStream_spec
    (before : CommandsState K Client)
    (line : List Byte)
    (destination : Byte)
    (clientSession : Option Client) :
    ⦃fun state => ⌜state = before⌝⦄
    switchStream line destination clientSession
    ⦃⇓ _ state => ⌜Leaves (NamesStream line) clientSession before state⌝⦄ := by
  mvcgen [switchStream]
  · next isIluminance _ unchanged _ _ =>
      intro leaves
      subst unchanged
      exact leaves.weaken fun _ => .inl isIluminance
  · next isDutyCycle _ unchanged _ _ =>
      intro leaves
      subst unchanged
      exact leaves.weaken fun _ => .inr isDutyCycle
  · next unchanged _ _ =>
      intro same
      subst unchanged
      exact (Leaves.refl _ _ _).of_server same

omit [DecidableEq Client] in
theorem validated_get
    {nodeIds : List Int}
    {line : List Byte}
    {destination : Byte}
    (isGet : charAt line 0 = byteOf 'g')
    (checked : GetChecked nodeIds line destination) :
    Validated nodeIds
      (.ofType (charAt line 0) destination (Int8.ofBitVec (charAt line 2))) := by
  obtain ⟨listed, addressed | ⟨toAll, total⟩⟩ := checked
  · refine .get isGet ?_ addressed
    rwa [Command.ofType, Command.getType_setType, Int8.toBitVec_ofBitVec]
  · refine .getTotal isGet ?_ toAll
    rwa [Command.ofType, Command.getType_setType, Int8.toBitVec_ofBitVec]

omit [DecidableEq Client] in
theorem validated_setOccupied
    {nodeIds : List Int}
    {line : List Byte}
    {destination : Byte}
    {occupied : Bool}
    (isSet : charAt line 0 = byteOf 'o')
    (addressed : Addressed nodeIds destination) :
    Validated nodeIds
      (.ofType (charAt line 0) destination (if occupied then 1 else 0)) := by
  refine .setOccupied isSet addressed ?_
  cases occupied
  · exact .inl rfl
  · exact .inr rfl

omit [DecidableEq Client] in
/-- A validated command is returned from a server that nothing changed. -/
theorem leaves_of_validated
    {before after : CommandsState K Client}
    {line : List Byte}
    {clientSession : Option Client}
    {command : Command}
    (same : after = before)
    (validated : Validated before.server.nodeIds command) :
    Leaves (SwitchesStream line) clientSession before after ∧
      ∀ returned ∈ some command, Validated before.server.nodeIds returned := by
  subst same
  refine ⟨.refl _ _ _, fun returned isReturned => ?_⟩
  obtain ⟨⟩ := isReturned
  exact validated

/-- The command of a line, and how the block leaves the server. -/
@[spec]
theorem interpretTried_spec
    (before : CommandsState K Client)
    (free : before.server.mtxNodeIds = .unlocked)
    (line : List Byte)
    (clientSession : Option Client) :
    ⦃fun state => ⌜state = before⌝⦄
    interpretTried line clientSession
    ⦃post⟨fun returned state =>
        ⌜Leaves (SwitchesStream line) clientSession before state ∧
          ∀ command ∈ returned, Validated before.server.nodeIds command⌝,
      fun _ state => ⌜state = before⌝⟩⦄ := by
  mvcgen [interpretTried, checkSetArgumentsFloat]
  · next unchanged =>
      exact unchanged ▸ free
  · next isGet _ unchanged _ _ checked =>
      obtain ⟨same, checked⟩ := checked
      subst unchanged
      exact leaves_of_validated same (validated_get isGet checked)
  · next unchanged _ _ =>
      intro same
      exact same.trans unchanged
  · next unchanged =>
      exact unchanged ▸ free
  · next isSet _ unchanged _ _ checked =>
      obtain ⟨same, addressed⟩ := checked
      subst unchanged
      exact leaves_of_validated same (.set isSet addressed)
  · next unchanged _ _ =>
      intro same
      exact same.trans unchanged
  · next unchanged =>
      exact unchanged ▸ free
  · next isSet _ unchanged _ _ checked =>
      obtain ⟨same, addressed⟩ := checked
      subst unchanged
      exact leaves_of_validated same (validated_setOccupied isSet addressed)
  · next unchanged _ _ =>
      intro same
      exact same.trans unchanged
  · next unchanged =>
      exact unchanged ▸ free
  · next unchanged _ _ checked _ _ written =>
      obtain ⟨same, -⟩ := checked
      subst same unchanged
      exact ⟨(Leaves.refl _ _ _).of_server written, nofun⟩
  · next unchanged _ _ =>
      intro same
      exact same.trans unchanged
  · next unchanged =>
      exact unchanged ▸ free
  · next isStream _ unchanged _ _ checked _ _ leaves =>
      obtain ⟨same, -⟩ := checked
      subst same unchanged
      exact ⟨leaves.weaken fun named => ⟨isStream, named⟩, nofun⟩
  · next unchanged _ _ =>
      intro same
      exact same.trans unchanged
  · next unchanged _ _ written =>
      subst unchanged
      exact ⟨(Leaves.refl _ _ _).of_server written, nofun⟩

omit [DecidableEq Client] in
@[spec]
theorem startSaveValues_spec
    (before : CommandsState K Client)
    (millis : Int) :
    ⦃fun state => ⌜state = before⌝⦄
    startSaveValues millis
    ⦃⇓ _ state => ⌜Leaves False none before state⌝⦄ := by
  mvcgen [startSaveValues, modifyServer]
  · next unchanged _ _ _ =>
      intro same
      subst unchanged
      exact (Leaves.refl _ _ _).of_server same
  · next unchanged _ _ _ _ =>
      intro same
      subst unchanged
      refine Leaves.of_server ?_ same
      exact ⟨rfl, rfl, rfl, fun _ _ _ => rfl⟩

omit [DecidableEq Client] in
@[spec]
theorem stopSaveValues_spec
    (before : CommandsState K Client) :
    ⦃fun state => ⌜state = before⌝⦄
    stopSaveValues
    ⦃⇓ _ state => ⌜Leaves False none before state⌝⦄ := by
  mvcgen [stopSaveValues, modifyServer]
  · next unchanged _ _ _ _ =>
      intro same
      subst unchanged
      refine Leaves.of_server ?_ same
      exact ⟨rfl, rfl, rfl, fun _ _ _ => rfl⟩
  · next unchanged _ =>
      subst unchanged
      exact .refl _ _ _

/-- What a line returns, and how it leaves the server; no exception leaves the function. -/
theorem interpretCommand_spec
    (before : CommandsState K Client)
    (free : before.server.mtxNodeIds = .unlocked)
    (millis : Int)
    (line : List Byte)
    (clientSession : Option Client) :
    ⦃fun state => ⌜state = before⌝⦄
    interpretCommand millis line clientSession
    ⦃⇓ command state =>
        ⌜Leaves (Tried line ∧ SwitchesStream line) clientSession before state ∧
          (command.cmd ≠ 0 → Validated before.server.nodeIds command)⌝⦄ := by
  mvcgen [interpretCommand]
  · next isQuit _ unchanged =>
      subst unchanged
      exact ⟨.refl _ _ _, fun _ => .control (.inl isQuit.2) rfl⟩
  · next isReset _ unchanged =>
      subst unchanged
      exact ⟨.refl _ _ _, fun _ => .control (.inr isReset.2) rfl⟩
  · next unchanged _ _ leaves =>
      subst unchanged
      exact ⟨leaves.of_false, absurd rfl⟩
  · next unchanged _ _ leaves =>
      subst unchanged
      exact ⟨leaves.of_false, absurd rfl⟩
  · next unchanged =>
      exact unchanged ▸ free
  · next notQuit notReset notStart notStop long _ unchanged returned _ tried =>
      subst unchanged
      have reached : Tried line :=
        ⟨notQuit, notReset, notStart, notStop, long⟩
      refine ⟨tried.1.weaken fun switches => ⟨reached, switches⟩,
        fun isCommand => ?_⟩
      cases returned with
      | none => exact absurd rfl isCommand
      | some command => exact tried.2 command rfl
  · next unchanged _ _ same _ _ written =>
      subst same unchanged
      exact ⟨(Leaves.refl _ _ _).of_server written, absurd rfl⟩
  · next unchanged _ _ written =>
      subst unchanged
      exact ⟨(Leaves.refl _ _ _).of_server written, absurd rfl⟩

/-- The block throws, and the exception is printed. -/
theorem runOn_interpretCommand_of_throws
    {before thrown : CommandsState K Client}
    {line : List Byte}
    {clientSession : Option Client}
    {exception : StdException}
    (tried : Tried line)
    (throws :
      runOn (interpretTried line clientSession) before =
        (.error exception, thrown))
    (millis : Int) :
    runOn (interpretCommand millis line clientSession) before =
      (.ok .null,
        { thrown with
          textOutputStream := thrown.textOutputStream ++ [.what exception] }) := by
  obtain ⟨notQuit, notReset, notStart, notStop, long⟩ := tried
  unfold interpretCommand
  rw [if_neg notQuit, if_neg notReset, if_neg notStart, if_neg notStop,
    if_pos long]
  have caught :
      runOn
          (tryCatch (interpretTried line clientSession) fun exception => do
            write [.what exception]
            pure none)
          before =
        (.ok none,
          { thrown with
            textOutputStream :=
              thrown.textOutputStream ++ [.what exception] }) :=
    (runOn_tryCatch_of_throws throws).trans rfl
  exact (runOn_bind_of_returns caught).trans rfl

/-- The line switches a stream: it is tried, and its arguments are accepted. -/
def Switches
    (server : CommandedServer K Client)
    (line : List Byte) : Prop :=
  Tried line ∧ SwitchesStream line ∧
    (runOn (checkGetArguments line) ⟨server, []⟩).1.isOk = true

instance (server : CommandedServer K Client) (line : List Byte) :
    Decidable (Switches server line) :=
  inferInstanceAs (Decidable (_ ∧ _ ∧ _))

/-- Arguments that are not accepted make the block throw. -/
theorem interpretTried_throws
    {before thrown : CommandsState K Client}
    {line : List Byte}
    {exception : StdException}
    (switches : SwitchesStream line)
    (checked :
      runOn (checkGetArguments line) before = (.error exception, thrown))
    (clientSession : Option Client) :
    runOn (interpretTried line clientSession) before =
      (.error exception, thrown) := by
  have notGet : byteOf 's' ≠ byteOf 'g' := by decide
  have notFloat :
      ¬ (byteOf 's' = byteOf 'O' ∨ byteOf 's' = byteOf 'U' ∨
        byteOf 's' = byteOf 'c') := by
    decide
  have notBool : byteOf 's' ≠ byteOf 'o' := by decide
  have notBuffer : byteOf 's' ≠ byteOf 'b' := by decide
  simp only [interpretTried, switches.1, if_neg notGet, if_neg notFloat,
    if_neg notBool, if_neg notBuffer, if_true]
  exact runOn_bind_of_throws checked

/-- The server after a line; what it prints goes to the client. -/
def interpreted
    (server : CommandedServer K Client)
    (millis : Int)
    (line : List Byte)
    (clientSession : Option Client) : CommandsState K Client :=
  (runOn (interpretCommand millis line clientSession) ⟨server, []⟩).2

/-- What a line leaves alone, and that the streams of others are among it. -/
theorem interpreted_leaves
    {server : CommandedServer K Client}
    (free : server.mtxNodeIds = .unlocked)
    (millis : Int)
    (line : List Byte)
    (clientSession : Option Client) :
    Leaves (Switches server line) clientSession ⟨server, []⟩
      (interpreted server millis line clientSession) := by
  have spec :=
    holds_of_triple
      (interpretCommand_spec ⟨server, []⟩ free millis line clientSession)
  unfold interpreted
  rcases isRun : runOn (interpretCommand millis line clientSession) ⟨server, []⟩ with
    ⟨exception | command, after⟩
  · rw [isRun] at spec
    exact spec.elim
  · rw [isRun] at spec
    by_cases switches : Tried line ∧ SwitchesStream line
    · rcases checked : runOn (checkGetArguments line) ⟨server, []⟩ with
        ⟨exception | destination, thrown⟩
      · have throws := interpretTried_throws switches.2 checked clientSession
        have same :=
          holds_of_triple (checkGetArguments_spec ⟨server, []⟩ free line)
        rw [checked] at same
        rw [runOn_interpretCommand_of_throws switches.1 throws millis] at isRun
        obtain ⟨⟩ := isRun
        have sameServer : thrown.server = server := by
          rw [show thrown = ⟨server, []⟩ from same]
        exact (Leaves.refl _ _ _).of_server sameServer
      · refine spec.1.weaken fun _ => ⟨switches.1, switches.2, ?_⟩
        rw [checked]
        rfl
    · exact spec.1.weaken fun both => absurd both switches

/--
Whatever the line is, a command that is returned has been validated, the mutex is
free, and a line that is rejected leaves the server as it was.
-/
theorem interpretCommand_validates
    (before : CommandsState K Client)
    (free : before.server.mtxNodeIds = .unlocked)
    (millis : Int)
    (line : List Byte)
    (clientSession : Option Client) :
    ∃ command after,
      runOn (interpretCommand millis line clientSession) before =
          (.ok command, after) ∧
        after.server.mtxNodeIds = .unlocked ∧
        (command.cmd ≠ 0 →
          Validated before.server.nodeIds command ∧
            (command.cmd ∈ setCommands → command.destination ≠ 0)) ∧
        ∀ exception thrown,
          Tried line →
          runOn (interpretTried line clientSession) before =
            (.error exception, thrown) →
          command = .null ∧ after.server = before.server := by
  have spec :=
    holds_of_triple (interpretCommand_spec before free millis line clientSession)
  have tried :=
    holds_of_triple (interpretTried_spec before free line clientSession)
  rcases isRun : runOn (interpretCommand millis line clientSession) before with
    ⟨command | command, after⟩
  · rw [isRun] at spec
    exact spec.elim
  · rw [isRun] at spec
    obtain ⟨leaves, validated⟩ := spec
    refine ⟨command, after, rfl, leaves.mtxNodeIds.trans free, ?_, ?_⟩
    · intro isCommand
      exact ⟨validated isCommand, (validated isCommand).destination_ne_zero⟩
    · intro exception thrown reached throws
      rw [runOn_interpretCommand_of_throws reached throws millis] at isRun
      rw [throws] at tried
      have same : thrown.server = before.server := by
        rw [show thrown = before from tried]
      obtain ⟨⟩ := isRun
      exact ⟨rfl, same⟩

end Interpreting

/-- A server that knows nodes 1 and 2. -/
def twoNodes : CommandsState Int Nat where
  server :=
    { mtxNodeIds := .unlocked
      nodeIds := [1, 2]
      lastMinuteBuffer := .constructed 0
      activeStreams := fun _ _ => none
      fileName := ""
      writingToFile := false
      millisFileWritingStated := 0 }
  textOutputStream := []

/-- The line `o 2 1`, which is passed on, at a server that knows the node. -/
theorem interpretCommand_validates_occupied :
    twoNodes.server.mtxNodeIds = .unlocked ∧
      (∃ command after,
        runOn (interpretCommand 0 ("o 2 1".toList.map byteOf) (some 7))
            twoNodes =
          (.ok command, after) ∧
        (command.cmd ≠ 0 → Validated [1, 2] command)) ∧
      (runOn (interpretCommand 0 ("o 2 1".toList.map byteOf) (some 7))
          twoNodes).1 =
        .ok { cmd := byteOf 'o', destination := 2, value := 1 } := by
  obtain ⟨command, after, isRun, -, validated, -⟩ :=
    interpretCommand_validates twoNodes rfl 0 ("o 2 1".toList.map byteOf)
      (some 7)
  exact ⟨rfl, ⟨command, after, isRun, fun isCommand => (validated isCommand).1⟩,
    by decide +kernel⟩

end Commands

end Specifications

end DistributedLighting
