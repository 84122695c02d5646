import McKernelTest.Flow.Core

/-!
# `waitid#1` and `waitid#2`

Both test cases fork `proc_num` children.  `waitid#2` waits as often for any child.  In
`waitid#1` the children of the first half move to groups of their own, each by itself, and
the parent waits for half as many children of its own group.

A child sleeps for a time that depends on its number.  Nothing is assumed about time here:
a child goes on whenever it likes.

`waitid` looks at the children once.  If none of those it waits for has exited, the parent
goes to sleep, and it looks again only after it has been woken.  The exit of a child wakes
it, but a child that moves to another group does not.
-/

namespace McKernelTest.Waitid

open Process

/-- The two test cases. -/
inductive TestCase where
  | waitid1
  | waitid2
  deriving DecidableEq, Repr

/-- The processes. -/
inductive Proc where
  | parent
  | child (i : Nat)
  deriving DecidableEq, Repr

/-- Which children are waited for: those of a group (`P_PGID`) or all of them (`P_ALL`). -/
inductive Idtype where
  | pgid (id : Int)
  | all
  deriving DecidableEq, Repr

/-- The result of `waitid`, and what `info.si_pid` and `errno` are after it. -/
structure Info where
  result : Int
  siPid : Int
  errno : Int
  deriving DecidableEq, Repr

/-- The calls.  `rescan` is no call of its own: it is the part of `waitid` that follows when
the parent has been woken. -/
inductive Op where
  | fork (i : Nat)
  | getpid
  | getpgid (pid : Int)
  | setpgid (pid pgid : Int)
  | sleep (seconds : Nat)
  | printf (format : String) (values : List Int)
  | waitid (idtype : Idtype)
  | rescan (idtype : Idtype)
  | exit (status : Int)
  deriving DecidableEq

/-- The results.  Without a result, the parent has gone to sleep. -/
@[reducible]
def Res : Op → Type
  | .fork _ | .getpid | .getpgid _ | .setpgid _ _ => Int
  | .waitid _ | .rescan _ => Option Info
  | .sleep _ | .printf _ _ | .exit _ => Unit

/-- The checks of the run functions that can fail. -/
inductive Failure where
  | procNum
  | waitid
  deriving DecidableEq, Repr

/-- The message of a failed check. -/
def Failure.message : Failure → String
  | .procNum => "-p <child proc num> invalid argument."
  | .waitid => "waitid failed."

/-- The points of the run functions. -/
inductive ParentPoint where
  | fork (i : Nat)
  | getpid
  | getpgid (pid : Int)
  | called (pid : Int) (idtype : Idtype) (i : Nat)
  | waitid (pid : Int) (idtype : Idtype) (i : Nat)
  | asleep (pid : Int) (idtype : Idtype) (i : Nat)
  | reaped (pid : Int) (idtype : Idtype) (i : Nat) (info : Info)
  | report (pid : Int) (idtype : Idtype) (i : Nat) (info : Info)
  | returned (failure : Option Failure)
  deriving DecidableEq, Repr

/-- The points of a child; the last ones before `exit` are those of `waitid#2`. -/
inductive ChildPoint where
  | getpid
  | setpgid (pid : Int)
  | printSetpgid (pid result : Int)
  | getpgid (pid : Int)
  | sleep (pid pgid : Int)
  | print (pid pgid : Int)
  | sleepFirst
  | getpidLast
  | printPid (pid : Int)
  | exit
  | exited
  deriving DecidableEq, Repr

/-- The points of a process. -/
@[reducible]
def Point : Proc → Type
  | .parent => ParentPoint
  | .child _ => ChildPoint

section Programs

variable (testCase : TestCase) (procNum : Int)

/-- The checks of the argument. -/
def valid : Bool :=
  match testCase with
  | .waitid1 => 1 < procNum && procNum.tmod 2 = 0
  | .waitid2 => 0 < procNum

/-- How often the parent waits. -/
def rounds : Nat :=
  match testCase with
  | .waitid1 => (procNum.tdiv 2).toNat
  | .waitid2 => procNum.toNat

/-- The head of the loop that forks. -/
def forkLoop (i : Nat) : ParentPoint :=
  if (i : Int) < procNum then .fork i else .getpid

/-- The head of the loop that waits. -/
def waitLoop (pid : Int) (idtype : Idtype) (i : Nat) : ParentPoint :=
  if i < rounds testCase procNum then .called pid idtype i else .returned none

/-- The line before a wait. -/
def calledLine (pid : Int) : Idtype → Op
  | .pgid pgid => .printf "[parent:%5d] waitid(P_PGID, %d) called.\n" [pid, pgid]
  | .all => .printf "[parent:%5d] waitid(P_ALL) called.\n" [pid]

/-- The line after a wait. -/
def reapedLine (pid : Int) (info : Info) : Idtype → Op
  | .pgid pgid =>
      .printf "[parent:%5d] waitid(P_PGID, %d) returned. EXTED pid = %d\n" [pid, pgid, info.siPid]
  | .all => .printf "[parent:%5d] waitid(P_ALL) returned. EXTED pid = %d\n" [pid, info.siPid]

/-- The point after a look at the children. -/
def scanned (pid : Int) (idtype : Idtype) (i : Nat) : Option Info → ParentPoint
  | some info => .reaped pid idtype i info
  | none => .asleep pid idtype i

/-- The run function in the parent, up to its first call. -/
def runFunc : ParentPoint :=
  if valid testCase procNum then forkLoop procNum 0 else .returned (some .procNum)

/-- The run function in the parent.  It goes on whatever `fork` returns. -/
def parentNode : ParentPoint → Flow.Node ParentPoint Op Res
  | .fork i => .call (.fork i) fun _ => forkLoop procNum (i + 1)
  | .getpid => .call .getpid fun pid =>
      match testCase with
      | .waitid1 => .getpgid pid
      | .waitid2 => waitLoop testCase procNum pid .all 0
  | .getpgid pid => .call (.getpgid pid) fun pgid => waitLoop testCase procNum pid (.pgid pgid) 0
  | .called pid idtype i => .call (calledLine pid idtype) fun _ => .waitid pid idtype i
  | .waitid pid idtype i => .call (.waitid idtype) (scanned pid idtype i)
  | .asleep pid idtype i => .call (.rescan idtype) (scanned pid idtype i)
  | .reaped pid idtype i info =>
      .call (reapedLine pid info idtype) fun _ => .report pid idtype i info
  | .report pid idtype i info =>
      .call (.printf "[parent:%5d] waitid()=%d, errno=%d\n" [pid, info.result, info.errno]) fun _ =>
        if info.result ≠ -1 then waitLoop testCase procNum pid idtype (i + 1)
        else .returned (some .waitid)
  | .returned _ => .stop

/-- A child, up to its first call. -/
def childStart : ChildPoint :=
  match testCase with
  | .waitid1 => .getpid
  | .waitid2 => .sleepFirst

/-- A child. -/
def childNode (i : Nat) : ChildPoint → Flow.Node ChildPoint Op Res
  | .getpid => .call .getpid fun pid =>
      if (i : Int) < procNum.tdiv 2 then .setpgid pid else .getpgid pid
  | .setpgid pid => .call (.setpgid pid pid) fun result => .printSetpgid pid result
  | .printSetpgid pid result =>
      .call (.printf "[child:%5d] setpgid(%d, %d) = %d\n" [pid, pid, pid, result])
        fun _ => .getpgid pid
  | .getpgid pid => .call (.getpgid pid) fun pgid => .sleep pid pgid
  | .sleep pid pgid => .call (.sleep (i + 3)) fun _ => .print pid pgid
  | .print pid pgid =>
      .call (.printf "[child:%5d, %5d] sleep %dsec done.\n" [pid, pgid, i + 3]) fun _ => .exit
  | .sleepFirst => .call (.sleep (i + 1)) fun _ => .getpidLast
  | .getpidLast => .call .getpid fun pid => .printPid pid
  | .printPid pid => .call (.printf "[child:%5d] sleep %dsec done.\n" [pid, i + 1]) fun _ => .exit
  | .exit => .call (.exit 0) fun _ => .exited
  | .exited => .stop

/-- The programs of all processes. -/
def node : (proc : Proc) → Point proc → Flow.Node (Point proc) Op Res
  | .parent => parentNode testCase procNum
  | .child i => childNode procNum i

end Programs

/-! ## Running the processes -/

/-- What the system answers.  The ids of the children are different from each other and from
the group of the parent. -/
structure Environment where
  parentPid : Int
  parentGroup : Int
  fork : Nat → Int
  setpgid : Nat → Int
  /-- Whether the exit of every child wakes a parent asleep in `waitid`, and not only that of
  a child it waits for. -/
  wakesAll : Bool
  fork_ne_parentGroup : ∀ i, fork i ≠ -1 → fork i ≠ parentGroup
  fork_injective : ∀ i j, fork i ≠ -1 → fork j = fork i → j = i

/-- The id of a process. -/
def Environment.pidOf (env : Environment) : Proc → Int
  | .parent => env.parentPid
  | .child i => env.fork i

inductive Status where
  | running
  | exited
  | reaped
  deriving DecidableEq, Repr

/-- A child: its group, and whether it has exited and has been waited for. -/
structure Child where
  group : Int
  status : Status
  deriving DecidableEq, Repr

/-- Whether a child is one of those waited for. -/
def Idtype.matches : Idtype → Child → Bool
  | .pgid id, child => child.group = id
  | .all, _ => true

/-- The parent asleep in `waitid`: whom it waits for, and whether it has been woken. -/
structure Waiter where
  idtype : Idtype
  woken : Bool
  deriving DecidableEq, Repr

/-- The children that have been forked, by their number, and the parent if it is asleep. -/
structure World where
  children : Nat → Option Child
  waiter : Option Waiter

namespace World

/-- There is a child to wait for. -/
def hasChild (world : World) (count : Nat) (idtype : Idtype) : Bool :=
  (List.range count).any fun i => (world.children i).any fun child =>
    child.status ≠ .reaped && idtype.matches child

/-- One of the children to wait for has exited. -/
def hasExited (world : World) (count : Nat) (idtype : Idtype) : Bool :=
  (List.range count).any fun i => (world.children i).any fun child =>
    child.status = .exited && idtype.matches child

/-- The child with the given id, if it has exited and can be waited for. -/
def findExited (world : World) (env : Environment) (count : Nat) (idtype : Idtype)
    (pid : Int) : Option Nat :=
  (List.range count).find? fun i => env.fork i = pid && (world.children i).any fun child =>
    child.status = .exited && idtype.matches child

/-- The world after a change of one child. -/
def modify (world : World) (i : Nat) (change : Child → Child) : World :=
  { world with children := Function.update world.children i ((world.children i).map change) }

/-- The world after the exit of a child has woken the parent, if it does. -/
def wake (world : World) (all : Bool) (child : Option Child) : World :=
  { world with
    waiter := world.waiter.map fun waiter =>
      { waiter with woken := waiter.woken || all || child.any waiter.idtype.matches } }

end World

/-- `ECHILD`. -/
def echild : Int := 10

/-- A look at the children: it fails if there is none to wait for, it reports one that has
exited, or the parent goes to sleep because none has. -/
def World.scan (world : World) (env : Environment) (count : Nat) (idtype : Idtype) :
    Option Info → Option World
  | some info =>
      if info.result = -1 then
        if info.errno = echild ∧ world.hasChild count idtype = false then
          some { world with waiter := none }
        else
          none
      else if info.result = 0 then
        (world.findExited env count idtype info.siPid).map fun i =>
          { world.modify i ({ · with status := .reaped }) with waiter := none }
      else
        none
  | none =>
      if world.hasChild count idtype = true ∧ world.hasExited count idtype = false then
        some { world with waiter := some ⟨idtype, false⟩ }
      else
        none

/-- The world after a call. -/
def perform (env : Environment) (procNum : Int) (world : World) (proc : Proc) :
    (op : Op) → Res op → Option World
  | .fork i, result =>
      if result = env.fork i then
        some (if result = -1 then world
          else { world with
            children := Function.update world.children i (some ⟨env.parentGroup, .running⟩) })
      else
        none
  | .getpid, result => if result = env.pidOf proc then some world else none
  | .getpgid _, result =>
      match proc with
      | .parent => if result = env.parentGroup then some world else none
      | .child i => if (world.children i).any (·.group = result) then some world else none
  | .setpgid _ pgid, result =>
      match proc with
      | .parent => none
      | .child i =>
          if result = env.setpgid i then
            some (if result = -1 then world else world.modify i ({ · with group := pgid }))
          else
            none
  | .sleep _, _ | .printf _ _, _ => some world
  | .waitid idtype, result => world.scan env procNum.toNat idtype result
  | .rescan idtype, result =>
      -- The parent goes on inside `waitid` only after it has been woken.
      if world.waiter.any (·.woken) then world.scan env procNum.toNat idtype result else none
  | .exit _, _ =>
      match proc with
      | .parent => none
      | .child i =>
          some ((world.modify i ({ · with status := .exited })).wake env.wakesAll
            (world.children i))

/-- The process that `fork` starts. -/
def spawn (testCase : TestCase) (_ : Proc) :
    (op : Op) → Res op → Option ((proc : Proc) × Point proc)
  | .fork i, result => if result = -1 then none else some ⟨.child i, childStart testCase⟩
  | _, _ => none

/-- The system of all processes. -/
def system (env : Environment) (testCase : TestCase) (procNum : Int) :
    Flow.System Proc Point Op Res Empty World where
  node := node testCase procNum
  perform := perform env procNum
  spawn := spawn testCase
  external := fun _ cause => cause.elim

abbrev WaitidConfig := Flow.Config Proc Point World

abbrev WaitidEvent := Event Proc Op Res Empty

/-- The start of the run function. -/
def start (testCase : TestCase) (procNum : Int) : WaitidConfig where
  world := ⟨fun _ => none, none⟩
  point
    | .parent => some (runFunc testCase procNum)
    | .child _ => none

end McKernelTest.Waitid
