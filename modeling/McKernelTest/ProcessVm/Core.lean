import McKernelTest.Machine.Memory
import McKernelTest.TestApp.Main
import McKernelTest.Text.Strtoll

/-!
# `process_vm_readv` and `process_vm_writev`

Each of the two suites has a test case 0 and a test case 999.  Test case 0 forks a child
that becomes the test program again, with test case 999 and the address of a buffer of the
parent on its command line.  Test case 999 reads or writes that buffer in the memory of its
parent.

The child makes its call with `syscall`, by a number that a header of the test program
defines.  What the system does for a number is a parameter.  The parent does nothing between
`fork` and `wait4`, so its memory is changed by the child's call alone.
-/

namespace McKernelTest.ProcessVm

open Machine Posix TestApp

/-- `BUF_SIZE`. -/
def bufSize : Nat := 100

/-! ## Test case 999 -/

/-- `struct process_vm_readv_args`, which is `struct process_vm_writev_args`. -/
structure Args where
  addr : Nat
  size : Nat
  expr : UInt8
  deriving DecidableEq, Repr

/-- The option loop of the setup function. -/
def setupOptions (ordering : ArgOrdering) : Nat → Args → List Arg → Getopt → Option Args
  | 0, _, _, _ => none
  | fuel + 1, args, argv, getopt =>
      match Getopt.getopt ordering "a:s:e:".toList argv getopt with
      | (.finished, _, _) => some args
      | (.option 'a', argv, getopt) =>
          let addr := Text.strtoul (getopt.optarg.getD [])
          setupOptions ordering fuel { args with addr := addr } argv getopt
      | (.option 's', argv, getopt) =>
          let size := Text.strtoul (getopt.optarg.getD [])
          setupOptions ordering fuel { args with size := size } argv getopt
      | (.option 'e', argv, getopt) =>
          -- An empty text begins with its terminating zero.
          let expr := ((getopt.optarg.getD []).head?.map fun character =>
            UInt8.ofNat character.toNat).getD 0
          setupOptions ordering fuel { args with expr := expr } argv getopt
      | (_, argv, getopt) => setupOptions ordering fuel args argv getopt

/-- The setup function; the arguments are a static variable. -/
def setup (ordering : ArgOrdering) (argv : List Arg) (getopt : Getopt) : Option Args :=
  setupOptions ordering (optionFuel argv) ⟨0, 0, 0⟩ argv getopt

/-- `struct iovec`. -/
structure Iovec where
  base : Nat
  len : Nat
  deriving DecidableEq, Repr

/-- The arguments of the two calls. -/
structure VmArgs where
  pid : Int
  lvec : List Iovec
  rvec : List Iovec
  flags : Nat
  deriving DecidableEq, Repr

/-- The memory of the child, which makes the call, and of its parent. -/
structure Memories where
  own : Memory
  remote : Memory

/-- What `syscall` returns for a number and the arguments, and the memories after it. -/
abbrev Kernel := (number : Nat) → VmArgs → Memories → Int × Memories

/-- What else the system answers. -/
structure Environment where
  parentPid : Int
  fork : Int
  execve : Bool
  /-- The memory of the child when test case 999 begins. -/
  childMemory : Memory
  /-- The address of `read_buf` or `write_buf`, if there is memory for it. -/
  mallocBuf : Option Nat
  /-- Whether there is memory for `expr_buf`. -/
  mallocExpr : Bool
  wait4 : Int

end McKernelTest.ProcessVm
