import McKernelTest.Pagemap.Core

/-!
# `mem_large_page#0` and `mem_large_page#4`

Both tests map two large pages, so that one whole large page lies in the mapping wherever
it is placed, and look up the page size of all its base pages.  The first maps anonymous
memory and expects a large page, the second maps a file and expects base pages.

The loops are run with fuel; `none` says that it was not enough.
-/

namespace McKernelTest.MemLargePage

open Machine Pagemap Process

/-- `(void *)-1`. -/
def mapFailed : Nat := 2 ^ 64 - 1

/-- `length`. -/
def length : Nat :=
  2 * largePageSize

/-- The loop over the pages from `start` to `stop`.  `flag` is `large_page_flag`: a page
that is not as expected sets it to `unexpected` and ends the loop, else it becomes what
`expected` makes of the result of `check_page_size`. -/
def probeLoop (access : Nat → Program Unit) (pagesize : Nat) (unexpected : Int)
    (expected : Int → Int) : Nat → Nat → Nat → Int → Program (Option Int)
  | 0, _, _, _ => return none
  | fuel + 1, start, stop, flag =>
      if start < stop then do
        access start
        let ret ← checkPageSize start pagesize
        if ret = 0 then
          return some unexpected
        else
          probeLoop access pagesize unexpected expected fuel ((start + pageSize) % 2 ^ 64) stop
            (expected ret)
      else
        return some flag

/-- The store of `'Z'`. -/
def storeZ (address : Nat) : Program Unit :=
  .perform (Op.storeByte address 90)

/-- The load of `ch`. -/
def loadCh (address : Nat) : Program Unit := do
  let _ ← .perform (Op.loadByte address)

/-- The loop of `mem_large_page#0`. -/
def probeLarge : Nat → Nat → Nat → Int → Program (Option Int) :=
  probeLoop storeZ largePageSize 0 id

/-- The loop of `mem_large_page#4`, which turns the flag around. -/
def probeNormal : Nat → Nat → Nat → Int → Program (Option Int) :=
  probeLoop loadCh pageSize 1 fun _ => 0

/-- The part of the run functions behind `mmap`: `flag` is the first value of
`large_page_flag`, and `passes` the assertion at the end. -/
def probeMapping (loop : Nat → Nat → Nat → Int → Program (Option Int)) (flag : Int)
    (passes : Int → Bool) (message : String) (fuel addr : Nat) :
    Program (Option (Option String)) := do
  .perform (Op.printf "mmap=%p\n" [] [addr])
  let start := alignUp addr largePageSize
  let stop := (start + length / 2) % 2 ^ 64
  if start < stop then
    let final ← loop fuel start stop flag
    return final.map fun flag => if passes flag then none else some message
  else
    return some (some "address overflow.")

/-- The run function of `mem_large_page#0`. -/
def runFunc0 (fuel : Nat) : Program (Option (Option String)) := do
  let addr ← .perform (Op.mmap length (-1))
  if addr = mapFailed then
    return some (some "mmap error.")
  else
    probeMapping probeLarge (-1) (· ≠ 0) "invalid page size?" fuel addr

/-- The run function of `mem_large_page#4`. -/
def runFunc4 (fuel : Nat) : Program (Option (Option String)) := do
  match ← .perform (Op.createTempFile "mem_large_page_004" length) with
  | none => return some (some "create temp file error.")
  | some filePath =>
      let fd ← .perform (Op.openFile filePath)
      if fd = -1 then
        return some (some "file open error.")
      else
        let addr ← .perform (Op.mmap length fd)
        if addr = mapFailed then
          return some (some "mmap error.")
        else
          probeMapping probeNormal 0 (· = 0) "invalid page size." fuel addr

end McKernelTest.MemLargePage
