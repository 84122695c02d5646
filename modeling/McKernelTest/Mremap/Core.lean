import McKernelTest.Machine.Page
import McKernelTest.Machine.Word
import McKernelTest.Posix.AddressSpace
import McKernelTest.Text.Numeral
import Mathlib.Data.List.Basic

/-!
# The address-space layouts of the `mremap` tests

`mremap_mmap_anon` reserves one block and then overwrites it piece by piece.  Both
of its loops count with an `int` that is compared with a `size_t`: after `2 ^ 31`
entries the counter is negative, compares as a huge number and ends the loop.
-/

namespace McKernelTest.Mremap

open Machine Posix

/-- `PROT_NONE`. -/
def protNone : BitVec 32 := 0

/-- `PROT_READ`. -/
def protRead : BitVec 32 := 1

/-- `PROT_WRITE`. -/
def protWrite : BitVec 32 := 2

/-- The fields of `struct mremap_mmap_anon_param` that the caller sets. -/
structure Request where
  size : Nat
  nopage : Int
  shared : Int
  prot : BitVec 32

/-- `struct mremap_mmap_anon_param`. -/
structure MremapMmapAnonParam extends Request where
  addr : Nat

/-- `sizeof(struct mremap_mmap_anon_param)`. -/
def sizeofParam : Nat := 32

/-- `MAP_FAILED`. -/
def mapFailed : Nat := 2 ^ 64 - 1

/-- The outcomes of the calls.  `reserve` is the address that the first `mmap`
returns.  `format` is the call for an entry: a call that fails may leave anything
in its range. -/
structure Calls where
  reserve : Option Nat
  format : Nat → Option AddressSpace

/-- What the function leaves: its result, the parameters and the address space. -/
structure Result where
  ret : Nat
  params : List MremapMmapAnonParam
  space : AddressSpace

/-- The loop variable `int i` in the round with the given number. -/
def loopVar (index : Nat) : Int :=
  toInt index

/-- The loop condition `i < count`, a comparison of `size_t` values. -/
def Continues (count index : Nat) : Prop :=
  toUlong (loopVar index) < count

instance (count index : Nat) : Decidable (Continues count index) :=
  inferInstanceAs (Decidable (_ < _))

/-- The first loop from the given round on: the sum of the sizes, or nothing if it
overflows, and the parameters. -/
def sumSizes (count : Nat) :
    Nat → Nat → List MremapMmapAnonParam → Option Nat × List MremapMmapAnonParam
  | _, totalSize, [] => (some totalSize, [])
  | index, totalSize, param :: rest =>
      if Continues count index then
        let sum := toUlong (totalSize + param.size)
        if sum < totalSize then
          (none, param :: rest)
        else
          let (total, rest) := sumSizes count (index + 1) sum rest
          (total, { param with addr := mapFailed } :: rest)
      else
        (some totalSize, param :: rest)

/-- What a successful call makes of the range of an entry. -/
def formatEntry (space : AddressSpace) (index addr : Nat) (request : Request) : AddressSpace :=
  if request.nopage ≠ 0 then
    space.unmap pageSize addr request.size
  else
    let space := space.mapFixed pageSize addr request.size request.prot
      (decide (request.shared ≠ 0))
    if request.prot &&& protWrite ≠ 0 then
      space.memset addr request.size (UInt8.ofNat ('0'.toNat + index))
    else
      space

/-- The second loop from the given round on. -/
def formatSpace (calls : Calls) (count : Nat) :
    Nat → Nat → AddressSpace → List MremapMmapAnonParam → Result
  | index, _, space, [] => ⟨toUlong (loopVar index), [], space⟩
  | index, addr, space, param :: rest =>
      if Continues count index then
        let param := { param with addr := addr }
        match calls.format index with
        | some leftover =>
            ⟨toUlong (loopVar index), param :: rest,
              space.overwrite addr (roundUp pageSize param.size) leftover⟩
        | none =>
            let result := formatSpace calls count (index + 1) (addr + param.size)
              (formatEntry space index addr param.toRequest) rest
            { result with params := param :: result.params }
      else
        ⟨toUlong (loopVar index), param :: rest, space⟩

/-- `mremap_mmap_anon`; `count` is the length of the array. -/
def mremapMmapAnon (calls : Calls) (space : AddressSpace) (params : List MremapMmapAnonParam) :
    Result :=
  match sumSizes params.length 0 0 params with
  | (none, params) => ⟨0, params, space⟩
  | (some totalSize, params) =>
      match calls.reserve with
      | none => ⟨0, params, space⟩
      | some addr =>
          formatSpace calls params.length 0 addr
            (space.mapFixed pageSize addr totalSize protNone true) params

/-- The loop of `mremap_mmap_anon_data_check` from an index on: nothing if it faults,
or else the message it returns. -/
def dataCheckFrom (space : AddressSpace) (addr : Nat) (expected : UInt8) :
    Nat → Nat → Option (Option String)
  | 0, _ => some none
  | remaining + 1, idx =>
      match space (addr + idx) with
      | none => none
      | some cell =>
          if cell.prot &&& protRead = 0 then none
          else if cell.value ≠ expected then some (some "data check error.")
          else dataCheckFrom space addr expected remaining (idx + 1)

/-- `mremap_mmap_anon_data_check`. -/
def mremapMmapAnonDataCheck (space : AddressSpace) (addr len : Nat) (expected : UInt8) :
    Option (Option String) :=
  dataCheckFrom space addr expected len 0

/-! ## What the layout is -/

/-- The sum of the sizes. -/
def totalSize : List Request → Nat
  | [] => 0
  | request :: rest => request.size + totalSize rest

/-- The number of rounds after which an `int` that counts them is negative. -/
def maxRounds : Nat := 2 ^ 31

/-- The size of the reserved block, which is made for the entries that the loops
visit. -/
def reservedSize (requests : List Request) : Nat :=
  totalSize (requests.take maxRounds)

/-- The entry with the given number has been laid out at an address. -/
structure EntryLaid (space : AddressSpace) (index addr : Nat) (request : Request) : Prop where
  freed : request.nopage ≠ 0 → ∀ address, InRange addr request.size address → space address = none
  mapped : request.nopage = 0 → ∀ address, InRange addr request.size address →
    ∃ cell, space address = some cell ∧ cell.prot = request.prot ∧
      cell.shared = decide (request.shared ≠ 0) ∧
      (request.prot &&& protWrite ≠ 0 → cell.value = UInt8.ofNat ('0'.toNat + index))

/-- The first `n` entries lie one after the other in the block, as they were asked
for, and nothing has changed outside it. -/
structure LaidOut (requests : List Request) (start : Nat) (before : AddressSpace)
    (result : Result) (n : Nat) : Prop where
  kept : result.params.map (·.toRequest) = requests
  addr : ∀ i < n, ∀ entry, result.params[i]? = some entry →
    ∃ first, result.params[0]? = some first ∧
      entry.addr = first.addr + totalSize (requests.take i)
  disjoint : ∀ i j, i < j → j < n → ∀ first second, result.params[i]? = some first →
    result.params[j]? = some second → first.addr + first.size ≤ second.addr
  inside : ∀ i < n, ∀ entry, result.params[i]? = some entry →
    start ≤ entry.addr ∧ entry.addr + entry.size ≤ start + reservedSize requests
  laid : ∀ i < n, ∀ entry, result.params[i]? = some entry →
    EntryLaid result.space i entry.addr entry.toRequest
  outside : ∀ address, ¬InRange start (reservedSize requests) address →
    result.space address = before address

/-- A size the caller may ask for: whole pages, and a value of `size_t`. -/
structure Request.Valid (request : Request) : Prop where
  positive : 0 < request.size
  wholePages : request.size % pageSize = 0
  size_lt : request.size < 2 ^ 64

end McKernelTest.Mremap
