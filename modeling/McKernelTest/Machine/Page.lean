import McKernelTest.Machine.Align

/-!
# Page sizes

The page macros of the test program and the driver, with the shifts of x86.
-/

namespace McKernelTest.Machine

/-- `PAGE_SHIFT`. -/
def pageShift : Nat := 12

/-- `LARGE_PAGE_SHIFT`. -/
def largePageShift : Nat := 21

/-- `PAGE_SIZE`. -/
def pageSize : Nat :=
  2 ^ pageShift

/-- `LARGE_PAGE_SIZE`. -/
def largePageSize : Nat :=
  2 ^ largePageShift

/-- `PAGE_MASK`. -/
def pageMask : Nat :=
  complement (pageSize - 1)

theorem pageSize_eq : pageSize = 4096 :=
  rfl

theorem largePageSize_eq : largePageSize = 2097152 :=
  rfl

/-- Masking an address gives the beginning of its page. -/
theorem and_pageMask {va : Nat} (isUlong : va < 2 ^ 64) :
    va &&& pageMask = va / pageSize * pageSize :=
  alignDown_two_pow isUlong (by decide)

end McKernelTest.Machine
