import Mathlib.Logic.Function.Basic

/-!
# Demand-paged mappings

A mapping shows the pages of an object to a program.  Its page table is filled
on demand: the first access to a page asks the object's owner which page of the
object lies there.  A shared mapping stores into the object.  A private one makes
a copy of the page at the first store and keeps to the copy from then on.

The owner's answers are a parameter, and an access without an answer has no
result.  What an access finds is described by `Mapping.find`, which does not see
whether a page has already been entered in the table.
-/

namespace McKernelTest.Posix

/-- An entry of a page table: a page of the object, or a private copy. -/
inductive Page where
  | object (number : Nat)
  | copy (bytes : Nat → UInt8)

/-- The byte at an offset of a page. -/
def Page.read (pageSize : Nat) (object : Nat → UInt8) (offset : Nat) : Page → UInt8
  | .object number => object (number * pageSize + offset)
  | .copy bytes => bytes offset

/-- A mapping of whole pages and its page table. -/
structure Mapping where
  start : Nat
  pages : Nat
  shared : Bool
  table : Nat → Option Page

namespace Mapping

/-- A mapping that has not been accessed. -/
def fresh (start pages : Nat) (shared : Bool) : Mapping :=
  ⟨start, pages, shared, fun _ => none⟩

/-- Enter a page in the table. -/
def enter (mapping : Mapping) (index : Nat) (page : Page) : Mapping :=
  { mapping with table := Function.update mapping.table index (some page) }

/-- The page that an access finds: the one in the table, or else the one the
object's owner hands out. -/
def find (fault : Nat → Option Nat) (mapping : Mapping) (index : Nat) : Option Page :=
  mapping.table index <|> (fault index).map .object

/-- The address belongs to the mapping. -/
def Covers (pageSize : Nat) (mapping : Mapping) (address : Nat) : Prop :=
  mapping.start ≤ address ∧ address < mapping.start + mapping.pages * pageSize

instance (pageSize : Nat) (mapping : Mapping) (address : Nat) :
    Decidable (mapping.Covers pageSize address) :=
  inferInstanceAs (Decidable (_ ∧ _))

/-- Load a byte. -/
def load (pageSize : Nat) (fault : Nat → Option Nat) (object : Nat → UInt8) (mapping : Mapping)
    (address : Nat) : Option (UInt8 × Mapping) :=
  if mapping.Covers pageSize address then
    let index := (address - mapping.start) / pageSize
    (mapping.find fault index).map fun page =>
      (page.read pageSize object ((address - mapping.start) % pageSize), mapping.enter index page)
  else
    none

/-- A store to a page: the page the table has afterwards, and the object. -/
def storePage (pageSize : Nat) (object : Nat → UInt8) (shared : Bool) (offset : Nat)
    (value : UInt8) : Page → Page × (Nat → UInt8)
  | .copy bytes => (.copy (Function.update bytes offset value), object)
  | .object number =>
      if shared then
        (.object number, Function.update object (number * pageSize + offset) value)
      else
        (.copy (Function.update (fun other => object (number * pageSize + other)) offset value),
          object)

/-- Store a byte. -/
def store (pageSize : Nat) (fault : Nat → Option Nat) (object : Nat → UInt8) (mapping : Mapping)
    (address : Nat) (value : UInt8) : Option (Mapping × (Nat → UInt8)) :=
  if mapping.Covers pageSize address then
    let index := (address - mapping.start) / pageSize
    (mapping.find fault index).map fun page =>
      let (page, object) := storePage pageSize object mapping.shared
        ((address - mapping.start) % pageSize) value page
      (mapping.enter index page, object)
  else
    none

section Access

variable {pageSize : Nat} {fault : Nat → Option Nat} {object : Nat → UInt8} {mapping : Mapping}
  {index offset : Nat} {page : Page} {value : UInt8}

theorem find_enter : (mapping.enter index page).find fault =
    Function.update (mapping.find fault) index (some page) := by
  funext other
  by_cases same : other = index
  · subst same
    simp [find, enter]
  · simp [find, enter, same]

/-- Entering the page that was found changes nothing that can be seen. -/
theorem find_enter_found (found : mapping.find fault index = some page) :
    (mapping.enter index page).find fault = mapping.find fault := by
  rw [find_enter, ← found, Function.update_eq_self]

/-- The addresses of a mapping by page and offset. -/
theorem covers_page (known : index < mapping.pages) (small : offset < pageSize) :
    mapping.Covers pageSize (mapping.start + pageSize * index + offset) := by
  have next : pageSize * (index + 1) ≤ pageSize * mapping.pages := Nat.mul_le_mul_left _ known
  rw [Nat.mul_succ] at next
  rw [Covers, Nat.mul_comm mapping.pages]
  omega

theorem index_page (start index : Nat) (small : offset < pageSize) :
    (start + pageSize * index + offset - start) / pageSize = index ∧
      (start + pageSize * index + offset - start) % pageSize = offset := by
  have flat : start + pageSize * index + offset - start = offset + pageSize * index := by omega
  rw [flat, Nat.add_mul_div_left _ _ (Nat.zero_lt_of_lt small), Nat.add_mul_mod_self_left,
    Nat.div_eq_of_lt small, Nat.mod_eq_of_lt small, Nat.zero_add]
  exact ⟨rfl, rfl⟩

/-- A load from a page that can be found. -/
theorem load_page (object : Nat → UInt8) (known : index < mapping.pages) (small : offset < pageSize)
    (found : mapping.find fault index = some page) :
    mapping.load pageSize fault object (mapping.start + pageSize * index + offset) =
      some (page.read pageSize object offset, mapping.enter index page) := by
  rcases index_page mapping.start index small with ⟨isIndex, isOffset⟩
  simp only [load, if_pos (covers_page known small), isIndex, isOffset, found, Option.map_some]

/-- A store to a page that can be found. -/
theorem store_page (object : Nat → UInt8) (value : UInt8) (known : index < mapping.pages)
    (small : offset < pageSize) (found : mapping.find fault index = some page) :
    mapping.store pageSize fault object (mapping.start + pageSize * index + offset) value =
      some (mapping.enter index (storePage pageSize object mapping.shared offset value page).1,
        (storePage pageSize object mapping.shared offset value page).2) := by
  rcases index_page mapping.start index small with ⟨isIndex, isOffset⟩
  simp only [store, if_pos (covers_page known small), isIndex, isOffset, found, Option.map_some]

end Access

end Mapping

end McKernelTest.Posix
