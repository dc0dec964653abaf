/-!
# Finite tables

A table gives values to finitely many keys.  Setting a key again replaces its value.
-/

namespace DisplayInventory

/-- Values by key; of several entries with one key the first counts. -/
structure Table (κ α : Type) where
  entries : List (κ × α) := []
  deriving DecidableEq

namespace Table

variable {κ α : Type} [DecidableEq κ]

def findIn (key : κ) : List (κ × α) -> Option α
  | [] => none
  | entry :: rest => if entry.1 = key then some entry.2 else findIn key rest

def find? (table : Table κ α) (key : κ) : Option α :=
  findIn key table.entries

def contains (table : Table κ α) (key : κ) : Bool :=
  (table.find? key).isSome

def erase (table : Table κ α) (key : κ) : Table κ α :=
  ⟨table.entries.filter fun entry => decide (entry.1 ≠ key)⟩

def insert (table : Table κ α) (key : κ) (value : α) : Table κ α :=
  ⟨(key, value) :: (table.erase key).entries⟩

/-- The table with the entries of a list, of which a later one replaces an earlier one. -/
def ofList (entries : List (κ × α)) : Table κ α :=
  entries.foldl (fun table entry => table.insert entry.1 entry.2) ⟨[]⟩

theorem findIn_filter_self (entries : List (κ × α)) (key : κ) :
    findIn key (entries.filter fun entry => decide (entry.1 ≠ key)) = none := by
  induction entries with
  | nil => rfl
  | cons entry rest ih =>
      by_cases h : entry.1 = key
      · simpa [h] using ih
      · simpa [h, findIn] using ih

theorem findIn_filter_of_ne (entries : List (κ × α)) {key other : κ} (hne : other ≠ key) :
    findIn other (entries.filter fun entry => decide (entry.1 ≠ key)) =
      findIn other entries := by
  induction entries with
  | nil => rfl
  | cons entry rest ih =>
      by_cases h : entry.1 = key
      · have hother : ¬entry.1 = other := fun heq => hne (heq.symm.trans h)
        simpa [h, findIn, Ne.symm hne] using ih
      · by_cases ho : entry.1 = other
        · simp [findIn, ho, hne]
        · simpa [h, findIn, ho] using ih

theorem find?_erase_self (table : Table κ α) (key : κ) : (table.erase key).find? key = none :=
  findIn_filter_self table.entries key

theorem find?_erase_of_ne (table : Table κ α) {key other : κ} (hne : other ≠ key) :
    (table.erase key).find? other = table.find? other :=
  findIn_filter_of_ne table.entries hne

theorem find?_insert_self (table : Table κ α) (key : κ) (value : α) :
    (table.insert key value).find? key = some value := by
  simp [find?, insert, findIn]

theorem find?_insert_of_ne (table : Table κ α) {key other : κ} (value : α)
    (hne : other ≠ key) : (table.insert key value).find? other = table.find? other := by
  rw [← find?_erase_of_ne table hne]
  simp [find?, insert, findIn, Ne.symm hne]

end Table

end DisplayInventory
