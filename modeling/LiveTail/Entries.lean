/-! Finite maps from names: lists of entries in ascending order of the names, by code points. -/
namespace LiveTail

/-- Named values; every function here keeps the names in strictly ascending order. -/
abbrev Entries (α : Type) := List (String × α)

namespace Entries

variable {α : Type}

/-- Sets the value of a name, in place of an earlier one. -/
def insert (key : String) (value : α) : Entries α → Entries α
  | [] => [(key, value)]
  | (k, v) :: r =>
    if key < k then (key, value) :: (k, v) :: r
    else if key = k then (key, value) :: r
    else (k, v) :: insert key value r

/-- The entries of a list, the last value of each name. -/
def ofList (l : List (String × α)) : Entries α :=
  l.foldl (fun m e => m.insert e.1 e.2) []

/-- The value of a name. -/
def get? (key : String) : Entries α → Option α
  | [] => none
  | (k, v) :: r => if k = key then some v else get? key r

/-- The names are strictly ascending. -/
def Sorted (m : Entries α) : Prop := m.Pairwise (fun a b => a.1 < b.1)

theorem get?_insert_self (key : String) (value : α) (m : Entries α) :
    (m.insert key value).get? key = some value := by
  induction m with
  | nil => simp [insert, get?]
  | cons e r ih =>
    obtain ⟨k, v⟩ := e
    simp only [insert]
    split
    · simp [get?]
    · split
      · simp [get?]
      · rename_i h
        simp [get?, Ne.symm h, ih]

theorem get?_insert_of_ne {key k : String} (value : α) (m : Entries α) (h : key ≠ k) :
    (m.insert key value).get? k = m.get? k := by
  induction m with
  | nil => simp [insert, get?, h]
  | cons e r ih =>
    obtain ⟨k', v⟩ := e
    simp only [insert]
    split
    · simp [get?, h]
    · split
      · rename_i hk; subst hk; simp [get?, h]
      · simp [get?, ih]

end Entries

end LiveTail
