/-!
# Tables

A table maps texts to values. Its entries stand in the order of their keys, so two tables that
answer every key alike are written alike.
-/

namespace StoryTrace

abbrev Table (α : Type) := List (String × α)

namespace Table

variable {α : Type}

/-- The value at a key. -/
def get? (t : Table α) (key : String) : Option α :=
  match t with
  | [] => none
  | (k, v) :: rest => if k = key then some v else get? rest key

/-- The table with the value at a key set. -/
def put (t : Table α) (key : String) (value : α) : Table α :=
  match t with
  | [] => [(key, value)]
  | (k, v) :: rest =>
    if k = key then (key, value) :: rest
    else if key < k then (key, value) :: (k, v) :: rest
    else (k, v) :: put rest key value

/-- The first table with every entry of the second put into it. -/
def merge (t more : Table α) : Table α := more.foldl (fun t e => put t e.1 e.2) t

/-- The table without a key. -/
def erase (t : Table α) (key : String) : Table α := t.filter (·.1 ≠ key)

/-- The table of the given entries, of which the last one with a key counts. -/
def ofList (entries : List (String × α)) : Table α := merge [] entries

def keys (t : Table α) : List String := t.map (·.1)

/-- The keys stand in strictly increasing order. -/
def Sorted (t : Table α) : Prop := t.Pairwise (·.1 < ·.1)

@[simp] theorem get?_nil (key : String) : get? ([] : Table α) key = none := rfl

@[simp] theorem get?_put (t : Table α) (key other : String) (value : α) :
    get? (put t key value) other = if key = other then some value else get? t other := by
  induction t with
  | nil => simp [put, get?]
  | cons e rest ih =>
    obtain ⟨k, v⟩ := e
    by_cases hk : k = key
    · subst hk
      by_cases ho : k = other <;> simp [put, get?, ho]
    · by_cases hl : key < k
      · simp only [put, hk, hl, if_false, if_true, get?]
      · simp only [put, hk, hl, if_false, get?, ih]
        by_cases ho : k = other
        · have : key ≠ other := fun h => hk (ho.trans h.symm)
          simp [ho, this]
        · simp [ho]

theorem get?_erase (t : Table α) (key other : String) :
    get? (erase t key) other = if other = key then none else get? t other := by
  induction t with
  | nil => simp [erase]
  | cons e rest ih =>
    obtain ⟨k, v⟩ := e
    rw [erase] at ih ⊢
    by_cases hk : k = key
    · subst hk
      by_cases ho : other = k
      · subst ho; simpa using ih
      · simp [get?, Ne.symm ho] at ih ⊢; simpa [ho] using ih
    · by_cases ho : k = other
      · subst ho; simp [hk, get?]
      · simp [hk, get?, ho]; simpa using ih

end Table

end StoryTrace
