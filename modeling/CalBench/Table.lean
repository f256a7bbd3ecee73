/-
Tables with text keys.

A `Table` keeps at most one value per key, in the order in which the keys first arrived. Its view is
`get?`: what was inserted last under a key is found there, and inserting touches no other key.
-/

namespace CalBench

/-- values by key, in order of arrival -/
structure Table (α : Type) where
  entries : List (String × α)
deriving DecidableEq, Repr

namespace Table

variable {α : Type}

def empty : Table α := ⟨[]⟩

instance : Inhabited (Table α) := ⟨empty⟩

def get? (t : Table α) (key : String) : Option α :=
  (t.entries.find? fun e => e.1 == key).map Prod.snd

def contains (t : Table α) (key : String) : Bool := t.entries.any fun e => e.1 == key

/-- entries with one replaced, or with a new one at the end -/
def put (key : String) (value : α) : List (String × α) → List (String × α)
  | [] => [(key, value)]
  | e :: rest => if e.1 == key then (key, value) :: rest else e :: put key value rest

/-- Stores a value under a key, over an earlier one. -/
def insert (t : Table α) (key : String) (value : α) : Table α := ⟨put key value t.entries⟩

def erase (t : Table α) (key : String) : Table α := ⟨t.entries.filter fun e => e.1 != key⟩

/-- the table of a list of pairs, later ones over earlier ones -/
def ofList (pairs : List (String × α)) : Table α := pairs.foldl (fun t e => t.insert e.1 e.2) empty

theorem find?_put (key key' : String) (value : α) (entries : List (String × α)) :
    ((put key value entries).find? fun e => e.1 == key').map Prod.snd =
      if key' = key then some value else (entries.find? fun e => e.1 == key').map Prod.snd := by
  induction entries with
  | nil =>
    by_cases h : key' = key
    · simp [put, h]
    · simp [put, h, Ne.symm h]
  | cons e rest ih =>
    unfold put
    by_cases he : e.1 = key
    · by_cases h : key' = key
      · simp [he, h]
      · simp [he, h, Ne.symm h]
    · by_cases h' : e.1 = key'
      · have hne : ¬ key' = key := fun hk => he (h'.trans hk)
        simp [h', hne]
      · simp [he, h', ih]

@[simp] theorem get?_empty (key : String) : (empty : Table α).get? key = none := rfl

theorem contains_eq_isSome (t : Table α) (key : String) : t.contains key = (t.get? key).isSome := by
  rw [contains, get?, Option.isSome_map, Bool.eq_iff_iff, List.any_eq_true, List.find?_isSome]

theorem get?_insert (t : Table α) (key key' : String) (value : α) :
    (t.insert key value).get? key' = if key' = key then some value else t.get? key' :=
  find?_put key key' value t.entries

@[simp] theorem get?_insert_self (t : Table α) (key : String) (value : α) :
    (t.insert key value).get? key = some value := by simp [get?_insert]

end Table

end CalBench
