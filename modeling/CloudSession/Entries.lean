/-! # Entries

Keys with what they stand for, in the order the keys first appeared. Every map whose order an answer
can show is kept this way: headers, directories, details of a fault.
-/

namespace CloudSession

abbrev Entries (κ α : Type) := List (κ × α)

namespace Entries

variable {κ α : Type}

def names (entries : Entries κ α) : List κ := entries.map Prod.fst

def values (entries : Entries κ α) : List α := entries.map Prod.snd

variable [BEq κ]

def get? (entries : Entries κ α) (name : κ) : Option α := entries.lookup name

/-- Set an entry: a known name keeps its place, a new one goes to the end. -/
def put (name : κ) (value : α) : Entries κ α → Entries κ α
  | [] => [(name, value)]
  | (n, v) :: rest => if name == n then (n, value) :: rest else (n, v) :: put name value rest

theorem get?_cons (n : κ) (v : α) (rest : Entries κ α) (name : κ) :
    get? ((n, v) :: rest) name = if name == n then some v else get? rest name := by
  by_cases h : name == n <;> simp [get?, List.lookup_cons, h]

theorem get?_put_self (entries : Entries κ α) {name : κ} (value : α)
    (same : (name == name) = true) : get? (put name value entries) name = some value := by
  induction entries with
  | nil => simp [put, get?_cons, same]
  | cons head rest ih =>
    obtain ⟨n, v⟩ := head
    by_cases known : name == n <;> simp [put, get?_cons, known, ih]

theorem get?_put [LawfulBEq κ] (entries : Entries κ α) (name other : κ) (value : α) :
    get? (put name value entries) other =
      if other == name then some value else get? entries other := by
  induction entries with
  | nil => simp [put, get?_cons]
  | cons head rest ih =>
    obtain ⟨n, v⟩ := head
    by_cases known : name = n
    · by_cases h : other == n <;> simp [put, get?_cons, known, h]
    · by_cases h : other = n
      · simp [put, get?_cons, known, h, Ne.symm known]
      · simp [put, get?_cons, known, h, ih]

/-- The names once an entry was set, in order. -/
theorem names_put [LawfulBEq κ] (entries : Entries κ α) (name : κ) (value : α) :
    names (put name value entries) =
      if (names entries).contains name then names entries else names entries ++ [name] := by
  induction entries with
  | nil => simp [put, names]
  | cons head rest ih =>
    obtain ⟨n, v⟩ := head
    by_cases known : name = n
    · simp [put, names, known]
    · by_cases within : name ∈ names rest <;>
        simp_all [put, names]

/-- Entries written one after another: the first mention gives the place, the last the value. -/
def ofList (entries : List (κ × α)) : Entries κ α :=
  entries.foldl (fun known (name, value) => put name value known) []

/-- Entries of `later` laid upon those of `entries`. -/
def update (entries later : Entries κ α) : Entries κ α :=
  later.foldl (fun acc (name, value) => put name value acc) entries

end Entries

end CloudSession
