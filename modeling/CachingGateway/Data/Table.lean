/-
Finite maps as lists of rows. Inserting under a key that is present replaces its row in place, so
keys stay distinct and rows keep the order in which their keys first came.
-/

namespace CachingGateway

structure Table (key value : Type) where
  rows : List (key × value)
  deriving Repr, DecidableEq

namespace Table

variable {key value : Type}

def empty : Table key value := ⟨[]⟩

instance : Inhabited (Table key value) := ⟨empty⟩

def size (table : Table key value) : Nat :=
  table.rows.length

def keys (table : Table key value) : List key :=
  table.rows.map Prod.fst

def values (table : Table key value) : List value :=
  table.rows.map Prod.snd

variable [DecidableEq key]

def find? (table : Table key value) (sought : key) : Option value :=
  (table.rows.find? fun row => row.1 = sought).map Prod.snd

def insertRow (inserted : key) (content : value) : List (key × value) → List (key × value)
  | [] => [(inserted, content)]
  | row :: rest =>
    if row.1 = inserted then (inserted, content) :: rest
    else row :: insertRow inserted content rest

def insert (table : Table key value) (inserted : key) (content : value) : Table key value :=
  ⟨insertRow inserted content table.rows⟩

def erase (table : Table key value) (erased : key) : Table key value :=
  ⟨table.rows.filter fun row => row.1 ≠ erased⟩

def filterValues (table : Table key value) (keep : value → Bool) : Table key value :=
  ⟨table.rows.filter fun row => keep row.2⟩

def alter (table : Table key value) (altered : key) (change : Option value → value) :
    Table key value :=
  table.insert altered (change (table.find? altered))

end Table

end CachingGateway
