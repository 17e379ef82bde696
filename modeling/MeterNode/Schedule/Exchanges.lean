import MeterNode.Connection.State

/-!
# Owners of exchanges

Entries may share a connection.  While a batch of one of them is out, that entry owns the
connection and no other entry touches it.  The owners are a finite map from connections to the
places of entries, kept as pairs with every connection at most once.
-/

namespace MeterNode

/-- Which entry owns which connection. -/
abbrev Exchanges := List (ConnId × Nat)

namespace Exchanges

/-- The owner of a connection. -/
def owner? (x : Exchanges) (conn : ConnId) : Option Nat :=
  (x.find? fun pair => pair.1 = conn).map Prod.snd

/-- Free a connection. -/
def erase (x : Exchanges) (conn : ConnId) : Exchanges := x.filter fun pair => pair.1 ≠ conn

/-- Give a connection to an entry. -/
def insert (x : Exchanges) (conn : ConnId) (entry : Nat) : Exchanges :=
  (conn, entry) :: x.erase conn

/-- Book that an entry is busy on a connection or no longer is. -/
def book (x : Exchanges) (conn : ConnId) (entry : Nat) (busy : Bool) : Exchanges :=
  if busy then x.insert conn entry
  else if x.owner? conn = some entry then x.erase conn
  else x

@[simp] theorem owner?_nil (conn : ConnId) : owner? [] conn = none := rfl

@[simp] theorem owner?_insert_self (x : Exchanges) (conn : ConnId) (entry : Nat) :
    (x.insert conn entry).owner? conn = some entry := by
  simp [insert, owner?]

theorem owner?_erase (x : Exchanges) (conn other : ConnId) :
    (x.erase conn).owner? other = if other = conn then none else x.owner? other := by
  induction x with
  | nil => simp [erase, owner?]
  | cons pair rest ih =>
    simp only [erase, owner?, List.filter_cons, List.find?_cons] at ih ⊢
    by_cases hp : pair.1 = conn <;> by_cases ho : other = conn <;> grind

theorem owner?_insert_ne (x : Exchanges) {conn other : ConnId} (entry : Nat) (h : other ≠ conn) :
    (x.insert conn entry).owner? other = x.owner? other := by
  have he := owner?_erase x conn other
  rw [if_neg h] at he
  rw [← he]
  simp [insert, owner?, Ne.symm h]

end Exchanges

end MeterNode
