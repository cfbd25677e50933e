/-
  This file defines results that carry the log entries made
  on the way to them, oldest first.

  Key definitions include:
    * `Logged`
    * `Logged.ofValue`
    * `Logged.bind`
    * `Logged.map`
    * `Logged.mapLog`
-/

namespace TreePath

------------------------------------------------------------
-- Logged Results
------------------------------------------------------------

/- A value together with the entries logged to reach it. -/
structure Logged (ε α : Type) where
  value : α
  log : List ε

namespace Logged

variable {ε ε' α β : Type}

/- A value reached in silence. -/
def ofValue
    (a : α) : Logged ε α :=
  ⟨a, []⟩

/- Go on from a result; the new entries come last. -/
def bind
    (x : Logged ε α)
    (f : α → Logged ε β) : Logged ε β :=
  ⟨(f x.value).value, x.log ++ (f x.value).log⟩

/- Map the value and keep the entries. -/
def map
    (f : α → β)
    (x : Logged ε α) : Logged ε β :=
  ⟨f x.value, x.log⟩

/- Map the entries and keep the value. -/
def mapLog
    (f : ε → ε')
    (x : Logged ε α) : Logged ε' α :=
  ⟨x.value, x.log.map f⟩

instance : Monad (Logged ε) where
  pure := ofValue
  bind := bind

------------------------------------------------------------
-- Projections
------------------------------------------------------------

@[simp] theorem value_ofValue
    (a : α) :
    (ofValue a : Logged ε α).value = a :=
  rfl

@[simp] theorem log_ofValue
    (a : α) :
    (ofValue a : Logged ε α).log = [] :=
  rfl

@[simp] theorem value_bind
    (x : Logged ε α)
    (f : α → Logged ε β) :
    (x.bind f).value = (f x.value).value :=
  rfl

@[simp] theorem log_bind
    (x : Logged ε α)
    (f : α → Logged ε β) :
    (x.bind f).log = x.log ++ (f x.value).log :=
  rfl

@[simp] theorem value_map
    (f : α → β)
    (x : Logged ε α) :
    (x.map f).value = f x.value :=
  rfl

@[simp] theorem log_map
    (f : α → β)
    (x : Logged ε α) :
    (x.map f).log = x.log :=
  rfl

@[simp] theorem value_mapLog
    (f : ε → ε')
    (x : Logged ε α) :
    (x.mapLog f).value = x.value :=
  rfl

@[simp] theorem log_mapLog
    (f : ε → ε')
    (x : Logged ε α) :
    (x.mapLog f).log = x.log.map f :=
  rfl

end Logged

end TreePath
