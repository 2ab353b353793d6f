import TableScript.Assoc
import TableScript.Service.Endpoint
import TableScript.Service.Route
import TableScript.Session.Error
import TableScript.Value.Basic

set_option autoImplicit false

namespace TableScript

structure Environment where
  bindings : List (String × Value)

namespace Environment

def empty : Environment := ⟨[]⟩

def binding? (env : Environment) (name : String) : Option Value := Assoc.find? env.bindings name

def get? (env : Environment) (name : String) : Option Value :=
  match env.binding? name with
  | some .none => none
  | found => found

def set (env : Environment) (name : String) (value : Value) : Environment :=
  ⟨Assoc.put env.bindings name value⟩

def contains (env : Environment) (name : String) : Bool := (env.binding? name).isSome

def size (env : Environment) : Nat := env.bindings.length

@[simp] theorem binding?_set_self (env : Environment) (name : String) (value : Value) :
    (env.set name value).binding? name = some value := by
  simp [binding?, set]

theorem binding?_set_of_ne (env : Environment) (name other : String) (value : Value)
    (h : other ≠ name) : (env.set name value).binding? other = env.binding? other := by
  simp [binding?, set, Assoc.find?_put_of_ne _ _ _ _ h]

end Environment

inductive Event where
  | print (line : String)
  | row (line : String)
  | step (heading : String)
  | done (message : String)
deriving DecidableEq, Repr

/-- A service finds its database in the slot that it was handed. -/
structure ApiService where
  title : String
  endpoint : Endpoint
  storage : Slot
deriving DecidableEq, Repr

structure Session (E : Engine) where
  environment : Environment
  store : E.State
  slots : Slots E
  storage : Slot
  service : Option ApiService
  /-- Services that were replaced by later ones; they go on listening. -/
  replaced : List ApiService
  events : List Event

structure Settings where
  host : Host
  endpoint : Endpoint

namespace Session

variable {E : Engine}

def empty : Session E := ⟨.empty, E.initial, .empty, 0, none, [], []⟩

def connection (s : Session E) : Option E.Connection := s.slots.get? s.storage

def install (s : Session E) (connection : E.Connection) : Session E :=
  { s with slots := s.slots.install s.storage connection }

def withStore (s : Session E) (store : E.State) : Session E := { s with store := store }

def listening (s : Session E) : List ApiService := s.service.toList ++ s.replaced

def report (s : Session E) (e : Event) : Session E := { s with events := s.events ++ [e] }

def quiet (s : Session E) : Session E := { s with events := [] }

def start (s : Session E) (service : ApiService) : Session E :=
  { s with service := some service, replaced := s.listening }

def shutdown (s : Session E) : Session E := { s with service := none }

def answer (s : Session E) (service : ApiService) (method url : String) : Response :=
  Service.route service.title s.store (s.slots.get? service.storage) method url

def request (s : Session E) (host : Host) (method url : String) :
    Except OsError (Option Response) :=
  match s.service with
  | none => .ok none
  | some service => do
    host.connect service.endpoint
    return some (s.answer service method url)

end Session

abbrev Run (E : Engine) (α : Type) := ExceptT EvalError (StateM (Session E)) α

namespace Run

variable {E : Engine} {α : Type}

def report (e : Event) : Run E Unit := modify fun s => s.report e

def ofOperator (r : Except OperatorError α) : Run E α :=
  match r with
  | .ok a => pure a
  | .error e => throw (.operator e)

def ofIndex (r : Except IndexFault α) : Run E α :=
  match r with
  | .ok a => pure a
  | .error e => throw (.index e)

def ofStorage (r : Except StorageError α) : Run E α :=
  match r with
  | .ok a => pure a
  | .error e => throw (.storage e)

/-- Announces a change of what is stored, makes it, and reports that it is made. -/
def perform (heading : String) (attempt : E.State → Except StorageError α)
    (keep : α → Session E → Session E) (message : String) : Run E Unit := do
  report (.step heading)
  let a ← ofStorage (attempt (← get).store)
  modify (keep a)
  report (.done message)

theorem run_bind {σ β : Type} (x : ExceptT EvalError (StateM σ) α)
    (f : α → ExceptT EvalError (StateM σ) β) (s : σ) :
    (x >>= f).run.run s =
      match x.run.run s with
      | (.ok a, after) => (f a).run.run after
      | (.error e, after) => (.error e, after) := by
  rw [ExceptT.run_bind, StateT.run_bind]
  generalize x.run.run s = first
  obtain ⟨_ | a, after⟩ := first <;> rfl

end Run

end TableScript
