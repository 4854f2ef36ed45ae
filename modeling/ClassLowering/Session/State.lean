import ClassLowering.Heap.Ownership
import ClassLowering.Heap.Bindings
import ClassLowering.Session.Shown

/-!
# The state of a session

A session is the host around the engine. It has variables, it stores scopes and
symbols under names, it logs, and it numbers the identities that it shows. It
keeps alive every class it built and every composite it ever showed.

The state of a run is the heap, the session and the record of the bodies that
were entered and left. Nothing ever reads the record; statements about the order
and the depth of bodies are statements about it.

Computations end with a value or are interrupted: by a fault, which a body may
catch, or by stalling. A computation stalls when the bound on the nesting of
bodies is used up, and nothing is known about it then.
-/

namespace ClassLowering

/-- The start of one body: its function, receiver, arguments and depth. -/
structure BodyEntry where
  function : FunctionRef
  receiver : Value
  args : List Value
  depth : Depth
  deriving DecidableEq

/-- Why a computation ended early. -/
inductive Interruption
  | fault (cause : Failure)
  | stalled
  deriving DecidableEq

/-- What the record of bodies holds: bodies that were entered, and how
they were left. -/
inductive BodyEvent
  | entered (entry : BodyEntry)
  | left (interruption : Option Interruption)
  deriving DecidableEq

/-- The host around the engine. -/
structure Session where
  storedValues : OrderedMap String Value
  scopes : OrderedMap String ScopeRef
  symbols : OrderedMap String Symbol
  /-- The classes that the session built, newest first. -/
  built : List ClassRef
  /-- The composites that were shown, with their numbers. -/
  shownComposites : List (Value × Nat)
  nextComposite : Nat
  /-- The symbols that were shown, with their numbers. -/
  shownSymbols : List (Symbol × Nat)
  nextShownSymbol : Nat
  /-- What the current step has logged, newest first. -/
  log : List LogEntry

namespace Session

/-- The session before its first step. -/
def empty : Session := ⟨∅, ∅, ∅, [], [], 0, [], 0, []⟩

instance : Inhabited Session := ⟨empty⟩

/-- The cells that the session keeps alive. -/
def roots (session : Session) : List AnyRef :=
  session.built.map .klass ++
    (session.shownComposites.map Prod.fst ++
      session.storedValues.values).filterMap Value.cell? ++
    session.scopes.values.map .scope

/-- Whether the session itself holds on to a class. -/
def keepsClass (session : Session) (klass : ClassRef) : Bool :=
  session.built.contains klass ||
    session.shownComposites.any fun shown => shown.1 = .klass klass

/-- Keep a new class. -/
def keepClass (session : Session) (klass : ClassRef) : Session :=
  { session with built := klass :: session.built }

/-- Drop a variable and every hold on a class. Its number is not used again. -/
def release (session : Session) (name : String) (klass : ClassRef) : Session :=
  { session with
    storedValues := session.storedValues.erase name
    built := session.built.filter fun other => other ≠ klass
    shownComposites := session.shownComposites.filter fun shown =>
      shown.1 ≠ .klass klass }

/-- The number of a composite. A composite gets the next number when it
is first shown. -/
def numberComposite (session : Session) (value : Value) : Nat × Session :=
  match session.shownComposites.find? fun shown => shown.1 = value with
  | some shown => (shown.2, session)
  | none =>
      (session.nextComposite,
        { session with
          shownComposites := (value, session.nextComposite) ::
            session.shownComposites
          nextComposite := session.nextComposite + 1 })

/-- The number of a symbol. A symbol gets the next number when it is first
shown. -/
def numberSymbol (session : Session) (symbol : Symbol) : Nat × Session :=
  match session.shownSymbols.find? fun shown => shown.1 == symbol with
  | some shown => (shown.2, session)
  | none =>
      (session.nextShownSymbol,
        { session with
          shownSymbols := (symbol, session.nextShownSymbol) ::
            session.shownSymbols
          nextShownSymbol := session.nextShownSymbol + 1 })

end Session

/-- All that a run can change. -/
structure State where
  heap : Heap
  session : Session
  /-- The bodies that were entered and left, newest event first. -/
  record : List BodyEvent

namespace State

/-- The state before any run. -/
def empty : State := ⟨.empty, .empty, []⟩

instance : Inhabited State := ⟨empty⟩

/-- Whether a class still exists while some values and scopes are held. -/
def isAlive (state : State) (holding : Holding) (klass : ClassRef) : Bool :=
  state.session.keepsClass klass ||
    state.heap.isOwned (holding.cells ++ state.session.roots) (.klass klass)

end State
end ClassLowering
