/-
The pool of interfaces.

Interfaces are registered under names that differ by more than letter case. They start out disabled. A
physical resource, such as a serial line, may serve several interfaces, of which one at a time can be
connected: the one that has claimed the resource. Whoever uses an interface queues up for it; the head
of the queue has it to itself. The pool keeps a record of the calls it passes on to the links.
-/
import CalBench.Link.Call
import CalBench.Table
import CalBench.Text.Case

namespace CalBench

/-- a registered interface -/
structure Entry (Λ : Type) where
  name : String
  kind : InterfaceKind
  resource : String
  enabled : Bool := false
  link : Λ
  /-- numbers of those who use the interface: the head has it, the others wait -/
  queue : List Nat := []
  issued : Nat := 0

/-- registered interfaces and claimed resources -/
structure Pool (Λ : Type) where
  /-- by name, in capitals -/
  entries : Table (Entry Λ) := .empty
  /-- the name of the interface that has claimed a resource -/
  claims : Table String := .empty
  /-- what links have been asked to do so far, oldest first, each with the key of its interface -/
  calls : List (String × Call) := []

namespace Pool

variable {Λ : Type}

/-- the form of a name under which an interface is found -/
def key (name : String) : String := Text.upper name

def entry? (p : Pool Λ) (name : String) : Option (Entry Λ) := p.entries.get? (key name)

def contains (p : Pool Λ) (name : String) : Bool := p.entries.contains (key name)

def isEnabled (p : Pool Λ) (name : String) : Bool := (p.entry? name).any Entry.enabled

/-- the names of the interfaces, sorted -/
def names (p : Pool Λ) : List String :=
  (p.entries.entries.map fun e => e.2.name).mergeSort fun a b => decide (a ≤ b)

def register [Link Λ] (p : Pool Λ) (l : Λ) : Except LinkError (Pool Λ) :=
  let name := Link.name l
  if p.contains name then .error (.resourceInUse name "an interface with the same name")
  else .ok { p with
    entries := p.entries.insert (key name)
      { name, kind := Link.kind l, resource := Link.resource l, link := l } }

def registerAll [Link Λ] (p : Pool Λ) : List Λ → Except LinkError (Pool Λ)
  | [] => .ok p
  | l :: rest => (p.register l).bind fun p => p.registerAll rest

/-- Changes the interface under a key. -/
def modify (p : Pool Λ) (key : String) (f : Entry Λ → Entry Λ) : Pool Λ :=
  match p.entries.get? key with
  | some e => { p with entries := p.entries.insert key (f e) }
  | none => p

def enableAll (p : Pool Λ) : Pool Λ :=
  { p with entries := ⟨p.entries.entries.map fun (k, e) => (k, { e with enabled := true })⟩ }

/-! ## Claims -/

/-- Claims the resource of an interface. -/
def claim (p : Pool Λ) (e : Entry Λ) : Except LinkError (Pool Λ) :=
  match p.claims.get? e.resource with
  | some owner =>
    if owner = e.name then .ok p else .error (.resourceInUse e.resource owner)
  | none => .ok { p with claims := p.claims.insert e.resource e.name }

/-- Gives the resource of an interface up, if the interface has it. -/
def unclaim (p : Pool Λ) (e : Entry Λ) : Pool Λ :=
  if p.claims.get? e.resource = some e.name then { p with claims := p.claims.erase e.resource } else p

/-! ## Queues -/

/-- the number the next one in the queue gets -/
def nextNumber (p : Pool Λ) (key : String) : Nat := ((p.entries.get? key).map Entry.issued).getD 0

def join (p : Pool Λ) (key : String) : Pool Λ :=
  p.modify key fun e => { e with queue := e.queue ++ [e.issued], issued := e.issued + 1 }

/-- a number is at the head of the queue -/
def isServed (p : Pool Λ) (key : String) (number : Nat) : Bool :=
  (p.entries.get? key).all fun e => e.queue.head? == some number

def leave (p : Pool Λ) (key : String) (number : Nat) : Pool Λ :=
  p.modify key fun e => { e with queue := e.queue.erase number }

/-- nobody uses the interface with a name -/
def isFree (p : Pool Λ) (name : String) : Bool := (p.entry? name).all fun e => e.queue.isEmpty

end Pool

end CalBench
