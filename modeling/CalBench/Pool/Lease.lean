/-
Using the interfaces of a pool.

A `Client` sees the pool and knows its own place in a queue. `lease` gets an interface for itself: it
waits in the queue, and connects the interface if need be, for which the resource must be free.
`perform` calls the link of an interface, `giveBack` leaves the queue. `disableAll` blocks one
interface after the other: it waits until nobody uses the interface, then closes it.
-/
import CalBench.Pool.Basic
import CalBench.Process.Basic

namespace CalBench

/-- a place in the queue for an interface -/
structure Place where
  key : String
  number : Nat
deriving DecidableEq, Repr

/-- the pool as one of its users sees it -/
structure Client (Λ : Type) where
  pool : Pool Λ
  place : Option Place := none

namespace Client

variable {Λ : Type}

def join (key : String) (c : Client Λ) : Client Λ :=
  ⟨c.pool.join key, some ⟨key, c.pool.nextNumber key⟩⟩

/-- the interface is ours -/
def isServed (c : Client Λ) : Bool := c.place.all fun p => c.pool.isServed p.key p.number

def leave (c : Client Λ) : Client Λ :=
  match c.place with
  | some p => ⟨c.pool.leave p.key p.number, none⟩
  | none => c

end Client

namespace Pool

variable {Λ α : Type}

/-- Gives the interface back, or leaves the queue for it. -/
def giveBack : Proc (Client Λ) Unit := .update Client.leave

/-- Gives the interface back and fails. -/
def refuse (e : LinkError) : Proc.Fallible (Client Λ) LinkError α :=
  giveBack.bind fun _ => .done (.error e)

/-- Waits in the queue for an interface. -/
def queueFor (key : String) : Proc (Client Λ) Unit :=
  (Proc.update (Client.join key)).bind fun _ => .await Client.isServed

variable [Link Λ]

/-- the pool after a call to a link, how long the call takes, and what it gives -/
def callLink (key : String) (c : Call) (p : Pool Λ) : Pool Λ × Nat × Except LinkError c.Answer :=
  match p.entries.get? key with
  | some e =>
    let o := Link.call c e.link
    ({ p.modify key fun e => { e with link := o.link } with calls := p.calls ++ [(key, c)] }, o.delay, o.result)
  | none => (p, 0, .error .notConnected)

/-- Calls the link of an interface. -/
def perform (key : String) (c : Call) : Proc.Fallible (Client Λ) LinkError c.Answer :=
  .act (fun s => { s with pool := (callLink key c s.pool).1 }) fun s =>
    let o := (callLink key c s.pool).2
    (Proc.sleepIfAny o.1).bind fun _ => .done o.2

/-- Sends a text and reads the answer. -/
def query (key s : String) : Proc.Fallible (Client Λ) LinkError String :=
  (perform key (.writeString s)).andThen fun _ =>
  (perform key (.read .terminated)).andThen fun raw => .done (.ok (Text.decodeLossy raw))

def connectIfNeeded (key : String) (e : Entry Λ) : Proc.Fallible (Client Λ) LinkError Unit :=
  if Link.connected e.link then .done (.ok ())
  else
    (Proc.step fun s : Client Λ => match s.pool.claim e with
      | .ok p => ({ s with pool := p }, Except.ok ())
      | .error err => (s, .error err)).andThen fun _ =>
    (perform key .connect).bind fun
      | .ok () => .done (.ok ())
      | .error err => (Proc.update fun s => { s with pool := s.pool.unclaim e }).bind fun _ => .done (.error err)

/-- Makes sure an interface that is ours is enabled and connected. -/
def makeReady (name key : String) : Proc.Fallible (Client Λ) LinkError Unit :=
  Proc.get.bind fun s => match s.pool.entries.get? key with
    | none => .done (.error (.disabled name))
    | some e => if e.enabled then connectIfNeeded key e else .done (.error (.disabled e.name))

/-- Gets an enabled interface for oneself, connected. -/
def lease (name : String) : Proc.Fallible (Client Λ) LinkError String :=
  Proc.get.bind fun s => match s.pool.entry? name with
    | none => .done (.error (.disabled name))
    | some e =>
      if e.enabled then
        (queueFor (key name)).bind fun _ =>
        (makeReady name (key name)).bind fun
          | .ok () => .done (.ok (key name))
          | .error err => refuse err
      else .done (.error (.disabled e.name))

/-- Uses an interface and gives it back, whatever comes of it. -/
def withLease (name : String) (use : String → Proc.Fallible (Client Λ) LinkError α) :
    Proc.Fallible (Client Λ) LinkError α :=
  (lease name).andThen fun key => (use key).bind fun r => giveBack.bind fun _ => .done r

/-- Blocks an interface and closes it as soon as nobody uses it. -/
def disable (key : String) : Proc (Client Λ) Unit :=
  (Proc.update fun s => { s with pool := s.pool.modify key fun e => { e with enabled := false } }).bind fun _ =>
  (queueFor key).bind fun _ =>
  Proc.get.bind fun s => match s.pool.entries.get? key with
    | none => giveBack
    | some e =>
      (if Link.connected e.link then (perform key .disconnect).bind fun _ => .done () else .done ()).bind fun _ =>
      (Proc.update fun s => { s with pool := s.pool.unclaim e }).bind fun _ => giveBack

def disableEach : List String → Proc (Client Λ) Unit
  | [] => .done ()
  | key :: rest => (disable key).bind fun _ => disableEach rest

/-- Blocks all interfaces, in the order in which they were registered. -/
def disableAll : Proc (Client Λ) Unit :=
  Proc.get.bind fun s => disableEach (s.pool.entries.entries.map Prod.fst)

end Pool

end CalBench
