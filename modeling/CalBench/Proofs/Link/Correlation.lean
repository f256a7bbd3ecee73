/-
Which query a response belongs to.

A query is a write and then a read. On a framed link the read cuts its frame off whatever has not been read: that is
what the query was answered with, behind what earlier reads have left. A read up to the terminator leaves nothing. A
read by length leaves the rest of its reply and the terminator, and nothing that is done between two queries drops
them; so from then on each read up to the terminator gets what was left before, and the replies lag behind by one.

An instrument is given by what it makes of the data that it takes, as a function, and a wire reaches it if the answers
come over the wire at once, in any pieces (`Wire.Reaches`).

Results:
- `SerialLine.answers`, `Controller.answers`: what one query over a serial line or over a bus controller comes to;
- `Link.Answers.askEach`: what queries one after another come to;
- `length_reads_shift_replies`: replies belong to their queries until a read by length, and lag behind after it.
Witness:
- `meter_lags`: a meter on a serial line and a meter behind a bus controller, with a read by length before the last
  query.
Counterexample:
- `reply_left_over`: the second of two queries gets what the first has left.
-/
import CalBench.Proofs.Link.Dialogue
import CalBench.Proofs.Link.Framing

namespace CalBench

/-! ## Instruments -/

def StreamEvent.Prompt : StreamEvent → Prop
  | .data b => b ≠ []
  | _ => False

/-- a reader with a deadline waits for nothing else -/
theorem StreamEvent.flows_some_iff {e : StreamEvent} {deadline : Nat} : e.Flows (some deadline) ↔ e.Prompt := by
  cases e <;> simp [Flows, Prompt]

/-- Wires that reach an instrument. `take` is what the instrument makes of data: its next state, and what it answers;
`reaches` says that the instrument at the far end is in a state. -/
structure Wire.Reaches {ω σ : Type} [Wire ω] (take : σ → Bytes → σ × Bytes) (reaches : ω → σ → Prop) : Prop where
  sent : ∀ {w s} data, reaches w s → (Wire.send data w).2 = .ok ()
  taken : ∀ {w s} data, reaches w s → reaches (Wire.send data w).1 (take s data).1
  answered : ∀ {w s} data, reaches w s → ∃ answer, Wire.incoming (Wire.send data w).1 = Wire.incoming w ++ answer ∧
    payload answer = (take s data).2 ∧ ∀ e ∈ answer, e.Prompt
  kept : ∀ {w s} events, reaches w s → reaches (Wire.putBack events w) s
  putBack : ∀ {w s} events, reaches w s → Wire.incoming (Wire.putBack events w) = events

/-- an instrument that answers each query with a reply and the terminator -/
def answering (reply : Bytes → Bytes) (t : Terminator) (_ : Unit) (query : Bytes) : Unit × Bytes :=
  ((), reply query ++ t.bytes)

/-- such an instrument behind a controller box: the box passes data on, and fetches the answer to what was passed on
last when it is asked to -/
def answeringBehindBox (reply : Bytes → Bytes) (t : Terminator) (last line : Bytes) : Bytes × Bytes :=
  match BoxMessage.hear line with
  | ([.data query], []) => (query, [])
  | ([.command text], []) => (last, if text = Text.utf8 "++read eoi" then reply last ++ t.bytes else [])
  | _ => (last, [])

/-! ## Sending and reading over a wire -/

section Wired

variable {ω σ : Type} [Wire ω] {take : σ → Bytes → σ × Bytes} {reaches : ω → σ → Prop}

@[simp] theorem payload_append (events events' : List StreamEvent) :
    payload (events ++ events') = payload events ++ payload events' := by
  simp [payload]

/-- a wire to an instrument in a state, over which some bytes have come that were not read -/
structure Receiver.Holds (reaches : ω → σ → Prop) (c : Receiver ω) (s : σ) (unread : Bytes) : Prop where
  reaches : reaches c.wire s
  prompt : ∀ e ∈ Wire.incoming c.wire, e.Prompt
  unread : c.pending ++ payload (Wire.incoming c.wire) = unread

/-- what is sent is answered behind what is there already -/
theorem Receiver.Holds.send (hwire : Wire.Reaches take reaches) {c : Receiver ω} {s : σ} {unread : Bytes}
    (h : c.Holds reaches s unread) (data : Bytes) :
    Receiver.Holds reaches { c with wire := (Wire.send data c.wire).1 } (take s data).1
      (unread ++ (take s data).2) := by
  obtain ⟨answer, hincoming, hpayload, hprompt⟩ := hwire.answered data h.reaches
  refine ⟨hwire.taken data h.reaches, ?_, ?_⟩
  · rw [hincoming]
    exact List.forall_mem_append.2 ⟨h.prompt, hprompt⟩
  · rw [hincoming, payload_append, hpayload, ← List.append_assoc, h.unread]

/-- a frame that is there is read in time -/
theorem Receiver.Holds.read (hwire : Wire.Reaches take reaches) {c : Receiver ω} {s : σ} {unread frame rest : Bytes}
    (h : c.Holds reaches s unread) {r : FrameRequest} (after : Duration) (hcap : unread.length ≤ maxFrame)
    (hcut : r.Cuts unread frame rest) :
    ∃ c' delay, Receiver.read c r.terminator r.mode after = (c', delay, .ok frame) ∧ c'.Holds reaches s rest := by
  obtain ⟨hreaches, hprompt, rfl⟩ := h
  have hflows : ∀ e ∈ Wire.incoming c.wire, e.Flows (some (0 + after.ticks)) :=
    fun e he => StreamEvent.flows_some_iff.2 (hprompt e he)
  let o := readFrame r.terminator r.mode (some (0 + after.ticks)) 0 ⟨c.pending, Wire.incoming c.wire⟩
  obtain ⟨hframe, hrest⟩ : o.outcome = .frame frame ∧ _ :=
    readFrame_completes _ 0 ⟨c.pending, Wire.incoming c.wire⟩ hcap hflows hcut
  have hcuts : o.CutsOff r _ := readFrame_cuts r _ 0 ⟨c.pending, Wire.incoming c.wire⟩ hcap
  rw [FrameRead.CutsOff, hframe] at hcuts
  refine ⟨⟨Wire.putBack o.inlet.events c.wire, o.inlet.pending⟩, o.time, ?_, hwire.kept _ hreaches, ?_, ?_⟩
  · rw [Receiver.read, readWithin]
    simp only [o] at hframe
    simp only [hframe, o]
  · rw [hwire.putBack _ hreaches]
    exact fun e he => StreamEvent.flows_some_iff.1 (hrest e he)
  · rw [hwire.putBack _ hreaches]
    exact (hcuts.unique hcut).2

/-! ## One query -/

theorem Attempt.bind_of_ok {Λ α β : Type} {a : Attempt Λ α} {l l' : Λ} {delay : Nat} {x : α}
    (h : a l = ⟨l', delay, .ok x⟩) (f : α → Attempt Λ β) :
    (a >>= f) l = { f x l' with delay := delay + (f x l').delay } := by
  rw [bind_apply, h]

def Link.exchange {Λ : Type} [Link Λ] (query : Bytes) (mode : ReadMode) : Attempt Λ Bytes := do
  Link.call (.writeBytes query)
  Link.call (.read mode)

/-- Links over which an instrument answers. `ready` says that a link is open and that some bytes have been answered and
not been read; a query gets the frame at the front of these and the reply. -/
structure Link.Answers {Λ : Type} [Link Λ] (reply : Bytes → Bytes) (t : Terminator) (ready : Λ → Bytes → Prop) :
    Prop where
  exchange : ∀ {l unread frame rest} (query : Bytes) (r : FrameRequest), ready l unread → r.terminator = t →
    (unread ++ (reply query ++ t.bytes)).length ≤ maxFrame →
    r.Cuts (unread ++ (reply query ++ t.bytes)) frame rest →
    ∃ l' delay, Link.exchange query r.mode l = ⟨l', delay, .ok frame⟩ ∧ ready l' rest

/-- a serial line to an instrument, with some bytes unread -/
structure SerialLine.Ready (reaches : ω → Unit → Prop) (t : Terminator) (d : SerialLine ω) (unread : Bytes) : Prop where
  connected : d.connected = true
  terminator : d.terminator = t
  holds : Receiver.Holds reaches ⟨d.wire, d.pending⟩ () unread

/-- **An instrument on a serial line answers queries** -/
theorem SerialLine.answers {reply : Bytes → Bytes} {t : Terminator} {reaches : ω → Unit → Prop}
    (hwire : Wire.Reaches (answering reply t) reaches) : Link.Answers reply t (SerialLine.Ready reaches t) where
  exchange := by
    intro d unread frame rest query r hready hterminator hcap hcut
    have hwrite : writeBytes query d = ⟨{ d with wire := (Wire.send query d.wire).1 }, 0, .ok ()⟩ := by
      rw [writeBytes_apply, if_pos hready.connected, hwire.sent query hready.holds.reaches]
    obtain ⟨c, delay, hread, hrest⟩ := (hready.holds.send hwire query).read hwire d.timeouts.read hcap hcut
    have hdone : SerialLine.read r.mode { d with wire := (Wire.send query d.wire).1 } =
        ⟨{ d with wire := c.wire, pending := c.pending }, delay, .ok frame⟩ := by
      rw [SerialLine.read, if_pos hready.connected]
      simp only [hready.terminator, ← hterminator, hread]
    refine ⟨{ d with wire := c.wire, pending := c.pending }, 0 + delay, ?_, hready.connected, hready.terminator, hrest⟩
    exact (Attempt.bind_of_ok hwrite _).trans (by rw [show Link.call (.read r.mode) _ = _ from hdone])

/-- a bus controller with an instrument behind it, with some bytes unread -/
structure Controller.Ready (reaches : ω → Bytes → Prop) (t : Terminator) (d : Controller ω) (unread : Bytes) :
    Prop where
  connected : d.connected = true
  terminator : d.terminator = t
  holds : ∃ last, Receiver.Holds reaches ⟨d.wire, d.pending⟩ last unread

theorem answeringBehindBox_data (reply : Bytes → Bytes) (t : Terminator) (last query : Bytes) :
    answeringBehindBox reply t last (Controller.escape query ++ [10]) = (query, []) := by
  have hhear : BoxMessage.hear ([BoxMessage.data query].flatMap BoxMessage.line) = ([.data query], []) :=
    BoxMessage.hear_lines (by simp [BoxMessage.Sound])
  rw [List.flatMap_singleton, BoxMessage.line] at hhear
  rw [answeringBehindBox, hhear]

theorem answeringBehindBox_read (reply : Bytes → Bytes) (t : Terminator) (last : Bytes) :
    answeringBehindBox reply t last (Text.utf8 "++read eoi" ++ [10]) = (last, reply last ++ t.bytes) := by
  have hhear : BoxMessage.hear ([Controller.say "++read eoi"].flatMap BoxMessage.line) =
      ([Controller.say "++read eoi"], []) := BoxMessage.hear_lines (by decide)
  rw [List.flatMap_singleton, Controller.say, BoxMessage.line] at hhear
  rw [answeringBehindBox, hhear]
  simp

/-- **An instrument behind a bus controller answers queries** -/
theorem Controller.answers {reply : Bytes → Bytes} {t : Terminator} (ht : t ≠ .none) {reaches : ω → Bytes → Prop}
    (hwire : Wire.Reaches (answeringBehindBox reply t) reaches) :
    Link.Answers reply t (Controller.Ready reaches t) where
  exchange := by
    intro d unread frame rest query r hready hterminator hcap hcut
    obtain ⟨last, hholds⟩ := hready.holds
    -- the box passes the query on
    have hpassed := hholds.send hwire (Controller.escape query ++ [10])
    rw [answeringBehindBox_data, List.append_nil] at hpassed
    let d₁ : Controller ω := { d with wire := (Wire.send (Controller.escape query ++ [10]) d.wire).1 }
    have hwrite : writeBytes query d = ⟨d₁, 0, .ok ()⟩ := by
      rw [writeBytes, sendRaw_apply, if_pos hready.connected, hwire.sent _ hholds.reaches]
    -- and fetches the reply
    have hfetched := hpassed.send hwire (Text.utf8 "++read eoi" ++ [10])
    rw [answeringBehindBox_read] at hfetched
    let d₂ : Controller ω := { d with wire := (Wire.send (Text.utf8 "++read eoi" ++ [10]) d₁.wire).1 }
    have hask : command "++read eoi" d₁ = ⟨d₂, 0, .ok ()⟩ := by
      rw [command, sendRaw_apply, if_pos hready.connected, hwire.sent _ hpassed.reaches]
    obtain ⟨c, delay, hread, hrest⟩ : ∃ c delay, Receiver.read ⟨d₂.wire, d₂.pending⟩ r.terminator r.mode
        d₂.timeouts.read = (c, delay, .ok frame) ∧ c.Holds reaches query rest :=
      hfetched.read hwire d.timeouts.read hcap hcut
    have hreceive : receiveFrame t r.mode d₂ = ⟨{ d with wire := c.wire, pending := c.pending }, delay, .ok frame⟩ := by
      rw [receiveFrame, if_pos hready.connected]
      simp only [← hterminator, hread]
      rfl
    have hterminatorRead : (if d.terminator = .none then Terminator.lf else d.terminator) = t := by
      rw [hready.terminator, if_neg ht]
    have hdone : Controller.read r.mode d₁ =
        ⟨{ d with wire := c.wire, pending := c.pending }, 0 + delay, .ok frame⟩ := by
      refine (Attempt.bind_of_ok hask _).trans ?_
      rw [Attempt.get_bind]
      rw [show (if d₂.terminator = .none then Terminator.lf else d₂.terminator) = t from hterminatorRead, hreceive]
    refine ⟨{ d with wire := c.wire, pending := c.pending }, 0 + (0 + delay), ?_, hready.connected, hready.terminator,
      _, hrest⟩
    exact (Attempt.bind_of_ok hwrite _).trans (by rw [show Link.call (.read r.mode) _ = _ from hdone])

end Wired

/-! ## Queries one after another -/

section Queries

variable {Λ : Type} [Link Λ] {reply : Bytes → Bytes} {t : Terminator} {ready : Λ → Bytes → Prop}

def Link.exchanges : List (Bytes × FrameRequest) → Attempt Λ (List Bytes)
  | [] => pure []
  | (query, r) :: rest => do
    let response ← Link.exchange query r.mode
    let more ← Link.exchanges rest
    return response :: more

/-- what queries are answered with, if some bytes were left before: each gets the frame at the front of what was left
and the reply, and leaves the rest -/
inductive Responses (reply : Bytes → Bytes) (t : Terminator) : Bytes → List (Bytes × FrameRequest) → List Bytes → Prop
  | none (left : Bytes) : Responses reply t left [] []
  | next {left frame rest : Bytes} {query : Bytes} {r : FrameRequest} {queries : List (Bytes × FrameRequest)}
      {responses : List Bytes} :
    r.terminator = t → (left ++ (reply query ++ t.bytes)).length ≤ maxFrame →
    r.Cuts (left ++ (reply query ++ t.bytes)) frame rest → Responses reply t rest queries responses →
    Responses reply t left ((query, r) :: queries) (frame :: responses)

/-- **Queries over a link get what they are answered with** -/
theorem Link.Answers.exchanges (hlink : Link.Answers reply t ready) {left : Bytes}
    {queries : List (Bytes × FrameRequest)} {responses : List Bytes} (h : Responses reply t left queries responses)
    {l : Λ} (hready : ready l left) : ∃ l' delay, Link.exchanges queries l = ⟨l', delay, .ok responses⟩ := by
  induction h generalizing l with
  | none left => exact ⟨l, 0, rfl⟩
  | next hterminator hcap hcut _ ih =>
    obtain ⟨l₁, delay₁, hfirst, hready₁⟩ := hlink.exchange _ _ hready hterminator hcap hcut
    obtain ⟨l₂, delay₂, hmore⟩ := ih hready₁
    refine ⟨l₂, delay₁ + (delay₂ + 0), ?_⟩
    rw [Link.exchanges]
    refine (Attempt.bind_of_ok hfirst _).trans ?_
    rw [Attempt.bind_of_ok hmore]
    rfl

/-- an instrument whose replies hold no terminator and are of some moderate size -/
structure Moderate (reply : Bytes → Bytes) (t : Terminator) : Prop where
  whole : ∀ query, ¬ t.bytes <:+: reply query
  short : ∀ query, 2 * (reply query ++ t.bytes).length ≤ maxFrame

def readWhole (t : Terminator) (ht : t ≠ .none) (query : Bytes) : Bytes × FrameRequest := (query, .terminated t ht)

def readPart (t : Terminator) (query : Bytes) (n : Nat) : Bytes × FrameRequest := (query, ⟨t, .length n, nofun⟩)

/-- reads up to the terminator leave nothing -/
theorem Responses.inStep (ht : t ≠ .none) (hreply : Moderate reply t) (queries : List Bytes)
    {more : List (Bytes × FrameRequest)} {responses : List Bytes} (h : Responses reply t [] more responses) :
    Responses reply t [] (queries.map (readWhole t ht) ++ more) (queries.map reply ++ responses) := by
  induction queries with
  | nil => exact h
  | cons query queries ih =>
    have hcut := cuts_message ht (hreply.whole query) []
    rw [List.append_nil] at hcut
    have hshort := hreply.short query
    exact .next rfl (by rw [List.nil_append]; omega) hcut ih

/-- with something left, each response is what was left before -/
theorem Responses.behind (ht : t ≠ .none) (hreply : Moderate reply t) {left : Bytes} (hleft : ¬ t.bytes <:+: left)
    (hsize : 2 * (left ++ t.bytes).length ≤ maxFrame) (queries : List Bytes) :
    Responses reply t (left ++ t.bytes) (queries.map (readWhole t ht)) (left :: queries.map reply).dropLast := by
  induction queries generalizing left with
  | nil => exact .none _
  | cons query queries ih =>
    have hshort := hreply.short query
    refine .next rfl ?_ (cuts_message ht hleft _) (ih (hreply.whole query) hshort)
    rw [List.length_append]
    omega

/-- a read by length leaves the rest -/
theorem Responses.part (ht : t ≠ .none) (hreply : Moderate reply t) {query : Bytes} {n : Nat}
    (hn : n ≤ (reply query).length) (queries : List Bytes) :
    Responses reply t [] (readPart t query n :: queries.map (readWhole t ht))
      ((reply query).take n :: ((reply query).drop n :: queries.map reply).dropLast) := by
  have hshort := hreply.short query
  have hcut : (⟨t, .length n, nofun⟩ : FrameRequest).Cuts ([] ++ (reply query ++ t.bytes)) ((reply query).take n)
      ((reply query).drop n ++ t.bytes) := by
    refine ⟨?_, nofun, fun m hm => ?_⟩
    · simp [FrameRequest.mark, ← List.append_assoc]
    · cases hm
      exact List.length_take_of_le hn
  refine .next rfl (by rw [List.nil_append]; omega) hcut ?_
  refine .behind ht hreply (fun h => hreply.whole query (h.trans (List.drop_suffix n _).isInfix)) ?_ queries
  rw [List.length_append] at hshort ⊢
  rw [List.length_drop]
  omega

/-- Where replies go. As long as responses are read up to the terminator each belongs to its query. A read by length
gets the front of its own reply; the next response is the rest of that, and each after it is the reply before. -/
structure Link.RepliesShift (reply : Bytes → Bytes) (t : Terminator) (ht : t ≠ .none) (l : Λ) : Prop where
  inStep : ∀ queries : List Bytes, ∃ l' delay,
    Link.exchanges (queries.map (readWhole t ht)) l = ⟨l', delay, .ok (queries.map reply)⟩
  behind : ∀ (before after : List Bytes) (query : Bytes) (n : Nat), n ≤ (reply query).length → ∃ l' delay,
    Link.exchanges (before.map (readWhole t ht) ++ readPart t query n :: after.map (readWhole t ht)) l = ⟨l', delay,
      .ok (before.map reply ++ (reply query).take n :: ((reply query).drop n :: after.map reply).dropLast)⟩

theorem Link.Answers.repliesShift (hlink : Link.Answers reply t ready) (ht : t ≠ .none) (hreply : Moderate reply t)
    {l : Λ} (hready : ready l []) : Link.RepliesShift reply t ht l where
  inStep queries := by
    obtain ⟨l', delay, h⟩ := hlink.exchanges (Responses.inStep ht hreply queries (.none [])) hready
    rw [List.append_nil, List.append_nil] at h
    exact ⟨l', delay, h⟩
  behind before after _ _ hn := hlink.exchanges (.inStep ht hreply before (.part ht hreply hn after)) hready

end Queries

/-- **A read by length shifts the replies.**

An instrument, on a serial line or behind a bus controller, answers each query with a reply and the terminator. Queries
whose responses are read up to the terminator get their replies. But after a read by length, which gets the front of its
reply, the next query gets the rest of that reply, and from then on each query gets the reply to the query before. -/
theorem length_reads_shift_replies {ω : Type} [Wire ω] {reply : Bytes → Bytes} {t : Terminator} (ht : t ≠ .none)
    (hreply : Moderate reply t) :
    (∀ reaches : ω → Unit → Prop, Wire.Reaches (answering reply t) reaches →
      ∀ d : SerialLine ω, d.Ready reaches t [] → Link.RepliesShift reply t ht d) ∧
    ∀ reaches : ω → Bytes → Prop, Wire.Reaches (answeringBehindBox reply t) reaches →
      ∀ d : Controller ω, d.Ready reaches t [] → Link.RepliesShift reply t ht d :=
  ⟨fun _ hwire _ hready => (SerialLine.answers hwire).repliesShift ht hreply hready,
    fun _ hwire _ hready => (Controller.answers ht hwire).repliesShift ht hreply hready⟩

structure InstrumentWire (σ : Type) where
  take : σ → Bytes → σ × Bytes
  state : σ
  incoming : List StreamEvent := []

instance {σ : Type} : Wire (InstrumentWire σ) where
  dial w := (w, none)
  send data w :=
    let (state, answer) := w.take w.state data
    ({ w with state, incoming := w.incoming ++ if answer = [] then [] else [.data answer] }, .ok ())
  hangUp w := w
  incoming w := w.incoming
  putBack events w := { w with incoming := events }

theorem InstrumentWire.reaches {σ : Type} (take : σ → Bytes → σ × Bytes) :
    Wire.Reaches take fun (w : InstrumentWire σ) s => w.take = take ∧ w.state = s where
  sent _ _ := rfl
  taken := by
    rintro w s data ⟨rfl, rfl⟩
    exact ⟨rfl, rfl⟩
  answered := by
    rintro w s data ⟨rfl, rfl⟩
    refine ⟨_, rfl, ?_⟩
    split
    · next hnone => exact ⟨hnone.symm, by simp⟩
    · next hsome => exact ⟨by simp [StreamEvent.payload], by simpa [StreamEvent.Prompt] using hsome⟩
  kept _ h := h
  putBack _ _ := rfl

/-- a meter that replies with a voltage, or else with a current -/
def meterReply (query : Bytes) : Bytes := if query = [86] then [49, 46, 53] else [50]

theorem meterReply_moderate : Moderate meterReply .lf where
  whole query := by
    unfold meterReply
    split <;> decide
  short query := by
    unfold meterReply
    split <;> decide

def meterLine : SerialLine (InstrumentWire Unit) :=
  { name := "Meter", settings := { path := "/dev/ttyUSB0" }, wire := { take := answering meterReply .lf, state := () }
    connected := true, terminator := .lf }

def meterBox : Controller (InstrumentWire Bytes) :=
  { name := "Box", endpoint := .usb { path := "/dev/ttyUSB1" }
    wire := { take := answeringBehindBox meterReply .lf, state := [] }, connected := true, terminator := .lf }

/-- **The replies of a meter are shifted**: the voltage is read, then two bytes of it, and the current after that gets
the rest of the voltage -/
theorem meter_lags :
    (∃ d' delay, Link.exchanges [readWhole .lf (by decide) [86], readPart .lf [86] 2, readWhole .lf (by decide) [65]]
      meterLine = ⟨d', delay, .ok [[49, 46, 53], [49, 46], [53]]⟩) ∧
    ∃ d' delay, Link.exchanges [readWhole .lf (by decide) [86], readPart .lf [86] 2, readWhole .lf (by decide) [65]]
      meterBox = ⟨d', delay, .ok [[49, 46, 53], [49, 46], [53]]⟩ := by
  have h {ω : Type} [Wire ω] := length_reads_shift_replies (ω := ω) (t := .lf) (by decide) meterReply_moderate
  constructor
  · exact (h.1 _ (InstrumentWire.reaches _) meterLine ⟨rfl, rfl, ⟨rfl, rfl⟩, nofun, rfl⟩).behind [[86]] [[65]] [86] 2
      (by decide)
  · exact (h.2 _ (InstrumentWire.reaches _) meterBox ⟨rfl, rfl, [], ⟨rfl, rfl⟩, nofun, rfl⟩).behind [[86]] [[65]] [86] 2
      (by decide)

/-- a serial line to a peer that answers two queries -/
def twoRangeLine : SerialLine ScriptedPeer :=
  { name := "Meter", settings := { path := "/dev/ttyUSB0" }, connected := true, terminator := .lf
    wire :=
      { rules :=
          [{ line := [86], replies := [.send [49, 46, 53, 10]] }, { line := [65], replies := [.send [50, 10]] }] } }

/-- **What the first query leaves is the response to the second**: two bytes of the first reply are read, and the second
query gets the third byte instead of its reply -/
theorem reply_left_over :
    (Link.exchanges [readPart .lf [86, 10] 2, readWhole .lf (by decide) [65, 10]] twoRangeLine).result.toOption =
        some [[49, 46], [53]] ∧
      (Link.exchanges [readPart .lf [86, 10] 2, readWhole .lf (by decide) [65, 10]] twoRangeLine).result.toOption ≠
        some [[49, 46], [50]] := by
  decide +kernel

end CalBench
