/-
Frames do not depend on how a stream is delivered.

What has not been read of a stream lies in two places: bytes that have arrived and wait in the inlet, and bytes that
are still to be delivered. `Inlet.unread` is both together, and it is all that the frames depend on. A receive moves
bytes from one place to the other, and a read cuts its frame off the front (`readFrame_cuts`). How the stream is cut
into deliveries, when they come, and which reads give up in between makes no difference.

Results:
- `readFrame_cuts`, `readAll_cuts`: one read, and any reads one after another;
- `readFrame_completes`: a read completes as soon as there is a frame, unless the stream breaks or the reader gives up;
- `framing_inverts_writing`: frames are determined by the stream alone, nothing is lost or duplicated, and messages
  that are written are read back.
Witness:
- `messages_read_back`: two messages, one of them with half of a terminator at its end, delivered in chunks that split
  the terminators.
-/
import CalBench.Link.SerialLine
import CalBench.Proofs.Link.Heard

namespace CalBench

/-! ## What a stream carries -/

/-- the bytes of an event -/
def StreamEvent.payload : StreamEvent → Bytes
  | .data b => b
  | _ => []

def payload (events : List StreamEvent) : Bytes := events.flatMap StreamEvent.payload

@[simp] theorem payload_nil : payload [] = [] := rfl

@[simp] theorem payload_cons (e : StreamEvent) (events : List StreamEvent) :
    payload (e :: events) = e.payload ++ payload events := rfl

/-- the bytes of a delivery -/
def Delivery.payload : Delivery → Bytes
  | .bytes b => b
  | _ => []

/-- a receive delivers the front of what the stream carries -/
theorem payload_receive (room : Nat) (deadline : Option Nat) (now : Nat) (events : List StreamEvent) :
    (receive room deadline now events).delivery.payload ++ payload (receive room deadline now events).rest =
      payload events := by
  fun_induction receive room deadline now events with
  | case2 now b rest =>
    simp only [Delivery.payload]
    split
    · next hfits => simp [StreamEvent.payload, List.take_of_length_le hfits]
    · rw [payload_cons, payload_cons, StreamEvent.payload, StreamEvent.payload, ← List.append_assoc,
        List.take_append_drop]
  | case3 now ms rest _ ih => exact ih
  | case5 now t rest _ ih => exact ih
  | case1 | case4 | case6 | case7 | case8 => rfl

/-- the event delivers bytes, or lets time pass while the reader waits without a deadline; it does not break or end the
stream -/
def StreamEvent.Flows (deadline : Option Nat) : StreamEvent → Prop
  | .data b => b ≠ []
  | .silence _ => deadline = none
  | .silentUntil _ => deadline = none
  | .fault _ => False
  | .closed => False

instance (deadline : Option Nat) : DecidablePred (StreamEvent.Flows deadline)
  | .data b => inferInstanceAs (Decidable (b ≠ []))
  | .silence _ => inferInstanceAs (Decidable (deadline = none))
  | .silentUntil _ => inferInstanceAs (Decidable (deadline = none))
  | .fault _ => inferInstanceAs (Decidable False)
  | .closed => inferInstanceAs (Decidable False)

/-- a receive gets bytes of a stream that flows, as long as it carries any -/
theorem receive_flows {room : Nat} (hroom : room ≠ 0) (now : Nat) {deadline : Option Nat} {events : List StreamEvent}
    (h : ∀ e ∈ events, e.Flows deadline) :
    (∀ e ∈ (receive room deadline now events).rest, e.Flows deadline) ∧
      ((∃ b, b ≠ [] ∧ (receive room deadline now events).delivery = .bytes b) ∨
        (receive room deadline now events).delivery = .timedOut ∧ payload events = []) := by
  fun_induction receive room deadline now events with
  | case1 => exact ⟨h, .inr ⟨rfl, rfl⟩⟩
  | case2 now b rest =>
    obtain ⟨hb, hrest⟩ := List.forall_mem_cons.1 h
    constructor
    · split
      · exact hrest
      · next hlong => exact List.forall_mem_cons.2 ⟨by simpa [StreamEvent.Flows] using hlong, hrest⟩
    · exact .inl ⟨b.take room, by simpa [hroom] using (show b ≠ [] from hb), rfl⟩
  | case3 now ms rest _ ih => exact ih (List.forall_mem_cons.1 h).2
  | case5 now t rest _ ih => exact ih (List.forall_mem_cons.1 h).2
  | case4 now ms rest hlate =>
    obtain rfl : deadline = none := (List.forall_mem_cons.1 h).1
    exact absurd rfl hlate
  | case6 now t rest hlate =>
    obtain rfl : deadline = none := (List.forall_mem_cons.1 h).1
    exact absurd rfl hlate
  | case7 now p rest => exact (List.forall_mem_cons.1 h).1.elim
  | case8 now rest => exact (List.forall_mem_cons.1 h).1.elim

/-- all that has not been read: what has arrived, and what has not -/
def Inlet.unread (i : Inlet) : Bytes := i.pending ++ payload i.events

/-! ## What a request cuts off -/

/-- a request for one frame; a read up to a terminator needs one -/
structure FrameRequest where
  terminator : Terminator
  mode : ReadMode
  bounded : mode = .terminated → terminator ≠ .none

namespace FrameRequest

/-- the bytes that end the frame and are not part of it -/
def mark (r : FrameRequest) : Bytes :=
  match r.mode with
  | .terminated => r.terminator.bytes
  | .length _ => []

/-- a request for what comes before the terminator -/
def terminated (t : Terminator) (h : t ≠ .none) : FrameRequest := ⟨t, .terminated, fun _ => h⟩

/-- What a request cuts off the unread bytes: a frame and its mark, the first there is, or as many bytes as were asked
for. The rest stays unread. -/
structure Cuts (r : FrameRequest) (unread frame rest : Bytes) : Prop where
  whole : unread = frame ++ r.mark ++ rest
  first : r.mode = .terminated → ∀ k < frame.length, ¬ r.mark <+: unread.drop k
  long : ∀ n, r.mode = .length n → frame.length = n

end FrameRequest

theorem Terminator.bytes_ne_nil {t : Terminator} (h : t ≠ .none) : t.bytes ≠ [] := by
  cases t <;> simp_all [Terminator.bytes]

/-- the search for a mark finds the first -/
theorem splitAtMark?_eq_some_iff {mark : Bytes} (hmark : mark ≠ []) {bytes before after : Bytes} :
    splitAtMark? mark bytes = some (before, after) ↔
      bytes = before ++ mark ++ after ∧ ∀ k < before.length, ¬ mark <+: bytes.drop k := by
  induction bytes generalizing before with
  | nil => simp [splitAtMark?, hmark]
  | cons b rest ih =>
    unfold splitAtMark?
    by_cases hhere : mark.isPrefixOf (b :: rest) = true
    · rw [if_pos hhere]
      rw [List.isPrefixOf_iff_prefix] at hhere
      obtain ⟨tail, htail⟩ := hhere
      constructor
      · rintro h
        cases h
        exact ⟨by simp [← htail], fun k hk => absurd hk (by simp)⟩
      · rintro ⟨hwhole, hfirst⟩
        cases before with
        | nil => simp [hwhole]
        | cons c before => exact absurd ⟨tail, htail⟩ (hfirst 0 (by simp))
    · rw [if_neg hhere]
      rw [List.isPrefixOf_iff_prefix] at hhere
      constructor
      · intro h
        obtain ⟨⟨before', after'⟩, hsplit, heq⟩ := Option.map_eq_some_iff.1 h
        cases heq
        obtain ⟨hwhole, hfirst⟩ := ih.1 hsplit
        refine ⟨by simp [hwhole], fun k hk => ?_⟩
        cases k with
        | zero => exact hhere
        | succ k => exact hfirst k (by simpa using hk)
      · rintro ⟨hwhole, hfirst⟩
        cases before with
        | nil => exact absurd ⟨after, by simpa using hwhole.symm⟩ hhere
        | cons c before =>
          simp only [List.cons_append, List.cons.injEq] at hwhole
          obtain ⟨rfl, hrest⟩ := hwhole
          have hsplit := ih.2 ⟨hrest, fun k hk => hfirst (k + 1) (by simpa using hk)⟩
          rw [hsplit]
          rfl

namespace FrameRequest

variable {r : FrameRequest} {unread frame rest : Bytes}

/-- **A frame is taken exactly where the request cuts** -/
theorem takeFrame?_eq_some_iff :
    takeFrame? r.terminator r.mode unread = some (frame, rest) ↔ r.Cuts unread frame rest := by
  obtain ⟨t, mode, bounded⟩ := r
  cases mode with
  | length n =>
    simp only [takeFrame?, Option.ite_none_right_eq_some, Option.some.injEq, Prod.mk.injEq]
    constructor
    · rintro ⟨hn, rfl, rfl⟩
      exact ⟨by simp [mark], fun h => (nomatch h), fun m h => by cases h; exact List.length_take_of_le hn⟩
    · rintro ⟨hwhole, -, hlong⟩
      obtain rfl := hlong n rfl
      simp [hwhole, mark]
  | terminated =>
    have ht : t ≠ .none := bounded rfl
    simp only [takeFrame?, ht, if_false, splitAtMark?_eq_some_iff (Terminator.bytes_ne_nil ht)]
    constructor
    · rintro ⟨hwhole, hfirst⟩
      exact ⟨hwhole, fun _ => hfirst, fun n h => (nomatch h)⟩
    · rintro ⟨hwhole, hfirst, -⟩
      exact ⟨hwhole, hfirst rfl⟩

theorem Cuts.unique {frame' rest' : Bytes} (h : r.Cuts unread frame rest) (h' : r.Cuts unread frame' rest') :
    frame = frame' ∧ rest = rest' := by
  have heq := (takeFrame?_eq_some_iff.2 h).symm.trans (takeFrame?_eq_some_iff.2 h')
  simpa using heq

theorem Cuts.length_le (h : r.Cuts unread frame rest) : rest.length ≤ unread.length := by
  simp only [h.whole, List.length_append]
  omega

/-- a frame that is complete stays the frame, whatever arrives after it -/
theorem Cuts.append (h : r.Cuts unread frame rest) (more : Bytes) : r.Cuts (unread ++ more) frame (rest ++ more) where
  whole := by simp [h.whole]
  first hmode k hk hprefix := by
    refine h.first hmode k hk (List.prefix_of_prefix_length_le hprefix ?_ ?_)
    · rw [List.drop_append_of_le_length (by simp [h.whole]; omega)]
      exact List.prefix_append _ _
    · simp [h.whole]
      omega
  long := h.long

end FrameRequest

/-! ## One read -/

/-- a receive takes nothing away that it does not deliver -/
theorem Inlet.unread_receive {deadline : Option Nat} {now : Nat} (i : Inlet) {d : Delivery}
    (h : (receive chunk deadline now i.events).delivery = d) :
    Inlet.unread ⟨i.pending ++ d.payload, (receive chunk deadline now i.events).rest⟩ = i.unread := by
  subst h
  rw [Inlet.unread, List.append_assoc, payload_receive]
  rfl

/-- What a read may do to the unread bytes: cut its frame off, or leave them as they are. It gives up on no frame as too
long. -/
def FrameRead.CutsOff (o : FrameRead) (r : FrameRequest) (unread : Bytes) : Prop :=
  match o.outcome with
  | .frame f => r.Cuts unread f o.inlet.unread
  | .failed (.tooLong _) => False
  | _ => o.inlet.unread = unread

theorem maxFrame_le_room (mode : ReadMode) : maxFrame ≤ mode.room := by
  cases mode with
  | terminated => exact Nat.le_refl _
  | length n => exact Nat.le_max_right _ _

/-- **A read cuts its frame off the unread bytes or leaves them as they are**, whatever the stream does and however long
the reader waits -/
theorem readFrame_cuts (r : FrameRequest) (deadline : Option Nat) (now : Nat) (i : Inlet)
    (hcap : i.unread.length ≤ maxFrame) :
    (readFrame r.terminator r.mode deadline now i).CutsOff r i.unread := by
  generalize ht : r.terminator = t, hm : r.mode = mode
  fun_induction readFrame t mode deadline now i with
  | case1 now i frame pending htake =>
    subst ht hm
    exact (FrameRequest.takeFrame?_eq_some_iff.1 htake).append (payload i.events)
  | case2 now i _ a hdelivery => simpa [FrameRead.CutsOff, Delivery.payload] using i.unread_receive hdelivery
  | case3 now i _ a p hdelivery => simpa [FrameRead.CutsOff, Delivery.payload] using i.unread_receive hdelivery
  | case4 now i _ a hdelivery => simpa [FrameRead.CutsOff, Delivery.payload] using i.unread_receive hdelivery
  | case5 now i _ a b hdelivery hb _ hlong =>
    -- more has arrived than there is
    have hroom := maxFrame_le_room mode
    rw [← i.unread_receive hdelivery, Inlet.unread, List.length_append] at hcap
    exact absurd hlong (by simp only [Delivery.payload] at hcap; omega)
  | case6 now i _ a b hdelivery hb _ hlong ih =>
    rw [← i.unread_receive hdelivery] at hcap ⊢
    exact ih hcap

theorem chunk_ne_zero : chunk ≠ 0 := by decide

/-- **A read completes as soon as there is a frame**, if the stream flows -/
theorem readFrame_completes {r : FrameRequest} {frame rest : Bytes} (deadline : Option Nat) (now : Nat) (i : Inlet)
    (hcap : i.unread.length ≤ maxFrame) (hflows : ∀ e ∈ i.events, e.Flows deadline)
    (hcut : r.Cuts i.unread frame rest) :
    (readFrame r.terminator r.mode deadline now i).outcome = .frame frame ∧
      ∀ e ∈ (readFrame r.terminator r.mode deadline now i).inlet.events, e.Flows deadline := by
  have hcuts := readFrame_cuts r deadline now i hcap
  suffices h : (∃ f, (readFrame r.terminator r.mode deadline now i).outcome = .frame f) ∧
      ∀ e ∈ (readFrame r.terminator r.mode deadline now i).inlet.events, e.Flows deadline by
    obtain ⟨⟨f, hf⟩, hrest⟩ := h
    rw [FrameRead.CutsOff, hf] at hcuts
    rw [hf, (hcuts.unique hcut).1]
    exact ⟨rfl, hrest⟩
  clear hcuts
  generalize ht : r.terminator = t, hm : r.mode = mode
  fun_induction readFrame t mode deadline now i with
  | case1 now i f pending htake => exact ⟨⟨f, rfl⟩, hflows⟩
  | case2 now i htake a hdelivery =>
    subst ht hm
    obtain ⟨-, ⟨b, -, hbytes⟩ | ⟨-, hdry⟩⟩ := receive_flows chunk_ne_zero now hflows
    · cases hdelivery.symm.trans hbytes
    · -- all there is has arrived
      rw [Inlet.unread, hdry, List.append_nil, ← FrameRequest.takeFrame?_eq_some_iff, htake] at hcut
      cases hcut
  | case3 now i _ a p hdelivery =>
    obtain ⟨-, ⟨b, -, hbytes⟩ | ⟨hbytes, -⟩⟩ := receive_flows chunk_ne_zero now hflows
    all_goals cases hdelivery.symm.trans hbytes
  | case4 now i _ a hdelivery =>
    obtain ⟨-, ⟨b, hb, hbytes⟩ | ⟨hbytes, -⟩⟩ := receive_flows chunk_ne_zero now hflows
    · cases hdelivery.symm.trans hbytes
      exact absurd rfl hb
    · cases hdelivery.symm.trans hbytes
  | case5 now i _ a b hdelivery hb _ hlong =>
    have hroom := maxFrame_le_room mode
    rw [← i.unread_receive hdelivery, Inlet.unread, List.length_append] at hcap
    exact absurd hlong (by simp only [Delivery.payload] at hcap; omega)
  | case6 now i _ a b hdelivery hb _ hlong ih =>
    rw [← i.unread_receive hdelivery] at hcap hcut
    exact ih hcap (receive_flows chunk_ne_zero now hflows).1 hcut

/-! ## Reads one after another -/

/-- a read of one frame: what is asked for, when it starts, and up to when it waits -/
structure ReadAttempt where
  request : FrameRequest
  start : Nat
  deadline : Option Nat := none

def ReadAttempt.run (a : ReadAttempt) (i : Inlet) : FrameRead :=
  readFrame a.request.terminator a.request.mode a.deadline a.start i

/-- what reads one after another come to: the frames of those that complete, with what was asked for, and the inlet
after them -/
structure Readings where
  cuts : List (FrameRequest × Bytes) := []
  inlet : Inlet

def readAll : List ReadAttempt → Inlet → Readings
  | [], i => { inlet := i }
  | a :: rest, i =>
    let o := a.run i
    let later := readAll rest o.inlet
    match o.outcome with
    | .frame f => { later with cuts := (a.request, f) :: later.cuts }
    | _ => later

/-- frames that are cut one after another off the front of the unread bytes -/
inductive CutsAll : Bytes → List (FrameRequest × Bytes) → Bytes → Prop
  | none (unread : Bytes) : CutsAll unread [] unread
  | next {r : FrameRequest} {unread frame rest last : Bytes} {cuts : List (FrameRequest × Bytes)} :
    r.Cuts unread frame rest → CutsAll rest cuts last → CutsAll unread ((r, frame) :: cuts) last

def withMarks (cuts : List (FrameRequest × Bytes)) : Bytes := cuts.flatMap fun c => c.2 ++ c.1.mark

namespace CutsAll

variable {unread last : Bytes} {cuts : List (FrameRequest × Bytes)}

/-- nothing is lost and nothing is duplicated -/
theorem whole (h : CutsAll unread cuts last) : unread = withMarks cuts ++ last := by
  induction h with
  | none unread => rfl
  | next hcut _ ih => simp [hcut.whole, ih, withMarks]

/-- what was asked for determines the frames -/
theorem unique {last' : Bytes} {cuts' : List (FrameRequest × Bytes)} (h : CutsAll unread cuts last)
    (h' : CutsAll unread cuts' last') (hasked : cuts'.map Prod.fst = cuts.map Prod.fst) :
    cuts' = cuts ∧ last' = last := by
  induction h generalizing cuts' with
  | none unread =>
    obtain rfl := List.map_eq_nil_iff.1 hasked
    cases h'
    exact ⟨rfl, rfl⟩
  | next hcut _ ih =>
    cases h' with
    | none => cases hasked
    | next hcut' hrest' =>
      simp only [List.map_cons, List.cons.injEq] at hasked
      obtain ⟨rfl, hasked⟩ := hasked
      obtain ⟨rfl, rfl⟩ := hcut.unique hcut'
      obtain ⟨rfl, rfl⟩ := ih hrest' hasked
      exact ⟨rfl, rfl⟩

end CutsAll

/-- **Reads one after another cut their frames off the unread bytes**, in the order in which they are made -/
theorem readAll_cuts (attempts : List ReadAttempt) (i : Inlet) (hcap : i.unread.length ≤ maxFrame) :
    CutsAll i.unread (readAll attempts i).cuts (readAll attempts i).inlet.unread := by
  induction attempts generalizing i with
  | nil => exact .none _
  | cons a rest ih =>
    have hcuts : (a.run i).CutsOff a.request i.unread := readFrame_cuts a.request a.deadline a.start i hcap
    simp only [readAll]
    unfold FrameRead.CutsOff at hcuts
    split at hcuts
    · next f hf =>
      simp only [hf]
      exact .next hcuts (ih _ (Nat.le_trans hcuts.length_le hcap))
    · exact hcuts.elim
    · next o hframe _ =>
      have hrest := ih (a.run i).inlet (by rw [hcuts]; exact hcap)
      rw [hcuts] at hrest
      split
      · next f hf => exact absurd hf (hframe f)
      · exact hrest

/-! ## Messages -/

/-- messages as they are written: each with the terminator after it -/
def written (t : Terminator) (messages : List Bytes) : Bytes := messages.flatMap (· ++ t.bytes)

/-- **A message without the terminator is cut off at its end**, even if it ends in half a terminator -/
theorem cuts_message {t : Terminator} (ht : t ≠ .none) {m : Bytes} (hm : ¬ t.bytes <:+: m) (rest : Bytes) :
    (FrameRequest.terminated t ht).Cuts (m ++ t.bytes ++ rest) m rest where
  whole := rfl
  first := by
    rintro - k hk hprefix
    change t.bytes <+: _ at hprefix
    rw [List.append_assoc, List.drop_append_of_le_length (Nat.le_of_lt hk)] at hprefix
    obtain ⟨b, tail, htail⟩ : ∃ b tail, m.drop k = b :: tail := List.exists_cons_of_ne_nil (by simpa using hk)
    -- a terminator that starts in the message and does not lie in it
    have hinfix : t.bytes <+: m.drop k → False := fun h =>
      hm (h.isInfix.trans (List.drop_suffix k m).isInfix)
    rw [htail] at hprefix hinfix
    cases t with
    | none => exact ht rfl
    | cr | lf => simp_all [Terminator.bytes]
    | crLf =>
      cases tail with
      | nil => simp [Terminator.bytes] at hprefix
      | cons c tail => simp_all [Terminator.bytes]
  long n h := nomatch h

/-- **Messages that were written are read back**, one for each read that waits, however they are delivered -/
theorem readAll_written {t : Terminator} (ht : t ≠ .none) (messages : List Bytes) (starts : List Nat)
    (hstarts : starts.length = messages.length) (i : Inlet) (hmessages : ∀ m ∈ messages, ¬ t.bytes <:+: m)
    (hcap : i.unread.length ≤ maxFrame) (hflows : ∀ e ∈ i.events, e.Flows none) (rest : Bytes)
    (hunread : i.unread = written t messages ++ rest) :
    (readAll (starts.map fun start => ⟨.terminated t ht, start, none⟩) i).cuts =
        messages.map (FrameRequest.terminated t ht, ·) ∧
      (readAll (starts.map fun start => ⟨.terminated t ht, start, none⟩) i).inlet.unread = rest := by
  induction messages generalizing starts i with
  | nil =>
    obtain rfl := List.length_eq_zero_iff.1 hstarts
    exact ⟨rfl, hunread⟩
  | cons m messages ih =>
    cases starts with
    | nil => cases hstarts
    | cons start starts =>
      obtain ⟨hm, hmessages⟩ := List.forall_mem_cons.1 hmessages
      have hcut : (FrameRequest.terminated t ht).Cuts i.unread m (written t messages ++ rest) := by
        rw [hunread, written, List.flatMap_cons, List.append_assoc]
        exact cuts_message ht hm _
      obtain ⟨hframe, hflowsOn⟩ := readFrame_completes none start i hcap hflows hcut
      have hcuts := readFrame_cuts (.terminated t ht) none start i hcap
      rw [FrameRead.CutsOff, hframe] at hcuts
      obtain ⟨hread, hlast⟩ := ih starts (by simpa using hstarts) _ hmessages (Nat.le_trans hcuts.length_le hcap)
        hflowsOn (hcuts.unique hcut).2
      simp only [List.map_cons, readAll, ReadAttempt.run, hframe]
      exact ⟨by rw [hread], hlast⟩

variable {ω : Type} [Wire ω]

namespace SerialLine

theorem writeString_apply (s : String) (d : SerialLine ω) :
    writeString s d = writeBytes (Text.utf8 s ++ d.terminator.bytes) d := Attempt.get_bind _ d

theorem writeBytes_apply (data : Bytes) (d : SerialLine ω) :
    writeBytes data d =
      if d.connected then
        { link := { d with wire := (Wire.send data d.wire).1 }, result := (Wire.send data d.wire).2 }
      else { link := d, result := .error .notConnected } := by
  cases hc : d.connected with
  | false => simp [writeBytes, Attempt.bind_apply, hc]
  | true => simp [writeBytes, Attempt.bind_apply, hc]

/-- writing a text sends it with its terminator -/
theorem writeString_sends {heard : ω → Bytes} (hwire : Wire.Hears heard) (s : String) (d : SerialLine ω) :
    (writeString s).Sends (fun d => heard d.wire) d [Text.utf8 s ++ d.terminator.bytes] := by
  have h := (writeString_apply s d).trans (writeBytes_apply _ d)
  cases hc : d.connected with
  | false =>
    rw [hc] at h
    exact Attempt.sends_failed (by rw [h]; rfl) (by rw [h]; rfl) _
  | true =>
    rw [hc] at h
    exact Attempt.sends_over hwire SerialLine.wire (by rw [h]; rfl) (by rw [h]; rfl)

theorem writeString_leaves (s : String) : (writeString (ω := ω) s).Leaves terminator := by
  intro d
  rw [writeString_apply, writeBytes_apply]
  split <;> rfl

/-- texts that are written one after another are sent one after another -/
theorem writeAll_sends {heard : ω → Bytes} (hwire : Wire.Hears heard) (texts : List String) (d : SerialLine ω) :
    (texts.forM writeString).Sends (fun d => heard d.wire) d
      (texts.map fun s => Text.utf8 s ++ d.terminator.bytes) := by
  induction texts generalizing d with
  | nil => exact Attempt.sends_nothing rfl
  | cons s texts ih =>
    rw [List.map_cons, ← List.singleton_append]
    refine (writeString_sends hwire s d).bind fun d' delay _ hwritten => ?_
    rw [← (writeString_leaves s).link hwritten]
    exact ih d'

end SerialLine

/-- What reads have made of a stream: the frames are cut off it one after another, and they, their marks, what is
pending and what has not been delivered are the stream. -/
structure Readings.Split (o : Readings) (stream : Bytes) : Prop where
  cut : CutsAll stream o.cuts o.inlet.unread
  whole : stream = withMarks o.cuts ++ o.inlet.pending ++ payload o.inlet.events

theorem readAll_split (attempts : List ReadAttempt) (events : List StreamEvent)
    (hcap : (payload events).length ≤ maxFrame) : (readAll attempts { events }).Split (payload events) where
  cut := readAll_cuts attempts { events } hcap
  whole := by
    rw [List.append_assoc]
    exact (readAll_cuts attempts { events } hcap).whole

/-- **Framing does not depend on chunking, and inverts writing.**

A stream is delivered in any way, with any silences, failures and ends in between, and is read by any requests, at any
times and with any deadlines. Each frame that is read is what comes before the first terminator, or as many bytes as
were asked for; the frames, their terminators, what is pending and what has not been delivered are the stream; and
another delivery of the stream gives the same frames to the same requests. A read that waits completes if a frame is
there.

Texts that do not contain the terminator are written over a line. However the bytes that have been heard are delivered,
reads up to the terminator give the texts, and nothing is left. -/
theorem framing_inverts_writing {heard : ω → Bytes} (hwire : Wire.Hears heard) :
    (∀ (events : List StreamEvent) (attempts : List ReadAttempt), (payload events).length ≤ maxFrame →
      let o := readAll attempts { events }
      o.Split (payload events) ∧
      (∀ events' attempts', payload events' = payload events →
        let o' := readAll attempts' { events := events' }
        o'.cuts.map Prod.fst = o.cuts.map Prod.fst → o'.cuts = o.cuts ∧ o'.inlet.unread = o.inlet.unread) ∧
      ((∀ e ∈ o.inlet.events, e.Flows none) → ∀ (r : FrameRequest) (now : Nat) (frame : Bytes),
        (readFrame r.terminator r.mode none now o.inlet).outcome = .frame frame ↔
          ∃ rest, r.Cuts o.inlet.unread frame rest)) ∧
    ∀ (d d' : SerialLine ω) (texts : List String) (delay : Nat) (ht : d.terminator ≠ .none),
      (∀ s ∈ texts, ¬ d.terminator.bytes <:+: Text.utf8 s) →
      texts.forM SerialLine.writeString d = ⟨d', delay, .ok ()⟩ →
      ∀ (events : List StreamEvent) (starts : List Nat), heard d'.wire = heard d.wire ++ payload events →
        (payload events).length ≤ maxFrame → (∀ e ∈ events, e.Flows none) → starts.length = texts.length →
        let o := readAll (starts.map fun start => ⟨.terminated d.terminator ht, start, none⟩) { events }
        o.cuts.map Prod.snd = texts.map Text.utf8 ∧ o.inlet.unread = [] := by
  constructor
  · intro events attempts hcap o
    have hsplit : o.Split (payload events) := readAll_split attempts events hcap
    have hunread : o.inlet.unread.length ≤ maxFrame := by
      have hwhole := congrArg List.length hsplit.cut.whole
      rw [List.length_append] at hwhole
      omega
    refine ⟨hsplit, ?_, ?_⟩
    · intro events' attempts' hsame o' hasked
      have hsplit' := readAll_split attempts' events' (by rw [hsame]; exact hcap)
      rw [hsame] at hsplit'
      exact hsplit.cut.unique hsplit'.cut hasked
    · intro hflows r now frame
      constructor
      · intro hframe
        have hcut := readFrame_cuts r none now o.inlet hunread
        rw [FrameRead.CutsOff, hframe] at hcut
        exact ⟨_, hcut⟩
      · rintro ⟨rest, hcut⟩
        exact (readFrame_completes none now o.inlet hunread hflows hcut).1
  · intro d d' texts delay ht htexts hwritten events starts hheard hcap hflows hstarts o
    -- what was heard is what was written
    have hsent := (SerialLine.writeAll_sends hwire texts d).whole hwritten
    rw [hheard, List.append_cancel_left_eq] at hsent
    have hunread : Inlet.unread { events } = written d.terminator (texts.map Text.utf8) ++ [] := by
      rw [List.append_nil, written, List.flatMap_map, List.flatMap_def]
      exact hsent
    obtain ⟨hcuts, hlast⟩ := readAll_written ht (texts.map Text.utf8) starts (by simpa using hstarts) { events }
      (by simpa using htexts) hcap hflows [] hunread
    exact ⟨by simp [o, hcuts, Function.comp_def], hlast⟩

def listeningLine : SerialLine ScriptedPeer :=
  { name := "Meter", settings := { path := "/dev/ttyUSB0" }, wire := {}, connected := true }

/-- two texts with their terminators, cut up anyhow -/
def choppyDelivery : List StreamEvent :=
  [.data [86, 13], .silence 40, .data [13], .data [10, 49], .silentUntil 90, .data [13], .data [10]]

/-- a read of one byte, a read up to the terminator that gives up too early, and one that does not -/
def choppyReads : List ReadAttempt :=
  [⟨⟨.crLf, .length 1, nofun⟩, 0, none⟩, ⟨.terminated .crLf (by decide), 7, some 9⟩,
    ⟨.terminated .crLf (by decide), 9, none⟩]

/-- **Messages are read back**, the first of which ends in half a terminator; and so is what a read by length has
left -/
theorem messages_read_back :
    ((readAll choppyReads { events := choppyDelivery }).cuts.map Prod.snd = [[86], [13]] ∧
      (readAll choppyReads { events := choppyDelivery }).Split (payload choppyDelivery)) ∧
    ∃ d', ["V\r", "1"].forM SerialLine.writeString listeningLine = ⟨d', 0, .ok ()⟩ ∧
      (readAll ([3, 5].map fun start => ⟨.terminated .crLf (by decide), start, none⟩)
        { events := choppyDelivery }).cuts.map Prod.snd = ["V\r", "1"].map Text.utf8 := by
  refine ⟨⟨by decide +kernel, ?_⟩, _, rfl, ?_⟩
  · exact ((framing_inverts_writing ScriptedPeer.hears_scriptedPeer).1 choppyDelivery choppyReads (by decide)).1
  · exact ((framing_inverts_writing ScriptedPeer.hears_scriptedPeer).2 listeningLine _ ["V\r", "1"] 0 (by decide)
      (by decide) rfl choppyDelivery [3, 5] (by decide) (by decide) (by decide) rfl).1

end CalBench
