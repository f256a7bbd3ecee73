/-
What a link to a controller box remembers is so.

A link does not tell its box an address that it has told it before, and it does not ask the box for its terminator. Both
are right only as long as what the link remembers is what the box was told last: on this connection, and in the case of
the address since the box was restarted. Any call may fail at any of the lines that it sends, and what fails is not
heard.

The history of a link is what its box has heard. `opened` is how much of it came before the link was opened, `received`
the messages heard since, `addressed` the last address among them that no restart has wiped out.

- `Remembers`: messages that account for all that was heard since some moment, and agree with what the link remembers;
- `Errand.keeps_remembering`: each errand keeps it, however many of its lines get through.

Results:
- `memory_is_true`: in every state with the link open that errands lead to, a remembered address is the last one the box
  was told, and the terminator is the last one it was told; and an errand that directs the box at a device and does not
  fail leaves the box directed at it, whether it had to tell it or not.
Witness `failed_address_is_forgotten`: an address that is told, an address that does not get through, a restart, and a
second connection.
-/
import CalBench.Proofs.Link.Address
import Mathlib.Data.List.DropRight

namespace CalBench

/-! ## Properties that attempts keep -/

namespace Attempt

variable {Λ α β : Type} {P : Λ → Prop}

/-- whatever comes of the attempt, a link with a property has it afterwards -/
def Keeps (P : Λ → Prop) (a : Attempt Λ α) : Prop := ∀ l, P l → P (a l).link

theorem keeps_same {a : Attempt Λ α} (h : ∀ l, (a l).link = l) : a.Keeps P := fun l hl => (h l).symm ▸ hl

theorem Keeps.bind {a : Attempt Λ α} {f : α → Attempt Λ β} (ha : a.Keeps P) (hf : ∀ x, (f x).Keeps P) :
    (a >>= f).Keeps P := by
  intro l hl
  have hfirst := ha l hl
  rw [bind_apply]
  revert hfirst
  rcases a l with ⟨l', delay, e | x⟩ <;> intro hfirst
  · exact hfirst
  · exact hf x l' hfirst

end Attempt

/-! ## The last message of a kind -/

namespace BoxMessage

def begins (word : String) : BoxMessage → Bool
  | .command text => (Text.utf8 word).isPrefixOf text
  | .data _ => false

def lastOf (word : String) (told : List BoxMessage) : Option BoxMessage := (told.filter (begins word)).getLast?

/-- the messages since the box was last restarted -/
def sinceRestart (told : List BoxMessage) : List BoxMessage := told.rtakeWhile fun m => !m.begins "++rst"

/-- the commands that have to do with what a link remembers -/
def memorable : List String := ["++addr", "++eos", "++rst"]

/-- the message has nothing to do with what a link remembers -/
def Neutral (m : BoxMessage) : Prop := ∀ word ∈ memorable, m.begins word = false

instance : DecidablePred Neutral := fun m => List.decidableBAll (fun word => m.begins word = false) memorable

theorem lastOf_snoc (word : String) (told : List BoxMessage) (m : BoxMessage) :
    lastOf word (told ++ [m]) = if m.begins word then some m else lastOf word told := by
  unfold lastOf
  rw [List.filter_append]
  cases hm : m.begins word <;> simp [hm]

theorem lastOf_snoc_other {word : String} {m : BoxMessage} (h : m.begins word = false) (told : List BoxMessage) :
    lastOf word (told ++ [m]) = lastOf word told := by
  rw [lastOf_snoc, h]
  rfl

theorem lastOf_snoc_self {word : String} {m : BoxMessage} (h : m.begins word = true) (told : List BoxMessage) :
    lastOf word (told ++ [m]) = some m := by
  rw [lastOf_snoc, h]
  rfl

theorem sinceRestart_snoc {m : BoxMessage} (h : m.begins "++rst" = false) (told : List BoxMessage) :
    sinceRestart (told ++ [m]) = sinceRestart told ++ [m] := by
  unfold sinceRestart
  rw [List.rtakeWhile_concat, h]
  rfl

theorem neutral_data (bytes : Bytes) : (data bytes).Neutral := fun _ _ => rfl

end BoxMessage

namespace Controller

open BoxMessage

/-- how a command begins is seen from its first word -/
theorem begins_say {word s : String} (t : String) (h : Text.utf8 word <+: Text.utf8 s) :
    (say (s ++ t)).begins word = true := by
  rw [say, begins, utf8_append, List.isPrefixOf_iff_prefix]
  exact h.trans (List.prefix_append _ _)

/-- a command does not begin with a word that differs from its own first word -/
theorem not_begins_say {word s : String} (t : String)
    (h : ¬ Text.utf8 word <+: Text.utf8 s ∧ ¬ Text.utf8 s <+: Text.utf8 word) : (say (s ++ t)).begins word = false := by
  rw [say, begins, utf8_append, Bool.eq_false_iff, Ne, List.isPrefixOf_iff_prefix]
  intro hword
  rcases List.prefix_or_prefix_of_prefix hword (List.prefix_append _ _) with hs | hs
  · exact h.1 hs
  · exact h.2 hs

theorem neutral_say {s : String} (t : String)
    (h : ∀ word ∈ memorable, ¬ Text.utf8 word <+: Text.utf8 s ∧ ¬ Text.utf8 s <+: Text.utf8 word) :
    (say (s ++ t)).Neutral :=
  fun word hword => not_begins_say t (h word hword)

theorem Printable.append {s t : String} (hs : Printable s) (ht : Printable t) : Printable (s ++ t) := by
  intro c hc
  rw [String.toList_append, List.mem_append] at hc
  exact hc.elim (hs c) (ht c)

def addressMessage (a : UInt8) : BoxMessage := say ("++addr " ++ Number.natText a.toNat)

theorem addressMessage_begins (a : UInt8) :
    (addressMessage a).begins "++addr" = true ∧ (addressMessage a).begins "++eos" = false ∧
      (addressMessage a).begins "++rst" = false :=
  ⟨begins_say _ (by decide), not_begins_say _ (by decide), not_begins_say _ (by decide)⟩

theorem terminatorCommand_begins (t : Terminator) :
    (say (terminatorCommand t)).begins "++addr" = false ∧ (say (terminatorCommand t)).begins "++eos" = true ∧
      (say (terminatorCommand t)).begins "++rst" = false :=
  ⟨not_begins_say _ (by decide), begins_say _ (by decide), not_begins_say _ (by decide)⟩

variable {ω : Type}

/-- what a link remembers is what its box was told last -/
structure Agrees (d : Controller ω) (told : List BoxMessage) : Prop where
  address : ∀ a, d.address = some a → lastOf "++addr" (sinceRestart told) = some (addressMessage a)
  terminator : lastOf "++eos" told = some (say (terminatorCommand d.terminator))

/-- a link that is closed remembers no address -/
def Blank (d : Controller ω) : Prop := d.connected = false → d.address = none

/-- Messages that account for what was heard since some moment; `before` was heard before it. -/
structure Remembers (heard : ω → Bytes) (before : Bytes) (told : List BoxMessage) (d : Controller ω) : Prop where
  sound : ∀ m ∈ told, m.Sound
  heard : heard d.wire = before ++ told.flatMap line
  agrees : d.connected = true → d.Agrees told
  blank : d.Blank

def Accounted (heard : ω → Bytes) (before : Bytes) (d : Controller ω) : Prop := ∃ told, Remembers heard before told d

/-! ## What messages do to the memory -/

namespace Agrees

variable {d : Controller ω} {told : List BoxMessage}

/-- only the memory matters -/
theorem of_fields {d' : Controller ω} (h : d.Agrees told) (haddress : d'.address = d.address)
    (hterminator : d'.terminator = d.terminator) : d'.Agrees told :=
  ⟨by rw [haddress]; exact h.address, by rw [hterminator]; exact h.terminator⟩

theorem neutral (h : d.Agrees told) {m : BoxMessage} (hm : m.Neutral) : d.Agrees (told ++ [m]) where
  address a ha := by
    rw [sinceRestart_snoc (hm "++rst" (by decide)), lastOf_snoc_other (hm "++addr" (by decide))]
    exact h.address a ha
  terminator := by
    rw [lastOf_snoc_other (hm "++eos" (by decide))]
    exact h.terminator

/-- a device is selected and then remembered -/
theorem readdressed (h : d.Agrees told) (a : UInt8) :
    Agrees { d with address := some a } (told ++ [addressMessage a]) where
  address b hb := by
    obtain rfl : a = b := Option.some.inj hb
    rw [sinceRestart_snoc (addressMessage_begins a).2.2, lastOf_snoc_self (addressMessage_begins a).1]
  terminator := by
    rw [lastOf_snoc_other (addressMessage_begins a).2.1]
    exact h.terminator

/-- the terminator is set, and then remembered -/
theorem terminated (h : ∀ a, d.address = some a → lastOf "++addr" (sinceRestart told) = some (addressMessage a))
    (t : Terminator) : Agrees { d with terminator := t } (told ++ [say (terminatorCommand t)]) where
  address a ha := by
    rw [sinceRestart_snoc (terminatorCommand_begins t).2.2, lastOf_snoc_other (terminatorCommand_begins t).1]
    exact h a ha
  terminator := lastOf_snoc_self (terminatorCommand_begins t).2.1 told

/-- after a restart no address is remembered -/
theorem restarted (h : d.Agrees told) : Agrees { d with address := none, pending := [] } (told ++ [say "++rst"]) where
  address _ ha := nomatch ha
  terminator := by
    rw [lastOf_snoc_other (by decide)]
    exact h.terminator

end Agrees

variable {heard : ω → Bytes} {before : Bytes}

/-- a line that was heard is accounted for -/
theorem Remembers.told {told : List BoxMessage} {d d' : Controller ω} {m : BoxMessage}
    (h : Remembers heard before told d) (hm : m.Sound) (hheard : heard d'.wire = heard d.wire ++ m.line)
    (hopen : d'.connected = true) (hagrees : d'.Agrees (told ++ [m])) : Remembers heard before (told ++ [m]) d' where
  sound := List.forall_mem_append.2 ⟨h.sound, List.forall_mem_singleton.2 hm⟩
  heard := by
    rw [hheard, h.heard, List.flatMap_append, List.append_assoc, List.flatMap_singleton]
  agrees _ := hagrees
  blank hclosed := by
    rw [hopen] at hclosed
    cases hclosed

/-- a line that has failed changes nothing -/
theorem Remembers.unsent {told : List BoxMessage} {d : Controller ω} {wire : ω} (h : Remembers heard before told d)
    (hheard : heard wire = heard d.wire) : Remembers heard before told { d with wire } :=
  { h with heard := hheard.trans h.heard, agrees := fun hopen => (h.agrees hopen).of_fields rfl rfl }

theorem register_keeps (text what : String) : (register text what).Keeps (Accounted (ω := ω) heard before) := by
  unfold register
  split <;> exact Attempt.keeps_same fun _ => rfl

/-- a closed link has nothing to account for -/
theorem accounted_closed {d : Controller ω} (hclosed : d.connected = false) (haddress : d.address = none) :
    d.Accounted heard (heard d.wire) :=
  ⟨[], fun _ h => (List.not_mem_nil h).elim, (List.append_nil _).symm,
    fun hopen => (nomatch hclosed.symm.trans hopen), fun _ => haddress⟩

variable [Wire ω]

/-! ## Sending a line -/

/-- a line is heard and the link was open, or it has failed and nothing was heard -/
theorem sendLine_cases (hwire : Wire.Hears heard) (m : BoxMessage) (d : Controller ω) :
    (∃ wire e, sendRaw m.line d = ⟨{ d with wire }, 0, .error e⟩ ∧ heard wire = heard d.wire) ∨
      ∃ wire, sendRaw m.line d = ⟨{ d with wire }, 0, .ok ()⟩ ∧ heard wire = heard d.wire ++ m.line ∧
        d.connected = true := by
  rw [sendRaw_apply]
  split
  case isTrue hopen =>
    cases hsent : (Wire.send m.line d.wire).2 with
    | error e => exact .inl ⟨_, e, rfl, hwire.unsent _ _ e hsent⟩
    | ok u => exact .inr ⟨_, rfl, hwire.sent _ _ hsent, hopen⟩
  case isFalse => exact .inl ⟨d.wire, .notConnected, rfl, rfl⟩

/-- a line that agrees with what is remembered keeps the memory true -/
theorem sendLine_keeps (hwire : Wire.Hears heard) {m : BoxMessage} (hm : m.Sound) {d : Controller ω}
    (hagrees : ∀ told, d.Agrees told → d.Agrees (told ++ [m])) (h : Accounted heard before d) :
    Accounted heard before (sendRaw m.line d).link := by
  obtain ⟨told, h⟩ := h
  rcases sendLine_cases hwire m d with ⟨wire, e, heq, hheard⟩ | ⟨wire, heq, hheard, hopen⟩ <;> rw [heq]
  · exact ⟨told, h.unsent hheard⟩
  · exact ⟨told ++ [m], h.told hm hheard hopen ((hagrees told (h.agrees hopen)).of_fields rfl rfl)⟩

/-- a command, and what the link then remembers -/
theorem command_update_keeps (hwire : Wire.Hears heard) {s : String} (hs : (say s).Sound)
    {f : Controller ω → Controller ω} {d : Controller ω}
    (hsame : ∀ d : Controller ω, (f d).wire = d.wire ∧ (f d).connected = d.connected)
    (hagrees : ∀ told wire, d.Agrees told → (f { d with wire }).Agrees (told ++ [say s]))
    (h : Accounted heard before d) :
    Accounted heard before ((command s >>= fun _ => Attempt.update f) d).link := by
  obtain ⟨told, h⟩ := h
  rw [Attempt.bind_apply]
  rcases sendLine_cases hwire (say s) d with ⟨wire, e, heq, hheard⟩ | ⟨wire, heq, hheard, hopen⟩
  · rw [show command s d = _ from heq]
    exact ⟨told, h.unsent hheard⟩
  · rw [show command s d = _ from heq]
    obtain ⟨hwires, hconnected⟩ := hsame { d with wire }
    exact ⟨told ++ [say s], h.told hs ((congrArg heard hwires).trans hheard) (hconnected.trans hopen)
      (hagrees told wire (h.agrees hopen))⟩

/-! ## Calls that leave the memory alone -/

theorem command_keeps (hwire : Wire.Hears heard) {s : String} (hs : (say s).Sound) (hneutral : (say s).Neutral) :
    (command s).Keeps (Accounted (ω := ω) heard before) :=
  fun _ => sendLine_keeps hwire hs fun _ h => h.neutral hneutral

theorem commandWith_keeps (hwire : Wire.Hears heard) {s t : String} (hs : (say s).Sound) (ht : Printable t)
    (hneutral : ∀ word ∈ memorable, ¬ Text.utf8 word <+: Text.utf8 s ∧ ¬ Text.utf8 s <+: Text.utf8 word) :
    (command (s ++ t)).Keeps (Accounted (ω := ω) heard before) :=
  command_keeps hwire (sound_say hs ht) (neutral_say t hneutral)

theorem writeBytes_keeps (hwire : Wire.Hears heard) (data : Bytes) :
    (writeBytes data).Keeps (Accounted (ω := ω) heard before) :=
  fun _ => sendLine_keeps hwire (m := .data data) trivial fun _ h => h.neutral (neutral_data data)

theorem receiveFrame_keeps (hwire : Wire.Hears heard) (t : Terminator) (mode : ReadMode) :
    (receiveFrame t mode).Keeps (Accounted (ω := ω) heard before) := by
  intro d h
  unfold receiveFrame
  split
  · obtain ⟨told, h⟩ := h
    exact ⟨told, { h with
      heard := (hwire.putBack _ _).trans h.heard
      agrees := fun hopen => (h.agrees hopen).of_fields rfl rfl }⟩
  · exact h

theorem ask_keeps (hwire : Wire.Hears heard) {s : String} (hs : (say s).Sound) (hneutral : (say s).Neutral) :
    (ask s).Keeps (Accounted (ω := ω) heard before) :=
  (command_keeps hwire hs hneutral).bind fun _ =>
    (receiveFrame_keeps hwire _ _).bind fun _ => Attempt.keeps_same fun _ => rfl

theorem read_keeps (hwire : Wire.Hears heard) (mode : ReadMode) :
    (read mode).Keeps (Accounted (ω := ω) heard before) :=
  (command_keeps hwire (by decide) (by decide)).bind fun _ =>
    (Attempt.keeps_same fun _ => rfl).bind fun _ => receiveFrame_keeps hwire _ mode

theorem queryRegister_keeps (hwire : Wire.Hears heard) (s : String) :
    (Attempt.queryRegister writeString (read .terminated) s).Keeps (Accounted (ω := ω) heard before) := by
  refine (writeBytes_keeps hwire _).bind fun _ => (read_keeps hwire .terminated).bind fun _ => ?_
  dsimp only
  split <;> exact Attempt.keeps_same fun _ => rfl

theorem triggerEach_keeps (hwire : Wire.Hears heard) (groups : List (List UInt8)) :
    (triggerEach groups).Keeps (Accounted (ω := ω) heard before) := by
  induction groups with
  | nil => exact Attempt.keeps_same fun _ => rfl
  | cons group rest ih =>
    exact (commandWith_keeps hwire (by decide) (printable_addressList group) (by decide)).bind fun _ => ih

/-! ## Calls that change it -/

theorem setAddress_keeps (hwire : Wire.Hears heard) (a : UInt8) :
    (setAddress a).Keeps (Accounted (ω := ω) heard before) := by
  intro d h
  unfold setAddress
  rw [Attempt.get_bind]
  split
  · exact h
  · exact command_update_keeps hwire (sound_say (by decide) (printable_natText _)) (fun _ => ⟨rfl, rfl⟩)
      (fun _ _ hd => (hd.readdressed a).of_fields rfl rfl) h

theorem setTerminator_keeps (hwire : Wire.Hears heard) (t : Terminator) :
    (setTerminator t).Keeps (Accounted (ω := ω) heard before) := by
  intro d h
  unfold setTerminator
  rw [Attempt.get_bind]
  cases hc : d.connected with
  | true =>
    exact command_update_keeps hwire (sound_terminatorCommand t) (fun _ => ⟨rfl, rfl⟩)
      (fun _ _ hd => (Agrees.terminated hd.address t).of_fields rfl rfl) h
  | false =>
    obtain ⟨told, h⟩ := h
    exact ⟨told, { h with
      agrees := fun hopen => by
        change d.connected = true at hopen
        rw [hc] at hopen
        cases hopen }⟩

/-- setting up tells the terminator that is remembered -/
theorem setUp_keeps (hwire : Wire.Hears heard) : setUp.Keeps (Accounted (ω := ω) heard before) := by
  unfold setUp
  refine (command_keeps hwire (by decide) (by decide)).bind fun _ => ?_
  refine (command_keeps hwire (by decide) (by decide)).bind fun _ => ?_
  refine (command_keeps hwire (by decide) (by decide)).bind fun _ => ?_
  refine (command_keeps hwire (by decide) (by decide)).bind fun _ => ?_
  intro d h
  rw [Attempt.get_bind]
  exact sendLine_keeps hwire (sound_terminatorCommand _)
    (fun _ hd => (Agrees.terminated hd.address d.terminator).of_fields rfl rfl) h

theorem restart_keeps (hwire : Wire.Hears heard) : restart.Keeps (Accounted (ω := ω) heard before) := by
  -- the restart and what is forgotten with it are one step, and only after both the memory is true again
  have hassoc : restart (ω := ω) =
      (do command "++rst"; Attempt.update fun d => { d with address := none, pending := [] }) >>= fun _ => setUp := by
    funext d
    simp only [restart, Attempt.bind_apply, Attempt.update_apply]
    rcases command "++rst" d with ⟨d', delay, e | u⟩
    · rfl
    · simp
  rw [hassoc]
  refine Attempt.Keeps.bind (fun d h => ?_) fun _ => setUp_keeps hwire
  exact command_update_keeps hwire (by decide) (fun _ => ⟨rfl, rfl⟩) (fun _ _ hd => hd.restarted.of_fields rfl rfl) h

theorem disconnect_keeps (hwire : Wire.Hears heard) : disconnect.Keeps (Accounted (ω := ω) heard before) := by
  rintro d ⟨told, h⟩
  refine ⟨told, h.sound, ?_, fun hopen => (nomatch hopen), fun _ => rfl⟩
  rw [← h.heard]
  change heard (if d.connected then Wire.hangUp d.wire else d.wire) = heard d.wire
  split
  · exact hwire.hangUp _
  · rfl

/-- what opening a link leaves remembered: no address, and the terminator -/
theorem connect_remembered {t : Terminator} :
    connect.Keeps fun d : Controller ω => d.address = none ∧ d.terminator = t := by
  have hcommand (s : String) : (command s).Keeps fun d : Controller ω => d.address = none ∧ d.terminator = t :=
    fun d h => ⟨(sendRaw_address _ d).trans h.1, (command_leaves s d).trans h.2⟩
  have hsetUp : setUp.Keeps fun d : Controller ω => d.address = none ∧ d.terminator = t :=
    (hcommand _).bind fun _ => (hcommand _).bind fun _ => (hcommand _).bind fun _ => (hcommand _).bind fun _ =>
      (Attempt.keeps_same fun _ => rfl).bind fun _ => hcommand _
  have horHangUp : (orHangUp setUp).Keeps fun d : Controller ω => d.address = none ∧ d.terminator = t := by
    intro d h
    have hd := hsetUp d h
    unfold orHangUp
    revert hd
    rcases setUp d with ⟨d', delay, e | u⟩ <;> exact id
  intro d h
  unfold connect
  rw [Attempt.get_bind]
  split
  · exact h
  · rcases Wire.dial d.wire with ⟨wire, _ | reason⟩
    · exact Attempt.Keeps.bind (fun _ hd => ⟨rfl, hd.2⟩) (fun _ => horHangUp) d h
    · exact h

theorem connect_keeps (hwire : Wire.Hears heard) : connect.Keeps (Accounted (ω := ω) heard before) := by
  rintro d ⟨told, h⟩
  cases hc : d.connected with
  | true =>
    have hsame : connect d = { link := d, result := .ok () } := by
      unfold connect
      rw [Attempt.get_bind]
      simp [hc]
    rw [hsame]
    exact ⟨told, h⟩
  | false =>
    obtain ⟨haddress, hterminator⟩ := connect_remembered (t := d.terminator) d ⟨h.blank hc, rfl⟩
    obtain ⟨sent, hfront, hheard, hall⟩ := connect_tells hwire d
    rw [hc] at hfront hall
    obtain ⟨said, hsaid, rfl⟩ := List.prefix_map_iff.1 hfront
    refine ⟨told ++ said, ?_, ?_, fun hopen => ⟨fun a ha => ?_, ?_⟩, fun _ => haddress⟩
    · exact List.forall_mem_append.2 ⟨h.sound, fun m hm => sound_setUp _ m (hsaid.subset hm)⟩
    · rw [List.flatMap_append, ← List.append_assoc, ← h.heard]
      exact hheard
    · rw [haddress] at ha
      cases ha
    · -- the link is open, so nothing has failed
      have hok : (connect d).result = .ok () := (connect_closed hc).resolve_right fun hclosed => by
        rw [hclosed] at hopen
        cases hopen
      have hwhole : said = setUpMessages d.terminator :=
        hsaid.eq_of_length (by simpa using congrArg List.length (hall () hok))
      have hlast : told ++ setUpMessages d.terminator =
          told ++ (setUpMessages d.terminator).dropLast ++ [say (terminatorCommand d.terminator)] := by
        simp [setUpMessages]
      rw [hwhole, hterminator, hlast]
      exact lastOf_snoc_self (terminatorCommand_begins _).2.1 _

/-- **Every call keeps what the link remembers true**, however far it gets -/
theorem call_keeps (hwire : Wire.Hears heard) (c : Call) : (call c).Keeps (Accounted (ω := ω) heard before) := by
  cases c with
  | connect => exact connect_keeps hwire
  | disconnect => exact disconnect_keeps hwire
  | setTerminator t => exact setTerminator_keeps hwire t
  | writeBytes data => exact writeBytes_keeps hwire data
  | writeString s => exact writeBytes_keeps hwire _
  | read mode => exact read_keeps hwire mode
  | setAddress a => exact setAddress_keeps hwire a
  | clearDevice a =>
    cases a with
    | none => exact command_keeps hwire (by decide) (by decide)
    | some a => exact (setAddress_keeps hwire a).bind fun _ => command_keeps hwire (by decide) (by decide)
  | goToLocal a => exact (setAddress_keeps hwire a).bind fun _ => command_keeps hwire (by decide) (by decide)
  | endOfInstruction =>
    exact (ask_keeps hwire (by decide) (by decide)).bind fun _ => Attempt.keeps_same fun _ => rfl
  | takeControl | reset => exact command_keeps hwire (by decide) (by decide)
  | setEndOfInstruction enabled => exact commandWith_keeps hwire (by decide) (printable_bit _) (by decide)
  | endOfTransmission =>
    refine (ask_keeps hwire (by decide) (by decide)).bind fun _ => ?_
    refine (ask_keeps hwire (by decide) (by decide)).bind fun _ => ?_
    exact (register_keeps _ _).bind fun _ => Attempt.keeps_same fun _ => rfl
  | setEndOfTransmission s =>
    exact (commandWith_keeps hwire (by decide) (printable_bit _) (by decide)).bind fun _ =>
      commandWith_keeps hwire (by decide) (printable_natText _) (by decide)
  | serialPoll primary secondary =>
    have hprimary := sound_say (s := "++spoll ") (by decide) (printable_natText primary.toNat)
    refine Attempt.Keeps.bind (ask_keeps hwire (sound_say hprimary ?_) ?_) fun _ => register_keeps _ _
    · cases secondary with
      | none => exact fun _ hc => nomatch hc
      | some secondary => exact Printable.append (by decide) (printable_natText _)
    · rw [String.append_assoc]
      exact neutral_say _ (by decide)
  | trigger addresses =>
    cases addresses with
    | nil => exact command_keeps hwire (by decide) (by decide)
    | cons a rest => exact triggerEach_keeps hwire _
  | clearStatus | setEventEnable | clearEventEnable => exact writeBytes_keeps hwire _
  | eventStatus | eventEnable => exact queryRegister_keeps hwire _
  | goToRemote | listenOnly | setListenOnly | statusByte => exact Attempt.keeps_same fun _ => rfl

end Controller

/-! ## Histories -/

namespace Controller

variable {ω : Type} [Wire ω]

/-- a command does not fail only on an open link, and leaves it open -/
theorem connected_of_command {s : String} {d d' : Controller ω} {delay : Nat} (h : command s d = ⟨d', delay, .ok ()⟩) :
    d'.connected = true := by
  have hleft : d'.connected = d.connected := (sendRaw_leaves (fun _ _ => rfl) _).link h
  rw [hleft]
  rw [command, sendRaw_apply] at h
  split at h
  case isTrue hopen => exact hopen
  case isFalse => cases h

theorem connected_of_setAddress {a : UInt8} {d d' : Controller ω} {delay : Nat} (hblank : d.Blank)
    (h : setAddress a d = ⟨d', delay, .ok ()⟩) : d'.connected = true := by
  unfold setAddress at h
  rw [Attempt.get_bind] at h
  by_cases ha : d.address = some a
  · simp only [ha, if_true] at h
    cases h
    refine Bool.not_eq_false _ ▸ fun hclosed => ?_
    rw [hblank hclosed] at ha
    cases ha
  · simp only [ha, if_false] at h
    obtain ⟨m, _, _, _, hcommand, hm⟩ := Attempt.ok_of_bind h
    cases hm
    exact (connected_of_command hcommand : m.connected = true)

/-- the calls that direct the box at a device -/
def directing (a : UInt8) : List Call := [.setAddress a, .clearDevice (some a), .goToLocal a]

/-- A call that directs the box at a device and does not fail leaves the link open, and the address remembered. -/
theorem remembered_of_directing {a : UInt8} {c : Call} (hc : c ∈ directing a) {d : Controller ω} (hblank : d.Blank)
    (h : ((Errand.call c).run d).result = .ok ()) :
    ((Errand.call c).run d).link.connected = true ∧ ((Errand.call c).run d).link.address = some a := by
  obtain ⟨m, _, _, _, hcall, hdone⟩ := Attempt.ok_of_bind (Attempt.eq_of_result h)
  obtain rfl : m = ((Errand.call c).run d).link := congrArg Outcome.link hdone
  -- a device is selected, and then a command may follow
  have hthen {s : String} {d' : Controller ω} {delay : Nat}
      (h : (setAddress a >>= fun _ => command s) d = ⟨d', delay, .ok ()⟩) :
      d'.connected = true ∧ d'.address = some a := by
    obtain ⟨m, _, _, _, hset, hcommand⟩ := Attempt.ok_of_bind h
    refine ⟨connected_of_command hcommand, ?_⟩
    rw [← address_of_setAddress hset]
    exact (sendRaw_address _).link hcommand
  simp only [directing, List.mem_cons, List.not_mem_nil, or_false] at hc
  rcases hc with rfl | rfl | rfl
  · exact ⟨connected_of_setAddress hblank hcall, address_of_setAddress hcall⟩
  · exact hthen hcall
  · exact hthen hcall

end Controller

section History

variable {ω : Type} [Wire ω] {heard : ω → Bytes}

/-- **Every errand keeps what the link remembers true**, however far it gets -/
theorem Errand.keeps_remembering (hwire : Wire.Hears heard) {before : Bytes} (e : Errand) :
    e.run.Keeps (Controller.Accounted (ω := ω) heard before) := by
  cases e with
  | call c => exact (Controller.call_keeps hwire c).bind fun _ => Attempt.keeps_same fun _ => rfl
  | restart => exact Controller.restart_keeps hwire

/-- What the box had heard when the link was opened that is open after some errands; of the link before them it was
`before`. As long as a link is closed, all that is heard is from before it is opened. -/
def openedAt (heard : ω → Bytes) : List Errand → Controller ω → (before : Bytes) → Bytes
  | [], _, before => before
  | e :: rest, d, before => openedAt heard rest (e.run d).link (if d.connected then before else heard d.wire)

/-- what the box had heard when the link was opened -/
def opened (heard : ω → Bytes) (errands : List Errand) (d : Controller ω) : Bytes :=
  openedAt heard errands d (heard d.wire)

/-- the messages that the box has heard since the link was opened -/
def received (heard : ω → Bytes) (errands : List Errand) (d : Controller ω) : List BoxMessage :=
  (BoxMessage.hear ((heard (runErrands errands d).wire).drop (opened heard errands d).length)).1

/-- the last address that the box was told since the link was opened and since it was restarted -/
def addressed (heard : ω → Bytes) (errands : List Errand) (d : Controller ω) : Option BoxMessage :=
  BoxMessage.lastOf "++addr" (BoxMessage.sinceRestart (received heard errands d))

/-- **After any errands there are messages that account for what was heard since the link was opened** -/
theorem accounted_runErrands (hwire : Wire.Hears heard) (errands : List Errand) {d : Controller ω} {before : Bytes}
    (h : d.Accounted heard before) :
    (runErrands errands d).Accounted heard (openedAt heard errands d before) := by
  induction errands generalizing d before with
  | nil => exact h
  | cons e rest ih =>
    refine ih (e.keeps_remembering hwire d ?_)
    split
    case isTrue => exact h
    case isFalse hclosed =>
      obtain ⟨_, h⟩ := h
      have hclosed : d.connected = false := Bool.eq_false_iff.2 hclosed
      exact Controller.accounted_closed hclosed (h.blank hclosed)

/-- the messages that account for what was heard are those received -/
theorem remembers_received (hwire : Wire.Hears heard) {d : Controller ω} (hclosed : d.connected = false)
    (haddress : d.address = none) (errands : List Errand) :
    (runErrands errands d).Remembers heard (opened heard errands d) (received heard errands d) := by
  have hstart : d.Accounted heard (heard d.wire) := Controller.accounted_closed hclosed haddress
  obtain ⟨told, h⟩ := accounted_runErrands hwire errands hstart
  have hreceived : received heard errands d = told := by
    rw [received, h.heard, opened, List.drop_left, BoxMessage.hear_lines h.sound]
  rwa [hreceived]

/-- **What a link remembers is what its box was told last.**

From a closed link, any calls and restarts are made one after another, and any line of them may fail to be sent. What
the box has heard since the link was opened are whole messages. While the link is open, an address that it remembers is
the last one among them that no restart has followed, and its terminator is the last one that the box was told. So a
call that directs the box at a device and does not fail leaves it directed there, even if it told it nothing. -/
theorem memory_is_true (hwire : Wire.Hears heard) {d : Controller ω} (hclosed : d.connected = false)
    (haddress : d.address = none) (errands : List Errand) :
    heard (runErrands errands d).wire =
        opened heard errands d ++ (received heard errands d).flatMap BoxMessage.line ∧
      ((runErrands errands d).connected = true →
        (∀ a, (runErrands errands d).address = some a →
          addressed heard errands d = some (Controller.addressMessage a)) ∧
        BoxMessage.lastOf "++eos" (received heard errands d) =
          some (Controller.say (Controller.terminatorCommand (runErrands errands d).terminator))) ∧
      ∀ a, ∀ c ∈ Controller.directing a, ((Errand.call c).run (runErrands errands d)).result = .ok () →
        addressed heard (errands ++ [.call c]) d = some (Controller.addressMessage a) := by
  have hall (errands : List Errand) := remembers_received hwire hclosed haddress errands
  refine ⟨(hall errands).heard, fun hopen => ?_, fun a c hc hok => ?_⟩
  · obtain ⟨haddressed, hterminator⟩ := (hall errands).agrees hopen
    exact ⟨haddressed, hterminator⟩
  · obtain ⟨hopen, hremembered⟩ := Controller.remembered_of_directing hc (hall errands).blank hok
    have hlast : runErrands (errands ++ [.call c]) d = ((Errand.call c).run (runErrands errands d)).link := by
      simp [runErrands]
    rw [← hlast] at hopen hremembered
    have hagrees := (hall (errands ++ [.call c])).agrees hopen
    exact hagrees.address a hremembered

end History

/-! ## A line that gets lost -/

/-- a wire that loses some of the next lines -/
structure PatchyWire where
  lost : List Bool := []
  arrived : Bytes := []
deriving DecidableEq, Repr

instance : Wire PatchyWire where
  dial w := (w, none)
  send data w := match w.lost with
    | [] => ({ w with arrived := w.arrived ++ data }, .ok ())
    | false :: rest => ({ lost := rest, arrived := w.arrived ++ data }, .ok ())
    | true :: rest => ({ w with lost := rest }, .error (.io "broken pipe"))
  hangUp w := w
  incoming _ := []
  putBack _ w := w

theorem hears_patchyWire : Wire.Hears PatchyWire.arrived where
  dial _ := rfl
  sent data w h := by
    obtain ⟨lost, arrived⟩ := w
    rcases lost with _ | ⟨_ | _, rest⟩
    · rfl
    · rfl
    · cases h
  unsent data w e h := by
    obtain ⟨lost, arrived⟩ := w
    rcases lost with _ | ⟨_ | _, rest⟩
    · cases h
    · cases h
    · rfl
  hangUp _ := rfl
  putBack _ _ := rfl

/-- a closed link whose seventh line gets lost -/
def patchyBox : Controller PatchyWire :=
  { name := "Box", endpoint := .usb { path := "/dev/ttyUSB0" }, wire := { lost := List.replicate 6 false ++ [true] } }

/-- an address that is told, and one that gets lost -/
def patchyErrands : List Errand := [.call .connect, .call (.setAddress 5), .call (.setAddress 7)]

/-- a restart and the first address again, and another connection with another terminator -/
def laterErrands : List Errand :=
  [.restart, .call (.setAddress 5), .call .disconnect, .call .connect, .call (.setTerminator .cr),
    .call (.setAddress 5)]

/-- **An address that got lost is not remembered**, and the others are what the box was told -/
theorem failed_address_is_forgotten :
    patchyBox.connected = false ∧ patchyBox.address = none ∧
      (runErrands patchyErrands patchyBox).address = some 5 ∧
      addressed PatchyWire.arrived patchyErrands patchyBox = some (Controller.addressMessage 5) ∧
      addressed PatchyWire.arrived (patchyErrands ++ [.call (.goToLocal 7)]) patchyBox =
        some (Controller.addressMessage 7) ∧
      (runErrands (patchyErrands ++ laterErrands) patchyBox).address = some 5 ∧
      addressed PatchyWire.arrived (patchyErrands ++ laterErrands) patchyBox = some (Controller.addressMessage 5) ∧
      BoxMessage.lastOf "++eos" (received PatchyWire.arrived (patchyErrands ++ laterErrands) patchyBox) =
        some (Controller.say "++eos 1") := by
  have hfirst := memory_is_true hears_patchyWire (d := patchyBox) rfl rfl patchyErrands
  have hlater := memory_is_true hears_patchyWire (d := patchyBox) rfl rfl (patchyErrands ++ laterErrands)
  have hlost : (runErrands patchyErrands patchyBox).address = some 5 := by decide +kernel
  have htold : (runErrands (patchyErrands ++ laterErrands) patchyBox).address = some 5 := by decide +kernel
  have hcr : (runErrands (patchyErrands ++ laterErrands) patchyBox).terminator = .cr := by decide +kernel
  have hopen := hlater.2.1 (by decide +kernel)
  rw [hcr] at hopen
  exact ⟨rfl, rfl, hlost, (hfirst.2.1 (by decide +kernel)).1 5 hlost,
    hfirst.2.2 7 (.goToLocal 7) (by decide) (by decide +kernel), htold, hopen.1 5 htold, hopen.2⟩

end CalBench
