/-
What a controller box is told, and that it cannot be misled.

A box tells commands from data by the bytes that it receives: an escape quotes the byte after it, a line feed that is
not quoted ends a line, and a line that begins with two plus signs that are not quoted is a command. `BoxMessage.hear`
is such a box. What a link tells its box is a list of messages; `Controller.messages` says for every call which.

Results:
- `hear_lines`: any commands and any data, sent in any order, are heard as they were sent;
- `Controller.messages_sound`: the commands that links send cannot be broken up or taken for data;
- `Controller.call_tells`, `Controller.restart_tells`: what a call sends are its messages, all of them unless it fails;
- `box_is_told`: whatever calls are made one after another, the box hears exactly what it was told.
Witness:
- `plus_signs_are_heard`: data that looks like commands, with commands before and after it.
-/
import CalBench.Link.Controller
import CalBench.Proofs.Link.Heard

namespace CalBench

/-! ## Lines -/

/-- what a controller box can be told -/
inductive BoxMessage
  | command (text : Bytes)
  | data (bytes : Bytes)
deriving DecidableEq, Repr

/-- a byte on a line, and whether it was quoted -/
structure LineByte where
  byte : UInt8
  quoted : Bool := false
deriving DecidableEq, Repr

/-- the byte that ends a line -/
def LineByte.stop : LineByte := { byte := 10 }

namespace BoxMessage

def line : BoxMessage → Bytes
  | .command text => text ++ [10]
  | .data bytes => Controller.escape bytes ++ [10]

/-- A command begins with two plus signs and holds neither escapes nor line feeds. Data may be anything. -/
def Sound : BoxMessage → Prop
  | .command text => [43, 43] <+: text ∧ Controller.escapeByte ∉ text ∧ 10 ∉ text
  | .data _ => True

instance : DecidablePred Sound
  | .command text => inferInstanceAs (Decidable ([43, 43] <+: text ∧ Controller.escapeByte ∉ text ∧ 10 ∉ text))
  | .data _ => inferInstanceAs (Decidable True)

/-! ## The box -/

/-- takes the escapes off; `quoting` says that an escape came before -/
def unquote : (quoting : Bool) → Bytes → List LineByte
  | _, [] => []
  | true, b :: rest => ⟨b, true⟩ :: unquote false rest
  | false, b :: rest => if b = Controller.escapeByte then unquote true rest else ⟨b, false⟩ :: unquote false rest

/-- the lines that have ended, and the one that has not; `before` is what has come of it -/
def lines (before : List LineByte) : List LineByte → List (List LineByte) × List LineByte
  | [] => ([], before)
  | b :: rest =>
    if b = .stop then
      let (more, last) := lines [] rest
      (before :: more, last)
    else lines (before ++ [b]) rest

/-- what a line means -/
def ofLine (l : List LineByte) : BoxMessage :=
  if [⟨43, false⟩, ⟨43, false⟩] <+: l then .command (l.map LineByte.byte) else .data (l.map LineByte.byte)

/-- what a box hears: messages, and the line that has not ended -/
def hear (bytes : Bytes) : List BoxMessage × List LineByte :=
  let (ended, last) := lines [] (unquote false bytes)
  (ended.map ofLine, last)

/-! ## What is sent is heard -/

/-- data as it stands on a line: what had to be escaped is quoted -/
def quotedData (data : Bytes) : List LineByte := data.map fun b => ⟨b, Controller.needsEscape b⟩

def plainText (text : Bytes) : List LineByte := text.map fun b => ⟨b, false⟩

theorem unquote_data (data rest : Bytes) :
    unquote false (Controller.escape data ++ rest) = quotedData data ++ unquote false rest := by
  induction data with
  | nil => rfl
  | cons b data ih =>
    rw [Controller.escape, List.flatMap_cons, List.append_assoc, quotedData, List.map_cons, List.cons_append]
    rw [Controller.escape, quotedData] at ih
    cases hb : Controller.needsEscape b with
    | true => simp [unquote, ih]
    | false =>
      have hescape : b ≠ Controller.escapeByte := by
        rintro rfl
        cases hb
      simp [unquote, hescape, ih]

theorem unquote_text {text : Bytes} (h : Controller.escapeByte ∉ text) (rest : Bytes) :
    unquote false (text ++ rest) = plainText text ++ unquote false rest := by
  induction text with
  | nil => rfl
  | cons b text ih =>
    obtain ⟨hb, htext⟩ := List.ne_and_not_mem_of_not_mem_cons h
    simp [unquote, Ne.symm hb, ih htext, plainText]

theorem lines_ended {l : List LineByte} (h : .stop ∉ l) (before rest : List LineByte) :
    lines before (l ++ .stop :: rest) = ((before ++ l) :: (lines [] rest).1, (lines [] rest).2) := by
  induction l generalizing before with
  | nil => simp [lines]
  | cons b l ih =>
    obtain ⟨hb, hl⟩ := List.ne_and_not_mem_of_not_mem_cons h
    simp [lines, Ne.symm hb, ih hl]

theorem quoted_of_mem {data : Bytes} {b : LineByte} (h : b ∈ quotedData data) :
    b.quoted = Controller.needsEscape b.byte := by
  obtain ⟨c, -, rfl⟩ := List.mem_map.1 h
  rfl

/-- how a message stands on its line -/
def onLine : BoxMessage → List LineByte
  | .command text => plainText text
  | .data bytes => quotedData bytes

theorem unquote_line {m : BoxMessage} (h : m.Sound) (rest : Bytes) :
    unquote false (m.line ++ rest) = m.onLine ++ .stop :: unquote false rest := by
  cases m with
  | command text => rw [line, List.append_assoc, unquote_text h.2.1]; rfl
  | data bytes => rw [line, List.append_assoc, unquote_data]; rfl

/-- no line ends before its end -/
theorem stop_not_mem_onLine {m : BoxMessage} (h : m.Sound) : .stop ∉ m.onLine := by
  cases m with
  | command text => simpa [onLine, plainText, LineByte.stop] using h.2.2
  | data bytes => exact fun hmem => nomatch quoted_of_mem hmem

/-- no data is taken for a command, and no command for data -/
theorem ofLine_onLine {m : BoxMessage} (h : m.Sound) : ofLine m.onLine = m := by
  cases m with
  | command text =>
    obtain ⟨rest, rfl⟩ := h.1
    simp [ofLine, onLine, plainText, Function.comp_def]
  | data bytes =>
    have hplus : ¬ [⟨43, false⟩, ⟨43, false⟩] <+: quotedData bytes := by
      intro hfront
      have hmem : (⟨43, false⟩ : LineByte) ∈ quotedData bytes := hfront.subset List.mem_cons_self
      exact nomatch quoted_of_mem hmem
    rw [onLine, ofLine, if_neg hplus]
    simp [quotedData, Function.comp_def]

/-- **Any commands and any data are heard as they were sent**, one after another in any order -/
theorem hear_lines {messages : List BoxMessage} (h : ∀ m ∈ messages, m.Sound) :
    hear (messages.flatMap line) = (messages, []) := by
  suffices hlines : lines [] (unquote false (messages.flatMap line)) = (messages.map onLine, []) by
    rw [hear, hlines]
    have hback : messages.map (ofLine ∘ onLine) = messages.map id :=
      List.map_congr_left fun m hm => ofLine_onLine (h m hm)
    simp [hback]
  induction messages with
  | nil => rfl
  | cons m messages ih =>
    obtain ⟨hm, hmessages⟩ := List.forall_mem_cons.1 h
    rw [List.flatMap_cons, unquote_line hm, lines_ended (stop_not_mem_onLine hm), ih hmessages]
    rfl

end BoxMessage

namespace Controller

/-! ## What calls tell the box -/

def say (s : String) : BoxMessage := .command (Text.utf8 s)

def pass (s : String) : BoxMessage := .data (Text.utf8 s)

def setUpMessages (t : Terminator) : List BoxMessage :=
  [say "++savecfg 0", say "++auto 0", say "++mode 1", say "++ifc", say (terminatorCommand t)]

/-- what a request for a register and for its answer is -/
def registerMessages (s : String) : List BoxMessage := [pass s, say "++read eoi"]

variable {ω : Type}

/-- what directs the box at a device; it is not told the address that it was told last -/
def addressing (d : Controller ω) (a : UInt8) : List BoxMessage :=
  if d.address = some a then [] else [say ("++addr " ++ Number.natText a.toNat)]

/-- what a call tells the box, if it does not fail -/
def messages (d : Controller ω) : Call → List BoxMessage
  | .connect => if d.connected then [] else setUpMessages d.terminator
  | .setTerminator t => if d.connected then [say (terminatorCommand t)] else []
  | .writeBytes data => [.data data]
  | .writeString s => [pass s]
  | .read _ => [say "++read eoi"]
  | .setAddress a => d.addressing a
  | .clearDevice none => [say "++clr"]
  | .clearDevice (some a) => d.addressing a ++ [say "++clr"]
  | .endOfInstruction => [say "++eoi"]
  | .setEndOfInstruction enabled => [say ("++eoi " ++ bit enabled)]
  | .endOfTransmission => [say "++eot_enable", say "++eot_char"]
  | .setEndOfTransmission s =>
    [say ("++eot_enable " ++ bit s.enabled), say ("++eot_char " ++ Number.natText s.character.toNat)]
  | .takeControl => [say "++ifc"]
  | .goToLocal a => d.addressing a ++ [say "++loc"]
  | .reset => [say "++ifc"]
  | .serialPoll primary none => [say ("++spoll " ++ Number.natText primary.toNat)]
  | .serialPoll primary (some secondary) =>
    [say ("++spoll " ++ Number.natText primary.toNat ++ " " ++ Number.natText secondary.toNat)]
  | .trigger [] => [say "++trg"]
  | .trigger addresses => (triggerGroups addresses).map fun group => say ("++trg " ++ addressList group)
  | .clearStatus => [pass "*CLS"]
  | .eventStatus => registerMessages "*ESR?"
  | .eventEnable => registerMessages "*ESE?"
  | .setEventEnable mask => [pass ("*ESE " ++ Number.natText mask.toNat)]
  | .clearEventEnable => [pass "*ESE 0"]
  | .disconnect | .goToRemote _ | .listenOnly | .setListenOnly _ | .statusByte => []

/-! ## Commands are sound -/

def Printable (s : String) : Prop := ∀ c ∈ s.toList, 32 ≤ c.toNat ∧ c.toNat < 128

instance : DecidablePred Printable := fun s =>
  List.decidableBAll (fun c : Char => 32 ≤ c.toNat ∧ c.toNat < 128) s.toList

/-- numbers are written in digits -/
theorem digit_of_mem_natText {n : Nat} {c : Char} (hc : c ∈ (Number.natText n).toList) :
    48 ≤ c.toNat ∧ c.toNat ≤ 57 := by
  rw [Number.natText, String.toList_ofList] at hc
  have hdigit := Nat.isDigit_of_mem_toDigits (by decide) (by decide) hc
  simp only [Char.isDigit, Bool.and_eq_true, decide_eq_true_eq] at hdigit
  exact hdigit

theorem printable_natText (n : Nat) : Printable (Number.natText n) := by
  intro c hc
  have hdigit := digit_of_mem_natText hc
  omega

theorem printable_bit (b : Bool) : Printable (bit b) := by
  cases b <;> decide

theorem mem_intersperse {α : Type} {between x : α} {l : List α} (h : x ∈ l.intersperse between) :
    x = between ∨ x ∈ l := by
  fun_induction List.intersperse between l with
  | case1 => cases h
  | case2 y => exact .inr h
  | case3 y rest _ ih =>
    rcases List.mem_cons.1 h with rfl | h
    · exact .inr List.mem_cons_self
    · rcases List.mem_cons.1 h with rfl | h
      · exact .inl rfl
      · exact (ih h).imp_right (List.mem_cons_of_mem y)

theorem printable_addressList (addresses : List UInt8) : Printable (addressList addresses) := by
  intro c hc
  rw [addressList, String.toList_intercalate, List.map_map] at hc
  obtain ⟨part, hpart, hmem⟩ := List.mem_flatten.1 hc
  rcases mem_intersperse hpart with rfl | hpart
  · obtain rfl : c = ' ' := by simpa using hmem
    decide
  · obtain ⟨a, -, rfl⟩ := List.mem_map.1 hpart
    exact printable_natText a.toNat c hmem

theorem utf8_append (s t : String) : Text.utf8 (s ++ t) = Text.utf8 s ++ Text.utf8 t := by
  simp [Text.utf8, String.toList_append]

/-- a printable text has no control characters among its bytes -/
theorem Printable.bytes {s : String} (h : Printable s) {b : UInt8} (hb : b ∈ Text.utf8 s) : 32 ≤ b.toNat := by
  obtain ⟨c, hc, hbc⟩ := List.mem_flatMap.1 hb
  obtain ⟨hlow, hhigh⟩ := h c hc
  obtain rfl : b = c.toNat.toUInt8 := by simpa [Text.utf8Char, hhigh] using hbc
  rw [Nat.toUInt8, UInt8.toNat_ofNat']
  omega

/-- a text that goes on after two plus signs is a sound command if nothing in it can break up the line -/
theorem sound_say {s t : String} (hs : (say s).Sound) (ht : Printable t) : (say (s ++ t)).Sound := by
  obtain ⟨hplus, hescape, hstop⟩ := hs
  refine ⟨?_, ?_, ?_⟩
  · rw [utf8_append]
    exact hplus.trans (List.prefix_append _ _)
  · rw [utf8_append, List.mem_append]
    exact not_or.2 ⟨hescape, fun hb => absurd (ht.bytes hb) (by decide)⟩
  · rw [utf8_append, List.mem_append]
    exact not_or.2 ⟨hstop, fun hb => absurd (ht.bytes hb) (by decide)⟩

theorem sound_terminatorCommand (t : Terminator) : (say (terminatorCommand t)).Sound :=
  sound_say (by decide) (printable_natText _)

theorem sound_setUp (t : Terminator) : ∀ m ∈ setUpMessages t, m.Sound := by
  cases t <;> decide

theorem sound_addressing (d : Controller ω) (a : UInt8) : ∀ m ∈ d.addressing a, m.Sound := by
  unfold addressing
  split
  · simp
  · simpa using sound_say (by decide) (printable_natText _)

/-- **What links tell their boxes is sound** -/
theorem messages_sound (d : Controller ω) (c : Call) : ∀ m ∈ d.messages c, m.Sound := by
  have hone {m : BoxMessage} (h : m.Sound) : ∀ m' ∈ [m], m'.Sound := List.forall_mem_singleton.2 h
  have hboth {l l' : List BoxMessage} (h : ∀ m ∈ l, m.Sound) (h' : ∀ m ∈ l', m.Sound) : ∀ m ∈ l ++ l', m.Sound :=
    List.forall_mem_append.2 ⟨h, h'⟩
  cases c with
  | connect =>
    simp only [messages]
    split
    · simp
    · exact sound_setUp _
  | setTerminator t =>
    simp only [messages]
    split
    · exact hone (sound_terminatorCommand t)
    · simp
  | writeBytes | writeString | clearStatus | setEventEnable | clearEventEnable => exact hone trivial
  | read | endOfInstruction | takeControl | reset => exact hone (by decide)
  | setAddress a => exact sound_addressing d a
  | clearDevice a =>
    cases a with
    | none => exact hone (by decide)
    | some a => exact hboth (sound_addressing d a) (hone (by decide))
  | goToLocal a => exact hboth (sound_addressing d a) (hone (by decide))
  | setEndOfInstruction enabled => exact hone (sound_say (by decide) (printable_bit _))
  | endOfTransmission => exact hboth (l := [_]) (hone (by decide)) (hone (by decide))
  | setEndOfTransmission s =>
    exact hboth (l := [_]) (hone (sound_say (by decide) (printable_bit _)))
      (hone (sound_say (by decide) (printable_natText _)))
  | serialPoll primary secondary =>
    have hprimary := sound_say (s := "++spoll ") (by decide) (printable_natText primary.toNat)
    cases secondary with
    | none => exact hone hprimary
    | some secondary =>
      exact hone (sound_say (sound_say hprimary (t := " ") (by decide)) (printable_natText secondary.toNat))
  | trigger addresses =>
    cases addresses with
    | nil => exact hone (by decide)
    | cons a rest =>
      intro m hm
      obtain ⟨group, -, rfl⟩ := List.mem_map.1 hm
      exact sound_say (by decide) (printable_addressList group)
  | eventStatus | eventEnable => exact hboth (l := [_]) (hone trivial) (hone (by decide))
  | disconnect | goToRemote | listenOnly | setListenOnly | statusByte => simp [messages]

/-! ## What calls send -/

/-- what an attempt on a controller tells its box -/
def Tells {α : Type} (heard : ω → Bytes) (a : Attempt (Controller ω) α) (d : Controller ω) (told : List BoxMessage) :
    Prop := a.Sends (fun d => heard d.wire) d (told.map BoxMessage.line)

section Telling

variable {heard : ω → Bytes} {α β : Type} {a : Attempt (Controller ω) α} {d : Controller ω}
  {told more : List BoxMessage}

theorem tells_nothing (h : heard (a d).link.wire = heard d.wire) : Tells heard a d [] := Attempt.sends_nothing h

theorem Tells.bind {f : α → Attempt (Controller ω) β} (ha : Tells heard a d told)
    (hf : ∀ d' delay x, a d = ⟨d', delay, .ok x⟩ → Tells heard (f x) d' more) :
    Tells heard (a >>= f) d (told ++ more) := by
  rw [Tells, List.map_append]
  exact Attempt.Sends.bind ha hf

/-- what follows tells nothing -/
theorem Tells.quietly {f : α → Attempt (Controller ω) β} (ha : Tells heard a d told)
    (hf : ∀ d' delay x, a d = ⟨d', delay, .ok x⟩ → Tells heard (f x) d' []) : Tells heard (a >>= f) d told := by
  simpa using ha.bind hf

theorem Tells.of_eq {a' : Attempt (Controller ω) α} (h : a d = a' d) (ha : Tells heard a' d told) :
    Tells heard a d told := by
  unfold Tells Attempt.Sends at *
  rw [h]
  exact ha

theorem tells_get {f : Controller ω → Attempt (Controller ω) β} (h : Tells heard (f d) d told) :
    Tells heard (Attempt.get >>= f) d told := h.of_eq (Attempt.get_bind f d)

theorem register_tells (text what : String) (d : Controller ω) : Tells heard (register text what) d [] := by
  unfold register
  split <;> exact tells_nothing rfl

end Telling

variable [Wire ω] {heard : ω → Bytes}

theorem sendRaw_apply (data : Bytes) (d : Controller ω) :
    sendRaw data d =
      if d.connected then
        { link := { d with wire := (Wire.send data d.wire).1 }, result := (Wire.send data d.wire).2 }
      else { link := d, result := .error .notConnected } := by
  cases hc : d.connected with
  | false => simp [sendRaw, Attempt.bind_apply, hc]
  | true => simp [sendRaw, Attempt.bind_apply, hc]

theorem sendRaw_sends (hwire : Wire.Hears heard) (data : Bytes) (d : Controller ω) :
    (sendRaw data).Sends (fun d => heard d.wire) d [data] := by
  have h := sendRaw_apply data d
  cases hc : d.connected with
  | false =>
    rw [hc] at h
    exact Attempt.sends_failed (by rw [h]; rfl) (by rw [h]; rfl) _
  | true =>
    rw [hc] at h
    exact Attempt.sends_over hwire Controller.wire (by rw [h]; rfl) (by rw [h]; rfl)

theorem command_tells (hwire : Wire.Hears heard) (s : String) (d : Controller ω) :
    Tells heard (command s) d [say s] := sendRaw_sends hwire _ d

/-- sending changes the wire alone -/
theorem sendRaw_leaves {γ : Type} {field : Controller ω → γ}
    (hfield : ∀ (d : Controller ω) wire, field { d with wire } = field d) (data : Bytes) :
    (sendRaw data).Leaves field := by
  intro d
  rw [sendRaw_apply]
  split
  · exact hfield d _
  · rfl

theorem command_leaves (s : String) : (command (ω := ω) s).Leaves terminator := sendRaw_leaves (fun _ _ => rfl) _

theorem writeBytes_tells (hwire : Wire.Hears heard) (data : Bytes) (d : Controller ω) :
    Tells heard (writeBytes data) d [.data data] := sendRaw_sends hwire _ d

theorem writeString_tells (hwire : Wire.Hears heard) (s : String) (d : Controller ω) :
    Tells heard (writeString s) d [pass s] := writeBytes_tells hwire _ d

theorem receiveFrame_tells (hwire : Wire.Hears heard) (t : Terminator) (mode : ReadMode) (d : Controller ω) :
    Tells heard (receiveFrame t mode) d [] := by
  refine tells_nothing ?_
  unfold receiveFrame
  split
  · exact hwire.putBack _ _
  · rfl

theorem ask_tells (hwire : Wire.Hears heard) (s : String) (d : Controller ω) : Tells heard (ask s) d [say s] :=
  (command_tells hwire s d).quietly fun d' _ _ _ =>
    (receiveFrame_tells hwire .lf .terminated d').quietly fun _ _ _ _ => tells_nothing rfl

theorem read_tells (hwire : Wire.Hears heard) (mode : ReadMode) (d : Controller ω) :
    Tells heard (read mode) d [say "++read eoi"] :=
  (command_tells hwire _ d).quietly fun d' _ _ _ => tells_get (receiveFrame_tells hwire _ mode d')

theorem setAddress_tells (hwire : Wire.Hears heard) (a : UInt8) (d : Controller ω) :
    Tells heard (setAddress a) d (d.addressing a) := by
  refine tells_get ?_
  unfold addressing
  split
  · exact tells_nothing rfl
  · exact (command_tells hwire _ d).quietly fun _ _ _ _ => tells_nothing rfl

theorem setUp_tells (hwire : Wire.Hears heard) (d : Controller ω) :
    Tells heard setUp d (setUpMessages d.terminator) := by
  refine (command_tells hwire _ d).bind fun d₁ _ _ h₁ => ?_
  refine (command_tells hwire _ d₁).bind fun d₂ _ _ h₂ => ?_
  refine (command_tells hwire _ d₂).bind fun d₃ _ _ h₃ => ?_
  refine (command_tells hwire _ d₃).bind fun d₄ _ _ h₄ => tells_get ?_
  have hkept : d₄.terminator = d.terminator :=
    ((command_leaves _).link h₄).trans (((command_leaves _).link h₃).trans
      (((command_leaves _).link h₂).trans ((command_leaves _).link h₁)))
  rw [← hkept]
  exact command_tells hwire _ d₄

def restartMessages (d : Controller ω) : List BoxMessage := say "++rst" :: setUpMessages d.terminator

theorem restart_tells (hwire : Wire.Hears heard) (d : Controller ω) : Tells heard restart d d.restartMessages := by
  refine (command_tells hwire _ d).bind fun d₁ _ _ h₁ => ?_
  rw [← (command_leaves _).link h₁]
  exact (tells_nothing rfl).bind fun d₂ _ _ h₂ => by
    cases h₂
    exact setUp_tells hwire _

theorem orHangUp_tells (hwire : Wire.Hears heard) {a : Attempt (Controller ω) Unit} {d : Controller ω}
    {told : List BoxMessage} (ha : Tells heard a d told) : Tells heard (orHangUp a) d told := by
  obtain ⟨sent, hfront, hheard, hall⟩ := ha
  rcases h : a d with ⟨d', delay, e | u⟩
  · refine ⟨sent, hfront, ?_, ?_⟩
    · rw [h] at hheard
      simp only [orHangUp, h]
      rw [hwire.hangUp]
      exact hheard
    · simp [orHangUp, h]
  · have hsame : orHangUp a d = a d := by simp [orHangUp, h]
    exact ⟨sent, hfront, by rw [hsame]; exact hheard, by rw [hsame]; exact hall⟩

theorem connect_tells (hwire : Wire.Hears heard) (d : Controller ω) :
    Tells heard connect d (if d.connected then [] else setUpMessages d.terminator) := by
  refine tells_get ?_
  split
  · exact tells_nothing rfl
  · have hdial := hwire.dial d.wire
    rcases hd : Wire.dial d.wire with ⟨wire, _ | reason⟩
    all_goals rw [hd] at hdial
    · refine (tells_nothing hdial).bind fun d' _ _ h => ?_
      cases h
      exact orHangUp_tells hwire (setUp_tells hwire _)
    · exact Attempt.sends_failed hdial rfl _

theorem triggerEach_tells (hwire : Wire.Hears heard) (groups : List (List UInt8)) (d : Controller ω) :
    Tells heard (triggerEach groups) d (groups.map fun group => say ("++trg " ++ addressList group)) := by
  induction groups generalizing d with
  | nil => exact tells_nothing rfl
  | cons group rest ih => exact (command_tells hwire _ d).bind fun d' _ _ _ => ih d'

theorem queryRegister_tells (hwire : Wire.Hears heard) (s : String) (d : Controller ω) :
    Tells heard (Attempt.queryRegister writeString (read .terminated) s) d (registerMessages s) := by
  refine (writeString_tells hwire s d).bind fun d₁ _ _ _ => ?_
  refine (read_tells hwire .terminated d₁).quietly fun d₂ _ answer _ => ?_
  dsimp only
  split <;> exact tells_nothing rfl

/-- **What a call sends are its messages**, all of them unless it fails -/
theorem call_tells (hwire : Wire.Hears heard) (c : Call) (d : Controller ω) :
    Tells heard (call c) d (d.messages c) := by
  cases c with
  | connect => exact connect_tells hwire d
  | disconnect =>
    refine tells_nothing ?_
    change heard (if d.connected then Wire.hangUp d.wire else d.wire) = _
    split
    · exact hwire.hangUp _
    · rfl
  | setTerminator t =>
    refine tells_get ?_
    simp only [messages]
    split
    · exact (command_tells hwire _ d).quietly fun _ _ _ _ => tells_nothing rfl
    · exact tells_nothing rfl
  | writeBytes data => exact writeBytes_tells hwire data d
  | writeString s => exact writeString_tells hwire s d
  | read mode => exact read_tells hwire mode d
  | setAddress a => exact setAddress_tells hwire a d
  | clearDevice a =>
    cases a with
    | none => exact command_tells hwire _ d
    | some a => exact (setAddress_tells hwire a d).bind fun d' _ _ _ => command_tells hwire _ d'
  | goToLocal a => exact (setAddress_tells hwire a d).bind fun d' _ _ _ => command_tells hwire _ d'
  | endOfInstruction => exact (ask_tells hwire _ d).quietly fun _ _ _ _ => tells_nothing rfl
  | takeControl | reset | setEndOfInstruction => exact command_tells hwire _ d
  | endOfTransmission =>
    refine (ask_tells hwire _ d).bind fun d₁ _ _ _ => ?_
    refine (ask_tells hwire _ d₁).quietly fun d₂ _ _ _ => ?_
    exact (register_tells _ _ d₂).quietly fun _ _ _ _ => tells_nothing rfl
  | setEndOfTransmission s =>
    exact (command_tells hwire _ d).bind fun d₁ _ _ _ => command_tells hwire _ d₁
  | serialPoll primary secondary =>
    cases secondary with
    | none =>
      have htext (s : String) : s = s ++ "" := String.append_empty.symm
      rw [messages, htext ("++spoll " ++ _)]
      exact (ask_tells hwire _ d).quietly fun d' _ _ _ => register_tells _ _ d'
    | some secondary =>
      have htext (s t u : String) : s ++ t ++ u = s ++ (t ++ u) := String.append_assoc
      rw [messages, htext _ " "]
      exact (ask_tells hwire _ d).quietly fun d' _ _ _ => register_tells _ _ d'
  | trigger addresses =>
    cases addresses with
    | nil => exact command_tells hwire _ d
    | cons a rest => exact triggerEach_tells hwire _ d
  | clearStatus | setEventEnable | clearEventEnable => exact writeString_tells hwire _ d
  | eventStatus | eventEnable => exact queryRegister_tells hwire _ d
  | goToRemote | listenOnly | setListenOnly | statusByte => exact tells_nothing rfl

end Controller

/-! ## Conversations -/

inductive Errand
  | call (c : Call)
  | restart
deriving DecidableEq, Repr

section Conversation

variable {ω : Type}

/-- what an errand tells the box, if it does not fail -/
def Errand.messages (d : Controller ω) : Errand → List BoxMessage
  | .call c => d.messages c
  | .restart => d.restartMessages

theorem Errand.messages_sound (d : Controller ω) (e : Errand) : ∀ m ∈ e.messages d, m.Sound := by
  cases e with
  | call c => exact d.messages_sound c
  | restart => exact List.forall_mem_cons.2 ⟨by decide, Controller.sound_setUp _⟩

variable [Wire ω]

def Errand.run : Errand → Attempt (Controller ω) Unit
  | .call c => do let _ ← Controller.call c
  | .restart => Controller.restart

def runErrands (errands : List Errand) (d : Controller ω) : Controller ω :=
  errands.foldl (fun d e => (e.run d).link) d

/-- messages that errands tell the box one after another: of each errand all of them, or those up to where it failed -/
inductive Told : List Errand → Controller ω → List BoxMessage → Prop
  | done (d : Controller ω) : Told [] d []
  | next {e : Errand} {rest : List Errand} {d : Controller ω} {said more : List BoxMessage} :
    said <+: e.messages d → ((e.run d).result = .ok () → said = e.messages d) → Told rest (e.run d).link more →
    Told (e :: rest) d (said ++ more)

variable {heard : ω → Bytes}

theorem Errand.run_tells (hwire : Wire.Hears heard) (e : Errand) (d : Controller ω) :
    Controller.Tells heard e.run d (e.messages d) := by
  cases e with
  | call c => exact (Controller.call_tells hwire c d).quietly fun _ _ _ _ => Controller.tells_nothing rfl
  | restart => exact Controller.restart_tells hwire d

theorem Told.sound {errands : List Errand} {d : Controller ω} {told : List BoxMessage} (h : Told errands d told) :
    ∀ m ∈ told, m.Sound := by
  induction h with
  | done => simp
  | next hfront _ _ ih =>
    exact List.forall_mem_append.2 ⟨fun m hm => Errand.messages_sound _ _ m (hfront.subset hm), ih⟩

/-- what is heard of errands is what they tell the box -/
theorem runErrands_told (hwire : Wire.Hears heard) (errands : List Errand) (d : Controller ω) :
    ∃ told, Told errands d told ∧
      heard (runErrands errands d).wire = heard d.wire ++ told.flatMap BoxMessage.line := by
  induction errands generalizing d with
  | nil => exact ⟨[], .done d, by simp [runErrands]⟩
  | cons e rest ih =>
    obtain ⟨sent, hfront, hheard, hall⟩ := e.run_tells hwire d
    obtain ⟨said, hsaid, rfl⟩ := List.prefix_map_iff.1 hfront
    obtain ⟨more, hmore, hrest⟩ := ih (e.run d).link
    have hwhole : (e.run d).result = .ok () → said = e.messages d := fun hok => by
      have hlength := congrArg List.length (hall () hok)
      rw [List.length_map, List.length_map] at hlength
      exact hsaid.eq_of_length hlength
    refine ⟨said ++ more, .next hsaid hwhole hmore, ?_⟩
    have hheard : heard (e.run d).link.wire = heard d.wire ++ said.flatMap BoxMessage.line := hheard
    rw [runErrands, List.foldl_cons, ← runErrands, hrest, hheard, List.flatMap_append, List.append_assoc]

/-- **A controller box hears what it is told, and cannot be misled by data.**

Any commands and any data, sent in any order, are recovered from the bytes by a box that takes an escape for a quote, a
line feed that is not quoted for the end of a line, and a line that begins with two plus signs that are not quoted for a
command. And whatever a link is asked to do, one call after another, the bytes that reach its box are the lines of what
the calls have to tell it, and the box recovers these messages and no others. -/
theorem box_is_told (hwire : Wire.Hears heard) :
    (∀ messages : List BoxMessage, (∀ m ∈ messages, m.Sound) →
      BoxMessage.hear (messages.flatMap BoxMessage.line) = (messages, [])) ∧
    ∀ (errands : List Errand) (d : Controller ω), ∃ told, Told errands d told ∧
      heard (runErrands errands d).wire = heard d.wire ++ told.flatMap BoxMessage.line ∧
      BoxMessage.hear (told.flatMap BoxMessage.line) = (told, []) := by
  constructor
  · intro messages h
    exact BoxMessage.hear_lines h
  · intro errands d
    obtain ⟨told, htold, hheard⟩ := runErrands_told hwire errands d
    exact ⟨told, htold, hheard, BoxMessage.hear_lines htold.sound⟩

end Conversation

def quietBox : Controller ScriptedPeer :=
  { name := "Box", endpoint := .usb { path := "/dev/ttyUSB0" }, wire := {}, connected := true }

/-- data that looks like commands, line ends and nothing, with commands before and after it -/
def plusErrands : List Errand :=
  [.call (.setAddress 5), .call (.writeBytes [43, 43, 114, 115, 116, 10]), .call (.setAddress 5),
    .call (.writeBytes []), .call (.writeBytes [27, 10, 43, 43]), .call (.trigger [5, 22])]

/-- **Data that looks like commands is heard as data** -/
theorem plus_signs_are_heard :
    Told plusErrands quietBox
        [Controller.say "++addr 5", .data [43, 43, 114, 115, 116, 10], .data [], .data [27, 10, 43, 43],
          Controller.say "++trg 5 22"] ∧
      BoxMessage.hear (runErrands plusErrands quietBox).wire.heard =
        ([Controller.say "++addr 5", .data [43, 43, 114, 115, 116, 10], .data [], .data [27, 10, 43, 43],
          Controller.say "++trg 5 22"], []) := by
  have hhear : BoxMessage.hear (runErrands plusErrands quietBox).wire.heard =
      ([Controller.say "++addr 5", .data [43, 43, 114, 115, 116, 10], .data [], .data [27, 10, 43, 43],
        Controller.say "++trg 5 22"], []) := by decide +kernel
  obtain ⟨told, htold, hheard, hrecovered⟩ := (box_is_told ScriptedPeer.hears_scriptedPeer).2 plusErrands quietBox
  rw [show quietBox.wire.heard = [] from rfl, List.nil_append] at hheard
  rw [← hheard, hhear] at hrecovered
  cases hrecovered
  exact ⟨htold, hhear⟩

end CalBench
